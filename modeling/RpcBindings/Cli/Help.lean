import RpcBindings.Export.Write

namespace RpcBindings.Cli

def unlines (lines : List String) : String := String.join (lines.map (· ++ "\n"))

def usage : String :=
  unlines [
    "usage: connectvue [-h] [--version] -d PATH [-o DIR] [--dry-run] [--clean]",
    "                  [--no-manifest] [--output-root PREFIX]",
    "                  [--hook-prefix PREFIX] [--template-dir DIR] [--base-url URL]",
    "                  [-v] [-q]"]

def help : String :=
  usage ++ unlines [
    "",
    "Generate Vue Query bindings for a Connect service.",
    "",
    "Reads a descriptor document (YAML/JSON) or a binary CodeGeneratorRequest and writes client.ts, "
      ++ "api.ts and index.ts.",
    "",
    "options:",
    "  -h, --help            show this help message and exit",
    "  --version             show program's version number and exit",
    "  -d PATH, --descriptor PATH",
    "                        Descriptor document (.yaml/.yml/.json) or",
    "                        CodeGeneratorRequest (.bin/.pb).",
    "  -o DIR, --output DIR  Output directory. Required unless --dry-run is set.",
    "",
    "operation modes:",
    "  --dry-run             Render everything but don't write files.",
    "  --clean               Clean the output directory before writing.",
    "  --no-manifest         Don't write manifest.json.",
    "",
    "configuration overrides:",
    "  --output-root PREFIX  Import prefix of generated message modules (default",
    "                        ./gen).",
    "  --hook-prefix PREFIX  Prefix of generated composables (default 'use').",
    "  --template-dir DIR    Directory with template overrides.",
    "  --base-url URL        Default transport base URL.",
    "",
    "verbosity:",
    "  -v, --verbose         Increase verbosity (-v for INFO, -vv for DEBUG).",
    "  -q, --quiet           Suppress all output except the report.",
    "",
    "Examples:",
    "  connectvue -d tickets.yaml -o ./src/api",
    "  connectvue -d request.bin -o ./src/api --clean",
    "  connectvue -d tickets.yaml --dry-run"]

def versionText : String := "protoc-gen-connect-vue v" ++ Export.version ++ "\n"

end RpcBindings.Cli
