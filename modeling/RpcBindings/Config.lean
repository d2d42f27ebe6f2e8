import RpcBindings.Schema.Check

namespace RpcBindings

open RpcBindings.Data
open RpcBindings.Schema

structure Config where
  outputRoot : String := "./gen"
  protoSuffix : String := ".proto"
  pbSuffix : String := "_pb"
  connectQuerySuffix : String := "_connectquery"
  hookPrefix : String := "use"
  templateDir : Option String := none
  clientFile : String := "client.ts"
  apiFile : String := "api.ts"
  indexFile : String := "index.ts"
  baseUrl : String := "/"
  queryStaleTime : Nat := 0
deriving DecidableEq, Repr

/-- Values for settings by name, each name at most once. -/
abbrev Overrides := List (String × Value)

namespace Config

def names : List String :=
  ["output_root", "proto_suffix", "pb_suffix", "connect_query_suffix", "hook_prefix", "template_dir",
    "client_file", "api_file", "index_file", "base_url", "query_stale_time"]

/-- Trailing slashes are dropped unless there is nothing else. -/
def trimRoot (root : String) : String :=
  let trimmed := Text.dropTrailing '/' root
  if trimmed = "" then root else trimmed

def check (entries : List (Value × Value)) : Check Config :=
  let d : Config := {}
  let str (name : String) (default : String) := optional name default text entries
  let name (name : String) (default : String) := optional name default nonEmptyText entries
  (str "output_root" d.outputRoot).and ((name "proto_suffix" d.protoSuffix).and
    ((str "pb_suffix" d.pbSuffix).and ((str "connect_query_suffix" d.connectQuerySuffix).and
    ((name "hook_prefix" d.hookPrefix).and
    ((optional "template_dir" d.templateDir (fun v => (text v).map some) entries).and
    ((name "client_file" d.clientFile).and ((name "api_file" d.apiFile).and
    ((name "index_file" d.indexFile).and ((str "base_url" d.baseUrl).and
    (optional "query_stale_time" d.queryStaleTime natural entries)))))))))) |>.map
    fun (outputRoot, protoSuffix, pbSuffix, connectQuerySuffix, hookPrefix, templateDir, clientFile,
        apiFile, indexFile, baseUrl, queryStaleTime) =>
      { outputRoot := trimRoot outputRoot, protoSuffix, pbSuffix, connectQuerySuffix, hookPrefix,
        templateDir, clientFile, apiFile, indexFile, baseUrl, queryStaleTime }

def assign (name : String) (v : Value) : Overrides → Overrides
  | [] => [(name, v)]
  | (n, w) :: rest => if n = name then (n, v) :: rest else (n, w) :: assign name v rest

def merge (settings : Overrides) (given : Overrides) : Overrides :=
  given.foldl (fun acc (name, v) => match v with
    | .null => acc
    | v => assign name v acc) settings

def mergeAll (given : List (Option Overrides)) : Overrides :=
  given.foldl (fun acc o => merge acc (o.getD [])) []

def build (given : List (Option Overrides)) : Except (List Issue) Config :=
  (record "GenerationConfig" names check (Value.record (mergeAll given))).toExcept

def errorMessage (issues : List Issue) : String :=
  "Config validation failed: " ++ report "GenerationConfig" issues

def toOverrides (c : Config) : Overrides :=
  [("output_root", .text c.outputRoot), ("proto_suffix", .text c.protoSuffix),
    ("pb_suffix", .text c.pbSuffix), ("connect_query_suffix", .text c.connectQuerySuffix),
    ("hook_prefix", .text c.hookPrefix), ("template_dir", c.templateDir.elim .null .text),
    ("client_file", .text c.clientFile), ("api_file", .text c.apiFile),
    ("index_file", .text c.indexFile), ("base_url", .text c.baseUrl),
    ("query_stale_time", .int c.queryStaleTime)]

end Config

end RpcBindings
