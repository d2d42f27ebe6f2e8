import RpcBindings.Descriptor.Basic
import RpcBindings.Text.Quoted

namespace RpcBindings.Log

inductive Level where
  | debug
  | info
  | warning
  | error
deriving DecidableEq, Repr

namespace Level

def rank : Level → Nat
  | debug => 0
  | info => 1
  | warning => 2
  | error => 3

def label : Level → String
  | debug => "DEBUG"
  | info => "INFO"
  | warning => "WARNING"
  | error => "ERROR"

end Level

inductive Event where
  | noService (files : Nat)
  | onlyFirstService (service : String) (others : Nat)
  | viewModelBuilt (service : String) (rpcs wellKnown sameFile external : Nat)
  | methodClassified (method : String) (kind : MethodKind) (query paginated mutation : Bool)
      (resource : String)
  | externalResolved (typeName path : String)
  | requestLoaded (files messages : Nat)
  | wellKnownAdded (typeName file : String)
  | documentParsed (files services : Nat)
  | templateOverridden (path : String)
  | rendererReady (templates : List String)
  | filesRendered (service : String) (names : List String)
  | directoryEnsured (path : String)
  | bytesWritten (count : Nat) (path : String)
  | stepTimed (label : String)
  | generatorReady (clean manifest dryRun : Bool)
  | loadFailed (reason : String)
  | filesKept (files : Nat)
  | renderFailed (message : String)
  | exporterReady (directory : String) (atomic : Bool)
  | cleaning (directory : String)
  | fileWritten (path : String) (bytes lines : Nat)
  | filesWritten (count : Nat) (directory : String)
  | writeFailed (message : String)
  | exportAborted (message : String)
  | manifestWritten (path : String)
  | manifestFailed (reason : String)
  | exportCompleted (files bytes : Nat)
  | exportFailed (errors : Nat)
  | descriptorNotFound (path : String)
  | outputRequired
  | descriptorPath (path : String)
  | outputPath (path : String)
  | runCompleted
  | runFailed (code : Nat)
  | requestAnswered (files : Nat)
  | requestFailed (reason : String)
deriving DecidableEq, Repr

namespace Event

def level : Event → Level
  | methodClassified .. | externalResolved .. | wellKnownAdded .. | rendererReady _
  | directoryEnsured _ | bytesWritten .. | stepTimed _ | generatorReady .. | exporterReady ..
  | fileWritten .. | manifestWritten _ => .debug
  | noService _ | viewModelBuilt .. | requestLoaded .. | documentParsed .. | templateOverridden _
  | filesRendered .. | filesKept _ | cleaning _ | filesWritten .. | exportCompleted ..
  | descriptorPath _ | outputPath _ | runCompleted | requestAnswered _ => .info
  | onlyFirstService .. | manifestFailed _ => .warning
  | loadFailed _ | renderFailed _ | writeFailed _ | exportAborted _ | exportFailed _
  | descriptorNotFound _ | outputRequired | runFailed _ | requestFailed _ => .error

def source : Event → String
  | noService _ | onlyFirstService .. | viewModelBuilt .. => "connectvue.builder"
  | methodClassified .. => "connectvue.classifier"
  | externalResolved .. => "connectvue.resolver"
  | requestLoaded .. | wellKnownAdded .. | documentParsed .. => "connectvue.descriptors"
  | templateOverridden _ | rendererReady _ | filesRendered .. => "connectvue.templates"
  | directoryEnsured _ | bytesWritten .. | stepTimed _ => "connectvue.utils"
  | generatorReady .. | loadFailed _ | filesKept _ | renderFailed _ => "connectvue.generator"
  | exporterReady .. | cleaning _ | fileWritten .. | filesWritten .. | writeFailed _
  | exportAborted _ | manifestWritten _ | manifestFailed _ | exportCompleted .. | exportFailed _ =>
    "connectvue.exporters"
  | descriptorNotFound _ | outputRequired | descriptorPath _ | outputPath _ | runCompleted
  | runFailed _ => "connectvue"
  | requestAnswered _ | requestFailed _ => "connectvue.plugin"

def truth (b : Bool) : String := if b then "True" else "False"

def message : Event → String
  | noService files => s!"No service found in {files} file(s); nothing to generate."
  | onlyFirstService service others =>
    s!"Only the first service ({service}) is generated; {others} other service(s) ignored."
  | viewModelBuilt service rpcs wellKnown sameFile external =>
    s!"Built view model for {service}: {rpcs} rpcs, {wellKnown} well-known, {sameFile} local, "
      ++ s!"{external} external import paths."
  | methodClassified method kind query paginated mutation resource =>
    s!"Classified {method}: kind={kind.label} query={truth query} paginated={truth paginated} "
      ++ s!"mutation={truth mutation} resource={resource}."
  | externalResolved typeName path => s!"Resolved {typeName} as external import from {path}."
  | requestLoaded files messages =>
    s!"Loaded {files} file(s), {messages} message type(s) from CodeGeneratorRequest."
  | wellKnownAdded typeName file => s!"Synthesised well-known type {typeName} in {file}."
  | documentParsed files services =>
    s!"Parsed descriptor document: {files} file(s), {services} service(s)."
  | templateOverridden path => s!"Using template override: {path}"
  | rendererReady templates =>
    "TemplateRenderer initialised with templates: ["
      ++ ", ".intercalate (templates.map Text.quoted) ++ "]."
  | filesRendered service names =>
    let list := ", ".intercalate names
    s!"Rendered {names.length} file(s) for {service}: {list}."
  | directoryEnsured path => s!"Ensured directory exists: {path}"
  | bytesWritten count path => s!"Wrote {count} bytes to {path}"
  | stepTimed label => s!"Timer [{label}]: 0.0000 seconds"
  | generatorReady clean manifest dryRun =>
    s!"ConnectVueGenerator initialised: clean={truth clean}, manifest={truth manifest}, "
      ++ s!"dry_run={truth dryRun}."
  | loadFailed reason => s!"Failed to load descriptors: {reason}"
  | filesKept files => s!"Dry run: {files} file(s) rendered, nothing written."
  | renderFailed message => message
  | exporterReady directory atomic =>
    s!"ProjectExporter initialised: output_dir={directory}, atomic={truth atomic}."
  | cleaning directory => s!"Cleaning output directory: {directory}"
  | fileWritten path bytes lines => s!"Wrote file: {path} ({bytes} bytes, {lines} lines)."
  | filesWritten count directory => s!"Wrote {count} rendered file(s) to {directory}."
  | writeFailed message => message
  | exportAborted message => message
  | manifestWritten path => s!"Wrote manifest to {path}."
  | manifestFailed reason => s!"Failed to write manifest: {reason}"
  | exportCompleted files bytes =>
    s!"Export completed successfully: {files} files, {bytes} bytes, 0.000s."
  | exportFailed errors => s!"Export completed with {errors} error(s) in 0.000s."
  | descriptorNotFound path => s!"Descriptor file not found: {path}"
  | outputRequired => "Output directory is required. Use -o/--output or --dry-run."
  | descriptorPath path => s!"Descriptor: {path}"
  | outputPath path => s!"Output:     {path}"
  | runCompleted => "Generation completed successfully."
  | runFailed code => s!"Generation failed with exit code {code}."
  | requestAnswered files => s!"Generated {files} file(s)."
  | requestFailed reason => s!"Generation failed: {reason}"

end Event

end RpcBindings.Log
