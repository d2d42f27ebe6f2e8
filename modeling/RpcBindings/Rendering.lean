import RpcBindings.Template.Bundled
import RpcBindings.Template.Render
import RpcBindings.ViewModel

namespace RpcBindings

open Template (Value Env Sources)

abbrev RenderedFiles := List (String × String)

/-- Puts a text under a file name; a name that is present keeps its place. -/
def RenderedFiles.put (name text : String) : RenderedFiles → RenderedFiles
  | [] => [(name, text)]
  | (n, t) :: rest =>
    if n = name then (n, text) :: rest else (n, t) :: RenderedFiles.put name text rest

def RenderedFiles.ofList (files : List (String × String)) : RenderedFiles :=
  files.foldl (fun acc (name, text) => RenderedFiles.put name text acc) []

namespace Rendering

def keys : List String := ["client", "api", "rpc", "index"]

def fileName (key : String) : String := key ++ ".ts.jinja"

def bundled : Sources :=
  [("client", Template.Bundled.client), ("api", Template.Bundled.api), ("rpc", Template.Bundled.rpc),
    ("index", Template.Bundled.index)]

inductive Error where
  | missingSources (keys : List String)
  | template (e : Template.Error)
deriving DecidableEq, Repr

def Error.message : Error → String
  | missingSources keys => "Missing template source(s): " ++ ", ".intercalate keys
  | template e => e.message

def Error.label : Error → String
  | missingSources _ => "ValueError"
  | template e => e.label

end Rendering

def Rpc.context (r : Rpc) : Value :=
  .record [("function_name", .text r.functionName), ("hook_name", .text r.hookName),
    ("query_definition_name", .text r.queryDefinitionName), ("resource", .text r.resource),
    ("input_type", .text r.inputType), ("output_type", .text r.outputType),
    ("method_kind", .int r.kind.number), ("is_unary", .bool r.isUnary),
    ("is_mutation", .bool r.isMutation), ("is_query", .bool r.isQuery),
    ("is_paginated", .bool r.isPaginated)]

def Config.context (c : Config) : Value :=
  .record [("output_root", .text c.outputRoot), ("proto_suffix", .text c.protoSuffix),
    ("pb_suffix", .text c.pbSuffix), ("connect_query_suffix", .text c.connectQuerySuffix),
    ("hook_prefix", .text c.hookPrefix), ("template_dir", c.templateDir.elim .none .text),
    ("client_file", .text c.clientFile), ("api_file", .text c.apiFile),
    ("index_file", .text c.indexFile), ("base_url", .text c.baseUrl),
    ("query_stale_time", .int c.queryStaleTime)]

namespace ViewModel

def textList (names : List String) : Value := .list (names.map .text)

def context (vm : ViewModel) (config : Config) : Env :=
  [("service_name", .text vm.serviceName), ("proto_pb_file", .text vm.protoPbFile),
    ("connect_query_file", .text vm.connectQueryFile), ("rpcs", .list (vm.rpcs.map Rpc.context)),
    ("wkt_imports", textList vm.imports.wellKnown), ("local_imports", textList vm.imports.sameFile),
    ("external_imports", .list (vm.imports.external.map fun (path, types) =>
      .record [("path", .text path), ("types", textList types)])),
    ("config", config.context)]

end ViewModel

namespace Rendering

def checkSources (sources : Sources) : Except Error Unit :=
  match keys.filter fun k => (sources.lookup k).isNone with
  | [] => .ok ()
  | missing => .error (.missingSources missing)

def files (sources : Sources) (config : Config) (vm : ViewModel) : Except Error RenderedFiles := do
  checkSources sources
  let one (env : Env) (key : String) : Except Error String :=
    (Template.render sources env key).mapError .template
  let client ← one (vm.context config) "client"
  let api ← one (vm.context config) "api"
  let index ← one [] "index"
  return RenderedFiles.ofList
    [(config.clientFile, client), (config.apiFile, api), (config.indexFile, index)]

def readyEvent (sources : Sources) : Log.Event :=
  .rendererReady ((sources.map (·.1)).mergeSort fun a b => compareOfLessAndEq a b != .gt)

def filesEvent (vm : ViewModel) (files : RenderedFiles) : Log.Event :=
  .filesRendered vm.serviceName (files.map (·.1))

end Rendering

end RpcBindings
