import RpcBindings.Descriptor.Pagination
import RpcBindings.Imports
import RpcBindings.Log
import RpcBindings.Naming

namespace RpcBindings

/-- How a method is exposed by the generated code. -/
structure Rpc where
  functionName : String
  hookName : String
  queryDefinitionName : String
  resource : String
  inputType : String
  outputType : String
  kind : MethodKind
  isUnary : Bool
  isMutation : Bool
  isQuery : Bool
  isPaginated : Bool
deriving DecidableEq, Repr

def Method.rpc (set : DescriptorSet) (config : Config) (inputType outputType : String) (m : Method) :
    Rpc :=
  let functionName := Text.lowerFirst m.name
  let isUnary := m.kind == .unary
  let isMutation := Naming.isMutation m.name
  let isQuery := isUnary && !isMutation
  { functionName
    hookName := config.hookPrefix ++ m.name
    queryDefinitionName := functionName
    resource := Naming.resource m.name
    inputType
    outputType
    kind := m.kind
    isUnary
    isMutation
    isQuery
    isPaginated := isQuery && ((set.find? m.input.typeName).map set.isPaginated).getD false }

structure ViewModel where
  serviceName : String
  protoPbFile : String
  connectQueryFile : String
  rpcs : List Rpc := []
  imports : Imports := {}
deriving DecidableEq, Repr

def Service.messageModule (config : Config) (s : Service) : String :=
  Text.dropSuffix s.file config.protoSuffix ++ config.pbSuffix

def Service.queryModule (config : Config) (s : Service) : String :=
  Text.dropSuffix s.file config.protoSuffix ++ "-" ++ s.name ++ config.connectQuerySuffix

def Service.origins (cwd : List String) (config : Config) (s : Service) :
    Except ImportError (List (Origin × Origin)) :=
  s.methods.mapM fun m => do
    let input ← m.input.origin cwd config s.file
    let output ← m.output.origin cwd config s.file
    return (input, output)

namespace ViewModel

def ofOrigins (set : DescriptorSet) (config : Config) (s : Service) (origins : List (Origin × Origin)) :
    ViewModel :=
  { serviceName := s.name
    protoPbFile := s.messageModule config
    connectQueryFile := s.queryModule config
    rpcs := (s.methods.zip origins).map fun (m, input, output) => m.rpc set config input.name output.name
    imports := Imports.ofOrigins (origins.flatMap fun (input, output) => [input, output]) }

def ofService (cwd : List String) (set : DescriptorSet) (config : Config) (s : Service) :
    Except ImportError ViewModel :=
  (s.origins cwd config).map (ofOrigins set config s)

/-- The view model of the first service to generate, if there is a service. -/
def ofFirstService (cwd : List String) (set : DescriptorSet) (config : Config) :
    Except ImportError (Option ViewModel) :=
  match set.firstService? with
  | none => .ok none
  | some s => (ofService cwd set config s).map some

end ViewModel

def Origin.event? (t : TypeRef) : Origin → Option Log.Event
  | external path _ => some (.externalResolved t.typeName path)
  | _ => none

def DescriptorSet.selectionEvents (set : DescriptorSet) : List Log.Event :=
  match set.services with
  | [] => [.noService set.generatedFiles.length]
  | [_] => []
  | s :: others => [.onlyFirstService s.typeName others.length]

def ViewModel.events (cwd : List String) (config : Config) (s : Service) (vm : ViewModel) : List Log.Event :=
  let ofRef (t : TypeRef) : List Log.Event :=
    match t.origin cwd config s.file with
    | .ok o => (o.event? t).toList
    | .error _ => []
  let ofMethod (m : Method) (r : Rpc) : List Log.Event :=
    ofRef m.input ++ ofRef m.output ++
      [.methodClassified m.name m.kind r.isQuery r.isPaginated r.isMutation r.resource]
  (s.methods.zip vm.rpcs).flatMap (fun (m, r) => ofMethod m r) ++
    [.viewModelBuilt s.typeName vm.rpcs.length vm.imports.wellKnown.length vm.imports.sameFile.length
      vm.imports.external.length]

def DescriptorSet.buildEvents (cwd : List String) (set : DescriptorSet) (config : Config) :
    List Log.Event :=
  set.selectionEvents ++
    match set.firstService?, ViewModel.ofFirstService cwd set config with
    | some s, .ok (some vm) => vm.events cwd config s
    | _, _ => []

end RpcBindings
