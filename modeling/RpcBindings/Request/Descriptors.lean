import RpcBindings.Log
import RpcBindings.Request.Basic
import RpcBindings.Text.Search

namespace RpcBindings.Request

inductive Error where
  | undefinedType (typeName : String)
deriving DecidableEq, Repr

def Error.message : Error → String
  | undefinedType typeName => "Message type '" ++ typeName ++ "' is not defined in the request."

def Messages.types (file scope : String) : Messages → List TypeRef
  | .nil => []
  | .cons name _ _ nested rest =>
    let typeName := qualify scope (name.getD "")
    ⟨typeName, name.getD "", file⟩ :: nested.types file typeName ++ rest.types file scope

def Messages.mapEntries (scope : String) : Messages → List String
  | .nil => []
  | .cons name isMapEntry _ nested rest =>
    let typeName := qualify scope (name.getD "")
    (if isMapEntry.getD false then [typeName] else []) ++ nested.mapEntries typeName ++ rest.mapEntries scope

def FileDecl.types (f : FileDecl) : List TypeRef := f.messages.types f.nameText f.packageText

def types (r : Request) : List TypeRef := r.files.flatMap (·.types)

def mapEntries (r : Request) : List String := r.files.flatMap fun f => f.messages.mapEntries f.packageText

def lookup (types : List TypeRef) (ref : String) : Except Error TypeRef :=
  let name := Text.dropLeading '.' ref
  match types.reverse.find? (·.typeName == name) with
  | some t => .ok t
  | none => .error (.undefinedType name)

abbrev Wired := List (String × Field)

def Wired.fieldsOf (wired : Wired) (typeName : String) : List Field :=
  wired.filterMap fun (n, f) => if n = typeName then some f else none

def Wired.valueTarget (wired : Wired) (entry : String) : Option TypeRef :=
  ((wired.fieldsOf entry).find? (·.name == "value")).bind (·.target)

def wireField (types : List TypeRef) (mapEntries : List String) (wired : Wired) (f : FieldDecl) :
    Except Error Field := do
  let name := f.name.getD ""
  if f.isMessage then
    let target ← lookup types (f.typeName.getD "")
    if target.typeName ∈ mapEntries then return ⟨name, .map, false, wired.valueTarget target.typeName⟩
    else return ⟨name, .message, f.isRepeated, some target⟩
  else return ⟨name, if f.isEnum then .enum else .scalar, f.isRepeated, none⟩

def wireFields (types : List TypeRef) (mapEntries : List String) (typeName : String) :
    Wired → List FieldDecl → Except Error Wired
  | wired, [] => .ok wired
  | wired, f :: rest => do
    let field ← wireField types mapEntries wired f
    wireFields types mapEntries typeName (wired ++ [(typeName, field)]) rest

def wireMessages (types : List TypeRef) (mapEntries : List String) (scope : String) :
    Wired → Messages → Except Error Wired
  | wired, .nil => .ok wired
  | wired, .cons name _ fields nested rest => do
    let typeName := qualify scope (name.getD "")
    let wired ← wireMessages types mapEntries typeName wired nested
    let wired ← wireFields types mapEntries typeName wired fields
    wireMessages types mapEntries scope wired rest

def wireMethods (types : List TypeRef) : List MethodDecl → Except Error (List Method)
  | [] => .ok []
  | m :: rest => do
    let input ← lookup types (m.input.getD "")
    let output ← lookup types (m.output.getD "")
    let methods ← wireMethods types rest
    let kind := MethodKind.ofStreaming (m.clientStreaming.getD false) (m.serverStreaming.getD false)
    return ⟨m.name.getD "", input, output, kind⟩ :: methods

def wireServices (types : List TypeRef) (file package : String) :
    List ServiceDecl → Except Error (List Service)
  | [] => .ok []
  | s :: rest => do
    let methods ← wireMethods types s.methods
    let services ← wireServices types file package rest
    return ⟨s.name.getD "", package, file, methods⟩ :: services

def wireFiles (types : List TypeRef) (mapEntries : List String) :
    Wired → List FileDecl → Except Error (Wired × List (List Service))
  | wired, [] => .ok (wired, [])
  | wired, f :: rest => do
    let wired ← wireMessages types mapEntries f.packageText wired f.messages
    let services ← wireServices types f.nameText f.packageText f.services
    let (wired, more) ← wireFiles types mapEntries wired rest
    return (wired, services :: more)

def messagesOf (wired : Wired) (later : List TypeRef) : List TypeRef → List Message
  | [] => []
  | t :: rest =>
    let again := (rest ++ later).any (·.typeName == t.typeName)
    ⟨t.typeName, t.name, t.file, if again then [] else wired.fieldsOf t.typeName⟩
      :: messagesOf wired later rest

def assemble (wired : Wired) : List FileDecl → List (List Service) → List ProtoFile
  | f :: rest, services :: more =>
    ⟨f.nameText, f.packageText, messagesOf wired (rest.flatMap (·.types)) f.types, services⟩
      :: assemble wired rest more
  | _, _ => []

def descriptors (r : Request) : Except Error DescriptorSet := do
  let (wired, services) ← wireFiles r.types r.mapEntries [] r.files
  return ⟨assemble wired r.files services, r.filesToGenerate⟩

def loadedEvent (r : Request) : Log.Event :=
  .requestLoaded r.files.length (r.types.map (·.typeName)).eraseDups.length

end RpcBindings.Request
