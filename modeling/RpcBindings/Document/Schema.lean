import RpcBindings.Descriptor.Basic
import RpcBindings.Config

namespace RpcBindings.Document

open RpcBindings.Data
open RpcBindings.Schema

structure FieldDecl where
  name : String
  kind : Option FieldKind := none
  type : Option String := none
  repeated : Bool := false
deriving DecidableEq, Repr

/-- Message declarations in order, each with the declarations nested in it. -/
inductive Messages where
  | nil
  | cons (name : String) (fields : List FieldDecl) (nested rest : Messages)
deriving DecidableEq, Repr

structure MethodDecl where
  name : String
  input : String
  output : String
  kind : MethodKind := .unary
deriving DecidableEq, Repr

structure ServiceDecl where
  name : String
  methods : List MethodDecl := []
deriving DecidableEq, Repr

structure FileDecl where
  name : String
  package : String := ""
  messages : Messages := .nil
  services : List ServiceDecl := []
deriving DecidableEq, Repr

end Document

structure Document where
  files : List Document.FileDecl := []
  filesToGenerate : List String := []
  config : Overrides := []

namespace Document

open RpcBindings.Data
open RpcBindings.Schema

def fieldKinds : List (String × FieldKind) :=
  [("scalar", .scalar), ("enum", .enum), ("message", .message), ("map", .map)]

def methodKinds : List (String × MethodKind) :=
  [("unary", .unary), ("server_streaming", .serverStreaming), ("client_streaming", .clientStreaming),
    ("bidi_streaming", .bidiStreaming)]

/-- The word for a field kind; bytes count as the text they encode. -/
def checkFieldKind (v : Value) : Check FieldKind :=
  match (text? v).bind fun s => fieldKinds.lookup s with
  | some k => .pass k
  | none => .complain (.notChoice (fieldKinds.map (·.1)))

def checkMethodKind (v : Value) : Check MethodKind :=
  match v with
  | .text s =>
    match methodKinds.lookup s with
    | some k => .pass k
    | none => .complain (.notWord (methodKinds.map (·.1)))
  | _ => .complain (.notWord (methodKinds.map (·.1)))

def orNull (check : Value → Check α) : Value → Check (Option α)
  | .null => .pass none
  | v => (check v).map some

def checkField : Value → Check FieldDecl :=
  record "FieldDocument" ["name", "kind", "type", "repeated"] fun entries =>
    (required "name" nonEmptyText entries).and
      ((optional "kind" none (orNull checkFieldKind) entries).and
      ((optional "type" none (orNull text) entries).and
      (optional "repeated" false bool entries))) |>.map
      fun (name, kind, type, repeated) => { name, kind, type, repeated }

abbrev Parts := String × List FieldDecl × Messages

def checkParts (entries : List (Value × Value)) (nested : Check Messages) : Check Parts :=
  ((required "name" nonEmptyText entries).and
    ((optional "fields" [] (list checkField) entries).and nested)).and
    (closed ["name", "fields", "messages"] entries) |>.map (·.1)

mutual

def checkMessage : Value → Check Parts
  | .map entries => checkParts entries (checkNested entries)
  | _ => .complain (.notRecord "MessageDocument")

def checkNested : List (Value × Value) → Check Messages
  | [] => .pass .nil
  | (k, v) :: rest =>
    if isKey "messages" k then (checkMessages v).under "messages" else checkNested rest

def checkMessages : Value → Check Messages
  | .list vs | .set vs => checkEach 0 vs
  | _ => .complain .notList

def checkEach (index : Nat) : List Value → Check Messages
  | [] => .pass .nil
  | v :: rest =>
    ((checkMessage v).under (toString index)).and (checkEach (index + 1) rest) |>.map
      fun ((name, fields, nested), rest) => .cons name fields nested rest

end

def checkMethod : Value → Check MethodDecl :=
  record "MethodDocument" ["name", "input", "output", "kind"] fun entries =>
    (required "name" nonEmptyText entries).and ((required "input" nonEmptyText entries).and
      ((required "output" nonEmptyText entries).and
      (optional "kind" .unary checkMethodKind entries))) |>.map
      fun (name, input, output, kind) => { name, input, output, kind }

def checkService : Value → Check ServiceDecl :=
  record "ServiceDocument" ["name", "methods"] fun entries =>
    (required "name" nonEmptyText entries).and (optional "methods" [] (list checkMethod) entries) |>.map
      fun (name, methods) => { name, methods }

def checkFile : Value → Check FileDecl :=
  record "FileDocument" ["name", "package", "messages", "services"] fun entries =>
    (required "name" nonEmptyText entries).and ((optional "package" "" text entries).and
      ((optional "messages" .nil checkMessages entries).and
      (optional "services" [] (list checkService) entries))) |>.map
      fun (name, package, messages, services) => { name, package, messages, services }

def checkSettings : List (Value × Value) → Check Overrides
  | [] => .pass []
  | (k, v) :: rest =>
    (((text k).under "[key]").under (placeOf k)).and (checkSettings rest) |>.map
      fun (name, more) => (name, v) :: more

def checkConfig : Value → Check Overrides
  | .map entries => (checkSettings entries).map fun given =>
      given.foldl (fun acc (name, v) => Config.assign name v acc) []
  | _ => .complain .notMapping

def check : Value → Check Document :=
  record "DescriptorDocument" ["files", "files_to_generate", "config"] fun entries =>
    (optional "files" [] (list checkFile) entries).and
      ((optional "files_to_generate" [] (list text) entries).and
      (optional "config" [] checkConfig entries)) |>.map
      fun (files, filesToGenerate, config) => { files, filesToGenerate, config }

end Document

end RpcBindings
