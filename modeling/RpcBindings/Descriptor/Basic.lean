namespace RpcBindings

inductive MethodKind where
  | unary
  | serverStreaming
  | clientStreaming
  | bidiStreaming
deriving DecidableEq, Repr

namespace MethodKind

def ofStreaming (client server : Bool) : MethodKind :=
  match client, server with
  | true, true => bidiStreaming
  | true, false => clientStreaming
  | false, true => serverStreaming
  | false, false => unary

def clientStreams : MethodKind → Bool
  | clientStreaming | bidiStreaming => true
  | _ => false

def serverStreams : MethodKind → Bool
  | serverStreaming | bidiStreaming => true
  | _ => false

def number : MethodKind → Nat
  | unary => 1
  | serverStreaming => 2
  | clientStreaming => 3
  | bidiStreaming => 4

def label : MethodKind → String
  | unary => "UNARY"
  | serverStreaming => "SERVER_STREAMING"
  | clientStreaming => "CLIENT_STREAMING"
  | bidiStreaming => "BIDI_STREAMING"

theorem ofStreaming_streams (k : MethodKind) : ofStreaming k.clientStreams k.serverStreams = k := by
  cases k <;> rfl

end MethodKind

/-- The shape of a field; a repeated field has the kind of its elements, and a map is a map whatever its
values are. -/
inductive FieldKind where
  | scalar
  | enum
  | message
  | map
deriving DecidableEq, Repr

def FieldKind.word : FieldKind → String
  | scalar => "scalar"
  | enum => "enum"
  | message => "message"
  | map => "map"

structure TypeRef where
  typeName : String
  name : String
  file : String
deriving DecidableEq, Repr

structure Field where
  name : String
  kind : FieldKind := .scalar
  repeated : Bool := false
  target : Option TypeRef := none
deriving DecidableEq, Repr

/-- A message type; `typeName` is qualified, `name` is not, and `file` declares it. -/
structure Message where
  typeName : String
  name : String
  file : String
  fields : List Field := []
deriving DecidableEq, Repr

def Message.ref (m : Message) : TypeRef := ⟨m.typeName, m.name, m.file⟩

structure Method where
  name : String
  input : TypeRef
  output : TypeRef
  kind : MethodKind := .unary
deriving DecidableEq, Repr

/-- `name` within `scope`; the empty scope adds nothing. -/
def qualify (scope name : String) : String := if scope = "" then name else scope ++ "." ++ name

structure Service where
  name : String
  package : String
  file : String
  methods : List Method := []
deriving DecidableEq, Repr

def Service.typeName (s : Service) : String := qualify s.package s.name

structure ProtoFile where
  name : String
  package : String := ""
  messages : List Message := []
  services : List Service := []
deriving DecidableEq, Repr

/-- All known files, and the names of those whose services may be generated, in order. -/
structure DescriptorSet where
  files : List ProtoFile := []
  filesToGenerate : List String := []
deriving DecidableEq, Repr

namespace DescriptorSet

def messages (s : DescriptorSet) : List Message := s.files.flatMap (·.messages)

def find? (s : DescriptorSet) (typeName : String) : Option Message :=
  s.messages.reverse.find? (·.typeName == typeName)

def file? (s : DescriptorSet) (name : String) : Option ProtoFile :=
  s.files.reverse.find? (·.name == name)

def generatedFiles (s : DescriptorSet) : List ProtoFile :=
  if s.filesToGenerate.isEmpty then s.files else s.filesToGenerate.filterMap s.file?

def services (s : DescriptorSet) : List Service := s.generatedFiles.flatMap (·.services)

def firstService? (s : DescriptorSet) : Option Service := s.services.head?

end DescriptorSet

end RpcBindings
