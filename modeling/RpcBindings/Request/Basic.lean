import RpcBindings.Descriptor.Basic

namespace RpcBindings.Request

/-- A field as declared: `typeCode` and `label` are the numbers of the descriptor format. -/
structure FieldDecl where
  name : Option String := none
  label : Option Nat := none
  typeCode : Option Nat := none
  typeName : Option String := none
deriving DecidableEq, Repr

def FieldDecl.isMessage (f : FieldDecl) : Bool := f.typeCode == some 11 || f.typeCode == some 10

def FieldDecl.isEnum (f : FieldDecl) : Bool := f.typeCode == some 14

def FieldDecl.isRepeated (f : FieldDecl) : Bool := f.label == some 3

/-- Message declarations in order, each with the declarations nested in it. -/
inductive Messages where
  | nil
  | cons (name : Option String) (isMapEntry : Option Bool) (fields : List FieldDecl) (nested rest : Messages)
deriving DecidableEq, Repr, Inhabited

namespace Messages

def append : Messages → Messages → Messages
  | nil, more => more
  | cons name isMapEntry fields nested rest, more => cons name isMapEntry fields nested (rest.append more)

end Messages

structure MethodDecl where
  name : Option String := none
  input : Option String := none
  output : Option String := none
  clientStreaming : Option Bool := none
  serverStreaming : Option Bool := none
deriving DecidableEq, Repr

structure ServiceDecl where
  name : Option String := none
  methods : List MethodDecl := []
deriving DecidableEq, Repr

structure FileDecl where
  name : Option String := none
  package : Option String := none
  messages : Messages := .nil
  services : List ServiceDecl := []
deriving DecidableEq, Repr

namespace FileDecl

def nameText (f : FileDecl) : String := f.name.getD ""

def packageText (f : FileDecl) : String := f.package.getD ""

end FileDecl

end Request

structure Request where
  filesToGenerate : List String := []
  parameter : Option String := none
  files : List Request.FileDecl := []
deriving DecidableEq, Repr

end RpcBindings
