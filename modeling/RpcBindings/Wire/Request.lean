import RpcBindings.Request.Basic
import RpcBindings.Wire.Shape

namespace RpcBindings.Request

open RpcBindings.Wire

def readInto (step : α → Wire.Field → Option α) (start : α) (s : List UInt8) : Option α :=
  (fields? s).bind fun fields => fields.foldlM step start

namespace FieldDecl

/-- Numbers of types and labels that are not known leave the part as it is. -/
def readStep (f : FieldDecl) (w : Wire.Field) : Option FieldDecl :=
  match w.number, w.payload with
  | 1, .bytes b => (text? b).map fun s => { f with name := some s }
  | 4, .varint n =>
    let n := n % Nat.pow 2 32
    some (if 1 ≤ n ∧ n ≤ 3 then { f with label := some n } else f)
  | 5, .varint n =>
    let n := n % Nat.pow 2 32
    some (if 1 ≤ n ∧ n ≤ 18 then { f with typeCode := some n } else f)
  | 6, .bytes b => (text? b).map fun s => { f with typeName := some s }
  | _, _ => some f

def ofBytes? : List UInt8 → Option FieldDecl := readInto readStep {}

def toBytes (f : FieldDecl) : List UInt8 :=
  f.name.elim [] (textField 1) ++ f.label.elim [] (numberField 4) ++
    f.typeCode.elim [] (numberField 5) ++ f.typeName.elim [] (textField 6)

end FieldDecl

def readFlag (n : Nat) : Bool := n != 0

def flagField (number : Nat) (b : Bool) : List UInt8 := numberField number (if b then 1 else 0)

/-- The mark of a map entry in the options of a message, if the options have it. -/
def mapEntryOf? : List UInt8 → Option (Option Bool) :=
  readInto (fun mark w => match w.number, w.payload with
    | 7, .varint n => some (some (readFlag n))
    | _, _ => some mark) none

structure MessageParts where
  name : Option String := none
  isMapEntry : Option Bool := none
  fields : List FieldDecl := []
  nested : Messages := .nil

def MessageParts.single (m : MessageParts) : Messages :=
  .cons m.name m.isMapEntry m.fields m.nested .nil

def MessageParts.readStep (inner : List UInt8 → Option MessageParts) (m : MessageParts)
    (w : Wire.Field) : Option MessageParts :=
  match w.number, w.payload with
  | 1, .bytes b => (text? b).map fun s => { m with name := some s }
  | 2, .bytes b => (FieldDecl.ofBytes? b).map fun f => { m with fields := m.fields ++ [f] }
  | 3, .bytes b => (inner b).map fun n => { m with nested := m.nested.append n.single }
  | 7, .bytes b => (mapEntryOf? b).map fun mark => { m with isMapEntry := mark.or m.isMapEntry }
  | _, _ => some m

/-- Reads a message declaration; `depth` bounds the nesting. -/
def MessageParts.ofBytes? : Nat → List UInt8 → Option MessageParts
  | 0, _ => none
  | depth + 1, s => readInto (MessageParts.readStep (ofBytes? depth)) {} s

def Messages.toBytes (number : Nat) : Messages → List UInt8
  | .nil => []
  | .cons name isMapEntry fields nested rest =>
    bytesField number (name.elim [] (textField 1) ++
      fields.flatMap (fun f => bytesField 2 f.toBytes) ++ nested.toBytes 3 ++
      isMapEntry.elim [] fun b => bytesField 7 (flagField 7 b)) ++ rest.toBytes number

namespace MethodDecl

def readStep (m : MethodDecl) (w : Wire.Field) : Option MethodDecl :=
  match w.number, w.payload with
  | 1, .bytes b => (text? b).map fun s => { m with name := some s }
  | 2, .bytes b => (text? b).map fun s => { m with input := some s }
  | 3, .bytes b => (text? b).map fun s => { m with output := some s }
  | 5, .varint n => some { m with clientStreaming := some (readFlag n) }
  | 6, .varint n => some { m with serverStreaming := some (readFlag n) }
  | _, _ => some m

def ofBytes? : List UInt8 → Option MethodDecl := readInto readStep {}

def toBytes (m : MethodDecl) : List UInt8 :=
  m.name.elim [] (textField 1) ++ m.input.elim [] (textField 2) ++ m.output.elim [] (textField 3) ++
    m.clientStreaming.elim [] (flagField 5) ++ m.serverStreaming.elim [] (flagField 6)

end MethodDecl

namespace ServiceDecl

def readStep (s : ServiceDecl) (w : Wire.Field) : Option ServiceDecl :=
  match w.number, w.payload with
  | 1, .bytes b => (text? b).map fun t => { s with name := some t }
  | 2, .bytes b => (MethodDecl.ofBytes? b).map fun m => { s with methods := s.methods ++ [m] }
  | _, _ => some s

def ofBytes? : List UInt8 → Option ServiceDecl := readInto readStep {}

def toBytes (s : ServiceDecl) : List UInt8 :=
  s.name.elim [] (textField 1) ++ s.methods.flatMap fun m => bytesField 2 m.toBytes

end ServiceDecl

namespace FileDecl

def readStep (f : FileDecl) (w : Wire.Field) : Option FileDecl :=
  match w.number, w.payload with
  | 1, .bytes b => (text? b).map fun s => { f with name := some s }
  | 2, .bytes b => (text? b).map fun s => { f with package := some s }
  | 4, .bytes b => (MessageParts.ofBytes? (b.length + 1) b).map fun m =>
      { f with messages := f.messages.append m.single }
  | 6, .bytes b => (ServiceDecl.ofBytes? b).map fun s => { f with services := f.services ++ [s] }
  | _, _ => some f

def ofBytes? : List UInt8 → Option FileDecl := readInto readStep {}

def toBytes (f : FileDecl) : List UInt8 :=
  f.name.elim [] (textField 1) ++ f.package.elim [] (textField 2) ++ f.messages.toBytes 4 ++
    f.services.flatMap fun s => bytesField 6 s.toBytes

end FileDecl

def readStep (r : Request) (w : Wire.Field) : Option Request :=
  match w.number, w.payload with
  | 1, .bytes b => (text? b).map fun s => { r with filesToGenerate := r.filesToGenerate ++ [s] }
  | 2, .bytes b => (text? b).map fun s => { r with parameter := some s }
  | 15, .bytes b => (FileDecl.ofBytes? b).map fun f => { r with files := r.files ++ [f] }
  | _, _ => some r

/-- The request that the bytes encode; there is none if any part of them is malformed. -/
def ofBytes? (s : List UInt8) : Option Request :=
  if Shape.request.isWellFormed s then readInto readStep {} s else none

def toBytes (r : Request) : List UInt8 :=
  r.filesToGenerate.flatMap (textField 1) ++ r.parameter.elim [] (textField 2) ++
    r.files.flatMap fun f => bytesField 15 f.toBytes

end RpcBindings.Request
