import RpcBindings.Wire.Varint

namespace RpcBindings.Wire

inductive Payload where
  | varint (n : Nat)
  | fixed64 (bytes : List UInt8)
  | bytes (content : List UInt8)
  | group
  | fixed32 (bytes : List UInt8)
deriving DecidableEq, Repr

structure Field where
  number : Nat
  payload : Payload
deriving DecidableEq, Repr

def readTag (s : List UInt8) : Option (Nat × Nat × List UInt8) :=
  match Varint.decode 5 s with
  | some (n, rest) => if n < 8 ∨ Nat.pow 2 32 ≤ n then none else some (n / 8, n % 8, rest)
  | none => none

/-- The first `count` bytes and the rest, if there are as many. -/
def takeBytes (count : Nat) (s : List UInt8) : Option (List UInt8 × List UInt8) :=
  if count ≤ s.length then some (s.take count, s.drop count) else none

def readBytes (s : List UInt8) : Option (List UInt8 × List UInt8) :=
  match Varint.decode 5 s with
  | some (n, rest) => if Nat.pow 2 31 ≤ n then none else takeBytes n rest
  | none => none

def skipGroups : Nat → List Nat → List UInt8 → Option (List UInt8)
  | _, [], s => some s
  | 0, _, _ => none
  | fuel + 1, number :: outer, s =>
    match readTag s with
    | none => none
    | some (n, shape, rest) =>
      match shape with
      | 0 => (Varint.decode 10 rest).bind fun (_, r) => skipGroups fuel (number :: outer) r
      | 1 => (takeBytes 8 rest).bind fun (_, r) => skipGroups fuel (number :: outer) r
      | 2 => (readBytes rest).bind fun (_, r) => skipGroups fuel (number :: outer) r
      | 3 => skipGroups fuel (n :: number :: outer) rest
      | 4 => if n = number then skipGroups fuel outer rest else none
      | 5 => (takeBytes 4 rest).bind fun (_, r) => skipGroups fuel (number :: outer) r
      | _ => none

def readField (s : List UInt8) : Option (Field × List UInt8) :=
  match readTag s with
  | none => none
  | some (number, shape, rest) =>
    match shape with
    | 0 => (Varint.decode 10 rest).map fun (n, r) => (⟨number, .varint (n % Nat.pow 2 64)⟩, r)
    | 1 => (takeBytes 8 rest).map fun (b, r) => (⟨number, .fixed64 b⟩, r)
    | 2 => (readBytes rest).map fun (b, r) => (⟨number, .bytes b⟩, r)
    | 3 => (skipGroups (rest.length + 1) [number] rest).map fun r => (⟨number, .group⟩, r)
    | 5 => (takeBytes 4 rest).map fun (b, r) => (⟨number, .fixed32 b⟩, r)
    | _ => none

/-- The fields of a message; `fuel` bounds their number. -/
def readFields : Nat → List UInt8 → Option (List Field)
  | _, [] => some []
  | 0, _ => none
  | fuel + 1, s =>
    match readField s with
    | none => none
    | some (f, rest) => (readFields fuel rest).map (f :: ·)

def fields? (s : List UInt8) : Option (List Field) := readFields s.length s

def numberField (number n : Nat) : List UInt8 := Varint.encode (number * 8) ++ Varint.encode n

def bytesField (number : Nat) (content : List UInt8) : List UInt8 :=
  Varint.encode (number * 8 + 2) ++ Varint.encode content.length ++ content

def textField (number : Nat) (s : String) : List UInt8 := bytesField number s.toUTF8.data.toList

def text? (content : List UInt8) : Option String := String.fromUTF8? ⟨content.toArray⟩

end RpcBindings.Wire
