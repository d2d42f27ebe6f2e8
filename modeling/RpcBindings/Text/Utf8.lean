import RpcBindings.Text.Quoted

namespace RpcBindings.Text.Utf8

/-- Halves of surrogate pairs in a row, at which a text cannot be encoded. -/
structure Halves where
  position : Nat
  codes : List Nat
deriving DecidableEq, Repr

/-- The first halves in a text, if there are any. -/
def halves? (s : String) : Option Halves :=
  let (front, rest) := s.toList.span fun c => (halfCode? c).isNone
  let codes := (rest.takeWhile fun c => (halfCode? c).isSome).filterMap halfCode?
  if codes = [] then none else some ⟨front.length, codes⟩

def Halves.message (h : Halves) : String :=
  let place := match h.codes with
    | [code] => "character '\\u" ++ hex 4 code ++ "' in position " ++ toString h.position
    | codes => "characters in position " ++ toString h.position ++ "-"
        ++ toString (h.position + codes.length - 1)
  "'utf-8' codec can't encode " ++ place ++ ": surrogates not allowed"

inductive Reason where
  | invalidStart
  | invalidContinuation
  | endOfData
deriving DecidableEq, Repr

/-- The first undecodable bytes: where they begin, what they are and why they fail. -/
structure Fault where
  position : Nat
  bytes : List UInt8
  reason : Reason
deriving DecidableEq, Repr

def Reason.message : Reason → String
  | .invalidStart => "invalid start byte"
  | .invalidContinuation => "invalid continuation byte"
  | .endOfData => "unexpected end of data"

def Fault.message (f : Fault) : String :=
  let place := match f.bytes with
    | [b] => "byte 0x" ++ hex 2 b.toNat ++ " in position " ++ toString f.position
    | bytes => "bytes in position " ++ toString f.position ++ "-"
        ++ toString (f.position + bytes.length - 1)
  "'utf-8' codec can't decode " ++ place ++ ": " ++ f.reason.message

/-- The ranges that the bytes after a first byte must lie in; `none` if no sequence starts with it. -/
def following (first : Nat) : Option (List (Nat × Nat)) :=
  let more := (0x80, 0xbf)
  if first < 0x80 then some []
  else if first < 0xc2 then none
  else if first < 0xe0 then some [more]
  else if first = 0xe0 then some [(0xa0, 0xbf), more]
  else if first = 0xed then some [(0x80, 0x9f), more]
  else if first < 0xf0 then some [more, more]
  else if first = 0xf0 then some [(0x90, 0xbf), more, more]
  else if first < 0xf4 then some [more, more, more]
  else if first = 0xf4 then some [(0x80, 0x8f), more, more]
  else none

/-- How many of the bytes lie in the ranges they must lie in, counted from the front. -/
def matching : List (Nat × Nat) → List UInt8 → Nat
  | (low, high) :: ranges, b :: rest =>
    if low ≤ b.toNat ∧ b.toNat ≤ high then matching ranges rest + 1 else 0
  | _, _ => 0

/-- The first fault of `bytes`, which start at `position`; `skip` bytes are already accounted for. -/
def faultFrom : Nat → Nat → List UInt8 → Option Fault
  | _, _, [] => none
  | position, skip + 1, _ :: rest => faultFrom (position + 1) skip rest
  | position, 0, b :: rest =>
    match following b.toNat with
    | none => some ⟨position, [b], .invalidStart⟩
    | some ranges =>
      let good := matching ranges rest
      if good = ranges.length then faultFrom (position + 1) good rest
      else
        let reason := if good = rest.length then Reason.endOfData else Reason.invalidContinuation
        some ⟨position, b :: rest.take good, reason⟩

def decode (bytes : ByteArray) : Except Fault String :=
  match String.fromUTF8? bytes with
  | some s => .ok s
  | none => .error ((faultFrom 0 0 bytes.data.toList).getD ⟨0, [], .endOfData⟩)

theorem decode_toUTF8 (s : String) : decode s.toUTF8 = .ok s := by
  have h : String.fromUTF8? s.toUTF8 = some s := by
    simp [String.fromUTF8?, String.toUTF8, s.isValidUTF8, String.fromUTF8]
  unfold decode
  rw [h]

end RpcBindings.Text.Utf8
