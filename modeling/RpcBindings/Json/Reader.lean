import RpcBindings.Data.Value
import RpcBindings.Json.Text

namespace RpcBindings.Json

open RpcBindings.Data
open RpcBindings.Number

inductive Reason where
  | value
  | propertyName
  | colon
  | comma
  | extraData
  | unterminated
  | badEscape
  | badUnicodeEscape
  | control
  | byteOrderMark
  | tooManyDigits (count : Nat)
deriving DecidableEq, Repr

/-- Why reading failed, with the number of characters from the place of the fault to the end. -/
structure Fault where
  reason : Reason
  left : Nat
deriving DecidableEq, Repr

def Reason.message : Reason → String
  | .value => "Expecting value"
  | .propertyName => "Expecting property name enclosed in double quotes"
  | .colon => "Expecting ':' delimiter"
  | .comma => "Expecting ',' delimiter"
  | .extraData => "Extra data"
  | .unterminated => "Unterminated string starting at"
  | .badEscape => "Invalid \\escape"
  | .badUnicodeEscape => "Invalid \\uXXXX escape"
  | .control => "Invalid control character at"
  | .byteOrderMark => "Unexpected UTF-8 BOM (decode using utf-8-sig)"
  | .tooManyDigits n => "Exceeds the limit (4300 digits) for integer string conversion: value has "
      ++ toString n ++ " digits; use sys.set_int_max_str_digits() to increase the limit"

def isSpace (c : Char) : Bool := c == ' ' || c == '\t' || c == '\n' || c == '\r'

def skipSpace (s : List Char) : List Char := s.dropWhile isSpace

def hexDigit? (c : Char) : Option Nat :=
  if c.isDigit then some (c.toNat - 48)
  else if 'a' ≤ c ∧ c ≤ 'f' then some (c.toNat - 87)
  else if 'A' ≤ c ∧ c ≤ 'F' then some (c.toNat - 55)
  else none

def unit? (s : List Char) : Option Nat :=
  if s.length < 4 then none
  else (s.take 4).foldl (fun acc c => do return (← acc) * 16 + (← hexDigit? c)) (some 0)

/-- The low half of a surrogate pair, if the next escape writes one and the text goes on after it. -/
def lowHalf? : List Char → Option Nat
  | '\\' :: 'u' :: rest =>
    (unit? rest).filter fun n => decide (4 < rest.length ∧ 0xdc00 ≤ n ∧ n < 0xe000)
  | _ => none

/-- Reads the rest of a literal that began with `start` characters left. `skip` characters belong to an
escape that has been read. -/
def readText (start : Nat) : Nat → List Char → List Char → Except Fault (String × List Char)
  | _, _, [] => .error ⟨.unterminated, start⟩
  | skip + 1, acc, _ :: rest => readText start skip acc rest
  | 0, acc, '"' :: rest => .ok (String.ofList acc.reverse, rest)
  | 0, _, ['\\'] => .error ⟨.unterminated, start⟩
  | 0, acc, '\\' :: 'u' :: rest =>
    match unit? rest with
    | none => .error ⟨.badUnicodeEscape, rest.length + 1⟩
    | some n =>
      if rest.length < 5 then .error ⟨.badUnicodeEscape, rest.length + 1⟩
      else if 0xd800 ≤ n ∧ n < 0xdc00 then
        match lowHalf? (rest.drop 4) with
        | some low =>
          let c := Char.ofNat (0x10000 + (n - 0xd800) * 0x400 + (low - 0xdc00))
          readText start 10 (c :: acc) rest
        | none => readText start 4 (Text.half n :: acc) rest
      else
        let c := if 0xdc00 ≤ n ∧ n < 0xe000 then Text.half n else Char.ofNat n
        readText start 4 (c :: acc) rest
  | 0, acc, '\\' :: e :: rest =>
    match unescape? e with
    | some c => readText start 0 (c :: acc) rest
    | none => .error ⟨.badEscape, rest.length + 2⟩
  | 0, acc, c :: rest =>
    if c.toNat < 0x20 then .error ⟨.control, rest.length + 1⟩
    else readText start 0 (c :: acc) rest

theorem readText_quote (start : Nat) (acc rest : List Char) :
    readText start 0 acc ('"' :: rest) = .ok (String.ofList acc.reverse, rest) := by
  rw [readText]

def digitsValue (ds : List Char) : Nat := ds.foldl (fun n c => n * 10 + (c.toNat - 48)) 0

/-- The digits of a fraction at the front: a point followed by at least one digit. -/
def fraction? : List Char → Option (List Char × List Char)
  | '.' :: rest =>
    match rest.span Char.isDigit with
    | ([], _) => none
    | (ds, rest) => some (ds, rest)
  | _ => none

/-- The exponent at the front: a letter, perhaps a sign, and at least one digit. -/
def exponent? : List Char → Option (Int × List Char)
  | e :: rest =>
    if e = 'e' ∨ e = 'E' then
      let (minus, digits) : Bool × List Char := match rest with
        | '-' :: r => (true, r)
        | '+' :: r => (false, r)
        | r => (false, r)
      match digits.span Char.isDigit with
      | ([], _) => none
      | (ds, rest) =>
        let n : Int := digitsValue ds
        some (if minus then -n else n, rest)
    else none
  | [] => none

/-- Reads a number; one without fraction and exponent is an integer. -/
def readNumber (s : List Char) : Except Fault (Value × List Char) :=
  let (minus, unsigned) : Bool × List Char := match s with
    | '-' :: r => (true, r)
    | r => (false, r)
  let (whole, rest) := match unsigned with
    | '0' :: r => (['0'], r)
    | r => r.span Char.isDigit
  if whole.isEmpty then .error ⟨.value, s.length⟩
  else
    let (places, rest', real) := match fraction? rest with
      | some (ds, r) => (ds, r, true)
      | none => ([], rest, false)
    let (power, rest'', real) := match exponent? rest' with
      | some (e, r) => (e, r, true)
      | none => (0, rest', real)
    if real then
      let d : Binary64.Decimal := ⟨digitsValue (whole ++ places), power - places.length⟩
      .ok (.float (Binary64.ofDecimal minus d), rest'')
    else if 4300 < whole.length then .error ⟨.tooManyDigits whole.length, s.length⟩
    else
      let n : Int := digitsValue whole
      .ok (.int (if minus then -n else n), rest'')

def words : List (List Char × Value) :=
  [("null".toList, .null), ("true".toList, .bool true), ("false".toList, .bool false),
    ("NaN".toList, .float .nan), ("Infinity".toList, .float .infinity),
    ("-Infinity".toList, .float (.neg .infinity))]

def word? (s : List Char) : Option (Value × List Char) :=
  (words.find? fun (w, _) => w.isPrefixOf s).map fun (w, v) => (v, s.drop w.length)

mutual

/-- Reads one value. `fuel` bounds the values and delimiters still to be read. -/
def readValue : Nat → List Char → Except Fault (Value × List Char)
  | 0, s => .error ⟨.value, s.length⟩
  | fuel + 1, s =>
    match s with
    | '"' :: rest => do
      let (t, rest) ← readText (rest.length + 1) 0 [] rest
      return (.text t, rest)
    | '[' :: rest =>
      match skipSpace rest with
      | ']' :: rest => .ok (.list [], rest)
      | rest => do
        let (items, rest) ← readItems fuel rest
        return (.list items, rest)
    | '{' :: rest =>
      match skipSpace rest with
      | '}' :: rest => .ok (.map [], rest)
      | rest => do
        let (entries, rest) ← readEntries fuel rest
        return (.map (Value.ofEntries entries), rest)
    | s =>
      match word? s with
      | some found => .ok found
      | none => readNumber s

def readItems : Nat → List Char → Except Fault (List Value × List Char)
  | 0, s => .error ⟨.value, s.length⟩
  | fuel + 1, s => do
    let (v, rest) ← readValue fuel s
    match skipSpace rest with
    | ']' :: rest => return ([v], rest)
    | ',' :: rest => do
      let (vs, rest) ← readItems fuel (skipSpace rest)
      return (v :: vs, rest)
    | rest => throw ⟨.comma, rest.length⟩

def readEntries : Nat → List Char → Except Fault (List (Value × Value) × List Char)
  | 0, s => .error ⟨.value, s.length⟩
  | fuel + 1, s =>
    match s with
    | '"' :: rest => do
      let (key, rest) ← readText (rest.length + 1) 0 [] rest
      match skipSpace rest with
      | ':' :: rest => do
        let (v, rest) ← readValue fuel (skipSpace rest)
        match skipSpace rest with
        | '}' :: rest => return ([(.text key, v)], rest)
        | ',' :: rest => do
          let (more, rest) ← readEntries fuel (skipSpace rest)
          return ((.text key, v) :: more, rest)
        | rest => throw ⟨.comma, rest.length⟩
      | rest => throw ⟨.colon, rest.length⟩
    | s => .error ⟨.propertyName, s.length⟩

end

theorem readValue_quote {rest rest' : List Char} {t : String} (fuel : Nat)
    (h : readText (rest.length + 1) 0 [] rest = .ok (t, rest')) :
    readValue (fuel + 1) ('"' :: rest) = .ok (.text t, rest') := by
  rw [readValue, h]
  rfl

/-- Reads a text that holds one value and nothing else. -/
def read (text : String) : Except Fault Value :=
  let s := text.toList
  if s.head? = some '\ufeff' then .error ⟨.byteOrderMark, s.length⟩
  else do
    let (v, rest) ← readValue (2 * s.length + 2) (skipSpace s)
    match skipSpace rest with
    | [] => return v
    | rest => throw ⟨.extraData, rest.length⟩

/-- The reason, and where it applies unless it is about a number: line, column and index. -/
def Fault.message (text : String) (f : Fault) : String :=
  match f.reason with
  | .tooManyDigits _ => f.reason.message
  | reason =>
    let before := text.toList.take (text.length - f.left)
    let column := (before.reverse.takeWhile (· ≠ '\n')).length + 1
    reason.message ++ ": line " ++ toString (before.count '\n' + 1) ++ " column " ++ toString column
      ++ " (char " ++ toString before.length ++ ")"

end RpcBindings.Json
