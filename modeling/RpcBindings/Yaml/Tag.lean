import RpcBindings.Data.Value
import RpcBindings.Json.Reader
import RpcBindings.Text.Blank
import RpcBindings.Text.Case
import RpcBindings.Text.Digit
import RpcBindings.Text.Search
import RpcBindings.Yaml.Fault

namespace RpcBindings.Yaml

open RpcBindings.Data
open RpcBindings.Number

inductive Tag where
  | null
  | truth
  | integer
  | float
  | text
  | binary
  | timestamp
  | list
  | set
  | map
  | merge
  | equals
  | unknown
deriving DecidableEq, Repr, Inhabited

def Tag.names : List (String × Tag) :=
  [("null", .null), ("bool", .truth), ("int", .integer), ("float", .float), ("str", .text),
    ("binary", .binary), ("timestamp", .timestamp), ("seq", .list), ("set", .set), ("map", .map),
    ("merge", .merge), ("value", .equals)]

def Tag.scheme : String := "tag:yaml.org,2002:"

def Tag.ofName (name : String) : Tag :=
  ((names.find? fun (n, _) => scheme ++ n == name).map (·.2)).getD .unknown

def isDigitOr (c : Char) (x : Char) : Bool := x.isDigit || x == c

def dropSign : List Char → List Char
  | '-' :: rest | '+' :: rest => rest
  | s => s

def isSixtieth : List Char → Bool
  | [a] => a.isDigit
  | [a, b] => decide ('0' ≤ a ∧ a ≤ '5') && b.isDigit
  | _ => false

def isCount : List Char → Bool
  | [] => false
  | c :: rest => c.isDigit && rest.all (isDigitOr '_')

def isIntegerForm (s : List Char) : Bool :=
  match dropSign s with
  | '0' :: 'b' :: ds => !ds.isEmpty && ds.all fun c => c == '0' || c == '1' || c == '_'
  | '0' :: 'x' :: ds => !ds.isEmpty && ds.all fun c => (Json.hexDigit? c).isSome || c == '_'
  | '0' :: ds => ds.all fun c => decide ('0' ≤ c ∧ c ≤ '7') || c == '_'
  | s =>
    match s.splitOn ':' with
    | whole :: parts => isCount whole && parts.all isSixtieth
    | [] => false

def isExponentForm : List Char → Bool
  | [] => true
  | e :: sign :: ds => (e == 'e' || e == 'E') && (sign == '-' || sign == '+') && !ds.isEmpty && ds.all Char.isDigit
  | _ => false

def isPlacesForm (s : List Char) : Bool := isExponentForm (s.dropWhile (isDigitOr '_'))

def isSixtyForm (s : List Char) : Bool :=
  let (whole, places) := s.span (· ≠ '.')
  match places, whole.splitOn ':' with
  | _ :: places, count :: parts =>
    !parts.isEmpty && isCount count && parts.all isSixtieth && places.all (isDigitOr '_')
  | _, _ => false

def isFloatForm (s : List Char) : Bool :=
  let unsigned := dropSign s
  let pointed (w : String) : List Char := '.' :: w.toList
  match s with
  | '.' :: c :: rest =>
    (c.isDigit && isPlacesForm rest) || s == pointed "nan" || s == pointed "NaN" || s == pointed "NAN" ||
      s == pointed "inf" || s == pointed "Inf" || s == pointed "INF"
  | _ =>
    unsigned == pointed "inf" || unsigned == pointed "Inf" || unsigned == pointed "INF" ||
      isSixtyForm unsigned ||
      match unsigned.span (· ≠ '.') with
      | (whole, _ :: places) => isCount whole && isPlacesForm places
      | _ => false

def shortNumber? : List Char → Option (Nat × List Char)
  | a :: b :: rest =>
    if !a.isDigit then none
    else if b.isDigit then some (Json.digitsValue [a, b], rest)
    else some (Json.digitsValue [a], b :: rest)
  | [a] => if a.isDigit then some (Json.digitsValue [a], []) else none
  | [] => none

def longNumber? (count : Nat) (s : List Char) : Option (Nat × List Char) :=
  let ds := s.take count
  if ds.length = count && ds.all Char.isDigit then some (Json.digitsValue ds, s.drop count) else none

def after? (c : Char) : List Char → Option (List Char)
  | x :: rest => if x = c then some rest else none
  | [] => none

inductive Stamp where
  | date (d : Date)
  | time (t : DateTime)

/-- A fraction of a second in microseconds; further digits are dropped. -/
def fraction? : List Char → Nat × List Char
  | '.' :: rest =>
    let ds := (rest.takeWhile Char.isDigit).take 6
    (Json.digitsValue (ds ++ List.replicate (6 - ds.length) '0'), rest.dropWhile Char.isDigit)
  | s => (0, s)

def offset? (s : List Char) : Option (Option Int) := do
  match s.dropWhile fun c => c == ' ' || c == '\t' with
  | [] => if s.isEmpty then some none else none
  | ['Z'] => some (some 0)
  | sign :: rest => do
    if sign ≠ '-' ∧ sign ≠ '+' then none
    let (hours, rest) ← shortNumber? rest
    let minutes ← match rest with
      | [] => pure 0
      | ':' :: rest => do
        let (m, rest) ← longNumber? 2 rest
        if rest.isEmpty then pure m else none
      | _ => none
    let total : Int := hours * 60 + minutes
    return some (if sign = '-' then -total else total)

def stamp? (s : List Char) : Option Stamp := do
  let (year, rest) ← longNumber? 4 s
  let rest ← after? '-' rest
  let (month, rest) ← shortNumber? rest
  let rest ← after? '-' rest
  let (day, rest) ← shortNumber? rest
  let date : Date := ⟨year, month, day⟩
  let rest ← match rest with
    | [] => return .date date
    | c :: rest =>
      if c = 'T' ∨ c = 't' then some rest
      else if c = ' ' ∨ c = '\t' then some (rest.dropWhile fun c => c == ' ' || c == '\t')
      else none
  let (hour, rest) ← shortNumber? rest
  let rest ← after? ':' rest
  let (minute, rest) ← longNumber? 2 rest
  let rest ← after? ':' rest
  let (second, rest) ← longNumber? 2 rest
  let (micros, rest) := fraction? rest
  let offset ← offset? rest
  return .time ⟨date, hour, minute, second, micros, offset⟩

def isTimestampForm (s : List Char) : Bool :=
  match stamp? s with
  | some (.date _) => s.length == 10
  | some (.time _) => true
  | none => false

def truthWords : List (String × Bool) :=
  [("yes", true), ("no", false), ("true", true), ("false", false), ("on", true), ("off", false)]

def isTruthForm (s : String) : Bool :=
  truthWords.any fun (w, _) => s == w || s == w.capitalize || s == w.toUpper

def Tag.ofPlain (s : String) : Tag :=
  let cs := s.toList
  if isTruthForm s then .truth
  else if isFloatForm cs then .float
  else if isIntegerForm cs then .integer
  else if s = "<<" then .merge
  else if ["", "~", "null", "Null", "NULL"].contains s then .null
  else if isTimestampForm cs then .timestamp
  else if s = "=" then .equals
  else if ["!", "&", "*"].contains s then .unknown
  else .text

/-- The digits of a number in a base, after the mark of the base if it is there. -/
def baseDigits (base : Nat) : List Char → List Char
  | '0' :: c :: rest =>
    let mark := if base = 2 then ['b', 'B'] else if base = 8 then ['o', 'O'] else ['x', 'X']
    if base ≠ 10 && mark.contains c then rest else '0' :: c :: rest
  | s => s

def readInteger (base : Nat) (s : List Char) : Except Fault Int :=
  let trimmed := Text.plainDigits (Text.trimBy Text.isBlank s)
  let digits := baseDigits base (dropSign trimmed)
  let values := digits.map fun c => if c.isAlphanum then
      (if c.isDigit then c.toNat - 48 else c.toLower.toNat - 87) else base
  if digits.isEmpty || !values.all (· < base) then .error (.badInteger base (String.ofList s))
  else if base = 10 ∧ 4300 < digits.length then .error (.tooManyDigits digits.length)
  else
    let n : Int := (values.foldl (fun n v => n * base + v) 0 : Nat)
    .ok (if trimmed.head? = some '-' then -n else n)

/-- Splits a sign off the text of a number, which is not empty. -/
def splitSign : List Char → Except Fault (Bool × List Char)
  | [] => .error .emptyNumber
  | '-' :: rest => .ok (true, rest)
  | '+' :: rest => .ok (false, rest)
  | s => .ok (false, s)

def integerOf (text : String) : Except Fault Int := do
  let (minus, s) ← splitSign (text.toList.filter (· ≠ '_'))
  let n ← match s with
    | ['0'] => pure 0
    | '0' :: 'b' :: ds => readInteger 2 ds
    | '0' :: 'x' :: ds => readInteger 16 ds
    | '0' :: _ => readInteger 8 s
    | [] => throw .emptyNumber
    | _ =>
      if s.contains ':' then do
        let parts ← (s.splitOn ':').mapM (readInteger 10)
        pure (parts.foldl (fun n p => n * 60 + p) 0)
      else readInteger 10 s
  return if minus then -n else n

def readFloat (s : List Char) : Except Fault Binary64 := do
  let bad : Fault := .badFloat (String.ofList s)
  let trimmed := Text.plainDigits (Text.trimBy Text.isBlank s)
  let minus := trimmed.head? = some '-'
  let signed (x : Binary64) : Binary64 := if minus then x.neg else x
  let unsigned := dropSign trimmed
  let word := Text.lower (String.ofList unsigned)
  if word = "inf" ∨ word = "infinity" then return signed .infinity
  if word = "nan" then return .nan
  let (whole, rest) := unsigned.span Char.isDigit
  let (places, rest) := match rest with
    | '.' :: rest => rest.span Char.isDigit
    | rest => ([], rest)
  if (whole ++ places).isEmpty then throw bad
  let power ← match rest with
    | [] => pure 0
    | rest => match Json.exponent? rest with
      | some (e, []) => pure e
      | _ => throw bad
  return Binary64.ofDecimal minus ⟨Json.digitsValue (whole ++ places), power - places.length⟩

def sixtySum (parts : List Binary64) : Binary64 :=
  (parts.foldl (fun (sum, base) p => (sum.add (p.mul (Binary64.ofNat base)), base * 60))
    (Binary64.ofNat 0, 1)).1

/-- Floating-point numbers of tagged scalars; underscores are dropped. -/
def floatOf (text : String) : Except Fault Binary64 := do
  let lowered := Text.lower (String.ofList (text.toList.filter (· ≠ '_')))
  let (minus, s) ← splitSign lowered.toList
  let x ←
    if s = ".inf".toList then pure .infinity
    else if s = ".nan".toList then pure .nan
    else if s.contains ':' then do
      let parts ← (s.splitOn ':').mapM readFloat
      pure (sixtySum parts.reverse)
    else readFloat s
  return if minus && !x.isNaN then x.neg else x

def truthOf (text : String) : Except Fault Bool :=
  let word := Text.lower text
  match truthWords.lookup word with
  | some b => .ok b
  | none => .error (.badTruth word)

def timestampOf (text : String) : Except Fault Value :=
  match stamp? text.toList with
  | none => .error .badTimestamp
  | some (.date d) => d.fault.elim (.ok (.date d)) fun f => .error (.badCalendar f)
  | some (.time t) => t.fault.elim (.ok (.dateTime t)) fun f => .error (.badCalendar f)

def sixtyFourth? (c : Char) : Option Nat :=
  if 'A' ≤ c ∧ c ≤ 'Z' then some (c.toNat - 65)
  else if 'a' ≤ c ∧ c ≤ 'z' then some (c.toNat - 71)
  else if c.isDigit then some (c.toNat + 4)
  else if c = '+' then some 62
  else if c = '/' then some 63
  else none

/-- Bytes from digits in base 64, four digits for three bytes. `place` counts the digits of the current
four, `high` holds their bits that are not yet in a byte, and `pads` counts the signs of padding in a row.
Other characters are passed over. -/
def bytesFrom (place high pads : Nat) : List Char → Option (List UInt8)
  | [] => if place = 0 then some [] else none
  | c :: rest =>
    if c = '=' then
      if 2 ≤ place then
        if 4 ≤ place + pads + 1 then some [] else bytesFrom place high (pads + 1) rest
      else bytesFrom place high pads rest
    else match sixtyFourth? c with
      | none => bytesFrom place high pads rest
      | some n =>
        if place = 0 then bytesFrom 1 n 0 rest
        else
          let bits := 2 * place
          let byte := UInt8.ofNat (high * Nat.pow 2 bits + n / Nat.pow 2 (6 - bits))
          (bytesFrom ((place + 1) % 4) (n % Nat.pow 2 (6 - bits)) 0 rest).map (byte :: ·)

def binaryOf (text : String) : Except Fault Value :=
  if text.toList.all (·.toNat < 128) then
    ((bytesFrom 0 0 0 text.toList).map Value.bytes).elim (.error .malformed) .ok
  else .error .malformed

def Tag.scalar (tag : Tag) (text : String) : Except Fault Value :=
  match tag with
  | .null => .ok .null
  | .truth => (truthOf text).map .bool
  | .integer => (integerOf text).map .int
  | .float => (floatOf text).map .float
  | .text => .ok (.text text)
  | .binary => binaryOf text
  | .timestamp => timestampOf text
  | .list | .set | .map | .merge | .equals | .unknown => .error .malformed

end RpcBindings.Yaml
