import RpcBindings.Json.Reader
import RpcBindings.Template.Basic
import RpcBindings.Text.Blank
import RpcBindings.Text.Quoted

namespace RpcBindings.Template

inductive Token where
  | name (n : String)
  | int (n : Nat)
  | text (s : String)
  | symbol (s : String)
deriving DecidableEq, Repr

def isNameStart (c : Char) : Bool :=
  c.isAlpha || c == '_' || (decide (128 ≤ c.toNat) && Text.isPrintable c && !Text.isBlank c)

def isNameChar (c : Char) : Bool := isNameStart c || c.isDigit

def operators : List String :=
  ["==", "!=", "<=", ">=", "//", "**", "<", ">", "+", "-", "/", "*", "%", "~", "[", "]", "(", ")",
    "\x7b", "\x7d", "=", ".", ":", "|", ",", ";"]

def closer? : String → Option String
  | "(" => some ")"
  | "[" => some "]"
  | "\x7b" => some "\x7d"
  | _ => none

def isCloser (s : String) : Bool := s == ")" || s == "]" || s == "\x7d"

/-- The characters of a string literal up to its closing quote; a backslash keeps the next one. -/
def spanQuoted (quote : Char) : List Char → Option (List Char × List Char)
  | [] => none
  | '\\' :: c :: rest => (spanQuoted quote rest).map fun (s, r) => ('\\' :: c :: s, r)
  | c :: rest =>
    if c = quote then some ([], rest) else (spanQuoted quote rest).map fun (s, r) => (c :: s, r)

def simpleEscape? : Char → Option Char
  | '\\' => some '\\'
  | '\'' => some '\''
  | '"' => some '"'
  | 'n' => some '\n'
  | 't' => some '\t'
  | 'r' => some '\r'
  | 'a' => some '\x07'
  | 'b' => some '\x08'
  | 'f' => some '\x0c'
  | 'v' => some '\x0b'
  | _ => none

def hexWidth? : Char → Option Nat
  | 'x' => some 2
  | 'u' => some 4
  | 'U' => some 8
  | _ => none

def digitOf (base : Nat) (c : Char) : Option Nat :=
  (Json.hexDigit? c).filter (· < base)

/-- The number that digits in a base write; there is none if one of them is no digit. -/
def number? (base : Nat) (s : List Char) : Option Nat :=
  s.foldlM (fun n c => (digitOf base c).map (n * base + ·)) 0

/-- The text that the inside of a literal stands for, after `skip` characters; an unknown escape stands
for itself. -/
def unescapeAfter : Nat → List Char → Option (List Char)
  | _, [] => some []
  | skip + 1, _ :: rest => unescapeAfter skip rest
  | 0, '\\' :: '\n' :: rest => unescapeAfter 0 rest
  | 0, '\\' :: c :: rest =>
    match simpleEscape? c, hexWidth? c with
    | some d, _ => (unescapeAfter 0 rest).map (d :: ·)
    | none, some width => do
      let digits := rest.take width
      if digits.length ≠ width then none
      let d ← Text.charOf? (← number? 16 digits)
      return d :: (← unescapeAfter width rest)
    | none, none =>
      if (digitOf 8 c).isSome then do
        let digits := ((c :: rest).take 3).takeWhile fun d => (digitOf 8 d).isSome
        let d ← Text.charOf? (← number? 8 digits)
        return d :: (← unescapeAfter (digits.length - 1) rest)
      else (unescapeAfter 0 rest).map fun s => '\\' :: c :: s
  | 0, c :: rest => (unescapeAfter 0 rest).map (c :: ·)

def unescape (s : List Char) : Option (List Char) := unescapeAfter 0 s

def spanDigits (isDigit : Char → Bool) : List Char → List Char × List Char
  | '_' :: c :: rest =>
    if isDigit c then let (ds, r) := spanDigits isDigit rest; (c :: ds, r) else ([], '_' :: c :: rest)
  | c :: rest =>
    if isDigit c then let (ds, r) := spanDigits isDigit rest; (c :: ds, r) else ([], c :: rest)
  | [] => ([], [])

def baseOf? (c : Char) : Option Nat :=
  match c.toLower with
  | 'b' => some 2
  | 'o' => some 8
  | 'x' => some 16
  | _ => none

def spanInt (s : List Char) : Option (Nat × List Char) :=
  let marked : Option (Nat × List Char) := match s with
    | '0' :: mark :: rest => do
      let base ← baseOf? mark
      let (ds, rest) := spanDigits (fun c => (digitOf base c).isSome) rest
      if ds.isEmpty then none
      return (← number? base ds, rest)
    | _ => none
  marked.or <|
    let (ds, rest) := spanDigits (if s.head? = some '0' then (· == '0') else Char.isDigit) s
    (number? 10 ds).map (·, rest)

/-- The first token of a text that does not start with a blank, and the rest. -/
def token? : List Char → Option (Token × List Char)
  | [] => none
  | c :: rest =>
    if c.isDigit then do
      let (n, rest) ← spanInt (c :: rest)
      match rest with
      | '.' :: d :: _ => if d.isDigit then none else some (.int n, rest)
      | _ => some (.int n, rest)
    else if isNameStart c then
      let (n, rest) := (c :: rest).span isNameChar
      some (.name (String.ofList n), rest)
    else if c = '\'' ∨ c = '"' then
      do
      let (s, rest) ← spanQuoted c rest
      return (.text (String.ofList (← unescape s)), rest)
    else
      (operators.find? fun op => op.toList.isPrefixOf (c :: rest)).map fun op =>
        (.symbol op, (c :: rest).drop op.length)

/-- The tag at the front ends here: the rest after the end if it does. Blanks after an end marked with a
minus are dropped. -/
def tagEnd? (close : List Char) (s : List Char) : Option (List Char) :=
  match s with
  | '-' :: rest =>
    if close.isPrefixOf rest then some ((rest.drop close.length).dropWhile Text.isBlank) else none
  | s => if close.isPrefixOf s then some (s.drop close.length) else none

abbrev TagEnd := List Char → Option (List Char)

/-- The tokens of a tag and the text after it. `open_` holds the closing brackets still expected; inside
brackets a tag does not end. -/
def scanTag (ends : TagEnd) : Nat → List String → List Char → Except Error (List Token × List Char)
  | 0, _, _ => .error .malformed
  | fuel + 1, open_, s =>
    match if open_.isEmpty then ends s else none with
    | some rest => .ok ([], rest)
    | none =>
      match s with
      | [] => .error .malformed
      | c :: rest =>
        if Text.isBlank c then scanTag ends fuel open_ rest
        else match token? s with
          | none => .error .malformed
          | some (t, rest) => do
            let open_ ← match t with
              | .symbol b =>
                match closer? b, isCloser b, open_ with
                | some close, _, _ => pure (close :: open_)
                | none, true, expected :: outer =>
                  if expected = b then pure outer else throw .malformed
                | none, true, [] => throw .malformed
                | none, false, _ => pure open_
              | _ => pure open_
            let (ts, rest) ← scanTag ends fuel open_ rest
            return (t :: ts, rest)

end RpcBindings.Template
