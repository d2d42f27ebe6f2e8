import RpcBindings.Json.Reader
import RpcBindings.Yaml.Fault

namespace RpcBindings.Yaml

/-- What a line end reads as, if `c` is one. -/
def lineEnd? : Char → Option Char
  | '\n' | '\u0085' => some '\n'
  | '\u2028' => some '\u2028'
  | '\u2029' => some '\u2029'
  | _ => none

def isLineEnd (c : Char) : Bool := (lineEnd? c).isSome

def isTab (c : Char) : Bool := c == ' ' || c == '\t'

def isSpace (c : Char) : Bool := isTab c || isLineEnd c

def spaceNext : List Char → Bool
  | [] => true
  | c :: _ => isSpace c

def lineEndNext : List Char → Bool
  | [] => true
  | c :: _ => isLineEnd c

def markerNext : List Char → Bool
  | '-' :: '-' :: '-' :: rest | '.' :: '.' :: '.' :: rest => spaceNext rest
  | _ => false

def fold (first : Char) (more : List Char) : List Char :=
  if first ≠ '\n' then first :: more else if more.isEmpty then [' '] else more

def wordEnds (flow : Bool) : List Char → Bool
  | [] => true
  | ':' :: rest => spaceNext rest || (flow && [',', '[', ']', '\x7b', '\x7d'].contains (rest.headD ' '))
  | c :: _ => isSpace c || (flow && [',', '?', '[', ']', '\x7b', '\x7d'].contains c)

def word (flow : Bool) : List Char → List Char × List Char
  | [] => ([], [])
  | c :: rest =>
    if wordEnds flow (c :: rest) then ([], c :: rest)
    else
      let (w, rest) := word flow rest
      (c :: w, rest)

/-- What stands between the words of a plain scalar; `column` is where the next word stands if it is on
another line. A gap without text ends the scalar. -/
structure Gap where
  text : List Char
  column : Option Nat
  rest : List Char

/-- The line ends up to the next word, with its column; none if a document mark comes before it. -/
def linesToWord : Nat → List Char → Option (List Char) × Nat × List Char
  | column, [] => (some [], column, [])
  | column, c :: rest =>
    if c = ' ' then linesToWord (column + 1) rest
    else match lineEnd? c with
      | none => (some [], column, c :: rest)
      | some e =>
        if markerNext rest then (none, 0, rest)
        else
          let (es, column, rest) := linesToWord 0 rest
          (es.map (e :: ·), column, rest)

def gap (s : List Char) : Gap :=
  let (blanks, rest) := s.span (· = ' ')
  match rest.head?.bind lineEnd? with
  | none => ⟨blanks, none, rest⟩
  | some e =>
    let rest := rest.drop 1
    if markerNext rest then ⟨[], some 0, rest⟩
    else match linesToWord 0 rest with
      | (none, column, rest) => ⟨[], some column, rest⟩
      | (some es, column, rest) => ⟨fold e es, some column, rest⟩

/-- A plain scalar, whether line ends follow its last word, and the rest. -/
structure Plain where
  text : List Char
  lineEnded : Bool
  rest : List Char

def plainFrom (flow : Bool) (indent : Nat) : Nat → List Char → Plain
  | 0, s => ⟨[], false, s⟩
  | fuel + 1, s =>
    let (w, rest) := word flow s
    let g := gap rest
    let shallow := !flow && g.column.any (· < indent)
    if g.text.isEmpty || g.rest.head? = some '#' || shallow || wordEnds flow g.rest then
      ⟨w, g.column.isSome, g.rest⟩
    else
      let more := plainFrom flow indent fuel g.rest
      ⟨w ++ g.text ++ more.text, more.lineEnded, more.rest⟩

def plain (flow : Bool) (indent : Nat) (s : List Char) : Plain := plainFrom flow indent (s.length + 1) s

def shortEscapes : List (Char × Char) :=
  [('0', '\x00'), ('a', '\x07'), ('b', '\x08'), ('t', '\t'), ('\t', '\t'), ('n', '\n'), ('v', '\x0b'),
    ('f', '\x0c'), ('r', '\r'), ('e', '\x1b'), (' ', ' '), ('"', '"'), ('\\', '\\'), ('/', '/'),
    ('N', '\u0085'), ('_', '\u00a0'), ('L', '\u2028'), ('P', '\u2029')]

def escapeWidth? : Char → Option Nat
  | 'x' => some 2
  | 'u' => some 4
  | 'U' => some 8
  | _ => none

def hexNumber? (count : Nat) (s : List Char) : Option Nat :=
  if s.length < count then none
  else (s.take count).foldl (fun acc c => do return (← acc) * 16 + (← Json.hexDigit? c)) (some 0)

def linesToText : Bool → List Char → Except Fault (List Char × List Char)
  | _, [] => .ok ([], [])
  | atStart, c :: rest =>
    if atStart && markerNext (c :: rest) then .error .malformed
    else if isTab c then linesToText false rest
    else match lineEnd? c with
      | some e => (linesToText true rest).map fun (es, rest) => (e :: es, rest)
      | none => .ok ([], c :: rest)

def quotedGap (s : List Char) : Except Fault (List Char × List Char) :=
  let (blanks, rest) := s.span isTab
  match rest.head?.bind lineEnd? with
  | none => .ok (blanks, rest)
  | some e => (linesToText true (rest.drop 1)).map fun (es, rest) => (fold e es, rest)

def escape : List Char → Except Fault (List Char × List Char)
  | [] => .error .malformed
  | c :: rest =>
    match shortEscapes.lookup c, escapeWidth? c with
    | some x, _ => .ok ([x], rest)
    | none, some width =>
      match hexNumber? width rest with
      | none => .error .malformed
      | some n =>
        match Text.charOf? n with
        | some x => .ok ([x], rest.drop width)
        | none => .error (.badCharacter n)
    | none, none => if isLineEnd c then linesToText true rest else .error .malformed

def quotedFrom (double : Bool) : Nat → List Char → Except Fault (List Char × List Char)
  | 0, _ | _, [] => .error .malformed
  | fuel + 1, c :: rest => do
    let quote := if double then '"' else '\''
    if c = quote then
      if !double && rest.head? = some quote then
        let (more, rest) ← quotedFrom double fuel (rest.drop 1)
        return (quote :: more, rest)
      else return ([], rest)
    else
      let (piece, rest) ←
        if double && c = '\\' then escape rest
        else if isSpace c then quotedGap (c :: rest)
        else pure ([c], rest)
      let (more, rest) ← quotedFrom double fuel rest
      return (piece ++ more, rest)

def quoted (double : Bool) (s : List Char) : Except Fault (List Char × List Char) :=
  quotedFrom double (s.length + 1) s

/-- What is kept of the line ends after the last line of a block scalar. -/
inductive Chomping where
  | strip
  | clip
  | keep
deriving DecidableEq, Repr

structure Header where
  chomping : Chomping := .clip
  increment : Option Nat := none

def chomping? : List Char → Option (Chomping × List Char)
  | '+' :: rest => some (.keep, rest)
  | '-' :: rest => some (.strip, rest)
  | _ => none

/-- The digit of an indentation indicator; zero is none. -/
def increment? : List Char → Except Fault (Option Nat × List Char)
  | c :: rest =>
    if c = '0' then .error .malformed
    else if c.isDigit then .ok (some (c.toNat - 48), rest)
    else .ok (none, c :: rest)
  | [] => .ok (none, [])

/-- The rest of a line that may only hold blanks and a comment, with its end. -/
def restOfLine (s : List Char) : Except Fault (List Char) :=
  let s := s.dropWhile (· = ' ')
  let s := if s.head? = some '#' then s.dropWhile fun c => !isLineEnd c else s
  if lineEndNext s then .ok (s.drop 1) else .error .malformed

def header (s : List Char) : Except Fault (Header × List Char) := do
  let (h, rest) ← match chomping? s with
    | some (c, rest) => do
      let (n, rest) ← increment? rest
      pure (({ chomping := c, increment := n } : Header), rest)
    | none => do
      let (n, rest) ← increment? s
      match n, chomping? rest with
      | some _, some (c, rest) => pure (({ chomping := c, increment := n } : Header), rest)
      | _, _ => pure (({ increment := n } : Header), rest)
  if rest.head? = some ' ' || lineEndNext rest then
    let rest ← restOfLine rest
    return (h, rest)
  else throw .malformed

def emptyLines (indent : Nat) : Nat → List Char → List Char × Nat × List Char
  | column, [] => ([], column, [])
  | column, c :: rest =>
    if c = ' ' ∧ column < indent then emptyLines indent (column + 1) rest
    else match lineEnd? c with
      | some e =>
        let (es, column, rest) := emptyLines indent 0 rest
        (e :: es, column, rest)
      | none => ([], column, c :: rest)

/-- Passes over empty lines before the first line of a block scalar: their ends, the deepest column met,
and the column reached. -/
def linesToContent (deepest : Nat) : Nat → List Char → List Char × Nat × Nat × List Char
  | column, [] => ([], deepest, column, [])
  | column, c :: rest =>
    if c = ' ' then linesToContent (max deepest (column + 1)) (column + 1) rest
    else match lineEnd? c with
      | some e =>
        let (es, deepest, column, rest) := linesToContent deepest 0 rest
        (e :: es, deepest, column, rest)
      | none => ([], deepest, column, c :: rest)

/-- The lines of a block scalar: their text without the last line's end, that end, and the ends of the
empty lines after it. -/
structure Lines where
  text : List Char
  last : List Char
  after : List Char
  rest : List Char

def tabNext (s : List Char) : Bool := s.head?.any isTab

/-- Reads the lines at column `indent`; `before` are the ends of the empty lines before the first one.
`fuel` bounds the lines. -/
def blockLines (folded : Bool) (indent : Nat) : Nat → List Char → List Char → Lines
  | 0, _, s => ⟨[], [], [], s⟩
  | fuel + 1, before, s =>
    let (line, rest) := s.span fun c => !isLineEnd c
    let last := (rest.head?.bind lineEnd?).toList
    let (after, column, rest) := emptyLines indent 0 (rest.drop 1)
    if column = indent && !rest.isEmpty then
      let joined := folded && last == ['\n'] && !tabNext s && !tabNext rest
      let between := if joined then (if after.isEmpty then [' '] else []) else last
      let more := blockLines folded indent fuel after rest
      { more with text := before ++ line ++ between ++ more.text }
    else ⟨before ++ line, last, after, rest⟩

def block (folded : Bool) (least : Nat) (s : List Char) : Except Fault (List Char × List Char) := do
  let (h, rest) ← header s
  let (before, indent, column, rest) := match h.increment with
    | some n =>
      let indent := least + n - 1
      let (before, column, rest) := emptyLines indent 0 rest
      (before, indent, column, rest)
    | none =>
      let (before, deepest, column, rest) := linesToContent 0 0 rest
      (before, max least deepest, column, rest)
  let lines : Lines :=
    if column = indent && !rest.isEmpty then blockLines folded indent (rest.length + 1) before rest
    else ⟨[], [], before, rest⟩
  let tail := match h.chomping with
    | .strip => []
    | .clip => lines.last
    | .keep => lines.last ++ lines.after
  return (lines.text ++ tail, lines.rest)

end RpcBindings.Yaml
