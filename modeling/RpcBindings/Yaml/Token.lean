import RpcBindings.Text.Utf8
import RpcBindings.Yaml.Scalar

namespace RpcBindings.Yaml

inductive Directive where
  | version (major : Nat)
  | handle (name expansion : String)
  | other
deriving DecidableEq, Repr

inductive Token where
  | directive (d : Directive)
  | documentStart
  | documentEnd
  | streamEnd
  | sequenceStart
  | mappingStart
  | blockEnd
  | listOpen
  | listClose
  | mapOpen
  | mapClose
  | entry
  | comma
  | key
  | value
  | alias (name : String)
  | anchor (name : String)
  | tag (handle : Option String) (suffix : String)
  | scalar (text : String) (isPlain : Bool)
  | unreadable (fault : Fault)
deriving DecidableEq, Repr, Inhabited

def isNameChar (c : Char) : Bool := c.isAlphanum || c == '-' || c == '_'

def anchorName (s : List Char) : Except Fault (String × List Char) :=
  let (name, rest) := s.span isNameChar
  let ends := spaceNext rest || ['?', ':', ',', ']', '\x7d', '%', '@', Char.ofNat 0x60].contains (rest.headD ' ')
  if name.isEmpty || !ends then .error .malformed else .ok (String.ofList name, rest)

def isUriChar (c : Char) : Bool := c.isAlphanum || "-;/?:@&=+$,_.!~*'()[]".toList.contains c

def uriBytes : List Char → Except Fault (List UInt8 × List Char)
  | '%' :: a :: b :: rest =>
    match hexNumber? 2 [a, b] with
    | some n => (uriBytes rest).map fun (bs, rest) => (UInt8.ofNat n :: bs, rest)
    | none => .error .malformed
  | '%' :: _ => .error .malformed
  | rest => .ok ([], rest)

def uriFrom : Nat → List Char → Except Fault (String × List Char)
  | 0, s => .ok ("", s)
  | fuel + 1, s => do
    let (piece, rest) := s.span isUriChar
    if rest.head? = some '%' then
      let (bytes, rest) ← uriBytes rest
      match Text.Utf8.decode ⟨bytes.toArray⟩ with
      | .error _ => throw .malformed
      | .ok text =>
        let (more, rest) ← uriFrom fuel rest
        return (String.ofList piece ++ text ++ more, rest)
    else return (String.ofList piece, rest)

def uri (s : List Char) : Except Fault (String × List Char) := do
  let (text, rest) ← uriFrom (s.length + 1) s
  if rest.length = s.length then throw .malformed else return (text, rest)

def tagHandle : List Char → Except Fault (String × List Char)
  | '!' :: ' ' :: rest => .ok ("!", ' ' :: rest)
  | '!' :: rest =>
    match rest.span isNameChar with
    | (name, '!' :: rest) => .ok ("!" ++ String.ofList name ++ "!", rest)
    | _ => .error .malformed
  | _ => .error .malformed

def tag (s : List Char) : Except Fault (Token × List Char) := do
  let (t, rest) ← match s with
    | '!' :: '<' :: rest => do
      let (text, rest) ← uri rest
      match rest with
      | '>' :: rest => pure (Token.tag none text, rest)
      | _ => throw .malformed
    | _ =>
      let body := s.drop 1
      if spaceNext body then pure (Token.tag none "!", body)
      else do
        let upTo := body.takeWhile fun c => c != ' ' && !isLineEnd c
        let (handle, rest) ← if upTo.contains '!' then tagHandle s else pure ("!", body)
        let (suffix, rest) ← uri rest
        pure (Token.tag (some handle) suffix, rest)
  if rest.head? = some ' ' || lineEndNext rest then return (t, rest) else throw .malformed

def decimal (s : List Char) : Except Fault (Nat × List Char) :=
  match s.span Char.isDigit with
  | ([], _) => .error .malformed
  | (ds, rest) => .ok (Json.digitsValue ds, rest)

def directive (s : List Char) : Except Fault (Directive × List Char) := do
  let closed (rest : List Char) : Bool := rest.head? = some ' ' || lineEndNext rest
  let (name, rest) := s.span isNameChar
  if name.isEmpty || !closed rest then throw .malformed
  let skip (rest : List Char) : List Char := rest.dropWhile (· = ' ')
  let (d, rest) ←
    if name = "YAML".toList then do
      let (major, rest) ← decimal (skip rest)
      if rest.head? ≠ some '.' then throw .malformed
      let (_, rest) ← decimal (rest.drop 1)
      if closed rest then pure (Directive.version major, rest) else throw .malformed
    else if name = "TAG".toList then do
      let (handle, rest) ← tagHandle (skip rest)
      if rest.head? ≠ some ' ' then throw .malformed
      let (expansion, rest) ← uri (skip rest)
      if closed rest then pure (Directive.handle handle expansion, rest) else throw .malformed
    else pure (Directive.other, rest.dropWhile fun c => !isLineEnd c)
  let rest ← restOfLine rest
  return (d, rest)

structure Cursor where
  rest : List Char
  index : Nat := 0
  line : Nat := 0
  column : Nat := 0

def Cursor.next (c : Cursor) : Cursor :=
  match c.rest with
  | [] => c
  | x :: rest =>
    if isLineEnd x then ⟨rest, c.index + 1, c.line + 1, 0⟩
    else ⟨rest, c.index + 1, c.line, if x = '\ufeff' then c.column else c.column + 1⟩

def Cursor.moveTo (c : Cursor) (rest : List Char) : Cursor :=
  (List.range (c.rest.length - rest.length)).foldl (fun c _ => c.next) c

/-- A place where a key may have begun: the depth of flow collections there, the number of tokens before
it, and whether nothing but a key may stand there. -/
structure Candidate where
  depth : Nat
  position : Nat
  required : Bool
  index : Nat
  line : Nat
  column : Nat

/-- The state of the scanner. Tokens stand latest first, and the columns of open block collections
innermost first. -/
structure Scanner where
  cursor : Cursor
  tokens : List Token := []
  columns : List Nat := []
  depth : Nat := 0
  keyAllowed : Bool := true
  candidates : List Candidate := []

abbrev Scanning := StateT Scanner (Except Fault)

namespace Scanning

def emit (t : Token) : Scanning Unit := modify fun s => { s with tokens := t :: s.tokens }

def emitAt (position : Nat) (t : Token) : Scanning Unit := modify fun s =>
  let later := s.tokens.length - position
  { s with tokens := s.tokens.take later ++ t :: s.tokens.drop later }

def moveTo (rest : List Char) : Scanning Unit := modify fun s => { s with cursor := s.cursor.moveTo rest }

def allowKey (allowed : Bool) : Scanning Unit := modify fun s => { s with keyAllowed := allowed }

def giveUp (p : Candidate → Bool) : Scanning Unit := do
  let s ← get
  if s.candidates.any fun c => p c && c.required then throw .malformed
  set { s with candidates := s.candidates.filter fun c => !p c }

/-- A key stands on one line and is not long. -/
def giveUpStale : Scanning Unit := do
  let here := (← get).cursor
  giveUp fun c => c.line != here.line || decide (1024 < here.index - c.index)

def giveUpHere : Scanning Unit := do
  let depth := (← get).depth
  giveUp fun c => c.depth == depth

def note : Scanning Unit := do
  let s ← get
  if s.keyAllowed then
    giveUpHere
    let c := s.cursor
    let required := s.depth == 0 && s.columns.head? == some c.column
    modify fun s => { s with
      candidates := ⟨s.depth, s.tokens.length, required, c.index, c.line, c.column⟩ :: s.candidates }

/-- Ends the block collections that stand deeper than `column`; without a column, all. -/
def unwind (column : Option Nat) : Scanning Unit := do
  let s ← get
  if s.depth = 0 then
    let (ended, rest) := s.columns.span fun c => column.all (· < c)
    set { s with columns := rest, tokens := List.replicate ended.length Token.blockEnd ++ s.tokens }

/-- Starts a block collection at `column`, unless the innermost one stands there or deeper. -/
def startsAt (column : Nat) : Scanning Bool := do
  let s ← get
  if s.columns.head?.all (· < column) then
    set { s with columns := column :: s.columns }
    return true
  else return false

/-- Whether a line ends before the next token; `inComment` holds within a comment. -/
def passOver : Bool → List Char → Bool × List Char
  | _, [] => (false, [])
  | inComment, c :: rest =>
    if isLineEnd c then (true, (passOver false rest).2)
    else if inComment || c == ' ' then passOver inComment rest
    else if c == '#' then passOver true rest
    else (false, c :: rest)

def toToken : Scanning Unit := do
  let s ← get
  let (lineEnded, rest) := passOver false s.cursor.rest
  moveTo rest
  if lineEnded && s.depth = 0 then allowKey true

def marker (t : Token) (rest : List Char) : Scanning Unit := do
  unwind none
  giveUpHere
  allowKey false
  moveTo rest
  emit t

def flowOpen (t : Token) (rest : List Char) : Scanning Unit := do
  note
  modify fun s => { s with depth := s.depth + 1 }
  allowKey true
  moveTo rest
  emit t

def flowClose (t : Token) (rest : List Char) : Scanning Unit := do
  giveUpHere
  modify fun s => { s with depth := s.depth - 1 }
  allowKey false
  moveTo rest
  emit t

/-- In block context the next item or key may only stand where a key may, and starts a collection if it
is the first one. -/
def startItem (start : Token) : Scanning Unit := do
  let s ← get
  if s.depth = 0 then
    if !s.keyAllowed then throw .malformed
    if ← startsAt s.cursor.column then emit start

def entry (rest : List Char) : Scanning Unit := do
  startItem .sequenceStart
  allowKey true
  giveUpHere
  moveTo rest
  emit .entry

def key (rest : List Char) : Scanning Unit := do
  startItem .mappingStart
  allowKey ((← get).depth = 0)
  giveUpHere
  moveTo rest
  emit .key

def value (rest : List Char) : Scanning Unit := do
  let s ← get
  match s.candidates.find? (·.depth == s.depth) with
  | some c =>
    set { s with candidates := s.candidates.filter (·.depth != s.depth) }
    emitAt c.position .key
    if s.depth = 0 then
      if ← startsAt c.column then emitAt c.position .mappingStart
    allowKey false
  | none =>
    startItem .mappingStart
    allowKey (s.depth = 0)
    giveUpHere
  moveTo rest
  emit .value

def content (read : Except Fault (Token × List Char)) : Scanning Unit := do
  note
  allowKey false
  let (t, rest) ← read
  moveTo rest
  emit t

def blockScalar (folded : Bool) (rest : List Char) : Scanning Unit := do
  allowKey true
  giveUpHere
  let least := match (← get).columns with
    | [] => 1
    | c :: _ => c + 1
  let (text, rest) ← block folded least rest
  moveTo rest
  emit (.scalar (String.ofList text) false)

def plainScalar (s : List Char) : Scanning Unit := do
  note
  let scanner ← get
  let indent := match scanner.columns with
    | [] => 0
    | c :: _ => c + 1
  let p := plain (scanner.depth != 0) indent s
  allowKey p.lineEnded
  moveTo p.rest
  emit (.scalar (String.ofList p.text) true)

def beginsPlain (flow : Bool) : List Char → Bool
  | [] => false
  | c :: rest =>
    let signs := "-?:,[]#&*!|>'\"%@".toList ++ ['\x7b', '\x7d', Char.ofNat 0x60]
    (!isSpace c && !signs.contains c) ||
      (!spaceNext rest && (c == '-' || (!flow && (c == '?' || c == ':'))))

/-- Reads the next token; tells whether there may be another one. -/
def token : Scanning Bool := do
  toToken
  giveUpStale
  let scanner ← get
  unwind (some scanner.cursor.column)
  let flow := scanner.depth != 0
  let lineStart := scanner.cursor.column == 0
  let s := scanner.cursor.rest
  match s with
  | [] =>
    unwind none
    giveUpHere
    emit .streamEnd
    return false
  | c :: rest =>
    let sign (x : Char) : Bool := c == x && (flow || spaceNext rest)
    if lineStart && c == '%' then
      unwind none
      giveUpHere
      allowKey false
      let (d, rest) ← directive rest
      moveTo rest
      emit (.directive d)
    else if lineStart && c == '-' && markerNext s then marker .documentStart (s.drop 3)
    else if lineStart && c == '.' && markerNext s then marker .documentEnd (s.drop 3)
    else if c == '[' then flowOpen .listOpen rest
    else if c == '\x7b' then flowOpen .mapOpen rest
    else if c == ']' then flowClose .listClose rest
    else if c == '\x7d' then flowClose .mapClose rest
    else if c == ',' then
      allowKey true
      giveUpHere
      moveTo rest
      emit .comma
    else if c == '-' && spaceNext rest then entry rest
    else if sign '?' then key rest
    else if sign ':' then value rest
    else if c == '*' then content ((anchorName rest).map fun (n, rest) => (.alias n, rest))
    else if c == '&' then content ((anchorName rest).map fun (n, rest) => (.anchor n, rest))
    else if c == '!' then content (tag s)
    else if c == '|' && !flow then blockScalar false rest
    else if c == '>' && !flow then blockScalar true rest
    else if c == '\'' || c == '"' then
      content ((quoted (c == '"') rest).map fun (t, rest) => (.scalar (String.ofList t) false, rest))
    else if beginsPlain flow s then plainScalar s
    else throw .malformed
    return true

end Scanning

def Scanner.settled (s : Scanner) : List Token :=
  let here := s.cursor
  let waiting := s.candidates.filter fun c => c.line == here.line && decide (here.index - c.index ≤ 1024)
  s.tokens.drop (s.tokens.length - (waiting.map (·.position)).foldl min s.tokens.length)

def Scanner.allTokens : Nat → Scanner → List Token
  | 0, s => s.tokens
  | fuel + 1, s =>
    match Scanning.token.run s with
    | .ok (true, s) => allTokens fuel s
    | .ok (false, s) => s.tokens
    | .error fault => .unreadable fault :: s.settled

def isAllowed (c : Char) : Bool :=
  Text.inRanges [(0x9, 0xa), (0xd, 0xd), (0x20, 0x7e), (0x85, 0x85), (0xa0, 0xfffd), (0x10000, 0x10ffff)] c

def Token.ofText (text : String) : List Token :=
  let s := text.toList
  if s.all isAllowed then
    let s := if s.head? = some '\ufeff' then s.drop 1 else s
    (Scanner.allTokens (s.length + 1) ⟨⟨s, 0, 0, 0⟩, [], [], 0, true, []⟩).reverse
  else [.unreadable .malformed]

end RpcBindings.Yaml
