import RpcBindings.Template.Token
import RpcBindings.Text.Lines

namespace RpcBindings.Template

inductive Piece where
  | text (s : List Char)
  | output (tokens : List Token)
  | statement (tokens : List Token)
deriving DecidableEq, Repr

inductive TagKind where
  | output
  | statement
  | comment
deriving DecidableEq, Repr

def tagStart? : List Char → Option (TagKind × List Char)
  | '\x7b' :: '\x7b' :: rest => some (.output, rest)
  | '\x7b' :: '%' :: rest => some (.statement, rest)
  | '\x7b' :: '#' :: rest => some (.comment, rest)
  | _ => none

def spanText : List Char → List Char × Option (TagKind × List Char)
  | [] => ([], none)
  | c :: rest =>
    match tagStart? (c :: rest) with
    | some tag => ([], some tag)
    | none => let (front, tag) := spanText rest; (c :: front, tag)

inductive Sign where
  | minus
  | plus
  | neither
deriving DecidableEq, Repr

def sign : List Char → Sign × List Char
  | '-' :: rest => (.minus, rest)
  | '+' :: rest => (.plus, rest)
  | rest => (.neither, rest)

/-- Drops the blanks after the last line break, if there is nothing else; at the start of a line the
whole text counts. -/
def dropIndent (atLineStart : Bool) (s : List Char) : List Char :=
  let line := (s.reverse.takeWhile (· ≠ '\n')).reverse
  let whole := line.length == s.length
  if (!whole || atLineStart) && line.all Text.isBlank then s.take (s.length - line.length) else s

def trimBefore (kind : TagKind) (sign : Sign) (atLineStart : Bool) (s : List Char) : List Char :=
  match sign, kind with
  | .minus, _ => (s.reverse.dropWhile Text.isBlank).reverse
  | .plus, _ => s
  | .neither, .output => s
  | .neither, _ => dropIndent atLineStart s

def dropBreak : List Char → List Char
  | '\n' :: rest => rest
  | s => s

def outputEnd : TagEnd := tagEnd? ['\x7d', '\x7d']

/-- The end of a statement; a line break after it belongs to it. -/
def statementEnd (s : List Char) : Option (List Char) :=
  match s with
  | '+' :: '%' :: '\x7d' :: rest => some rest
  | '-' :: _ => tagEnd? ['%', '\x7d'] s
  | s => (tagEnd? ['%', '\x7d'] s).map dropBreak

def afterComment : List Char → Option (List Char)
  | [] => none
  | '+' :: '#' :: '\x7d' :: rest => some rest
  | '-' :: '#' :: '\x7d' :: rest => some (rest.dropWhile Text.isBlank)
  | '#' :: '\x7d' :: rest => some (dropBreak rest)
  | _ :: rest => afterComment rest

def word? (w : String) (s : List Char) : Option (List Char) :=
  let s := s.dropWhile Text.isBlank
  if w.toList.isPrefixOf s then some ((s.drop w.length).dropWhile Text.isBlank) else none

def rawStart? (s : List Char) : Option (List Char) := (word? "raw" s).bind (tagEnd? ['%', '\x7d'])

def spanRaw : List Char → Option (List Char × Sign × List Char)
  | [] => none
  | c :: rest =>
    let here := match c, rest with
      | '\x7b', '%' :: inner =>
        let (mark, inner) := sign inner
        ((word? "endraw" inner).bind statementEnd).map fun after => ([], mark, after)
      | _, _ => none
    match here with
    | some found => some found
    | none => (spanRaw rest).map fun (front, found) => (c :: front, found)

def breaksLine (consumed rest : List Char) : Bool :=
  (consumed.take (consumed.length - rest.length)).getLast? == some '\n'

def textPiece (s : List Char) : List Piece := if s.isEmpty then [] else [.text s]

def pieces : Nat → Bool → List Char → Except Error (List Piece)
  | 0, _, _ => .error .malformed
  | fuel + 1, atLineStart, s =>
    match spanText s with
    | (front, none) => .ok (textPiece front)
    | (front, some (kind, inner)) => do
      let (mark, inner) := sign inner
      let front := textPiece (trimBefore kind mark atLineStart front)
      match kind with
      | .comment =>
        match afterComment inner with
        | none => throw .malformed
        | some rest => return front ++ (← pieces fuel (breaksLine s rest) rest)
      | .output => do
        let (tokens, rest) ← scanTag outputEnd (inner.length + 1) [] inner
        return front ++ .output tokens :: (← pieces fuel (breaksLine s rest) rest)
      | .statement =>
        match rawStart? inner with
        | some body =>
          match spanRaw body with
          | none => throw .malformed
          | some (raw, mark, rest) =>
            let raw := textPiece (trimBefore .statement mark (breaksLine s body) raw)
            return front ++ raw ++ (← pieces fuel (breaksLine s rest) rest)
        | none => do
          let (tokens, rest) ← scanTag statementEnd (inner.length + 1) [] inner
          return front ++ .statement tokens :: (← pieces fuel (breaksLine s rest) rest)

def piecesOf (source : String) : Except Error (List Piece) :=
  let s := Text.unifyLineEnds source.toList
  pieces (s.length + 1) true s

end RpcBindings.Template
