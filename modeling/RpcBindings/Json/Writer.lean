import RpcBindings.Data.Value
import RpcBindings.Json.Text

namespace RpcBindings.Json

open RpcBindings.Data

/-- How values are laid out: the characters that literals hold, and the indentation of each level. -/
structure Layout where
  repertoire : Repertoire
  indent : Option Nat

def Layout.lineBreak (l : Layout) (depth : Nat) : String :=
  match l.indent with
  | some width => "\n" ++ String.ofList (List.replicate (width * depth) ' ')
  | none => ""

def Layout.comma (l : Layout) : String := if l.indent.isSome then "," else ", "

/-- Keys of objects are texts; any other key is written as its text. -/
def keyLiteral (l : Layout) (key : Value) : String := literal l.repertoire key.plainText

mutual

def write (l : Layout) (depth : Nat) : Value → String
  | .null => "null"
  | .bool b => if b then "true" else "false"
  | .int n => toString n
  | .float x => x.text
  | .list [] | .set [] => "[]"
  | .list items | .set items =>
    "[" ++ writeItems l (depth + 1) true items ++ l.lineBreak depth ++ "]"
  | .map [] => "\x7b\x7d"
  | .map entries =>
    "\x7b" ++ writeEntries l (depth + 1) true entries ++ l.lineBreak depth ++ "\x7d"
  | v => literal l.repertoire v.plainText

def writeItems (l : Layout) (depth : Nat) (first : Bool) : List Value → String
  | [] => ""
  | v :: rest => (if first then "" else l.comma) ++ l.lineBreak depth ++ write l depth v
      ++ writeItems l depth false rest

def writeEntries (l : Layout) (depth : Nat) (first : Bool) : List (Value × Value) → String
  | [] => ""
  | (k, v) :: rest => (if first then "" else l.comma) ++ l.lineBreak depth ++ keyLiteral l k ++ ": "
      ++ write l depth v ++ writeEntries l depth false rest

end

theorem write_null (l : Layout) (depth : Nat) : write l depth .null = "null" := by
  rw [write]

end RpcBindings.Json
