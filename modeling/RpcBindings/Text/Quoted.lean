import RpcBindings.Text.Half
import RpcBindings.Text.Ranges
import RpcBindings.Text.PrintableTable

namespace RpcBindings.Text

def isPrintable (c : Char) : Bool :=
  decide (32 ≤ c.toNat) && (decide (c.toNat < 127) || !inRanges unprintableRanges c)

def hex (width n : Nat) : String :=
  let digits := Nat.toDigits 16 n
  String.ofList (List.replicate (width - digits.length) '0' ++ digits)

def quotedChar (quote c : Char) : String :=
  if c = quote then String.ofList ['\\', c]
  else if c = '\\' then "\\\\"
  else if c = '\n' then "\\n"
  else if c = '\r' then "\\r"
  else if c = '\t' then "\\t"
  else if isPrintable c then String.singleton c
  else if c.toNat < 0x100 then "\\x" ++ hex 2 c.toNat
  else if c.toNat < 0x10000 then "\\u" ++ hex 4 c.toNat
  else match halfCode? c with
    | some code => "\\u" ++ hex 4 code
    | none => "\\U" ++ hex 8 c.toNat

/-- The quote that needs fewer escapes; single unless only single quotes occur. -/
def quoteFor (s : List Char) : Char := if s.contains '\'' && !s.contains '"' then '"' else '\''

def quoted (s : String) : String :=
  let quote := quoteFor s.toList
  String.singleton quote ++ String.join (s.toList.map (quotedChar quote)) ++ String.singleton quote

end RpcBindings.Text
