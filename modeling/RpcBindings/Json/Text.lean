import RpcBindings.Text.Quoted

namespace RpcBindings.Json

/-- The short escape of a character, if it has one. -/
def shortEscape? : Char → Option Char
  | '"' => some '"'
  | '\\' => some '\\'
  | '\n' => some 'n'
  | '\r' => some 'r'
  | '\t' => some 't'
  | '\x08' => some 'b'
  | '\x0c' => some 'f'
  | _ => none

def unescape? : Char → Option Char
  | '"' => some '"'
  | '\\' => some '\\'
  | '/' => some '/'
  | 'b' => some '\x08'
  | 'f' => some '\x0c'
  | 'n' => some '\n'
  | 'r' => some '\r'
  | 't' => some '\t'
  | _ => none

def unitEscape (n : Nat) : List Char := '\\' :: 'u' :: (Text.hex 4 n).toList

def wideEscape (c : Char) : List Char :=
  let n := c.toNat
  if n < 0x10000 then unitEscape n
  else unitEscape (0xd800 + (n - 0x10000) / 0x400) ++ unitEscape (0xdc00 + (n - 0x10000) % 0x400)

/-- Which characters a literal may hold as they are; all others are escaped. -/
structure Repertoire where
  holds : Char → Bool

def Repertoire.unicode : Repertoire := ⟨fun c => decide (0x20 ≤ c.toNat)⟩

def Repertoire.ascii : Repertoire := ⟨fun c => decide (0x20 ≤ c.toNat) && decide (c.toNat ≤ 0x7e)⟩

def Repertoire.markup : Repertoire :=
  ⟨fun c => Repertoire.ascii.holds c && !(['<', '>', '&', '\''].contains c)⟩

def escapeChar (r : Repertoire) (c : Char) : List Char :=
  match shortEscape? c with
  | some e => ['\\', e]
  | none => if r.holds c then [c] else wideEscape c

def literal (r : Repertoire) (s : String) : String :=
  String.ofList ('"' :: s.toList.flatMap (escapeChar r) ++ ['"'])

end RpcBindings.Json
