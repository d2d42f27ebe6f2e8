import RpcBindings.Data.Calendar
import RpcBindings.Number.Binary64
import RpcBindings.Text.Quoted

namespace RpcBindings.Data

open RpcBindings.Number

inductive Value where
  | null
  | bool (b : Bool)
  | int (n : Int)
  | float (x : Binary64)
  | text (s : String)
  | bytes (b : List UInt8)
  | date (d : Date)
  | dateTime (t : DateTime)
  | list (items : List Value)
  | set (items : List Value)
  | map (entries : List (Value × Value))
deriving Repr, Inhabited

namespace Value

mutual

/-- Values that are built alike; numbers of different types differ. -/
def same : Value → Value → Bool
  | null, null => true
  | bool a, bool b => a == b
  | int m, int n => m == n
  | float x, float y => x == y
  | text s, text t => s == t
  | bytes a, bytes b => a == b
  | date d, date e => d == e
  | dateTime t, dateTime u => t == u
  | list as, list bs => sameItems as bs
  | set as, set bs => sameItems as bs
  | map es, map fs => sameEntries es fs
  | _, _ => false

def sameItems : List Value → List Value → Bool
  | [], [] => true
  | a :: as, b :: bs => same a b && sameItems as bs
  | _, _ => false

def sameEntries : List (Value × Value) → List (Value × Value) → Bool
  | [], [] => true
  | (k, v) :: es, (k', v') :: fs => same k k' && same v v' && sameEntries es fs
  | _, _ => false

end

instance : BEq Value := ⟨same⟩

def kindName : Value → String
  | null => "NoneType"
  | bool _ => "bool"
  | int _ => "int"
  | float _ => "float"
  | text _ => "str"
  | bytes _ => "bytes"
  | date _ => "date"
  | dateTime _ => "datetime"
  | list _ => "list"
  | set _ => "set"
  | map _ => "dict"

def isKey : Value → Bool
  | list _ | set _ | map _ => false
  | _ => true

def keyForm : Value → Value
  | bool b => int (if b then 1 else 0)
  | float x => x.toInt?.elim (float x) int
  | dateTime t => if t.offset.isSome then list [int t.instant] else dateTime t
  | v => v

def sameKey (a b : Value) : Bool := a.keyForm == b.keyForm

/-- Puts `v` under `key`; a key that is present keeps its place and its spelling. -/
def insert (key v : Value) : List (Value × Value) → List (Value × Value)
  | [] => [(key, v)]
  | (k, w) :: rest => if k.sameKey key then (k, v) :: rest else (k, w) :: insert key v rest

def ofEntries (entries : List (Value × Value)) : List (Value × Value) :=
  entries.foldl (fun acc (k, v) => insert k v acc) []

def record (entries : List (String × Value)) : Value := map (entries.map fun (k, v) => (text k, v))

def get? (entries : List (Value × Value)) (key : String) : Option Value :=
  (entries.find? fun (k, _) => k == text key).map (·.2)

/-- Bytes in quotes; everything outside printed ASCII is escaped. -/
def quotedBytes (b : List UInt8) : String :=
  let chars := b.map fun x => Char.ofNat x.toNat
  let quote := Text.quoteFor chars
  let show' (c : Char) := if c.toNat < 127 then Text.quotedChar quote c else "\\x" ++ Text.hex 2 c.toNat
  "b" ++ String.singleton quote ++ String.join (chars.map show') ++ String.singleton quote

/-- The text of a value that is not a collection. -/
def plainText : Value → String
  | null => "None"
  | bool b => if b then "True" else "False"
  | int n => toString n
  | float x => x.text
  | text s => s
  | bytes b => quotedBytes b
  | date d => d.text
  | dateTime t => t.textWith " "
  | _ => ""

end Value

end RpcBindings.Data
