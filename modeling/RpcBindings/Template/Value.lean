import RpcBindings.Json.Writer
import RpcBindings.Template.Basic
import RpcBindings.Text.Case

namespace RpcBindings.Template

inductive Value where
  | undefined (reason : String)
  | none
  | bool (b : Bool)
  | int (n : Int)
  | text (s : String)
  | list (items : List Value)
  | stream (items : List Value)
  | record (entries : List (String × Value))
  | loop (index count : Nat)
deriving Repr, Inhabited

namespace Value

def typeName : Value → String
  | undefined _ => "StrictUndefined"
  | none => "NoneType"
  | bool _ => "bool"
  | int _ => "int"
  | text _ => "str"
  | list _ => "list"
  | stream _ => "generator"
  | record _ => "dict"
  | loop .. => "LoopContext"

def ownerName : Value → String
  | none => "None"
  | loop .. => "jinja2.runtime.LoopContext object"
  | v => v.typeName ++ " object"

mutual

def inner : Value → String
  | undefined _ => "Undefined"
  | none => "None"
  | bool b => if b then "True" else "False"
  | int n => toString n
  | text s => Text.quoted s
  | list items => "[" ++ innerItems true items ++ "]"
  | stream _ => "<generator object>"
  | record entries => "\x7b" ++ innerEntries true entries ++ "\x7d"
  | loop index count => "<LoopContext " ++ toString (index + 1) ++ "/" ++ toString count ++ ">"

def innerItems (first : Bool) : List Value → String
  | [] => ""
  | v :: rest => (if first then "" else ", ") ++ inner v ++ innerItems false rest

def innerEntries (first : Bool) : List (String × Value) → String
  | [] => ""
  | (k, v) :: rest =>
    (if first then "" else ", ") ++ Text.quoted k ++ ": " ++ inner v ++ innerEntries false rest

end

mutual

def hasText : Value → Bool
  | int n => decide ((Nat.toDigits 10 n.natAbs).length ≤ 4300)
  | list items => itemsHaveText items
  | record entries => entriesHaveText entries
  | _ => true

def itemsHaveText : List Value → Bool
  | [] => true
  | v :: rest => hasText v && itemsHaveText rest

def entriesHaveText : List (String × Value) → Bool
  | [] => true
  | (_, v) :: rest => hasText v && entriesHaveText rest

end

def print : Value → Except Error String
  | undefined reason => .error (.undefined reason)
  | text s => .ok s
  | v => if v.hasText then .ok v.inner else .error .tooManyDigits

def truth : Value → Except Error Bool
  | undefined reason => .error (.undefined reason)
  | none => .ok false
  | bool b => .ok b
  | int n => .ok (n != 0)
  | text s => .ok (s != "")
  | list items => .ok (!items.isEmpty)
  | record entries => .ok (!entries.isEmpty)
  | stream _ | loop .. => .ok true

def items : Value → Except Error (List Value)
  | undefined reason => .error (.undefined reason)
  | list items | stream items => .ok items
  | text s => .ok (s.toList.map fun c => text (String.singleton c))
  | record entries => .ok (entries.map fun (k, _) => text k)
  | v => .error (.wrongType ("'" ++ v.typeName ++ "' object is not iterable"))

def length : Value → Except Error Nat
  | undefined reason => .error (.undefined reason)
  | list items => .ok items.length
  | text s => .ok s.length
  | record entries => .ok entries.length
  | loop _ count => .ok count
  | v => .error (.wrongType ("object of type '" ++ v.typeName ++ "' has no len()"))

def number? : Value → Option Int
  | bool b => some (if b then 1 else 0)
  | int n => some n
  | _ => Option.none

mutual

def equals : Value → Value → Bool
  | none, none => true
  | text a, text b => a == b
  | list as, list bs => equalItems as bs
  | record as, record bs => as.length == bs.length && equalEntries as bs
  | a, b =>
    match a.number?, b.number? with
    | some m, some n => m == n
    | _, _ => false

def equalItems : List Value → List Value → Bool
  | [], [] => true
  | a :: as, b :: bs => equals a b && equalItems as bs
  | _, _ => false

def equalEntries : List (String × Value) → List (String × Value) → Bool
  | [], _ => true
  | (k, v) :: rest, other =>
    (match other.lookup k with
      | some w => equals v w
      | Option.none => false) && equalEntries rest other

end

def defined : Value → Except Error Value
  | undefined reason => .error (.undefined reason)
  | v => .ok v

def loopAttribute? (index count : Nat) : String → Option Value
  | "index" => some (int (index + 1))
  | "index0" => some (int index)
  | "revindex" => some (int (count - index))
  | "revindex0" => some (int (count - index - 1))
  | "first" => some (bool (index == 0))
  | "last" => some (bool (index + 1 == count))
  | "length" => some (int count)
  | "depth" => some (int 1)
  | "depth0" => some (int 0)
  | _ => Option.none

/-- The attribute of a value, undefined if it has none of the name. -/
def property (name : String) (v : Value) : Except Error Value :=
  match v with
  | undefined reason => .error (.undefined reason)
  | record entries =>
    .ok ((entries.lookup name).getD
      (undefined (Text.quoted v.ownerName ++ " has no attribute " ++ Text.quoted name)))
  | loop index count =>
    .ok ((loopAttribute? index count name).getD
      (undefined (Text.quoted v.ownerName ++ " has no attribute " ++ Text.quoted name)))
  | v => .ok (undefined (Text.quoted v.ownerName ++ " has no attribute " ++ Text.quoted name))

/-- The item at a position, counted from the end if it is negative. -/
def atPosition (as : List α) (n : Int) : Option α :=
  if 0 ≤ n then as[n.toNat]? else if -n ≤ as.length then as[(as.length + n).toNat]? else Option.none

/-- The item of a value under an index, undefined if it has none. -/
def item (v index : Value) : Except Error Value := do
  let v ← v.defined
  let index ← index.defined
  match index with
  | text name => v.property name
  | _ =>
    let found : Option Value := match index.number?, v with
      | some n, list items => atPosition items n
      | some n, text s => (atPosition s.toList n).map fun c => text (String.singleton c)
      | _, _ => Option.none
    match found with
    | some w => return w
    | Option.none => return undefined (v.ownerName ++ " has no element " ++ (← index.print))

def occursIn (needle : List Char) : List Char → Bool
  | [] => needle.isEmpty
  | c :: rest => needle.isPrefixOf (c :: rest) || occursIn needle rest

def member (a b : Value) : Except Error Bool := do
  let b ← b.defined
  match b, a with
  | text s, text t => return occursIn t.toList s.toList
  | text _, a =>
    let a ← a.defined
    throw (.wrongType ("'in <string>' requires string as left operand, not " ++ a.typeName))
  | list [], _ | stream [], _ => return false
  | list items, a | stream items, a =>
    let a ← a.defined
    return items.any a.equals
  | record entries, text k => return (entries.lookup k).isSome
  | record _, _ => return false
  | b, _ => throw (.wrongType ("argument of type '" ++ b.typeName ++ "' is not iterable"))

def order (symbol : String) (a b : Value) : Except Error Ordering := do
  let a ← a.defined
  let b ← b.defined
  match a, b with
  | text s, text t => return compareOfLessAndEq s t
  | a, b =>
    match a.number?, b.number? with
    | some m, some n => return compareOfLessAndEq m n
    | _, _ => throw (.wrongType ("'" ++ symbol ++ "' not supported between instances of '"
        ++ a.typeName ++ "' and '" ++ b.typeName ++ "'"))

def compare (op : Comparison) (a b : Value) : Except Error Bool :=
  match op with
  | .equal => do return (← a.defined).equals (← b.defined)
  | .notEqual => do return !(← a.defined).equals (← b.defined)
  | .less => (order "<" a b).map (· == .lt)
  | .lessOrEqual => (order "<=" a b).map (· != .gt)
  | .greater => (order ">" a b).map (· == .gt)
  | .greaterOrEqual => (order ">=" a b).map (· != .lt)
  | .member => member a b
  | .notMember => (member a b).map (!·)

def add (a b : Value) : Except Error Value := do
  let a ← a.defined
  let b ← b.defined
  match a, b with
  | text s, text t => return text (s ++ t)
  | list as, list bs => return list (as ++ bs)
  | a, b =>
    match a.number?, b.number? with
    | some m, some n => return int (m + n)
    | _, _ => throw (.wrongType ("unsupported operand type(s) for +: '" ++ a.typeName ++ "' and '"
        ++ b.typeName ++ "'"))

def subtract (a b : Value) : Except Error Value := do
  let a ← a.defined
  let b ← b.defined
  match a.number?, b.number? with
  | some m, some n => return int (m - n)
  | _, _ => throw (.wrongType ("unsupported operand type(s) for -: '" ++ a.typeName ++ "' and '"
      ++ b.typeName ++ "'"))

mutual

/-- The data that a value is; loops, streams and undefined values are none. -/
def toData : Value → Except Error Data.Value
  | none => .ok .null
  | bool b => .ok (.bool b)
  | int n => .ok (.int n)
  | text s => .ok (.text s)
  | list items => (dataItems items).map .list
  | record entries => (dataEntries entries).map fun es =>
      .map (es.mergeSort (fun a b => compareOfLessAndEq a.1 b.1 != .gt) |>.map fun (k, v) => (.text k, v))
  | v => .error (.wrongType ("Object of type " ++ v.typeName ++ " is not JSON serializable"))

def dataItems : List Value → Except Error (List Data.Value)
  | [] => .ok []
  | v :: rest => do
    let d ← toData v
    let ds ← dataItems rest
    return d :: ds

def dataEntries : List (String × Value) → Except Error (List (String × Data.Value))
  | [] => .ok []
  | (k, v) :: rest => do
    let d ← toData v
    let ds ← dataEntries rest
    return (k, d) :: ds

end

/-- How values are written into scripts: on one line, keys in order, in characters that are safe in
a web page. -/
def scriptLayout : Json.Layout := ⟨Json.Repertoire.markup, Option.none⟩

def filter (name : String) (v : Value) (args : List Value) : Except Error Value :=
  match name, v, args with
  | "default", undefined _, args | "d", undefined _, args => .ok (args.headD (text ""))
  | "default", v, [_, test] | "d", v, [_, test] => do
    if (← test.truth) && !(← v.truth) then return args.headD (text "") else return v
  | "default", v, _ | "d", v, _ => .ok v
  | "join", v, args => do
    let items ← v.items
    let texts ← items.mapM print
    let sep ← (args.headD (text "")).print
    return text (sep.intercalate texts)
  | "tojson", v, _ => do
    let d ← toData v
    if v.hasText then return text (Json.write scriptLayout 0 d) else throw .tooManyDigits
  | "upper", v, _ => v.print.map fun s => text (Text.upper s)
  | "lower", v, _ => v.print.map fun s => text (Text.lower s)
  | "length", v, _ | "count", v, _ => v.length.map fun n => int n
  | "list", v, _ => v.items.map list
  | "selectattr", v, arg :: _ => do
    let items ← v.items
    let chosen ← items.filterM fun i => do (← i.item arg).truth
    return stream chosen
  | name, _, _ => .error (.missingFilter name)

end Value

end RpcBindings.Template
