import RpcBindings.Data.Value
import RpcBindings.Text.Blank
import RpcBindings.Text.Search
import RpcBindings.Text.Utf8

namespace RpcBindings.Schema

open RpcBindings.Data

inductive Complaint where
  | missing
  | extra
  | invalidKey
  | notRecord (model : String)
  | notList
  | notMapping
  | notText
  | notUnicode
  | tooShort
  | notChoice (choices : List String)
  | notWord (choices : List String)
  | notBool
  | unreadableBool
  | notInt
  | unreadableInt
  | fractional
  | tooLarge
  | notFinite
  | negative
deriving DecidableEq, Repr

/-- A complaint and the keys and indexes that lead to what it is about. -/
structure Issue where
  place : List String
  complaint : Complaint
deriving DecidableEq, Repr

def alternatives : List String → String
  | [] => ""
  | [w] => "'" ++ w ++ "'"
  | [v, w] => "'" ++ v ++ "' or '" ++ w ++ "'"
  | w :: rest => "'" ++ w ++ "', " ++ alternatives rest

def Complaint.name : Complaint → String
  | missing => "missing"
  | extra => "extra_forbidden"
  | invalidKey => "invalid_key"
  | notRecord _ => "model_type"
  | notList => "list_type"
  | notMapping => "dict_type"
  | notText => "string_type"
  | notUnicode => "string_unicode"
  | tooShort => "string_too_short"
  | notChoice _ => "enum"
  | notWord _ => "literal_error"
  | notBool => "bool_type"
  | unreadableBool => "bool_parsing"
  | notInt => "int_type"
  | unreadableInt => "int_parsing"
  | fractional => "int_from_float"
  | tooLarge => "int_parsing_size"
  | notFinite => "finite_number"
  | negative => "greater_than_equal"

def Complaint.message : Complaint → String
  | missing => "Field required"
  | extra => "Extra inputs are not permitted"
  | invalidKey => "Keys should be strings"
  | notRecord model => "Input should be a valid dictionary or instance of " ++ model
  | notList => "Input should be a valid list"
  | notMapping => "Input should be a valid dictionary"
  | notText => "Input should be a valid string"
  | notUnicode => "Input should be a valid string, unable to parse raw data as a unicode string"
  | tooShort => "String should have at least 1 character"
  | notChoice choices | notWord choices => "Input should be " ++ alternatives choices
  | notBool => "Input should be a valid boolean"
  | unreadableBool => "Input should be a valid boolean, unable to interpret input"
  | notInt => "Input should be a valid integer"
  | unreadableInt => "Input should be a valid integer, unable to parse string as an integer"
  | fractional => "Input should be a valid integer, got a number with a fractional part"
  | tooLarge => "Unable to parse input string as an integer, exceeded maximum size"
  | notFinite => "Input should be a finite number"
  | negative => "Input should be greater than or equal to 0"

def Issue.message (i : Issue) : String :=
  (if i.place.isEmpty then "" else ".".intercalate i.place ++ "\n")
    ++ "  " ++ i.complaint.message ++ " [type=" ++ i.complaint.name ++ "]"

def report (model : String) (issues : List Issue) : String :=
  toString issues.length ++ " validation error" ++ (if issues.length = 1 then "" else "s") ++ " for "
    ++ model ++ String.join (issues.map fun i => "\n" ++ i.message)

inductive Check (α : Type) where
  | pass (a : α)
  | fail (issues : List Issue)

namespace Check

def complain (c : Complaint) : Check α := .fail [⟨[], c⟩]

def map (f : α → β) : Check α → Check β
  | pass a => pass (f a)
  | fail is => fail is

/-- Both checks are made; the issues of the first come first. -/
def and : Check α → Check β → Check (α × β)
  | pass a, pass b => pass (a, b)
  | fail is, fail js => fail (is ++ js)
  | fail is, pass _ => fail is
  | pass _, fail js => fail js

def andThen (c : Check α) (f : α → Check β) : Check β :=
  match c with
  | pass a => f a
  | fail is => fail is

def under (item : String) : Check α → Check α
  | pass a => pass a
  | fail is => fail (is.map fun i => { i with place := item :: i.place })

def toExcept : Check α → Except (List Issue) α
  | pass a => .ok a
  | fail is => .error is

end Check

def placeName (key : String) : String := if key.toList.contains '.' then "`" ++ key ++ "`" else key

def placeOf : Value → String
  | .bool b => if b then "1" else "0"
  | .int n => toString n
  | v => placeName v.plainText

/-- A text; bytes count if they are UTF-8. -/
def text : Value → Check String
  | .text s => .pass s
  | .bytes b =>
    match Text.Utf8.decode ⟨b.toArray⟩ with
    | .ok s => .pass s
    | .error _ => .complain .notUnicode
  | _ => .complain .notText

def nonEmpty (s : String) : Check String := if s = "" then .complain .tooShort else .pass s

def nonEmptyText (v : Value) : Check String := (text v).andThen nonEmpty

def text? (v : Value) : Option String :=
  match text v with
  | .pass s => some s
  | .fail _ => none

def readBool (s : String) : Option Bool :=
  let w := String.ofList (s.toList.map Char.toLower)
  if ["0", "off", "f", "false", "n", "no"].contains w then some false
  else if ["1", "on", "t", "true", "y", "yes"].contains w then some true
  else none

def bool : Value → Check Bool
  | .bool b => .pass b
  | .int n =>
    if n = 0 then .pass false
    else if n = 1 then .pass true
    else if -(Nat.pow 2 63) ≤ n ∧ n < Nat.pow 2 63 then .complain .unreadableBool
    else .complain .notBool
  | .float x =>
    if x.toInt? = some 0 then .pass false
    else if x.toInt? = some 1 then .pass true
    else .complain .notBool
  | v@(.text _) | v@(.bytes _) =>
    match (text? v).bind readBool with
    | some b => .pass b
    | none => .complain .unreadableBool
  | _ => .complain .notBool

def readDigits : List Char → Option (List Char)
  | [] => none
  | c :: rest =>
    if !c.isDigit then none
    else match rest with
      | [] => some [c]
      | '_' :: rest => (readDigits rest).map (c :: ·)
      | rest => (readDigits rest).map (c :: ·)

def readIntDigits (s : List Char) : Option (Bool × List Char) :=
  let (minus, unsigned) : Bool × List Char := match Text.trimBy Text.isWhite s with
    | '-' :: r => (true, r)
    | '+' :: r => (false, r)
    | r => (false, r)
  let (whole, rest) := unsigned.span (· ≠ '.')
  let zeros := match rest with
    | [] => true
    | _ :: places => !places.isEmpty && places.all (· = '0')
  if zeros then (readDigits whole).map fun ds => (minus, ds) else none

/-- An integer; texts and floating-point numbers without a fraction count. -/
def int : Value → Check Int
  | .bool b => .pass (if b then 1 else 0)
  | .int n => .pass n
  | .float x =>
    if !x.isFinite then .complain .notFinite
    else match x.toInt? with
      | none => .complain .fractional
      | some n => if -(Nat.pow 2 63) < n ∧ n < Nat.pow 2 63 then .pass n else .complain .tooLarge
  | v@(.text _) | v@(.bytes _) =>
    match (text? v).bind fun s => readIntDigits s.toList with
    | none => .complain .unreadableInt
    | some (minus, ds) =>
      let ds := ds.dropWhile (· = '0')
      if 4300 < ds.length then .complain .tooLarge
      else
        let n : Int := ds.foldl (fun n c => n * 10 + (c.toNat - 48)) 0
        .pass (if minus then -n else n)
  | _ => .complain .notInt

def natural (v : Value) : Check Nat :=
  (int v).andThen fun n => if n < 0 then .complain .negative else .pass n.toNat

def isKey (name : String) : Value → Bool
  | .text s => s == name
  | _ => false

def field? (name : String) : List (Value × Value) → Option Value
  | [] => none
  | (k, v) :: rest => if isKey name k then some v else field? name rest

def required (name : String) (check : Value → Check α) (entries : List (Value × Value)) : Check α :=
  Check.under name <| match field? name entries with
    | some v => check v
    | none => .complain .missing

def optional (name : String) (default : α) (check : Value → Check α)
    (entries : List (Value × Value)) : Check α :=
  match field? name entries with
  | some v => Check.under name (check v)
  | none => .pass default

/-- Every item passes; places are numbered from `index`. -/
def items (check : Value → Check α) (index : Nat) : List Value → Check (List α)
  | [] => .pass []
  | v :: rest =>
    ((check v).under (toString index)).and (items check (index + 1) rest) |>.map fun (a, as) => a :: as

/-- A list of values that pass; a set counts as a list. -/
def list (check : Value → Check α) : Value → Check (List α)
  | .list vs | .set vs => items check 0 vs
  | _ => .complain .notList

def closed (names : List String) : List (Value × Value) → Check Unit
  | [] => .pass ()
  | (k, _) :: rest =>
    let here : Check Unit := match k with
      | .text s => if names.contains s then .pass () else (Check.complain .extra).under (placeName s)
      | k => (Check.complain .invalidKey).under (placeOf k)
    (here.and (closed names rest)).map fun _ => ()

def record (model : String) (names : List String) (check : List (Value × Value) → Check α) :
    Value → Check α
  | .map entries => ((check entries).and (closed names entries)).map (·.1)
  | _ => .complain (.notRecord model)

end RpcBindings.Schema
