import RpcBindings.Yaml.Node

namespace RpcBindings.Yaml

open RpcBindings.Data

abbrev Met := Option (Nat × Fault)

def Met.earlier (a b : Met) : Met :=
  match a, b with
  | some (i, f), some (j, g) => if j < i then some (j, g) else some (i, f)
  | none, b => b
  | a, none => a

def Node.scalarText? : Node → Option String
  | .scalar _ text => some text
  | .list .. => none
  | .map _ _ entries => entries.findSome? fun e => match e with
    | (.scalar .equals _, .scalar _ text) => some text
    | _ => none

def Node.asScalar (n : Node) (tag : Tag) : Except Fault Value :=
  match n.scalarText? with
  | some text => tag.scalar text
  | none => .error .malformed

def Met.ofExcept (depth : Nat) : Except Fault Value → Value × Met
  | .ok v => (v, none)
  | .error f => (.null, some (depth, f))

/-- What stands for a collection of some tag while its members are not known. -/
def Tag.empty : Tag → Value
  | .list => .list []
  | .set => .set []
  | .map => .map []
  | _ => .null

mutual

def Node.value (depth : Nat) : Node → Value × Met
  | .scalar tag text =>
    match tag with
    | .list | .set | .map => (tag.empty, some (depth + 1, .malformed))
    | _ => Met.ofExcept depth (tag.scalar text)
  | .list tag items =>
    match tag with
    | .list =>
      let (vs, met) := itemValues (depth + 1) items
      (.list vs, met)
    | .set | .map => (tag.empty, some (depth + 1, .malformed))
    | _ => (.null, some (depth, .malformed))
  | .map tag merged entries =>
    match tag with
    | .map | .set =>
      let (es, met) := entryValues (depth + 1) entries
      let es := Value.ofEntries es
      (if tag = .set then .set (es.map (·.1)) else .map es,
        if merged then met else some (depth + 1, .malformed))
    | .list => (tag.empty, some (depth + 1, .malformed))
    | _ => Met.ofExcept depth (Node.asScalar (.map tag merged entries) tag)

def itemValues (depth : Nat) : List Node → List Value × Met
  | [] => ([], none)
  | n :: rest =>
    let (v, met) := n.value depth
    let (vs, more) := itemValues depth rest
    (v :: vs, Met.earlier met more)

/-- A key is no collection; the sign `=` reads as a text there. -/
def entryValues (depth : Nat) : List (Node × Node) → List (Value × Value) × Met
  | [] => ([], none)
  | (k, n) :: rest =>
    let (key, keyMet) := match k with
      | .scalar .equals text => (Value.text text, none)
      | k => k.value depth
    let keyMet := Met.earlier keyMet (if key.isKey then none else some (depth, .malformed))
    let (v, met) := n.value depth
    let (es, more) := entryValues depth rest
    ((key, v) :: es, Met.earlier (Met.earlier keyMet met) more)

end

/-- The value of the only document of a text; null if there is no document. -/
def read (text : String) : Except Fault Value := do
  match ← Node.ofTokens? (Token.ofText text) with
  | none => return .null
  | some root =>
    match root.value 0 with
    | (v, none) => return v
    | (_, some (_, fault)) => throw fault

end RpcBindings.Yaml
