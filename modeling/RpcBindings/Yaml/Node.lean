import RpcBindings.Yaml.Tag
import RpcBindings.Yaml.Token

namespace RpcBindings.Yaml

/-- `merged` tells whether everything that a mapping merges is a mapping. -/
inductive Node where
  | scalar (tag : Tag) (text : String)
  | list (tag : Tag) (items : List Node)
  | map (tag : Tag) (merged : Bool) (entries : List (Node × Node))
deriving Repr, Inhabited

namespace Node

def isMergeKey : Node → Bool
  | scalar .merge _ => true
  | _ => false

def entries? : Node → Option (List (Node × Node))
  | map _ true entries => some entries
  | _ => none

/-- The entries that the value of a merge key gives: those of a mapping, or of mappings in a list, the
last one first. -/
def mergedEntries? : Node → Option (List (Node × Node))
  | list _ items => (items.mapM entries?).map fun es => es.reverse.flatten
  | n => n.entries?

def ofEntries (tag : Tag) (entries : List (Node × Node)) : Node :=
  let own := entries.filter fun (k, _) => !k.isMergeKey
  match (entries.filter fun (k, _) => k.isMergeKey).mapM fun (_, v) => v.mergedEntries? with
  | some more => map tag true (more.flatten ++ own)
  | none => map tag false own

def empty : Node := scalar .null ""

end Node

/-- The tokens left, and the nodes that have been named. -/
structure Composing where
  tokens : List Token
  anchors : List (String × Node) := []

abbrev Composer := StateT Composing (Except Fault)

abbrev Handles := List (String × String)

namespace Composer

def peek : Composer Token := do
  match (← get).tokens.head? with
  | some (.unreadable fault) => throw fault
  | some t => return t
  | none => return .streamEnd

def skip : Composer Unit := modify fun s => { s with tokens := s.tokens.drop 1 }

/-- Passes over a token; there may only be this one. -/
def expect (t : Token) : Composer Unit := do
  if (← peek) = t then skip else throw .malformed

def nextIsAny (ts : List Token) : Composer Bool := return ts.contains (← peek)

def tagName (handles : Handles) (handle : Option String) (suffix : String) : Composer String :=
  match handle with
  | none => return suffix
  | some h => match handles.lookup h with
    | some expansion => return expansion ++ suffix
    | none => throw .malformed

def anchor? : Composer (Option String) := do
  match ← peek with
  | .anchor name => skip; return some name
  | _ => return none

def tag? (handles : Handles) : Composer (Option String) := do
  match ← peek with
  | .tag handle suffix => do
    skip
    return some (← tagName handles handle suffix)
  | _ => return none

def properties (handles : Handles) : Composer (Option String × Option String) := do
  match ← peek with
  | .tag .. =>
    let tag ← tag? handles
    return (← anchor?, tag)
  | _ =>
    let anchor ← anchor?
    return (anchor, ← tag? handles)

def checkAnchor : Option String → Composer Unit
  | none => return ()
  | some name => do if ((← get).anchors.lookup name).isSome then throw .malformed

def name (anchor : Option String) (n : Node) : Composer Unit :=
  match anchor with
  | none => return ()
  | some a => modify fun s => { s with anchors := (a, n) :: s.anchors }

/-- The tag of a collection; `!` stands for no tag. -/
def collectionTag (usual : Tag) : Option String → Tag
  | none | some "!" => usual
  | some t => .ofName t

/-- The tag of a scalar; one without tag, or with the tag `!`, has a tag by its form if `byForm`. -/
def scalarTag (byForm : Bool) (text : String) : Option String → Tag
  | none => if byForm then .ofPlain text else .text
  | some "!" => .ofPlain text
  | some t => .ofName t

mutual

/-- Reads a node. Block collections are read if `inBlock`, and a list without indentation if `bare`.
`fuel` bounds the steps. -/
def node (handles : Handles) (inBlock bare : Bool) : Nat → Composer Node
  | 0 => throw .malformed
  | fuel + 1 => do
    match ← peek with
    | .alias a =>
      skip
      match (← get).anchors.lookup a with
      | some n => return n
      | none => throw .malformed
    | _ =>
      let (anchor, tag) ← properties handles
      let listTag := collectionTag .list tag
      let mapTag := collectionTag .map tag
      let isList (read : Composer (List Node)) : Composer Node := do
        checkAnchor anchor
        name anchor (.list listTag [])
        let n := Node.list listTag (← read)
        name anchor n
        return n
      let isMap (read : Composer (List (Node × Node))) : Composer Node := do
        checkAnchor anchor
        name anchor (.map mapTag true [])
        let n := Node.ofEntries mapTag (← read)
        name anchor n
        return n
      let isScalar (byForm : Bool) (text : String) : Composer Node := do
        checkAnchor anchor
        let n := Node.scalar (scalarTag byForm text tag) text
        name anchor n
        return n
      match ← peek with
      | .scalar text isPlain => skip; isScalar isPlain text
      | .listOpen => skip; isList (flowItems handles true fuel)
      | .mapOpen => skip; isMap (flowEntries handles true fuel)
      | .entry =>
        if bare then isList (bareItems handles fuel)
        else if anchor.isSome || tag.isSome then isScalar true ""
        else throw .malformed
      | .sequenceStart =>
        if inBlock then skip; isList (blockItems handles fuel)
        else if anchor.isSome || tag.isSome then isScalar true ""
        else throw .malformed
      | .mappingStart =>
        if inBlock then skip; isMap (blockEntries handles fuel)
        else if anchor.isSome || tag.isSome then isScalar true ""
        else throw .malformed
      | _ => if anchor.isSome || tag.isSome then isScalar true "" else throw .malformed

def nodeBefore (handles : Handles) (ends : List Token) (inBlock bare : Bool) : Nat → Composer Node
  | 0 => throw .malformed
  | fuel + 1 => do
    if ← nextIsAny ends then return .empty else node handles inBlock bare fuel

/-- The value of a key, empty if there is no sign of one. -/
def valueBefore (handles : Handles) (ends : List Token) (inBlock bare : Bool) : Nat → Composer Node
  | 0 => throw .malformed
  | fuel + 1 => do
    if (← peek) = .value then
      skip
      nodeBefore handles ends inBlock bare fuel
    else return .empty

def blockItems (handles : Handles) : Nat → Composer (List Node)
  | 0 => throw .malformed
  | fuel + 1 => do
    if (← peek) = .entry then
      skip
      let n ← nodeBefore handles [.entry, .blockEnd] true false fuel
      return n :: (← blockItems handles fuel)
    else
      expect .blockEnd
      return []

def bareItems (handles : Handles) : Nat → Composer (List Node)
  | 0 => throw .malformed
  | fuel + 1 => do
    if (← peek) = .entry then
      skip
      let n ← nodeBefore handles [.entry, .key, .value, .blockEnd] true false fuel
      return n :: (← bareItems handles fuel)
    else return []

/-- The entries of a block mapping; a key or a value may be missing. -/
def blockEntries (handles : Handles) : Nat → Composer (List (Node × Node))
  | 0 => throw .malformed
  | fuel + 1 => do
    let ends := [Token.key, .value, .blockEnd]
    if (← peek) = .key then
      skip
      let k ← nodeBefore handles ends true true fuel
      let v ← valueBefore handles ends true true fuel
      return (k, v) :: (← blockEntries handles fuel)
    else
      expect .blockEnd
      return []

def flowItems (handles : Handles) (isFirst : Bool) : Nat → Composer (List Node)
  | 0 => throw .malformed
  | fuel + 1 => do
    if (← peek) = .listClose then
      skip
      return []
    if !isFirst then expect .comma
    match ← peek with
    | .listClose =>
      skip
      return []
    | .key =>
      skip
      let k ← nodeBefore handles [.value, .comma, .listClose] false false fuel
      let v ← valueBefore handles [.comma, .listClose] false false fuel
      return .ofEntries .map [(k, v)] :: (← flowItems handles false fuel)
    | _ =>
      let n ← node handles false false fuel
      return n :: (← flowItems handles false fuel)

/-- The entries of a flow mapping. A node that is not marked as a key has an empty value. -/
def flowEntries (handles : Handles) (isFirst : Bool) : Nat → Composer (List (Node × Node))
  | 0 => throw .malformed
  | fuel + 1 => do
    if (← peek) = .mapClose then
      skip
      return []
    if !isFirst then expect .comma
    match ← peek with
    | .mapClose =>
      skip
      return []
    | .key =>
      skip
      let k ← nodeBefore handles [.value, .comma, .mapClose] false false fuel
      let v ← valueBefore handles [.comma, .mapClose] false false fuel
      return (k, v) :: (← flowEntries handles false fuel)
    | _ =>
      let k ← node handles false false fuel
      return (k, .empty) :: (← flowEntries handles false fuel)

end

/-- Passes over directives: at most one version, of YAML 1, and each handle once. -/
def directives : Nat → Bool → Handles → Composer Handles
  | 0, _, handles => return handles
  | fuel + 1, versioned, handles => do
    match ← peek with
    | .directive (.version major) =>
      if versioned || major != 1 then throw .malformed
      skip
      directives fuel true handles
    | .directive (.handle name expansion) =>
      if (handles.lookup name).isSome then throw .malformed
      skip
      directives fuel versioned (handles ++ [(name, expansion)])
    | .directive .other =>
      skip
      directives fuel versioned handles
    | _ => return handles

/-- The handles that need no directive. -/
def usualHandles : Handles := [("!", "!"), ("!!", Tag.scheme)]

def isDirective : Token → Bool
  | .directive _ => true
  | _ => false

/-- The root of the only document, if there is one. -/
def document (fuel : Nat) : Composer (Option Node) := do
  match ← peek with
  | .streamEnd => return none
  | t =>
    let root ←
      if isDirective t || t = .documentStart then do
        let handles ← directives fuel false []
        expect .documentStart
        let next ← peek
        if isDirective next || [Token.documentStart, .documentEnd, .streamEnd].contains next then
          pure Node.empty
        else node (handles ++ usualHandles) true false fuel
      else node usualHandles true false fuel
    modify fun s => { s with tokens := s.tokens.dropWhile (· == .documentEnd) }
    expect .streamEnd
    return some root

end Composer

/-- The root of the document that tokens make up, if there is a document. -/
def Node.ofTokens? (tokens : List Token) : Except Fault (Option Node) :=
  -- every token is met in at most four steps, one inside the other
  ((Composer.document (4 * tokens.length + 4)).run ⟨tokens, []⟩).map (·.1)

end RpcBindings.Yaml
