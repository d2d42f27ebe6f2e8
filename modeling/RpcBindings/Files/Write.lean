import RpcBindings.Files.Tree
import RpcBindings.Log
import RpcBindings.Text.Lines

namespace RpcBindings.Files

open RpcBindings.Path

/-- What happens to a tree, and what is reported about it. -/
structure World where
  tree : Tree
  log : List Log.Event := []

abbrev Action (ε : Type) := EStateM ε World

namespace Action

def report (e : Log.Event) : Action ε Unit := modify fun w => { w with log := w.log ++ [e] }

def reportAll (es : List Log.Event) : Action ε Unit := modify fun w => { w with log := w.log ++ es }

/-- An operation that only looks at the tree. -/
def look (f : Tree → Except ε α) : Action ε α := do
  match f (← get).tree with
  | .ok a => return a
  | .error e => throw e

def change (f : Tree → Except ε Tree) : Action ε Unit := do
  let t ← look f
  modify fun w => { w with tree := t }

def liftError (f : ε → δ) (a : Action ε α) : Action δ α := fun w =>
  match a w with
  | .ok v w => .ok v w
  | .error e w => .error (f e) w

/-- The outcome of a step, error or not. -/
def attempt (a : Action ε α) : Action δ (Except ε α) := fun w =>
  match a w with
  | .ok v w => .ok (.ok v) w
  | .error e w => .ok (.error e) w

end Action

namespace Place

open RpcBindings.Files.Action

/-- Makes one directory, unless there is one. -/
def makeOrKeep (place : Place) (l : Location) : Action Error Unit := do
  match ← attempt (change fun t => place.makeDirectory t l) with
  | .ok () => return ()
  | .error (.refused .notFound p q) => throw (.refused .notFound p q)
  | .error .nullByte => throw .nullByte
  | .error e => if ← look fun t => place.isDirectory? t l then return () else throw e

def makeDirectories (place : Place) : Nat → Location → Action Error Unit
  | 0, l => makeOrKeep place l
  | depth + 1, l => do
    match ← attempt (change fun t => place.makeDirectory t l) with
    | .ok () => return ()
    | .error (.refused .notFound p q) =>
      if l.parts = [] then throw (.refused .notFound p q)
      else
        makeDirectories place depth l.parent
        makeOrKeep place l
    | .error .nullByte => throw .nullByte
    | .error e => if ← look fun t => place.isDirectory? t l then return () else throw e

def ensure (place : Place) (l : Location) : Action Error Unit := makeDirectories place l.parts.length l

def ensureDirectory (place : Place) (l : Location) : Action Error Unit := do
  ensure place l
  report (.directoryEnsured l.text)

def mark (k : Nat) : String :=
  let ds := if k = 0 then [] else Nat.toDigits 10 k
  String.ofList (List.replicate (8 - ds.length) 'X' ++ ds)

def temporaryName (name : String) (k : Nat) : String := "." ++ name ++ "." ++ mark k ++ ".tmp"

/-- The first temporary name that is free in a directory; one of as many as there are entries is, and
one more. -/
def freeMark (t : Tree) (directory : FilePath) (name : String) : Nat :=
  ((List.range (t.entries.length + 1)).find? fun k =>
    (t.get? (directory ++ [temporaryName name k])).isNone).getD 0

def writeAtomic (place : Place) (l : Location) (content : ByteArray) : Action Error Unit := do
  let directory := l.parent.absolute place.cwd
  let t := (← get).tree
  let temporary := directory.child (temporaryName l.name (freeMark t directory.parts l.name))
  change fun t => place.writeBytes t temporary content
  match ← attempt (change fun t => place.rename t temporary l) with
  | .ok () => return ()
  | .error e =>
    modify fun w => { w with tree := w.tree.erase temporary.parts }
    throw e

def writeFile (place : Place) (l : Location) (text : String) (atomic : Bool) : Action Error Nat := do
  ensureDirectory place l.parent
  let content := text.toUTF8
  if atomic then writeAtomic place l content
  else change fun t => place.writeBytes t l content
  report (.bytesWritten content.size l.text)
  return content.size

def readText (place : Place) (t : Tree) (l : Location) : Except Error String := do
  let content ← place.readBytes t l
  match Text.Utf8.decode content with
  | .ok s => return String.ofList (Text.unifyLineEnds s.toList)
  | .error fault => throw (.undecodable fault)

end Place

end RpcBindings.Files
