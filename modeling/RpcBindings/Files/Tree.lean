import RpcBindings.Path.Location
import RpcBindings.Text.Utf8

namespace RpcBindings.Files

open RpcBindings.Path

abbrev FilePath := List String

inductive Entry where
  | file (content : ByteArray)
  | directory

instance : DecidableEq Entry
  | .file a, .file b => decidable_of_iff (a.data = b.data) (by rw [Entry.file.injEq, ByteArray.ext_iff])
  | .directory, .directory => isTrue rfl
  | .file _, .directory | .directory, .file _ => isFalse nofun

structure Tree where
  entries : List (FilePath × Entry) := []

/-- Why the operating system refuses an operation. -/
inductive Code where
  | notFound
  | busy
  | exists
  | notDirectory
  | isDirectory
  | nameTooLong
deriving DecidableEq, Repr

/-- A failed operation: refused at a path (in a renaming, with the new one), or never begun. -/
inductive Error where
  | refused (code : Code) (path : String) (target : Option String)
  | nullByte
  | undecodable (fault : Text.Utf8.Fault)
deriving DecidableEq, Repr

namespace Code

def number : Code → Nat
  | notFound => 2
  | busy => 16
  | «exists» => 17
  | notDirectory => 20
  | isDirectory => 21
  | nameTooLong => 36

def text : Code → String
  | notFound => "No such file or directory"
  | busy => "Device or resource busy"
  | «exists» => "File exists"
  | notDirectory => "Not a directory"
  | isDirectory => "Is a directory"
  | nameTooLong => "File name too long"

def label : Code → String
  | notFound => "FileNotFoundError"
  | «exists» => "FileExistsError"
  | notDirectory => "NotADirectoryError"
  | isDirectory => "IsADirectoryError"
  | busy | nameTooLong => "OSError"

end Code

namespace Error

def message : Error → String
  | refused code path target =>
    "[Errno " ++ toString code.number ++ "] " ++ code.text ++ ": " ++ Text.quoted path ++
      target.elim "" fun t => " -> " ++ Text.quoted t
  | nullByte => "embedded null byte"
  | undecodable fault => fault.message

def label : Error → String
  | refused code .. => code.label
  | nullByte => "ValueError"
  | undecodable _ => "UnicodeDecodeError"

def isRefusal : Error → Bool
  | refused .. => true
  | _ => false

end Error

namespace Tree

def get? (t : Tree) (p : FilePath) : Option Entry :=
  if p = [] then some .directory else t.entries.lookup p

def put (t : Tree) (p : FilePath) (e : Entry) : Tree :=
  if (t.entries.lookup p).isSome then
    ⟨t.entries.map fun (q, old) => if q = p then (q, e) else (q, old)⟩
  else ⟨t.entries ++ [(p, e)]⟩

def erase (t : Tree) (p : FilePath) : Tree := ⟨t.entries.filter fun (q, _) => q ≠ p⟩

/-- Removes the entries of a directory, at any depth, except those below a name that is kept. -/
def eraseBelow (t : Tree) (p : FilePath) (kept : List String) : Tree :=
  ⟨t.entries.filter fun (q, _) =>
    !(p.isPrefixOf q && q != p && !kept.contains (q.getD p.length ""))⟩

def isDirectory (t : Tree) (p : FilePath) : Bool := t.get? p == some .directory

/-- The name of a component has at most 255 bytes. -/
def nameFits (component : String) : Bool := decide (component.utf8ByteSize ≤ 255)

def step (t : Tree) (p : FilePath) (component : String) : Except Code FilePath :=
  match t.get? p with
  | none => .error .notFound
  | some (.file _) => .error .notDirectory
  | some .directory =>
    if component = ".." then .ok p.dropLast
    else if nameFits component then .ok (p ++ [component])
    else .error .nameTooLong

/-- The path that components lead to; there need not be an entry under it. -/
def walk (t : Tree) (components : List String) : Except Code FilePath :=
  components.foldlM t.step []

end Tree

/-- Where relative locations start, and the operations on the tree seen from there. -/
structure Place where
  cwd : FilePath := []

namespace Place

def locate (place : Place) (t : Tree) (l : Location) : Except Error FilePath :=
  if l.hasNull then .error .nullByte
  else if 4096 ≤ l.text.utf8ByteSize then .error (.refused .nameTooLong l.text none)
  else (t.walk (l.components place.cwd)).mapError fun c => .refused c l.text none

def stat (place : Place) (t : Tree) (l : Location) : Except Error Entry := do
  let p ← place.locate t l
  match t.get? p with
  | some e => return e
  | none => throw (.refused .notFound l.text none)

/-- What there is at a location; a location that does not lead anywhere has nothing, and only a name that
is too long is an error. -/
def entry? (place : Place) (t : Tree) (l : Location) : Except Error (Option Entry) :=
  match place.stat t l with
  | .ok e => .ok (some e)
  | .error (.refused .nameTooLong p q) => .error (.refused .nameTooLong p q)
  | .error _ => .ok none

def exists? (place : Place) (t : Tree) (l : Location) : Except Error Bool :=
  (place.entry? t l).map Option.isSome

def isFile? (place : Place) (t : Tree) (l : Location) : Except Error Bool :=
  (place.entry? t l).map fun e => match e with
    | some (.file _) => true
    | _ => false

def isDirectory? (place : Place) (t : Tree) (l : Location) : Except Error Bool :=
  (place.entry? t l).map (· == some .directory)

def readBytes (place : Place) (t : Tree) (l : Location) : Except Error ByteArray := do
  match ← place.stat t l with
  | .file content => return content
  | .directory => throw (.refused .isDirectory l.text none)

def makeDirectory (place : Place) (t : Tree) (l : Location) : Except Error Tree := do
  let p ← place.locate t l
  match t.get? p with
  | some _ => throw (.refused .exists l.text none)
  | none => return t.put p .directory

def writeBytes (place : Place) (t : Tree) (l : Location) (content : ByteArray) : Except Error Tree := do
  let p ← place.locate t l
  match t.get? p with
  | some .directory => throw (.refused .isDirectory l.text none)
  | _ => return t.put p (.file content)

def rename (place : Place) (t : Tree) (source target : Location) : Except Error Tree := do
  let refuse (c : Code) : Error := .refused c source.text (some target.text)
  if source.hasNull || target.hasNull then throw .nullByte
  if 4096 ≤ source.text.utf8ByteSize ∨ 4096 ≤ target.text.utf8ByteSize then throw (refuse .nameTooLong)
  let p ← (t.walk (source.components place.cwd)).mapError refuse
  let q ← (t.walk (target.components place.cwd)).mapError refuse
  match t.get? p, t.get? q with
  | none, _ => throw (refuse .notFound)
  | some e, there =>
    if target.name = "" ∨ target.name = ".." then throw (refuse .busy)
    else if there = some .directory then throw (refuse .isDirectory)
    else if p = q then return t
    else return (t.erase p).put q e

end Place

end RpcBindings.Files
