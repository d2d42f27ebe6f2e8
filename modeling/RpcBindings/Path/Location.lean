import RpcBindings.Path.Lexical

namespace RpcBindings.Path

/-- A location; `root` is empty for one that is relative to the working directory. -/
structure Location where
  root : String := ""
  parts : List String := []
deriving DecidableEq, Repr

namespace Location

def rootOf (text : String) : String :=
  match text.toList.takeWhile (· = '/') with
  | [] => ""
  | [_, _] => "//"
  | _ => "/"

def ofText (text : String) : Location :=
  ⟨rootOf text, (Text.splitOn '/' text).filter fun c => c ≠ "" ∧ c ≠ "."⟩

def text (l : Location) : String :=
  if l.root = "" ∧ l.parts = [] then "." else l.root ++ "/".intercalate l.parts

/-- `path` as seen from the location; one with a root stands alone. -/
def join (l : Location) (path : String) : Location :=
  let p := ofText path
  if p.root = "" then ⟨l.root, l.parts ++ p.parts⟩ else p

def child (l : Location) (name : String) : Location := ⟨l.root, l.parts ++ [name]⟩

def name (l : Location) : String := l.parts.getLast?.getD ""

/-- The location without its last component; a location without components is its own parent. -/
def parent (l : Location) : Location := ⟨l.root, l.parts.dropLast⟩

/-- The end of the name from its last dot on, unless that dot starts or ends the name. -/
def extension (l : Location) : String :=
  let tail := (l.name.toList.reverse.takeWhile (· ≠ '.')).reverse
  let size := tail.length + 1
  if tail = [] ∨ l.name.length ≤ size then "" else "." ++ String.ofList tail

def components (cwd : List String) (l : Location) : List String :=
  if l.root = "" then cwd ++ l.parts else l.parts

def atPath (path : List String) : Location := ⟨"/", path⟩

def absolute (cwd : List String) (l : Location) : Location := atPath (enter [] (l.components cwd))

/-- A location with this character names nothing. -/
def hasNull (l : Location) : Bool := l.parts.any fun c => c.toList.contains '\x00'

end Location

end RpcBindings.Path
