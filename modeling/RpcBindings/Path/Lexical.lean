import RpcBindings.Text.Search

namespace RpcBindings.Path

def enterOne (dir : List String) (component : String) : List String :=
  if component = "" ∨ component = "." then dir
  else if component = ".." then dir.dropLast
  else dir ++ [component]

def enter (dir : List String) (components : List String) : List String :=
  components.foldl enterOne dir

def isAbsolute (path : String) : Bool := Text.startsWith path "/"

def absolute (cwd : List String) (path : String) : List String :=
  enter (if isAbsolute path then [] else cwd) (Text.splitOn '/' path)

def folder (path : String) : String :=
  String.ofList (path.toList.reverse.dropWhile (· ≠ '/')).reverse

def baseName (path : String) : String :=
  String.ofList (path.toList.reverse.takeWhile (· ≠ '/')).reverse

def between : List String → List String → List String
  | a :: start, b :: target =>
    if a = b then between start target
    else List.replicate (start.length + 1) ".." ++ b :: target
  | start, target => List.replicate start.length ".." ++ target

/-- The way from the directory of one file to that of another; empty if they are the same. -/
def relativeDir (cwd : List String) (fromFile toFile : String) : String :=
  "/".intercalate (between (absolute cwd (folder fromFile)) (absolute cwd (folder toFile)))

/-- `b` as seen from `a`; an absolute `b` stands alone. -/
def append (a b : String) : String :=
  if isAbsolute b then b
  else if a = "" ∨ Text.endsWith a "/" then a ++ b
  else a ++ "/" ++ b

/-- Joins the parts that are not empty; there is no path without such a part. -/
def join? (parts : List String) : Option String :=
  match parts.filter (· ≠ "") with
  | [] => none
  | first :: rest => some (rest.foldl append first)

end RpcBindings.Path
