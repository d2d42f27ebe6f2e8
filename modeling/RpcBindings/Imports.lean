import RpcBindings.Config
import RpcBindings.Descriptor.WellKnown
import RpcBindings.Path.Lexical

namespace RpcBindings

/-- Where a type is imported from, and its name there. -/
inductive Origin where
  | wellKnown (name : String)
  | sameFile (name : String)
  | external (path name : String)
deriving DecidableEq, Repr

def Origin.name : Origin → String
  | wellKnown name | sameFile name | external _ name => name

/-- The path of a generated module would be empty. -/
inductive ImportError where
  | emptyPath
deriving DecidableEq, Repr

def ImportError.message : ImportError → String
  | emptyPath => "join() missing 1 required positional argument: 'a'"

def moduleStem (config : Config) (file : String) : String :=
  Text.dropSuffix (Path.baseName file) config.protoSuffix ++ config.pbSuffix

def externalPath (cwd : List String) (config : Config) (owner file : String) :
    Except ImportError String :=
  match Path.join? [config.outputRoot, Path.relativeDir cwd owner file, moduleStem config file] with
  | some path => .ok path
  | none => .error .emptyPath

def TypeRef.origin (cwd : List String) (config : Config) (owner : String) (t : TypeRef) :
    Except ImportError Origin :=
  match wellKnown? t.typeName with
  | some known => .ok (.wellKnown known.name)
  | none =>
    if t.file = owner then .ok (.sameFile t.name)
    else (externalPath cwd config owner t.file).map fun path => .external path t.name

/-- The imports of one service, each list in the order of first use. -/
structure Imports where
  wellKnown : List String := []
  sameFile : List String := []
  external : List (String × List String) := []
deriving DecidableEq, Repr

/-- Adds an element that is not there yet at the end. -/
def insertNew [DecidableEq α] (a : α) (as : List α) : List α := if a ∈ as then as else as ++ [a]

namespace Imports

def insertExternal (path name : String) : List (String × List String) → List (String × List String)
  | [] => [(path, [name])]
  | (p, names) :: rest =>
    if p = path then (p, insertNew name names) :: rest
    else (p, names) :: insertExternal path name rest

def insert (i : Imports) : Origin → Imports
  | .wellKnown name => { i with wellKnown := insertNew name i.wellKnown }
  | .sameFile name => { i with sameFile := insertNew name i.sameFile }
  | .external path name => { i with external := insertExternal path name i.external }

def ofOrigins (origins : List Origin) : Imports := origins.foldl insert {}

end Imports

end RpcBindings
