import RpcBindings.Descriptor.WellKnown
import RpcBindings.Text.Search

namespace RpcBindings.Document

def enclosing (parts : List String) (ref : String) : List String :=
  (List.range parts.length).reverse.map fun k =>
    qualify (".".intercalate (parts.take (k + 1))) ref

def bareRef (ref : String) : String := Text.dropLeading '.' ref

def candidates (scope ref : String) : List String :=
  if Text.startsWith ref "." then [bareRef ref]
  else (if scope = "" then [] else enclosing (Text.splitOn '.' scope) ref) ++ [ref]

def lookup? (types : List TypeRef) (scope ref : String) : Option TypeRef :=
  (candidates scope ref).findSome? fun name => types.find? (·.typeName == name)

end RpcBindings.Document
