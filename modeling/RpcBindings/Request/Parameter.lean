import RpcBindings.Text.Blank
import RpcBindings.Text.Search

namespace RpcBindings.Request.Parameter

/-- Sets a key; a key that is present keeps its place. -/
def assign (key value : String) : List (String × String) → List (String × String)
  | [] => [(key, value)]
  | (k, v) :: rest => if k = key then (k, value) :: rest else (k, v) :: assign key value rest

/-- The setting that a chunk gives, if it has a key. -/
def entry? (chunk : String) : Option (String × String) :=
  let (key, value) := Text.cut '=' chunk
  let key := Text.trim key
  if key = "" then none else some (key, value.elim "true" Text.trim)

def parse (parameter : String) : List (String × String) :=
  ((Text.splitOn ',' parameter).filterMap entry?).foldl (fun acc (k, v) => assign k v acc) []

end RpcBindings.Request.Parameter
