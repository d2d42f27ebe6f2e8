import RpcBindings.Text.Case
import RpcBindings.Text.Search

namespace RpcBindings.Naming

def mutationVerbs : List String :=
  ["Create", "Update", "Delete", "Remove", "Patch", "Post", "Set", "Add"]

def listAll : String := "ListAll"

def isMutation (method : String) : Bool := mutationVerbs.any (Text.startsWith method)

def withoutVerb (verbs : List String) (method : String) : String :=
  verbs.foldl (fun found verb =>
    if Text.startsWith method verb then Text.eraseAll method verb else found) method

/-- The resource under a table of verbs; `ListAll` counts before any verb. -/
def resourceBy (verbs : List String) (method : String) : String :=
  if Text.startsWith method listAll then Text.eraseAll method listAll else withoutVerb verbs method

def resource : String → String := resourceBy mutationVerbs

end RpcBindings.Naming
