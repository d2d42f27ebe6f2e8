import RpcBindings.Files.Write
import RpcBindings.Rendering

namespace RpcBindings.Rendering

open RpcBindings.Files
open RpcBindings.Path
open RpcBindings.Template (Sources)

def source (place : Place) (directory : Option Location) (key text : String) :
    Action Files.Error (String × String) := do
  match directory with
  | none => return (key, text)
  | some d =>
    let l := d.child (fileName key)
    if ← Action.look fun t => place.isFile? t l then
      Action.report (.templateOverridden l.text)
      return (key, ← Action.look fun t => place.readText t l)
    else return (key, text)

def sources (place : Place) (directory : Option Location) : Action Files.Error Sources :=
  bundled.mapM fun (key, text) => source place directory key text

/-- The directory of templates that the settings name; an empty name counts as none. -/
def directory (config : Config) : Option Location :=
  (config.templateDir.filter (· ≠ "")).map Location.ofText

end RpcBindings.Rendering
