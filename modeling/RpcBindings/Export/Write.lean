import RpcBindings.Export.Manifest
import RpcBindings.Files.Write
import RpcBindings.Rendering

namespace RpcBindings.Export

open RpcBindings.Files
open RpcBindings.Path

def version : String := "1.0.2"

def manifestName : String := "manifest.json"

def keptNames : List String := [".git", ".gitignore", ".gitkeep"]

/-- What the clock shows in an export: when the manifest is written, and when it is returned. -/
structure Times where
  written : String
  returned : String
deriving DecidableEq, Repr

instance : Coe String Times := ⟨fun time => ⟨time, time⟩⟩

/-- How to export: where to and for which service. -/
structure Options where
  directory : Location
  service : String := ""
  clean : Bool := false
  atomic : Bool := true
  manifest : Bool := true
  timestamp : Times

inductive Failed where
  | aborted (e : Files.Error)
  | notWritten (name : String) (e : Files.Error)
deriving DecidableEq, Repr

def Failed.message : Failed → String
  | aborted e => "Fatal export error: " ++ e.label ++ ": " ++ e.message
  | notWritten name e => "Failed to write " ++ name ++ ": " ++ e.label ++ ": " ++ e.message

structure Result where
  manifest : Manifest
  errors : List Failed := []
  warnings : List String := []

def Result.success (r : Result) : Bool := r.errors.isEmpty

namespace Options

def manifestOf (o : Options) (records : List FileRecord) : Manifest :=
  ⟨o.service, version, o.timestamp.returned, o.directory.text, records⟩

def manifestText (o : Options) (records : List FileRecord) : String :=
  ((o.manifestOf records).stamped o.timestamp.written).text

/-- Empties the output directory, if there is one and it is to be cleaned. -/
def cleanUp (o : Options) (place : Place) : Action Files.Error Unit := do
  if o.clean then
    if ← Action.look fun t => place.exists? t o.directory then
      Action.report (.cleaning o.directory.text)
      Action.change fun t => do
        match ← place.stat t o.directory with
        | .directory => return t.eraseBelow (o.directory.components place.cwd) keptNames
        | .file _ => throw (.refused .notDirectory o.directory.text none)

def writeOne (o : Options) (place : Place) (name text : String) : Action Files.Error FileRecord := do
  let l := o.directory.join name
  let size ← place.writeFile l text o.atomic
  Action.report (.fileWritten name size (Text.lineCount text))
  return .ofText name l.text text

def writeAll (o : Options) (place : Place) :
    List (String × String) → Action Files.Error (List FileRecord × List Failed)
  | [] => return ([], [])
  | (name, text) :: rest => do
    match ← Action.attempt (o.writeOne place name text) with
    | .ok record =>
      let (records, failed) ← writeAll o place rest
      return (record :: records, failed)
    | .error e =>
      if !e.isRefusal then throw e
      let f := Failed.notWritten name e
      Action.report (.writeFailed f.message)
      let (records, failed) ← writeAll o place rest
      return (records, f :: failed)

/-- Writes the manifest; a refusal is a warning. -/
def writeManifest (o : Options) (place : Place) (records : List FileRecord) :
    Action Files.Error (List String) := do
  let l := o.directory.child manifestName
  match ← Action.attempt (place.writeFile l (o.manifestText records) o.atomic) with
  | .ok _ =>
    Action.report (.manifestWritten l.text)
    return []
  | .error e =>
    if !e.isRefusal then throw e
    Action.report (.manifestFailed e.message)
    return ["Could not write manifest: " ++ e.message]

def prepare (o : Options) (place : Place) : Action Files.Error Unit := do
  o.cleanUp place
  place.ensure o.directory

def writeTo (o : Options) (place : Place) (files : List (String × String)) :
    Action Files.Error Result := do
  match ← Action.attempt (o.prepare place) with
  | .error e =>
    if !e.isRefusal then throw e
    let f := Failed.aborted e
    Action.report (.exportAborted f.message)
    return { manifest := o.manifestOf [], errors := [f] }
  | .ok () =>
    let (records, errors) ← o.writeAll place files
    Action.report (.filesWritten records.length o.directory.text)
    let warnings ← if o.manifest then o.writeManifest place records else pure []
    return { manifest := o.manifestOf records, errors, warnings }

end Options

def Result.event (r : Result) : Log.Event :=
  if r.success then .exportCompleted r.manifest.totalFiles r.manifest.totalBytes
  else .exportFailed r.errors.length

/-- Reports the time that a step took, whether it failed or not. -/
def timed (label : String) (a : Action ε α) : Action ε α := do
  match ← Action.attempt a with
  | .ok v =>
    Action.report (.stepTimed label)
    return v
  | .error e =>
    Action.report (.stepTimed label)
    throw e

def run (place : Place) (o : Options) (files : List (String × String)) : Action Files.Error Result := do
  if o.directory.hasNull then throw .nullByte
  let o := { o with directory := o.directory.absolute place.cwd }
  Action.report (.exporterReady o.directory.text o.atomic)
  let r ← timed "export" (o.writeTo place files)
  Action.report r.event
  return r

end RpcBindings.Export
