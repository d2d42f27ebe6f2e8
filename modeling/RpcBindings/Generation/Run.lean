import RpcBindings.Generation.Report
import RpcBindings.Rendering.Sources

namespace RpcBindings.Generation

open RpcBindings.Files
open RpcBindings.Path

/-- What a run is told about the world: where it stands, and what the clock shows. -/
structure Setting where
  place : Place := {}
  timestamp : Export.Times := ""

structure Flags where
  clean : Bool := false
  manifest : Bool := true
  dryRun : Bool := false

def Flags.readyEvent (f : Flags) : Log.Event := .generatorReady f.clean f.manifest f.dryRun

def outputDirectory (setting : Setting) (output : Location) : Action Failure Location := do
  if output.hasNull then throw (.file .nullByte)
  return output.absolute setting.place.cwd

def build (place : Place) (set : DescriptorSet) (config : Config) :
    Action Failure (Option ViewModel) := do
  Action.reportAll (set.buildEvents place.cwd config)
  match ViewModel.ofFirstService place.cwd set config with
  | .ok vm => return vm
  | .error e => throw (.imports e)

def render (place : Place) (config : Config) (vm : ViewModel) : Action Failure RenderedFiles := do
  let sources ← Action.liftError .file (Rendering.sources place (Rendering.directory config))
  Action.report (Rendering.readyEvent sources)
  match Rendering.files sources config vm with
  | .ok files =>
    Action.report (Rendering.filesEvent vm files)
    return files
  | .error e => throw (.rendering e)

/-- The files of the first service; none if there is no service. -/
def renderFirst (place : Place) (set : DescriptorSet) (config : Config) :
    Action Failure RenderedFiles := do
  match ← build place set config with
  | none => return []
  | some vm => render place config vm

def buildStep (place : Place) (set : DescriptorSet) (config : Config) (r : Report) :
    Action Failure (Option ViewModel × Report) := do
  let vm ← Export.timed "build_view_model" (build place set config)
  let r := match vm with
    | none => r.addStep "Build View Model" true "no service found, nothing to generate"
    | some vm =>
      { r with service := vm.serviceName, totalRpcs := vm.rpcs.length }.addStep "Build View Model" true
        (vm.serviceName ++ ": " ++ toString vm.rpcs.length ++ " rpcs")
  return (vm, r)

/-- Renders the files of a view model; a failure of rendering is part of the report. -/
def renderStep (place : Place) (config : Config) (vm : ViewModel) (r : Report) :
    Action Failure (Option RenderedFiles × Report) := do
  match ← Action.attempt (render place config vm) with
  | .ok files =>
    Action.report (.stepTimed "render")
    let names := ", ".intercalate (files.map (·.1))
    return (some files, r.addStep "Render Templates" true names)
  | .error f =>
    if !f.isRenderError then
      Action.report (.stepTimed "render")
      throw f
    let text := "Fatal render error: " ++ f.text
    Action.report (.renderFailed text)
    Action.report (.stepTimed "render")
    return (none, { r with generationErrors := [text] }.addStep "Render Templates" false "aborted")

def exportStep (setting : Setting) (flags : Flags) (output : Location) (service : String)
    (files : RenderedFiles) (r : Report) : Action Failure Report := do
  let options : Export.Options :=
    { directory := output, service, clean := flags.clean, manifest := flags.manifest,
      timestamp := setting.timestamp }
  let result : Export.Result ← Export.timed "export" (Action.liftError .file (Export.run setting.place options files))
  let m := result.manifest
  let detail := toString m.totalFiles ++ " files, " ++ Number.grouped m.totalBytes ++ " bytes"
  return { r with exportErrors := result.errors.map Export.Failed.message, manifest := some m }.addStep
    "Export to Filesystem" result.success detail

def addTotals (files : RenderedFiles) (r : Report) : Report :=
  { r with
    rendered := files
    totalFiles := files.length
    totalLines := (files.map fun (_, text) => Text.lineCount text).foldl (· + ·) 0
    totalBytes := (files.map fun (_, text) => text.utf8ByteSize).foldl (· + ·) 0 }

def runFrom (setting : Setting) (flags : Flags) (set : DescriptorSet) (config : Config)
    (output : Location) (r : Report) : Action Failure Report := do
  match ← buildStep setting.place set config r with
  | (none, r) => return r.finish
  | (some vm, r) =>
    match ← renderStep setting.place config vm r with
    | (none, r) => return r.finish
    | (some files, r) =>
      let r := addTotals files r
      if flags.dryRun then
        Action.report (.filesKept files.length)
        return r.finish
      else
        let r ← exportStep setting flags output vm.serviceName files r
        return r.finish

def ofDescriptors (setting : Setting) (flags : Flags) (set : DescriptorSet) (config : Config)
    (output : Location) : Action Failure Report := do
  Action.report flags.readyEvent
  let directory ← outputDirectory setting output
  runFrom setting flags set config output { dryRun := flags.dryRun, directory := directory.text }

def load (place : Place) (path : Location) (overrides : Option Overrides) :
    Action Failure (DescriptorSet × Config) := do
  let (set, given) ← Action.liftError .descriptorFile (DescriptorFile.load place path)
  match Config.build [some given, overrides] with
  | .ok config => return (set, config)
  | .error issues => throw (.settings issues)

def ofFile (setting : Setting) (flags : Flags) (path output : Location)
    (overrides : Option Overrides) : Action Failure Report := do
  Action.report flags.readyEvent
  let directory ← outputDirectory setting output
  let r : Report := { dryRun := flags.dryRun, directory := directory.text }
  let detail := "from " ++ path.name
  match ← Action.attempt (load setting.place path overrides) with
  | .ok (set, config) =>
    Action.report (.stepTimed "load_descriptors")
    runFrom setting flags set config output (r.addStep "Load Descriptors" true detail)
  | .error f =>
    if !f.isLoadError then
      Action.report (.stepTimed "load_descriptors")
      throw f
    Action.report (.loadFailed f.message)
    Action.report (.stepTimed "load_descriptors")
    return ({ r with loadErrors := [f.message] }.addStep "Load Descriptors" false detail).finish

end RpcBindings.Generation
