import RpcBindings.Cli.Arguments
import RpcBindings.Cli.Help
import RpcBindings.Generation.Run

namespace RpcBindings.Cli

open RpcBindings.Files
open RpcBindings.Generation
open RpcBindings.Path

/-- How a call ends: its exit code, and what stands on the two outputs. -/
structure Outcome where
  code : Nat
  output : String := ""
  errors : String := ""
deriving DecidableEq, Repr

/-- What a call is told of its terminal: the time in the log, and why standard output refuses a text. -/
structure Console where
  clock : String
  refusal? : String → Option Failure := fun text => (Text.Utf8.halves? text).map .unencodable

instance : Coe String Console := ⟨fun clock => { clock }⟩

/-- The least level that is shown. -/
def shownFrom (verbosity : Nat) : Log.Level :=
  match verbosity with
  | 0 => .warning
  | 1 => .info
  | _ => .debug

def logLine (clock : String) (e : Log.Event) : String :=
  clock ++ " │ " ++ padRight 8 e.level.label ++ " │ " ++ e.source ++ " │ " ++ e.message ++ "\n"

def logText (a : Arguments) (clock : String) (events : List Log.Event) : String :=
  if a.quiet then ""
  else
    let least := (shownFrom a.verbosity).rank
    String.join ((events.filter fun e => decide (least ≤ e.level.rank)).map (logLine clock))

/-- The settings that the arguments give; none if they give none. -/
def overrides (cwd : List String) (a : Arguments) : Option Overrides :=
  let given : List (String × Option String) :=
    [("output_root", a.outputRoot), ("hook_prefix", a.hookPrefix),
      ("template_dir", a.templateDir.map fun d => ((Location.ofText d).absolute cwd).text),
      ("base_url", a.baseUrl)]
  let set : Overrides := given.filterMap fun (name, value) => value.map fun v => (name, .text v)
  if set.isEmpty then none else some set

def exitCode (r : Report) : Nat :=
  if r.success then 0
  else if !r.loadErrors.isEmpty then 4
  else if !r.generationErrors.isEmpty then 2
  else 3

def flags (a : Arguments) : Flags := { clean := a.clean, manifest := !a.noManifest, dryRun := a.dryRun }

def locate (cwd : List String) (text : String) : Action Failure Location := do
  let l := Location.ofText text
  if l.hasNull then throw (.file .nullByte)
  return l.absolute cwd

def runGeneration (setting : Setting) (console : Console) (a : Arguments) (descriptor output : Location) :
    Action Failure (Nat × String) := do
  if (a.templateDir.any fun d => (Location.ofText d).hasNull) then throw (.file .nullByte)
  let report ← ofFile setting (flags a) descriptor output (overrides setting.place.cwd a)
  match console.refusal? report.summary with
  | some f => throw f
  | none => return (exitCode report, report.summary ++ "\n")

def generate (setting : Setting) (console : Console) (a : Arguments) : Action Failure (Nat × String × String) := do
  let cwd := setting.place.cwd
  let descriptor ← locate cwd (a.descriptor.getD "")
  if !(← Action.look fun t => (setting.place.isFile? t descriptor).mapError .file) then
    Action.report (.descriptorNotFound descriptor.text)
    return (4, "", "")
  if a.output.isNone && !a.dryRun then
    Action.report .outputRequired
    return (4, "", usage)
  let output ← locate cwd (a.output.getD "")
  Action.report (.descriptorPath descriptor.text)
  Action.report (.outputPath output.text)
  let (code, text) ← runGeneration setting console a descriptor output
  Action.report (if code = 0 then .runCompleted else .runFailed code)
  return (code, text, "")

def run (setting : Setting) (console : Console) (texts : List String) : Action Failure Outcome := do
  match Arguments.ofTexts texts with
  | .error .help => return { code := 0, output := help }
  | .error .version => return { code := 0, output := versionText }
  | .error (.misuse m) => return { code := 2, errors := usage ++ "connectvue: error: " ++ m.message ++ "\n" }
  | .ok a =>
    modify fun w => { w with log := [] }
    let (code, output, more) ← generate setting console a
    return { code, output, errors := logText a console.clock (← get).log ++ more }

end RpcBindings.Cli
