import RpcBindings.Export.Write
import RpcBindings.Failure

namespace RpcBindings.Generation

open RpcBindings.Number

/-- A step of a run, and the seconds that it took. -/
structure Step where
  name : String
  success : Bool
  detail : String
  seconds : Binary64 := ⟨0⟩
deriving DecidableEq, Repr

/-- What came of a run. The rendered files are reported even if nothing is written. -/
structure Report where
  success : Bool := false
  service : String := ""
  directory : String := ""
  dryRun : Bool := false
  totalFiles : Int := 0
  totalBytes : Int := 0
  totalLines : Int := 0
  totalRpcs : Int := 0
  seconds : Binary64 := ⟨0⟩
  steps : List Step := []
  loadErrors : List String := []
  generationErrors : List String := []
  exportErrors : List String := []
  rendered : RenderedFiles := []
  manifest : Option Export.Manifest := none

def groupedInt (n : Int) : String := (if n < 0 then "-" else "") ++ grouped n.natAbs

def padRight (width : Nat) (s : String) : String :=
  s ++ String.ofList (List.replicate (width - s.length) ' ')

def padLeft (width : Nat) (s : String) : String :=
  String.ofList (List.replicate (width - s.length) ' ') ++ s

def rule (c : Char) : String := String.ofList (List.replicate 60 c)

def Step.line (s : Step) : String :=
  "    " ++ (if s.success then "✓" else "✗") ++ " " ++ padRight 24 s.name ++ " "
    ++ padLeft 7 (s.seconds.fixed 3) ++ "s  " ++ s.detail

/-- The lines for a kind of errors; none if there are no errors. -/
def errorLines (title : String) (errors : List String) : List String :=
  if errors.isEmpty then []
  else rule '-' :: ("  " ++ title ++ " (" ++ toString errors.length ++ "):")
    :: errors.map fun e => "    ✗ " ++ e

namespace Report

def lines (r : Report) : List String :=
  [rule '=', "  protoc-gen-connect-vue — Generation Report", rule '=',
    "  Status:           " ++ (if r.success then "SUCCESS" else "FAILED"),
    "  Service:          " ++ (if r.service = "" then "(none)" else r.service),
    "  Output:           " ++ r.directory,
    "  RPCs:             " ++ toString r.totalRpcs,
    "  Files:            " ++ toString r.totalFiles ++ (if r.dryRun then "  (dry run)" else ""),
    "  Total lines:      " ++ groupedInt r.totalLines,
    "  Total time:       " ++ r.seconds.fixed 3 ++ "s",
    rule '-'] ++
  (if r.steps.isEmpty then [] else "  Pipeline Steps:" :: r.steps.map Step.line) ++
  errorLines "Load Errors" r.loadErrors ++ errorLines "Generation Errors" r.generationErrors ++
  errorLines "Export Errors" r.exportErrors ++ [rule '=']

def summary (r : Report) : String := "\n".intercalate r.lines

def addStep (r : Report) (name : String) (success : Bool) (detail : String) : Report :=
  { r with steps := r.steps ++ [⟨name, success, detail, ⟨0⟩⟩] }

/-- A run is a success if there is no error of any kind. -/
def finish (r : Report) : Report :=
  { r with
    success := r.loadErrors.isEmpty && r.generationErrors.isEmpty && r.exportErrors.isEmpty }

end Report

end RpcBindings.Generation
