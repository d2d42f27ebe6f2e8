import RpcBindings.Answer
import RpcBindings.Cli.Run
import Std.Time

namespace RpcBindings.Main

open RpcBindings.Files
open RpcBindings.Path

def textOf (p : FilePath) : String := (Location.atPath p).text

def entryAt? (p : FilePath) : IO (Option Entry) := do
  let here := System.mkFilePath [textOf p]
  if ← here.isDir then return some .directory
  else if ← here.pathExists then return some (.file (← IO.FS.readBinFile (textOf p)))
  else return none

def namesIn (p : FilePath) : IO (List String) := do
  let children ← (System.mkFilePath [textOf p]).readDir
  return children.toList.map (·.fileName)

def below : Nat → FilePath → IO (List (FilePath × Entry))
  | 0, p => return (← entryAt? p).toList.map fun e => (p, e)
  | depth + 1, p => do
    match ← entryAt? p with
    | none => return []
    | some (.file content) => return [(p, .file content)]
    | some .directory =>
      let inner ← (← namesIn p).mapM fun name => below depth (p ++ [name])
      return (p, .directory) :: inner.flatten

def above (p : FilePath) : IO (List (FilePath × Entry)) := do
  let candidates := (List.range p.length).drop 1 |>.map fun k => p.take k
  let found ← candidates.filterM fun q => (System.mkFilePath [textOf q]).isDir
  return found.map fun q => (q, .directory)

def snapshot (paths : List (FilePath × Nat)) : IO Tree := do
  let parts ← paths.mapM fun (p, depth) => return (← above p) ++ (← below depth p)
  return parts.flatten.foldl (fun t (p, e) => t.put p e) ⟨[]⟩

def carryOver (old new : Tree) : IO Unit := do
  let gone := old.entries.filter fun (p, _) => (new.get? p).isNone
  for (p, e) in gone.reverse do
    match e with
    | .directory => IO.FS.removeDir (textOf p)
    | .file _ => IO.FS.removeFile (textOf p)
  for (p, e) in new.entries do
    if old.get? p ≠ some e then
      match e with
      | .directory => IO.FS.createDirAll (textOf p)
      | .file content =>
        let temporary := textOf (p.dropLast ++ [Place.temporaryName (p.getLast?.getD "") 0])
        IO.FS.writeBinFile temporary content
        IO.FS.rename temporary (textOf p)

def workingDirectory : IO FilePath := return absolute [] (← IO.currentDir).toString

/-- The directory of templates that a document asks for in its settings, if it has descriptors. -/
def templateDirectory (place : Place) (t : Tree) (l : Location) : Option FilePath :=
  match DescriptorFile.load place l ⟨t, []⟩ with
  | .ok (_, given) _ => match given.lookup "template_dir" with
    | some (.text d) => some ((Location.ofText d).components place.cwd)
    | _ => none
  | .error _ _ => none

def deepest : Nat := 256

def treeFor (place : Place) (texts : List String) : IO Tree := do
  match Cli.Arguments.ofTexts texts with
  | .error _ => return ⟨[]⟩
  | .ok a =>
    let path (text : String) : FilePath := ((Location.ofText text).absolute place.cwd).parts
    let descriptor := Location.ofText (a.descriptor.getD "")
    let t ← snapshot [(path descriptor.text, 0)]
    let templates := (a.templateDir.map path).toList ++ (templateDirectory place t descriptor).toList
    let output := if a.dryRun then [] else (a.output.map path).toList
    snapshot ((path descriptor.text, 0) :: templates.map (·, 1) ++ output.map (·, deepest))

def runCommandLine (place : Place) (texts : List String) : IO UInt32 := do
  let t ← treeFor place texts
  let now ← Std.Time.DateTime.now
  let setting : Generation.Setting := ⟨place, now.format "uuuu-MM-dd'T'HH:mm:ssZ"⟩
  match Cli.run setting (now.format "HH:mm:ss") texts ⟨t, []⟩ with
  | .ok outcome w =>
    carryOver t w.tree
    IO.print outcome.output
    IO.eprint outcome.errors
    return outcome.code.toUInt32
  | .error f w =>
    carryOver t w.tree
    IO.eprintln f.text
    return 1

/-- All bytes of a stream. -/
partial def readAll (s : IO.FS.Stream) (before : ByteArray) : IO ByteArray := do
  let chunk ← s.read 65536
  if chunk.isEmpty then return before else readAll s (before ++ chunk)

def answerRequest (place : Place) : IO UInt32 := do
  let bytes := (← readAll (← IO.getStdin) .empty).data.toList
  let parameter := ((Request.ofBytes? bytes).map Request.overrides).getD []
  let named := match parameter.lookup "template_dir" with
    | some (.text d) => [((Location.ofText d).components place.cwd, 1)]
    | _ => []
  match Request.answerBytes place bytes ⟨← snapshot named, []⟩ with
  | .ok out w =>
    for e in w.log do
      if Log.Level.warning.rank ≤ e.level.rank then
        IO.eprintln (e.level.label ++ " │ " ++ e.source ++ " │ " ++ e.message)
    (← IO.getStdout).write ⟨out.toArray⟩
    return 0
  | .error f _ =>
    IO.eprintln f.text
    return 1

end RpcBindings.Main

open RpcBindings in
def main (args : List String) : IO UInt32 := do
  let place : Files.Place := ⟨← Main.workingDirectory⟩
  if (← IO.appPath).fileName = some Request.programName then Main.answerRequest place
  else Main.runCommandLine place args
