import Mathlib.Data.List.Infix
import RpcBindings.Proofs.Generation.Answers
import RpcBindings.Proofs.Generation.Reread

namespace RpcBindings.Generation

open RpcBindings.Files
open RpcBindings.Files.Action (Ends EndsAlike Leads)
open RpcBindings.Files.Tree (lead)
open RpcBindings.Path
open RpcBindings.Export (Leaves Lasting LongWay Onward Unswept)

variable {setting : Setting} {flags : Flags} {set : DescriptorSet} {config : Config} {path output : Location}
  {overrides : Option Overrides} {t t' : Tree}

def tooLong (p : FilePath) : String :=
  (Export.Failed.aborted (.refused .nameTooLong (Location.atPath p).text none)).message

/-- The reports of a run and of a second one: they are the same, except that the second one tells of the whole way
to the output directory where the first one told of the way up to a name that is too long. -/
inductive Repeated (t : Tree) (dir : FilePath) : Report → Report → Prop where
  | same (r : Report) : Repeated t dir r r
  | whole {front : FilePath} {c : String} (hway : LongWay t dir front c) (r : Report) :
      Repeated t dir { r with exportErrors := [tooLong (front ++ [c])] } { r with exportErrors := [tooLong dir] }

theorem finish_exportError (r : Report) (x y : String) : { r with exportErrors := [x] }.finish =
    { { r with exportErrors := [y] }.finish with exportErrors := [x] } := rfl

theorem repeated_of_repeats {o : Export.Options} {result result' : Export.Result} (h : o.Repeats t result result')
    (r : Report) : Repeated t o.directory.parts (r.addExport result).finish (r.addExport result').finish := by
  cases h with
  | same => exact .same _
  | @whole front c hway =>
    have hfirst : (r.addExport (o.tooLong (front ++ [c]))).finish =
        { (r.addExport (o.tooLong o.directory.parts)).finish with exportErrors := [tooLong (front ++ [c])] } :=
      finish_exportError (r.addExport (o.tooLong o.directory.parts)) _ _
    rw [hfirst]
    exact .whole hway _

theorem Repeated.eq_of_fits {r r' : Report} {dir : FilePath} (h : Repeated t dir r r')
    (hfits : ∀ c ∈ dir, Tree.nameFits c = true) : r' = r := by
  cases h with
  | same => rfl
  | @whole _ c hway =>
    have hc := hfits c (hway.1.subset (List.mem_append_right _ List.mem_cons_self))
    rw [hway.2.1] at hc
    cases hc

/-- A run from a file, with the descriptor and the templates outside the output directory. The generated files have
plain names, none of which is that of a temporary file for another. -/
structure Apart (setting : Setting) (flags : Flags) (path output : Location) (overrides : Option Overrides)
    (t : Tree) : Prop where
  sound : t.Sound
  descriptor : ¬Tree.Below (output.absolute setting.place.cwd).parts (lead (path.components setting.place.cwd))
  templates : ∀ set config, loadIn setting.place path overrides t = .ok (set, config) →
    ∀ d, Rendering.directory config = some d →
      ¬(output.absolute setting.place.cwd).parts <+: lead (d.components setting.place.cwd)
  plain : ∀ set config, loadIn setting.place path overrides t = .ok (set, config) →
    ∀ name ∈ config.fileNames, IsFileName name
  lasting : ∀ set config, loadIn setting.place path overrides t = .ok (set, config) →
    Lasting (config.fileNames ++ if flags.manifest then [Export.manifestName] else [])

/-- A run asks for the working directory where its output directory is relative to it, or where a type is imported
from another file. -/
def AsksForDirectory (set : DescriptorSet) (output : Location) : Prop :=
  output.root = "" ∨ ∃ s, set.firstService? = some s ∧ ∃ ref ∈ s.refs,
    wellKnown? ref.typeName = none ∧ ref.file ≠ s.file

/-- A run that can be repeated: neither the descriptor nor the templates are reached by way of what its export
changes, and it does not remove the working directory if it asks for it. -/
structure Repeatable (setting : Setting) (flags : Flags) (path output : Location) (overrides : Option Overrides)
    (t : Tree) : Prop extends Apart setting flags path output overrides t where
  descriptorWay : flags.dryRun = false →
    Unswept t flags.clean (output.absolute setting.place.cwd).parts (path.components setting.place.cwd)
  templatesWay : flags.dryRun = false → ∀ set config, loadIn setting.place path overrides t = .ok (set, config) →
    ∀ d, Rendering.directory config = some d →
      Unswept t flags.clean (output.absolute setting.place.cwd).parts (d.components setting.place.cwd) ∧
        Onward t (output.absolute setting.place.cwd).parts (d.components setting.place.cwd)
  workingDirectory : flags.dryRun = false → ∀ set config,
    loadIn setting.place path overrides t = .ok (set, config) → AsksForDirectory set output →
      Unswept t flags.clean (output.absolute setting.place.cwd).parts setting.place.cwd

/-- A run with the usual names of files is apart from its output directory if the descriptor and the templates are. -/
theorem apart_of_loaded (hs : t.Sound) (hload : loadIn {} path overrides t = .ok (set, config))
    (hdescriptor : ¬Tree.Below (output.absolute []).parts (lead (path.components [])))
    (htemplates : ∀ d, Rendering.directory config = some d → ¬(output.absolute []).parts <+: lead (d.components []))
    (hnames : config.fileNames = ["client.ts", "api.ts", "index.ts"]) (flags : Flags) :
    Apart {} flags path output overrides t := by
  refine ⟨hs, hdescriptor, ?_, ?_, ?_⟩
  · intro set' config' hfound d' hd'
    cases hload.symm.trans hfound
    exact htemplates d' hd'
  · intro set' config' hfound
    cases hload.symm.trans hfound
    rw [hnames]
    decide
  · intro set' config' hfound
    cases hload.symm.trans hfound
    rw [hnames]
    apply Export.lasting_of_plain
    cases flags.manifest with
    | true => decide
    | false => decide

variable {log : List Log.Event} {r : Report} {w : World}

/-- The files of a run have the names that the settings give, and so have the files that its export writes. -/
theorem names_of_renderIn {vm : ViewModel} {files : RenderedFiles} (setting : Setting) (flags : Flags)
    (output : Location) (hfiles : renderIn setting.place config t vm = .ok files)
    (hplain : ∀ name ∈ config.fileNames, IsFileName name)
    (hlasting : Lasting (config.fileNames ++ if flags.manifest then [Export.manifestName] else [])) :
    (∀ f ∈ files, IsFileName f.1) ∧ Lasting ((exportOptions setting flags output vm.serviceName).outputs files) := by
  obtain ⟨sources, -, hnamed⟩ := bind_eq_ok.1 hfiles
  have hnames := Rendering.mem_names_of_files (mapError_eq_ok hnamed)
  refine ⟨fun f hf => hplain f.1 (hnames (List.mem_map_of_mem hf)), hlasting.mono ?_⟩
  exact List.append_subset_of_subset_of_subset (List.subset_append_of_subset_left _ hnames)
    (List.subset_append_right _ _)

theorem Repeatable.beforeExport_again (h : Repeatable setting flags path output overrides t)
    (hdry : flags.dryRun = false) {vm : ViewModel} {files : RenderedFiles}
    (hload : loadIn setting.place path overrides t = .ok (set, config))
    (hvm : ViewModel.ofFirstService setting.place.cwd set config = .ok (some vm))
    (hfiles : renderIn setting.place config t vm = .ok files)
    (hleaves : Leaves flags.clean (output.absolute setting.place.cwd).parts t t')
    {p : Progress} (hp : Ends (Input.beforeExport setting flags output (.file path overrides)) t (.ok p)) :
    Ends (Input.beforeExport setting flags output (.file path overrides)) t' (.ok p) := by
  have hload' := load_again hleaves ⟨h.descriptorWay hdry, h.descriptor⟩ hload
  obtain ⟨x, hx, hx'⟩ : EndsAlike (Input.beforeExport setting flags output (.file path overrides)) t t' := by
    apply beforeExport_alike (hload'.trans hload.symm)
    intro set' config' vm' hfound hvm'
    cases hload.symm.trans hfound
    cases hvm.symm.trans hvm'
    rw [hfiles]
    apply render_again hleaves h.sound _ hfiles
    intro d hd
    obtain ⟨hway, honward⟩ := h.templatesWay hdry set config hload d hd
    exact ⟨hway, h.templates set config hload d hd, honward⟩
  obtain ⟨rfl, -⟩ := Leads.unique hp hx
  exact hx'

theorem leads_ofFile {before : Report} {vm : ViewModel} {files : RenderedFiles} {result : Export.Result}
    (hp : Ends (Input.beforeExport setting flags output (.file path overrides)) t (.ok (before, some (vm, files))))
    (hexport : Leads (Export.run setting.place (exportOptions setting flags output vm.serviceName) files) t
      (.ok result) t') :
    Leads (ofFile setting flags path output overrides) t (.ok (before.addExport result).finish) t' := by
  have hbind : ofFile setting flags path output overrides =
      Input.beforeExport setting flags output (.file path overrides) >>= exported setting flags output :=
    Input.generate_eq_bind (.file path overrides)
  rw [hbind]
  exact Leads.bind hp (leads_exported hexport)

/-- A second run leaves the tree as it is and makes the same report, except for the text of the error where a name
on the way to the output directory is too long. -/
theorem ofFile_again (h : Repeatable setting flags path output overrides t)
    (hrun : ofFile setting flags path output overrides ⟨t, log⟩ = .ok r w) (log' : List Log.Event) :
    ∃ r' w', ofFile setting flags path output overrides ⟨w.tree, log'⟩ = .ok r' w' ∧
      (∀ q, w'.tree.get? q = w.tree.get? q) ∧ Repeated t (output.absolute setting.place.cwd).parts r r' := by
  have hbind : ofFile setting flags path output overrides =
      Input.beforeExport setting flags output (.file path overrides) >>= exported setting flags output :=
    Input.generate_eq_bind (.file path overrides)
  obtain ⟨p, hp, hcame⟩ := Input.beforeExport_came (.file path overrides) setting flags output t
  cases p with
  | error f =>
    rw [hbind] at hrun
    cases (Leads.eq_ok (hp.bind_error _) hrun).1
  | ok progress =>
    obtain ⟨before, left⟩ := progress
    cases left with
    | none =>
      have hend : Ends (exported setting flags output (before, none)) t (.ok before.finish) := .pure _
      have hwhole := hp.bind hend
      rw [hbind] at hrun ⊢
      obtain ⟨hr, rfl⟩ := Leads.eq_ok hwhole hrun
      cases hr
      obtain ⟨log₂, hagain⟩ := hwhole log'
      exact ⟨_, _, hagain, fun _ => rfl, .same _⟩
    | some found =>
      obtain ⟨vm, files⟩ := found
      cases hcame with
      | @loaded set config _ hload hready =>
        cases hready with
        | ready hdry hvm hfiles hrendered =>
          let o := exportOptions setting flags output vm.serviceName
          obtain ⟨hplain, hlasting⟩ : (∀ f ∈ files, IsFileName f.1) ∧ Lasting (o.outputs files) :=
            names_of_renderIn setting flags output hfiles (h.plain set config hload) (h.lasting set config hload)
          obtain ⟨e, t₁, hexport, hsettles⟩ := Export.run_settles o setting.place h.sound hplain hlasting
          rw [hbind] at hrun
          obtain ⟨hr, rfl⟩ := Leads.eq_ok (Leads.bind hp (leads_exported hexport)) hrun
          cases e with
          | error e => cases hr
          | ok result =>
            cases hr
            obtain ⟨hleaves, result', t₂, hagain, hsame, hrepeats⟩ := hsettles result rfl
            have hbefore := h.beforeExport_again hdry hload hvm hfiles hleaves hp
            obtain ⟨log₂, hsecond⟩ := leads_ofFile hbefore hagain log'
            exact ⟨_, _, hsecond, hsame, repeated_of_repeats hrepeats before⟩

def yardDescriptor : String :=
  "\x7b\"files\":[\x7b\"name\":\"a\",\"services\":[\x7b\"name\":\"Yard\"\x7d]\x7d]\x7d"

def yardSet : DescriptorSet := { files := [⟨"a", "", [], [⟨"Yard", "", "a", []⟩]⟩] }

def yardModel : ViewModel := { serviceName := "Yard", protoPbFile := "a_pb", connectQueryFile := "a-Yard_connectquery" }

def bareTree : Tree := ⟨[(["d.json"], .file yardDescriptor.toUTF8)]⟩

/-- Short templates, and an output directory with entries, one of which cleaning keeps. -/
def yardTree : Tree :=
  ⟨[(["d.json"], .file yardDescriptor.toUTF8), (["t"], .directory),
    (["t", "client.ts.jinja"], .file "client".toUTF8), (["t", "api.ts.jinja"], .file "api".toUTF8),
    (["t", "index.ts.jinja"], .file "index".toUTF8), (["out"], .directory), (["out", "old"], .directory),
    (["out", ".git"], .directory), (["out", ".git", "HEAD"], .file "main".toUTF8)]⟩

theorem bare_loaded : DescriptorFile.loadIn {} ⟨"/", ["d.json"]⟩ bareTree = .ok (yardSet, []) := by
  have hfound : (match DescriptorFile.loadIn {} ⟨"/", ["d.json"]⟩ bareTree with
      | .ok (set, given) => decide (set = yardSet) && given.isEmpty
      | .error _ => false) = true := by
    decide +kernel
  cases hload : DescriptorFile.loadIn {} ⟨"/", ["d.json"]⟩ bareTree with
  | error e =>
    rw [hload] at hfound
    cases hfound
  | ok found =>
    obtain ⟨set, given⟩ := found
    rw [hload] at hfound
    obtain ⟨hset, hgiven⟩ := Bool.and_eq_true_iff.1 hfound
    rw [of_decide_eq_true hset, List.isEmpty_iff.1 hgiven]

theorem stat_descriptor {e : Entry} (h : t.get? ["d.json"] = some e) :
    Place.stat {} t ⟨"/", ["d.json"]⟩ = .ok e := by
  have hwalk : t.walk ([] ++ ["d.json"]) = .ok ["d.json"] := by
    rw [Tree.walk_concat rfl, Tree.step, Tree.get?, if_pos rfl]
    decide
  have hlocate : Place.locate {} t ⟨"/", ["d.json"]⟩ = .ok ["d.json"] :=
    Place.locate_eq_ok_iff.2 ⟨by decide, by decide, hwalk⟩
  exact Place.stat_eq_ok_iff.2 ⟨_, hlocate, h⟩

theorem yard_loaded (h : t.get? ["d.json"] = some (.file yardDescriptor.toUTF8))
    (hbuild : Config.build [some [], overrides] = .ok config) :
    loadIn {} ⟨"/", ["d.json"]⟩ overrides t = .ok (yardSet, config) := by
  have hload : DescriptorFile.loadIn {} ⟨"/", ["d.json"]⟩ t = .ok (yardSet, []) := by
    have hstat : Place.stat {} t ⟨"/", ["d.json"]⟩ = Place.stat {} bareTree ⟨"/", ["d.json"]⟩ :=
      (stat_descriptor h).trans (stat_descriptor rfl).symm
    rw [DescriptorFile.loadIn, DescriptorFile.read_congr hstat]
    exact bare_loaded
  rw [loadIn, hload]
  exact congrArg (fun built => (built.mapError Failure.settings).map fun c => (yardSet, c)) hbuild

theorem yard_model (d : Option String) :
    ViewModel.ofFirstService [] yardSet { templateDir := d } = .ok (some yardModel) := by
  have hsame : ViewModel.ofFirstService [] yardSet { templateDir := d } =
      ViewModel.ofFirstService [] yardSet {} := rfl
  rw [hsame]
  decide

def yardOverrides : Option Overrides := some [("template_dir", .text "/t")]

def yardConfig : Config := { templateDir := some "/t" }

theorem yard_directory : Rendering.directory yardConfig = some ⟨"/", ["t"]⟩ := by decide

theorem yard_sound : yardTree.Sound := Tree.sound_of_entries (by decide)

theorem yard_repeatable :
    Repeatable {} { clean := true } ⟨"/", ["d.json"]⟩ ⟨"/", ["out"]⟩ yardOverrides yardTree := by
  have hload : loadIn {} ⟨"/", ["d.json"]⟩ yardOverrides yardTree = .ok (yardSet, yardConfig) :=
    yard_loaded (by decide) rfl
  have hplace : ((⟨"/", ["out"]⟩ : Location).absolute []).parts = ["out"] := by
    decide
  -- A way of one name passes through nothing below the directory.
  have hway (name : String) (hname : ¬Tree.Below ["out"] (lead [name])) : Unswept yardTree true ["out"] [name] := by
    rintro ps s hps hs - ⟨-, hbelow, -⟩
    rw [Tree.walk_lead hs] at hbelow
    rcases List.prefix_cons_iff.1 hps with rfl | ⟨rest, rfl, hrest⟩
    · exact absurd hbelow (by decide)
    · rw [List.prefix_nil.1 hrest] at hbelow
      exact hname hbelow
  refine ⟨apart_of_loaded yard_sound hload (by decide) ?_ rfl _, ?_, ?_, ?_⟩
  · intro d hd
    cases yard_directory.symm.trans hd
    decide
  · intro _
    rw [hplace]
    exact hway "d.json" (by decide)
  · intro _ set config hfound d hd
    cases hload.symm.trans hfound
    cases yard_directory.symm.trans hd
    have hwalk : yardTree.walk ["t"] = .ok ["t"] := by
      decide
    rw [hplace]
    exact ⟨hway "t" (by decide), Export.onward_of_walk hwalk _⟩
  · intro _ set config hfound hasks
    cases hload.symm.trans hfound
    rcases hasks with hroot | ⟨s, hs, ref, href, -⟩
    · exact absurd hroot (by decide)
    · cases hs
      cases href

/-- The directory is cleaned again, and its files are written again. -/
theorem ofFile_again_yard :
    ∃ r w, ofFile {} { clean := true } ⟨"/", ["d.json"]⟩ ⟨"/", ["out"]⟩ yardOverrides ⟨yardTree, []⟩ = .ok r w ∧
      r.success = true ∧ w.tree.get? ["out", "old"] = none ∧ w.tree.get? ["out", "manifest.json"] ≠ none ∧
      ∃ w', ofFile {} { clean := true } ⟨"/", ["d.json"]⟩ ⟨"/", ["out"]⟩ yardOverrides w = .ok r w' ∧
        ∀ q, w'.tree.get? q = w.tree.get? q := by
  have hend : (match ofFile {} { clean := true } ⟨"/", ["d.json"]⟩ ⟨"/", ["out"]⟩ yardOverrides ⟨yardTree, []⟩ with
      | .ok r w => (r.success, w.tree.get? ["out", "old"], (w.tree.get? ["out", "manifest.json"]).isSome)
      | .error _ _ => (false, none, false)) = (true, none, true) := by
    decide +kernel
  cases hrun : ofFile {} { clean := true } ⟨"/", ["d.json"]⟩ ⟨"/", ["out"]⟩ yardOverrides ⟨yardTree, []⟩ with
  | error f w =>
    rw [hrun] at hend
    cases hend
  | ok r w =>
    rw [hrun] at hend
    obtain ⟨hsuccess, hrest⟩ := Prod.mk.injEq _ _ _ _ ▸ hend
    obtain ⟨hold, hmanifest⟩ := Prod.mk.injEq _ _ _ _ ▸ hrest
    obtain ⟨r', w', hagain, hsame, hrepeated⟩ := ofFile_again yard_repeatable hrun w.log
    rw [hrepeated.eq_of_fits (by decide)] at hagain
    exact ⟨r, w, rfl, hsuccess, hold, Option.isSome_iff_ne_none.1 hmanifest, w', hagain, hsame⟩

/-- A run that is apart from its output directory returns a report, and the next one does not return the same. -/
def Unrepeated (flags : Flags) (path output : Location) (overrides : Option Overrides) (t : Tree) : Prop :=
  Apart {} flags path output overrides t ∧ ∃ r w, ofFile {} flags path output overrides ⟨t, []⟩ = .ok r w ∧
    ∀ w', ofFile {} flags path output overrides w ≠ .ok r w'

theorem exists_report (setting : Setting) (flags : Flags) {vm : ViewModel} {files : RenderedFiles}
    {result : Export.Result} (hnull : output.hasNull = false) (hdry : flags.dryRun = false)
    (hload : loadIn setting.place path overrides t = .ok (set, config))
    (hvm : ViewModel.ofFirstService setting.place.cwd set config = .ok (some vm))
    (hfiles : renderIn setting.place config t vm = .ok files)
    (hexport : Leads (Export.run setting.place (exportOptions setting flags output vm.serviceName) files) t
      (.ok result) t') :
    ∃ r, Leads (ofFile setting flags path output overrides) t (.ok r) t' ∧
      r.exportErrors = result.errors.map Export.Failed.message := by
  obtain ⟨before, hbefore⟩ := beforeExport_ready hnull hdry hload hvm hfiles
  exact ⟨_, leads_ofFile hbefore hexport, rfl⟩

theorem renderIn_of_missing {place : Place} {vm : ViewModel} (hstale : Json.ShortInt config.queryStaleTime)
    (h : ∀ d, Rendering.directory config = some d →
      ∀ key ∈ Rendering.keys, place.isFile? t (d.child (Rendering.fileName key)) = .ok false) :
    renderIn place config t vm = .ok (vm.files config) := by
  obtain ⟨sources, hsources, hfiles⟩ : ∃ sources,
      Rendering.sourcesIn place (Rendering.directory config) t = .ok sources ∧
        Rendering.files sources config vm = .ok (vm.files config) :=
    ⟨_, Rendering.sourcesIn_of_missing h, vm.files_bundled config hstale⟩
  rw [renderIn, hsources]
  change (Rendering.files sources config vm).mapError Failure.rendering = _
  rw [hfiles]
  rfl

/-- A descriptor that is reached by way of a directory that cleaning removes is not found again. -/
theorem unrepeated_descriptor :
    Unrepeated { clean := true } ⟨"/", ["out", "old", "..", "..", "d.json"]⟩ ⟨"/", ["out"]⟩ yardOverrides
      yardTree := by
  obtain ⟨hends, hload⟩ :
      (match ofFile {} { clean := true } ⟨"/", ["out", "old", "..", "..", "d.json"]⟩ ⟨"/", ["out"]⟩
        yardOverrides ⟨yardTree, []⟩ with
        | .error _ _ => (false, false)
        | .ok r w => (r.success, match ofFile {} { clean := true } ⟨"/", ["out", "old", "..", "..", "d.json"]⟩
            ⟨"/", ["out"]⟩ yardOverrides w with
          | .error _ _ => true
          | .ok r' _ => r'.success)) = (true, false) ∧
      loadIn {} ⟨"/", ["out", "old", "..", "..", "d.json"]⟩ yardOverrides yardTree = .ok (yardSet, yardConfig) := by
    decide +kernel
  cases hrun : ofFile {} { clean := true } ⟨"/", ["out", "old", "..", "..", "d.json"]⟩ ⟨"/", ["out"]⟩
      yardOverrides ⟨yardTree, []⟩ with
  | error f w =>
    rw [hrun] at hends
    cases hends
  | ok r w =>
    rw [hrun] at hends
    obtain ⟨hsuccess, hfails⟩ := Prod.mk.injEq _ _ _ _ ▸ hends
    refine ⟨apart_of_loaded yard_sound hload (by decide) ?_ rfl _, r, w, hrun, ?_⟩
    · intro d hd
      cases yard_directory.symm.trans hd
      decide
    · intro w' hagain
      rw [hagain] at hfails
      change r.success = false at hfails
      rw [hsuccess] at hfails
      cases hfails

def longName (n : Nat) : String := String.ofList (List.replicate n 'x')

section LongName

variable {n : Nat}

theorem mem_longName {c : Char} (h : c ∈ (longName n).toList) : c = 'x' := by
  rw [longName, String.toList_ofList] at h
  exact List.eq_of_mem_replicate h

theorem utf8ByteSize_longName (n : Nat) : (longName n).utf8ByteSize = n := by
  induction n with
  | zero => rfl
  | succ n ih =>
    rw [longName, List.replicate_succ, String.ofList_cons, String.utf8ByteSize_append]
    change _ + (longName n).utf8ByteSize = _
    rw [ih, Nat.add_comm]
    rfl

theorem longName_fits (h : 255 < n) : Tree.nameFits (longName n) = false := by
  rw [Tree.nameFits, utf8ByteSize_longName]
  exact decide_eq_false (Nat.not_le.2 h)

theorem longName_isFileName (h : 255 < n) : IsFileName (longName n) := by
  have hne (c : String) (hc : c.utf8ByteSize ≤ 255) : longName n ≠ c := by
    rintro rfl
    rw [utf8ByteSize_longName] at hc
    omega
  have hplain (c : Char) (hc : c ≠ 'x') : c ∉ (longName n).toList := fun hmem => hc (mem_longName hmem)
  exact ⟨⟨hne _ (by decide), hne _ (by decide), hplain _ (by decide)⟩, hne _ (by decide), hplain _ (by decide)⟩

theorem longName_normal (h : 255 < n) : Normal ["m", longName n] := by
  have hname := longName_isFileName h
  have hfirst : Normal ["m"] := by
    decide
  exact normal_concat hfirst hname.ne_empty hname.ne_dot hname.not_up

theorem text_long (n : Nat) : (Location.atPath ["m", longName n]).text = "/m/" ++ longName n := by
  simp [Location.text, Location.atPath, String.intercalate_cons_cons, ← String.append_assoc]

theorem text_longer (n : Nat) (c : String) :
    (Location.atPath ["m", longName n, c]).text = "/m/" ++ longName n ++ ("/" ++ c) := by
  simp [Location.text, Location.atPath, String.intercalate_cons_cons, ← String.append_assoc]

theorem longName_short {c : String} (h : n < 4000) (hc : c.utf8ByteSize ≤ 15) :
    (Location.atPath ["m", longName n, c]).text.utf8ByteSize < 4096 := by
  rw [text_longer, String.utf8ByteSize_append, String.utf8ByteSize_append, String.utf8ByteSize_append,
    utf8ByteSize_longName]
  have hends : "/m/".utf8ByteSize = 3 ∧ "/".utf8ByteSize = 1 := by decide
  omega

theorem longName_noNull {c : String} (h : 255 < n) (hc : '\x00' ∉ c.toList) :
    (Location.atPath ["m", longName n, c]).hasNull = false := by
  have hfirst : (Location.atPath ["m"]).hasNull = false := by
    decide
  exact hasNull_concat (hasNull_concat hfirst (longName_isFileName h).no_null) hc

/-- Quoting a text of characters that need no escapes. -/
theorem quoted_of_plain {s : String} (h : ∀ c ∈ s.toList, c ≠ '\'' ∧ Text.quotedChar '\'' c = String.singleton c) :
    Text.quoted s = "'" ++ s ++ "'" := by
  have hquote : Text.quoteFor s.toList = '\'' := by
    rw [Text.quoteFor, if_neg]
    intro hboth
    exact (h _ (List.elem_iff.1 (Bool.and_eq_true_iff.1 hboth).1)).1 rfl
  have hchars : s.toList.map (Text.quotedChar '\'') = s.toList.map String.singleton :=
    List.map_congr_left fun c hc => (h c hc).2
  have hjoin : String.join (s.toList.map String.singleton) = s := by
    apply String.toList_injective
    rw [String.toList_join]
    simp [List.flatMap_map]
  rw [Text.quoted, hquote, hchars, hjoin]
  rfl

theorem quoted_of_tooLong {p q : FilePath} (h : tooLong p = tooLong q) :
    Text.quoted (Location.atPath p).text = Text.quoted (Location.atPath q).text := by
  have hfailed (e : Files.Error) :
      (Export.Failed.aborted e).message = "Fatal export error: " ++ e.label ++ ": " ++ e.message := rfl
  have hmessage (code : Code) (s : String) : (Files.Error.refused code s none).message =
      "[Errno " ++ toString code.number ++ "] " ++ code.text ++ ": " ++ Text.quoted s := by
    rw [Files.Error.message]
    exact String.append_empty
  rw [tooLong, tooLong, hfailed, hfailed, hmessage, hmessage] at h
  exact (String.append_right_inj _).1 ((String.append_right_inj _).1 h)

theorem tooLong_ne (n : Nat) : tooLong ["m", longName n, "x"] ≠ tooLong ["m", longName n] := by
  have hplain : ∀ c ∈ ['/', 'm', 'x'], c ≠ '\'' ∧ Text.quotedChar '\'' c = String.singleton c := by
    intro c hc
    simp only [List.mem_cons, List.not_mem_nil, or_false] at hc
    rcases hc with rfl | rfl | rfl
    · exact ⟨by decide, rfl⟩
    · exact ⟨by decide, rfl⟩
    · exact ⟨by decide, rfl⟩
  have hlong : ∀ c ∈ ("/m/" ++ longName n).toList, c ∈ ['/', 'm', 'x'] := by
    intro c hc
    rw [String.toList_append] at hc
    rcases List.mem_append.1 hc with hc | hc
    · exact (by decide : "/m/".toList ⊆ ['/', 'm', 'x']) hc
    · rw [mem_longName hc]
      decide
  have hlonger : ∀ c ∈ ("/m/" ++ longName n ++ ("/" ++ "x")).toList, c ∈ ['/', 'm', 'x'] := by
    intro c hc
    rw [String.toList_append] at hc
    rcases List.mem_append.1 hc with hc | hc
    · exact hlong c hc
    · exact (by decide : ("/" ++ "x").toList ⊆ ['/', 'm', 'x']) hc
  intro heq
  have hquoted := quoted_of_tooLong heq
  rw [text_long, text_longer, quoted_of_plain fun c hc => hplain c (hlong c hc),
    quoted_of_plain fun c hc => hplain c (hlonger c hc)] at hquoted
  have hsame := (String.append_right_inj _).1 ((String.append_left_inj _).1 hquoted)
  exact absurd (String.append_eq_left_iff.1 hsame) (by decide)

theorem makeDirectory_missing {p : FilePath} (hnull : (Location.atPath p).hasNull = false)
    (hshort : (Location.atPath p).text.utf8ByteSize < 4096) (hwalk : t.walk p = .error .notFound) :
    Place.makeDirectory {} t (.atPath p) = .error (.refused .notFound (Location.atPath p).text none) := by
  rw [Place.makeDirectory, Place.locate, hnull, if_neg Bool.false_ne_true, if_neg (Nat.not_le.2 hshort),
    components_atPath, hwalk]
  rfl

def grownTree : Tree := bareTree.put ["m"] .directory

theorem grownTree_stands : Place.Stands {} grownTree ["m"] := ⟨by decide, by decide, by decide⟩

theorem leads_ensure_long (hlong : 255 < n) (hshort : n < 4000) :
    Leads (Place.ensure {} (.atPath ["m", longName n, "x"])) bareTree
      (.error (.refused .nameTooLong (Location.atPath ["m", longName n]).text none)) grownTree := by
  have hroot : Place.Stands {} bareTree [] := ⟨by decide, by decide, rfl⟩
  have hmiddleShort : (Location.atPath (["m"] ++ [longName n])).text.utf8ByteSize < 4096 := by
    rw [List.singleton_append, text_long, String.utf8ByteSize_append, utf8ByteSize_longName]
    have hfront : "/m/".utf8ByteSize = 3 := by decide
    omega
  have hmissing : bareTree.get? ["m"] = none := by
    decide
  have hfound : bareTree.walk ["m"] = .ok ["m"] := by
    decide
  have hmiddleWalk : bareTree.walk (["m"] ++ [longName n]) = .error .notFound := by
    rw [Tree.walk_concat hfound, Tree.step, hmissing]
  have hlastWalk : bareTree.walk (["m", longName n] ++ ["x"]) = .error .notFound := by
    rw [Tree.walk_append_singleton]
    change (bareTree.walk (["m"] ++ [longName n])).bind _ = _
    rw [hmiddleWalk]
    rfl
  have hname := longName_isFileName hlong
  have hlast := makeDirectory_missing (longName_noNull hlong (by decide)) (longName_short hshort (by decide)) hlastWalk
  have hmiddle := makeDirectory_missing (hasNull_concat (by decide) hname.no_null) hmiddleShort hmiddleWalk
  have hmake : Place.makeDirectory {} bareTree (.atPath ["m"]) = .ok grownTree :=
    hroot.makeDirectory_child (by decide) (by decide) (by decide) (by decide)
  have hfirst : Leads (Place.makeDirectories {} 1 (.atPath ["m"])) bareTree (.ok ()) grownTree := by
    apply Place.leads_makeDirectories _ (Leads.bind (.attempt (.change_ok hmake)) (Ends.pure ()))
    intro x y hfails
    rw [hmake] at hfails
    cases hfails
  have hlocate := grownTree_stands.locate_child hname.not_up hname.no_null
  rw [if_pos (.inr (longName_fits hlong))] at hlocate
  have hboth := Place.leads_makeDirectories_up hmiddle (hfirst.bind (Place.ends_makeOrKeep_of_long hlocate))
  have hall := Place.leads_makeDirectories_up hlast (hboth.bind_error _)
  rw [Place.ensure]
  exact hall

theorem long_stuck (hlong : 255 < n) : Place.Stuck bareTree grownTree ["m", longName n, "x"]
    (.refused .nameTooLong (Location.atPath ["m", longName n]).text none) := by
  refine ⟨longName_noNull hlong (by decide), ?_, ["m"], longName n, ["x"], rfl, longName_fits hlong, by decide, rfl⟩
  have hwalk := grownTree_stands.walk_child (longName_isFileName hlong).not_up
  rw [longName_fits hlong, if_neg Bool.false_ne_true] at hwalk
  change grownTree.walk ((["m"] ++ [longName n]) ++ ["x"]) = _
  rw [Tree.walk_append_singleton, hwalk]
  rfl

/-- A second run tells of the whole way to the output directory, and the first one did not. -/
theorem unrepeated_way (hlong : 255 < n) (hshort : n < 4000) :
    Unrepeated {} ⟨"/", ["d.json"]⟩ (.atPath ["m", longName n, "x"]) none bareTree := by
  let o := (exportOptions {} {} (.atPath ["m", longName n, "x"]) "Yard").resolved {}
  have hnormal : Normal (["m", longName n] ++ ["x"]) :=
    normal_concat (longName_normal hlong) (by decide) (by decide) (by decide)
  have hdirectory : o.directory = .atPath ["m", longName n, "x"] := absolute_atPath hnormal []
  have hprepare : Leads (o.prepare {}) bareTree _ grownTree :=
    Leads.bind (Export.Options.ends_unswept rfl {} bareTree) (hdirectory ▸ leads_ensure_long hlong hshort)
  have hstuck := long_stuck hlong
  change Place.Stuck bareTree grownTree (Location.atPath ["m", longName n, "x"]).parts _ at hstuck
  rw [← hdirectory] at hstuck
  have hagain := Export.Options.prepare_stuck (Export.Options.anchored_resolved _ {}) hstuck {}
  rw [hdirectory] at hagain
  have hload : loadIn {} ⟨"/", ["d.json"]⟩ none bareTree = .ok (yardSet, {}) := yard_loaded rfl rfl
  have hload' : loadIn {} ⟨"/", ["d.json"]⟩ none grownTree = .ok (yardSet, {}) := yard_loaded (by decide) rfl
  have hapart : Apart {} {} ⟨"/", ["d.json"]⟩ (.atPath ["m", longName n, "x"]) none bareTree := by
    have hparts : ((Location.atPath ["m", longName n, "x"]).absolute []).parts = ["m", longName n, "x"] :=
      congrArg Location.parts hdirectory
    refine apart_of_loaded (Tree.sound_of_entries (by decide)) hload ?_ (fun d hd => by cases hd) rfl {}
    rw [hparts]
    have hfew : ¬3 ≤ (lead (Location.components [] ⟨"/", ["d.json"]⟩)).length := by
      decide
    exact fun hbelow => hfew hbelow.1.length_le
  have hnull : (Location.atPath ["m", longName n, "x"]).hasNull = false := longName_noNull hlong (by decide)
  obtain ⟨r, hfirst, hr⟩ := exists_report {} {} hnull rfl hload (yard_model none)
    (renderIn_of_missing (by decide) (fun d hd => by cases hd))
    (Export.leads_run hnull (Export.Options.writeTo_of_refused hprepare rfl _))
  obtain ⟨r', hsecond, hr'⟩ := exists_report {} {} hnull rfl hload' (yard_model none)
    (renderIn_of_missing (by decide) (fun d hd => by cases hd))
    (Export.leads_run hnull (Export.Options.writeTo_of_refused hagain rfl _))
  obtain ⟨log, hrun⟩ := hfirst []
  refine ⟨hapart, r, _, hrun, ?_⟩
  intro w' hagain
  obtain ⟨hreport, -⟩ := hsecond.eq_ok hagain
  cases hreport
  have hsame : [tooLong ["m", longName n, "x"]] = [tooLong ["m", longName n]] := hr'.symm.trans hr
  exact tooLong_ne n (List.singleton_inj.1 hsame)

/-- A template that cannot be read leaves no sources. -/
theorem sourcesIn_error {place : Place} {d : Location} {entry : String × String} (hentry : entry ∈ Rendering.bundled)
    (hfails : ∀ source, Rendering.sourceIn place (some d) t entry.1 entry.2 ≠ .ok source) :
    ∃ e, Rendering.sourcesIn place (some d) t = .error e := by
  cases hsources : Rendering.sourcesIn place (some d) t with
  | error e => exact ⟨e, rfl⟩
  | ok sources =>
    obtain ⟨source, hsource⟩ := exists_mapM_eq_ok.1 ⟨sources, hsources⟩ entry hentry
    exact absurd hsource (hfails source)

theorem exists_eq_ok {ε : Type} {x : EStateM.Result ε World Unit}
    (h : (match x with | .ok _ _ => true | .error _ _ => false) = true) : ∃ w, x = .ok () w := by
  cases x with
  | ok u w => exact ⟨w, rfl⟩
  | error e w => cases h

theorem unrepeated_of_bundled {vm : ViewModel} (hapart : Apart {} {} path output overrides t)
    (hnull : output.hasNull = false)
    (hload : loadIn {} path overrides t = .ok (set, config)) (hstale : Json.ShortInt config.queryStaleTime)
    (hvm : ViewModel.ofFirstService [] set config = .ok (some vm))
    (hmissing : ∀ d, Rendering.directory config = some d →
      ∀ key ∈ Rendering.keys, Place.isFile? {} t (d.child (Rendering.fileName key)) = .ok false)
    (hprepare : ∃ w, ((exportOptions {} {} output vm.serviceName).resolved {}).prepare {} ⟨t, []⟩ = .ok () w)
    (hfails : ∀ t', Leaves false (output.absolute []).parts t t' → Place.Stands {} t' (output.absolute []).parts →
      ∃ e, Rendering.sourcesIn {} (Rendering.directory config) t' = .error e) :
    Unrepeated {} path output overrides t := by
  have hfiles : renderIn {} config t vm = .ok (vm.files config) := renderIn_of_missing hstale hmissing
  let o := exportOptions {} {} output vm.serviceName
  obtain ⟨w₁, hprepared⟩ := hprepare
  have hprepare := (Export.Options.determined_prepare (o.resolved {}) {}).leads hprepared
  obtain ⟨hnames, hall⟩ : (∀ f ∈ vm.files config, IsFileName f.1) ∧ Lasting (o.outputs (vm.files config)) :=
    names_of_renderIn {} {} output hfiles (hapart.plain set config hload) (hapart.lasting set config hload)
  obtain ⟨result, t₂, hexport, hready⟩ := Export.run_written (o := o) hnull hnames hall hprepare
  obtain ⟨e, t₂', hexport', hsettles⟩ := Export.run_settles o {} hapart.sound hnames hall
  obtain ⟨rfl, rfl⟩ := hexport.unique hexport'
  obtain ⟨hleaves, -⟩ := hsettles result rfl
  obtain ⟨e, he⟩ := hfails t₂ hleaves hready.stands
  obtain ⟨r, hfirst, -⟩ := exists_report {} {} hnull rfl hload hvm hfiles hexport
  obtain ⟨log, hrun⟩ := hfirst []
  refine ⟨hapart, r, _, hrun, ?_⟩
  intro w' hagain
  obtain ⟨-, hrendered, -⟩ := Input.report_errors (i := .file path overrides) hrun
  obtain ⟨-, hrefused, -⟩ := Input.report_errors (i := .file path overrides) hagain
  have hfailed : (Input.file path overrides).FailsToRender {} t₂ := by
    have hway : Unswept t false (output.absolute []).parts (path.components []) := by
      rintro ps s - - - ⟨htrue, -⟩
      cases htrue
    refine ⟨set, config, load_again hleaves ⟨hway, hapart.descriptor⟩ hload, vm, .file e, hvm, ?_⟩
    rw [renderIn, he]
    rfl
  obtain ⟨set', config', hload', vm', f, hvm', hfailed'⟩ := hrendered.1 (hrefused.2 hfailed)
  cases hload.symm.trans hload'
  cases hvm.symm.trans hvm'
  cases hfiles.symm.trans hfailed'

def shedTree : Tree :=
  ⟨[(["d.json"], .file yardDescriptor.toUTF8), (["t"], .directory), (["t", "client.ts.jinja"], .file ⟨#[0xff]⟩)]⟩

def shedConfig : Config := { templateDir := some "/out/../t" }

def shedLocation : Location := ⟨"/", ["out", "..", "t"]⟩

theorem shed_directory : Rendering.directory shedConfig = some shedLocation := by decide

theorem stat_shed {t' : Tree} (hleaves : Leaves false ["out"] shedTree t') (hstands : Place.Stands {} t' ["out"]) :
    Place.stat {} t' (shedLocation.child "client.ts.jinja") = .ok (.file ⟨#[0xff]⟩) := by
  have hkept {q : FilePath} {e : Entry} (hq : ¬Tree.Below ["out"] q) (he : shedTree.get? q = some e) :
      t'.get? q = some e := by
    rcases hleaves.outside q hq with hsame | ⟨hnone, -⟩
    · exact hsame.trans he
    · cases he.symm.trans hnone
  have htemplates : t'.get? ["t"] = some .directory := hkept (by decide) (by decide)
  have htemplate : t'.get? ["t", "client.ts.jinja"] = some (.file ⟨#[0xff]⟩) :=
    hkept (by decide) (by decide)
  have hup : t'.walk (["out"] ++ [".."]) = .ok [] := by
    rw [Tree.walk_concat hstands.walk, Tree.step, hstands.directory]
    rfl
  have hdown : t'.walk (["out"] ++ [".."] ++ ["t"]) = .ok ["t"] := by
    rw [Tree.walk_concat hup, Tree.step, Tree.get?, if_pos rfl]
    decide
  have hwalk : t'.walk (["out"] ++ [".."] ++ ["t"] ++ ["client.ts.jinja"]) = .ok ["t", "client.ts.jinja"] := by
    rw [Tree.walk_concat hdown, Tree.step, htemplates]
    decide
  have hlocate : Place.locate {} t' (shedLocation.child "client.ts.jinja") = .ok ["t", "client.ts.jinja"] :=
    Place.locate_eq_ok_iff.2 ⟨by decide, by decide, hwalk⟩
  exact Place.stat_eq_ok_iff.2 ⟨_, hlocate, htemplate⟩

theorem shed_refused {t' : Tree} (hleaves : Leaves false ["out"] shedTree t') (hstands : Place.Stands {} t' ["out"]) :
    ∃ e, Rendering.sourcesIn {} (Rendering.directory shedConfig) t' = .error e := by
  have hstat := stat_shed hleaves hstands
  have hthere := Place.isFile?_eq_true_iff.2 ⟨_, hstat⟩
  have hbroken : (Text.Utf8.decode ⟨#[0xff]⟩).toBool = false := by
    decide
  rw [shed_directory]
  refine sourcesIn_error List.mem_cons_self fun source hsource => ?_
  obtain ⟨isFile, hfile, hread⟩ := bind_eq_ok.1 hsource
  cases hthere.symm.trans hfile
  obtain ⟨text, htext, -⟩ := bind_eq_ok.1 hread
  obtain ⟨bytes, hbytes, hdecode⟩ := bind_eq_ok.1 htext
  change Place.readBytes {} t' (shedLocation.child "client.ts.jinja") = .ok bytes at hbytes
  rw [Place.readBytes, hstat] at hbytes
  cases hbytes
  cases hdecoded : Text.Utf8.decode ⟨#[0xff]⟩ with
  | ok s =>
    rw [hdecoded] at hbroken
    cases hbroken
  | error fault =>
    rw [hdecoded] at hdecode
    cases hdecode

/-- Templates that are reached by way of the output directory are not found until that is there. -/
theorem unrepeated_templates :
    Unrepeated {} ⟨"/", ["d.json"]⟩ ⟨"/", ["out"]⟩ (some [("template_dir", .text "/out/../t")]) shedTree := by
  have hload : loadIn {} ⟨"/", ["d.json"]⟩ (some [("template_dir", .text "/out/../t")]) shedTree =
      .ok (yardSet, shedConfig) :=
    yard_loaded (by decide) rfl
  have hparts : ((⟨"/", ["out"]⟩ : Location).absolute []).parts = ["out"] := by
    decide
  have hapart : Apart {} {} ⟨"/", ["d.json"]⟩ ⟨"/", ["out"]⟩ (some [("template_dir", .text "/out/../t")]) shedTree := by
    refine apart_of_loaded (Tree.sound_of_entries (by decide)) hload (by decide) ?_ rfl {}
    intro d hd
    cases shed_directory.symm.trans hd
    decide
  refine unrepeated_of_bundled hapart (by decide) hload (by decide) (yard_model _) ?_ ?_ ?_
  · intro d hd
    cases shed_directory.symm.trans hd
    decide
  · exact exists_eq_ok (by decide)
  · rw [hparts]
    intro t' hleaves hstands
    exact shed_refused hleaves hstands

def longConfig (n : Nat) : Config := { templateDir := some (append "/m" (longName n)) }

theorem long_directory (hlong : 255 < n) :
    Rendering.directory (longConfig n) = some (.atPath ["m", longName n]) := by
  have hlocation : Location.ofText (append "/m" (longName n)) = .atPath ["m", longName n] := by
    have hfront : Location.ofText "/m" = .atPath ["m"] := by
      decide
    rw [ofText_append, join_fileName (longName_isFileName hlong), hfront]
    rfl
  have hne : append "/m" (longName n) ≠ "" := by
    intro hempty
    rw [hempty] at hlocation
    have hroot : (Location.ofText "").root = "/" := congrArg Location.root hlocation
    exact absurd hroot (by decide)
  rw [Rendering.directory, longConfig, Option.filter_some, if_pos (decide_eq_true hne)]
  exact congrArg some hlocation

theorem walk_one {c : String} (hup : c ≠ "..") (hfits : Tree.nameFits c = true) (t : Tree) : t.walk [c] = .ok [c] := by
  change t.walk ([] ++ [c]) = _
  rw [Tree.walk_concat rfl, Tree.step, Tree.get?, if_pos rfl]
  dsimp only
  rw [if_neg hup, if_pos hfits]
  rfl

theorem long_missing (hshort : n < 4000) {key : String} (hkey : key ∈ Rendering.keys) :
    Place.isFile? {} bareTree (.atPath ["m", longName n, Rendering.fileName key]) = .ok false := by
  have hsize : ∀ key ∈ Rendering.keys, (Rendering.fileName key).utf8ByteSize ≤ 15 := by
    decide
  refine Export.isFile?_eq_false_iff.2 (.inr ⟨longName_short hshort (hsize key hkey), ?_⟩)
  rw [components_atPath]
  exact Export.noFile_of_stop (walk_one (by decide) (by decide) bareTree) (by decide) _ _

theorem long_refused (hlong : 255 < n) (hshort : n < 4000) {t' : Tree} (hthere : t'.get? ["m"] = some .directory) :
    ∃ e, Rendering.sourcesIn {} (Rendering.directory (longConfig n)) t' = .error e := by
  have hwalk : t'.walk (["m"] ++ [longName n]) = .error .nameTooLong := by
    rw [Tree.walk_concat (walk_one (by decide) (by decide) t'), Tree.step, hthere]
    dsimp only
    rw [if_neg (longName_isFileName hlong).not_up, longName_fits hlong, if_neg Bool.false_ne_true]
  have hlocate : Place.locate {} t' (.atPath ["m", longName n, "client.ts.jinja"]) =
      .error (.refused .nameTooLong (Location.atPath ["m", longName n, "client.ts.jinja"]).text none) := by
    have hsize : (Location.atPath ["m", longName n, "client.ts.jinja"]).text.utf8ByteSize < 4096 :=
      longName_short hshort (by decide)
    have hend : t'.walk (["m"] ++ [longName n] ++ ["client.ts.jinja"]) = .error .nameTooLong := by
      rw [Tree.walk_append_singleton, hwalk]
      rfl
    rw [Place.locate, longName_noNull hlong (by decide), if_neg Bool.false_ne_true, if_neg (Nat.not_le.2 hsize),
      components_atPath]
    change (t'.walk (["m"] ++ [longName n] ++ ["client.ts.jinja"])).mapError _ = _
    rw [hend]
    rfl
  have hfile : Place.isFile? {} t' (.atPath ["m", longName n, "client.ts.jinja"]) =
      .error (.refused .nameTooLong (Location.atPath ["m", longName n, "client.ts.jinja"]).text none) := by
    rw [Place.isFile?, Place.entry?_of_long hlocate]
    rfl
  rw [long_directory hlong]
  refine sourcesIn_error List.mem_cons_self fun source hsource => ?_
  obtain ⟨isFile, hfound, -⟩ := bind_eq_ok.1 hsource
  cases hfile.symm.trans hfound

/-- Where the templates are said to be below a directory that is missing, under too long a name, that name is not
seen until the directory is there. -/
theorem unrepeated_long_templates (hlong : 255 < n) (hshort : n < 4000) :
    Unrepeated {} ⟨"/", ["d.json"]⟩ ⟨"/", ["m", "out"]⟩ (some [("template_dir", .text (append "/m" (longName n)))])
      bareTree := by
  have hload : loadIn {} ⟨"/", ["d.json"]⟩ (some [("template_dir", .text (append "/m" (longName n)))]) bareTree =
      .ok (yardSet, longConfig n) :=
    yard_loaded rfl rfl
  have hparts : ((⟨"/", ["m", "out"]⟩ : Location).absolute []).parts = ["m", "out"] := by
    decide
  have hstale : Json.ShortInt (longConfig n).queryStaleTime := (by decide : Json.ShortInt 0)
  refine unrepeated_of_bundled ?_ (by decide) hload hstale (yard_model _) ?_ ?_ ?_
  · refine apart_of_loaded (Tree.sound_of_entries (by decide)) hload (by decide) ?_ rfl {}
    intro d hd
    cases (long_directory hlong).symm.trans hd
    rw [hparts, components_atPath, Tree.lead_of_normal (longName_normal hlong)]
    intro hunder
    have hsame : ["out"] = [longName n] := (List.cons.inj (hunder.eq_of_length rfl)).2
    have hsize := congrArg String.utf8ByteSize (List.singleton_inj.1 hsame)
    rw [utf8ByteSize_longName, show "out".utf8ByteSize = 3 by decide] at hsize
    omega
  · intro d hd key hkey
    cases (long_directory hlong).symm.trans hd
    exact long_missing hshort hkey
  · exact exists_eq_ok (by decide)
  · rw [hparts]
    intro t' hleaves hstands
    exact long_refused hlong hshort (hstands.above (List.prefix_append ["m"] ["out"]))

end LongName

/-- A run that is apart from its output directory need not be repeated: not if cleaning removes a directory on the way
to the descriptor, not if the way to the templates goes up from the output directory or on by too long a name where
that is not there yet, and not if a name on the way to the output directory is too long. -/
theorem not_repeated_detour :
    Unrepeated { clean := true } ⟨"/", ["out", "old", "..", "..", "d.json"]⟩ ⟨"/", ["out"]⟩ yardOverrides yardTree ∧
      Unrepeated {} ⟨"/", ["d.json"]⟩ ⟨"/", ["out"]⟩ (some [("template_dir", .text "/out/../t")]) shedTree ∧
      Unrepeated {} ⟨"/", ["d.json"]⟩ ⟨"/", ["m", "out"]⟩
        (some [("template_dir", .text (append "/m" (longName 256)))]) bareTree ∧
      Unrepeated {} ⟨"/", ["d.json"]⟩ (.atPath ["m", longName 256, "x"]) none bareTree :=
  ⟨unrepeated_descriptor, unrepeated_templates, unrepeated_long_templates (by decide) (by decide),
    unrepeated_way (by decide) (by decide)⟩

end RpcBindings.Generation
