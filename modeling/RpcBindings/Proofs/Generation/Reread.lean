import RpcBindings.Proofs.Export.Reread
import RpcBindings.Proofs.Generation.Writing
import RpcBindings.Proofs.Rendering.Links

namespace RpcBindings

open RpcBindings.Files
open RpcBindings.Files.Action (Ends EndsAlike Leads)
open RpcBindings.Files.Tree (lead)
open RpcBindings.Path
open RpcBindings.Export (Leaves Onward Spared Unswept)

variable {place : Place} {clean : Bool} {dir : FilePath} {t t' : Tree}

namespace Rendering

/-- Looking for templates in a directory outside the output directory is not disturbed by an export: cleaning
removes no directory on the way, and where the way comes to a missing directory above the output directory, it
does not go on from there by `..` or by too long a name. -/
structure Undisturbed (clean : Bool) (dir : FilePath) (t : Tree) (cs : List String) : Prop where
  way : Unswept t clean dir cs
  outside : ¬dir <+: lead cs
  onward : Onward t dir cs

theorem components_child (cwd : List String) (l : Location) (name : String) :
    (l.child name).components cwd = l.components cwd ++ [name] := by
  rw [Location.components, Location.components, Location.child]
  split
  · exact (List.append_assoc _ _ _).symm
  · rfl

theorem Undisturbed.spared {cs : List String} {name : String} (h : Undisturbed clean dir t cs) (hup : name ≠ "..") :
    Spared t clean dir (cs ++ [name]) := by
  have hlead : lead (cs ++ [name]) = lead cs ++ [name] := by
    rw [Tree.lead_concat, Tree.follow, if_neg hup]
  have houtside : ¬Tree.Below dir (lead (cs ++ [name])) := by
    rw [hlead]
    rintro ⟨hunder, hne⟩
    exact h.outside ((List.prefix_concat_iff.1 hunder).resolve_left (Ne.symm hne))
  refine ⟨?_, houtside⟩
  intro ps s hps hs hthere
  rcases List.prefix_concat_iff.1 hps with rfl | hps
  · rw [Tree.walk_lead hs]
    rintro ⟨-, hbelow, -⟩
    exact houtside hbelow
  · exact h.way ps s hps hs hthere

theorem source_again (h : Leaves clean dir t t') (hs : t.Sound) {d : Location} {name text : String}
    {found : String × String} (hd : Undisturbed clean dir t (d.components place.cwd)) (hup : fileName name ≠ "..")
    (hfits : Tree.nameFits (fileName name) = true) (hfound : sourceIn place (some d) t name text = .ok found) :
    sourceIn place (some d) t' name text = .ok found := by
  have hcomponents := components_child place.cwd d (fileName name)
  obtain ⟨isFile, hfile, hrest⟩ := bind_eq_ok.1 hfound
  obtain ⟨hfile', htext⟩ := h.isFile? hs (hcomponents ▸ hd.spared hup)
    (hcomponents ▸ hd.onward.concat hup hfits) hfile
  refine bind_eq_ok.2 ⟨isFile, hfile', ?_⟩
  cases isFile with
  | true => rwa [htext rfl]
  | false => exact hrest

theorem sources_again (h : Leaves clean dir t t') (hs : t.Sound) {directory : Option Location}
    (hdirectory : ∀ d, directory = some d → Undisturbed clean dir t (d.components place.cwd))
    {sources : Template.Sources} (hsources : sourcesIn place directory t = .ok sources) :
    sourcesIn place directory t' = .ok sources := by
  have hnames : ∀ entry ∈ bundled, fileName entry.1 ≠ ".." ∧ Tree.nameFits (fileName entry.1) = true := by
    decide +kernel
  refine mapM_eq_ok_mono hsources ?_
  rintro ⟨name, text⟩ hentry found hfound
  obtain ⟨hup, hfits⟩ := hnames _ hentry
  cases directory with
  | none => exact hfound
  | some d => exact source_again h hs (hdirectory d rfl) hup hfits hfound

theorem mem_names_of_files {sources : Template.Sources} {config : Config} {vm : ViewModel} {fs : RenderedFiles}
    (h : files sources config vm = .ok fs) : fs.map (·.1) ⊆ config.fileNames := by
  obtain ⟨_, -, h⟩ := bind_eq_ok.1 h
  obtain ⟨client, -, h⟩ := bind_eq_ok.1 h
  obtain ⟨api, -, h⟩ := bind_eq_ok.1 h
  obtain ⟨index, -, h⟩ := bind_eq_ok.1 h
  cases h
  intro name hname
  exact RenderedFiles.mem_names_ofList.1 hname

end Rendering

theorem DescriptorFile.exists_stat_of_read {l : Location} {content : Content} (h : read place t l = .ok content) :
    ∃ e, place.stat t l = .ok e := by
  rw [read] at h
  obtain ⟨there, hthere, h⟩ := bind_eq_ok.1 h
  cases there with
  | false => cases h
  | true => exact Place.exists?_eq_true_iff.1 (mapError_eq_ok hthere)

theorem DescriptorFile.read_congr {l : Location} (h : place.stat t' l = place.stat t l) :
    read place t' l = read place t l := by
  rw [read, read, Place.exists?, Place.exists?, Place.isFile?, Place.isFile?, Place.entry?, Place.entry?,
    Place.readText, Place.readText, Place.readBytes, Place.readBytes, h]

namespace Generation

variable {setting : Setting} {flags : Flags} {set : DescriptorSet} {config : Config} {path output : Location}
  {overrides : Option Overrides}

theorem render_again {vm : ViewModel} {files : RenderedFiles} (h : Leaves clean dir t t') (hs : t.Sound)
    (hdirectory : ∀ d, Rendering.directory config = some d →
      Rendering.Undisturbed clean dir t (d.components place.cwd))
    (hfiles : renderIn place config t vm = .ok files) : renderIn place config t' vm = .ok files := by
  obtain ⟨sources, hsources, hrest⟩ := bind_eq_ok.1 hfiles
  have hagain := Rendering.sources_again h hs hdirectory (mapError_eq_ok hsources)
  rw [renderIn, hagain]
  exact hrest

theorem load_again (h : Leaves clean dir t t') (hspared : Spared t clean dir (path.components place.cwd))
    (hload : loadIn place path overrides t = .ok (set, config)) :
    loadIn place path overrides t' = .ok (set, config) := by
  obtain ⟨found, hfound, hrest⟩ := bind_eq_ok.1 hload
  obtain ⟨content, hread, hdescriptors⟩ := bind_eq_ok.1 (mapError_eq_ok hfound)
  obtain ⟨e, he⟩ := DescriptorFile.exists_stat_of_read hread
  have hstat : place.stat t' path = place.stat t path := (h.stat hspared he).trans he.symm
  rw [loadIn, DescriptorFile.loadIn, DescriptorFile.read_congr hstat]
  exact hload

theorem buildStep_alike (r : Report) : EndsAlike (buildStep place set config r) t t' := by
  have hbuild := build_ends place set config
  refine EndsAlike.bind (.of_eq (fun t => (hbuild t).timed "build_view_model") rfl) ?_
  intro vm _
  exact .pure _

theorem renderStep_alike {vm : ViewModel} (h : renderIn place config t' vm = renderIn place config t vm)
    (r : Report) : EndsAlike (renderStep place config vm r) t t' := by
  have hrender : EndsAlike (render place config vm) t t' := .of_eq (fun t => render_ends place config t vm) h
  refine hrender.attempt.bind ?_
  intro rendered _
  cases rendered with
  | ok files => exact (EndsAlike.report _).bind fun _ _ => .pure _
  | error f =>
    dsimp only
    cases f.isRenderError with
    | true => exact (EndsAlike.report _).bind fun _ _ => (EndsAlike.report _).bind fun _ _ => .pure _
    | false =>
      refine (EndsAlike.report _).bind fun _ _ => ?_
      exact ⟨_, (Ends.throw f).bind_error _, (Ends.throw f).bind_error _⟩

theorem renderedFrom_alike (h : ∀ vm, ViewModel.ofFirstService setting.place.cwd set config = .ok (some vm) →
    renderIn setting.place config t' vm = renderIn setting.place config t vm) (r : Report) :
    EndsAlike (renderedFrom setting flags set config r) t t' := by
  have hbuild := (build_ends setting.place set config t).timed "build_view_model"
  cases hvm : ViewModel.ofFirstService setting.place.cwd set config with
  | error e => exact ⟨_, (buildStep_ends_error hvm).bind_error _, (buildStep_ends_error hvm).bind_error _⟩
  | ok found =>
    rw [hvm] at hbuild
    refine (buildStep_alike r).bind ?_
    rintro ⟨built, r₁⟩ hbuilt
    have hsame : built = found := by
      obtain ⟨hsame, -⟩ := Leads.unique hbuilt (hbuild.bind (Ends.pure _))
      cases hsame
      rfl
    subst hsame
    cases built with
    | none => exact .pure _
    | some vm =>
      refine (renderStep_alike (h vm hvm) r₁).bind ?_
      rintro ⟨rendered, r₂⟩ -
      cases rendered with
      | none => exact .pure _
      | some files =>
        dsimp only
        cases flags.dryRun with
        | true => exact (EndsAlike.report _).bind fun _ _ => .pure _
        | false => exact .pure _

theorem beforeExport_alike (hload : loadIn setting.place path overrides t' = loadIn setting.place path overrides t)
    (h : ∀ set config vm, loadIn setting.place path overrides t = .ok (set, config) →
      ViewModel.ofFirstService setting.place.cwd set config = .ok (some vm) →
      renderIn setting.place config t' vm = renderIn setting.place config t vm) :
    EndsAlike (Input.beforeExport setting flags output (.file path overrides)) t t' := by
  refine (EndsAlike.report _).bind fun _ _ => ?_
  have hdirectory : EndsAlike (outputDirectory setting output) t t' := by
    rw [outputDirectory]
    cases output.hasNull with
    | true => exact ⟨_, (Ends.throw _).bind_error _, (Ends.throw _).bind_error _⟩
    | false => exact .pure _
  refine hdirectory.bind fun directory _ => ?_
  have hends := load_ends setting.place path overrides
  have hloaded : EndsAlike (load setting.place path overrides) t t' := .of_eq hends hload
  refine (EndsAlike.attempt (δ := Failure) hloaded).bind ?_
  intro found hfound
  obtain ⟨hsame, -⟩ := Leads.unique hfound (hends t).attempt
  cases hsame
  cases hfound : loadIn setting.place path overrides t with
  | ok found =>
    obtain ⟨set, config⟩ := found
    refine (EndsAlike.report _).bind fun _ _ => renderedFrom_alike ?_ _
    intro vm hvm
    exact h set config vm hfound hvm
  | error f =>
    dsimp only
    cases f.isLoadError with
    | true => exact (EndsAlike.report _).bind fun _ _ => (EndsAlike.report _).bind fun _ _ => .pure _
    | false =>
      refine (EndsAlike.report _).bind fun _ _ => ?_
      exact ⟨_, (Ends.throw f).bind_error _, (Ends.throw f).bind_error _⟩

theorem beforeExport_ready {vm : ViewModel} {files : RenderedFiles} (hnull : output.hasNull = false)
    (hdry : flags.dryRun = false) (hload : loadIn setting.place path overrides t = .ok (set, config))
    (hvm : ViewModel.ofFirstService setting.place.cwd set config = .ok (some vm))
    (hfiles : renderIn setting.place config t vm = .ok files) :
    ∃ r, Ends (Input.beforeExport setting flags output (.file path overrides)) t (.ok (r, some (vm, files))) := by
  have hdirectory : Ends (outputDirectory setting output) t (.ok (output.absolute setting.place.cwd)) := by
    rw [outputDirectory, hnull]
    exact .pure _
  have hloaded := (load_ends setting.place path overrides t).attempt (δ := Failure)
  rw [hload] at hloaded
  have hstart := clean_start flags.dryRun (output.absolute setting.place.cwd).text
  obtain ⟨r₁, hr₁, hbuild⟩ :=
    buildStep_ends (t := t) (hstart.addStep "Load Descriptors" true ("from " ++ path.name)) hvm
  obtain ⟨r₂, -, hrender⟩ := renderStep_ends hr₁ hfiles
  refine ⟨addTotals files r₂, (Ends.report _).bind (hdirectory.bind (hloaded.bind ?_))⟩
  refine (Ends.report _).bind (hbuild.bind (hrender.bind ?_))
  rw [hdry]
  exact .pure _

def exportOptions (setting : Setting) (flags : Flags) (output : Location) (service : String) : Export.Options :=
  { directory := output, service, clean := flags.clean, manifest := flags.manifest,
    timestamp := setting.timestamp }

def Report.addExport (r : Report) (result : Export.Result) : Report :=
  { r with
    exportErrors := result.errors.map Export.Failed.message
    manifest := some result.manifest }.addStep "Export to Filesystem" result.success
      (toString result.manifest.totalFiles ++ " files, " ++ Number.grouped result.manifest.totalBytes ++ " bytes")

theorem leads_exported {vm : ViewModel} {files : RenderedFiles} {r : Report} {e : Except Files.Error Export.Result}
    (h : Leads (Export.run setting.place (exportOptions setting flags output vm.serviceName) files) t e t') :
    Leads (exported setting flags output (r, some (vm, files))) t
      ((e.map fun result => (r.addExport result).finish).mapError .file) t' := by
  have hexport := (h.liftError Failure.file).timed "export"
  cases e with
  | ok result => exact Leads.bind (hexport.bind (Ends.pure _)) (Ends.pure _)
  | error e => exact Leads.bind_error (hexport.bind_error _) _

end Generation

end RpcBindings
