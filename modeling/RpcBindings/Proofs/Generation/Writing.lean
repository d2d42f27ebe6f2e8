import RpcBindings.Proofs.Generation.Drivers

namespace RpcBindings.Generation

open RpcBindings.Files
open RpcBindings.Files.Action (Ends)
open RpcBindings.Path

/-- What a run generates from. -/
inductive Input where
  | file (path : Location) (overrides : Option Overrides)
  | descriptors (set : DescriptorSet) (config : Config)

/-- A report, and what is left to export, if anything is. -/
abbrev Progress := Report × Option (ViewModel × RenderedFiles)

def renderedFrom (setting : Setting) (flags : Flags) (set : DescriptorSet) (config : Config)
    (r : Report) : Action Failure Progress := do
  match ← buildStep setting.place set config r with
  | (none, r) => return (r, none)
  | (some vm, r) =>
    match ← renderStep setting.place config vm r with
    | (none, r) => return (r, none)
    | (some files, r) =>
      let r := addTotals files r
      if flags.dryRun then
        Action.report (.filesKept files.length)
        return (r, none)
      else return (r, some (vm, files))

def exported (setting : Setting) (flags : Flags) (output : Location) : Progress → Action Failure Report
  | (r, none) => return r.finish
  | (r, some (vm, files)) => do
    let r ← exportStep setting flags output vm.serviceName files r
    return r.finish

namespace Input

def generate (setting : Setting) (flags : Flags) (output : Location) : Input → Action Failure Report
  | file path overrides => ofFile setting flags path output overrides
  | descriptors set config => ofDescriptors setting flags set config output

def beforeExport (setting : Setting) (flags : Flags) (output : Location) :
    Input → Action Failure Progress
  | file path overrides => do
    Action.report flags.readyEvent
    let directory ← outputDirectory setting output
    let r : Report := { dryRun := flags.dryRun, directory := directory.text }
    let detail := "from " ++ path.name
    match ← Action.attempt (load setting.place path overrides) with
    | .ok (set, config) =>
      Action.report (.stepTimed "load_descriptors")
      renderedFrom setting flags set config (r.addStep "Load Descriptors" true detail)
    | .error f =>
      if !f.isLoadError then
        Action.report (.stepTimed "load_descriptors")
        throw f
      Action.report (.loadFailed f.message)
      Action.report (.stepTimed "load_descriptors")
      return ({ r with loadErrors := [f.message] }.addStep "Load Descriptors" false detail, none)
  | descriptors set config => do
    Action.report flags.readyEvent
    let directory ← outputDirectory setting output
    renderedFrom setting flags set config { dryRun := flags.dryRun, directory := directory.text }

def loadedIn (place : Place) (t : Tree) : Input → Except Failure (DescriptorSet × Config)
  | file path overrides => loadIn place path overrides t
  | descriptors set config => .ok (set, config)

end Input

variable {setting : Setting} {flags : Flags} {output : Location} {t : Tree}

theorem runFrom_eq_bind (set : DescriptorSet) (config : Config) (r : Report) :
    runFrom setting flags set config output r =
      renderedFrom setting flags set config r >>= exported setting flags output := by
  rw [runFrom, renderedFrom, bind_assoc]
  refine bind_congr ?_
  intro built
  obtain ⟨vm, r⟩ := built
  cases vm with
  | none => rfl
  | some vm =>
    dsimp only
    rw [bind_assoc]
    refine bind_congr ?_
    intro rendered
    obtain ⟨files, r⟩ := rendered
    cases files with
    | none => rfl
    | some files =>
      cases flags.dryRun with
      | true => rfl
      | false => rfl

theorem Input.generate_eq_bind (i : Input) :
    i.generate setting flags output =
      i.beforeExport setting flags output >>= exported setting flags output := by
  cases i with
  | descriptors set config =>
    rw [generate, beforeExport, ofDescriptors, bind_assoc]
    refine bind_congr ?_
    intro _
    rw [bind_assoc]
    refine bind_congr ?_
    intro directory
    exact runFrom_eq_bind set config _
  | file path overrides =>
    rw [generate, beforeExport, ofFile, bind_assoc]
    refine bind_congr ?_
    intro _
    rw [bind_assoc]
    refine bind_congr ?_
    intro directory
    dsimp only
    rw [bind_assoc]
    refine bind_congr ?_
    intro loaded
    cases loaded with
    | ok found =>
      obtain ⟨set, config⟩ := found
      dsimp only
      rw [bind_assoc]
      refine bind_congr ?_
      intro _
      exact runFrom_eq_bind set config _
    | error f =>
      dsimp only
      cases f.isLoadError with
      | true => rfl
      | false => rfl

/-- Loading and rendering have gone well. -/
structure Report.Rendered (r : Report) : Prop where
  load : r.loadErrors = []
  generation : r.generationErrors = []

theorem Report.Clean.addTotals {r : Report} (h : r.Clean) (files : RenderedFiles) :
    (addTotals files r).Rendered := ⟨h.load, h.generation⟩

/-- How a run from descriptors on may go before the export. -/
inductive Came (place : Place) (flags : Flags) (set : DescriptorSet) (config : Config) (t : Tree) :
    Except Failure Progress → Prop where
  | raised (f : Failure) : Came place flags set config t (.error f)
  | serviceless {r : Report} (hvm : ViewModel.ofFirstService place.cwd set config = .ok none)
      (hr : r.Clean) : Came place flags set config t (.ok (r, none))
  | unrendered {vm : ViewModel} {f : Failure} {r : Report}
      (hvm : ViewModel.ofFirstService place.cwd set config = .ok (some vm))
      (hfiles : renderIn place config t vm = .error f) (hload : r.loadErrors = [])
      (herrors : r.generationErrors ≠ []) (hr : r.Unrendered) :
      Came place flags set config t (.ok (r, none))
  | kept {vm : ViewModel} {files : RenderedFiles} {r : Report} (hdry : flags.dryRun = true)
      (hvm : ViewModel.ofFirstService place.cwd set config = .ok (some vm))
      (hfiles : renderIn place config t vm = .ok files) (hr : r.Rendered) :
      Came place flags set config t (.ok (r, none))
  | ready {vm : ViewModel} {files : RenderedFiles} {r : Report} (hdry : flags.dryRun = false)
      (hvm : ViewModel.ofFirstService place.cwd set config = .ok (some vm))
      (hfiles : renderIn place config t vm = .ok files) (hr : r.Rendered) :
      Came place flags set config t (.ok (r, some (vm, files)))

theorem renderedFrom_came {r : Report} (hr : r.Clean) (set : DescriptorSet) (config : Config) (t : Tree) :
    ∃ p, Ends (renderedFrom setting flags set config r) t p ∧
      Came setting.place flags set config t p := by
  rw [renderedFrom]
  cases hvm : ViewModel.ofFirstService setting.place.cwd set config with
  | error e => exact ⟨_, (buildStep_ends_error hvm).bind_error _, .raised _⟩
  | ok found =>
    obtain ⟨r₁, hr₁, hbuild⟩ := buildStep_ends (t := t) hr hvm
    cases found with
    | none => exact ⟨_, hbuild.bind (.pure _), .serviceless hvm hr₁⟩
    | some vm =>
      cases hfiles : renderIn setting.place config t vm with
      | ok files =>
        obtain ⟨r₂, hr₂, hrender⟩ := renderStep_ends hr₁ hfiles
        cases hdry : flags.dryRun with
        | true =>
          refine ⟨_, hbuild.bind (hrender.bind ?_), .kept hdry hvm hfiles (hr₂.addTotals files)⟩
          exact (Ends.report _).bind (.pure _)
        | false =>
          exact ⟨_, hbuild.bind (hrender.bind (.pure _)), .ready hdry hvm hfiles (hr₂.addTotals files)⟩
      | error f =>
        cases hf : f.isRenderError with
        | true =>
          obtain ⟨r₂, hload, herrors, hnone, hrender⟩ := renderStep_ends_error hr₁ hfiles hf
          exact ⟨_, hbuild.bind (hrender.bind (.pure _)), .unrendered hvm hfiles hload herrors hnone⟩
        | false =>
          have hrender := renderStep_ends_broken (r := r₁) hfiles hf
          exact ⟨_, hbuild.bind (hrender.bind_error _), .raised f⟩

/-- How a run may go before the export. -/
inductive Input.Came (place : Place) (flags : Flags) (i : Input) (t : Tree) :
    Except Failure Progress → Prop where
  | raised (f : Failure) : Came place flags i t (.error f)
  | unloaded {f : Failure} {r : Report} (hload : i.loadedIn place t = .error f) (hr : r.loadErrors ≠ [])
      (hgeneration : r.generationErrors = []) : Came place flags i t (.ok (r, none))
  | loaded {set : DescriptorSet} {config : Config} {p : Except Failure Progress}
      (hload : i.loadedIn place t = .ok (set, config))
      (hp : Generation.Came place flags set config t p) : Came place flags i t p

theorem clean_start (dryRun : Bool) (directory : String) : Report.Clean { dryRun, directory } :=
  ⟨⟨rfl, rfl, rfl, rfl⟩, rfl, rfl, rfl⟩

theorem outputDirectory_ends (setting : Setting) (output : Location) (t : Tree) :
    (∃ f, Ends (outputDirectory setting output) t (.error f)) ∨
      ∃ d, Ends (outputDirectory setting output) t (.ok d) := by
  rw [outputDirectory]
  cases output.hasNull with
  | true => exact .inl ⟨_, (Ends.throw _).bind_error _⟩
  | false => exact .inr ⟨_, .pure _⟩

theorem Input.beforeExport_came (i : Input) (setting : Setting) (flags : Flags) (output : Location)
    (t : Tree) :
    ∃ p, Ends (i.beforeExport setting flags output) t p ∧ i.Came setting.place flags t p := by
  rcases outputDirectory_ends setting output t with ⟨f, hdir⟩ | ⟨d, hdir⟩
  · cases i with
    | file path overrides => exact ⟨_, (Ends.report _).bind (hdir.bind_error _), .raised f⟩
    | descriptors set config => exact ⟨_, (Ends.report _).bind (hdir.bind_error _), .raised f⟩
  · have hstart := clean_start flags.dryRun d.text
    cases i with
    | descriptors set config =>
      obtain ⟨p, hp, hcame⟩ := renderedFrom_came hstart set config t
      exact ⟨p, (Ends.report _).bind (hdir.bind hp), .loaded rfl hcame⟩
    | file path overrides =>
      have hload := (load_ends setting.place path overrides t).attempt (δ := Failure)
      cases hfound : loadIn setting.place path overrides t with
      | ok found =>
        obtain ⟨set, config⟩ := found
        rw [hfound] at hload
        obtain ⟨p, hp, hcame⟩ := renderedFrom_came
          (hstart.addStep "Load Descriptors" true ("from " ++ path.name)) set config t
        refine ⟨p, (Ends.report _).bind (hdir.bind (hload.bind ?_)), .loaded hfound hcame⟩
        exact (Ends.report _).bind hp
      | error f =>
        rw [hfound] at hload
        cases hf : f.isLoadError with
        | true =>
          let failed : Report := { dryRun := flags.dryRun, directory := d.text, loadErrors := [f.message] }
          let r := failed.addStep "Load Descriptors" false ("from " ++ path.name)
          have hload' : r.loadErrors ≠ [] := List.cons_ne_nil _ _
          refine ⟨.ok (r, none), (Ends.report _).bind (hdir.bind (hload.bind ?_)),
            .unloaded hfound hload' rfl⟩
          dsimp only
          rw [hf]
          exact (Ends.report _).bind ((Ends.report _).bind (.pure _))
        | false =>
          refine ⟨_, (Ends.report _).bind (hdir.bind (hload.bind ?_)), .raised f⟩
          dsimp only
          rw [hf]
          exact (Ends.report _).bind ((Ends.throw f).bind_error _)

/-- There is a service, and not all of its files can be rendered. -/
def FailsToRender (place : Place) (set : DescriptorSet) (config : Config) (t : Tree) : Prop :=
  ∃ vm f, ViewModel.ofFirstService place.cwd set config = .ok (some vm) ∧
    renderIn place config t vm = .error f

def Input.FailsToRender (i : Input) (place : Place) (t : Tree) : Prop :=
  ∃ set config, i.loadedIn place t = .ok (set, config) ∧ Generation.FailsToRender place set config t

/-- Runs that end before anything is exported, by what they were given and how they end. -/
inductive Input.EndsEarly (setting : Setting) (flags : Flags) (output : Location) (i : Input) (t : Tree)
    (log : List Log.Event) : Except Failure Report → Prop where
  | dry {e : Except Failure Report} (h : flags.dryRun = true) : EndsEarly setting flags output i t log e
  | unloaded {r : Report} (h : r.loadErrors ≠ []) : EndsEarly setting flags output i t log (.ok r)
  | serviceless {e : Except Failure Report} {set : DescriptorSet} {config : Config}
      (hload : i.loadedIn setting.place t = .ok (set, config)) (h : set.firstService? = none) :
      EndsEarly setting flags output i t log e
  | unrendered {r : Report} (h : r.generationErrors ≠ []) : EndsEarly setting flags output i t log (.ok r)
  | raised {e : Except Failure Report} {f : Failure} {w : World}
      (h : i.beforeExport setting flags output ⟨t, log⟩ = .error f w) :
      EndsEarly setting flags output i t log e

theorem errors_of_exported {p : Progress} {r : Report} {w w' : World}
    (h : exported setting flags output p w = .ok r w') :
    r.loadErrors = p.1.loadErrors ∧ r.generationErrors = p.1.generationErrors := by
  obtain ⟨before, left⟩ := p
  cases left with
  | none =>
    cases h
    exact ⟨rfl, rfl⟩
  | some found =>
    obtain ⟨vm, files⟩ := found
    obtain ⟨after, w₁, hstep, hend⟩ := stateful_bind_eq_ok.1 h
    obtain ⟨result, w₂, -, hafter⟩ := stateful_bind_eq_ok.1 hstep
    cases hafter
    cases hend
    exact ⟨rfl, rfl⟩

namespace Came

variable {place : Place} {set : DescriptorSet} {config : Config}

theorem not_failsToRender {vm : ViewModel} {files : RenderedFiles}
    (hvm : ViewModel.ofFirstService place.cwd set config = .ok (some vm))
    (hfiles : renderIn place config t vm = .ok files) : ¬ FailsToRender place set config t := by
  rintro ⟨vm', f, hvm', hfails⟩
  rw [hvm] at hvm'
  cases hvm'
  rw [hfiles] at hfails
  cases hfails

theorem errors {p : Progress} (h : Came place flags set config t (.ok p)) :
    p.1.loadErrors = [] ∧ (p.1.generationErrors ≠ [] ↔ FailsToRender place set config t) ∧
      (p.1.generationErrors ≠ [] → p.2 = none ∧ p.1.Unrendered) := by
  have hwell : ∀ {p : Progress}, p.1.Rendered → ¬ FailsToRender place set config t →
      p.1.loadErrors = [] ∧ (p.1.generationErrors ≠ [] ↔ FailsToRender place set config t) ∧
        (p.1.generationErrors ≠ [] → p.2 = none ∧ p.1.Unrendered) := by
    intro p hr hnot
    have hnone : ¬ p.1.generationErrors ≠ [] := not_not_intro hr.generation
    exact ⟨hr.load, iff_of_false hnone hnot, fun h => absurd h hnone⟩
  cases h with
  | serviceless hvm hr =>
    apply hwell ⟨hr.load, hr.generation⟩
    rintro ⟨vm, f, hvm', -⟩
    rw [hvm] at hvm'
    cases hvm'
  | unrendered hvm hfiles hload herrors hr =>
    exact ⟨hload, iff_of_true herrors ⟨_, _, hvm, hfiles⟩, fun _ => ⟨rfl, hr⟩⟩
  | kept _ hvm hfiles hr => exact hwell hr (not_failsToRender hvm hfiles)
  | ready _ hvm hfiles hr => exact hwell hr (not_failsToRender hvm hfiles)

theorem no_service {p : Progress} (h : Came place flags set config t (.ok p))
    (hnone : set.firstService? = none) : p.2 = none := by
  cases h with
  | serviceless => rfl
  | unrendered => rfl
  | kept => rfl
  | ready hdry hvm =>
    rw [ViewModel.ofFirstService, hnone] at hvm
    cases hvm

end Came

namespace Input

variable {i : Input} {log : List Log.Event} {e : Except Failure Report} {w : World}

theorem Came.ready {place : Place} {r : Report} {vm : ViewModel} {files : RenderedFiles}
    (h : i.Came place flags t (.ok (r, some (vm, files)))) : flags.dryRun = false ∧ r.Rendered := by
  cases h with
  | loaded _ hp =>
    cases hp with
    | ready hdry _ _ hr => exact ⟨hdry, hr⟩

theorem Came.no_service {place : Place} {p : Progress} (h : i.Came place flags t (.ok p))
    {set : DescriptorSet} {config : Config} (hload : i.loadedIn place t = .ok (set, config))
    (hnone : set.firstService? = none) : p.2 = none := by
  cases h with
  | unloaded => rfl
  | loaded hload' hp =>
    rw [hload] at hload'
    cases hload'
    exact hp.no_service hnone

/-- The report tells of an error of loading or of rendering exactly if there was one. -/
theorem Came.errors {place : Place} {p : Progress} (h : i.Came place flags t (.ok p)) :
    (p.1.loadErrors ≠ [] ↔ ∃ f, i.loadedIn place t = .error f) ∧
      (p.1.generationErrors ≠ [] ↔ i.FailsToRender place t) ∧
      (p.1.generationErrors ≠ [] → p.2 = none ∧ p.1.Unrendered) := by
  cases h with
  | @unloaded f r hload hr hgeneration =>
    have hnot : ¬ i.FailsToRender place t := by
      rintro ⟨set, config, hload', -⟩
      rw [hload] at hload'
      cases hload'
    have hnone : ¬ r.generationErrors ≠ [] := not_not_intro hgeneration
    exact ⟨iff_of_true hr ⟨f, hload⟩, iff_of_false hnone hnot, fun h => absurd h hnone⟩
  | @loaded set config _ hload hp =>
    obtain ⟨hloadErrors, hfails, hunrendered⟩ := hp.errors
    refine ⟨iff_of_false (not_not_intro hloadErrors) ?_, hfails.trans ?_, hunrendered⟩
    · rintro ⟨f, hload'⟩
      rw [hload] at hload'
      cases hload'
    · constructor
      · intro h
        exact ⟨set, config, hload, h⟩
      · rintro ⟨set', config', hload', h⟩
        rw [hload] at hload'
        cases hload'
        exact h

/-- A run keeps the tree if it ends before the export, or with nothing to export. -/
theorem tree_eq_of_nothingLeft {p : Except Failure Progress}
    (hp : Ends (i.beforeExport setting flags output) t p) (hleft : ∀ q, p = .ok q → q.2 = none)
    (hrun : i.generate setting flags output ⟨t, log⟩ = Action.finish e w) : w.tree = t := by
  obtain ⟨log', hbefore⟩ := hp log
  rw [generate_eq_bind] at hrun
  cases p with
  | error f =>
    rw [Action.bind_of_error hbefore] at hrun
    cases e with
    | ok r => cases hrun
    | error f' =>
      cases hrun
      rfl
  | ok q =>
    obtain ⟨r, left⟩ := q
    have hnone : left = none := hleft _ rfl
    subst hnone
    rw [Action.bind_of_ok hbefore] at hrun
    cases e with
    | ok r' =>
      cases hrun
      rfl
    | error f => cases hrun

theorem report_errors {r : Report} (hrun : i.generate setting flags output ⟨t, log⟩ = .ok r w) :
    (r.loadErrors ≠ [] ↔ ∃ f, i.loadedIn setting.place t = .error f) ∧
      (r.generationErrors ≠ [] ↔ i.FailsToRender setting.place t) ∧
      (r.generationErrors ≠ [] → r.Unrendered) := by
  obtain ⟨p, hp, hcame⟩ := i.beforeExport_came setting flags output t
  obtain ⟨log', hbefore⟩ := hp log
  rw [generate_eq_bind] at hrun
  cases p with
  | error f =>
    rw [Action.bind_of_error hbefore] at hrun
    cases hrun
  | ok q =>
    rw [Action.bind_of_ok hbefore] at hrun
    obtain ⟨hload, hgeneration⟩ := errors_of_exported hrun
    obtain ⟨hloaded, hfails, hunrendered⟩ := hcame.errors
    rw [hload, hgeneration]
    refine ⟨hloaded, hfails, ?_⟩
    intro herrors
    obtain ⟨before, left⟩ := q
    obtain ⟨hnone, hr⟩ := hunrendered herrors
    have hnone' : left = none := hnone
    subst hnone'
    cases hrun
    exact ⟨hr.rendered, hr.totalFiles, hr.totalLines, hr.totalBytes⟩

/-- A run that ends early leaves the tree as it is. Its report tells of errors exactly where something could
not be loaded or rendered, and after an error of rendering it counts nothing. -/
theorem writes_nothing (hrun : i.generate setting flags output ⟨t, log⟩ = Action.finish e w) :
    (i.EndsEarly setting flags output t log e → w.tree = t) ∧
      ∀ r, e = .ok r →
        (r.loadErrors ≠ [] ↔ ∃ f, i.loadedIn setting.place t = .error f) ∧
        (r.generationErrors ≠ [] ↔ i.FailsToRender setting.place t) ∧
        (r.generationErrors ≠ [] → r.Unrendered) := by
  constructor
  · intro hearly
    obtain ⟨p, hp, hcame⟩ := i.beforeExport_came setting flags output t
    apply tree_eq_of_nothingLeft hp _ hrun
    intro q hq
    subst hq
    obtain ⟨log', hbefore⟩ := hp log
    obtain ⟨before, left⟩ := q
    cases left with
    | none => rfl
    | some found =>
      exfalso
      obtain ⟨vm, files⟩ := found
      obtain ⟨hdry, hr⟩ := hcame.ready
      have hend := hrun
      rw [generate_eq_bind, Action.bind_of_ok hbefore] at hend
      cases hearly with
      | dry h =>
        rw [hdry] at h
        cases h
      | unloaded h =>
        rw [(errors_of_exported hend).1] at h
        exact h hr.load
      | serviceless hload h => cases hcame.no_service hload h
      | unrendered h =>
        rw [(errors_of_exported hend).2] at h
        exact h hr.generation
      | raised h =>
        rw [hbefore] at h
        cases h
  · intro r he
    subst he
    exact report_errors hrun

/-- A service, and a directory of templates whose first one names what there is not. -/
def broken : Input :=
  .descriptors
    { files := [⟨"a.proto", "p", [⟨"p.M", "M", "a.proto", []⟩],
        [⟨"S", "p", "a.proto", [⟨"Get", ⟨"p.M", "M", "a.proto"⟩, ⟨"p.M", "M", "a.proto"⟩, .unary⟩]⟩]⟩] }
    { templateDir := some "/t" }

def brokenTree : Tree :=
  ⟨[(["t"], .directory), (["t", "client.ts.jinja"], .file "\x7b\x7b missing \x7d\x7d".toUTF8),
    (["out"], .directory), (["out", "old.ts"], .file ⟨#[]⟩)]⟩

def brokenRun : EStateM.Result Failure World Report :=
  broken.generate {} { clean := true } ⟨"/", ["out"]⟩ ⟨brokenTree, []⟩

theorem writes_nothing_broken :
    ∃ r w, brokenRun = .ok r w ∧ w.tree = brokenTree ∧ r.generationErrors ≠ [] ∧ r.Unrendered := by
  have hrender : (match brokenRun with
      | .ok r _ => r.generationErrors
      | .error _ _ => []) = ["Fatal render error: UndefinedError: 'missing' is undefined"] := by
    decide +kernel
  cases hrun : brokenRun with
  | error f w =>
    rw [hrun] at hrender
    cases hrender
  | ok r w =>
    rw [hrun] at hrender
    have herrors : r.generationErrors ≠ [] := ne_of_eq_of_ne hrender (List.cons_ne_nil _ _)
    obtain ⟨hearly, hreport⟩ := writes_nothing (e := .ok r) hrun
    exact ⟨r, w, rfl, hearly (.unrendered herrors), herrors, (hreport r rfl).2.2 herrors⟩

end Input

end RpcBindings.Generation
