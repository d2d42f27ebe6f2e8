import RpcBindings.Cli.Run
import RpcBindings.Proofs.Generation.Drivers

namespace RpcBindings

open RpcBindings.Files
open RpcBindings.Files.Action
open RpcBindings.Path

namespace Files.Action

theorem timed_eq_ok {label : String} {a : Action ε α} {v : α} {w w' : World}
    (h : Export.timed label a w = .ok v w') : ∃ w₁, a w = .ok v w₁ := by
  obtain ⟨r, w₁, hattempt, h⟩ := stateful_bind_eq_ok.1 h
  cases r with
  | ok x =>
    cases h
    exact ⟨w₁, attempt_eq_ok hattempt⟩
  | error e => cases h

theorem liftError_eq_ok {f : ε → δ} {a : Action ε α} {v : α} {w w' : World}
    (h : liftError f a w = .ok v w') : a w = .ok v w' := by
  rw [liftError] at h
  cases ha : a w with
  | ok x w₁ =>
    rw [ha] at h
    cases h
    rfl
  | error e w₁ =>
    rw [ha] at h
    cases h

end Files.Action

namespace Text.Utf8

theorem halves?_ne_none {s : String} {c : Char} (hc : c ∈ s.toList) (h : (halfCode? c).isSome = true) :
    halves? s ≠ none := by
  rw [halves?, List.span_eq_takeWhile_dropWhile]
  dsimp only
  cases hrest : s.toList.dropWhile fun c => (halfCode? c).isNone with
  | nil =>
    have hnone := List.dropWhile_eq_nil_iff.1 hrest c hc
    rw [Option.isNone_iff_eq_none.1 hnone] at h
    cases h
  | cons x rest =>
    have hx := List.head?_dropWhile_not (fun c => (halfCode? c).isNone) s.toList
    rw [hrest] at hx
    obtain ⟨code, hcode⟩ : ∃ code, halfCode? x = some code := by
      cases hx' : halfCode? x with
      | none => simp [hx'] at hx
      | some code => exact ⟨code, rfl⟩
    simp [hcode]

end Text.Utf8

namespace Export

variable {o : Options} {place : Place} {files : List (String × String)} {w w' : World}

theorem Options.writeOne_eq_ok {name text : String} {r : FileRecord}
    (h : o.writeOne place name text w = .ok r w') : r = .ofText name (o.directory.join name).text text := by
  obtain ⟨size, w₁, -, h⟩ := stateful_bind_eq_ok.1 h
  cases h
  rfl

theorem Options.writeAll_eq_ok {records : List FileRecord}
    (h : o.writeAll place files w = .ok (records, []) w') :
    records = files.map fun f => .ofText f.1 (o.directory.join f.1).text f.2 := by
  induction files generalizing w records with
  | nil =>
    cases h
    rfl
  | cons file rest ih =>
    obtain ⟨r, w₁, hone, h⟩ := stateful_bind_eq_ok.1 h
    cases r with
    | error e =>
      dsimp only at h
      cases he : e.isRefusal with
      | false =>
        rw [he] at h
        cases h
      | true =>
        rw [he] at h
        obtain ⟨_, w₂, -, h⟩ := stateful_bind_eq_ok.1 h
        obtain ⟨_, w₃, -, h⟩ := stateful_bind_eq_ok.1 h
        cases h
    | ok record =>
      obtain ⟨found, w₂, hall, h⟩ := stateful_bind_eq_ok.1 h
      obtain ⟨others, failed⟩ := found
      cases h
      rw [ih hall, List.map_cons, writeOne_eq_ok (attempt_eq_ok hone)]

theorem Options.writeTo_success {r : Result} (h : o.writeTo place files w = .ok r w')
    (hsuccess : r.success = true) :
    r.manifest.files = files.map fun f => .ofText f.1 (o.directory.join f.1).text f.2 := by
  obtain ⟨prepared, w₁, -, h⟩ := stateful_bind_eq_ok.1 h
  cases prepared with
  | error e =>
    dsimp only at h
    cases he : e.isRefusal with
    | false =>
      rw [he] at h
      cases h
    | true =>
      rw [he] at h
      cases h
      cases hsuccess
  | ok u =>
    obtain ⟨found, w₂, hall, h⟩ := stateful_bind_eq_ok.1 h
    obtain ⟨records, failed⟩ := found
    obtain ⟨_, w₃, -, h⟩ := stateful_bind_eq_ok.1 h
    have hresult : ∃ warnings, r = { manifest := o.manifestOf records, errors := failed, warnings } := by
      split at h
      · obtain ⟨warnings, w₄, -, h⟩ := stateful_bind_eq_ok.1 h
        cases h
        exact ⟨warnings, rfl⟩
      · cases h
        exact ⟨[], rfl⟩
    obtain ⟨warnings, rfl⟩ := hresult
    have hfailed : failed = [] := List.isEmpty_iff.1 hsuccess
    subst hfailed
    exact writeAll_eq_ok hall

theorem run_success {r : Result} (h : run place o files w = .ok r w') (hsuccess : r.success = true) :
    ∃ path : String → String, r.manifest.files = files.map fun f => .ofText f.1 (path f.1) f.2 := by
  rw [run] at h
  split at h
  · cases h
  · obtain ⟨_, w₁, -, h⟩ := stateful_bind_eq_ok.1 h
    obtain ⟨result, w₂, hwrite, h⟩ := stateful_bind_eq_ok.1 h
    cases h
    obtain ⟨w₃, hwrite⟩ := timed_eq_ok hwrite
    exact ⟨fun name => ((o.directory.absolute place.cwd).join name).text,
      Options.writeTo_success hwrite hsuccess⟩

end Export

namespace Generation

def stepNames : List String :=
  ["Load Descriptors", "Build View Model", "Render Templates", "Export to Filesystem"]

namespace Report

variable {r r' : Report} {k : Nat}

def Faultless (r : Report) : Prop := r.loadErrors = [] ∧ r.generationErrors = [] ∧ r.exportErrors = []

/-- The totals are those of the manifest, if there is one. -/
def Counted (r : Report) : Prop :=
  ∀ m, r.manifest = some m → r.totalFiles = m.totalFiles ∧ r.totalBytes = m.totalBytes ∧
    r.totalLines = m.totalLines

/-- The first `k` steps have gone well, and nothing else has been done. -/
structure Through (k : Nat) (r : Report) : Prop where
  faultless : r.Faultless
  names : r.steps.map (·.name) = stepNames.take k
  well : ∀ s ∈ r.steps, s.success = true
  manifest : r.manifest = none

/-- The last step is the one with the number `k`, and errors are there exactly if it has failed. -/
structure EndedAt (k : Nat) (r : Report) : Prop where
  last : ∃ earlier s, r.steps = earlier ++ [s] ∧ earlier.map (·.name) = stepNames.take k ∧
    stepNames[k]? = some s.name ∧ (∀ e ∈ earlier, e.success = true) ∧ (s.success = true ↔ r.Faultless)
  load : r.loadErrors ≠ [] → k = 0
  generation : r.generationErrors ≠ [] → k = 2
  writing : r.exportErrors ≠ [] → k = 3

theorem Through.endedAt (h : r.Through k) (hsteps : r'.steps = r.steps) {name : String}
    (hname : stepNames[k]? = some name) {ok : Bool} (hok : ok = true ↔ r'.Faultless)
    (hload : r'.loadErrors ≠ [] → k = 0) (hgeneration : r'.generationErrors ≠ [] → k = 2)
    (hwriting : r'.exportErrors ≠ [] → k = 3) (detail : String) : (r'.addStep name ok detail).EndedAt k := by
  refine ⟨⟨r.steps, ⟨name, ok, detail, ⟨0⟩⟩, ?_, h.names, hname, h.well, hok⟩, hload, hgeneration, hwriting⟩
  rw [addStep, hsteps]

theorem Through.addStep (h : r.Through k) {name : String} (hname : stepNames[k]? = some name)
    (detail : String) :
    (r.addStep name true detail).Through (k + 1) ∧ (r.addStep name true detail).EndedAt k := by
  constructor
  · refine ⟨h.faultless, ?_, ?_, h.manifest⟩
    · rw [Report.addStep, List.map_append, h.names, List.take_add_one, hname]
      rfl
    · intro s hs
      rcases List.mem_append.1 hs with hs | hs
      · exact h.well s hs
      · rw [List.mem_singleton.1 hs]
  · apply h.endedAt rfl hname (iff_of_true rfl h.faultless)
    · exact fun hne => absurd h.faultless.1 hne
    · exact fun hne => absurd h.faultless.2.1 hne
    · exact fun hne => absurd h.faultless.2.2 hne

/-- What holds of a report, whatever became of its run. -/
structure Coherent (r : Report) : Prop where
  nonempty : r.steps ≠ []
  ordered : r.steps.map (·.name) <+: stepNames
  earlier : ∀ s ∈ r.steps.dropLast, s.success = true
  load : r.loadErrors ≠ [] → r.generationErrors = [] ∧ r.exportErrors = [] ∧
    r.steps.getLast?.map (·.name) = some "Load Descriptors"
  generation : r.generationErrors ≠ [] → r.loadErrors = [] ∧ r.exportErrors = [] ∧
    r.steps.getLast?.map (·.name) = some "Render Templates"
  writing : r.exportErrors ≠ [] → r.loadErrors = [] ∧ r.generationErrors = [] ∧
    r.steps.getLast?.map (·.name) = some "Export to Filesystem"
  faultless : r.success = true ↔ r.Faultless
  well : r.success = true ↔ ∀ s ∈ r.steps, s.success = true
  success_code : Cli.exitCode r = 0 ↔ r.success = true
  load_code : Cli.exitCode r = 4 ↔ r.loadErrors ≠ []
  generation_code : Cli.exitCode r = 2 ↔ r.generationErrors ≠ []
  writing_code : Cli.exitCode r = 3 ↔ r.exportErrors ≠ []
  counted : r.success = true → r.Counted

theorem success_finish : r.finish.success = true ↔ r.Faultless := by
  change (r.loadErrors.isEmpty && r.generationErrors.isEmpty && r.exportErrors.isEmpty) = true ↔ _
  rw [Bool.and_eq_true, Bool.and_eq_true, List.isEmpty_iff, List.isEmpty_iff, List.isEmpty_iff]
  exact and_assoc

theorem exitCode_finish (r : Report) :
    (Cli.exitCode r.finish = 0 ∧ r.Faultless) ∨ (Cli.exitCode r.finish = 4 ∧ r.loadErrors ≠ []) ∨
      (Cli.exitCode r.finish = 2 ∧ r.loadErrors = [] ∧ r.generationErrors ≠ []) ∨
      (Cli.exitCode r.finish = 3 ∧ r.loadErrors = [] ∧ r.generationErrors = [] ∧ r.exportErrors ≠ []) := by
  rw [Cli.exitCode]
  by_cases hwell : r.finish.success = true
  · rw [if_pos hwell]
    exact .inl ⟨rfl, success_finish.1 hwell⟩
  · rw [if_neg hwell]
    by_cases hload : r.loadErrors = []
    · rw [if_neg (by simpa [finish] using hload)]
      by_cases hgeneration : r.generationErrors = []
      · rw [if_neg (by simpa [finish] using hgeneration)]
        refine .inr (.inr (.inr ⟨rfl, hload, hgeneration, ?_⟩))
        intro hwriting
        exact hwell (success_finish.2 ⟨hload, hgeneration, hwriting⟩)
      · rw [if_pos (by simpa [finish] using hgeneration)]
        exact .inr (.inr (.inl ⟨rfl, hload, hgeneration⟩))
    · rw [if_pos (by simpa [finish] using hload)]
      exact .inr (.inl ⟨rfl, hload⟩)

/-- Errors of one kind leave no room for those of another. -/
theorem EndedAt.alone (h : r.EndedAt k) :
    (r.loadErrors ≠ [] → r.generationErrors = [] ∧ r.exportErrors = [] ∧ stepNames[k]? = some "Load Descriptors") ∧
    (r.generationErrors ≠ [] → r.loadErrors = [] ∧ r.exportErrors = [] ∧
      stepNames[k]? = some "Render Templates") ∧
    (r.exportErrors ≠ [] → r.loadErrors = [] ∧ r.generationErrors = [] ∧
      stepNames[k]? = some "Export to Filesystem") := by
  have hapart {i j : Nat} {es : List String} (hes : es ≠ [] → k = i) (hk : k = j) (hij : j ≠ i) : es = [] := by
    by_contra hne
    exact hij (hk.symm.trans (hes hne))
  refine ⟨?_, ?_, ?_⟩
  · intro hne
    have hk := h.load hne
    exact ⟨hapart h.generation hk (by decide), hapart h.writing hk (by decide), hk ▸ rfl⟩
  · intro hne
    have hk := h.generation hne
    exact ⟨hapart h.load hk (by decide), hapart h.writing hk (by decide), hk ▸ rfl⟩
  · intro hne
    have hk := h.writing hne
    exact ⟨hapart h.load hk (by decide), hapart h.generation hk (by decide), hk ▸ rfl⟩

/-- With errors of one kind at most, the exit code tells if there are any, and which. -/
theorem EndedAt.exitCode (h : r.EndedAt k) :
    (Cli.exitCode r.finish = 0 ↔ r.Faultless) ∧ (Cli.exitCode r.finish = 4 ↔ r.loadErrors ≠ []) ∧
      (Cli.exitCode r.finish = 2 ↔ r.generationErrors ≠ []) ∧
      (Cli.exitCode r.finish = 3 ↔ r.exportErrors ≠ []) := by
  obtain ⟨hload, hgeneration, -⟩ := h.alone
  rcases exitCode_finish r with
    ⟨hcode, hnone, hnone', hnone''⟩ | ⟨hcode, hne⟩ | ⟨hcode, hnone, hne⟩ | ⟨hcode, hnone, hnone', hne⟩
  · simp [hcode, Faultless, hnone, hnone', hnone'']
  · simp [hcode, Faultless, hne, hload hne]
  · simp [hcode, Faultless, hne, hgeneration hne]
  · simp [hcode, Faultless, hnone, hnone', hne]

theorem EndedAt.coherent (h : r.EndedAt k) (hcounted : r.Faultless → r.Counted) : r.finish.Coherent := by
  obtain ⟨earlier, s, hsteps, hnames, hname, hwell, hlast⟩ := h.last
  have hsteps' : r.finish.steps = earlier ++ [s] := hsteps
  have hgetLast : r.finish.steps.getLast?.map (·.name) = stepNames[k]? := by
    rw [hsteps', List.getLast?_concat, hname]
    rfl
  obtain ⟨hload, hgeneration, hwriting⟩ := h.alone
  obtain ⟨hwellCode, hloadCode, hgenerationCode, hwritingCode⟩ := h.exitCode
  constructor
  case nonempty =>
    rw [hsteps']
    exact List.concat_ne_nil s earlier
  case ordered =>
    rw [hsteps', List.map_append, hnames, List.map_singleton, ← Option.toList_some, ← hname,
      ← List.take_add_one]
    exact List.take_prefix (k + 1) stepNames
  case earlier =>
    rw [hsteps', List.dropLast_concat]
    exact hwell
  case load =>
    rw [hgetLast]
    exact hload
  case generation =>
    rw [hgetLast]
    exact hgeneration
  case writing =>
    rw [hgetLast]
    exact hwriting
  case faultless => exact success_finish
  case well =>
    rw [success_finish, hsteps', List.forall_mem_append, List.forall_mem_singleton, ← hlast]
    exact (and_iff_right hwell).symm
  case success_code => exact hwellCode.trans success_finish.symm
  case load_code => exact hloadCode
  case generation_code => exact hgenerationCode
  case writing_code => exact hwritingCode
  case counted =>
    intro hsuccess
    exact hcounted (success_finish.1 hsuccess)

theorem subset_intercalate {line : String} {lines : List String} (h : line ∈ lines) (separator : String) :
    line.toList ⊆ (separator.intercalate lines).toList := by
  induction lines with
  | nil => cases h
  | cons first rest ih =>
    by_cases hrest : rest = []
    · subst hrest
      rw [List.mem_singleton.1 h, String.intercalate_singleton]
      exact List.Subset.refl _
    · rw [String.intercalate_cons_of_ne_nil hrest, String.toList_append]
      rcases List.mem_cons.1 h with rfl | h
      · rw [String.toList_append, List.append_assoc]
        exact List.subset_append_left _ _
      · exact List.Subset.trans (ih h) (List.subset_append_right _ _)

theorem halves_of_loadErrors {r : Report} {e : String} {c : Char} (he : e ∈ r.loadErrors) (hc : c ∈ e.toList)
    (h : (Text.halfCode? c).isSome = true) : Text.Utf8.halves? r.summary ≠ none := by
  have hlines : "    ✗ " ++ e ∈ errorLines "Load Errors" r.loadErrors := by
    rw [errorLines, if_neg (by simpa using List.ne_nil_of_mem he)]
    exact List.mem_cons_of_mem _ (List.mem_cons_of_mem _ (List.mem_map_of_mem he))
  have hline : "    ✗ " ++ e ∈ r.lines := by
    simp [lines, hlines]
  have hc' : c ∈ ("    ✗ " ++ e).toList := by
    rw [String.toList_append]
    exact List.mem_append_right _ hc
  exact Text.Utf8.halves?_ne_none (subset_intercalate hline "\n" hc') h

end Report

variable {setting : Setting} {flags : Flags} {set : DescriptorSet} {config : Config} {output path : Location}
  {overrides : Option Overrides} {r r' : Report} {vm : ViewModel} {files : RenderedFiles} {w w' : World}

theorem foldl_natCast (f : String × String → Nat) (files : RenderedFiles) :
    (files.map fun file => (f file : Int)).foldl (· + ·) (0 : Int) =
      ((files.map f).foldl (· + ·) 0 : Nat) := by
  have hstart (n : Nat) : (files.map fun file => (f file : Int)).foldl (· + ·) (n : Int) =
      ((files.map f).foldl (· + ·) n : Nat) := by
    induction files generalizing n with
    | nil => rfl
    | cons file rest ih =>
      rw [List.map_cons, List.map_cons, List.foldl_cons, List.foldl_cons, ← ih, Int.natCast_add]
  exact hstart 0

namespace Report.Through

theorem counted {k : Nat} (h : r.Through k) : r.Counted := by
  intro m hm
  rw [h.manifest] at hm
  cases hm

theorem buildStep {found : Option ViewModel} (h : r.Through 1)
    (hbuild : buildStep setting.place set config r w = .ok (found, r') w') :
    r'.Through 2 ∧ r'.EndedAt 1 := by
  obtain ⟨built, w₁, -, hbuild⟩ := stateful_bind_eq_ok.1 hbuild
  cases built with
  | none =>
    cases hbuild
    exact h.addStep rfl _
  | some vm =>
    cases hbuild
    have h' : Report.Through 1 { r with service := vm.serviceName, totalRpcs := vm.rpcs.length } :=
      ⟨h.faultless, h.names, h.well, h.manifest⟩
    exact h'.addStep rfl _

theorem renderStep {found : Option RenderedFiles} (h : r.Through 2)
    (hrender : renderStep setting.place config vm r w = .ok (found, r') w') :
    (found = none ∧ r'.EndedAt 2 ∧ ¬r'.Faultless) ∨ (r'.Through 3 ∧ r'.EndedAt 2) := by
  obtain ⟨rendered, w₁, -, hrender⟩ := stateful_bind_eq_ok.1 hrender
  cases rendered with
  | ok files =>
    obtain ⟨_, w₂, -, hrender⟩ := stateful_bind_eq_ok.1 hrender
    cases hrender
    exact .inr (h.addStep rfl _)
  | error f =>
    dsimp only at hrender
    cases hf : f.isRenderError with
    | false =>
      rw [hf] at hrender
      obtain ⟨_, w₂, -, hrender⟩ := stateful_bind_eq_ok.1 hrender
      cases hrender
    | true =>
      rw [hf] at hrender
      cases hrender
      let told : Report := { r with generationErrors := ["Fatal render error: " ++ f.text] }
      have hfaulty : ¬told.Faultless := fun hnone => List.cons_ne_nil _ _ hnone.2.1
      refine .inl ⟨rfl, ?_, hfaulty⟩
      apply h.endedAt (rfl : told.steps = _) rfl (iff_of_false Bool.false_ne_true hfaulty)
      · exact fun hne => absurd h.faultless.1 hne
      · exact fun _ => rfl
      · exact fun hne => absurd h.faultless.2.2 hne

theorem addTotals (h : r.Through 3) (files : RenderedFiles) : (addTotals files r).Through 3 :=
  ⟨h.faultless, h.names, h.well, h.manifest⟩

/-- The export ends every run that comes to it; without errors it has counted what was rendered. -/
theorem exportStep {service : String} (h : r.Through 3)
    (hexport : exportStep setting flags output service files (Generation.addTotals files r) w = .ok r' w') :
    r'.EndedAt 3 ∧ (r'.Faultless → r'.Counted) := by
  obtain ⟨result, w₁, hrun, hexport⟩ := stateful_bind_eq_ok.1 hexport
  cases hexport
  obtain ⟨w₂, hrun⟩ := timed_eq_ok hrun
  have hsuccess := Export.run_success (liftError_eq_ok hrun)
  have hwell : result.success = true ↔ result.errors.map Export.Failed.message = [] :=
    List.isEmpty_iff.trans List.map_eq_nil_iff.symm
  constructor
  · let told : Report :=
      { Generation.addTotals files r with
        exportErrors := result.errors.map Export.Failed.message, manifest := some result.manifest }
    apply (h.addTotals files).endedAt (rfl : told.steps = _) rfl
    · exact hwell.trans ⟨fun hnone => ⟨h.faultless.1, h.faultless.2.1, hnone⟩, fun hr => hr.2.2⟩
    · exact fun hne => absurd h.faultless.1 hne
    · exact fun hne => absurd h.faultless.2.1 hne
    · exact fun _ => rfl
  · intro hr m hm
    cases hm
    obtain ⟨path, hfiles⟩ := hsuccess (hwell.2 hr.2.2)
    refine ⟨?_, ?_, ?_⟩
    · rw [Export.Manifest.totalFiles, hfiles, List.length_map]
      rfl
    · rw [Export.Manifest.totalBytes, hfiles, List.map_map]
      exact foldl_natCast _ files
    · rw [Export.Manifest.totalLines, hfiles, List.map_map]
      exact foldl_natCast _ files

theorem runFrom (h : r.Through 1) (hrun : runFrom setting flags set config output r w = .ok r' w') :
    r'.Coherent := by
  obtain ⟨built, w₁, hbuild, hrun⟩ := stateful_bind_eq_ok.1 hrun
  obtain ⟨found, r₁⟩ := built
  obtain ⟨hthrough, hended⟩ := h.buildStep hbuild
  cases found with
  | none =>
    cases hrun
    exact hended.coherent fun _ => hthrough.counted
  | some vm =>
    obtain ⟨rendered, w₂, hrender, hrun⟩ := stateful_bind_eq_ok.1 hrun
    obtain ⟨files, r₂⟩ := rendered
    rcases hthrough.renderStep hrender with ⟨rfl, hended, hfaulty⟩ | ⟨hthrough, hended⟩
    · cases hrun
      exact hended.coherent fun hr => absurd hr hfaulty
    · cases files with
      | none =>
        cases hrun
        exact hended.coherent fun _ => hthrough.counted
      | some files =>
        dsimp only at hrun
        cases hdry : flags.dryRun with
        | true =>
          rw [hdry] at hrun
          cases hrun
          have hended' : (Generation.addTotals files r₂).EndedAt 2 :=
            ⟨hended.last, hended.load, hended.generation, hended.writing⟩
          exact hended'.coherent fun _ => (hthrough.addTotals files).counted
        | false =>
          rw [hdry] at hrun
          obtain ⟨r₃, w₃, hexport, hrun⟩ := stateful_bind_eq_ok.1 hrun
          cases hrun
          obtain ⟨hended, hcounted⟩ := hthrough.exportStep hexport
          exact hended.coherent hcounted

end Report.Through

theorem ofFile_coherent (h : ofFile setting flags path output overrides w = .ok r w') : r.Coherent := by
  obtain ⟨_, w₁, -, h⟩ := stateful_bind_eq_ok.1 h
  obtain ⟨directory, w₂, -, h⟩ := stateful_bind_eq_ok.1 h
  have hstart : Report.Through 0 { dryRun := flags.dryRun, directory := directory.text } :=
    ⟨⟨rfl, rfl, rfl⟩, rfl, List.forall_mem_nil _, rfl⟩
  obtain ⟨loaded, w₃, -, h⟩ := stateful_bind_eq_ok.1 h
  cases loaded with
  | ok found =>
    obtain ⟨set, config⟩ := found
    obtain ⟨_, w₄, -, h⟩ := stateful_bind_eq_ok.1 h
    exact (hstart.addStep rfl _).1.runFrom h
  | error f =>
    dsimp only at h
    cases hf : f.isLoadError with
    | false =>
      rw [hf] at h
      obtain ⟨_, w₄, -, h⟩ := stateful_bind_eq_ok.1 h
      cases h
    | true =>
      rw [hf] at h
      cases h
      let told : Report :=
        { dryRun := flags.dryRun, directory := directory.text, loadErrors := [f.message] }
      have hfaulty : ¬told.Faultless := fun hnone => List.cons_ne_nil _ _ hnone.1
      have hended : (told.addStep "Load Descriptors" false ("from " ++ path.name)).EndedAt 0 := by
        apply hstart.endedAt (rfl : told.steps = _) rfl (iff_of_false Bool.false_ne_true hfaulty)
        · exact fun _ => rfl
        · exact fun hne => absurd rfl hne
        · exact fun hne => absurd rfl hne
      exact hended.coherent fun hr => absurd hr hfaulty

theorem ofFile_of_loadIn_error {t : Tree} {f : Failure} (hout : output.hasNull = false)
    (h : loadIn setting.place path overrides t = .error f) (hf : f.isLoadError = true) (log : List Log.Event) :
    ∃ r w, ofFile setting flags path output overrides ⟨t, log⟩ = .ok r w ∧ r.loadErrors = [f.message] := by
  have hdir : Ends (outputDirectory setting output) t (.ok (output.absolute setting.place.cwd)) := by
    rw [outputDirectory, hout]
    exact .pure _
  have hload := (load_ends setting.place path overrides t).attempt (δ := Failure)
  rw [h] at hload
  let told : Report :=
    { dryRun := flags.dryRun, directory := (output.absolute setting.place.cwd).text, loadErrors := [f.message] }
  have hends : Ends (ofFile setting flags path output overrides) t
      (.ok (told.addStep "Load Descriptors" false ("from " ++ path.name)).finish) := by
    refine (Ends.report _).bind (hdir.bind (hload.bind ?_))
    dsimp only
    rw [hf]
    exact (Ends.report _).bind ((Ends.report _).bind (.pure _))
  obtain ⟨log', hrun⟩ := hends log
  exact ⟨_, _, hrun, rfl⟩

end Generation

open Generation

namespace Cli

namespace Arguments

def descriptorAt (cwd : List String) (a : Arguments) : Location :=
  (Location.ofText (a.descriptor.getD "")).absolute cwd

def outputAt (cwd : List String) (a : Arguments) : Location := (Location.ofText (a.output.getD "")).absolute cwd

def generation (setting : Setting) (a : Arguments) : Action Failure Report :=
  ofFile setting (flags a) (a.descriptorAt setting.place.cwd) (a.outputAt setting.place.cwd)
    (overrides setting.place.cwd a)

/-- There is a descriptor, and a place for the files unless none is to be written. -/
structure Ready (place : Place) (t : Tree) (a : Arguments) : Prop where
  found : place.isFile? t (a.descriptorAt place.cwd) = .ok true
  aimed : a.output = none → a.dryRun = true

/-- The descriptor can be looked for. -/
structure Searched (place : Place) (t : Tree) (a : Arguments) : Prop where
  descriptor : (Location.ofText (a.descriptor.getD "")).hasNull = false
  lookup : ∃ there, place.isFile? t (a.descriptorAt place.cwd) = .ok there

/-- So can everything else that the arguments name. -/
structure Sound (place : Place) (t : Tree) (a : Arguments) : Prop extends Searched place t a where
  output : (Location.ofText (a.output.getD "")).hasNull = false
  templates : (a.templateDir.any fun d => (Location.ofText d).hasNull) = false

end Arguments

/-- The ways in which a call ends, with the exit code and what it prints, and the tree it leaves. Arguments that
are ready and sound lead to their run; a report of it counts unless it cannot be printed. No two of the ways are open
to the same arguments, apart from how their run ends. -/
inductive Called (setting : Setting) (console : Console) (texts : List String) (t : Tree) :
    Except Failure (Nat × String) → Tree → Prop where
  | asked {text : String}
    (h : Arguments.ofTexts texts = .error .help ∨ Arguments.ofTexts texts = .error .version) :
    Called setting console texts t (.ok (0, text)) t
  | misused {m : Misuse} (h : Arguments.ofTexts texts = .error (.misuse m)) :
    Called setting console texts t (.ok (2, "")) t
  | unready {a : Arguments} (h : Arguments.ofTexts texts = .ok a) (hsearched : a.Searched setting.place t)
    (hready : ¬a.Ready setting.place t) : Called setting console texts t (.ok (4, "")) t
  | unsound {a : Arguments} {e : Files.Error} (h : Arguments.ofTexts texts = .ok a)
    (hready : a.Searched setting.place t → a.Ready setting.place t) (hsound : ¬a.Sound setting.place t) :
    Called setting console texts t (.error (.file e)) t
  | failed {a : Arguments} {log : List Log.Event} {f : Failure} {w : World} (h : Arguments.ofTexts texts = .ok a)
    (hready : a.Ready setting.place t) (hsound : a.Sound setting.place t)
    (hrun : a.generation setting ⟨t, log⟩ = .error f w) : Called setting console texts t (.error f) w.tree
  | unprinted {a : Arguments} {log : List Log.Event} {r : Report} {f : Failure} {w : World}
    (h : Arguments.ofTexts texts = .ok a) (hready : a.Ready setting.place t) (hsound : a.Sound setting.place t)
    (hrun : a.generation setting ⟨t, log⟩ = .ok r w) (hr : r.Coherent)
    (hprint : console.refusal? r.summary = some f) : Called setting console texts t (.error f) w.tree
  | reported {a : Arguments} {log : List Log.Event} {r : Report} {w : World}
    (h : Arguments.ofTexts texts = .ok a) (hready : a.Ready setting.place t) (hsound : a.Sound setting.place t)
    (hrun : a.generation setting ⟨t, log⟩ = .ok r w) (hr : r.Coherent)
    (hprint : console.refusal? r.summary = none) :
    Called setting console texts t (.ok (exitCode r, r.summary ++ "\n")) w.tree

theorem report_eq (e : Log.Event) (w : World) :
    (report e : Action Failure Unit) w = .ok () ⟨w.tree, w.log ++ [e]⟩ := rfl

/-- What is seen of an end: a part of the value or the failure, and the tree. -/
def Shows (P : Except Failure (Nat × String) → Tree → Prop) (seen : α → Nat × String) :
    EStateM.Result Failure World α → Prop
  | .ok v w => P (.ok (seen v)) w.tree
  | .error f w => P (.error f) w.tree

theorem Shows.bind {P : Except Failure (Nat × String) → Tree → Prop} {seen : α → Nat × String}
    {seen' : β → Nat × String} {x : Action Failure α} {k : α → Action Failure β} {w : World}
    (h : Shows P seen (x w)) (hk : ∀ v w₁, ∃ v' w', k v w₁ = .ok v' w' ∧ seen' v' = seen v ∧ w'.tree = w₁.tree) :
    Shows P seen' ((x >>= k) w) := by
  cases hx : x w with
  | error f w₁ =>
    rw [hx] at h
    rw [bind_of_error hx]
    exact h
  | ok v w₁ =>
    rw [hx] at h
    obtain ⟨v', w', hv, hseen, htree⟩ := hk v w₁
    rw [bind_of_ok hx, hv, Shows, hseen, htree]
    exact h

variable {setting : Setting} {console : Console} {texts : List String} {a : Arguments} {t : Tree}
  {log : List Log.Event} {w : World}

theorem locate_of_null {cwd : List String} {s : String} (h : (Location.ofText s).hasNull = true) (w : World) :
    locate cwd s w = .error (.file .nullByte) w := by
  rw [locate, h]
  rfl

theorem locate_of_sound {cwd : List String} {s : String} (h : (Location.ofText s).hasNull = false) (w : World) :
    locate cwd s w = .ok ((Location.ofText s).absolute cwd) w := by
  rw [locate, h]
  rfl

theorem look_of_ok {place : Place} {l : Location} {there : Bool} (h : place.isFile? w.tree l = .ok there) :
    (look fun t => (place.isFile? t l).mapError Failure.file) w = .ok there w := by
  simp only [look, bind, EStateM.bind, stateful_get_eq, h]
  rfl

theorem look_of_error {place : Place} {l : Location} {e : Files.Error} (h : place.isFile? w.tree l = .error e) :
    (look fun t => (place.isFile? t l).mapError Failure.file) w = .error (.file e) w := by
  simp only [look, bind, EStateM.bind, stateful_get_eq, h]
  rfl

namespace Called

variable {ended : Except Failure (Nat × String)} {t' : Tree}

theorem of_unsearched {e : Files.Error} (h : Arguments.ofTexts texts = .ok a) (hs : ¬a.Searched setting.place t) :
    Called setting console texts t (.error (.file e)) t :=
  .unsound h (fun h' => absurd h' hs) fun h' => hs h'.toSearched

/-- A call that ends well has printed the report of a success, unless it was asked for something else. -/
theorem exists_report {code : Nat} {text : String} (ha : Arguments.ofTexts texts = .ok a)
    (h : Called setting console texts t (.ok (code, text)) t') (hcode : code = 0) :
    ∃ r : Report, r.Coherent ∧ r.success = true ∧ text = r.summary ++ "\n" := by
  cases h with
  | asked h =>
    rcases h with h | h
    · cases ha.symm.trans h
    · cases ha.symm.trans h
  | misused => cases hcode
  | unready => cases hcode
  | reported _ _ _ _ hr _ => exact ⟨_, hr, hr.success_code.1 hcode, rfl⟩

/-- A call with ready and sound arguments ends as their run and the printing of its report do. -/
theorem of_ready (h : Called setting console texts t ended t') (ha : Arguments.ofTexts texts = .ok a)
    (hready : a.Ready setting.place t) (hsound : a.Sound setting.place t) :
    (∃ log f w, a.generation setting ⟨t, log⟩ = .error f w ∧ ended = .error f) ∨
      ∃ log r w, a.generation setting ⟨t, log⟩ = .ok r w ∧
        ((∃ f, console.refusal? r.summary = some f ∧ ended = .error f) ∨
          console.refusal? r.summary = none ∧ ended = .ok (exitCode r, r.summary ++ "\n")) := by
  cases h with
  | asked h =>
    rcases h with h | h
    · cases ha.symm.trans h
    · cases ha.symm.trans h
  | misused h => cases ha.symm.trans h
  | unready h _ hunready =>
    cases ha.symm.trans h
    exact absurd hready hunready
  | unsound h _ hunsound =>
    cases ha.symm.trans h
    exact absurd hsound hunsound
  | failed h _ _ hrun =>
    cases ha.symm.trans h
    exact .inl ⟨_, _, _, hrun, rfl⟩
  | unprinted h _ _ hrun _ hprint =>
    cases ha.symm.trans h
    exact .inr ⟨_, _, _, hrun, .inl ⟨_, hprint, rfl⟩⟩
  | reported h _ _ hrun _ hprint =>
    cases ha.symm.trans h
    exact .inr ⟨_, _, _, hrun, .inr ⟨hprint, rfl⟩⟩

end Called

theorem runGeneration_called (console : Console) (log : List Log.Event)
    (h : Arguments.ofTexts texts = .ok a) (hready : a.Ready setting.place t)
    (hsound : (a.templateDir.any fun d => (Location.ofText d).hasNull) = false → a.Sound setting.place t) :
    Shows (Called setting console texts t) id (runGeneration setting console a
      (a.descriptorAt setting.place.cwd) (a.outputAt setting.place.cwd) ⟨t, log⟩) := by
  rw [runGeneration]
  cases hnull : a.templateDir.any fun d => (Location.ofText d).hasNull with
  | true =>
    refine .unsound h (fun _ => hready) fun hs => ?_
    cases hnull.symm.trans hs.templates
  | false =>
    change Shows _ _ ((a.generation setting >>= _) ⟨t, log⟩)
    cases hrun : a.generation setting ⟨t, log⟩ with
    | error f w =>
      rw [bind_of_error hrun]
      exact .failed h hready (hsound hnull) hrun
    | ok r w =>
      rw [bind_of_ok hrun]
      cases hprint : console.refusal? r.summary with
      | some f => exact .unprinted h hready (hsound hnull) hrun (ofFile_coherent hrun) hprint
      | none => exact .reported h hready (hsound hnull) hrun (ofFile_coherent hrun) hprint

theorem generate_called (h : Arguments.ofTexts texts = .ok a) :
    Shows (Called setting console texts t) (fun r => (r.1, r.2.1)) (generate setting console a ⟨t, log⟩) := by
  rw [generate]
  dsimp only
  cases hnull : (Location.ofText (a.descriptor.getD "")).hasNull with
  | true =>
    rw [bind_of_error (locate_of_null hnull _)]
    refine .of_unsearched h fun hs => ?_
    cases hnull.symm.trans hs.descriptor
  | false =>
    rw [bind_of_ok (locate_of_sound hnull _)]
    cases hfile : setting.place.isFile? t ((Location.ofText (a.descriptor.getD "")).absolute setting.place.cwd) with
    | error e =>
      rw [bind_of_error (look_of_error (w := ⟨t, log⟩) hfile)]
      refine .of_unsearched h fun hs => ?_
      obtain ⟨there, hthere⟩ := hs.lookup
      cases hfile.symm.trans hthere
    | ok there =>
      rw [bind_of_ok (look_of_ok (w := ⟨t, log⟩) hfile)]
      cases there with
      | false =>
        refine .unready h ⟨hnull, false, hfile⟩ fun hr => ?_
        cases hfile.symm.trans hr.found
      | true =>
        rw [Bool.not_true, if_neg Bool.false_ne_true]
        cases haimed : a.output.isNone && !a.dryRun with
        | true =>
          refine .unready h ⟨hnull, true, hfile⟩ fun hr => ?_
          obtain ⟨hnone, hdry⟩ := Bool.and_eq_true_iff.1 haimed
          rw [hr.aimed (Option.isNone_iff_eq_none.1 hnone)] at hdry
          cases hdry
        | false =>
          rw [if_neg Bool.false_ne_true]
          have hready : a.Ready setting.place t := by
            refine ⟨hfile, fun hnone => ?_⟩
            rw [hnone] at haimed
            simpa using haimed
          cases houtput : (Location.ofText (a.output.getD "")).hasNull with
          | true =>
            rw [bind_of_error (locate_of_null houtput _)]
            refine .unsound h (fun _ => hready) fun hs => ?_
            cases houtput.symm.trans hs.output
          | false =>
            rw [bind_of_ok (locate_of_sound houtput _)]
            have hcall (log : List Log.Event) := runGeneration_called console log h hready fun htemplates =>
              ⟨⟨hnull, true, hfile⟩, houtput, htemplates⟩
            rw [bind_of_ok (report_eq _ _), bind_of_ok (report_eq _ _)]
            exact (hcall _).bind fun r w => ⟨(r.1, r.2, ""), _, rfl, rfl, rfl⟩

theorem run_called (setting : Setting) (console : Console) (texts : List String) (w : World) :
    Shows (Called setting console texts w.tree) (fun o => (o.code, o.output)) (run setting console texts w) := by
  rw [run]
  cases h : Arguments.ofTexts texts with
  | error s =>
    cases s with
    | help => exact .asked (.inl h)
    | version => exact .asked (.inr h)
    | misuse m => exact .misused h
  | ok a =>
    have hcall : Shows (Called setting console texts w.tree) (fun r => (r.1, r.2.1))
      (generate setting console a ⟨w.tree, []⟩) := generate_called h
    exact hcall.bind fun r w₁ => ⟨_, w₁, rfl, rfl, rfl⟩

theorem run_of_misused {m : Misuse} (h : Arguments.ofTexts texts = .error (.misuse m)) :
    ∃ o w, run setting console texts ⟨t, log⟩ = .ok o w ∧ o.code = 2 := by
  rw [run, h]
  exact ⟨_, _, rfl, rfl⟩

theorem refusal_eq_none {clock text : String} :
    Console.refusal? { clock } text = none ↔ Text.Utf8.halves? text = none :=
  Option.map_eq_none_iff

theorem eq_unencodable_of_refusal {clock text : String} {f : Failure}
    (h : Console.refusal? { clock } text = some f) : ∃ halves, f = .unencodable halves := by
  obtain ⟨halves, -, rfl⟩ := Option.map_eq_some_iff.1 h
  exact ⟨halves, rfl⟩

/-- A report with halves of surrogate pairs breaks the call on a terminal that has to encode it. -/
theorem run_of_unprinted {clock : String} (ha : Arguments.ofTexts texts = .ok a) (hready : a.Ready setting.place t)
    (hsound : a.Sound setting.place t)
    (h : ∀ log, ∃ r w, a.generation setting ⟨t, log⟩ = .ok r w ∧ Text.Utf8.halves? r.summary ≠ none) :
    ∃ halves w, run setting clock texts ⟨t, log⟩ = .error (.unencodable halves) w := by
  have hends := run_called setting clock texts ⟨t, log⟩
  cases hcall : run setting clock texts ⟨t, log⟩ with
  | ok o w =>
    rw [hcall] at hends
    rcases Called.of_ready hends ha hready hsound with ⟨log', f, w', -, hfail⟩ | ⟨log', r, w', hrun, hprinted⟩
    · cases hfail
    · rcases hprinted with ⟨f, -, hfail⟩ | ⟨hprint, -⟩
      · cases hfail
      · obtain ⟨r', w'', hrun', hhalves⟩ := h log'
        cases hrun.symm.trans hrun'
        exact absurd (refusal_eq_none.1 hprint) hhalves
  | error f w =>
    rw [hcall] at hends
    rcases Called.of_ready hends ha hready hsound with ⟨log', f', w', hrun, -⟩ | ⟨log', r, w', hrun, hprinted⟩
    · obtain ⟨r', w'', hrun', -⟩ := h log'
      cases hrun.symm.trans hrun'
    · rcases hprinted with ⟨f', hprint, hfail⟩ | ⟨-, hend⟩
      · cases hfail
        obtain ⟨halves, rfl⟩ := eq_unencodable_of_refusal hprint
        exact ⟨halves, w, rfl⟩
      · cases hend

end Cli

namespace Generation

/-- Every report of a run from a file holds together, and a call of the program has the exit code of the report
of its run, if it comes to a run and the report can be printed. -/
theorem reports_coherent (setting : Setting) (w : World) :
    (∀ flags path output overrides r w', ofFile setting flags path output overrides w = .ok r w' →
      r.Coherent) ∧
    ∀ console texts, Cli.Shows (Cli.Called setting console texts w.tree) (fun o => (o.code, o.output))
      (Cli.run setting console texts w) := by
  constructor
  · intro flags path output overrides r w' hrun
    exact ofFile_coherent hrun
  · intro console texts
    exact Cli.run_called setting console texts w

def depotTree : Tree :=
  let descriptor :=
    "\x7b\"files\": [\x7b\"name\": \"a.proto\", \"services\": [\x7b\"name\": \"Depot\"\x7d]\x7d]\x7d"
  ⟨[(["d.json"], .file descriptor.toUTF8), (["t"], .directory),
    (["t", "client.ts.jinja"], .file "client".toUTF8), (["t", "api.ts.jinja"], .file "api".toUTF8),
    (["t", "index.ts.jinja"], .file "index".toUTF8)]⟩

def depotRun : EStateM.Result Failure World Report :=
  ofFile {} {} ⟨"/", ["d.json"]⟩ ⟨"/", ["out"]⟩ (some [("template_dir", .text "/t")]) ⟨depotTree, []⟩

def depotWords : List String := ["-d", "d.json", "-o", "out", "--template-dir", "t"]

def depotArguments : Cli.Arguments :=
  { descriptor := some "d.json", output := some "out", templateDir := some "t" }

def depotCall : EStateM.Result Failure World Cli.Outcome :=
  Cli.run {} { clock := "", refusal? := fun _ => none } depotWords ⟨depotTree, []⟩

theorem depotRun_steps : ∃ r w, depotRun = .ok r w ∧ r.steps.map Step.name = stepNames ∧ r.manifest ≠ none := by
  have hsteps : (match depotRun with
      | .ok r _ => (r.steps.map Step.name, r.manifest.isSome)
      | .error _ _ => ([], false)) = (stepNames, true) := by
    decide +kernel
  cases hrun : depotRun with
  | error f w =>
    rw [hrun] at hsteps
    cases hsteps
  | ok r w =>
    rw [hrun] at hsteps
    obtain ⟨hnames, hmanifest⟩ := Prod.mk.injEq _ _ _ _ ▸ hsteps
    exact ⟨r, w, rfl, hnames, Option.isSome_iff_ne_none.1 hmanifest⟩

theorem depotCall_code : ∃ output errors w, depotCall = .ok ⟨0, output, errors⟩ w := by
  have hcode : (match depotCall with
      | .error _ _ => 1
      | .ok o _ => o.code) = 0 := by
    decide +kernel
  cases hcall : depotCall with
  | error f w =>
    rw [hcall] at hcode
    cases hcode
  | ok o w =>
    rw [hcall] at hcode
    obtain ⟨code, output, errors⟩ := o
    have hzero : code = 0 := hcode
    subst hzero
    exact ⟨output, errors, w, rfl⟩

theorem reports_coherent_depot :
    (∃ r w, depotRun = .ok r w ∧ r.Coherent ∧ r.steps.map Step.name = stepNames ∧ r.manifest ≠ none) ∧
      ∃ o w, depotCall = .ok o w ∧ o.code = 0 ∧
        ∃ r : Report, r.Coherent ∧ r.success = true ∧ o.output = r.summary ++ "\n" := by
  obtain ⟨hreports, hcalls⟩ := reports_coherent {} ⟨depotTree, []⟩
  constructor
  · obtain ⟨r, w, hrun, hsteps⟩ := depotRun_steps
    exact ⟨r, w, hrun, hreports _ _ _ _ r w hrun, hsteps⟩
  · obtain ⟨output, errors, w, hcall⟩ := depotCall_code
    have hwords : Cli.Arguments.ofTexts depotWords = .ok depotArguments := by decide +kernel
    have hends := hcalls { clock := "", refusal? := fun _ => none } depotWords
    rw [← depotCall, hcall] at hends
    exact ⟨_, w, hcall, rfl, Cli.Called.exists_report hwords hends rfl⟩

def halfTree : Tree :=
  let descriptor :=
    "\x7b\"files\": [\x7b\"name\": \"a.proto\", \"messages\": [\x7b\"name\": \"M\", \"fields\": "
      ++ "[\x7b\"name\": \"f\", \"type\": \"\\ud800\"\x7d]\x7d]\x7d]\x7d"
  ⟨[(["d.json"], .file descriptor.toUTF8)]⟩

def halfArguments : Cli.Arguments := { descriptor := some "d.json", dryRun := true }

theorem generation_halfTree (log : List Log.Event) :
    ∃ r w, halfArguments.generation {} ⟨halfTree, log⟩ = .ok r w ∧ r.loadErrors ≠ [] ∧
      Text.Utf8.halves? r.summary ≠ none := by
  have hfound : (match loadIn (Setting.place {}) (halfArguments.descriptorAt [])
        (Cli.overrides [] halfArguments) halfTree with
      | .error f => f.isLoadError && f.message.toList.any fun c => (Text.halfCode? c).isSome
      | .ok _ => false) = true := by
    decide +kernel
  cases hload : loadIn (Setting.place {}) (halfArguments.descriptorAt []) (Cli.overrides [] halfArguments) halfTree with
  | ok found =>
    rw [hload] at hfound
    cases hfound
  | error f =>
    rw [hload] at hfound
    obtain ⟨hf, hhalf⟩ := Bool.and_eq_true_iff.1 hfound
    obtain ⟨c, hc, hhalf⟩ := List.any_eq_true.1 hhalf
    have hout : (halfArguments.outputAt []).hasNull = false := by decide +kernel
    obtain ⟨r, w, hrun, herrors⟩ := ofFile_of_loadIn_error hout hload hf log
    have hmem : f.message ∈ r.loadErrors := herrors ▸ List.mem_singleton_self _
    exact ⟨r, w, hrun, List.ne_nil_of_mem hmem, Report.halves_of_loadErrors hmem hc hhalf⟩

/-- A call without arguments has the exit code of a failure of rendering, though there is no run; and one whose
report cannot be printed has none, though its run reports a failure of loading. -/
theorem exit_codes_apart :
    (∃ o w, Cli.run {} "" [] ⟨⟨[]⟩, []⟩ = .ok o w ∧ o.code = 2) ∧
    (∃ r w, halfArguments.generation {} ⟨halfTree, []⟩ = .ok r w ∧ r.loadErrors ≠ []) ∧
    ∃ h w, Cli.run {} "" ["-d", "d.json", "--dry-run"] ⟨halfTree, []⟩ = .error (.unencodable h) w := by
  refine ⟨?_, ?_, ?_⟩
  · have hnone : Cli.Arguments.ofTexts [] = .error (.misuse .noDescriptor) := by decide +kernel
    exact Cli.run_of_misused hnone
  · obtain ⟨r, w, hrun, herrors, -⟩ := generation_halfTree []
    exact ⟨r, w, hrun, herrors⟩
  · have hwords : Cli.Arguments.ofTexts ["-d", "d.json", "--dry-run"] = .ok halfArguments := by decide +kernel
    have hready : halfArguments.Ready {} halfTree := ⟨by decide +kernel, fun _ => rfl⟩
    have hsound : halfArguments.Sound {} halfTree :=
      ⟨⟨by decide +kernel, true, by decide +kernel⟩, by decide +kernel, rfl⟩
    refine Cli.run_of_unprinted hwords hready hsound fun log => ?_
    obtain ⟨r, w, hrun, -, hhalves⟩ := generation_halfTree log
    exact ⟨r, w, hrun, hhalves⟩

end Generation

end RpcBindings
