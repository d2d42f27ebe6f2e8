import RpcBindings.Generation.Run
import RpcBindings.Proofs.Export.Written
import RpcBindings.Proofs.Files.Changes

namespace RpcBindings.Export

open RpcBindings.Files
open RpcBindings.Path
open RpcBindings.Files.Action
open RpcBindings.Files.Tree (Below)

namespace Options

variable {o : Options} {place : Place} {dir : FilePath} {files : List (String × String)} {name : String}

def destination (o : Options) (place : Place) (name : String) : FilePath :=
  ((o.directory.join name).absolute place.cwd).parts

def Crosses (o : Options) (place : Place) (name : String) (q : FilePath) : Prop :=
  place.Passes (o.directory.join name).parent q

def writing (o : Options) (place : Place) (files : List (String × String)) : Bounds where
  made q := ∃ f ∈ files, o.Crosses place f.1 q
  written q content := ∃ f ∈ files, q = o.destination place f.1 ∧ content = f.2.toUTF8

/-- What an export may change; what is below the output directory is left open. -/
def bounds (o : Options) (place : Place) (files : List (String × String)) : Bounds where
  free := Below o.directory.parts
  made q := q <+: o.directory.parts ∨ (o.writing place files).made q
  written q content := q ≠ o.directory.parts ∧ (o.writing place files).written q content

theorem writing_mono {a : Action ε α} {files' : List (String × String)} (h : Within (o.writing place files) a)
    (hsub : files ⊆ files') : Within (o.writing place files') a := by
  apply h.mono
  intro q e e' hchange
  refine hchange.mono id ?_ fun content => ?_
  · rintro ⟨f, hf, hq⟩
    exact ⟨f, hsub hf, hq⟩
  · rintro ⟨f, hf, hq⟩
    exact ⟨f, hsub hf, hq⟩

theorem within_cleanUp (hdir : o.directory = .atPath dir) (place : Place) :
    Within { free := Below dir } (o.cleanUp place) := by
  rw [cleanUp]
  split
  · refine .bind (.look _) fun there => ?_
    split
    · refine .bind (.report _) fun _ => .change ?_
      intro t t' h q
      obtain ⟨e, -, h⟩ := bind_eq_ok.1 h
      cases e with
      | file content => cases h
      | directory =>
        cases h
        rw [hdir, components_atPath, Tree.get?_eraseBelow]
        split
        · rename_i hgone
          exact .free hgone.1
        · exact .same _
    · exact .pure ()
  · exact .pure ()

theorem within_prepare (hdir : o.directory = .atPath dir) (hnormal : Normal dir) (place : Place) :
    Within { free := Below dir, made := (· <+: dir) } (o.prepare place) := by
  have hensure := Place.within_makeDirectories place o.directory.parts.length o.directory
  refine Within.bind ((within_cleanUp hdir place).mono ?_) fun _ => hensure.mono ?_
  · intro q e e' h
    exact h.mono id (fun hfalse => hfalse.elim) fun _ => id
  · intro q e e' h
    exact h.mono (fun hfalse => hfalse.elim) (fun hq => Place.prefix_of_passes hnormal (hdir ▸ hq)) fun _ => id

theorem components_join (hdir : o.directory = .atPath dir) (hnormal : Normal dir) (cwd : List String)
    (name : String) : ∀ c ∈ (o.directory.join name).components cwd, c ≠ "" ∧ c ≠ "." := by
  have hparts : ∀ c ∈ parts name, c ≠ "" ∧ c ≠ "." := fun c hc => ⟨(isPart_of_mem hc).1, (isPart_of_mem hc).2⟩
  rw [hdir]
  cases habsolute : isAbsolute name with
  | true =>
    have hroot : ¬(Location.ofText name).root = "" := by
      intro hroot
      rw [rootOf_eq_empty_iff.1 hroot] at habsolute
      cases habsolute
    rw [join_of_absolute _ habsolute, Location.components, if_neg hroot]
    exact hparts
  | false =>
    rw [join_of_relative _ habsolute]
    change ∀ c ∈ (Location.atPath (dir ++ parts name)).components cwd, _
    rw [components_atPath]
    intro c hc
    rcases List.mem_append.1 hc with hc | hc
    · exact ⟨(hnormal c hc).1, (hnormal c hc).2.1⟩
    · exact hparts c hc

theorem destination_eq_lead (hdir : o.directory = .atPath dir) (hnormal : Normal dir) (place : Place)
    (name : String) :
    o.destination place name = Tree.lead ((o.directory.join name).components place.cwd) :=
  (Tree.lead_eq_enter (components_join hdir hnormal place.cwd name)).symm

theorem within_writeOne (hdir : o.directory = .atPath dir) (hnormal : Normal dir) (place : Place)
    (file : String × String) : Within (o.writing place [file]) (o.writeOne place file.1 file.2) := by
  have hwrite := Place.within_writeFile place (o.directory.join file.1) file.2 o.atomic
  rw [← destination_eq_lead hdir hnormal] at hwrite
  have hone : Within (o.writing place [file]) (place.writeFile (o.directory.join file.1) file.2 o.atomic) := by
    apply hwrite.mono
    intro q e e' h
    exact h.mono id (fun hq => ⟨file, List.mem_cons_self, hq⟩) fun content hq => ⟨file, List.mem_cons_self, hq⟩
  exact hone.bind fun size => (Within.report _).bind fun _ => .pure _

theorem within_writeAll (hdir : o.directory = .atPath dir) (hnormal : Normal dir) (place : Place)
    (files : List (String × String)) : Within (o.writing place files) (o.writeAll place files) := by
  induction files with
  | nil => exact .pure _
  | cons file rest ih =>
    have hone : Within (o.writing place (file :: rest)) (o.writeOne place file.1 file.2) :=
      writing_mono (within_writeOne hdir hnormal place file) (List.cons_subset_cons file (List.nil_subset rest))
    have hrest := writing_mono ih (List.subset_cons_self file rest)
    refine hone.attempt.bind fun r => ?_
    cases r with
    | ok record => exact hrest.bind fun found => .pure _
    | error e =>
      dsimp only
      split
      · exact .bind (.throw e) fun _ => .bind (.report _) fun _ => hrest.bind fun found => .pure _
      · exact .bind (.report _) fun _ => hrest.bind fun found => .pure _

theorem within_writeManifest (hdir : o.directory = .atPath dir) (hnormal : Normal dir) (place : Place)
    (records : List FileRecord) :
    Within { free := Below dir, made := (· <+: dir) } (o.writeManifest place records) := by
  have hpath : o.directory.child manifestName = .atPath (dir ++ [manifestName]) := by
    rw [hdir]
    rfl
  have hwrite := Place.within_writeFile place (o.directory.child manifestName) (o.manifestText records) o.atomic
  rw [hpath, parent_atPath, components_atPath,
    Tree.lead_of_normal (isFileName_manifestName.normal hnormal)] at hwrite
  have hone : Within { free := Below dir, made := (· <+: dir) }
      (place.writeFile (.atPath (dir ++ [manifestName])) (o.manifestText records) o.atomic) := by
    apply hwrite.mono
    intro q e e' h
    cases h with
    | free hfalse => exact hfalse.elim
    | same => exact .same e
    | made hq => exact .made (Place.prefix_of_passes hnormal hq)
    | written hq he => exact .free (hq.1 ▸ Tree.below_concat dir manifestName)
  rw [writeManifest]
  dsimp only
  rw [hpath]
  refine hone.attempt.bind fun r => ?_
  cases r with
  | ok size => exact .bind (.report _) fun _ => .pure _
  | error e =>
    dsimp only
    split
    · exact .bind (.throw e) fun _ => .bind (.report _) fun _ => .pure _
    · exact .bind (.report _) fun _ => .pure _

theorem normal_resolved (o : Options) (place : Place) : Normal (o.resolved place).directory.parts :=
  normal_enter (List.forall_mem_nil _) _

/-- A directory that stands is not written over, so no name that leads to it matters. -/
theorem allow_of_directory {t t₁ t₂ : Tree}
    (hprepared : Bounds.Allow { free := Below o.directory.parts, made := (· <+: o.directory.parts) } t t₁)
    (hthere : t₁.get? o.directory.parts = some .directory)
    (hwritten : Bounds.Allow { o.bounds place files with written := (o.writing place files).written } t₁ t₂) :
    (o.bounds place files).Allow t t₂ := by
  intro q
  refine Bounds.Change.trans ((hprepared q).mono id .inl fun _ hfalse => hfalse.elim) ?_
  have hq := hwritten q
  by_cases heq : q = o.directory.parts
  · rw [heq, hthere] at hq ⊢
    generalize t₂.get? o.directory.parts = e at hq ⊢
    cases hq with
    | free h => exact .free h
    | same => exact .same _
    | written _ he => exact absurd rfl he
  · exact hq.mono id id fun content h => ⟨heq, h⟩

theorem within_writeTo (o : Options) (place : Place) (files : List (String × String)) :
    Within ((o.resolved place).bounds place files) ((o.resolved place).writeTo place files) := by
  have hnormal := o.normal_resolved place
  intro t
  obtain ⟨r, t₁, hprepare, hallow⟩ := within_prepare (o := o.resolved place) rfl hnormal place t
  cases r with
  | error e =>
    have hallow' : ((o.resolved place).bounds place files).Allow t t₁ := by
      intro q
      exact (hallow q).mono id .inl fun _ hfalse => hfalse.elim
    cases he : e.isRefusal with
    | false => exact ⟨_, t₁, Options.writeTo_of_broken hprepare he files, hallow'⟩
    | true => exact ⟨_, t₁, Options.writeTo_of_refused hprepare he files, hallow'⟩
  | ok u =>
    obtain ⟨log, hprepared⟩ := hprepare []
    have hthere := (ready_of_prepare hprepared).stands.directory
    let b : Bounds :=
      { (o.resolved place).bounds place files with written := ((o.resolved place).writing place files).written }
    have hall : Within b ((o.resolved place).writeAll place files) := by
      apply (within_writeAll rfl hnormal place files).mono
      intro q e e' h
      exact h.mono (fun hfalse => hfalse.elim) .inr fun _ => id
    have hmanifest (records : List FileRecord) : Within b ((o.resolved place).writeManifest place records) := by
      apply (within_writeManifest rfl hnormal place records).mono
      intro q e e' h
      exact h.mono id .inl fun _ hfalse => hfalse.elim
    have hrest : Within b ((o.resolved place).writeInto place files) := by
      refine hall.bind fun found => (Within.report _).bind fun _ => ?_
      split
      · exact (hmanifest _).bind fun _ => .pure _
      · exact (Within.pure _).bind fun _ => .pure _
    obtain ⟨r, t₂, hleads, hallow'⟩ := hrest t₁
    exact ⟨r, t₂, writeTo_of_prepared hprepare hleads, allow_of_directory hallow hthere hallow'⟩

end Options

/-- An export does the same whatever has been reported before. -/
theorem run_within {o : Options} (hnull : o.directory.hasNull = false) (place : Place)
    (files : List (String × String)) :
    Within ((o.resolved place).bounds place files) (run place o files) := by
  rw [run, hnull, if_neg Bool.false_ne_true]
  exact (Within.report _).bind fun _ => ((o.within_writeTo place files).timed _).bind fun r =>
    (Within.report _).bind fun _ => .pure r

namespace Options

variable {o : Options} {place : Place} {q : FilePath} {name : String}

theorem join_descends (h : Descends name) (hdir : o.directory = .atPath o.directory.parts)
    (hnormal : Normal o.directory.parts) :
    o.directory.join name = .atPath (o.directory.parts ++ parts name) ∧
      Normal (o.directory.parts ++ parts name) := by
  constructor
  · rw [join_of_relative _ h.relative, hdir]
    rfl
  · intro c hc
    rcases List.mem_append.1 hc with hc | hc
    · exact hnormal c hc
    · refine ⟨(isPart_of_mem hc).ne_empty, (isPart_of_mem hc).ne_dot, ?_⟩
      rintro rfl
      exact h.not_up hc

/-- So it changes nothing but what is below the directory, or above it. -/
theorem prefix_of_crosses (h : Descends name) (hdir : o.directory = .atPath o.directory.parts)
    (hnormal : Normal o.directory.parts) (hq : ¬Below o.directory.parts q) (hcross : o.Crosses place name q) :
    q <+: o.directory.parts := by
  obtain ⟨hjoin, hpath⟩ := join_descends h hdir hnormal
  rw [Crosses, hjoin] at hcross
  have hway := Place.prefix_of_passes hpath (Place.Passes.of_parent hcross)
  rcases List.prefix_or_prefix_of_prefix hway (List.prefix_append _ (parts name)) with habove | hbelow
  · exact habove
  · by_contra hnot
    apply hq
    refine ⟨hbelow, ?_⟩
    rintro rfl
    exact hnot (List.prefix_refl _)

theorem below_destination (h : Descends name) (hdir : o.directory = .atPath o.directory.parts)
    (hnormal : Normal o.directory.parts) (place : Place) : o.directory.parts <+: o.destination place name := by
  obtain ⟨hjoin, hpath⟩ := join_descends h hdir hnormal
  rw [destination, hjoin, absolute_atPath hpath]
  exact List.prefix_append _ _

end Options

/-- Outside the output directory, an export makes missing directories above it or on the way to a file, and
writes a file only to where its name leads from the directory, in place of no directory; it removes nothing.
With relative names without `..`, it makes the directories above the output directory and changes nothing else
there. -/
theorem run_confined (o : Options) (place : Place) (files : List (String × String)) (t : Tree)
    (log : List Log.Event) :
    ∃ e w, run place o files ⟨t, log⟩ = finish e w ∧
      ∀ q, ¬Below (o.resolved place).directory.parts q →
        (w.tree.get? q = t.get? q ∨
          (t.get? q = none ∧ w.tree.get? q = some .directory ∧
            (q <+: (o.resolved place).directory.parts ∨ ∃ f ∈ files, (o.resolved place).Crosses place f.1 q)) ∨
          ∃ f ∈ files, q = (o.resolved place).destination place f.1 ∧ t.get? q ≠ some .directory ∧
            w.tree.get? q = some (.file f.2.toUTF8)) ∧
        ((∀ f ∈ files, Descends f.1) →
          w.tree.get? q = t.get? q ∨
            t.get? q = none ∧ w.tree.get? q = some .directory ∧ q <+: (o.resolved place).directory.parts) := by
  cases hnull : o.directory.hasNull with
  | true =>
    refine ⟨.error .nullByte, ⟨t, log⟩, ?_, fun q _ => ⟨.inl rfl, fun _ => .inl rfl⟩⟩
    rw [run, hnull]
    rfl
  | false =>
    obtain ⟨e, t', hleads, hallow⟩ := run_within hnull place files t
    obtain ⟨log', hrun⟩ := hleads log
    refine ⟨e, ⟨t', log'⟩, hrun, ?_⟩
    intro q hq
    have hnormal := o.normal_resolved place
    have hchange := hallow q
    generalize t'.get? q = after at hchange ⊢
    generalize t.get? q = before at hchange ⊢
    cases hchange with
    | free hbelow => exact absurd hbelow hq
    | same => exact ⟨.inl rfl, fun _ => .inl rfl⟩
    | made hmade =>
      refine ⟨.inr (.inl ⟨rfl, rfl, hmade⟩), ?_⟩
      intro hdescend
      rcases hmade with habove | ⟨f, hf, hcross⟩
      · exact .inr ⟨rfl, rfl, habove⟩
      · exact .inr ⟨rfl, rfl, Options.prefix_of_crosses (hdescend f hf) rfl hnormal hq hcross⟩
    | written hwritten hbefore =>
      obtain ⟨hne, f, hf, hdestination, rfl⟩ := hwritten
      refine ⟨.inr (.inr ⟨f, hf, hdestination, hbefore, rfl⟩), ?_⟩
      intro hdescend
      have hbelow := Options.below_destination (hdescend f hf) rfl hnormal place
      exact absurd ⟨hdestination ▸ hbelow, hne⟩ hq

/-- A file beside the output directory stays as it is. -/
theorem run_confined_beside :
    let files := [("client.ts", "client"), ("lib/api.ts", "api")]
    let t : Tree := ⟨[(["client.ts"], .file "mine".toUTF8)]⟩
    (¬Below ["out"] ["client.ts"] ∧ ∀ f ∈ files, Descends f.1) ∧
      ∃ e w, run {} { directory := .ofText "out", timestamp := "now" } files ⟨t, []⟩ = finish e w ∧
        w.tree.get? ["client.ts"] = some (.file "mine".toUTF8) := by
  intro files t
  have houtside : ¬Below ["out"] ["client.ts"] := by decide
  have hdescend : ∀ f ∈ files, Descends f.1 := by decide +kernel
  obtain ⟨e, w, hrun, hconfined⟩ := run_confined { directory := .ofText "out", timestamp := "now" } {} files t []
  refine ⟨⟨houtside, hdescend⟩, e, w, hrun, ?_⟩
  rcases (hconfined ["client.ts"] houtside).2 hdescend with hsame | ⟨hnone, -⟩
  · exact hsame
  · cases hnone

/-- Settings that name a file beside the output directory, a service without methods, and short templates. -/
def escapingSettings : Overrides := [("client_file", .text "../client.ts"), ("template_dir", .text "/t")]

def escapingConfig : Config := { clientFile := "../client.ts", templateDir := some "/t" }

def escapingSet : DescriptorSet := { files := [⟨"depot.proto", "", [], [⟨"Depot", "", "depot.proto", []⟩]⟩] }

def escapingTree : Tree :=
  ⟨[(["t"], .directory), (["t", "client.ts.jinja"], .file "theirs".toUTF8),
    (["t", "api.ts.jinja"], .file "api".toUTF8), (["t", "index.ts.jinja"], .file "index".toUTF8),
    (["out"], .directory), (["client.ts"], .file "mine".toUTF8)]⟩

def escapingRun : EStateM.Result Failure World Generation.Report :=
  Generation.ofDescriptors {} {} escapingSet escapingConfig (.ofText "out") ⟨escapingTree, []⟩

theorem not_confined_up :
    Config.build [some escapingSettings] = .ok escapingConfig ∧ ¬["out"] <+: ["client.ts"] ∧
      escapingTree.get? ["client.ts"] = some (.file "mine".toUTF8) ∧
      ∃ r w, escapingRun = .ok r w ∧ r.success = true ∧
        w.tree.get? ["client.ts"] = some (.file "theirs".toUTF8) ∧ "mine".toUTF8 ≠ "theirs".toUTF8 := by
  have hend : (match escapingRun with
      | .ok r w => (r.success, w.tree.get? ["client.ts"])
      | .error _ _ => (false, none)) = (true, some (.file "theirs".toUTF8)) := by
    decide +kernel
  refine ⟨by decide +kernel, by decide, by decide +kernel, ?_⟩
  cases hrun : escapingRun with
  | error f w =>
    rw [hrun] at hend
    cases hend
  | ok r w =>
    rw [hrun] at hend
    obtain ⟨hsuccess, hfile⟩ := Prod.mk.injEq _ _ _ _ ▸ hend
    exact ⟨r, w, rfl, hsuccess, hfile, by decide +kernel⟩

end RpcBindings.Export
