import RpcBindings.Proofs.Export.Again
import RpcBindings.Proofs.Files.Refused

namespace RpcBindings.Export

open RpcBindings.Files
open RpcBindings.Path
open RpcBindings.Files.Action
open RpcBindings.Files.Tree (Below UnderKept)

/-- The export came to writing its manifest, and wrote it. -/
structure Result.HasManifest (r : Result) (o : Options) : Prop where
  wanted : o.manifest = true
  unwarned : r.warnings = []
  unaborted : ∀ e, .aborted e ∉ r.errors

/-- What an export has made of the output directory: it holds what it held under the names that are kept, the
files that have a record, the manifest if that was written, and nothing else. Outside it, missing directories on
the way to it may be new. -/
structure Contents (o : Options) (files : List (String × String)) (r : Result) (t t' : Tree) : Prop where
  kept : ∀ q, Below o.directory.parts q → UnderKept o.directory.parts keptNames q → t'.get? q = t.get? q
  recorded : ∀ record ∈ r.manifest.files, ∃ file ∈ files, record = o.recordOf file ∧
    t'.get? (o.pathOf file.1) = some (.file file.2.toUTF8)
  manifest : r.HasManifest o →
    t'.get? (o.pathOf manifestName) = some (.file (r.manifest.stamped o.timestamp.written).text.toUTF8)
  gone : ∀ q, Below o.directory.parts q → ¬UnderKept o.directory.parts keptNames q →
    (∀ record ∈ r.manifest.files, q ≠ o.pathOf record.name) → ¬(r.HasManifest o ∧ q = o.pathOf manifestName) →
      t'.get? q = none
  outside : ∀ q, ¬Below o.directory.parts q →
    t'.get? q = t.get? q ∨ t.get? q = none ∧ t'.get? q = some .directory ∧ q <+: o.directory.parts

namespace Options

variable {o : Options} {place : Place} {t t₁ t₂ : Tree} {name : String} {files : List (String × String)}
  {records : List FileRecord} {failed : List Failed} {told : List String} {q : FilePath}

theorem below_pathOf (o : Options) (name : String) : Below o.directory.parts (o.pathOf name) :=
  Tree.below_concat o.directory.parts name

theorem ne_pathOf_of_kept (hq : UnderKept o.directory.parts keptNames q) (hname : name ∉ keptNames) :
    q ≠ o.pathOf name := by
  rintro rfl
  exact hname (Tree.underKept_append.1 hq)

/-- Nothing is left below the directory but what cleaning keeps. -/
structure Emptied (o : Options) (t t₁ : Tree) : Prop where
  kept : ∀ q, Below o.directory.parts q → UnderKept o.directory.parts keptNames q → t₁.get? q = t.get? q
  gone : ∀ q, Below o.directory.parts q → ¬UnderKept o.directory.parts keptNames q → t₁.get? q = none
  outside : ∀ q, ¬Below o.directory.parts q →
    t₁.get? q = t.get? q ∨ t.get? q = none ∧ t₁.get? q = some .directory ∧ q <+: o.directory.parts

theorem Changes.emptied (h : o.Changes t t₁)
    (hgone : ∀ q, Below o.directory.parts q → ¬UnderKept o.directory.parts keptNames q → t₁.get? q = none) :
    o.Emptied t t₁ where
  kept q hbelow hkept := by
    rcases h q with hsame | ⟨hswept, -⟩ | ⟨-, -, habove⟩
    · exact hsame
    · exact absurd hkept hswept.2.2
    · exact absurd habove hbelow.not_prefix
  gone := hgone
  outside q hq := by
    rcases h q with hsame | ⟨hswept, -⟩ | hmade
    · exact .inl hsame
    · exact absurd hswept.2.1 hq
    · exact .inr hmade

/-- Where there is nothing to remove, nothing is left. -/
theorem Changes.emptied_of_bare (h : o.Changes t t₁)
    (hbare : ∀ q, Below o.directory.parts q → ¬UnderKept o.directory.parts keptNames q → t.get? q = none) :
    o.Emptied t t₁ := by
  apply h.emptied
  intro q hbelow hkept
  rcases h q with hsame | ⟨-, hgone⟩ | ⟨-, -, habove⟩
  · rw [hsame, hbare q hbelow hkept]
  · exact hgone
  · exact absurd habove hbelow.not_prefix

def Removable (o : Options) (place : Place) (t : Tree) : Prop :=
  ∀ name e, name ∉ keptNames → t.get? (o.pathOf name) = some e →
    place.locate t (.atPath (o.pathOf name)) = .ok (o.pathOf name)

theorem removable_of_entries
    (h : ∀ x ∈ t.entries, Below o.directory.parts x.1 → place.locate t (.atPath x.1) = .ok x.1) :
    o.Removable place t := by
  intro name e _ he
  exact h _ (Tree.mem_of_get? he (List.append_ne_nil_of_right_ne_nil _ (List.cons_ne_nil name [])))
    (o.below_pathOf name)

theorem Anchored.stands_of_locate (h : o.Anchored) (hthere : t.get? o.directory.parts = some .directory)
    (hlocate : place.locate t (.atPath (o.pathOf name)) = .ok (o.pathOf name)) :
    place.Stands t o.directory.parts := by
  obtain ⟨hnull, hshort, hwalk⟩ := Place.locate_eq_ok_iff.1 hlocate
  rw [components_atPath, pathOf, Tree.walk_append_singleton] at hwalk
  obtain ⟨p, hfront, -⟩ := bind_eq_ok.1 hwalk
  obtain rfl := Tree.walk_eq_ok h.normal hfront
  refine ⟨h.normal, Place.locate_eq_ok_iff.2 ⟨?_, ?_, ?_⟩, hthere⟩
  · rw [hasNull_eq_false_iff] at hnull ⊢
    exact fun c hc => hnull c (List.mem_append_left _ hc)
  · exact Nat.lt_of_le_of_lt (size_text_front _ name) hshort
  · rwa [components_atPath]

/-- Either the directory stands, or there is nothing in it to remove. -/
theorem Removable.stands_or_bare (hremovable : o.Removable place t) (h : o.Anchored) (hs : t.Sound)
    (hdir : t.get? o.directory.parts = none ∨ t.get? o.directory.parts = some .directory) :
    place.Stands t o.directory.parts ∨
      ∀ q, Below o.directory.parts q → ¬UnderKept o.directory.parts keptNames q → t.get? q = none := by
  rcases hdir with hnone | hthere
  · exact .inr fun q hbelow _ => hs.get?_below hbelow (by simp [hnone])
  · by_cases hreached : ∃ name, name ∉ keptNames ∧ t.get? (o.pathOf name) ≠ none
    · obtain ⟨name, hname, hsome⟩ := hreached
      obtain ⟨e, he⟩ := Option.ne_none_iff_exists'.1 hsome
      exact .inl (h.stands_of_locate hthere (hremovable name e hname he))
    · push Not at hreached
      refine .inr fun q hbelow hkept => ?_
      obtain ⟨⟨more, rfl⟩, hne⟩ := hbelow
      cases more with
      | nil => exact absurd (List.append_nil _) hne
      | cons name rest =>
        have hfree := hreached name (mt Tree.underKept_append.2 hkept)
        cases rest with
        | nil => exact hfree
        | cons c rest =>
          have hbelow : Below (o.pathOf name) (o.directory.parts ++ name :: c :: rest) :=
            ⟨⟨c :: rest, by simp [pathOf]⟩, by simp [pathOf]⟩
          exact hs.get?_below hbelow (by simp [hfree])

theorem refusing_cleanUp (hnull : o.directory.hasNull = false) (place : Place) :
    Refusing (o.cleanUp place) := by
  rw [cleanUp]
  split
  · refine .bind (.look fun t e he => Place.entry?_isRefusal (map_eq_error he)) fun there => ?_
    split
    · refine .bind (.report _) fun _ => .change fun t e he => ?_
      rcases bind_eq_error.1 he with hstat | ⟨found, -, he⟩
      · exact Place.isRefusal_of_stat hnull hstat
      · cases found with
        | directory => cases he
        | file content =>
          cases he
          rfl
    · exact .pure ()
  · exact .pure ()

theorem refusing_prepare (hnull : o.directory.hasNull = false) (place : Place) :
    Refusing (o.prepare place) :=
  (refusing_cleanUp hnull place).bind fun _ => Place.refusing_makeDirectories hnull place _

/-- What comes of preparing a directory that is to be cleaned. -/
inductive Emptying (o : Options) (place : Place) (t : Tree) : Except Error Unit → Tree → Prop where
  | ready {t₁ : Tree} (hready : o.Ready place t₁) (h : o.Emptied t t₁) : Emptying o place t (.ok ()) t₁
  | refused {t₁ : Tree} {e : Error} (he : e.isRefusal = true) (h : o.Emptied t t₁) :
      Emptying o place t (.error e) t₁

theorem prepare_emptying (h : o.Anchored) (hs : t.Sound) (hclean : o.clean = true)
    (hnull : o.directory.hasNull = false)
    (hdir : t.get? o.directory.parts = none ∨ t.get? o.directory.parts = some .directory)
    (hremovable : o.Removable place t) :
    ∃ r t₁, Leads (o.prepare place) t r t₁ ∧ o.Emptying place t r t₁ := by
  rcases hremovable.stands_or_bare h hs hdir with hstands | hbare
  · have hready : o.Ready place t := ⟨h.absolute, hstands⟩
    obtain ⟨t₁, hprepare, hready', hswept⟩ := hready.prepare_again
    have hchanges : o.Changes t t₁ := by
      intro q
      by_cases hq : Swept o.clean o.directory.parts q
      · exact .inr (.inl ⟨hq, (hswept q).trans (if_pos hq)⟩)
      · exact .inl ((hswept q).trans (if_neg hq))
    refine ⟨.ok (), t₁, hprepare, .ready hready' (hchanges.emptied ?_)⟩
    intro q hbelow hkept
    exact (hswept q).trans (if_pos ⟨hclean, hbelow, hkept⟩)
  · obtain ⟨r, t₁, hprepare, hprepared⟩ := prepare_prepared h hs place
    obtain ⟨r', t₁', hprepare', hrefused⟩ := refusing_prepare hnull place t
    obtain ⟨rfl, rfl⟩ := hprepare.unique hprepare'
    refine ⟨r, t₁, hprepare, ?_⟩
    cases hprepared with
    | ready hready hchanges hswept => exact .ready hready (hchanges.emptied_of_bare hbare)
    | unchanged e => exact .refused (hrefused e rfl) ((Changes.refl o t).emptied_of_bare hbare)
    | stuck hstuck hchanges => exact .refused (hrefused _ rfl) (hchanges.emptied_of_bare hbare)

/-- An export that could not prepare its directory wrote nothing. -/
theorem Emptied.aborted (h : o.Emptied t t₁) (e : Error) (files : List (String × String)) :
    Contents o files { manifest := o.manifestOf [], errors := [.aborted e] } t t₁ where
  kept := h.kept
  recorded := List.forall_mem_nil _
  manifest hmanifest := absurd List.mem_cons_self (hmanifest.unaborted e)
  gone q hbelow hkept _ _ := h.gone q hbelow hkept
  outside := h.outside

theorem Emptied.contents (h : o.Emptied t t₁) (hnames : (files.map (·.1)).Nodup)
    (hother : ∀ f ∈ files, f.1 ∉ keptNames ∧ f.1 ≠ manifestName)
    (hwritten : o.Written t₁ files records failed t₂) {t₃ : Tree} (hlast : o.Last t₂ records told t₃) :
    Contents o files { manifest := o.manifestOf records, errors := failed, warnings := told } t t₃ := by
  have hunaborted : ∀ e, .aborted e ∉ failed := by
    intro e he
    obtain ⟨file, -, e', heq⟩ := hwritten.failed_mem he
    cases heq
  have hrecorded : ∀ record ∈ records, record.name ∉ keptNames ∧ record.name ≠ manifestName := by
    intro record hrecord
    obtain ⟨file, hfile, rfl, -⟩ := hwritten.record_mem hnames hrecord
    exact hother file hfile
  constructor
  · intro q hbelow hkept
    rw [hlast.get?_of_ne (ne_pathOf_of_kept hkept (by decide)), hwritten.get?_of_unrecorded, h.kept q hbelow hkept]
    intro record hrecord
    exact ne_pathOf_of_kept hkept (hrecorded record hrecord).1
  · intro record hrecord
    obtain ⟨file, hfile, heq, hthere⟩ := hwritten.record_mem hnames hrecord
    exact ⟨file, hfile, heq, (hlast.get?_of_ne (mt pathOf_inj.1 (hother file hfile).2)).trans hthere⟩
  · intro hmanifest
    exact hlast.get?_manifest hmanifest.wanted hmanifest.unwarned
  · intro q hbelow hkept hunrecorded hunnamed
    have hgone : t₂.get? q = none := (hwritten.get?_of_unrecorded hunrecorded).trans (h.gone q hbelow hkept)
    cases hlast with
    | left _ hsame => exact (hsame q).trans hgone
    | written hwanted hthere =>
      have hq : q ≠ o.pathOf manifestName := fun heq => hunnamed ⟨⟨hwanted, rfl, hunaborted⟩, heq⟩
      exact (hthere q).trans ((if_neg hq).trans hgone)
  · intro q hbelow
    have hne (name : String) : q ≠ o.pathOf name := by
      rintro rfl
      exact hbelow (o.below_pathOf name)
    rw [hlast.get?_of_ne (hne _), hwritten.get?_of_unrecorded fun record _ => hne record.name]
    exact h.outside q hbelow

theorem writeTo_contents (h : o.Anchored) (hs : t.Sound) (hclean : o.clean = true)
    (hnull : o.directory.hasNull = false)
    (hdir : t.get? o.directory.parts = none ∨ t.get? o.directory.parts = some .directory)
    (hremovable : o.Removable place t) (hnames : (files.map (·.1)).Nodup)
    (hplain : ∀ f ∈ files, IsFileName f.1 ∧ f.1 ∉ keptNames ∧ f.1 ≠ manifestName) :
    ∃ r t', Leads (o.writeTo place files) t (.ok r) t' ∧ Contents o files r t t' := by
  obtain ⟨p, t₁, hprepare, hemptying⟩ := prepare_emptying h hs hclean hnull hdir hremovable
  cases hemptying with
  | @refused t₁ e he hemptied =>
    exact ⟨_, t₁, writeTo_of_refused hprepare he files, hemptied.aborted e files⟩
  | ready hready hemptied =>
    obtain ⟨records, failed, t₂, hall, hwritten, hready⟩ := writeAll_written (fun f hf => (hplain f hf).1) hready
    obtain ⟨told, t₃, hwrite, hlast⟩ := writeLast_last hready records
    exact ⟨_, t₃, writeTo_of_prepared hprepare (leads_writeInto hall hwrite),
      hemptied.contents hnames (fun f hf => (hplain f hf).2) hwritten hlast⟩

end Options

variable {o : Options} {place : Place} {t : Tree} {files : List (String × String)}

/-- After an export that cleans, the output directory has these contents, whatever was in it, if what is to be
removed can be reached. -/
theorem run_contents (hs : t.Sound) (hclean : o.clean = true)
    (hnull : ∀ c ∈ o.directory.components place.cwd, '\x00' ∉ c.toList)
    (hdir : t.get? (o.resolved place).directory.parts = none ∨
      t.get? (o.resolved place).directory.parts = some .directory)
    (hremovable : (o.resolved place).Removable place t) (hnames : (files.map (·.1)).Nodup)
    (hplain : ∀ f ∈ files, IsFileName f.1 ∧ f.1 ∉ keptNames ∧ f.1 ≠ manifestName) (log : List Log.Event) :
    ∃ r w, run place o files ⟨t, log⟩ = .ok r w ∧ Contents (o.resolved place) files r t w.tree := by
  have hgiven : o.directory.hasNull = false := by
    rw [hasNull_eq_false_iff]
    intro c hc
    apply hnull
    rw [Location.components]
    split
    · exact List.mem_append_right _ hc
    · exact hc
  have hresolved : (o.resolved place).directory.hasNull = false := by
    rw [hasNull_eq_false_iff]
    intro c hc
    exact hnull c ((mem_of_mem_enter hc).resolve_left List.not_mem_nil)
  obtain ⟨r, t', hwrite, hcontents⟩ :=
    Options.writeTo_contents (o.anchored_resolved place) hs hclean hresolved hdir hremovable hnames hplain
  obtain ⟨log', hrun⟩ := leads_run hgiven hwrite log
  exact ⟨r, ⟨t', log'⟩, hrun, hcontents⟩

/-- Settings that clean a directory in which there are others in place of a file and of the manifest. -/
def cleaning : Options := { directory := .ofText "../out", clean := true, timestamp := "now" }

def cluttered : Tree :=
  ⟨[(["main.ts"], .file "mine".toUTF8), (["out"], .directory), (["out", ".git"], .directory),
    (["out", ".git", "config"], .file "kept".toUTF8), (["out", "old"], .directory),
    (["out", "old", ".gitkeep"], .file "stale".toUTF8), (["out", "api.ts"], .directory),
    (["out", "api.ts", "old.ts"], .file "stale".toUTF8), (["out", "manifest.json"], .directory)]⟩

theorem run_contents_cluttered :
    (cluttered.Sound ∧ (cleaning.resolved ⟨["srv"]⟩).Removable ⟨["srv"]⟩ cluttered) ∧
      ∃ r w, run ⟨["srv"]⟩ cleaning [("api.ts", "a"), ("index.ts", "b")] ⟨cluttered, []⟩ = .ok r w ∧
        Contents (cleaning.resolved ⟨["srv"]⟩) [("api.ts", "a"), ("index.ts", "b")] r cluttered w.tree ∧
        w.tree.get? ["out", ".git", "config"] = some (.file "kept".toUTF8) := by
  have hsound : cluttered.Sound := Tree.sound_of_entries (by decide +kernel)
  have hremovable : (cleaning.resolved ⟨["srv"]⟩).Removable ⟨["srv"]⟩ cluttered :=
    Options.removable_of_entries (by decide +kernel)
  have hplain : ∀ f ∈ [("api.ts", "a"), ("index.ts", "b")],
      IsFileName f.1 ∧ f.1 ∉ keptNames ∧ f.1 ≠ manifestName := by
    decide
  obtain ⟨r, w, hrun, hcontents⟩ := run_contents (o := cleaning) hsound (by rfl) (by decide) (by decide +kernel)
    hremovable (by decide) hplain []
  refine ⟨⟨hsound, hremovable⟩, r, w, hrun, hcontents, ?_⟩
  rw [hcontents.kept _ (by decide +kernel) (by decide +kernel)]
  decide +kernel

end RpcBindings.Export
