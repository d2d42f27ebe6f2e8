import RpcBindings.Proofs.Export.Written
import RpcBindings.Proofs.Files.Sound

namespace RpcBindings.Export

open RpcBindings.Files
open RpcBindings.Path
open RpcBindings.Files.Action
open RpcBindings.Files.Tree (Below UnderKept)

def Swept (clean : Bool) (dir q : FilePath) : Prop := clean = true ∧ Below dir q ∧ ¬UnderKept dir keptNames q

instance (clean : Bool) (dir q : FilePath) : Decidable (Swept clean dir q) :=
  inferInstanceAs (Decidable (_ ∧ _ ∧ _))

namespace Options

variable {o : Options} {place : Place} {t t₁ t₂ : Tree} {q : FilePath}

/-- The output directory is given by an absolute path without `..`. -/
structure Anchored (o : Options) : Prop where
  absolute : o.directory = .atPath o.directory.parts
  normal : Normal o.directory.parts

theorem anchored_resolved (o : Options) (place : Place) : (o.resolved place).Anchored :=
  ⟨rfl, normal_enter (List.forall_mem_nil _) _⟩

theorem not_swept_above (hq : q <+: o.directory.parts) : ¬Swept o.clean o.directory.parts q := by
  rintro ⟨-, hbelow, -⟩
  exact hbelow.not_prefix hq

/-- What comes of cleaning. -/
inductive Cleaned (o : Options) (place : Place) (t : Tree) : Except Error Unit → Tree → Prop where
  | left (h : o.clean = true → place.exists? t o.directory = .ok false) : Cleaned o place t (.ok ()) t
  | swept {t₁ : Tree} (hstands : place.Stands t o.directory.parts)
      (h : ∀ q, t₁.get? q = if Swept o.clean o.directory.parts q then none else t.get? q) :
      Cleaned o place t (.ok ()) t₁
  | failed (e : Error) : Cleaned o place t (.error e) t

theorem get?_swept (hclean : o.clean = true) (t : Tree) (q : FilePath) :
    (t.eraseBelow o.directory.parts keptNames).get? q =
      if Swept o.clean o.directory.parts q then none else t.get? q := by
  rw [Tree.get?_eraseBelow]
  exact if_congr (and_iff_right hclean).symm rfl rfl

theorem Anchored.ends_sweep (h : o.Anchored) (hclean : o.clean = true)
    (hexists : place.exists? t o.directory = .ok true) (hstat : place.stat t o.directory = .ok .directory) :
    Leads (o.cleanUp place) t (.ok ()) (t.eraseBelow o.directory.parts keptNames) := by
  have hlook := Ends.look (fun t => place.exists? t o.directory) (t := t)
  rw [hexists] at hlook
  rw [cleanUp, hclean, if_pos rfl]
  refine Leads.bind hlook ((Leads.report _).bind (.change_ok ?_))
  rw [hstat, h.absolute, components_atPath]
  rfl

theorem ends_unswept (hclean : o.clean = false) (place : Place) (t : Tree) :
    Ends (o.cleanUp place) t (.ok ()) := by
  rw [cleanUp, hclean, if_neg Bool.false_ne_true]
  exact .pure ()

theorem not_swept (hclean : o.clean = false) (q : FilePath) : ¬Swept o.clean o.directory.parts q := by
  rintro ⟨htrue, -⟩
  rw [hclean] at htrue
  cases htrue

theorem cleanUp_cleaned (h : o.Anchored) (place : Place) (t : Tree) :
    ∃ r t₁, Leads (o.cleanUp place) t r t₁ ∧ o.Cleaned place t r t₁ := by
  cases hclean : o.clean with
  | false =>
    refine ⟨.ok (), t, ends_unswept hclean place t, .left ?_⟩
    intro htrue
    rw [hclean] at htrue
    cases htrue
  | true =>
    have hlook := Ends.look (fun t => place.exists? t o.directory) (t := t)
    cases hexists : place.exists? t o.directory with
    | error e =>
      rw [hexists] at hlook
      refine ⟨.error e, t, ?_, .failed e⟩
      rw [cleanUp, hclean, if_pos rfl]
      exact hlook.bind_error _
    | ok there =>
      cases there with
      | false =>
        rw [hexists] at hlook
        refine ⟨.ok (), t, ?_, .left fun _ => hexists⟩
        rw [cleanUp, hclean, if_pos rfl]
        exact hlook.bind (Ends.pure ())
      | true =>
        obtain ⟨found, hstat⟩ := Place.exists?_eq_true_iff.1 hexists
        cases found with
        | directory =>
          refine ⟨_, _, h.ends_sweep hclean hexists hstat, .swept ?_ (get?_swept hclean t)⟩
          rw [h.absolute] at hstat
          exact Place.stands_of_isDirectory h.normal (Place.isDirectory?_eq_true_iff.2 hstat)
        | file content =>
          rw [hexists] at hlook
          refine ⟨.error (.refused .notDirectory o.directory.text none), t, ?_, .failed _⟩
          rw [cleanUp, hclean, if_pos rfl]
          refine Leads.bind hlook ((Leads.report _).bind (.change_error ?_))
          rw [hstat]
          rfl

/-- What preparing may change: it removes what cleaning removes, and makes missing directories above the output
directory and that one. -/
def Changes (o : Options) (t t₁ : Tree) : Prop :=
  ∀ q, t₁.get? q = t.get? q ∨ (Swept o.clean o.directory.parts q ∧ t₁.get? q = none) ∨
    t.get? q = none ∧ t₁.get? q = some .directory ∧ q <+: o.directory.parts

theorem Changes.refl (o : Options) (t : Tree) : o.Changes t t := fun _ => .inl rfl

/-- What comes of preparing. -/
inductive Prepared (o : Options) (place : Place) (t : Tree) : Except Error Unit → Tree → Prop where
  | ready {t₁ : Tree} (hready : o.Ready place t₁) (hchanges : o.Changes t t₁)
      (hswept : ∀ q, Swept o.clean o.directory.parts q → t₁.get? q = none) : Prepared o place t (.ok ()) t₁
  | unchanged (e : Error) : Prepared o place t (.error e) t
  | stuck {t₁ : Tree} {e : Error} (h : Place.Stuck t t₁ o.directory.parts e) (hchanges : o.Changes t t₁) :
      Prepared o place t (.error e) t₁

/-- Where the directory was missing, there is nothing to remove. -/
theorem Changes.get?_swept_of_missing (hchanges : o.Changes t t₁) (hs : t.Sound)
    (hmissing : t.get? o.directory.parts ≠ some .directory) (hq : Swept o.clean o.directory.parts q) :
    t₁.get? q = none := by
  rcases hchanges q with hsame | ⟨-, hgone⟩ | ⟨-, -, habove⟩
  · rw [hsame, hs.get?_below hq.2.1 hmissing]
  · exact hgone
  · exact absurd hq (not_swept_above habove)

theorem Cleaned.prepared (hcleaned : o.Cleaned place t (.ok ()) t₁) (h : o.Anchored) (hs : t.Sound) :
    ∃ r t₂, Leads (place.ensure o.directory) t₁ r t₂ ∧ o.Prepared place t r t₂ := by
  rw [h.absolute]
  cases hcleaned with
  | swept hstands hswept =>
    have hstands₁ : place.Stands t₁ o.directory.parts := by
      apply hstands.congr
      intro q hq
      rw [hswept, if_neg (not_swept_above hq)]
    refine ⟨_, t₁, hstands₁.ends_ensure, .ready ⟨h.absolute, hstands₁⟩ ?_ ?_⟩
    · intro q
      rw [hswept]
      by_cases hq : Swept o.clean o.directory.parts q
      · rw [if_pos hq]
        exact .inr (.inl ⟨hq, rfl⟩)
      · rw [if_neg hq]
        exact .inl rfl
    · intro q hq
      rw [hswept, if_pos hq]
  | left hleft =>
    obtain ⟨r, t₂, hmake, hmade⟩ := place.makeDirectories_made hs h.normal o.directory.parts.length
    have hchanges : o.Changes t t₂ := by
      intro q
      exact (Place.makeDirectories_changes h.normal hmake q).imp_right .inr
    refine ⟨r, t₂, hmake, ?_⟩
    cases hmade with
    | unchanged e => exact .unchanged e
    | stuck hstuck => exact .stuck hstuck hchanges
    | made =>
      obtain ⟨log, hrun⟩ := hmake []
      have hstands := Place.makeDirectories_ok h.normal hrun
      refine .ready ⟨h.absolute, hstands⟩ hchanges fun q hq => ?_
      apply hchanges.get?_swept_of_missing hs _ hq
      intro hthere
      have hexists := Place.exists?_eq_true_iff.2 ⟨_, (hstands.before hs hthere).stat⟩
      rw [← h.absolute, hleft hq.1] at hexists
      cases hexists

theorem prepare_prepared (h : o.Anchored) (hs : t.Sound) (place : Place) :
    ∃ r t₁, Leads (o.prepare place) t r t₁ ∧ o.Prepared place t r t₁ := by
  obtain ⟨r, t₁, hclean, hcleaned⟩ := cleanUp_cleaned h place t
  cases r with
  | error e =>
    cases hcleaned with
    | failed => exact ⟨_, t, hclean.bind_error _, .unchanged e⟩
  | ok u =>
    obtain ⟨r, t₂, hensure, hprepared⟩ := hcleaned.prepared h hs
    exact ⟨r, t₂, hclean.bind hensure, hprepared⟩

/-- A directory that stands is swept and nothing else. -/
theorem Ready.prepare_again (h : o.Ready place t) : ∃ t₁, Leads (o.prepare place) t (.ok ()) t₁ ∧
    o.Ready place t₁ ∧ ∀ q, t₁.get? q = if Swept o.clean o.directory.parts q then none else t.get? q := by
  have hanchored : o.Anchored := ⟨h.absolute, h.stands.normal⟩
  obtain ⟨t₁, hclean, hswept⟩ : ∃ t₁, Leads (o.cleanUp place) t (.ok ()) t₁ ∧
      ∀ q, t₁.get? q = if Swept o.clean o.directory.parts q then none else t.get? q := by
    rcases Bool.eq_false_or_eq_true o.clean with hclean | hclean
    · have hstat : place.stat t o.directory = .ok .directory := h.absolute ▸ h.stands.stat
      have hexists : place.exists? t o.directory = .ok true := Place.exists?_eq_true_iff.2 ⟨_, hstat⟩
      exact ⟨_, hanchored.ends_sweep hclean hexists hstat, get?_swept hclean t⟩
    · refine ⟨t, ends_unswept hclean place t, ?_⟩
      intro q
      rw [if_neg (not_swept hclean q)]
  have hstands : place.Stands t₁ o.directory.parts := by
    apply h.stands.congr
    intro q hq
    rw [hswept, if_neg (not_swept_above hq)]
  refine ⟨t₁, hclean.bind ?_, ⟨h.absolute, hstands⟩, hswept⟩
  rw [h.absolute]
  exact hstands.ends_ensure

theorem prepare_stuck {e : Error} (h : o.Anchored) (hstuck : Place.Stuck t t₁ o.directory.parts e) (place : Place) :
    Ends (o.prepare place) t₁ (.error (.refused .nameTooLong o.directory.text none)) := by
  cases hclean : o.clean with
  | false =>
    have hensure := hstuck.ends_ensure place
    rw [← h.absolute] at hensure
    exact (ends_unswept hclean place t₁).bind hensure
  | true =>
    have hlook := Ends.look (fun t => place.exists? t o.directory) (t := t₁)
    rw [h.absolute, Place.exists?, Place.entry?_of_long (hstuck.locate place), ← h.absolute] at hlook
    have hfailed : Ends (o.cleanUp place) t₁ (.error (.refused .nameTooLong o.directory.text none)) := by
      rw [cleanUp, hclean, if_pos rfl]
      exact hlook.bind_error _
    exact hfailed.bind_error _

end Options

end RpcBindings.Export
