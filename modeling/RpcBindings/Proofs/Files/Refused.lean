import RpcBindings.Proofs.Files.Directories

namespace RpcBindings.Files

open RpcBindings.Path

namespace Action

/-- Whatever has been reported before, the step does the same, and it fails only if something is refused. -/
def Refusing (a : Action Error α) : Prop :=
  ∀ t, ∃ r t', Leads a t r t' ∧ ∀ e, r = .error e → e.isRefusal = true

namespace Refusing

theorem pure (v : α) : Refusing (pure v : Action Error α) := by
  intro t
  refine ⟨_, t, Ends.pure v, ?_⟩
  intro e he
  cases he

theorem throw {e : Error} (he : e.isRefusal = true) : Refusing (throw e : Action Error α) := by
  intro t
  refine ⟨_, t, Ends.throw e, ?_⟩
  intro e' h
  cases h
  exact he

theorem report (e : Log.Event) : Refusing (report e : Action Error Unit) := by
  intro t
  refine ⟨_, t, Leads.report e, ?_⟩
  intro e he
  cases he

theorem look {f : Tree → Except Error α} (h : ∀ t e, f t = .error e → e.isRefusal = true) : Refusing (look f) :=
  fun t => ⟨_, t, Leads.look t, h t⟩

theorem change {f : Tree → Except Error Tree} (h : ∀ t e, f t = .error e → e.isRefusal = true) :
    Refusing (change f) := by
  intro t
  cases hf : f t with
  | ok t' =>
    refine ⟨_, t', .change_ok hf, ?_⟩
    intro e he
    cases he
  | error e =>
    refine ⟨_, t, .change_error hf, ?_⟩
    intro e' he
    cases he
    exact h t e hf

theorem bind {a : Action Error α} {b : α → Action Error β} (ha : Refusing a) (hb : ∀ v, Refusing (b v)) :
    Refusing (a >>= b) := by
  intro t
  obtain ⟨r, t₁, h₁, hr⟩ := ha t
  cases r with
  | error e =>
    refine ⟨_, t₁, h₁.bind_error b, ?_⟩
    intro e' he
    cases he
    exact hr e rfl
  | ok v =>
    obtain ⟨r, t₂, h₂, hr⟩ := hb v t₁
    exact ⟨r, t₂, h₁.bind h₂, hr⟩

/-- What follows an attempt has to deal with refusals only. -/
theorem attempt_bind {a : Action Error α} {b : Except Error α → Action Error β} (ha : Refusing a)
    (hok : ∀ v, Refusing (b (.ok v))) (hfailed : ∀ e, e.isRefusal = true → Refusing (b (.error e))) :
    Refusing (attempt a >>= b) := by
  intro t
  obtain ⟨r, t₁, h₁, hr⟩ := ha t
  have hb : Refusing (b r) := by
    cases r with
    | ok v => exact hok v
    | error e => exact hfailed e (hr e rfl)
  obtain ⟨r', t₂, h₂, hr'⟩ := hb t₁
  exact ⟨r', t₂, h₁.attempt.bind h₂, hr'⟩

end Refusing

end Action

open RpcBindings.Files.Action

namespace Place

variable {place : Place} {t : Tree} {l : Location} {e : Error}

theorem isRefusal_of_locate (hnull : l.hasNull = false) (h : place.locate t l = .error e) : e.isRefusal = true := by
  rw [locate, hnull, if_neg Bool.false_ne_true] at h
  split at h
  · cases h
    rfl
  · cases hwalk : t.walk (l.components place.cwd) with
    | ok p =>
      rw [hwalk] at h
      cases h
    | error code =>
      rw [hwalk] at h
      cases h
      rfl

theorem isRefusal_of_stat (hnull : l.hasNull = false) (h : place.stat t l = .error e) : e.isRefusal = true := by
  rcases bind_eq_error.1 h with hlocate | ⟨p, -, h⟩
  · exact isRefusal_of_locate hnull hlocate
  · split at h
    · cases h
    · cases h
      rfl

theorem entry?_isRefusal (h : place.entry? t l = .error e) : e.isRefusal = true := by
  rw [Place.entry?] at h
  split at h
  · cases h
  · cases h
    rfl
  · cases h

theorem isRefusal_of_isDirectory? (h : place.isDirectory? t l = .error e) : e.isRefusal = true := by
  exact entry?_isRefusal (map_eq_error h)

theorem isRefusal_of_makeDirectory (hnull : l.hasNull = false) (h : place.makeDirectory t l = .error e) :
    e.isRefusal = true := by
  rcases bind_eq_error.1 h with hlocate | ⟨p, -, h⟩
  · exact isRefusal_of_locate hnull hlocate
  · split at h
    · cases h
      rfl
    · cases h

theorem refusing_keep (he : e.isRefusal = true) (place : Place) (l : Location) :
    Refusing (look (fun t => place.isDirectory? t l) >>= fun there => if there then pure () else throw e) := by
  refine .bind (.look fun t e => isRefusal_of_isDirectory?) fun there => ?_
  split
  · exact .pure ()
  · exact .throw he

theorem refusing_makeOrKeep (hnull : l.hasNull = false) (place : Place) : Refusing (place.makeOrKeep l) := by
  refine .attempt_bind (.change fun t e => isRefusal_of_makeDirectory hnull) (fun _ => .pure ()) fun e he => ?_
  cases e with
  | nullByte => cases he
  | undecodable fault => cases he
  | refused code path target =>
    cases code with
    | notFound => exact .throw he
    | busy | «exists» | notDirectory | isDirectory | nameTooLong => exact refusing_keep he place l

theorem refusing_makeDirectories (hnull : l.hasNull = false) (place : Place) (depth : Nat) :
    Refusing (place.makeDirectories depth l) := by
  induction depth generalizing l with
  | zero => exact refusing_makeOrKeep hnull place
  | succ depth ih =>
    refine .attempt_bind (.change fun t e => isRefusal_of_makeDirectory hnull) (fun _ => .pure ()) fun e he => ?_
    cases e with
    | nullByte => cases he
    | undecodable fault => cases he
    | refused code path target =>
      cases code with
      | notFound =>
        dsimp only
        split
        · exact .throw he
        · refine Refusing.bind (ih ?_) fun _ => refusing_makeOrKeep hnull place
          rw [Location.hasNull, List.any_eq_false] at hnull ⊢
          exact fun c hc => hnull c (List.dropLast_subset l.parts hc)
      | busy | «exists» | notDirectory | isDirectory | nameTooLong => exact refusing_keep he place l

end Place

end RpcBindings.Files
