import RpcBindings.Export.Write
import RpcBindings.Proofs.Sequence

namespace RpcBindings.Files.Action

open RpcBindings.Export (timed)

/-- The end of a run, error or not, in a world. -/
def finish (r : Except ε α) (w : World) : EStateM.Result ε World α :=
  match r with
  | .ok a => .ok a w
  | .error e => .error e w

theorem bind_of_ok {a : Action ε α} {x : α} {w w₁ : World} (h : a w = .ok x w₁) (b : α → Action ε β) :
    (a >>= b) w = b x w₁ := by
  change EStateM.bind a b w = _
  rw [EStateM.bind, h]

theorem bind_of_error {a : Action ε α} {e : ε} {w w₁ : World} (h : a w = .error e w₁)
    (b : α → Action ε β) : (a >>= b) w = .error e w₁ := by
  change EStateM.bind a b w = _
  rw [EStateM.bind, h]

theorem look_eq_ok {f : Tree → Except ε α} {v : α} {w w' : World} (h : look f w = .ok v w') :
    f w.tree = .ok v ∧ w' = w := by
  simp only [look, bind, EStateM.bind, stateful_get_eq] at h
  cases hf : f w.tree with
  | ok a =>
    rw [hf] at h
    cases h
    exact ⟨rfl, rfl⟩
  | error e =>
    rw [hf] at h
    cases h

theorem change_eq_ok {f : Tree → Except ε Tree} {u : Unit} {w w' : World} (h : change f w = .ok u w') :
    f w.tree = .ok w'.tree := by
  obtain ⟨t, w₁, hlook, hmodify⟩ := stateful_bind_eq_ok.1 h
  obtain ⟨hf, rfl⟩ := look_eq_ok hlook
  cases hmodify
  exact hf

theorem attempt_eq_ok {a : Action ε α} {v : α} {w w' : World}
    (h : (attempt a : Action δ (Except ε α)) w = .ok (.ok v) w') : a w = .ok v w' := by
  rw [attempt] at h
  cases ha : a w with
  | ok x w₁ =>
    rw [ha] at h
    cases h
    rfl
  | error e w₁ =>
    rw [ha] at h
    cases h

/-- On the tree, the step ends in this way and leaves the other tree, whatever has been reported. -/
def Leads (a : Action ε α) (t : Tree) (r : Except ε α) (t' : Tree) : Prop :=
  ∀ log, ∃ log', a ⟨t, log⟩ = finish r ⟨t', log'⟩

variable {t t₁ t₂ : Tree}

theorem Leads.unique {a : Action ε α} {r r' : Except ε α} (h : Leads a t r t₁) (h' : Leads a t r' t₂) :
    r = r' ∧ t₁ = t₂ := by
  obtain ⟨log₁, h₁⟩ := h []
  obtain ⟨log₂, h₂⟩ := h' []
  rw [h₁] at h₂
  cases r with
  | ok v =>
    cases r' with
    | ok v' =>
      cases h₂
      exact ⟨rfl, rfl⟩
    | error e => cases h₂
  | error e =>
    cases r' with
    | ok v => cases h₂
    | error e' =>
      cases h₂
      exact ⟨rfl, rfl⟩

theorem Leads.eq_ok {a : Action ε α} {r : Except ε α} {v : α} {log : List Log.Event} {w : World}
    (h : Leads a t r t₁) (hrun : a ⟨t, log⟩ = .ok v w) : r = .ok v ∧ t₁ = w.tree := by
  obtain ⟨log', h⟩ := h log
  rw [hrun] at h
  cases r with
  | error e => cases h
  | ok v' =>
    cases h
    exact ⟨rfl, rfl⟩

theorem Leads.look {f : Tree → Except ε α} (t : Tree) : Leads (look f) t (f t) t := by
  intro log
  refine ⟨log, ?_⟩
  simp only [Action.look, bind, EStateM.bind, stateful_get_eq]
  cases f t with
  | ok v => rfl
  | error e => rfl

theorem Leads.bind {a : Action ε α} {v : α} {b : α → Action ε β} {r : Except ε β}
    (ha : Leads a t (.ok v) t₁) (hb : Leads (b v) t₁ r t₂) : Leads (a >>= b) t r t₂ := by
  intro log
  obtain ⟨log₁, h₁⟩ := ha log
  obtain ⟨log₂, h₂⟩ := hb log₁
  exact ⟨log₂, (bind_of_ok h₁ b).trans h₂⟩

theorem Leads.bind_error {a : Action ε α} {e : ε} (ha : Leads a t (.error e) t₁) (b : α → Action ε β) :
    Leads (a >>= b) t (.error e) t₁ := by
  intro log
  obtain ⟨log', h⟩ := ha log
  exact ⟨log', bind_of_error h b⟩

theorem Leads.rebind {a : Action ε α} {v : α} {b c : α → Action ε β} {r : Except ε β}
    (h : Leads (a >>= b) t r t₂) (ha : Leads a t (.ok v) t₁) (hsame : b v = c v) : Leads (a >>= c) t r t₂ := by
  intro log
  obtain ⟨log₁, h₁⟩ := ha log
  obtain ⟨log₂, h₂⟩ := h log
  rw [bind_of_ok h₁, hsame] at h₂
  exact ⟨log₂, (bind_of_ok h₁ c).trans h₂⟩

theorem Leads.attempt {a : Action ε α} {r : Except ε α} (h : Leads a t r t₁) :
    Leads (attempt a : Action δ (Except ε α)) t (.ok r) t₁ := by
  intro log
  obtain ⟨log', h⟩ := h log
  refine ⟨log', ?_⟩
  rw [Action.attempt, h]
  cases r with
  | ok v => rfl
  | error e => rfl

theorem Leads.change_ok {f : Tree → Except ε Tree} (h : f t = .ok t₁) : Leads (change f) t (.ok ()) t₁ := by
  have hlook := Leads.look (f := f) t
  rw [h] at hlook
  exact hlook.bind fun log => ⟨log, rfl⟩

theorem Leads.change_error {f : Tree → Except ε Tree} {e : ε} (h : f t = .error e) :
    Leads (change f) t (.error e) t := by
  have hlook := Leads.look (f := f) t
  rw [h] at hlook
  exact hlook.bind_error _

theorem Leads.report (e : Log.Event) : Leads (report e : Action ε Unit) t (.ok ()) t := fun _ => ⟨_, rfl⟩

theorem Leads.get {b : World → Action ε α} {r : Except ε α} (h : ∀ log, Leads (b ⟨t, log⟩) t r t₁) :
    Leads (get >>= b) t r t₁ := by
  intro log
  obtain ⟨log', h⟩ := h log log
  exact ⟨log', (bind_of_ok (stateful_get_eq _) b).trans h⟩

theorem Leads.liftError {a : Action ε α} {r : Except ε α} (h : Leads a t r t₁) (f : ε → δ) :
    Leads (liftError f a) t (r.mapError f) t₁ := by
  intro log
  obtain ⟨log', h⟩ := h log
  refine ⟨log', ?_⟩
  rw [Action.liftError, h]
  cases r with
  | ok v => rfl
  | error e => rfl

theorem Leads.timed {a : Action ε α} {r : Except ε α} (h : Leads a t r t₁) (label : String) :
    Leads (timed label a) t r t₁ := by
  rw [Export.timed]
  refine h.attempt.bind ?_
  cases r with
  | ok v => exact (Leads.report _).bind fun log => ⟨log, rfl⟩
  | error e => exact (Leads.report _).bind fun log => ⟨log, rfl⟩

/-- On the tree, the step ends in this way and leaves the tree as it is. -/
def Ends (a : Action ε α) (t : Tree) (r : Except ε α) : Prop :=
  ∀ log, ∃ log', a ⟨t, log⟩ = finish r ⟨t, log'⟩

theorem Ends.pure (v : α) : Ends (pure v : Action ε α) t (.ok v) := fun log => ⟨log, rfl⟩

theorem Ends.throw (e : ε) : Ends (throw e : Action ε α) t (.error e) := fun log => ⟨log, rfl⟩

theorem Ends.report (e : Log.Event) : Ends (report e : Action ε Unit) t (.ok ()) := Leads.report e

theorem Ends.reportAll (es : List Log.Event) : Ends (reportAll es : Action ε Unit) t (.ok ()) :=
  fun _ => ⟨_, rfl⟩

theorem Ends.look (f : Tree → Except ε α) : Ends (look f) t (f t) := Leads.look t

theorem Ends.bind {a : Action ε α} {v : α} {b : α → Action ε β} {r : Except ε β}
    (ha : Ends a t (.ok v)) (hb : Ends (b v) t r) : Ends (a >>= b) t r := Leads.bind ha hb

theorem Ends.bind_error {a : Action ε α} {e : ε} (ha : Ends a t (.error e)) (b : α → Action ε β) :
    Ends (a >>= b) t (.error e) := Leads.bind_error ha b

theorem Ends.seq {a : Action ε α} {f : Except ε α} {b : α → Action ε β} {g : α → Except ε β}
    (ha : Ends a t f) (hb : ∀ v, Ends (b v) t (g v)) : Ends (a >>= b) t (f >>= g) := by
  cases f with
  | ok v => exact ha.bind (hb v)
  | error e => exact ha.bind_error b

theorem Ends.mapM {a : α → Action ε β} {f : α → Except ε β} (h : ∀ x, Ends (a x) t (f x))
    (xs : List α) : Ends (xs.mapM a) t (xs.mapM f) := by
  induction xs with
  | nil => exact .pure []
  | cons x rest ih =>
    rw [List.mapM_cons, List.mapM_cons]
    exact (h x).seq fun v => ih.seq fun vs => .pure (v :: vs)

theorem Ends.liftError {a : Action ε α} {r : Except ε α} (h : Ends a t r) (f : ε → δ) :
    Ends (liftError f a) t (r.mapError f) := Leads.liftError h f

theorem Ends.attempt {a : Action ε α} {r : Except ε α} (h : Ends a t r) :
    Ends (attempt a : Action δ (Except ε α)) t (.ok r) := Leads.attempt h

theorem Ends.timed {a : Action ε α} {r : Except ε α} (h : Ends a t r) (label : String) :
    Ends (timed label a) t r := Leads.timed h label

/-- On both trees, the step ends in the same way and leaves them as they are. -/
def EndsAlike (a : Action ε α) (t t' : Tree) : Prop := ∃ r, Ends a t r ∧ Ends a t' r

namespace EndsAlike

variable {t' : Tree}

theorem of_eq {a : Action ε α} {f : Tree → Except ε α} (h : ∀ t, Ends a t (f t)) (heq : f t' = f t) :
    EndsAlike a t t' := ⟨f t, h t, heq ▸ h t'⟩

theorem pure (v : α) : EndsAlike (pure v : Action ε α) t t' := ⟨.ok v, Ends.pure v, Ends.pure v⟩

theorem throw (e : ε) : EndsAlike (throw e : Action ε α) t t' := ⟨.error e, Ends.throw e, Ends.throw e⟩

theorem report (e : Log.Event) : EndsAlike (report e : Action ε Unit) t t' :=
  ⟨.ok (), Ends.report e, Ends.report e⟩

theorem attempt {a : Action ε α} (h : EndsAlike a t t') :
    EndsAlike (attempt a : Action δ (Except ε α)) t t' := by
  obtain ⟨r, hends, hends'⟩ := h
  exact ⟨.ok r, hends.attempt, hends'.attempt⟩

theorem bind {a : Action ε α} {b : α → Action ε β} (ha : EndsAlike a t t')
    (hb : ∀ v, Ends a t (.ok v) → EndsAlike (b v) t t') : EndsAlike (a >>= b) t t' := by
  obtain ⟨r, hends, hends'⟩ := ha
  cases r with
  | error e => exact ⟨.error e, hends.bind_error b, hends'.bind_error b⟩
  | ok v =>
    obtain ⟨r, hrest, hrest'⟩ := hb v hends
    exact ⟨r, hends.bind hrest, hends'.bind hrest'⟩

end EndsAlike

/-- Whatever has been reported before, the step does the same. -/
def Determined (a : Action ε α) : Prop := ∀ t, ∃ r t', Leads a t r t'

theorem Determined.leads {a : Action ε α} (ha : Determined a) {v : α} {log : List Log.Event} {w : World}
    (h : a ⟨t, log⟩ = .ok v w) : Leads a t (.ok v) w.tree := by
  obtain ⟨r, t', hleads⟩ := ha t
  obtain ⟨log', hrun⟩ := hleads log
  rw [h] at hrun
  cases r with
  | error e => cases hrun
  | ok x =>
    cases hrun
    exact hleads

theorem Determined.pure (v : α) : Determined (pure v : Action ε α) := fun t => ⟨_, t, Ends.pure v⟩

theorem Determined.throw (e : ε) : Determined (throw e : Action ε α) := fun t => ⟨_, t, Ends.throw e⟩

theorem Determined.report (e : Log.Event) : Determined (report e : Action ε Unit) :=
  fun t => ⟨_, t, Leads.report e⟩

theorem Determined.look (f : Tree → Except ε α) : Determined (look f) := fun t => ⟨_, t, Leads.look t⟩

theorem Determined.change (f : Tree → Except ε Tree) : Determined (change f) := by
  intro t
  cases hf : f t with
  | ok t' => exact ⟨_, t', .change_ok hf⟩
  | error e => exact ⟨_, t, .change_error hf⟩

theorem Determined.attempt {a : Action ε α} (ha : Determined a) :
    Determined (attempt a : Action δ (Except ε α)) := by
  intro t
  obtain ⟨r, t', h⟩ := ha t
  exact ⟨_, t', h.attempt⟩

theorem Determined.bind {a : Action ε α} {b : α → Action ε β} (ha : Determined a)
    (hb : ∀ v, Determined (b v)) : Determined (a >>= b) := by
  intro t
  obtain ⟨r, t₁, h₁⟩ := ha t
  cases r with
  | error e => exact ⟨_, t₁, h₁.bind_error b⟩
  | ok v =>
    obtain ⟨r, t₂, h₂⟩ := hb v t₁
    exact ⟨r, t₂, h₁.bind h₂⟩

end RpcBindings.Files.Action
