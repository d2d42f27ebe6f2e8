import RpcBindings.Proofs.Files.Write

namespace RpcBindings.Files

open RpcBindings.Path
open RpcBindings.Files.Action

namespace Tree

def follow (p : FilePath) (c : String) : FilePath := if c = ".." then p.dropLast else p ++ [c]

/-- The path that components lead to where every one of them can be followed. -/
def lead (cs : List String) : FilePath := cs.foldl follow []

variable {t t' : Tree} {p q : FilePath} {cs : List String} {c : String}

theorem lead_concat (cs : List String) (c : String) : lead (cs ++ [c]) = follow (lead cs) c := by
  rw [lead, List.foldl_append]
  rfl

theorem step_follow (h : t.step p c = .ok q) : t.get? p = some .directory ∧ q = follow p c := by
  rw [step] at h
  cases hp : t.get? p with
  | none =>
    rw [hp] at h
    cases h
  | some found =>
    cases found with
    | file content =>
      rw [hp] at h
      cases h
    | directory =>
      rw [hp] at h
      dsimp only at h
      refine ⟨rfl, ?_⟩
      rw [follow]
      split at h
      · rename_i hup
        cases h
        rw [if_pos hup]
      · rename_i hup
        split at h
        · cases h
          rw [if_neg hup]
        · cases h

theorem walk_lead (h : t.walk cs = .ok p) : p = lead cs := by
  induction cs using List.reverseRecOn generalizing p with
  | nil =>
    cases h
    rfl
  | append_singleton cs c ih =>
    rw [walk_append_singleton] at h
    obtain ⟨r, hr, hstep⟩ := bind_eq_ok.1 h
    rw [lead_concat, ← ih hr]
    exact (step_follow hstep).2

theorem walk_concat (h : t.walk cs = .ok p) (c : String) : t.walk (cs ++ [c]) = t.step p c := by
  rw [walk_append_singleton, h]
  rfl

theorem walk_above (h : t.walk cs = .ok p) {ps : List String} (hps : ps <+: cs) (hne : ps ≠ cs) :
    t.get? (lead ps) = some .directory := by
  induction cs using List.reverseRecOn generalizing p with
  | nil => exact absurd (List.prefix_nil.1 hps) hne
  | append_singleton cs c ih =>
    rw [walk_append_singleton] at h
    obtain ⟨r, hr, hstep⟩ := bind_eq_ok.1 h
    by_cases heq : ps = cs
    · rw [heq, ← walk_lead hr]
      exact (step_follow hstep).1
    · exact ih hr ((List.prefix_concat_iff.1 hps).resolve_left hne) heq

theorem walk_mono (h : t.walk cs = .ok p)
    (hdirs : ∀ ps s, ps <+: cs → t.walk ps = .ok s → t.get? s = some .directory → t'.get? s = some .directory) :
    t'.walk cs = .ok p := by
  induction cs using List.reverseRecOn generalizing p with
  | nil => exact h
  | append_singleton cs c ih =>
    have hcs : cs <+: cs ++ [c] := List.prefix_append cs [c]
    rw [walk_append_singleton] at h
    obtain ⟨r, hr, hstep⟩ := bind_eq_ok.1 h
    have hfront : t'.walk cs = .ok r := ih hr fun ps s hps => hdirs ps s (hps.trans hcs)
    have hthere := (step_follow hstep).1
    rw [walk_concat hfront, ← hstep, step, step, hthere, hdirs cs r hcs hr hthere]

theorem lead_eq_enter (h : ∀ c ∈ cs, c ≠ "" ∧ c ≠ ".") : lead cs = enter [] cs := by
  induction cs using List.reverseRecOn with
  | nil => rfl
  | append_singleton cs c ih =>
    obtain ⟨hcs, hc⟩ := List.forall_mem_append.1 h
    obtain ⟨hne, hdot⟩ := hc c (.head _)
    rw [lead_concat, ih hcs, enter, enter, List.foldl_append]
    change follow _ c = enterOne _ c
    rw [follow, enterOne, if_neg (not_or.2 ⟨hne, hdot⟩)]

theorem lead_of_normal (h : Normal cs) : lead cs = cs := by
  rw [lead_eq_enter fun c hc => ⟨(h c hc).1, (h c hc).2.1⟩]
  exact enter_of_normal h []

end Tree

/-- What may become of paths. -/
structure Bounds where
  free : FilePath → Prop := fun _ => False
  made : FilePath → Prop := fun _ => False
  written : FilePath → ByteArray → Prop := fun _ _ => False

namespace Bounds

/-- What may become of the entry at a path. -/
inductive Change (b : Bounds) (q : FilePath) : Option Entry → Option Entry → Prop where
  | free {e e' : Option Entry} (h : b.free q) : Change b q e e'
  | same (e : Option Entry) : Change b q e e
  | made (h : b.made q) : Change b q none (some .directory)
  | written {e : Option Entry} {content : ByteArray} (h : b.written q content)
      (he : e ≠ some .directory) : Change b q e (some (.file content))

def Allow (b : Bounds) (t t' : Tree) : Prop := ∀ q, b.Change q (t.get? q) (t'.get? q)

variable {b b' : Bounds} {t t' t'' : Tree} {q : FilePath} {e e' e'' : Option Entry}

theorem Change.trans (h : b.Change q e e') (h' : b.Change q e' e'') : b.Change q e e'' := by
  cases h with
  | free hq => exact .free hq
  | same => exact h'
  | made hq =>
    cases h' with
    | free hq => exact .free hq
    | same => exact .made hq
    | written _ he => exact absurd rfl he
  | written hq he =>
    cases h' with
    | free hq => exact .free hq
    | same => exact .written hq he
    | written hq' _ => exact .written hq' he

theorem Change.mono (h : b.Change q e e') (hfree : b.free q → b'.free q) (hmade : b.made q → b'.made q)
    (hwritten : ∀ content, b.written q content → b'.written q content) : b'.Change q e e' := by
  cases h with
  | free hq => exact .free (hfree hq)
  | same => exact .same e
  | made hq => exact .made (hmade hq)
  | written hq he => exact .written (hwritten _ hq) he

theorem Allow.refl (b : Bounds) (t : Tree) : b.Allow t t := fun q => .same (t.get? q)

theorem Allow.trans (h : b.Allow t t') (h' : b.Allow t' t'') : b.Allow t t'' :=
  fun q => (h q).trans (h' q)

/-- Where directories may be made and nothing else may happen, that is all that has changed. -/
theorem Allow.of_made {made : FilePath → Prop} (h : Allow { made } t t') (q : FilePath) :
    t'.get? q = t.get? q ∨ t.get? q = none ∧ t'.get? q = some .directory ∧ made q := by
  have hq := h q
  generalize t'.get? q = after at hq ⊢
  generalize t.get? q = before at hq ⊢
  cases hq with
  | free hfalse => exact hfalse.elim
  | same => exact .inl rfl
  | made hmade => exact .inr ⟨rfl, rfl, hmade⟩
  | written hfalse => exact hfalse.elim

end Bounds

/-- Whatever has been reported before, the step does the same, and keeps within the bounds. -/
def Within (b : Bounds) (a : Action ε α) : Prop := ∀ t, ∃ r t', Leads a t r t' ∧ b.Allow t t'

namespace Within

variable {b b' : Bounds} {t t' : Tree}

theorem pure (v : α) : Within b (pure v : Action ε α) := fun t => ⟨_, t, Ends.pure v, .refl b t⟩

theorem throw (e : ε) : Within b (throw e : Action ε α) := fun t => ⟨_, t, Ends.throw e, .refl b t⟩

theorem report (e : Log.Event) : Within b (report e : Action ε Unit) :=
  fun t => ⟨_, t, Leads.report e, .refl b t⟩

theorem look (f : Tree → Except ε α) : Within b (look f) := fun t => ⟨_, t, Leads.look t, .refl b t⟩

theorem change {f : Tree → Except ε Tree} (h : ∀ t t', f t = .ok t' → b.Allow t t') : Within b (change f) := by
  intro t
  cases hf : f t with
  | ok t' => exact ⟨_, t', .change_ok hf, h t t' hf⟩
  | error e => exact ⟨_, t, .change_error hf, .refl b t⟩

theorem attempt {a : Action ε α} (ha : Within b a) : Within b (attempt a : Action δ (Except ε α)) := by
  intro t
  obtain ⟨r, t', hleads, hallow⟩ := ha t
  exact ⟨_, t', hleads.attempt, hallow⟩

theorem timed {a : Action ε α} (ha : Within b a) (label : String) : Within b (Export.timed label a) := by
  intro t
  obtain ⟨r, t', hleads, hallow⟩ := ha t
  exact ⟨r, t', hleads.timed label, hallow⟩

theorem bind {a : Action ε α} {g : α → Action ε β} (ha : Within b a) (hg : ∀ v, Within b (g v)) :
    Within b (a >>= g) := by
  intro t
  obtain ⟨r, t₁, h₁, hallow₁⟩ := ha t
  cases r with
  | error e => exact ⟨_, t₁, h₁.bind_error g, hallow₁⟩
  | ok v =>
    obtain ⟨r, t₂, h₂, hallow₂⟩ := hg v t₁
    exact ⟨r, t₂, h₁.bind h₂, hallow₁.trans hallow₂⟩

theorem mono {a : Action ε α} (ha : Within b a)
    (h : ∀ q e e', b.Change q e e' → b'.Change q e e') : Within b' a := by
  intro t
  obtain ⟨r, t', hleads, hallow⟩ := ha t
  exact ⟨r, t', hleads, fun q => h q _ _ (hallow q)⟩

end Within

namespace Place

variable {place : Place} {t t' : Tree} {l : Location} {content : ByteArray}

theorem locate_lead {p : FilePath} (h : place.locate t l = .ok p) : p = Tree.lead (l.components place.cwd) :=
  Tree.walk_lead (locate_eq_ok_iff.1 h).2.2

def Passes (place : Place) (l : Location) (q : FilePath) : Prop :=
  ∃ ps, ps <+: l.parts ∧ q = Tree.lead ((Location.mk l.root ps).components place.cwd)

theorem Passes.of_parent {q : FilePath} (h : place.Passes l.parent q) : place.Passes l q := by
  obtain ⟨ps, hps, hq⟩ := h
  exact ⟨ps, hps.trans (List.dropLast_prefix l.parts), hq⟩

theorem passes_end (place : Place) (l : Location) : place.Passes l (Tree.lead (l.components place.cwd)) :=
  ⟨l.parts, List.prefix_refl _, rfl⟩

theorem within_makeDirectory (place : Place) (l : Location) :
    Within { made := place.Passes l } (change fun t => place.makeDirectory t l) := by
  apply Within.change
  intro t t' h q
  obtain ⟨p, hlocate, h⟩ := bind_eq_ok.1 h
  cases hthere : t.get? p with
  | some e =>
    rw [hthere] at h
    cases h
  | none =>
    rw [hthere] at h
    cases h
    have hne : p ≠ [] := by
      rintro rfl
      cases hthere
    rw [Tree.get?_put hne]
    by_cases hq : q = p
    · rw [if_pos hq, hq, hthere]
      exact .made (locate_lead hlocate ▸ place.passes_end l)
    · rw [if_neg hq]
      exact .same _

/-- Keeping a directory that is there changes nothing. -/
theorem within_keep (b : Bounds) (place : Place) (l : Location) (e : Error) :
    Within b (look (fun t => place.isDirectory? t l) >>= fun there => if there then pure () else throw e) := by
  refine .bind (.look _) fun there => ?_
  split
  · exact .pure ()
  · exact .throw e

theorem within_makeOrKeep (place : Place) (l : Location) :
    Within { made := place.Passes l } (place.makeOrKeep l) := by
  refine (within_makeDirectory place l).attempt.bind fun r => ?_
  split
  · exact .pure ()
  · exact .throw _
  · exact .throw _
  · exact within_keep _ place l _

theorem within_makeDirectories (place : Place) (depth : Nat) (l : Location) :
    Within { made := place.Passes l } (place.makeDirectories depth l) := by
  induction depth generalizing l with
  | zero => exact within_makeOrKeep place l
  | succ depth ih =>
    refine (within_makeDirectory place l).attempt.bind fun r => ?_
    split
    · exact .pure ()
    · split
      · exact .throw _
      · refine Within.bind ?_ fun _ => within_makeOrKeep place l
        apply (ih l.parent).mono
        intro q e e' h
        exact h.mono id Passes.of_parent fun _ => id
    · exact .throw _
    · exact within_keep _ place l _

theorem prefix_of_passes {dir q : FilePath} (hnormal : Normal dir) (h : place.Passes (.atPath dir) q) :
    q <+: dir := by
  obtain ⟨ps, hps, rfl⟩ := h
  have hlead : Tree.lead ((Location.atPath ps).components place.cwd) = ps := by
    rw [components_atPath]
    exact Tree.lead_of_normal fun c hc => hnormal c (hps.subset hc)
  exact hlead.symm ▸ hps

theorem makeDirectories_changes {dir : FilePath} {depth : Nat} {r : Except Error Unit} (hnormal : Normal dir)
    (h : Leads (place.makeDirectories depth (.atPath dir)) t r t') (q : FilePath) :
    t'.get? q = t.get? q ∨ t.get? q = none ∧ t'.get? q = some .directory ∧ q <+: dir := by
  obtain ⟨r₁, t₁, h₁, hallow⟩ := within_makeDirectories place depth (.atPath dir) t
  obtain ⟨-, rfl⟩ := h.unique h₁
  refine (hallow.of_made q).imp_right ?_
  rintro ⟨hnone, hthere, hpasses⟩
  exact ⟨hnone, hthere, prefix_of_passes hnormal hpasses⟩

theorem writeBytes_eq_ok (h : place.writeBytes t l content = .ok t') :
    ∃ p, place.locate t l = .ok p ∧ t.get? p ≠ some .directory ∧ t' = t.put p (.file content) := by
  obtain ⟨p, hlocate, h⟩ := bind_eq_ok.1 h
  refine ⟨p, hlocate, ?_⟩
  cases hthere : t.get? p with
  | none =>
    rw [hthere] at h
    cases h
    refine ⟨?_, rfl⟩
    intro heq
    cases heq
  | some e =>
    cases e with
    | directory =>
      rw [hthere] at h
      cases h
    | file old =>
      rw [hthere] at h
      cases h
      refine ⟨?_, rfl⟩
      intro heq
      cases heq

theorem allow_put {p : FilePath} (hp : p = Tree.lead (l.components place.cwd))
    (hthere : t.get? p ≠ some .directory) (content : ByteArray) :
    Bounds.Allow { written := fun q c => q = Tree.lead (l.components place.cwd) ∧ c = content } t
      (t.put p (.file content)) := by
  intro q
  have hne : p ≠ [] := by
    rintro rfl
    exact hthere rfl
  rw [Tree.get?_put hne]
  by_cases hq : q = p
  · rw [if_pos hq, hq]
    exact .written ⟨hp, rfl⟩ hthere
  · rw [if_neg hq]
    exact .same _

theorem rename_eq_ok {source : Location} (h : place.rename t source l = .ok t') :
    ∃ p q e, place.locate t source = .ok p ∧ t.get? p = some e ∧ place.locate t l = .ok q ∧ l.name ≠ "" ∧
      t.get? q ≠ some .directory ∧ t' = if p = q then t else (t.erase p).put q e := by
  rw [rename] at h
  dsimp only at h
  split at h
  · cases h
  · rename_i hnull
    obtain ⟨hsource, htarget⟩ := Bool.or_eq_false_iff.1 (Bool.not_eq_true _ ▸ hnull)
    split at h
    · cases h
    · rename_i hlong
      obtain ⟨hshort, hshort'⟩ := not_or.1 hlong
      obtain ⟨p, hp, h⟩ := bind_eq_ok.1 h
      obtain ⟨q, hq, h⟩ := bind_eq_ok.1 h
      have hp' : place.locate t source = .ok p :=
        locate_eq_ok_iff.2 ⟨hsource, Nat.lt_of_not_le hshort, mapError_eq_ok hp⟩
      have hq' : place.locate t l = .ok q :=
        locate_eq_ok_iff.2 ⟨htarget, Nat.lt_of_not_le hshort', mapError_eq_ok hq⟩
      cases he : t.get? p with
      | none =>
        rw [he] at h
        cases h
      | some e =>
        rw [he] at h
        dsimp only at h
        split at h
        · cases h
        · rename_i hname
          split at h
          · cases h
          · rename_i hdirectory
            refine ⟨p, q, e, hp', he, hq', fun hempty => hname (.inl hempty), hdirectory, ?_⟩
            split at h
            · rename_i hsame
              cases h
              rw [if_pos hsame]
            · rename_i hother
              cases h
              rw [if_neg hother]

/-- What comes of putting a file at a location: it is there, or nothing has changed. -/
inductive Stored (place : Place) (t : Tree) (l : Location) (content : ByteArray) :
    Except Error Unit → Tree → Prop where
  | stored {t' : Tree} {q : FilePath} (hlocate : place.locate t l = .ok q) (hname : l.name ≠ "")
      (hthere : t.get? q ≠ some .directory)
      (h : ∀ r, t'.get? r = if r = q then some (.file content) else t.get? r) :
      Stored place t l content (.ok ()) t'
  | unchanged {t' : Tree} (e : Error) (h : ∀ q, t'.get? q = t.get? q) : Stored place t l content (.error e) t'

/-- Where no directory is new, nothing else is reached. -/
theorem locate_of_put {p q : FilePath} (hp : p ≠ []) (h : place.locate (t.put p (.file content)) l = .ok q) :
    place.locate t l = .ok q := by
  obtain ⟨hnull, hshort, hwalk⟩ := locate_eq_ok_iff.1 h
  refine locate_eq_ok_iff.2 ⟨hnull, hshort, Tree.walk_mono hwalk fun ps s _ _ hthere => ?_⟩
  rw [Tree.get?_put hp] at hthere
  split at hthere
  · cases hthere
  · exact hthere

theorem writeAtomic_stored (place : Place) (t : Tree) (l : Location) (content : ByteArray) :
    ∃ r t', Leads (place.writeAtomic l content) t r t' ∧ place.Stored t l content r t' := by
  let temporary := place.temporary t l
  have hnormal : Normal temporary.parts := (temporary_ne (normal_enter (List.forall_mem_nil _) _) _ _).1
  have hfree : t.get? temporary.parts = none := t.get?_temporary _ l.name
  have hne : temporary.parts ≠ [] := List.append_ne_nil_of_right_ne_nil _ (List.cons_ne_nil _ _)
  have hlead : Tree.lead (temporary.components place.cwd) = temporary.parts :=
    (congrArg Tree.lead (components_atPath place.cwd temporary.parts)).trans (Tree.lead_of_normal hnormal)
  cases hbytes : place.writeBytes t temporary content with
  | error e => exact ⟨_, t, writeAtomic_unwritten hbytes, .unchanged e fun _ => rfl⟩
  | ok t₁ =>
    obtain ⟨p, hlocate, -, rfl⟩ := writeBytes_eq_ok hbytes
    obtain rfl := (locate_lead hlocate).trans hlead
    cases hrename : place.rename (t.put temporary.parts (.file content)) temporary l with
    | error e =>
      exact ⟨_, _, writeAtomic_unnamed hbytes hrename, .unchanged e fun _ => Tree.get?_erase_put hne hfree _⟩
    | ok t₂ =>
      refine ⟨_, t₂, writeAtomic_renamed hbytes hrename, ?_⟩
      obtain ⟨p, q, e, hp, he, hq, hname, hthere, rfl⟩ := rename_eq_ok hrename
      obtain rfl := (locate_lead hp).trans hlead
      rw [Tree.get?_put hne, if_pos rfl] at he
      cases he
      by_cases hsame : temporary.parts = q
      · rw [if_pos hsame]
        refine .stored (hsame ▸ locate_of_put hne hq) hname ?_ fun r => Tree.get?_put hne
        rw [hfree]
        intro heq
        cases heq
      · have hthere' : t.get? q ≠ some .directory := by
          rwa [Tree.get?_put hne, if_neg (Ne.symm hsame)] at hthere
        have hne' : q ≠ [] := by
          rintro rfl
          exact hthere' rfl
        refine .stored (locate_of_put hne hq) hname hthere' fun r => ?_
        rw [if_neg hsame, Tree.get?_put hne', Tree.get?_erase_put hne hfree]

theorem within_writeAtomic (place : Place) (l : Location) (content : ByteArray) :
    Within { written := fun q c => q = Tree.lead (l.components place.cwd) ∧ c = content }
      (place.writeAtomic l content) := by
  intro t
  obtain ⟨r, t', hleads, hstored⟩ := place.writeAtomic_stored t l content
  refine ⟨r, t', hleads, fun q => ?_⟩
  cases hstored with
  | unchanged e h =>
    rw [h]
    exact .same _
  | stored hlocate _ hthere h =>
    rw [h]
    split
    · rename_i hq
      exact .written ⟨hq.trans (locate_lead hlocate), rfl⟩ (hq ▸ hthere)
    · exact .same _

theorem within_writeBytes (place : Place) (l : Location) (content : ByteArray) :
    Within { written := fun q c => q = Tree.lead (l.components place.cwd) ∧ c = content }
      (change fun t => place.writeBytes t l content) := by
  apply Within.change
  intro t t' h
  obtain ⟨p, hlocate, hthere, rfl⟩ := writeBytes_eq_ok h
  exact allow_put (locate_lead hlocate) hthere _

/-- Writing a file changes nothing but the way to it and the file itself. -/
theorem within_writeFile (place : Place) (l : Location) (text : String) (atomic : Bool) :
    Within
      { made := place.Passes l.parent
        written := fun q c => q = Tree.lead (l.components place.cwd) ∧ c = text.toUTF8 }
      (place.writeFile l text atomic) := by
  have hensure := within_makeDirectories place l.parent.parts.length l.parent
  refine Within.bind (Within.bind (hensure.mono ?_) fun _ => .report _) fun _ => ?_
  · intro q e e' h
    exact h.mono id id fun _ hfalse => hfalse.elim
  · cases atomic with
    | true =>
      refine Within.bind ((within_writeAtomic place l _).mono ?_) fun _ => (Within.report _).bind fun _ => .pure _
      intro q e e' h
      exact h.mono id (fun hfalse => hfalse.elim) fun _ => id
    | false =>
      refine Within.bind ((within_writeBytes place l _).mono ?_) fun _ => (Within.report _).bind fun _ => .pure _
      intro q e e' h
      exact h.mono id (fun hfalse => hfalse.elim) fun _ => id

end Place

namespace Tree

variable {t : Tree} {p q : FilePath}

def Below (p q : FilePath) : Prop := p <+: q ∧ q ≠ p

instance (p q : FilePath) : Decidable (Below p q) := inferInstanceAs (Decidable (_ ∧ _))

theorem below_concat (p : FilePath) (c : String) : Below p (p ++ [c]) := by
  refine ⟨List.prefix_append p [c], ?_⟩
  intro heq
  exact List.cons_ne_nil _ _ (List.append_right_eq_self.1 heq)

theorem Below.not_prefix (h : Below p q) : ¬q <+: p :=
  fun habove => h.2 (habove.eq_of_length (Nat.le_antisymm habove.length_le h.1.length_le))

def UnderKept (p : FilePath) (kept : List String) (q : FilePath) : Prop := q.getD p.length "" ∈ kept

instance (p : FilePath) (kept : List String) (q : FilePath) : Decidable (UnderKept p kept q) :=
  inferInstanceAs (Decidable (_ ∈ _))

theorem underKept_append {kept : List String} {c : String} {rest : List String} :
    UnderKept p kept (p ++ c :: rest) ↔ c ∈ kept := by
  rw [UnderKept, List.getD_eq_getElem?_getD, List.getElem?_append_right (Nat.le_refl _), Nat.sub_self]
  rfl

theorem get?_eraseBelow (t : Tree) (p : FilePath) (kept : List String) (q : FilePath) :
    (t.eraseBelow p kept).get? q = if Below p q ∧ ¬UnderKept p kept q then none else t.get? q := by
  have hlookup := lookup_filter
    (fun q => !(p.isPrefixOf q && q != p && !kept.contains (q.getD p.length ""))) t.entries q
  rw [get?, get?]
  by_cases hq : q = []
  · have hroot : ¬Below p q := by
      rintro ⟨hunder, hne⟩
      subst hq
      exact hne (List.prefix_nil.1 hunder).symm
    rw [if_pos hq, if_pos hq, if_neg (not_and_of_not_left _ hroot)]
  · rw [if_neg hq, if_neg hq]
    have hkeep : (!(p.isPrefixOf q && q != p && !kept.contains (q.getD p.length ""))) = true ↔
        ¬(Below p q ∧ ¬UnderKept p kept q) := by
      rw [Bool.not_eq_true', ← Bool.not_eq_true, not_iff_not]
      simp only [Below, UnderKept, Bool.and_eq_true, bne_iff_ne, Bool.not_eq_true', List.isPrefixOf_iff_prefix,
        List.contains_eq_mem, decide_eq_false_iff_not]
    exact (hlookup.trans (if_congr hkeep rfl rfl)).trans (ite_not _ _ _)

end Tree

end RpcBindings.Files
