import Mathlib.Data.List.Induction
import RpcBindings.Files.Tree
import RpcBindings.Proofs.Path.Parts
import RpcBindings.Proofs.Sequence

namespace RpcBindings.Files

open RpcBindings.Path

namespace Tree

variable {t t' : Tree} {p q : FilePath} {e : Entry}

theorem lookup_cons (r : FilePath) (e : Entry) (entries : List (FilePath × Entry)) :
    ((r, e) :: entries).lookup q = if q = r then some e else entries.lookup q := by
  by_cases h : q = r
  · rw [if_pos h, h, List.lookup_cons_self]
  · rw [if_neg h, List.lookup_cons, beq_false_of_ne h]

theorem lookup_append (entries : List (FilePath × Entry)) (h : entries.lookup p = none) :
    (entries ++ [(p, e)]).lookup q = if q = p then some e else entries.lookup q := by
  induction entries with
  | nil => exact lookup_cons p e []
  | cons entry rest ih =>
    obtain ⟨r, old⟩ := entry
    rw [lookup_cons] at h
    by_cases hpr : p = r
    · rw [if_pos hpr] at h
      cases h
    · rw [if_neg hpr] at h
      rw [List.cons_append, lookup_cons, ih h, lookup_cons]
      by_cases hq : q = p
      · rw [if_pos hq, if_pos hq, if_neg (hq ▸ hpr)]
      · rw [if_neg hq, if_neg hq]

theorem lookup_replace (entries : List (FilePath × Entry)) :
    (entries.map fun (r, old) => if r = p then (r, e) else (r, old)).lookup q =
      if q = p then (entries.lookup p).map fun _ => e else entries.lookup q := by
  induction entries with
  | nil => simp
  | cons entry rest ih =>
    obtain ⟨r, old⟩ := entry
    have hone : (if r = p then (r, e) else (r, old)) = (r, if r = p then e else old) := by
      split
      · rfl
      · rfl
    change ((if r = p then (r, e) else (r, old)) :: _).lookup q = _
    rw [hone, lookup_cons, lookup_cons, lookup_cons, ih]
    by_cases hq : q = p
    · subst hq
      rw [if_pos rfl, if_pos rfl]
      by_cases hr : q = r
      · rw [if_pos hr, if_pos hr, if_pos hr.symm]
        rfl
      · rw [if_neg hr, if_neg hr]
    · rw [if_neg hq, if_neg hq]
      by_cases hr : q = r
      · rw [if_pos hr, if_pos hr, if_neg (hr ▸ hq)]
      · rw [if_neg hr, if_neg hr]

theorem get?_put (hp : p ≠ []) : (t.put p e).get? q = if q = p then some e else t.get? q := by
  have hlookup : (t.put p e).entries.lookup q = if q = p then some e else t.entries.lookup q := by
    rw [put]
    cases h : t.entries.lookup p with
    | none => exact lookup_append t.entries h
    | some old =>
      have hreplace := lookup_replace (p := p) (q := q) (e := e) t.entries
      rw [h] at hreplace
      exact hreplace
  rw [get?, get?, hlookup]
  by_cases hq : q = []
  · rw [if_pos hq, if_pos hq, if_neg (hq ▸ Ne.symm hp)]
  · rw [if_neg hq, if_neg hq]

theorem lookup_filter (keep : FilePath → Bool) (entries : List (FilePath × Entry)) (q : FilePath) :
    (entries.filter fun entry => keep entry.1).lookup q = if keep q then entries.lookup q else none := by
  induction entries with
  | nil => simp
  | cons entry rest ih =>
    obtain ⟨r, e⟩ := entry
    by_cases hr : keep r = true
    · rw [List.filter_cons, if_pos hr, lookup_cons, lookup_cons, ih]
      by_cases hq : q = r
      · rw [if_pos hq, if_pos hq, hq, if_pos hr]
      · rw [if_neg hq, if_neg hq]
    · rw [List.filter_cons, if_neg hr, ih, lookup_cons]
      by_cases hq : q = r
      · rw [hq, if_neg hr, if_neg hr]
      · rw [if_neg hq]

theorem get?_erase (hp : p ≠ []) : (t.erase p).get? q = if q = p then none else t.get? q := by
  have hlookup := lookup_filter (fun r => decide (r ≠ p)) t.entries q
  rw [get?, get?]
  by_cases hq : q = []
  · rw [if_pos hq, if_pos hq, if_neg (hq ▸ Ne.symm hp)]
  · rw [if_neg hq, if_neg hq]
    refine hlookup.trans ?_
    by_cases hqp : q = p
    · rw [if_pos hqp, if_neg (by simpa using hqp)]
    · rw [if_neg hqp, if_pos (decide_eq_true hqp)]

/-- An entry that was put where there was none and then removed has left nothing behind. -/
theorem get?_erase_put (hne : p ≠ []) (hfree : t.get? p = none) (e : Entry) :
    ((t.put p e).erase p).get? q = t.get? q := by
  rw [get?_erase hne, get?_put hne]
  by_cases hq : q = p
  · rw [if_pos hq, hq, hfree]
  · rw [if_neg hq, if_neg hq]

theorem walk_append_singleton (t : Tree) (cs : List String) (c : String) :
    t.walk (cs ++ [c]) = t.walk cs >>= fun p => t.step p c := by
  rw [walk, List.foldlM_append]
  simp [walk]

theorem step_eq_ok {c : String} (hc : c ≠ "..") (h : t.step p c = .ok q) :
    t.get? p = some .directory ∧ nameFits c = true ∧ q = p ++ [c] := by
  rw [step] at h
  cases hp : t.get? p with
  | none =>
    rw [hp] at h
    cases h
  | some found =>
    cases found with
    | file content =>
      rw [hp] at h
      cases h
    | directory =>
      rw [hp] at h
      dsimp only at h
      rw [if_neg hc] at h
      cases hfits : nameFits c with
      | false =>
        rw [hfits, if_neg Bool.false_ne_true] at h
        cases h
      | true =>
        rw [hfits, if_pos rfl] at h
        cases h
        exact ⟨rfl, rfl, rfl⟩

theorem walk_eq_ok {cs : List String} (h : Normal cs) (hw : t.walk cs = .ok p) : p = cs := by
  induction cs using List.reverseRecOn generalizing p with
  | nil =>
    cases hw
    rfl
  | append_singleton cs c ih =>
    obtain ⟨hcs, hc⟩ := List.forall_mem_append.1 h
    rw [walk_append_singleton] at hw
    obtain ⟨r, hr, hstep⟩ := bind_eq_ok.1 hw
    have heq := ih hcs hr
    subst heq
    exact (step_eq_ok (hc c (.head _)).2.2 hstep).2.2

theorem walk_congr {cs : List String} (h : Normal cs)
    (hsame : ∀ q, q <+: cs → q ≠ cs → t'.get? q = t.get? q) : t'.walk cs = t.walk cs := by
  induction cs using List.reverseRecOn with
  | nil => rfl
  | append_singleton cs c ih =>
    obtain ⟨hcs, -⟩ := List.forall_mem_append.1 h
    have hfront : t'.walk cs = t.walk cs := by
      apply ih hcs
      intro q hq _
      apply hsame q (hq.trans (List.prefix_append cs [c]))
      rintro rfl
      exact absurd hq.length_le (by simp)
    rw [walk_append_singleton, walk_append_singleton, hfront]
    cases hw : t.walk cs with
    | error e => rfl
    | ok r =>
      have heq := walk_eq_ok hcs hw
      subst heq
      have hdir : t'.get? r = t.get? r := hsame r (List.prefix_append r [c]) (by simp)
      change t'.step r c = t.step r c
      rw [step, step, hdir]

end Tree

end RpcBindings.Files
