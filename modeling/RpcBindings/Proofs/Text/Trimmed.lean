import Mathlib.Data.List.DropRight
import RpcBindings.Text.Blank

namespace RpcBindings.Text

section

variable {p : Char → Bool} {l s r : List Char}

theorem trimBy_eq (p : Char → Bool) (s : List Char) : trimBy p s = (s.dropWhile p).rdropWhile p := rfl

theorem trimBy_append_left (h : ∀ c ∈ l, p c = true) : trimBy p (l ++ s) = trimBy p s := by
  rw [trimBy, List.dropWhile_append_of_pos h]
  rfl

theorem trimBy_append_right (h : ∀ c ∈ r, p c = true) : trimBy p (s ++ r) = trimBy p s := by
  have hr : ∀ c ∈ r.reverse, p c = true := by
    intro c hc
    exact h c (List.mem_reverse.1 hc)
  rw [trimBy, trimBy, List.dropWhile_append]
  cases hs : s.dropWhile p with
  | nil =>
    rw [List.isEmpty_nil, if_pos rfl, List.dropWhile_eq_nil_iff.2 h]
  | cons c rest =>
    rw [List.isEmpty_cons, if_neg Bool.false_ne_true, List.reverse_append, List.dropWhile_append_of_pos hr]

theorem trimBy_trimBy (p : Char → Bool) (s : List Char) : trimBy p (trimBy p s) = trimBy p s := by
  have hfront : (trimBy p s).dropWhile p = trimBy p s := by
    apply List.dropWhile_eq_self_iff.2
    intro hpos
    obtain ⟨rest, hrest⟩ : trimBy p s <+: s.dropWhile p := List.rdropWhile_prefix p _
    have hlen : 0 < (s.dropWhile p).length := by
      rw [← hrest, List.length_append]
      omega
    have hfirst := List.dropWhile_get_zero_not p s hlen
    simp only [← hrest, List.get_eq_getElem, List.getElem_append_left hpos] at hfirst
    exact hfirst
  rw [trimBy_eq p (trimBy p s), hfront, trimBy_eq]
  exact List.rdropWhile_idempotent p _

theorem mem_of_mem_trimBy {c : Char} (h : c ∈ trimBy p s) : c ∈ s :=
  (List.dropWhile_suffix p).subset ((List.rdropWhile_prefix p _).subset h)

theorem trimBy_eq_nil_iff : trimBy p s = [] ↔ ∀ c ∈ s, p c = true := by
  constructor
  · intro h c hc
    rw [trimBy_eq, List.rdropWhile_eq_nil_iff] at h
    rw [← List.takeWhile_append_dropWhile (p := p) (l := s)] at hc
    rcases List.mem_append.1 hc with hc | hc
    · exact List.mem_takeWhile_imp hc
    · exact h c hc
  · intro h
    rw [trimBy, List.dropWhile_eq_nil_iff.2 h]
    rfl

end

/-- The text has no character that counts. -/
def Blank (s : String) : Prop := ∀ c ∈ s.toList, isBlank c = true

instance (s : String) : Decidable (Blank s) := decidable_of_iff (s.toList.all isBlank = true) List.all_eq_true

variable {l s r : String} {c : Char}

theorem Blank.not_mem (h : Blank s) (hc : isBlank c = false) : c ∉ s.toList := by
  intro hmem
  rw [h c hmem] at hc
  cases hc

theorem trim_between (hl : Blank l) (hr : Blank r) : trim (l ++ s ++ r) = trim s := by
  rw [trim, String.toList_append, String.toList_append, trimBy_append_right hr, trimBy_append_left hl]
  rfl

theorem trim_trim (s : String) : trim (trim s) = trim s := by
  rw [trim, trim, String.toList_ofList, trimBy_trimBy]

theorem mem_of_mem_trim (h : c ∈ (trim s).toList) : c ∈ s.toList := by
  rw [trim, String.toList_ofList] at h
  exact mem_of_mem_trimBy h

theorem trim_eq_empty_iff : trim s = "" ↔ Blank s := by
  rw [trim, ← String.toList_inj, String.toList_ofList]
  exact trimBy_eq_nil_iff

end RpcBindings.Text
