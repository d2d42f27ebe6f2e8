import Mathlib.Data.List.Nodup
import RpcBindings.Files.Write
import RpcBindings.Proofs.Files.Tree

namespace RpcBindings.Files

open RpcBindings.Path

def markDigits (k : Nat) : List Char := if k = 0 then [] else Nat.toDigits 10 k

theorem isDigit_of_mem_markDigits {k : Nat} {c : Char} (h : c ∈ markDigits k) : c.isDigit = true := by
  rw [markDigits] at h
  split at h
  · cases h
  · exact Nat.isDigit_of_mem_toDigits (by decide) (by decide) h

theorem markDigits_injective {j k : Nat} (h : markDigits j = markDigits k) : j = k := by
  rw [markDigits, markDigits] at h
  by_cases hj : j = 0
  · by_cases hk : k = 0
    · rw [hj, hk]
    · rw [if_pos hj, if_neg hk] at h
      exact absurd h.symm Nat.toDigits_ne_nil
  · by_cases hk : k = 0
    · rw [if_neg hj, if_pos hk] at h
      exact absurd h Nat.toDigits_ne_nil
    · rw [if_neg hj, if_neg hk] at h
      have hvalue := congrArg (fun ds => Nat.ofDigitChars 10 ds 0) h
      rwa [Nat.ofDigitChars_toDigits (by decide) (by decide),
        Nat.ofDigitChars_toDigits (by decide) (by decide)] at hvalue

theorem toList_mark (k : Nat) :
    (Place.mark k).toList = List.replicate (8 - (markDigits k).length) 'X' ++ markDigits k :=
  String.toList_ofList

theorem filter_mark (k : Nat) : (Place.mark k).toList.filter Char.isDigit = markDigits k := by
  have hpad : (List.replicate (8 - (markDigits k).length) 'X').filter Char.isDigit = [] := by
    rw [List.filter_eq_nil_iff]
    intro c hc
    rw [List.eq_of_mem_replicate hc]
    decide
  rw [toList_mark, List.filter_append, hpad, List.nil_append, List.filter_eq_self]
  intro c hc
  exact isDigit_of_mem_markDigits hc

theorem temporaryName_injective {name : String} {j k : Nat}
    (h : Place.temporaryName name j = Place.temporaryName name k) : j = k := by
  have hlist := congrArg String.toList h
  simp only [Place.temporaryName, String.toList_append, List.append_cancel_right_eq,
    List.append_cancel_left_eq] at hlist
  have hfilter := congrArg (List.filter Char.isDigit) hlist
  rw [filter_mark, filter_mark] at hfilter
  exact markDigits_injective hfilter

theorem length_temporaryName (name : String) (k : Nat) :
    name.length + 6 ≤ (Place.temporaryName name k).length := by
  simp only [Place.temporaryName, String.length_append]
  have hdot : ".".length = 1 := by decide
  have hend : ".tmp".length = 4 := by decide
  omega

theorem utf8ByteSize_temporaryName (name : String) (k : Nat) :
    name.utf8ByteSize ≤ (Place.temporaryName name k).utf8ByteSize := by
  simp only [Place.temporaryName, String.utf8ByteSize_append]
  omega

theorem null_not_mem_temporaryName {name : String} (h : '\x00' ∉ name.toList) (k : Nat) :
    '\x00' ∉ (Place.temporaryName name k).toList := by
  have hmark : '\x00' ∉ (Place.mark k).toList := by
    intro hmem
    rw [toList_mark] at hmem
    rcases List.mem_append.1 hmem with hmem | hmem
    · have heq := List.eq_of_mem_replicate hmem
      revert heq
      decide
    · have hdigit := isDigit_of_mem_markDigits hmem
      revert hdigit
      decide
  simp only [Place.temporaryName, String.toList_append, List.mem_append, not_or]
  exact ⟨⟨⟨⟨by decide, h⟩, by decide⟩, hmark⟩, by decide⟩

theorem temporary_ne {p : FilePath} (h : Normal p) (name : String) (k : Nat) :
    Normal (p ++ [Place.temporaryName name k]) ∧ p ++ [Place.temporaryName name k] ≠ p ++ [name] := by
  have hlength := length_temporaryName name k
  refine ⟨normal_concat h ?_ ?_ ?_, ?_⟩
  · intro heq
    rw [heq] at hlength
    exact absurd hlength (by simp)
  · intro heq
    rw [heq, show ".".length = 1 from rfl] at hlength
    omega
  · intro heq
    rw [heq, show "..".length = 2 from rfl] at hlength
    omega
  · intro heq
    have hsame := List.singleton_inj.1 (List.append_cancel_left heq)
    rw [hsame] at hlength
    omega

namespace Tree

variable {t : Tree}

theorem mem_keys_of_lookup {entries : List (FilePath × Entry)} {p : FilePath}
    (h : (entries.lookup p).isSome = true) : p ∈ entries.map (·.1) := by
  induction entries with
  | nil => cases h
  | cons entry rest ih =>
    obtain ⟨r, e⟩ := entry
    rw [lookup_cons] at h
    by_cases hr : p = r
    · exact List.mem_cons.2 (.inl hr)
    · rw [if_neg hr] at h
      exact List.mem_cons_of_mem _ (ih h)

theorem get?_temporary (t : Tree) (directory : FilePath) (name : String) :
    t.get? (directory ++ [Place.temporaryName name (Place.freeMark t directory name)]) = none := by
  let path (k : Nat) : FilePath := directory ++ [Place.temporaryName name k]
  change t.get? (path (((List.range (t.entries.length + 1)).find? fun k =>
    (t.get? (path k)).isNone).getD 0)) = none
  cases hfree : (List.range (t.entries.length + 1)).find? fun k => (t.get? (path k)).isNone with
  | some k => simpa using List.find?_some hfree
  | none =>
    exfalso
    have hnodup : ((List.range (t.entries.length + 1)).map path).Nodup := by
      apply List.Nodup.map _ List.nodup_range
      intro j k hjk
      exact temporaryName_injective (List.singleton_inj.1 (List.append_cancel_left hjk))
    have hsub : (List.range (t.entries.length + 1)).map path ⊆ t.entries.map (·.1) := by
      intro p hp
      obtain ⟨k, hk, rfl⟩ := List.mem_map.1 hp
      have htaken := List.find?_eq_none.1 hfree k hk
      have hne : path k ≠ [] := List.append_ne_nil_of_right_ne_nil _ (List.cons_ne_nil _ _)
      rw [get?, if_neg hne] at htaken
      apply mem_keys_of_lookup
      simpa using htaken
    have hlength := hnodup.length_le_of_subset hsub
    rw [List.length_map, List.length_map, List.length_range] at hlength
    omega

theorem get?_of_lt_freeMark {directory : FilePath} {name : String} {k : Nat}
    (h : k < Place.freeMark t directory name) : t.get? (directory ++ [Place.temporaryName name k]) ≠ none := by
  rw [Place.freeMark] at h
  cases hfree : (List.range (t.entries.length + 1)).find? fun k =>
      (t.get? (directory ++ [Place.temporaryName name k])).isNone with
  | none =>
    rw [hfree] at h
    exact absurd h (Nat.not_lt_zero k)
  | some j =>
    rw [hfree] at h
    have htaken := (List.find?_range_eq_some.1 hfree).2.2 k h
    rw [Bool.not_eq_true', Option.isNone_eq_false_iff] at htaken
    exact Option.isSome_iff_ne_none.1 htaken

/-- The choice depends on what is there under the temporary names only. -/
theorem freeMark_congr {t' : Tree} {directory : FilePath} {name : String}
    (h : ∀ k, t'.get? (directory ++ [Place.temporaryName name k]) =
      t.get? (directory ++ [Place.temporaryName name k])) :
    Place.freeMark t' directory name = Place.freeMark t directory name := by
  apply Nat.le_antisymm
  · apply Nat.le_of_not_lt
    intro hlt
    exact get?_of_lt_freeMark hlt ((h _).trans (t.get?_temporary directory name))
  · apply Nat.le_of_not_lt
    intro hlt
    exact get?_of_lt_freeMark hlt ((h _).symm.trans (t'.get?_temporary directory name))

end Tree

end RpcBindings.Files
