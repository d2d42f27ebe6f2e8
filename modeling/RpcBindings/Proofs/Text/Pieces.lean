import Mathlib.Data.List.TakeDrop
import Mathlib.Data.List.TakeWhile
import RpcBindings.Text.Search

namespace RpcBindings.Text

theorem splitOn_append_sep (sep : Char) (xs ys : List Char) :
    (xs ++ sep :: ys).splitOn sep = xs.splitOn sep ++ ys.splitOn sep := by
  induction xs with
  | nil =>
    rw [List.nil_append, List.splitOn_cons_eq_if_modifyHead, if_pos (beq_self_eq_true sep)]
    rfl
  | cons x xs ih =>
    rw [List.cons_append, List.splitOn_cons_eq_if_modifyHead, List.splitOn_cons_eq_if_modifyHead, ih]
    obtain ⟨piece, more, hxs⟩ := List.exists_cons_of_ne_nil (List.splitOn_ne_nil sep xs)
    by_cases hx : x = sep
    · simp [hx]
    · simp [hx, hxs]

theorem sep_not_mem_of_mem_splitOn {sep : Char} {xs piece : List Char} (h : piece ∈ xs.splitOn sep) :
    sep ∉ piece := by
  induction xs generalizing piece with
  | nil =>
    cases List.mem_singleton.1 h
    exact List.not_mem_nil
  | cons x xs ih =>
    rw [List.splitOn_cons_eq_if_modifyHead] at h
    obtain ⟨first, more, hxs⟩ := List.exists_cons_of_ne_nil (List.splitOn_ne_nil sep xs)
    rw [hxs] at h ih
    by_cases hx : x = sep
    · rw [if_pos (beq_iff_eq.2 hx)] at h
      rcases List.mem_cons.1 h with rfl | h
      · exact List.not_mem_nil
      · exact ih h
    · rw [if_neg (mt beq_iff_eq.1 hx), List.modifyHead_cons] at h
      rcases List.mem_cons.1 h with rfl | h
      · exact List.not_mem_cons_of_ne_of_not_mem (Ne.symm hx) (ih List.mem_cons_self)
      · exact ih (List.mem_cons_of_mem _ h)

variable {sep : Char} {text front piece : String} {pieces : List String}

theorem not_mem_of_mem_splitOn (h : piece ∈ splitOn sep text) : sep ∉ piece.toList := by
  obtain ⟨chars, hchars, rfl⟩ := List.mem_map.1 h
  rw [String.toList_ofList]
  exact sep_not_mem_of_mem_splitOn hchars

theorem splitOn_intercalate (h : ∀ p ∈ pieces, sep ∉ p.toList) (hne : pieces ≠ []) :
    splitOn sep ((String.singleton sep).intercalate pieces) = pieces := by
  have hsep : ∀ l ∈ pieces.map String.toList, sep ∉ l := by
    intro l hl
    obtain ⟨p, hp, rfl⟩ := List.mem_map.1 hl
    exact h p hp
  have hlists := List.splitOn_intercalate sep hsep (by simpa using hne)
  rw [splitOn, String.toList_intercalate, String.toList_singleton, hlists, List.map_map]
  exact (List.map_congr_left fun p _ => String.ofList_toList).trans (List.map_id pieces)

theorem intercalate_splitOn (sep : Char) (text : String) :
    (String.singleton sep).intercalate (splitOn sep text) = text := by
  have hlists : ((text.toList.splitOn sep).map String.ofList).map String.toList = text.toList.splitOn sep := by
    rw [List.map_map]
    exact (List.map_congr_left fun p _ => String.toList_ofList).trans (List.map_id _)
  rw [← String.toList_inj, String.toList_intercalate, String.toList_singleton, splitOn, hlists]
  exact List.intercalate_splitOn sep

theorem span_append (h : sep ∉ front.toList) (rest : List Char) (hrest : rest.head?.all (· = sep)) :
    (front.toList ++ rest).span (· ≠ sep) = (front.toList, rest) := by
  have hfront : ∀ c ∈ front.toList, decide (c ≠ sep) = true := by
    intro c hc
    apply decide_eq_true
    rintro rfl
    exact h hc
  rw [List.span_eq_takeWhile_dropWhile, List.takeWhile_append_of_pos hfront, List.dropWhile_append_of_pos hfront]
  cases rest with
  | nil => simp
  | cons c rest =>
    have hc : c = sep := by simpa using hrest
    simp [hc]

theorem cut_of_not_mem (h : sep ∉ text.toList) : cut sep text = (text, none) := by
  have hspan := span_append h [] rfl
  rw [List.append_nil] at hspan
  rw [cut, hspan]
  exact congrArg (·, none) String.ofList_toList

theorem cut_append (h : sep ∉ front.toList) (rest : String) :
    cut sep (front ++ String.singleton sep ++ rest) = (front, some rest) := by
  have hspan := span_append h (sep :: rest.toList) (by simp)
  rw [cut, String.toList_append, String.toList_append, String.toList_singleton, List.append_assoc,
    List.singleton_append, hspan]
  dsimp only
  rw [String.ofList_toList, String.ofList_toList]

theorem exists_cut (sep : Char) (text : String) : sep ∉ text.toList ∨
    ∃ front rest, sep ∉ front.toList ∧ text = front ++ String.singleton sep ++ rest := by
  by_cases h : sep ∈ text.toList
  · obtain ⟨front, rest, htext, hfront⟩ := List.eq_append_cons_of_mem h
    refine .inr ⟨String.ofList front, String.ofList rest, ?_, ?_⟩
    · rw [String.toList_ofList]
      exact hfront
    · rw [← String.toList_inj, htext]
      simp
  · exact .inl h

end RpcBindings.Text
