import RpcBindings.Proofs.Json.RoundTrip

namespace RpcBindings.Json

open RpcBindings.Data

/-- The text is a literal for `s` that stays apart from all that surrounds it. -/
structure IsPlainLiteral (text s : String) : Prop where
  ends : ∃ inner : List Char, text.toList = '"' :: inner ++ ['"'] ∧
    ∀ start rest, readText start 0 [] (inner ++ '"' :: rest) = .ok (s, rest)
  read : Json.read text = .ok (.text s)
  printed : ∀ c ∈ text.toList, 0x20 ≤ c.toNat ∧ c.toNat ≤ 0x7e
  unmarked : ∀ c ∈ text.toList, c ≠ '<' ∧ c ≠ '>' ∧ c ≠ '&' ∧ c ≠ '\''

variable {c d : Char} {n : Nat}

theorem markup_holds_iff : Repertoire.markup.holds c = true ↔
    (0x20 ≤ c.toNat ∧ c.toNat ≤ 0x7e) ∧ c ≠ '<' ∧ c ≠ '>' ∧ c ≠ '&' ∧ c ≠ '\'' := by
  simp [Repertoire.markup, Repertoire.ascii]

theorem markup_printed : Repertoire.markup.Printed := by
  constructor
  intro c h
  exact (markup_holds_iff.1 h).1.1

theorem holds_digitChar {digit : Nat} (h : digit < 16) : Repertoire.markup.holds digit.digitChar = true := by
  have hall : ∀ digit < 16, Repertoire.markup.holds (Nat.digitChar digit) = true := by decide
  exact hall digit h

theorem holds_of_mem_toDigits (h : c ∈ Nat.toDigits 16 n) : Repertoire.markup.holds c = true := by
  induction n using Nat.strongRecOn with
  | ind n ih =>
    by_cases hn : n < 16
    · rw [Nat.toDigits_of_lt_base hn, List.mem_singleton] at h
      rw [h]
      exact holds_digitChar hn
    · rw [Nat.toDigits_of_base_le (by decide) (Nat.le_of_not_lt hn), List.mem_append, List.mem_singleton] at h
      rcases h with h | h
      · exact ih (n / 16) (by omega) h
      · rw [h]
        exact holds_digitChar (Nat.mod_lt n (by decide))

theorem holds_of_mem_unitEscape (h : c ∈ unitEscape n) : Repertoire.markup.holds c = true := by
  rw [unitEscape, Text.hex, String.toList_ofList, List.mem_cons, List.mem_cons, List.mem_append] at h
  rcases h with rfl | rfl | h | h
  · decide
  · decide
  · rw [(List.mem_replicate.1 h).2]
    decide
  · exact holds_of_mem_toDigits h

theorem holds_of_mem_wideEscape (h : c ∈ wideEscape d) : Repertoire.markup.holds c = true := by
  rw [wideEscape] at h
  split at h
  · exact holds_of_mem_unitEscape h
  · rcases List.mem_append.1 h with h | h
    · exact holds_of_mem_unitEscape h
    · exact holds_of_mem_unitEscape h

theorem holds_of_shortEscape? (h : shortEscape? d = some c) : Repertoire.markup.holds c = true := by
  rw [shortEscape?.eq_def] at h
  split at h
  all_goals
    cases h
  all_goals
    decide

theorem holds_of_mem_escapeChar (h : c ∈ escapeChar Repertoire.markup d) :
    Repertoire.markup.holds c = true := by
  rw [escapeChar] at h
  cases hshort : shortEscape? d with
  | some e =>
    rw [hshort] at h
    rcases List.mem_cons.1 h with rfl | h
    · decide
    · rw [List.mem_singleton.1 h]
      exact holds_of_shortEscape? hshort
  | none =>
    rw [hshort] at h
    cases hholds : Repertoire.markup.holds d with
    | true =>
      rw [hholds, if_pos rfl] at h
      rw [List.mem_singleton.1 h]
      exact hholds
    | false =>
      rw [hholds, if_neg Bool.false_ne_true] at h
      exact holds_of_mem_wideEscape h

theorem holds_of_mem_literal {s : String} (h : c ∈ (literal Repertoire.markup s).toList) :
    Repertoire.markup.holds c = true := by
  rw [literal, String.toList_ofList, List.cons_append, List.mem_cons, List.mem_append, List.mem_flatMap,
    List.mem_singleton] at h
  rcases h with rfl | ⟨d, -, h⟩ | rfl
  · decide
  · exact holds_of_mem_escapeChar h
  · decide

theorem isPlainLiteral_literal (s : String) : IsPlainLiteral (literal Repertoire.markup s) s := by
  have hread := read_write (l := ⟨Repertoire.markup, none⟩) markup_printed (.text s) 0
  rw [write_text] at hread
  constructor
  · refine ⟨s.toList.flatMap (escapeChar Repertoire.markup), by simp [literal], ?_⟩
    intro start rest
    rw [readText_escaped markup_printed, List.reverse_nil, List.nil_append, String.ofList_toList]
  · exact hread
  · intro c hc
    exact (markup_holds_iff.1 (holds_of_mem_literal hc)).1
  · intro c hc
    exact (markup_holds_iff.1 (holds_of_mem_literal hc)).2

end RpcBindings.Json
