import RpcBindings.Proofs.Config.Merged
import RpcBindings.Proofs.Json.Numbers

namespace RpcBindings

open RpcBindings.Assignments
open RpcBindings.Data

namespace Schema

theorem forall_mem_of_map_cons {p : α → Prop} {a : α} {found : Option (List α)} {as : List α} (ha : p a)
    (hfound : ∀ as, found = some as → ∀ x ∈ as, p x) (h : found.map (a :: ·) = some as) : ∀ x ∈ as, p x := by
  obtain ⟨more, hmore, rfl⟩ := Option.map_eq_some_iff.1 h
  exact List.forall_mem_cons.2 ⟨ha, hfound more hmore⟩

theorem isDigit_of_readDigits {s ds : List Char} (h : readDigits s = some ds) :
    ∀ c ∈ ds, c.isDigit = true := by
  fun_induction readDigits s generalizing ds with
  | case1 => cases h
  | case2 => cases h
  | case3 c hc =>
    cases h
    simpa using hc
  | case4 c hc rest ih => exact forall_mem_of_map_cons (by simpa using hc) (fun _ => ih) h
  | case5 c hc rest _ _ ih => exact forall_mem_of_map_cons (by simpa using hc) (fun _ => ih) h

theorem isDigit_of_readIntDigits {s : List Char} {minus : Bool} {ds : List Char}
    (h : readIntDigits s = some (minus, ds)) : ∀ c ∈ ds, c.isDigit = true := by
  unfold readIntDigits at h
  dsimp only at h
  obtain ⟨-, h⟩ := Option.ite_none_right_eq_some.1 h
  obtain ⟨digits, hdigits, heq⟩ := Option.map_eq_some_iff.1 h
  cases heq
  exact isDigit_of_readDigits hdigits

/-- Digits read one after another make a number below the power of ten that they are places for. -/
theorem exists_value_lt {ds : List Char} (h : ∀ c ∈ ds, c.isDigit = true) {acc k : Nat} (hacc : acc < Nat.pow 10 k) :
    ∃ n : Nat, ds.foldl (fun (n : Int) c => n * 10 + (c.toNat - 48)) acc = n ∧ n < Nat.pow 10 (k + ds.length) := by
  induction ds generalizing acc k with
  | nil => exact ⟨acc, rfl, hacc⟩
  | cons c rest ih =>
    obtain ⟨hc, hrest⟩ := List.forall_mem_cons.1 h
    have hdigit : 48 ≤ c.toNat ∧ c.toNat ≤ 57 := by simpa [Char.isDigit, UInt32.le_iff_toNat_le] using hc
    have hstep : (acc : Int) * 10 + (c.toNat - 48) = (acc * 10 + (c.toNat - 48) : Nat) := by omega
    have hnext : acc * 10 + (c.toNat - 48) < Nat.pow 10 (k + 1) := by
      rw [Nat.pow_eq, Nat.pow_succ, ← Nat.pow_eq]
      omega
    obtain ⟨n, hn, hlt⟩ := ih hrest hnext
    refine ⟨n, ?_, ?_⟩
    · rw [List.foldl_cons, hstep, hn]
    · rwa [List.length_cons, Nat.add_comm rest.length, ← Nat.add_assoc]

theorem shortInt_of_text {s : String} {n : Int} (h : int (.text s) = .pass n) : Json.ShortInt n := by
  dsimp only [int, text?, text, Option.bind_some] at h
  cases hread : readIntDigits s.toList with
  | none =>
    rw [hread] at h
    cases h
  | some found =>
    obtain ⟨minus, ds⟩ := found
    rw [hread] at h
    dsimp only at h
    by_cases hlong : 4300 < (ds.dropWhile (· = '0')).length
    · rw [if_pos hlong] at h
      cases h
    · rw [if_neg hlong] at h
      cases h
      have hdigits : ∀ c ∈ ds.dropWhile (· = '0'), c.isDigit = true := fun c hc =>
        isDigit_of_readIntDigits hread c (List.dropWhile_subset _ hc)
      obtain ⟨n, hn, hlt⟩ := exists_value_lt (k := 0) hdigits Nat.zero_lt_one
      have hshort : Json.ShortInt n := Json.length_toDigits_le hlt (by omega) (by decide)
      rw [Int.natCast_zero] at hn
      rw [hn]
      cases minus with
      | true => exact (Json.shortInt_neg _).2 hshort
      | false => exact hshort

theorem shortInt_of_taken {v? : Option Value} {n : Nat} (h : Taken natural 0 v? n)
    (hv : ∀ v, v? = some v → ∃ s, v = .text s) : Json.ShortInt n := by
  cases v? with
  | none =>
    cases h
    decide
  | some v =>
    obtain ⟨s, rfl⟩ := hv v rfl
    obtain ⟨i, hi, h⟩ := Check.andThen_eq_pass.1 h
    have hshort := shortInt_of_text hi
    by_cases hneg : i < 0
    · rw [if_pos hneg] at h
      cases h
    · rw [if_neg hneg] at h
      cases h
      rwa [Int.toNat_of_nonneg (Int.not_lt.1 hneg)]

end Schema

theorem Config.shortInt_of_build {o : Overrides} {c : Config} (h : build [some o] = .ok c)
    (ho : ∀ e ∈ o, ∃ s, e.2 = .text s) : Json.ShortInt c.queryStaleTime := by
  refine Schema.shortInt_of_taken (build_eq_ok.1 h).2.queryStaleTime fun v hv => ?_
  have hmem := mem_of_last? hv
  rw [values, List.flatMap_singleton] at hmem
  exact ho _ (List.mem_filter.1 hmem).1

end RpcBindings
