import Mathlib.Data.List.TakeDrop
import Mathlib.Data.List.Basic
import RpcBindings.Json.Reader

namespace RpcBindings.Json

open RpcBindings.Data

/-- No number goes on here. -/
def Stops (s : List Char) : Prop :=
  ∀ c ∈ s.head?, c.isDigit = false ∧ c ≠ '.' ∧ c ≠ 'e' ∧ c ≠ 'E'

theorem digitsValue_toDigits (n : Nat) : digitsValue (Nat.toDigits 10 n) = n := by
  have hvalue : Nat.ofDigitChars 10 (Nat.toDigits 10 n) 0 = n :=
    Nat.ofDigitChars_toDigits (by decide) (by decide)
  rw [digitsValue]
  simp only [Nat.mul_comm _ 10]
  exact hvalue

theorem isDigit_of_mem_toDigits {n : Nat} {c : Char} (h : c ∈ Nat.toDigits 10 n) : c.isDigit = true :=
  Nat.isDigit_of_mem_toDigits (by decide) (by decide) h

theorem head?_toDigits {n : Nat} (h : 0 < n) : (Nat.toDigits 10 n).head? ≠ some '0' := by
  induction n using Nat.strongRecOn with
  | ind n ih =>
    by_cases hn : n < 10
    · rw [Nat.toDigits_of_lt_base hn]
      have hall : ∀ n < 10, 0 < n → [n.digitChar].head? ≠ some '0' := by decide
      exact hall n hn h
    · have hfront := ih (n / 10) (by omega) (by omega)
      rw [Nat.toDigits_of_base_le (by decide) (Nat.le_of_not_lt hn),
        List.head?_append_of_ne_nil _ Nat.toDigits_ne_nil]
      exact hfront

theorem span_toDigits {rest : List Char} (h : Stops rest) (n : Nat) :
    (Nat.toDigits 10 n ++ rest).span Char.isDigit = (Nat.toDigits 10 n, rest) := by
  rw [List.span_eq_takeWhile_dropWhile, List.takeWhile_append_of_pos (fun _ => isDigit_of_mem_toDigits),
    List.dropWhile_append_of_pos (fun _ => isDigit_of_mem_toDigits)]
  cases rest with
  | nil => simp
  | cons c rest =>
    have hc := (h c rfl).1
    simp [hc]

theorem fraction?_of_stops {rest : List Char} (h : Stops rest) : fraction? rest = none := by
  cases rest with
  | nil => rfl
  | cons c rest =>
    have hc := (h c rfl).2.1
    rw [fraction?.eq_2]
    intro rest' heq
    cases heq
    exact hc rfl

theorem exponent?_of_stops {rest : List Char} (h : Stops rest) : exponent? rest = none := by
  cases rest with
  | nil => rfl
  | cons c rest =>
    obtain ⟨-, -, hlower, hupper⟩ := h c rfl
    rw [exponent?.eq_def]
    exact if_neg (by simp [hlower, hupper])

def signOf : List Char → Bool × List Char
  | '-' :: r => (true, r)
  | r => (false, r)

def wholeOf : List Char → List Char × List Char
  | '0' :: r => (['0'], r)
  | r => r.span Char.isDigit

/-- Reads a number on from its whole part; a fault is told by the characters that were left before it. -/
def numberFrom (left : Nat) (minus : Bool) (whole rest : List Char) : Except Fault (Value × List Char) :=
  if whole.isEmpty then .error ⟨.value, left⟩
  else
    let (places, rest', real) := match fraction? rest with
      | some (ds, r) => (ds, r, true)
      | none => ([], rest, false)
    let (power, rest'', real) := match exponent? rest' with
      | some (e, r) => (e, r, true)
      | none => (0, rest', real)
    if real then
      let d : Number.Binary64.Decimal := ⟨digitsValue (whole ++ places), power - places.length⟩
      .ok (.float (Number.Binary64.ofDecimal minus d), rest'')
    else if 4300 < whole.length then .error ⟨.tooManyDigits whole.length, left⟩
    else
      let n : Int := digitsValue whole
      .ok (.int (if minus then -n else n), rest'')

theorem readNumber_eq (s : List Char) :
    readNumber s = numberFrom s.length (signOf s).1 (wholeOf (signOf s).2).1 (wholeOf (signOf s).2).2 := rfl

theorem numberFrom_toDigits {n : Nat} (hn : (Nat.toDigits 10 n).length ≤ 4300) {rest : List Char}
    (h : Stops rest) (left : Nat) (minus : Bool) :
    numberFrom left minus (Nat.toDigits 10 n) rest = .ok (.int (if minus then -n else n), rest) := by
  have hne : (Nat.toDigits 10 n).isEmpty = false := by simp
  rw [numberFrom, hne, fraction?_of_stops h]
  dsimp only
  rw [exponent?_of_stops h]
  dsimp only
  rw [if_neg Bool.false_ne_true, if_neg Bool.false_ne_true, if_neg (Nat.not_lt.2 hn),
    digitsValue_toDigits]

theorem signOf_toDigits (n : Nat) (rest : List Char) :
    signOf (Nat.toDigits 10 n ++ rest) = (false, Nat.toDigits 10 n ++ rest) := by
  cases hdigits : Nat.toDigits 10 n with
  | nil => exact absurd hdigits Nat.toDigits_ne_nil
  | cons c ds =>
    have hc : c.isDigit = true := isDigit_of_mem_toDigits (hdigits ▸ List.mem_cons_self)
    rw [List.cons_append]
    apply signOf.eq_2
    intro r heq
    cases heq
    cases hc

theorem wholeOf_toDigits {rest : List Char} (h : Stops rest) (n : Nat) :
    wholeOf (Nat.toDigits 10 n ++ rest) = (Nat.toDigits 10 n, rest) := by
  rcases Nat.eq_zero_or_pos n with rfl | hpos
  · rfl
  · have hhead := head?_toDigits hpos
    rw [wholeOf.eq_2, span_toDigits h]
    intro r heq
    cases hdigits : Nat.toDigits 10 n with
    | nil => exact absurd hdigits Nat.toDigits_ne_nil
    | cons c ds =>
      rw [hdigits] at hhead heq
      cases heq
      exact hhead rfl

/-- An integer that a reader takes. -/
def ShortInt (n : Int) : Prop := (Nat.toDigits 10 n.natAbs).length ≤ 4300

instance (n : Int) : Decidable (ShortInt n) := inferInstanceAs (Decidable (_ ≤ _))

theorem length_toDigits_le_iff {n k : Nat} (hk : 0 < k) : (Nat.toDigits 10 n).length ≤ k ↔ n < Nat.pow 10 k :=
  Nat.length_toDigits_le_iff (by decide) hk

theorem length_toDigits_mono {m n : Nat} (h : m ≤ n) :
    (Nat.toDigits 10 m).length ≤ (Nat.toDigits 10 n).length := by
  have hpos : 0 < (Nat.toDigits 10 n).length := Nat.length_toDigits_pos
  have hn := (length_toDigits_le_iff hpos).1 (Nat.le_refl _)
  exact (length_toDigits_le_iff hpos).2 (Nat.lt_of_le_of_lt h hn)

theorem ShortInt.mono {m n : Nat} (hn : ShortInt n) (h : m ≤ n) : ShortInt m :=
  Nat.le_trans (length_toDigits_mono h) hn

theorem length_toDigits_le {n k m : Nat} (h : n < Nat.pow 10 k) (hk : k ≤ m) (hm : 0 < m) :
    (Nat.toDigits 10 n).length ≤ m :=
  (length_toDigits_le_iff hm).2 (Nat.lt_of_lt_of_le h (Nat.pow_le_pow_right (by decide) hk))

theorem shortInt_neg (n : Int) : ShortInt (-n) ↔ ShortInt n := by
  rw [ShortInt, Int.natAbs_neg, ShortInt]

theorem toList_toString_int (n : Int) :
    (toString n).toList = (if n < 0 then ['-'] else []) ++ Nat.toDigits 10 n.natAbs := by
  have htext : toString n = n.repr := rfl
  rw [htext, Int.repr_eq_if]
  by_cases h : n < 0
  · have hnat : (-n).toNat = n.natAbs := by omega
    rw [if_neg (by omega), if_pos h, hnat, Nat.repr_eq_ofList_toDigits, String.toList_append]
    exact congrArg (['-'] ++ ·) String.toList_ofList
  · have hnat : n.toNat = n.natAbs := by omega
    rw [if_pos (by omega), if_neg h, hnat, Nat.repr_eq_ofList_toDigits, String.toList_ofList]
    rfl

theorem readNumber_int {n : Int} (hn : ShortInt n) {rest : List Char} (h : Stops rest) :
    readNumber ((toString n).toList ++ rest) = .ok (.int n, rest) := by
  rw [toList_toString_int, readNumber_eq]
  by_cases hneg : n < 0
  · have hint : -(n.natAbs : Int) = n := by omega
    rw [if_pos hneg, List.append_assoc, List.singleton_append, signOf, wholeOf_toDigits h,
      numberFrom_toDigits hn h, if_pos rfl, hint]
  · have hint : (n.natAbs : Int) = n := by omega
    rw [if_neg hneg, List.nil_append, signOf_toDigits, wholeOf_toDigits h, numberFrom_toDigits hn h,
      if_neg Bool.false_ne_true, hint]

theorem ne_of_isDigit {c d : Char} (hc : c.isDigit = true) (hd : d.isDigit = false) : d ≠ c := by
  rintro rfl
  rw [hc] at hd
  cases hd

theorem word?_digit {c : Char} (hc : c.isDigit = true) (rest : List Char) : word? (c :: rest) = none := by
  have hn := ne_of_isDigit (d := 'n') hc rfl
  have ht := ne_of_isDigit (d := 't') hc rfl
  have hf := ne_of_isDigit (d := 'f') hc rfl
  have hnan := ne_of_isDigit (d := 'N') hc rfl
  have hinfinity := ne_of_isDigit (d := 'I') hc rfl
  have hminus := ne_of_isDigit (d := '-') hc rfl
  simp [word?, words, hn, ht, hf, hnan, hinfinity, hminus]

theorem word?_minus {c : Char} (hc : c.isDigit = true) (rest : List Char) :
    word? ('-' :: c :: rest) = none := by
  have hinfinity := ne_of_isDigit (d := 'I') hc rfl
  simp [word?, words, hinfinity]

theorem toString_int_cases (n : Int) : ∃ c ds, c.isDigit = true ∧
    ((toString n).toList = c :: ds ∨ (toString n).toList = '-' :: c :: ds) := by
  rw [toList_toString_int]
  cases hdigits : Nat.toDigits 10 n.natAbs with
  | nil => exact absurd hdigits Nat.toDigits_ne_nil
  | cons c ds =>
    have hc : c.isDigit = true := isDigit_of_mem_toDigits (hdigits ▸ List.mem_cons_self)
    refine ⟨c, ds, hc, ?_⟩
    by_cases h : n < 0
    · rw [if_pos h]
      exact .inr rfl
    · rw [if_neg h]
      exact .inl rfl

theorem readValue_digit {c : Char} (hc : c.isDigit = true) (fuel : Nat) (rest : List Char) :
    readValue (fuel + 1) (c :: rest) = readNumber (c :: rest) := by
  rw [readValue.eq_5, word?_digit hc]
  · intro r heq
    cases heq
    cases hc
  · intro r heq
    cases heq
    cases hc
  · intro r heq
    cases heq
    cases hc

theorem readValue_minus {c : Char} (hc : c.isDigit = true) (fuel : Nat) (rest : List Char) :
    readValue (fuel + 1) ('-' :: c :: rest) = readNumber ('-' :: c :: rest) := by
  rw [readValue.eq_5, word?_minus hc]
  all_goals
    intro r heq
    cases heq

end RpcBindings.Json
