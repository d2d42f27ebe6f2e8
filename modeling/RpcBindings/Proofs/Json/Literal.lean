import RpcBindings.Json.Reader

namespace RpcBindings

namespace Text

theorem length_hex {n : Nat} (h : n < 0x10000) : (hex 4 n).toList.length = 4 := by
  have hdigits : (Nat.toDigits 16 n).length ≤ 4 := (Nat.length_toDigits_le_iff (by decide) (by decide)).2 h
  rw [hex, String.toList_ofList, List.length_append, List.length_replicate]
  omega

end Text

namespace Json

def hexValue (start : Option Nat) (ds : List Char) : Option Nat :=
  ds.foldl (fun acc c => do return (← acc) * 16 + (← hexDigit? c)) start

theorem hexDigit?_digitChar {d : Nat} (h : d < 16) : hexDigit? d.digitChar = some d := by
  have hall : ∀ d < 16, hexDigit? d.digitChar = some d := by decide
  exact hall d h

theorem hexValue_append (start : Option Nat) (ds ds' : List Char) :
    hexValue start (ds ++ ds') = hexValue (hexValue start ds) ds' := List.foldl_append

theorem hexValue_zeros (k : Nat) : hexValue (some 0) (List.replicate k '0') = some 0 := by
  induction k with
  | zero => rfl
  | succ k ih =>
    rw [List.replicate_succ]
    exact ih

theorem hexValue_toDigits (n : Nat) : hexValue (some 0) (Nat.toDigits 16 n) = some n := by
  induction n using Nat.strongRecOn with
  | ind n ih =>
    by_cases h : n < 16
    · rw [Nat.toDigits_of_lt_base h, hexValue, List.foldl_cons, List.foldl_nil, hexDigit?_digitChar h]
      simp
    · have hdigit := hexDigit?_digitChar (Nat.mod_lt n (by decide : 0 < 16))
      rw [Nat.toDigits_of_base_le (by decide) (Nat.le_of_not_lt h), hexValue_append,
        ih (n / 16) (by omega), hexValue, List.foldl_cons, List.foldl_nil, hdigit]
      simp only [bind, Option.bind, pure]
      congr 1
      omega

theorem unit?_hex {n : Nat} (h : n < 0x10000) (rest : List Char) :
    unit? ((Text.hex 4 n).toList ++ rest) = some n := by
  have hlength := Text.length_hex h
  have htake : ((Text.hex 4 n).toList ++ rest).take 4 = (Text.hex 4 n).toList := List.take_left' hlength
  rw [unit?, if_neg (by simp [hlength]), htake, Text.hex, String.toList_ofList]
  change hexValue (some 0) _ = _
  rw [hexValue_append, hexValue_zeros, hexValue_toDigits]

variable {start : Nat} {acc rest : List Char}

theorem readText_skip (start : Nat) (acc passed rest : List Char) :
    readText start passed.length acc (passed ++ rest) = readText start 0 acc rest := by
  induction passed with
  | nil => rfl
  | cons c passed ih =>
    rw [List.length_cons, List.cons_append, readText]
    exact ih

theorem readText_short {e c : Char} (h : unescape? e = some c) :
    readText start 0 acc ('\\' :: e :: rest) = readText start 0 (c :: acc) rest := by
  have he : e ≠ 'u' := by
    rintro rfl
    cases h
  rw [readText.eq_6 _ _ _ _ he, h]

theorem readText_held {c : Char} (hquote : c ≠ '"') (hslash : c ≠ '\\') (hprinted : 0x20 ≤ c.toNat) :
    readText start 0 acc (c :: rest) = readText start 0 (c :: acc) rest := by
  rw [readText.eq_7 _ _ _ _ hquote, if_neg (Nat.not_lt.2 hprinted)]
  · intro hc
    exact absurd hc hslash
  · intro _ hc
    exact absurd hc hslash
  · intro _ _ hc
    exact absurd hc hslash

theorem readText_unit {n : Nat} (h : n < 0xd800 ∨ 0xe000 ≤ n) (hn : n < 0x10000) (hrest : rest ≠ []) :
    readText start 0 acc (unitEscape n ++ rest) = readText start 0 (Char.ofNat n :: acc) rest := by
  have hlength := Text.length_hex hn
  have hmore : ¬ ((Text.hex 4 n).toList ++ rest).length < 5 := by
    have hpos := List.length_pos_iff.2 hrest
    rw [List.length_append, hlength]
    omega
  have hskip := readText_skip start (Char.ofNat n :: acc) (Text.hex 4 n).toList rest
  rw [hlength] at hskip
  rw [unitEscape, List.cons_append, List.cons_append, readText.eq_5, unit?_hex hn]
  dsimp only
  rw [if_neg hmore, if_neg (by omega), if_neg (by omega)]
  exact hskip

theorem lowHalf?_unit {n : Nat} (h : 0xdc00 ≤ n) (hn : n < 0xe000) (hrest : rest ≠ []) :
    lowHalf? (unitEscape n ++ rest) = some n := by
  have hpos := List.length_pos_iff.2 hrest
  have hlength := Text.length_hex (n := n) (by omega)
  rw [unitEscape, List.cons_append, List.cons_append, lowHalf?, unit?_hex (by omega)]
  simp only [Option.filter, List.length_append, hlength, h, hn, and_true, decide_eq_true_eq]
  rw [if_pos (by omega)]

theorem readText_pair {n m : Nat} (h : 0xd800 ≤ n) (hn : n < 0xdc00) (hm : 0xdc00 ≤ m) (hm' : m < 0xe000)
    (hrest : rest ≠ []) :
    readText start 0 acc (unitEscape n ++ (unitEscape m ++ rest)) =
      readText start 0 (Char.ofNat (0x10000 + (n - 0xd800) * 0x400 + (m - 0xdc00)) :: acc) rest := by
  have hlength := Text.length_hex (n := n) (by omega)
  have hlength' := Text.length_hex (n := m) (by omega)
  have hmore : ¬ ((Text.hex 4 n).toList ++ (unitEscape m ++ rest)).length < 5 := by
    have hpos := List.length_pos_iff.2 hrest
    rw [List.length_append, List.length_append, hlength]
    omega
  have hdrop : ((Text.hex 4 n).toList ++ (unitEscape m ++ rest)).drop 4 = unitEscape m ++ rest :=
    List.drop_left' hlength
  have hten : ((Text.hex 4 n).toList ++ unitEscape m).length = 10 := by
    simp only [unitEscape, List.length_append, List.length_cons, hlength, hlength']
  have hskip := readText_skip start (Char.ofNat (0x10000 + (n - 0xd800) * 0x400 + (m - 0xdc00)) :: acc)
    ((Text.hex 4 n).toList ++ unitEscape m) rest
  rw [hten, List.append_assoc] at hskip
  rw [unitEscape.eq_def n, List.cons_append, List.cons_append, readText.eq_5, unit?_hex (by omega)]
  dsimp only
  rw [if_neg hmore, if_pos ⟨h, hn⟩, hdrop, lowHalf?_unit hm hm' hrest]
  exact hskip

theorem readText_wide (c : Char) (hrest : rest ≠ []) :
    readText start 0 acc (wideEscape c ++ rest) = readText start 0 (c :: acc) rest := by
  have hvalid : c.toNat < 0xd800 ∨ 0xdfff < c.toNat ∧ c.toNat < 0x110000 := c.valid
  have hc := Char.ofNat_toNat c
  rw [wideEscape]
  by_cases hn : c.toNat < 0x10000
  · rw [if_pos hn, readText_unit (by omega) hn hrest, hc]
  · have hsum : 0x10000 + (0xd800 + (c.toNat - 0x10000) / 0x400 - 0xd800) * 0x400 +
        (0xdc00 + (c.toNat - 0x10000) % 0x400 - 0xdc00) = c.toNat := by omega
    rw [if_neg hn, List.append_assoc,
      readText_pair (by omega) (by omega) (by omega) (by omega) hrest, hsum, hc]

theorem unescape?_of_shortEscape? {c e : Char} (h : shortEscape? c = some e) : unescape? e = some c := by
  rw [shortEscape?.eq_def] at h
  split at h
  all_goals
    cases h
  all_goals
    rfl

/-- What a literal holds as it is reads as itself. -/
structure Repertoire.Printed (r : Repertoire) : Prop where
  le_toNat : ∀ c, r.holds c = true → 0x20 ≤ c.toNat

theorem Repertoire.unicode_printed : Repertoire.unicode.Printed := ⟨fun _ h => of_decide_eq_true h⟩

theorem readText_escapeChar {r : Repertoire} (hr : r.Printed) (c : Char) (hrest : rest ≠ []) :
    readText start 0 acc (escapeChar r c ++ rest) = readText start 0 (c :: acc) rest := by
  rw [escapeChar]
  cases hshort : shortEscape? c with
  | some e => exact readText_short (unescape?_of_shortEscape? hshort)
  | none =>
    dsimp only
    cases hholds : r.holds c with
    | false => exact readText_wide c hrest
    | true =>
      apply readText_held _ _ (hr.le_toNat c hholds)
      · rintro rfl
        cases hshort
      · rintro rfl
        cases hshort

theorem readText_escaped {r : Repertoire} (hr : r.Printed) (cs : List Char) (start : Nat)
    (acc rest : List Char) :
    readText start 0 acc (cs.flatMap (escapeChar r) ++ '"' :: rest) =
      .ok (String.ofList (acc.reverse ++ cs), rest) := by
  induction cs generalizing acc with
  | nil =>
    rw [List.flatMap_nil, List.nil_append, readText_quote, List.append_nil]
  | cons c cs ih =>
    have hrest : cs.flatMap (escapeChar r) ++ '"' :: rest ≠ [] :=
      List.append_ne_nil_of_right_ne_nil _ (List.cons_ne_nil _ _)
    rw [List.flatMap_cons, List.append_assoc, readText_escapeChar hr c hrest, ih, List.reverse_cons,
      List.append_assoc]
    rfl

theorem readText_literal {r : Repertoire} (hr : r.Printed) (s : String) (rest : List Char) :
    ∃ tail, (literal r s).toList ++ rest = '"' :: tail ∧
      ∀ start, readText start 0 [] tail = .ok (s, rest) := by
  refine ⟨s.toList.flatMap (escapeChar r) ++ '"' :: rest, ?_, ?_⟩
  · simp [literal]
  · intro start
    rw [readText_escaped hr, List.reverse_nil, List.nil_append, String.ofList_toList]

end Json

end RpcBindings
