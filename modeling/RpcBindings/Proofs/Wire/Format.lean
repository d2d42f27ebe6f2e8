import RpcBindings.Wire.Field
import Mathlib.Algebra.Group.Nat.Defs

namespace RpcBindings.Wire

/-- The bytes are the number in at most `limit` groups, needed or not. -/
inductive Varint.Spells : Nat → Nat → List UInt8 → Prop where
  | last {limit : Nat} {b : UInt8} (h : b.toNat < 128) : Spells (limit + 1) b.toNat [b]
  | more {limit n : Nat} {b : UInt8} {s : List UInt8} (h : ¬b.toNat < 128) (hs : Spells limit n s) :
      Spells (limit + 1) (n * 128 + (b.toNat - 128)) (b :: s)

variable {limit n number shape fuel : Nat} {s t rest content : List UInt8} {f : Field} {fs gs : List Field}

theorem Varint.Spells.decode (h : Spells limit n s) (rest : List UInt8) :
    Varint.decode limit (s ++ rest) = some (n, rest) := by
  induction h with
  | last h => simp only [List.cons_append, List.nil_append, Varint.decode, if_pos h]
  | more h _ ih => simp only [List.cons_append, Varint.decode, if_neg h, ih, Option.map_some]

theorem Varint.exists_spells (h : Varint.decode limit s = some (n, rest)) :
    ∃ v, s = v ++ rest ∧ Spells limit n v := by
  induction limit generalizing s n with
  | zero => simp [Varint.decode] at h
  | succ limit ih =>
    cases s with
    | nil => simp [Varint.decode] at h
    | cons b s =>
      simp only [Varint.decode] at h
      split at h
      · rename_i hb
        cases h
        exact ⟨[b], rfl, .last hb⟩
      · rename_i hb
        obtain ⟨⟨m, r⟩, hm, heq⟩ := Option.map_eq_some_iff.1 h
        obtain ⟨rfl, rfl⟩ := Prod.mk.inj heq
        obtain ⟨v, rfl, hv⟩ := ih hm
        exact ⟨b :: v, rfl, .more hb hv⟩

theorem Varint.Spells.length_pos (h : Spells limit n s) : 0 < s.length := by
  cases h <;> exact Nat.succ_pos _

theorem Varint.spells_encode (h : n < 128 ^ limit) (hlimit : 0 < limit) :
    Spells limit n (encode n) := by
  induction limit generalizing n with
  | zero => exact absurd hlimit (Nat.lt_irrefl 0)
  | succ limit ih =>
    rw [encode]
    split
    · rename_i hsmall
      have hn : (UInt8.ofNat n).toNat = n := by
        rw [UInt8.toNat_ofNat']
        omega
      have hspells : Spells (limit + 1) (UInt8.ofNat n).toNat [UInt8.ofNat n] := .last (by omega)
      rwa [hn] at hspells
    · rename_i hlarge
      have hquotient : n / 128 < 128 ^ limit := by
        rw [Nat.pow_succ] at h
        omega
      have hpos : 0 < limit := by
        rcases Nat.eq_zero_or_pos limit with rfl | hpos
        · rw [Nat.pow_zero] at hquotient
          omega
        · exact hpos
      have hb : (UInt8.ofNat (n % 128 + 128)).toNat = n % 128 + 128 := by
        rw [UInt8.toNat_ofNat']
        omega
      have hspells := Spells.more (b := UInt8.ofNat (n % 128 + 128)) (by omega) (ih hquotient hpos)
      have hn : n / 128 * 128 + ((UInt8.ofNat (n % 128 + 128)).toNat - 128) = n := by omega
      rwa [hn] at hspells

/-- The bytes are the tag of a field of the given number and shape. -/
structure IsTag (number shape : Nat) (s : List UInt8) : Prop where
  number_pos : 0 < number
  shape_lt : shape < 8
  code_lt : number * 8 + shape < 2 ^ 32
  spells : Varint.Spells 5 (number * 8 + shape) s

theorem IsTag.readTag (h : IsTag number shape t) (rest : List UInt8) :
    readTag (t ++ rest) = some (number, shape, rest) := by
  have hpos := h.number_pos
  have hshape := h.shape_lt
  have hcode := h.code_lt
  have hbounds : ¬(number * 8 + shape < 8 ∨ Nat.pow 2 32 ≤ number * 8 + shape) := by
    rw [Nat.pow_eq]
    omega
  have hnumber : (number * 8 + shape) / 8 = number := by omega
  have hrest : (number * 8 + shape) % 8 = shape := by omega
  simp only [Wire.readTag, h.spells.decode, if_neg hbounds, hnumber, hrest]

theorem exists_isTag (h : readTag s = some (number, shape, rest)) :
    ∃ t, s = t ++ rest ∧ IsTag number shape t := by
  rw [readTag] at h
  split at h
  · rename_i code r hdecode
    split at h
    · cases h
    · rename_i hbounds
      cases h
      rw [Nat.pow_eq] at hbounds
      obtain ⟨t, rfl, ht⟩ := Varint.exists_spells hdecode
      have hcode : code / 8 * 8 + code % 8 = code := by omega
      exact ⟨t, rfl, by omega, by omega, by omega, by rwa [hcode]⟩
  · cases h

theorem IsTag.length_pos (h : IsTag number shape t) : 0 < t.length := h.spells.length_pos

theorem isTag_encode (hpos : 0 < number) (hlt : number < 2 ^ 29) (hshape : shape < 8) :
    IsTag number shape (Varint.encode (number * 8 + shape)) :=
  ⟨hpos, hshape, by omega, Varint.spells_encode (by omega) (by omega)⟩

theorem takeBytes_eq_some : takeBytes n s = some (t, rest) ↔ s = t ++ rest ∧ t.length = n := by
  rw [takeBytes]
  constructor
  · intro h
    split at h
    · rename_i hle
      cases h
      exact ⟨(List.take_append_drop n s).symm, List.length_take_of_le hle⟩
    · cases h
  · rintro ⟨rfl, rfl⟩
    have hle : t.length ≤ (t ++ rest).length := by
      rw [List.length_append]
      omega
    rw [if_pos hle, List.take_left, List.drop_left]

theorem readBytes_eq_some : readBytes s = some (content, rest) ↔
    ∃ l, s = l ++ content ++ rest ∧ Varint.Spells 5 content.length l ∧ content.length < 2 ^ 31 := by
  rw [readBytes]
  constructor
  · intro h
    split at h
    · rename_i m r hdecode
      split at h
      · cases h
      · rename_i hsize
        obtain ⟨rfl, rfl⟩ := takeBytes_eq_some.1 h
        obtain ⟨l, rfl, hl⟩ := Varint.exists_spells hdecode
        rw [Nat.pow_eq] at hsize
        exact ⟨l, (List.append_assoc ..).symm, hl, Nat.lt_of_not_le hsize⟩
    · cases h
  · rintro ⟨l, rfl, hl, hsize⟩
    have hbound : ¬Nat.pow 2 31 ≤ content.length := Nat.not_le.2 hsize
    simp only [List.append_assoc, hl.decode, if_neg hbound]
    exact takeBytes_eq_some.2 ⟨rfl, rfl⟩

/-- The bytes are the fields, one after the other. -/
inductive Written : List Field → List UInt8 → Prop where
  | nil : Written [] []
  | varint {number n : Nat} {t v s : List UInt8} {fs : List Field} (ht : IsTag number 0 t)
      (hv : Varint.Spells 10 n v) (h : Written fs s) :
      Written (⟨number, .varint (n % 2 ^ 64)⟩ :: fs) (t ++ (v ++ s))
  | fixed64 {number : Nat} {t b s : List UInt8} {fs : List Field} (ht : IsTag number 1 t)
      (hb : b.length = 8) (h : Written fs s) : Written (⟨number, .fixed64 b⟩ :: fs) (t ++ (b ++ s))
  | bytes {number : Nat} {t l content s : List UInt8} {fs : List Field} (ht : IsTag number 2 t)
      (hl : Varint.Spells 5 content.length l) (hsize : content.length < 2 ^ 31) (h : Written fs s) :
      Written (⟨number, .bytes content⟩ :: fs) (t ++ (l ++ (content ++ s)))
  | group {number : Nat} {t inner e s : List UInt8} {gs fs : List Field} (ht : IsTag number 3 t)
      (hinner : Written gs inner) (he : IsTag number 4 e) (h : Written fs s) :
      Written (⟨number, .group⟩ :: fs) (t ++ (inner ++ (e ++ s)))
  | fixed32 {number : Nat} {t b s : List UInt8} {fs : List Field} (ht : IsTag number 5 t)
      (hb : b.length = 4) (h : Written fs s) : Written (⟨number, .fixed32 b⟩ :: fs) (t ++ (b ++ s))

theorem Written.append (h : Written fs s) (h' : Written gs t) : Written (fs ++ gs) (s ++ t) := by
  induction h with
  | nil => exact h'
  | varint ht hv _ ih =>
    simp only [List.append_assoc]
    exact .varint ht hv ih
  | fixed64 ht hb _ ih =>
    simp only [List.append_assoc]
    exact .fixed64 ht hb ih
  | bytes ht hl hsize _ ih =>
    simp only [List.append_assoc]
    exact .bytes ht hl hsize ih
  | group ht hinner he _ _ ih =>
    simp only [List.append_assoc]
    exact .group ht hinner he ih
  | fixed32 ht hb _ ih =>
    simp only [List.append_assoc]
    exact .fixed32 ht hb ih

theorem IsTag.exists_fuel (ht : IsTag number shape t) (hfuel : (t ++ s ++ rest).length < fuel) :
    ∃ left, fuel = left + 1 ∧ (s ++ rest).length < left := by
  have hpos := ht.length_pos
  simp only [List.length_append] at hfuel ⊢
  exact ⟨fuel - 1, by omega, by omega⟩

/-- Reading over the fields of a group leaves what follows them, and there is fuel left for that. -/
theorem Written.skipGroups (h : Written gs s) (number : Nat) (outer : List Nat)
    (hfuel : (s ++ rest).length < fuel) :
    ∃ left, rest.length < left ∧
      Wire.skipGroups fuel (number :: outer) (s ++ rest) = Wire.skipGroups left (number :: outer) rest := by
  induction h generalizing number outer rest fuel with
  | nil => exact ⟨fuel, hfuel, rfl⟩
  | varint ht hv _ ih =>
    obtain ⟨left, rfl, hleft⟩ := ht.exists_fuel hfuel
    simp only [List.append_assoc, Wire.skipGroups, ht.readTag, hv.decode, Option.bind_some]
    exact ih number outer (Nat.lt_of_le_of_lt (by simp) hleft)
  | fixed64 ht hb _ ih =>
    obtain ⟨left, rfl, hleft⟩ := ht.exists_fuel hfuel
    simp only [List.append_assoc, Wire.skipGroups, ht.readTag, takeBytes_eq_some.2 ⟨rfl, hb⟩, Option.bind_some]
    exact ih number outer (Nat.lt_of_le_of_lt (by simp) hleft)
  | bytes ht hl hsize _ ih =>
    obtain ⟨left, rfl, hleft⟩ := ht.exists_fuel hfuel
    have hread (r : List UInt8) := readBytes_eq_some.2 ⟨_, (List.append_assoc _ _ r).symm, hl, hsize⟩
    simp only [List.append_assoc, Wire.skipGroups, ht.readTag, hread, Option.bind_some]
    apply ih number outer
    simp only [List.length_append] at hleft ⊢
    omega
  | @group n t inner e s gs fs ht _ he _ ihinner ih =>
    obtain ⟨left, rfl, hleft⟩ := ht.exists_fuel hfuel
    simp only [List.append_assoc, Wire.skipGroups, ht.readTag] at hleft ⊢
    obtain ⟨left, hinner, heq⟩ := ihinner n (number :: outer) hleft
    rw [heq]
    -- The end of the inner group closes it, and the outer one is read on.
    rw [← List.append_assoc] at hinner
    obtain ⟨left, rfl, hleft⟩ := he.exists_fuel hinner
    simp only [Wire.skipGroups, he.readTag, if_true]
    exact ih number outer hleft
  | fixed32 ht hb _ ih =>
    obtain ⟨left, rfl, hleft⟩ := ht.exists_fuel hfuel
    simp only [List.append_assoc, Wire.skipGroups, ht.readTag, takeBytes_eq_some.2 ⟨rfl, hb⟩, Option.bind_some]
    exact ih number outer (Nat.lt_of_le_of_lt (by simp) hleft)

/-- The bytes hold the rest of the open groups, innermost first, each closed by its end tag. -/
inductive Closes : List Nat → List UInt8 → Prop where
  | nil : Closes [] []
  | group {number : Nat} {outer : List Nat} {gs : List Field} {inner e s : List UInt8} (hinner : Written gs inner)
      (he : IsTag number 4 e) (h : Closes outer s) : Closes (number :: outer) (inner ++ (e ++ s))

theorem Closes.field {outer : List Nat} (h : Closes (number :: outer) s) (hf : Written [f] t) :
    Closes (number :: outer) (t ++ s) := by
  cases h with
  | group hinner he h =>
    rw [← List.append_assoc]
    exact .group (hf.append hinner) he h

theorem exists_closes {open? : List Nat} (h : Wire.skipGroups fuel open? s = some rest) :
    ∃ t, s = t ++ rest ∧ Closes open? t := by
  induction fuel generalizing open? s with
  | zero =>
    cases open? with
    | nil =>
      cases h
      exact ⟨[], rfl, .nil⟩
    | cons number outer => cases h
  | succ fuel ih =>
    cases open? with
    | nil =>
      cases h
      exact ⟨[], rfl, .nil⟩
    | cons number outer =>
      simp only [Wire.skipGroups] at h
      split at h
      · cases h
      · rename_i n shape after htag
        obtain ⟨t, rfl, ht⟩ := exists_isTag htag
        split at h
        · obtain ⟨⟨m, r⟩, hm, hskip⟩ := Option.bind_eq_some_iff.1 h
          obtain ⟨v, rfl, hv⟩ := Varint.exists_spells hm
          obtain ⟨u, rfl, hu⟩ := ih hskip
          exact ⟨t ++ (v ++ []) ++ u, by simp, hu.field (.varint ht hv .nil)⟩
        · obtain ⟨⟨b, r⟩, hb, hskip⟩ := Option.bind_eq_some_iff.1 h
          obtain ⟨rfl, hlength⟩ := takeBytes_eq_some.1 hb
          obtain ⟨u, rfl, hu⟩ := ih hskip
          exact ⟨t ++ (b ++ []) ++ u, by simp, hu.field (.fixed64 ht hlength .nil)⟩
        · obtain ⟨⟨b, r⟩, hb, hskip⟩ := Option.bind_eq_some_iff.1 h
          obtain ⟨l, rfl, hl, hsize⟩ := readBytes_eq_some.1 hb
          obtain ⟨u, rfl, hu⟩ := ih hskip
          exact ⟨t ++ (l ++ (b ++ [])) ++ u, by simp, hu.field (.bytes ht hl hsize .nil)⟩
        · obtain ⟨u, rfl, hu⟩ := ih h
          cases hu with
          | @group _ _ _ inner e u hinner he hu =>
            exact ⟨t ++ (inner ++ (e ++ [])) ++ u, by simp, hu.field (.group ht hinner he .nil)⟩
        · split at h
          · rename_i heq
            obtain ⟨u, rfl, hu⟩ := ih h
            rw [heq] at ht
            exact ⟨t ++ u, (List.append_assoc ..).symm, .group .nil ht hu⟩
          · cases h
        · obtain ⟨⟨b, r⟩, hb, hskip⟩ := Option.bind_eq_some_iff.1 h
          obtain ⟨rfl, hlength⟩ := takeBytes_eq_some.1 hb
          obtain ⟨u, rfl, hu⟩ := ih hskip
          exact ⟨t ++ (b ++ []) ++ u, by simp, hu.field (.fixed32 ht hlength .nil)⟩
        · cases h

theorem Written.readField (h : Written (f :: fs) s) :
    ∃ rest, Wire.readField s = some (f, rest) ∧ Written fs rest := by
  rw [Wire.readField]
  cases h with
  | varint ht hv h =>
    simp only [ht.readTag, hv.decode, Option.map_some]
    exact ⟨_, rfl, h⟩
  | fixed64 ht hb h =>
    simp only [ht.readTag, takeBytes_eq_some.2 ⟨rfl, hb⟩, Option.map_some]
    exact ⟨_, rfl, h⟩
  | @bytes n t l content r _ ht hl hsize h =>
    have hread := readBytes_eq_some.2 ⟨l, (List.append_assoc _ _ r).symm, hl, hsize⟩
    simp only [ht.readTag, hread, Option.map_some]
    exact ⟨_, rfl, h⟩
  | @group n t inner e r gs _ ht hinner he h =>
    simp only [ht.readTag]
    obtain ⟨fuel, hfuel, heq⟩ := hinner.skipGroups n []
      (Nat.lt_succ_self (inner ++ (e ++ r)).length)
    rw [heq]
    obtain ⟨fuel, rfl⟩ := Nat.exists_eq_succ_of_ne_zero (Nat.ne_zero_of_lt hfuel)
    simp only [Wire.skipGroups, he.readTag, if_true, Option.map_some]
    exact ⟨_, rfl, h⟩
  | fixed32 ht hb h =>
    simp only [ht.readTag, takeBytes_eq_some.2 ⟨rfl, hb⟩, Option.map_some]
    exact ⟨_, rfl, h⟩

theorem exists_written (h : Wire.readField s = some (f, rest)) : ∃ t, s = t ++ rest ∧ Written [f] t := by
  rw [Wire.readField] at h
  split at h
  · cases h
  · rename_i number shape after htag
    obtain ⟨t, rfl, ht⟩ := exists_isTag htag
    split at h
    · obtain ⟨⟨n, r⟩, hn, heq⟩ := Option.map_eq_some_iff.1 h
      obtain ⟨rfl, rfl⟩ := Prod.mk.inj heq
      obtain ⟨v, rfl, hv⟩ := Varint.exists_spells hn
      exact ⟨t ++ (v ++ []), by simp, .varint ht hv .nil⟩
    · obtain ⟨⟨b, r⟩, hb, heq⟩ := Option.map_eq_some_iff.1 h
      obtain ⟨rfl, rfl⟩ := Prod.mk.inj heq
      obtain ⟨rfl, hlength⟩ := takeBytes_eq_some.1 hb
      exact ⟨t ++ (b ++ []), by simp, .fixed64 ht hlength .nil⟩
    · obtain ⟨⟨b, r⟩, hb, heq⟩ := Option.map_eq_some_iff.1 h
      obtain ⟨rfl, rfl⟩ := Prod.mk.inj heq
      obtain ⟨l, rfl, hl, hsize⟩ := readBytes_eq_some.1 hb
      exact ⟨t ++ (l ++ (b ++ [])), by simp, .bytes ht hl hsize .nil⟩
    · obtain ⟨r, hskip, heq⟩ := Option.map_eq_some_iff.1 h
      obtain ⟨rfl, rfl⟩ := Prod.mk.inj heq
      obtain ⟨u, rfl, hu⟩ := exists_closes hskip
      cases hu with
      | @group _ _ gs inner e u hinner he hu =>
        cases hu
        exact ⟨t ++ (inner ++ (e ++ [])), by simp, .group ht hinner he .nil⟩
    · obtain ⟨⟨b, r⟩, hb, heq⟩ := Option.map_eq_some_iff.1 h
      obtain ⟨rfl, rfl⟩ := Prod.mk.inj heq
      obtain ⟨rfl, hlength⟩ := takeBytes_eq_some.1 hb
      exact ⟨t ++ (b ++ []), by simp, .fixed32 ht hlength .nil⟩
    · cases h

theorem Written.length_pos (h : Written (f :: fs) s) : 0 < s.length := by
  have hpos {number shape : Nat} {t r : List UInt8} (ht : IsTag number shape t) : 0 < (t ++ r).length := by
    rw [List.length_append]
    exact Nat.add_pos_left ht.length_pos _
  cases h with
  | varint ht | fixed64 ht | bytes ht | group ht | fixed32 ht => exact hpos ht

theorem written_nil_iff : Written fs [] ↔ fs = [] := by
  constructor
  · intro h
    cases fs with
    | nil => rfl
    | cons f fs => exact absurd h.length_pos (Nat.lt_irrefl 0)
  · rintro rfl
    exact .nil

theorem readFields_eq_some (hfuel : s.length ≤ fuel) : readFields fuel s = some fs ↔ Written fs s := by
  induction fuel generalizing s fs with
  | zero =>
    obtain rfl := List.eq_nil_of_length_eq_zero (Nat.le_zero.1 hfuel)
    rw [readFields, written_nil_iff, Option.some_inj, eq_comm]
  | succ fuel ih =>
    cases s with
    | nil => rw [readFields, written_nil_iff, Option.some_inj, eq_comm]
    | cons b s =>
      have hrest {f : Field} {rest : List UInt8} (hf : Wire.readField (b :: s) = some (f, rest)) :
          rest.length ≤ fuel := by
        obtain ⟨t, heq, ht⟩ := exists_written hf
        have hlength := congrArg List.length heq
        have hpos := ht.length_pos
        rw [List.length_append] at hlength
        omega
      rw [readFields]
      constructor
      · intro h
        split at h
        · cases h
        · rename_i f rest hf
          obtain ⟨fs, hfs, rfl⟩ := Option.map_eq_some_iff.1 h
          obtain ⟨t, heq, ht⟩ := exists_written hf
          rw [heq]
          exact ht.append ((ih (hrest hf)).1 hfs)
      · intro h
        cases fs with
        | nil => cases h
        | cons f fs =>
          obtain ⟨rest, hf, hfs⟩ := h.readField
          simp only [hf, (ih (hrest hf)).2 hfs, Option.map_some]
      · exact nofun

theorem fields?_eq_some : fields? s = some fs ↔ Written fs s := readFields_eq_some (Nat.le_refl _)

theorem Written.length_lt_of_mem (h : Written fs s) (hm : ⟨number, .bytes content⟩ ∈ fs) :
    content.length < s.length := by
  induction h with
  | nil => cases hm
  | varint _ _ _ ih | fixed64 _ _ _ ih | fixed32 _ _ _ ih =>
    have hlt := ih ((List.mem_cons.1 hm).resolve_left (by intro heq; cases heq))
    simp only [List.length_append]
    omega
  | group _ _ _ _ _ ih =>
    have hlt := ih ((List.mem_cons.1 hm).resolve_left (by intro heq; cases heq))
    simp only [List.length_append]
    omega
  | bytes ht _ _ _ ih =>
    have hpos := ht.length_pos
    simp only [List.length_append]
    rcases List.mem_cons.1 hm with heq | hm
    · cases heq
      omega
    · have hlt := ih hm
      omega

theorem written_numberField (hpos : 0 < number) (hlt : number < 2 ^ 29) (hn : n < 2 ^ 64) :
    Written [⟨number, .varint n⟩] (numberField number n) := by
  have hspells : Varint.Spells 10 n (Varint.encode n) := Varint.spells_encode (by omega) (by omega)
  have h := Written.varint (isTag_encode hpos hlt (by omega)) hspells .nil
  rwa [Nat.mod_eq_of_lt hn, List.append_nil] at h

theorem written_bytesField (hpos : 0 < number) (hlt : number < 2 ^ 29) (hsize : content.length < 2 ^ 31) :
    Written [⟨number, .bytes content⟩] (bytesField number content) := by
  have hspells : Varint.Spells 5 content.length (Varint.encode content.length) :=
    Varint.spells_encode (by omega) (by omega)
  have h := Written.bytes (isTag_encode hpos hlt (by omega)) hspells hsize .nil
  rwa [List.append_nil, ← List.append_assoc] at h

theorem length_bytesField_le (number : Nat) (content : List UInt8) :
    content.length ≤ (bytesField number content).length := by
  simp only [bytesField, List.length_append]
  omega

end RpcBindings.Wire
