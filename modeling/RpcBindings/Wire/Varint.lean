namespace RpcBindings.Wire.Varint

def encode (n : Nat) : List UInt8 :=
  if n < 128 then [UInt8.ofNat n] else UInt8.ofNat (n % 128 + 128) :: encode (n / 128)
termination_by n

/-- The number at the front, written in at most `limit` bytes. -/
def decode : Nat → List UInt8 → Option (Nat × List UInt8)
  | 0, _ => none
  | _, [] => none
  | limit + 1, b :: rest =>
    if b.toNat < 128 then some (b.toNat, rest)
    else (decode limit rest).map fun (n, rest) => (n * 128 + (b.toNat - 128), rest)

theorem length_decode {limit : Nat} {s : List UInt8} {n : Nat} {rest : List UInt8}
    (h : decode limit s = some (n, rest)) : rest.length < s.length := by
  induction limit generalizing s n rest with
  | zero => simp [decode] at h
  | succ limit ih =>
    cases s with
    | nil => simp [decode] at h
    | cons b s =>
      simp only [decode] at h
      split at h
      · simp_all
      · obtain ⟨⟨m, r⟩, hr, he⟩ := Option.map_eq_some_iff.1 h
        obtain ⟨-, rfl⟩ := Prod.mk.inj he
        exact Nat.lt_succ_of_lt (ih hr)

end RpcBindings.Wire.Varint
