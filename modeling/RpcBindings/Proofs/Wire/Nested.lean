import RpcBindings.Proofs.Wire.Format
import RpcBindings.Wire.Request

namespace RpcBindings

open RpcBindings.Wire

variable {shape : Shape} {s : List UInt8} {fs : List Wire.Field} {f : Wire.Field}

theorem foldlM_congr_of_mem {step step' : α → β → Option α} {xs : List β}
    (h : ∀ x ∈ xs, ∀ a, step a x = step' a x) (a : α) : xs.foldlM step a = xs.foldlM step' a := by
  induction xs generalizing a with
  | nil => rfl
  | cons x rest ih =>
    obtain ⟨hx, hrest⟩ := List.forall_mem_cons.1 h
    rw [List.foldlM_cons, List.foldlM_cons, hx]
    exact bind_congr fun b => ih hrest b

namespace Wire.Shape

/-- What the field holds is well formed if it is a message. -/
def admitsField (shape : Shape) (f : Wire.Field) : Bool :=
  match f.payload with
  | .bytes content =>
    match shape.child? f.number with
    | some inner => inner.isWellFormed content
    | none => true
  | _ => true

theorem admits_eq_isWellFormed {fuel : Nat} (h : s.length < fuel) : admits fuel shape s = shape.isWellFormed s := by
  have hsame : ∀ fuel' > s.length, admits fuel shape s = admits fuel' shape s := by
    induction fuel generalizing shape s with
    | zero => exact absurd h (Nat.not_lt_zero _)
    | succ fuel ih =>
      intro fuel' h'
      obtain ⟨fuel', rfl⟩ := Nat.exists_eq_succ_of_ne_zero (Nat.ne_zero_of_lt h')
      rw [admits, admits]
      split
      · rfl
      · split
        · rfl
        · rename_i fs hfs
          rw [Bool.eq_iff_iff, List.all_eq_true, List.all_eq_true]
          refine forall₂_congr fun f hf => ?_
          rcases f with ⟨number, payload⟩
          cases payload with
          | bytes content =>
            have hlt := (fields?_eq_some.1 hfs).length_lt_of_mem hf
            dsimp only
            split
            · rw [ih (by omega) fuel' (by omega)]
            · rfl
          | _ => rfl
  exact hsame _ (Nat.lt_succ_self _)

theorem isWellFormed_of_written (hshape : shape ≠ numbers) (h : Written fs s) :
    shape.isWellFormed s = fs.all shape.admitsField := by
  rw [isWellFormed, admits, if_neg hshape, fields?_eq_some.2 h]
  dsimp only
  rw [Bool.eq_iff_iff, List.all_eq_true, List.all_eq_true]
  refine forall₂_congr fun f hf => ?_
  rcases f with ⟨number, payload⟩
  cases payload with
  | bytes content =>
    rw [admitsField]
    cases hchild : shape.child? number with
    | none => rfl
    | some inner => simp only [admits_eq_isWellFormed (h.length_lt_of_mem hf)]
  | _ => rfl

end Wire.Shape

namespace Request

theorem readInto_of_written {step : α → Wire.Field → Option α} {start : α} (h : Written fs s) :
    readInto step start s = fs.foldlM step start := by
  rw [readInto, fields?_eq_some.2 h, Option.bind_some]

namespace MessageParts

def read? (s : List UInt8) : Option MessageParts := ofBytes? (s.length + 1) s

theorem readStep_congr {inner inner' : List UInt8 → Option MessageParts}
    (h : ∀ content, f = ⟨3, .bytes content⟩ → inner content = inner' content) (m : MessageParts) :
    readStep inner m f = readStep inner' m f := by
  unfold readStep
  split
  · rfl
  · rfl
  · rename_i content hn hp
    rw [h content (by rw [← hn, ← hp])]
  · rfl
  · rfl

theorem ofBytes?_eq_read? {depth : Nat} (h : s.length < depth) : ofBytes? depth s = read? s := by
  have hsame : ∀ depth' > s.length, ofBytes? depth s = ofBytes? depth' s := by
    induction depth generalizing s with
    | zero => exact absurd h (Nat.not_lt_zero _)
    | succ depth ih =>
      intro depth' h'
      obtain ⟨depth', rfl⟩ := Nat.exists_eq_succ_of_ne_zero (Nat.ne_zero_of_lt h')
      rw [ofBytes?, ofBytes?, readInto, readInto]
      cases hfs : fields? s with
      | none => rfl
      | some fs =>
        refine foldlM_congr_of_mem (fun f hf m => readStep_congr (fun content heq => ?_) m) _
        have hlt := (fields?_eq_some.1 hfs).length_lt_of_mem (heq ▸ hf)
        exact ih (by omega) depth' (by omega)
  exact hsame _ (Nat.lt_succ_self _)

theorem read?_of_written (h : Written fs s) : read? s = fs.foldlM (readStep read?) {} := by
  rw [read?, ofBytes?, readInto_of_written h]
  refine foldlM_congr_of_mem (fun f hf m => readStep_congr (fun content heq => ?_) m) _
  exact ofBytes?_eq_read? (h.length_lt_of_mem (heq ▸ hf))

end MessageParts

end Request

end RpcBindings
