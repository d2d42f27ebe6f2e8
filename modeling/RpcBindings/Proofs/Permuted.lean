import Mathlib.Data.List.Perm.Basic

namespace RpcBindings

/-- One list is the other in another order, up to a relation of the elements. -/
def Permuted (R : α → β → Prop) (xs : List α) (ys : List β) : Prop :=
  ∃ zs, xs.Perm zs ∧ List.Forall₂ R zs ys

theorem forall₂_comp {R : α → β → Prop} {S : β → γ → Prop} {xs : List α} {ys : List β} {zs : List γ}
    (h : List.Forall₂ R xs ys) (h' : List.Forall₂ S ys zs) :
    List.Forall₂ (fun x z => ∃ y, R x y ∧ S y z) xs zs := by
  induction h generalizing zs with
  | nil =>
    cases h'
    exact .nil
  | cons hxy _ ih =>
    cases h' with
    | cons hyz h' => exact .cons ⟨_, hxy, hyz⟩ (ih h')

/-- Whether the order or the relation comes first makes no difference. -/
theorem permuted_iff {R : α → β → Prop} {xs : List α} {ys : List β} :
    Permuted R xs ys ↔ ∃ zs, List.Forall₂ R xs zs ∧ zs.Perm ys := by
  change Relation.Comp List.Perm (List.Forall₂ R) xs ys ↔ Relation.Comp (List.Forall₂ R) List.Perm xs ys
  rw [List.forall₂_comp_perm_eq_perm_comp_forall₂]

namespace Permuted

variable {R : α → α → Prop} {xs ys zs us vs : List α}

theorem of_perm (hr : ∀ x, R x x) (h : xs.Perm ys) : Permuted R xs ys :=
  ⟨ys, h, List.forall₂_same.2 fun x _ => hr x⟩

theorem cons {x y : α} (hxy : R x y) (h : Permuted R xs ys) : Permuted R (x :: xs) (y :: ys) := by
  obtain ⟨zs, hp, hf⟩ := h
  exact ⟨x :: zs, hp.cons x, .cons hxy hf⟩

theorem append (h : Permuted R xs ys) (h' : Permuted R us vs) :
    Permuted R (xs ++ us) (ys ++ vs) := by
  obtain ⟨zs, hp, hf⟩ := h
  obtain ⟨ws, hp', hf'⟩ := h'
  exact ⟨zs ++ ws, hp.append hp', List.rel_append hf hf'⟩

theorem symm (hr : ∀ {x y}, R x y → R y x) (h : Permuted R xs ys) : Permuted R ys xs := by
  obtain ⟨zs, hp, hf⟩ := h
  have hf' : List.Forall₂ R ys zs := (hf.imp fun _ _ hxy => hr hxy).flip
  exact permuted_iff.2 ⟨zs, hf', hp.symm⟩

theorem trans (hr : ∀ {x y z}, R x y → R y z → R x z) (h : Permuted R xs ys)
    (h' : Permuted R ys zs) : Permuted R xs zs := by
  obtain ⟨us, hp, hf⟩ := h
  obtain ⟨vs, hf', hp'⟩ := permuted_iff.1 h'
  have hcomp : List.Forall₂ R us vs := (forall₂_comp hf hf').imp fun _ _ ⟨_, hxy, hyz⟩ => hr hxy hyz
  obtain ⟨ws, hpw, hfw⟩ := permuted_iff.2 ⟨vs, hcomp, hp'⟩
  exact ⟨ws, hp.trans hpw, hfw⟩

theorem flatMap {f : α → List γ} (h : Permuted R xs ys) (hf : ∀ {x y}, R x y → (f x).Perm (f y)) :
    (xs.flatMap f).Perm (ys.flatMap f) := by
  obtain ⟨zs, hp, hr⟩ := h
  refine (hp.flatMap_right f).trans ?_
  clear hp
  induction hr with
  | nil => exact .refl _
  | cons hxy _ ih =>
    rw [List.flatMap_cons, List.flatMap_cons]
    exact (hf hxy).append ih

theorem yields {Y Y' : α → β → Prop} {T : β → β → Prop} {bs : List β} (h : Permuted R xs ys)
    (hb : List.Forall₂ Y xs bs)
    (hy : ∀ {x y b}, R x y → Y x b → ∃ c, Y' y c ∧ T b c) :
    ∃ cs, List.Forall₂ Y' ys cs ∧ Permuted T bs cs := by
  obtain ⟨zs, hp, hf⟩ := h
  obtain ⟨ws, hw, hpw⟩ := List.perm_comp_forall₂ hp.symm hb
  have hstep : List.Forall₂ (fun b y => ∃ c, Y' y c ∧ T b c) ws ys :=
    (forall₂_comp hw.flip hf).imp fun _ _ ⟨_, hyb, hr⟩ => hy hr hyb
  have hall : ∃ cs, List.Forall₂ Y' ys cs ∧ List.Forall₂ T ws cs := by
    clear hpw hw hf
    induction hstep with
    | nil => exact ⟨[], .nil, .nil⟩
    | cons hc _ ih =>
      obtain ⟨c, hyc, hbc⟩ := hc
      obtain ⟨cs, hycs, hbcs⟩ := ih
      exact ⟨c :: cs, .cons hyc hycs, .cons hbc hbcs⟩
  obtain ⟨cs, hycs, hbcs⟩ := hall
  exact ⟨cs, hycs, ws, hpw.symm, hbcs⟩

end Permuted

end RpcBindings
