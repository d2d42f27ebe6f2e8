import RpcBindings.Proofs.Descriptor.Pagination
import RpcBindings.ViewModel

namespace RpcBindings

def Field.outline (f : Field) : String × Option String := (f.name, f.step?)

namespace DescriptorSet

def SameOutlines (m m' : Message) : Prop :=
  ∀ o, o ∈ m.fields.map Field.outline ↔ o ∈ m'.fields.map Field.outline

theorem SameOutlines.symm {m m' : Message} (h : SameOutlines m m') : SameOutlines m' m := fun o => (h o).symm

theorem SameOutlines.hasPaginationKey {m m' : Message} (h : SameOutlines m m') (hk : m.HasPaginationKey) :
    m'.HasPaginationKey := by
  obtain ⟨f, hf, hkey⟩ := hk
  obtain ⟨f', hf', heq⟩ := List.mem_map.1 ((h _).1 (List.mem_map_of_mem hf))
  have hname : f'.name = f.name := congrArg Prod.fst heq
  exact ⟨f', hf', hname ▸ hkey⟩

theorem SameOutlines.step {m m' : Message} (h : SameOutlines m m') {f : Field} (hf : f ∈ m.fields)
    {n : String} (hn : f.step? = some n) : ∃ f' ∈ m'.fields, f'.step? = some n := by
  obtain ⟨f', hf', heq⟩ := List.mem_map.1 ((h _).1 (List.mem_map_of_mem hf))
  have hstep : f'.step? = f.step? := congrArg Prod.snd heq
  exact ⟨f', hf', hstep.trans hn⟩

theorem Leads.exists_step {s : DescriptorSet} {m n : Message} (h : s.Leads m n) :
    ∃ f ∈ m.fields, ∃ t, f.step? = some t ∧ s.find? t = some n := by
  obtain ⟨f, hf, hk, t, ht, hn⟩ := h
  exact ⟨f, hf, t.typeName, Field.step?_eq_some.2 ⟨hk, t, ht, rfl⟩, hn⟩

def Within (s s' : DescriptorSet) : Prop :=
  ∀ n m, s.find? n = some m → ∃ m', s'.find? n = some m' ∧ SameOutlines m m'

variable {s s' : DescriptorSet} {m n m' n' : Message}

theorem Within.leads (h : s.Within s') (hm : SameOutlines m m') (hl : s.Leads m n) :
    ∃ n', s'.Leads m' n' ∧ SameOutlines n n' := by
  obtain ⟨f, hf, t, ht, hn⟩ := hl.exists_step
  obtain ⟨f', hf', ht'⟩ := hm.step hf ht
  obtain ⟨n', hn', hsame⟩ := h t n hn
  exact ⟨n', leads_of_step hf' ht' hn', hsame⟩

theorem Within.leads_back (h : s.Within s') (hs : s.Linked) (hmem : m ∈ s.messages)
    (hm : SameOutlines m m') (hl : s'.Leads m' n') :
    ∃ n ∈ s.messages, s.Leads m n ∧ SameOutlines n n' := by
  obtain ⟨f', hf', t, ht', hn'⟩ := hl.exists_step
  obtain ⟨f, hf, ht⟩ := hm.symm.step hf' ht'
  obtain ⟨n, hn⟩ := hs.resolved hmem f hf t ht
  obtain ⟨k, hk, hsame⟩ := h t n hn
  cases hk.symm.trans hn'
  exact ⟨n, (find?_mem hn).1, leads_of_step hf ht hn, hsame⟩

theorem Within.reaches (h : s.Within s') (hr : Relation.ReflTransGen s.Leads m n)
    (hm : SameOutlines m m') : ∃ n', Relation.ReflTransGen s'.Leads m' n' ∧ SameOutlines n n' := by
  induction hr using Relation.ReflTransGen.head_induction_on generalizing m' with
  | refl => exact ⟨m', .refl, hm⟩
  | head hl _ ih =>
    obtain ⟨k', hl', hk⟩ := h.leads hm hl
    obtain ⟨n', hr', hn⟩ := ih hk
    exact ⟨n', hr'.head hl', hn⟩

theorem Within.reaches_back (h : s.Within s') (hs : s.Linked)
    (hr : Relation.ReflTransGen s'.Leads m' n') (hmem : m ∈ s.messages) (hm : SameOutlines m m') :
    ∃ n, Relation.ReflTransGen s.Leads m n ∧ SameOutlines n n' := by
  induction hr using Relation.ReflTransGen.head_induction_on generalizing m with
  | refl => exact ⟨m, .refl, hm⟩
  | head hl _ ih =>
    obtain ⟨k, hkmem, hl', hk⟩ := h.leads_back hs hmem hm hl
    obtain ⟨n, hr', hn⟩ := ih hkmem hk
    exact ⟨n, hr'.head hl', hn⟩

/-- A message asks for a page in the larger set exactly if it does in the set itself. -/
theorem Within.isPaginated (h : s.Within s') (hs : s.Linked) (hs' : s'.Linked) {t : String}
    (hm : s.find? t = some m) (hm' : s'.find? t = some m') : s'.isPaginated m' = s.isPaginated m := by
  obtain ⟨k, hk, hsame⟩ := h t m hm
  cases hk.symm.trans hm'
  have hmem := (find?_mem hm).1
  rw [Bool.eq_iff_iff, isPaginated_iff hs' (find?_mem hm').1, isPaginated_iff hs hmem]
  constructor
  · rintro ⟨n', hr, hkey⟩
    obtain ⟨n, hr', hn⟩ := h.reaches_back hs hr hmem hsame
    exact ⟨n, hr', hn.symm.hasPaginationKey hkey⟩
  · rintro ⟨n, hr, hkey⟩
    obtain ⟨n', hr', hn⟩ := h.reaches hr hsame
    exact ⟨n', hr', hn.hasPaginationKey hkey⟩

theorem Within.rpc (h : s.Within s') (hs : s.Linked) (hs' : s'.Linked) {d : Method}
    (hd : s.Declares d.input) (config : Config) (inputType outputType : String) :
    d.rpc s' config inputType outputType = d.rpc s config inputType outputType := by
  obtain ⟨m, hm, -⟩ := hd
  obtain ⟨m', hm', -⟩ := h _ m hm
  have heq := h.isPaginated hs hs' hm hm'
  rw [Method.rpc, Method.rpc, hm, hm', Option.map_some, Option.map_some, heq]

theorem Within.ofService (h : s.Within s') (hs : s.Linked) (hs' : s'.Linked) {v : Service}
    (hv : ∀ d ∈ v.methods, s.Declares d.input) (cwd : List String) (config : Config) :
    ViewModel.ofService cwd s' config v = ViewModel.ofService cwd s config v := by
  have hmodel (origins : List (Origin × Origin)) :
      ViewModel.ofOrigins s' config v origins = ViewModel.ofOrigins s config v origins := by
    rw [ViewModel.ofOrigins, ViewModel.ofOrigins]
    congr 1
    refine List.map_congr_left fun (d, input, output) hmem => ?_
    exact h.rpc hs hs' (hv d (List.of_mem_zip hmem).1) config input.name output.name
  rw [ViewModel.ofService, ViewModel.ofService, funext hmodel]

/-- What is generated first is the same in the larger set if the first service is. -/
theorem Within.ofFirstService (h : s.Within s') (hs : s.Linked) (hs' : s'.Linked)
    (hv : s'.firstService? = s.firstService?) (cwd : List String) (config : Config) :
    ViewModel.ofFirstService cwd s' config = ViewModel.ofFirstService cwd s config := by
  rw [ViewModel.ofFirstService, ViewModel.ofFirstService, hv]
  cases hfirst : s.firstService? with
  | none => rfl
  | some v =>
    obtain ⟨p, hp, hvp⟩ := exists_file_of_firstService? hfirst
    have hinputs : ∀ d ∈ v.methods, s.Declares d.input := fun d hd => (hs.methods p hp v hvp d hd).1
    dsimp only
    rw [h.ofService hs hs' hinputs]

end DescriptorSet

end RpcBindings
