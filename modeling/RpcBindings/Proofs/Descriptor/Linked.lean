import RpcBindings.Descriptor.Pagination
import RpcBindings.Proofs.Lookup

namespace RpcBindings

namespace DescriptorSet

def Declares (s : DescriptorSet) (t : TypeRef) : Prop := ∃ m, s.find? t.typeName = some m ∧ m.ref = t

theorem Declares.eq_of_typeName {s : DescriptorSet} {t u : TypeRef} (ht : s.Declares t) (hu : s.Declares u)
    (h : t.typeName = u.typeName) : t = u := by
  obtain ⟨m, hm, rfl⟩ := ht
  obtain ⟨m', hm', rfl⟩ := hu
  rw [h] at hm
  cases hm.symm.trans hm'
  rfl

structure Linked (s : DescriptorSet) : Prop where
  latest : ∀ m ∈ s.messages, m.fields = [] ∨ s.find? m.typeName = some m
  targets : ∀ m ∈ s.messages, ∀ f ∈ m.fields, ∀ t, f.target = some t → s.Declares t
  methods : ∀ p ∈ s.files, ∀ v ∈ p.services, ∀ m ∈ v.methods, s.Declares m.input ∧ s.Declares m.output

theorem fieldsOf_eq {s : DescriptorSet} {n : String} {m : Message} (h : s.find? n = some m) :
    s.fieldsOf n = m.fields := by
  rw [fieldsOf, h]
  rfl

theorem mem_fieldsOf {s : DescriptorSet} {n : String} {f : Field} (h : f ∈ s.fieldsOf n) :
    ∃ m, s.find? n = some m ∧ f ∈ m.fields := by
  cases hm : s.find? n with
  | some m =>
    rw [fieldsOf_eq hm] at h
    exact ⟨m, rfl, h⟩
  | none =>
    rw [fieldsOf, hm] at h
    cases h

theorem find?_eq_of_nodup {s : DescriptorSet} (h : (s.messages.map (·.typeName)).Nodup) {m : Message}
    (hm : m ∈ s.messages) : s.find? m.typeName = some m := find?_reverse_of_nodup h hm

theorem exists_file_of_firstService? {s : DescriptorSet} {v : Service} (h : s.firstService? = some v) :
    ∃ p ∈ s.files, v ∈ p.services := by
  obtain ⟨p, hp, hv⟩ := List.mem_flatMap.1 (List.mem_of_head? h)
  rw [generatedFiles] at hp
  split at hp
  · exact ⟨p, hp, hv⟩
  · obtain ⟨name, -, hname⟩ := List.mem_filterMap.1 hp
    exact ⟨p, List.mem_reverse.1 (List.mem_of_find?_eq_some hname), hv⟩

theorem services_eq {s : DescriptorSet} (h : s.filesToGenerate ≠ []) :
    s.services = s.filesToGenerate.flatMap fun n => ((s.file? n).map (·.services)).getD [] := by
  rw [services, generatedFiles, if_neg (by simpa using h)]
  induction s.filesToGenerate with
  | nil => rfl
  | cons n rest ih =>
    rw [List.flatMap_cons, ← ih, List.filterMap_cons]
    cases s.file? n with
    | none => rfl
    | some p => rfl

/-- Where no name is declared twice, it is enough that every reference is to a message of the set. -/
theorem Linked.of_nodup {s : DescriptorSet} (h : (s.messages.map (·.typeName)).Nodup)
    (ht : ∀ m ∈ s.messages, ∀ f ∈ m.fields, ∀ t, f.target = some t → t ∈ s.messages.map Message.ref)
    (hm : ∀ p ∈ s.files, ∀ v ∈ p.services, ∀ m ∈ v.methods,
      m.input ∈ s.messages.map Message.ref ∧ m.output ∈ s.messages.map Message.ref) : s.Linked := by
  have hd : ∀ t ∈ s.messages.map Message.ref, s.Declares t := by
    intro t ht
    obtain ⟨m, hm, rfl⟩ := List.mem_map.1 ht
    exact ⟨m, find?_eq_of_nodup h hm, rfl⟩
  exact
    { latest := fun m hm => .inr (find?_eq_of_nodup h hm)
      targets := fun m hm f hf t hft => hd t (ht m hm f hf t hft)
      methods := fun p hp v hv m hmv => ⟨hd _ (hm p hp v hv m hmv).1, hd _ (hm p hp v hv m hmv).2⟩ }

end DescriptorSet

end RpcBindings
