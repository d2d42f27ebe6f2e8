import RpcBindings.Proofs.Descriptor.Linked
import RpcBindings.Proofs.Sequence
import RpcBindings.Proofs.Text.Search
import RpcBindings.Request.Descriptors

namespace RpcBindings.Request

variable {types : List TypeRef} {set : DescriptorSet}

theorem lookup_dot (hn : (types.map (·.typeName)).Nodup) {t : TypeRef} (ht : t ∈ types)
    (hdot : Text.startsWith t.typeName "." = false) : lookup types ("." ++ t.typeName) = .ok t := by
  rw [lookup, Text.dropLeading_dot hdot, find?_reverse_of_nodup hn ht]

theorem Wired.fieldsOf_append (w w' : Wired) (n : String) :
    Wired.fieldsOf (w ++ w') n = Wired.fieldsOf w n ++ Wired.fieldsOf w' n :=
  List.filterMap_append

def entries (set : DescriptorSet) (n : String) : Wired := (set.fieldsOf n).map fun f => (n, f)

theorem fieldsOf_entries (set : DescriptorSet) (n k : String) :
    (entries set n).fieldsOf k = if n = k then set.fieldsOf n else [] := by
  rw [entries, Wired.fieldsOf, List.filterMap_map]
  by_cases h : n = k
  · simp [h]
  · simp [h]

/-- Fields added name by name are found under their names, whatever the order. -/
theorem fieldsOf_flatMap_entries {order : List String} (h : order.Nodup) {n : String} (hn : n ∈ order) :
    Wired.fieldsOf (order.flatMap (entries set)) n = set.fieldsOf n := by
  induction order with
  | nil => cases hn
  | cons k rest ih =>
    obtain ⟨hk, hrest⟩ := List.nodup_cons.1 h
    rw [List.flatMap_cons, Wired.fieldsOf_append, fieldsOf_entries]
    rcases List.mem_cons.1 hn with rfl | hn
    · have hnone : Wired.fieldsOf (rest.flatMap (entries set)) n = [] := by
        rw [List.eq_nil_iff_forall_not_mem]
        intro f hf
        simp only [Wired.fieldsOf, List.mem_filterMap, List.mem_flatMap, entries, List.mem_map] at hf
        obtain ⟨⟨a, b⟩, ⟨j, hj, g, _, heq⟩, hab⟩ := hf
        cases heq
        split at hab
        · rename_i heq
          exact hk (heq ▸ hj)
        · cases hab
      rw [if_pos rfl, hnone, List.append_nil]
    · rw [if_neg (by rintro rfl; exact hk hn), List.nil_append, ih hrest hn]

theorem messagesOf_eq_map {wired : Wired} {later ts : List TypeRef}
    (h : ((ts ++ later).map (·.typeName)).Nodup) : messagesOf wired later ts =
      ts.map fun t => ⟨t.typeName, t.name, t.file, wired.fieldsOf t.typeName⟩ := by
  induction ts with
  | nil => rfl
  | cons t rest ih =>
    obtain ⟨ht, hrest⟩ := List.nodup_cons.1 h
    have hnone : (rest ++ later).any (·.typeName == t.typeName) = false := by
      rw [List.any_eq_false]
      intro u hu heq
      exact ht (List.mem_map.2 ⟨u, hu, by simpa using heq⟩)
    rw [messagesOf, ih hrest, hnone]
    rfl

/-- The file of a request gives a file of the set: its types, its fields in some order of the types, and
its services. -/
structure FileDecl.Gives (types : List TypeRef) (set : DescriptorSet) (f : FileDecl) (p : ProtoFile) :
    Prop where
  name : f.nameText = p.name
  package : f.packageText = p.package
  declared : f.types = p.messages.map Message.ref
  unmapped : f.messages.mapEntries f.packageText = []
  fields : ∃ order : List String, order.Perm (p.messages.map (·.typeName)) ∧ ∀ wired,
    wireMessages types [] f.packageText wired f.messages = .ok (wired ++ order.flatMap (entries set))
  services : wireServices types f.nameText f.packageText f.services = .ok p.services

theorem wireFiles_eq_ok {fs : List FileDecl} {ps : List ProtoFile}
    (h : List.Forall₂ (FileDecl.Gives types set) fs ps) :
    ∃ order : List String, order.Perm ((ps.flatMap (·.messages)).map (·.typeName)) ∧ ∀ wired,
      wireFiles types [] wired fs =
        .ok (wired ++ order.flatMap (entries set), ps.map (·.services)) := by
  induction h with
  | nil => exact ⟨[], .refl _, fun wired => by simp [wireFiles]⟩
  | @cons f p fs ps hf _ ih =>
    obtain ⟨order₁, hp₁, hw₁⟩ := hf.fields
    obtain ⟨order₂, hp₂, hw₂⟩ := ih
    refine ⟨order₁ ++ order₂, ?_, fun wired => ?_⟩
    · rw [List.flatMap_cons, List.map_append]
      exact hp₁.append hp₂
    · simp only [wireFiles, hw₁, hf.services, hw₂, bind, Except.bind, pure, Except.pure,
        List.flatMap_append, List.append_assoc, List.map_cons]

theorem types_eq {fs : List FileDecl} {ps : List ProtoFile}
    (h : List.Forall₂ (FileDecl.Gives types set) fs ps) :
    fs.flatMap (·.types) = (ps.flatMap (·.messages)).map Message.ref := by
  induction h with
  | nil => rfl
  | cons hf _ ih => rw [List.flatMap_cons, List.flatMap_cons, List.map_append, hf.declared, ih]

theorem mapEntries_eq {fs : List FileDecl} {ps : List ProtoFile}
    (h : List.Forall₂ (FileDecl.Gives types set) fs ps) :
    fs.flatMap (fun f => f.messages.mapEntries f.packageText) = [] := by
  induction h with
  | nil => rfl
  | cons hf _ ih => rw [List.flatMap_cons, hf.unmapped, ih, List.append_nil]

theorem map_typeName_ref (ms : List Message) :
    (ms.map Message.ref).map (·.typeName) = ms.map (·.typeName) := List.map_map

/-- Where every message gets its own fields, the files are put together as they are in the set. -/
theorem assemble_eq {wired : Wired} {fs : List FileDecl} {ps : List ProtoFile}
    (h : List.Forall₂ (FileDecl.Gives types set) fs ps)
    (hn : ((ps.flatMap (·.messages)).map (·.typeName)).Nodup)
    (hw : ∀ m ∈ ps.flatMap (·.messages), wired.fieldsOf m.typeName = m.fields) :
    assemble wired fs (ps.map (·.services)) = ps := by
  induction h with
  | nil => rfl
  | @cons f p fs ps hf hrest ih =>
    rw [List.flatMap_cons] at hn hw
    have hnames : ((f.types ++ fs.flatMap (·.types)).map (·.typeName)).Nodup := by
      rw [hf.declared, types_eq hrest, ← List.map_append, map_typeName_ref]
      exact hn
    have hmessages : messagesOf wired (fs.flatMap (·.types)) f.types = p.messages := by
      rw [messagesOf_eq_map hnames, hf.declared, List.map_map]
      refine (List.map_congr_left fun m hm => ?_).trans (List.map_id p.messages)
      rw [Function.comp_apply, show m.ref.typeName = m.typeName from rfl,
        hw m (List.mem_append_left _ hm)]
      rfl
    rw [List.map_cons, assemble, hmessages, hf.name, hf.package,
      ih (List.map_append ▸ hn).of_append_right fun m hm => hw m (List.mem_append_right _ hm)]

theorem descriptors_eq_of_gives {r : Request} (h : List.Forall₂ (FileDecl.Gives r.types set) r.files set.files)
    (hg : r.filesToGenerate = set.filesToGenerate) (hn : (set.messages.map (·.typeName)).Nodup) :
    r.descriptors = .ok set := by
  obtain ⟨order, hp, hw⟩ := wireFiles_eq_ok h
  have hmap : r.mapEntries = [] := mapEntries_eq h
  have hfields : ∀ m ∈ set.messages,
      Wired.fieldsOf ([] ++ order.flatMap (entries set)) m.typeName = m.fields := by
    intro m hm
    have hmem : m.typeName ∈ order := hp.mem_iff.2 (List.mem_map_of_mem hm)
    rw [List.nil_append, fieldsOf_flatMap_entries (hp.nodup_iff.2 hn) hmem,
      DescriptorSet.fieldsOf_eq (DescriptorSet.find?_eq_of_nodup hn hm)]
  rw [descriptors, hmap, hw]
  simp only [bind, Except.bind, pure, Except.pure, assemble_eq h hn hfields, hg]

end RpcBindings.Request
