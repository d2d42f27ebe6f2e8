import RpcBindings.Document.Descriptors
import RpcBindings.Proofs.Descriptor.Linked
import RpcBindings.Proofs.Sequence
import RpcBindings.Proofs.Text.Search

namespace RpcBindings.Document

/-- `added'` comes from `added` by adding well-known types, each if its name is new. -/
inductive Grows (declared added : List TypeRef) : List TypeRef → Prop where
  | refl : Grows declared added added
  | add {added' : List TypeRef} {t : TypeRef} (h : Grows declared added added') (ht : t ∈ wellKnownTypes)
      (hn : t.typeName ∉ (declared ++ added').map (·.typeName)) : Grows declared added (added' ++ [t])

variable {declared added added' added'' : List TypeRef}

theorem Grows.trans (h : Grows declared added added') (h' : Grows declared added' added'') :
    Grows declared added added'' := by
  induction h' with
  | refl => exact h
  | add _ ht hn ih => exact ih.add ht hn

theorem Grows.subset (h : Grows declared added added') : added ⊆ added' := by
  induction h with
  | refl => exact List.Subset.refl _
  | add _ _ _ ih => exact fun t ht => List.mem_append_left _ (ih ht)

theorem Grows.table_subset (h : Grows declared added added') {table : List TypeRef}
    (hs : declared ++ added' ⊆ table) : declared ++ added ⊆ table :=
  List.append_subset.2 ⟨fun _ ht => hs (List.mem_append_left _ ht),
    fun _ ht => hs (List.mem_append_right _ (h.subset ht))⟩

theorem Grows.wellKnown (h : Grows declared [] added) : added ⊆ wellKnownTypes := by
  induction h with
  | refl => exact List.nil_subset _
  | add _ ht _ ih => exact List.append_subset.2 ⟨ih, by simpa using ht⟩

theorem Grows.nodup (h : Grows declared added added')
    (hn : ((declared ++ added).map (·.typeName)).Nodup) :
    ((declared ++ added').map (·.typeName)).Nodup := by
  induction h with
  | refl => exact hn
  | add _ _ hnew ih =>
    rw [← List.append_assoc, List.map_append]
    exact ih.append (List.nodup_singleton _) (by simpa using hnew)

theorem bareRef_mem_candidates (scope ref : String) : bareRef ref ∈ candidates scope ref := by
  rw [candidates]
  split
  · exact List.mem_singleton_self _
  · rename_i h
    rw [bareRef, Text.dropLeading_eq_self (by simpa using h)]
    exact List.mem_append_right _ (List.mem_singleton_self _)

theorem lookup?_mem {types : List TypeRef} {scope ref : String} {t : TypeRef}
    (h : lookup? types scope ref = some t) : t ∈ types := by
  obtain ⟨_, _, hf⟩ := List.exists_of_findSome?_eq_some h
  exact List.mem_of_find?_eq_some hf

theorem not_mem_of_lookup?_eq_none {types : List TypeRef} {scope ref : String}
    (h : lookup? types scope ref = none) : bareRef ref ∉ types.map (·.typeName) := by
  have hf := List.findSome?_eq_none_iff.1 h _ (bareRef_mem_candidates scope ref)
  intro hm
  obtain ⟨t, ht, heq⟩ := List.mem_map.1 hm
  simpa [heq] using List.find?_eq_none.1 hf t ht

/-- A reference is looked up in the table; if it is not there, a well-known type is added. -/
theorem resolve_eq (declared : List TypeRef) (package scope ref : String) (added : List TypeRef) :
    resolve declared package scope ref added =
      match lookup? (declared ++ added) scope ref, wellKnown? (bareRef ref) with
      | some t, _ => .ok t added
      | none, some t => .ok t (added ++ [t])
      | none, none => .error (.unknownType (bareRef ref) package) added := by
  simp only [resolve, bind, EStateM.bind, stateful_get_eq]
  cases lookup? (declared ++ added) scope ref with
  | some t => rfl
  | none =>
    cases wellKnown? (bareRef ref) with
    | some t => rfl
    | none => rfl

theorem wellKnown?_eq_some {n : String} {t : TypeRef} (h : wellKnown? n = some t) :
    t ∈ wellKnownTypes ∧ t.typeName = n :=
  ⟨List.mem_of_find?_eq_some h, by simpa using List.find?_some h⟩

theorem resolve_eq_ok {package scope ref : String} {t : TypeRef}
    (h : resolve declared package scope ref added = .ok t added') :
    Grows declared added added' ∧ t ∈ declared ++ added' := by
  rw [resolve_eq] at h
  split at h
  · rename_i hl
    cases h
    exact ⟨.refl, lookup?_mem hl⟩
  · rename_i hl hw
    cases h
    obtain ⟨ht, hn⟩ := wellKnown?_eq_some hw
    refine ⟨Grows.refl.add ht ?_, by simp⟩
    rw [hn]
    exact not_mem_of_lookup?_eq_none hl
  · cases h

/-- What a field declaration becomes, where references lead to types of the table. -/
structure FieldDecl.Becomes (table : List TypeRef) (f : FieldDecl) (g : Field) : Prop where
  name : g.name = f.name
  kind : g.kind = f.kindOrDefault
  repeated : g.repeated = f.repeated
  target : ∀ t, g.target = some t → t ∈ table
  typed : f.type.getD "" ≠ "" → g.target.isSome
  untyped : f.type.getD "" = "" → g.target = none ∧ g.kind ≠ .message

/-- What declarations in `scope` become: an outer message stands before those nested in it. -/
def Messages.Becomes (table : List TypeRef) (file scope : String) : Messages → List Message → Prop
  | .nil, ms => ms = []
  | .cons name fields nested rest, ms =>
    ∃ gs inner others, List.Forall₂ (FieldDecl.Becomes table) fields gs ∧
      nested.Becomes table file (qualify scope name) inner ∧ rest.Becomes table file scope others ∧
      ms = ⟨qualify scope name, name, file, gs⟩ :: inner ++ others

structure MethodDecl.Becomes (table : List TypeRef) (d : MethodDecl) (m : Method) : Prop where
  name : m.name = d.name
  kind : m.kind = d.kind
  input : m.input ∈ table
  output : m.output ∈ table

structure ServiceDecl.Becomes (table : List TypeRef) (file package : String) (d : ServiceDecl)
    (s : Service) : Prop where
  name : s.name = d.name
  package : s.package = package
  file : s.file = file
  methods : List.Forall₂ (MethodDecl.Becomes table) d.methods s.methods

structure FileDecl.Becomes (table : List TypeRef) (d : FileDecl) (f : ProtoFile) : Prop where
  name : f.name = d.name
  package : f.package = d.package
  messages : d.messages.Becomes table d.name d.package f.messages
  services : List.Forall₂ (ServiceDecl.Becomes table d.name d.package) d.services f.services

theorem wireField_eq_ok {package typeName : String} {f : FieldDecl} {g : Field}
    (h : wireField declared package typeName f added = .ok g added') :
    Grows declared added added' ∧ ∀ table, declared ++ added' ⊆ table → f.Becomes table g := by
  rw [wireField] at h
  split at h
  · rename_i ht
    obtain ⟨t, _, hr, h⟩ := stateful_bind_eq_ok.1 h
    obtain ⟨rfl, rfl⟩ := stateful_pure_eq_ok.1 h
    obtain ⟨hg, hm⟩ := resolve_eq_ok hr
    refine ⟨hg, fun table hs => ⟨rfl, rfl, rfl, ?_, fun _ => rfl, fun he => absurd he ht⟩⟩
    rintro _ ⟨⟩
    exact hs hm
  · rename_i ht
    split at h
    · cases h
    · rename_i hk
      obtain ⟨rfl, rfl⟩ := stateful_pure_eq_ok.1 h
      exact ⟨.refl, fun table hs => ⟨rfl, rfl, rfl, nofun, fun he => absurd he ht, fun _ => ⟨rfl, hk⟩⟩⟩

theorem wireFields_eq_ok {package typeName : String} {fields : List FieldDecl} {gs : List Field}
    (h : wireFields declared package typeName fields added = .ok gs added') :
    Grows declared added added' ∧
      ∀ table, declared ++ added' ⊆ table → List.Forall₂ (FieldDecl.Becomes table) fields gs := by
  induction fields generalizing added gs with
  | nil =>
    obtain ⟨rfl, rfl⟩ := stateful_pure_eq_ok.1 h
    exact ⟨.refl, fun _ _ => .nil⟩
  | cons f rest ih =>
    obtain ⟨g, _, hg, h⟩ := stateful_bind_eq_ok.1 h
    obtain ⟨gs, _, hgs, h⟩ := stateful_bind_eq_ok.1 h
    obtain ⟨rfl, rfl⟩ := stateful_pure_eq_ok.1 h
    obtain ⟨hg₁, hb₁⟩ := wireField_eq_ok hg
    obtain ⟨hg₂, hb₂⟩ := ih hgs
    exact ⟨hg₁.trans hg₂, fun table hs => .cons (hb₁ table (hg₂.table_subset hs)) (hb₂ table hs)⟩

theorem wireMessages_eq_ok {file package scope : String} {decls : Messages} {ms : List Message}
    (h : wireMessages declared file package scope decls added = .ok ms added') :
    Grows declared added added' ∧
      ∀ table, declared ++ added' ⊆ table → decls.Becomes table file scope ms := by
  induction decls generalizing scope added ms added' with
  | nil =>
    obtain ⟨rfl, rfl⟩ := stateful_pure_eq_ok.1 h
    exact ⟨.refl, fun _ _ => rfl⟩
  | cons name fields nested rest ihn ihr =>
    obtain ⟨gs, _, hgs, h⟩ := stateful_bind_eq_ok.1 h
    obtain ⟨inner, _, hi, h⟩ := stateful_bind_eq_ok.1 h
    obtain ⟨others, _, ho, h⟩ := stateful_bind_eq_ok.1 h
    obtain ⟨rfl, rfl⟩ := stateful_pure_eq_ok.1 h
    obtain ⟨hg₁, hb₁⟩ := wireFields_eq_ok hgs
    obtain ⟨hg₂, hb₂⟩ := ihn hi
    obtain ⟨hg₃, hb₃⟩ := ihr ho
    refine ⟨(hg₁.trans hg₂).trans hg₃, fun table hs => ?_⟩
    -- Later steps only add to the table, so targets found by earlier ones are in it to the end.
    have hs₂ := hg₃.table_subset hs
    exact ⟨gs, inner, others, hb₁ table (hg₂.table_subset hs₂), hb₂ table hs₂, hb₃ table hs, rfl⟩

theorem wireMethods_eq_ok {package : String} {decls : List MethodDecl} {ms : List Method}
    (h : wireMethods declared package decls added = .ok ms added') :
    Grows declared added added' ∧
      ∀ table, declared ++ added' ⊆ table → List.Forall₂ (MethodDecl.Becomes table) decls ms := by
  induction decls generalizing added ms with
  | nil =>
    obtain ⟨rfl, rfl⟩ := stateful_pure_eq_ok.1 h
    exact ⟨.refl, fun _ _ => .nil⟩
  | cons d rest ih =>
    obtain ⟨i, _, hi, h⟩ := stateful_bind_eq_ok.1 h
    obtain ⟨o, _, ho, h⟩ := stateful_bind_eq_ok.1 h
    obtain ⟨ms, _, hms, h⟩ := stateful_bind_eq_ok.1 h
    obtain ⟨rfl, rfl⟩ := stateful_pure_eq_ok.1 h
    obtain ⟨hg₁, hm₁⟩ := resolve_eq_ok hi
    obtain ⟨hg₂, hm₂⟩ := resolve_eq_ok ho
    obtain ⟨hg₃, hb₃⟩ := ih hms
    refine ⟨(hg₁.trans hg₂).trans hg₃, fun table hs => .cons ?_ (hb₃ table hs)⟩
    have hs₂ := hg₃.table_subset hs
    exact ⟨rfl, rfl, hg₂.table_subset hs₂ hm₁, hs₂ hm₂⟩

theorem wireServices_eq_ok {file package : String} {decls : List ServiceDecl} {ss : List Service}
    (h : wireServices declared file package decls added = .ok ss added') :
    Grows declared added added' ∧ ∀ table, declared ++ added' ⊆ table →
      List.Forall₂ (ServiceDecl.Becomes table file package) decls ss := by
  induction decls generalizing added ss with
  | nil =>
    obtain ⟨rfl, rfl⟩ := stateful_pure_eq_ok.1 h
    exact ⟨.refl, fun _ _ => .nil⟩
  | cons d rest ih =>
    obtain ⟨ms, _, hms, h⟩ := stateful_bind_eq_ok.1 h
    obtain ⟨ss, _, hss, h⟩ := stateful_bind_eq_ok.1 h
    obtain ⟨rfl, rfl⟩ := stateful_pure_eq_ok.1 h
    obtain ⟨hg₁, hb₁⟩ := wireMethods_eq_ok hms
    obtain ⟨hg₂, hb₂⟩ := ih hss
    refine ⟨hg₁.trans hg₂, fun table hs => .cons ?_ (hb₂ table hs)⟩
    exact ⟨rfl, rfl, rfl, hb₁ table (hg₂.table_subset hs)⟩

theorem wireFiles_eq_ok {decls : List FileDecl} {files : List ProtoFile}
    (h : wireFiles declared decls added = .ok files added') :
    Grows declared added added' ∧
      ∀ table, declared ++ added' ⊆ table → List.Forall₂ (FileDecl.Becomes table) decls files := by
  induction decls generalizing added files with
  | nil =>
    obtain ⟨rfl, rfl⟩ := stateful_pure_eq_ok.1 h
    exact ⟨.refl, fun _ _ => .nil⟩
  | cons d rest ih =>
    obtain ⟨ms, _, hms, h⟩ := stateful_bind_eq_ok.1 h
    obtain ⟨ss, _, hss, h⟩ := stateful_bind_eq_ok.1 h
    obtain ⟨files, _, hfs, h⟩ := stateful_bind_eq_ok.1 h
    obtain ⟨rfl, rfl⟩ := stateful_pure_eq_ok.1 h
    obtain ⟨hg₁, hb₁⟩ := wireMessages_eq_ok hms
    obtain ⟨hg₂, hb₂⟩ := wireServices_eq_ok hss
    obtain ⟨hg₃, hb₃⟩ := ih hfs
    refine ⟨(hg₁.trans hg₂).trans hg₃, fun table hs => .cons ?_ (hb₃ table hs)⟩
    have hs₂ := hg₃.table_subset hs
    exact ⟨rfl, rfl, hb₁ table (hg₂.table_subset hs₂), hb₂ table hs₂⟩

theorem nodup_of_firstDuplicate {seen : List String} {types : List TypeRef}
    (h : firstDuplicate seen types = none) :
    (∀ t ∈ types, t.typeName ∉ seen) ∧ (types.map (·.typeName)).Nodup := by
  induction types generalizing seen with
  | nil => exact ⟨nofun, List.nodup_nil⟩
  | cons t rest ih =>
    rw [firstDuplicate] at h
    split at h
    · cases h
    · rename_i ht
      -- The induction speaks of the names seen before, to which the head is added.
      obtain ⟨hs, hn⟩ := ih h
      refine ⟨?_, List.nodup_cons.2 ⟨fun hm => ?_, hn⟩⟩
      · intro u hu
        rcases List.mem_cons.1 hu with rfl | hu
        · exact ht
        · exact fun hm => hs u hu (List.mem_cons_of_mem _ hm)
      · obtain ⟨u, hu, heq⟩ := List.mem_map.1 hm
        exact hs u hu (heq ▸ List.mem_cons_self)

/-- A document with descriptors declares no name twice, and its files have been wired. -/
theorem wireFiles_of_descriptors {d : Document} {set : DescriptorSet} (h : d.descriptors = .ok set) :
    ∃ files added, (d.types.map (·.typeName)).Nodup ∧ wireFiles d.types d.files [] = .ok files added ∧
      set = ⟨files ++ added.map wellKnownFile, d.filesToGenerate⟩ := by
  rw [descriptors, wire] at h
  split at h
  · cases h
  · rename_i hd
    split at h
    · rename_i files added hw
      cases h
      exact ⟨files, added, (nodup_of_firstDuplicate hd).2, hw, rfl⟩
    · cases h

/-- The files that a document declares, and after them one for each well-known type that was added. -/
theorem descriptors_eq_ok {d : Document} {set : DescriptorSet} (h : d.descriptors = .ok set) :
    ∃ files added, ((d.types ++ added).map (·.typeName)).Nodup ∧ added ⊆ wellKnownTypes ∧
      List.Forall₂ (FileDecl.Becomes (d.types ++ added)) d.files files ∧
      set = ⟨files ++ added.map wellKnownFile, d.filesToGenerate⟩ := by
  obtain ⟨files, added, hn, hw, rfl⟩ := wireFiles_of_descriptors h
  obtain ⟨hg, hb⟩ := wireFiles_eq_ok hw
  exact ⟨files, added, hg.nodup (by simpa using hn), hg.wellKnown, hb _ (List.Subset.refl _), rfl⟩

theorem Messages.Becomes.refs {table : List TypeRef} {file scope : String} {decls : Messages}
    {ms : List Message} (h : decls.Becomes table file scope ms) :
    ms.map Message.ref = decls.types file scope := by
  induction decls generalizing scope ms with
  | nil =>
    cases h
    rfl
  | cons name fields nested rest ihn ihr =>
    obtain ⟨gs, inner, others, _, hi, ho, rfl⟩ := h
    simp only [List.cons_append, List.map_cons, List.map_append, ihn hi, ihr ho]
    rfl

theorem Messages.Becomes.targets {table : List TypeRef} {file scope : String} {decls : Messages}
    {ms : List Message} (h : decls.Becomes table file scope ms) :
    ∀ m ∈ ms, ∀ f ∈ m.fields, ∀ t, f.target = some t → t ∈ table := by
  induction decls generalizing scope ms with
  | nil =>
    cases h
    nofun
  | cons name fields nested rest ihn ihr =>
    obtain ⟨gs, inner, others, hf, hi, ho, rfl⟩ := h
    intro m hm
    rcases List.mem_append.1 hm with hm | hm
    · rcases List.mem_cons.1 hm with rfl | hm
      · intro g hg
        obtain ⟨f, _, hfg⟩ := exists_of_forall₂ hf hg
        exact hfg.target
      · exact ihn hi m hm
    · exact ihr ho m hm

theorem refs_of_becomes {table : List TypeRef} {decls : List FileDecl} {files : List ProtoFile}
    (h : List.Forall₂ (FileDecl.Becomes table) decls files) :
    (files.flatMap (·.messages)).map Message.ref = decls.flatMap (·.types) := by
  induction h with
  | nil => rfl
  | cons hf _ ih =>
    rw [List.flatMap_cons, List.map_append, ih, hf.messages.refs]
    rfl

theorem refs_wellKnownFile {added : List TypeRef} :
    ((added.map wellKnownFile).flatMap (·.messages)).map Message.ref = added := by
  induction added with
  | nil => rfl
  | cons t rest ih =>
    rw [List.map_cons, List.flatMap_cons, List.map_append, ih]
    rfl

theorem refs_descriptors {table : List TypeRef} {d : Document} {files : List ProtoFile}
    (h : List.Forall₂ (FileDecl.Becomes table) d.files files) (added : List TypeRef)
    (gen : List String) :
    (DescriptorSet.messages ⟨files ++ added.map wellKnownFile, gen⟩).map Message.ref =
      d.types ++ added := by
  rw [DescriptorSet.messages, List.flatMap_append, List.map_append, refs_of_becomes h,
    refs_wellKnownFile]
  rfl

theorem descriptors_linked {d : Document} {set : DescriptorSet} (h : d.descriptors = .ok set) :
    set.Linked := by
  obtain ⟨files, added, hn, _, hb, rfl⟩ := descriptors_eq_ok h
  have href := refs_descriptors hb added d.filesToGenerate
  refine .of_nodup ?_ ?_ ?_
  · rw [← href, List.map_map] at hn
    exact hn
  · intro m hmem f hf t ht
    rw [href]
    rw [DescriptorSet.messages, List.flatMap_append] at hmem
    rcases List.mem_append.1 hmem with hmem | hmem
    · obtain ⟨p, hp, hmp⟩ := List.mem_flatMap.1 hmem
      obtain ⟨_, _, hdp⟩ := exists_of_forall₂ hb hp
      exact hdp.messages.targets m hmp f hf t ht
    · simp only [List.mem_flatMap, List.mem_map] at hmem
      obtain ⟨_, ⟨u, _, rfl⟩, hmu⟩ := hmem
      cases List.mem_singleton.1 hmu
      cases hf
  · intro p hp v hv m hmv
    rw [href]
    rcases List.mem_append.1 hp with hp | hp
    · obtain ⟨_, _, hdp⟩ := exists_of_forall₂ hb hp
      obtain ⟨_, _, hdv⟩ := exists_of_forall₂ hdp.services hv
      obtain ⟨_, _, hdm⟩ := exists_of_forall₂ hdv.methods hmv
      exact ⟨hdm.input, hdm.output⟩
    · obtain ⟨u, _, rfl⟩ := List.mem_map.1 hp
      cases hv

end RpcBindings.Document
