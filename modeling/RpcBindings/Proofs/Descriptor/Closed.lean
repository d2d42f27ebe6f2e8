import RpcBindings.Proofs.Descriptor.Loaded
import RpcBindings.Proofs.Document.Resolution
import RpcBindings.Proofs.Request.Part

namespace RpcBindings

namespace DescriptorSet

/-- The references in a set: the targets of fields, and the inputs and outputs of methods. -/
inductive Refers (s : DescriptorSet) : TypeRef → Prop where
  | target {m : Message} {f : Field} {t : TypeRef} (hm : m ∈ s.messages) (hf : f ∈ m.fields)
    (ht : f.target = some t) : Refers s t
  | input {p : ProtoFile} {v : Service} {m : Method} (hp : p ∈ s.files) (hv : v ∈ p.services)
    (hm : m ∈ v.methods) : Refers s m.input
  | output {p : ProtoFile} {v : Service} {m : Method} (hp : p ∈ s.files) (hv : v ∈ p.services)
    (hm : m ∈ v.methods) : Refers s m.output

/-- The reference is to the message `m`, which its own file `p` lists. -/
structure LeadsTo (s : DescriptorSet) (t : TypeRef) (p : ProtoFile) (m : Message) : Prop where
  ref : m.ref = t
  found : s.find? t.typeName = some m
  file : p ∈ s.files
  listed : m ∈ p.messages
  own : m.file = p.name

structure Closed (s : DescriptorSet) : Prop where
  listed : ∀ t, s.Refers t → ∃ p m, s.LeadsTo t p m
  same : ∀ t u, s.Refers t → s.Refers u → t.typeName = u.typeName → ∃ p m, s.LeadsTo t p m ∧ s.LeadsTo u p m
  targeted : ∀ m ∈ s.messages, ∀ f ∈ m.fields, f.kind = .message → f.target.isSome

variable {s : DescriptorSet}

theorem Linked.declares_of_refers (h : s.Linked) {t : TypeRef} (ht : s.Refers t) : s.Declares t := by
  cases ht with
  | target hm hf ht => exact h.targets _ hm _ hf _ ht
  | input hp hv hm => exact (h.methods _ hp _ hv _ hm).1
  | output hp hv hm => exact (h.methods _ hp _ hv _ hm).2

theorem Linked.closed (h : s.Linked) (howned : ∀ p ∈ s.files, ∀ m ∈ p.messages, m.file = p.name)
    (htargeted : ∀ m ∈ s.messages, ∀ f ∈ m.fields, f.kind = .message → f.target.isSome) : s.Closed := by
  have hlisted : ∀ t, s.Refers t → ∃ p m, s.LeadsTo t p m := by
    intro t ht
    obtain ⟨m, hfound, href⟩ := h.declares_of_refers ht
    obtain ⟨p, hp, hm⟩ := List.mem_flatMap.1 (find?_mem hfound).1
    exact ⟨p, m, href, hfound, hp, hm, howned p hp m hm⟩
  refine ⟨hlisted, ?_, htargeted⟩
  intro t u ht hu hname
  have heq := (h.declares_of_refers ht).eq_of_typeName (h.declares_of_refers hu) hname
  subst heq
  obtain ⟨p, m, hlead⟩ := hlisted t ht
  exact ⟨p, m, hlead, hlead⟩

theorem file_of_refs {p : ProtoFile} (h : ∀ t ∈ p.messages.map Message.ref, t.file = p.name) :
    ∀ m ∈ p.messages, m.file = p.name := by
  intro m hm
  exact h m.ref (List.mem_map_of_mem hm)

end DescriptorSet

namespace Request

variable {types : List TypeRef} {mapEntries : List String}

theorem wireField_targeted {wired : Wired} {f : FieldDecl} {g : Field}
    (h : wireField types mapEntries wired f = .ok g) (hk : g.kind = .message) : g.target.isSome := by
  rw [wireField] at h
  split at h
  · obtain ⟨t, -, h⟩ := bind_eq_ok.1 h
    split at h
    · cases pure_eq_ok.1 h
      cases hk
    · cases pure_eq_ok.1 h
      rfl
  · cases pure_eq_ok.1 h
    -- An enum or a scalar is no message.
    cases he : f.isEnum with
    | true => simp [he] at hk
    | false => simp [he] at hk

def Wired.Targeted (wired : Wired) : Prop := ∀ p ∈ wired, p.2.kind = .message → p.2.target.isSome

theorem foldlM_addField_targeted {ds : List (String × FieldDecl)} {wired wired' : Wired}
    (h : ds.foldlM (addField types mapEntries) wired = .ok wired') (ht : wired.Targeted) :
    wired'.Targeted := by
  induction ds generalizing wired with
  | nil =>
    cases h
    exact ht
  | cons d rest ih =>
    obtain ⟨w, hw, h⟩ := bind_eq_ok.1 h
    obtain ⟨g, hg, hw⟩ := bind_eq_ok.1 hw
    cases pure_eq_ok.1 hw
    apply ih h
    intro p hp
    rcases List.mem_append.1 hp with hp | hp
    · exact ht p hp
    · cases List.mem_singleton.1 hp
      exact wireField_targeted hg

theorem wireFiles_targeted {files : List FileDecl} {wired wired' : Wired} {services : List (List Service)}
    (h : wireFiles types mapEntries wired files = .ok (wired', services)) (ht : wired.Targeted) :
    wired'.Targeted := by
  induction files generalizing wired wired' services with
  | nil =>
    cases h
    exact ht
  | cons f rest ih =>
    obtain ⟨w, hw, h⟩ := bind_eq_ok.1 h
    obtain ⟨ss, -, h⟩ := bind_eq_ok.1 h
    obtain ⟨⟨w', more⟩, hrest, h⟩ := bind_eq_ok.1 h
    cases pure_eq_ok.1 h
    rw [wireMessages_eq_foldlM] at hw
    exact ih hrest (foldlM_addField_targeted hw ht)

theorem assemble_refs (wired : Wired) (files : List FileDecl) (services : List (List Service)) :
    ∀ p ∈ assemble wired files services,
      ∃ f ∈ files, p.name = f.nameText ∧ p.messages.map Message.ref = f.types := by
  induction files generalizing services with
  | nil =>
    intro p hp
    cases hp
  | cons f rest ih =>
    cases services with
    | nil =>
      intro p hp
      cases hp
    | cons ss more =>
      intro p hp
      rcases List.mem_cons.1 hp with rfl | hp
      · exact ⟨f, List.mem_cons_self, rfl, messagesOf_refs wired _ f.types⟩
      · obtain ⟨g, hg, hname, hrefs⟩ := ih more p hp
        exact ⟨g, List.mem_cons_of_mem _ hg, hname, hrefs⟩

theorem descriptors_closed {r : Request} {s : DescriptorSet} (h : r.descriptors = .ok s) : s.Closed := by
  have hlinked := descriptors_linked h
  obtain ⟨⟨wired, services⟩, hw, h⟩ := bind_eq_ok.1 h
  cases pure_eq_ok.1 h
  have hempty : Wired.Known r.types [] := fun p hp => absurd hp List.not_mem_nil
  have hlength := (wireFiles_known hempty hw).2.1
  have htargeted : wired.Targeted := wireFiles_targeted hw fun p hp => absurd hp List.not_mem_nil
  apply hlinked.closed
  · intro p hp
    obtain ⟨f, -, hname, hrefs⟩ := assemble_refs wired r.files services p hp
    apply DescriptorSet.file_of_refs
    rw [hrefs, hname]
    exact fun t ht => Messages.file_of_mem_types ht
  · intro m hm f hf hk
    rw [DescriptorSet.messages, assemble_messages hlength] at hm
    rcases mem_messagesOf hm with hnil | ⟨heq, -⟩
    · rw [hnil] at hf
      cases hf
    · rw [heq] at hf
      exact htargeted _ (Wired.mem_fieldsOf.1 hf) hk

end Request

namespace Document

theorem Messages.file_of_mem_types {file scope : String} {decls : Messages} {t : TypeRef}
    (h : t ∈ decls.types file scope) : t.file = file := by
  induction decls generalizing scope with
  | nil => cases h
  | cons name fields nested rest ihn ihr =>
    rcases List.mem_append.1 h with h | h
    · rcases List.mem_cons.1 h with rfl | h
      · rfl
      · exact ihn h
    · exact ihr h

theorem FieldDecl.Becomes.targeted {table : List TypeRef} {f : FieldDecl} {g : Field}
    (h : f.Becomes table g) (hk : g.kind = .message) : g.target.isSome := by
  by_cases ht : f.type.getD "" = ""
  · exact absurd hk (h.untyped ht).2
  · exact h.typed ht

theorem Messages.Becomes.targeted {table : List TypeRef} {file scope : String} {decls : Messages}
    {ms : List Message} (h : decls.Becomes table file scope ms) :
    ∀ m ∈ ms, ∀ f ∈ m.fields, f.kind = .message → f.target.isSome := by
  induction decls generalizing scope ms with
  | nil =>
    cases h
    exact List.forall_mem_nil _
  | cons name fields nested rest ihn ihr =>
    obtain ⟨gs, inner, others, hfields, hinner, hothers, rfl⟩ := h
    intro m hm
    rcases List.mem_append.1 hm with hm | hm
    · rcases List.mem_cons.1 hm with rfl | hm
      · intro g hg
        obtain ⟨f, -, hfg⟩ := exists_of_forall₂ hfields hg
        exact hfg.targeted
      · exact ihn hinner m hm
    · exact ihr hothers m hm

theorem FileDecl.Becomes.owned {table : List TypeRef} {d : FileDecl} {p : ProtoFile}
    (h : d.Becomes table p) : ∀ m ∈ p.messages, m.file = p.name := by
  apply DescriptorSet.file_of_refs
  rw [h.messages.refs, h.name]
  exact fun t ht => Messages.file_of_mem_types ht

theorem descriptors_closed {d : Document} {s : DescriptorSet} (h : d.descriptors = .ok s) : s.Closed := by
  have hlinked := descriptors_linked h
  obtain ⟨files, added, -, -, hb, rfl⟩ := descriptors_eq_ok h
  apply hlinked.closed
  · intro p hp
    rcases List.mem_append.1 hp with hp | hp
    · obtain ⟨d', -, hd'⟩ := exists_of_forall₂ hb hp
      exact hd'.owned
    · obtain ⟨t, -, rfl⟩ := List.mem_map.1 hp
      exact List.forall_mem_singleton.2 rfl
  · intro m hm
    obtain ⟨p, hp, hmp⟩ := List.mem_flatMap.1 hm
    rcases List.mem_append.1 hp with hp | hp
    · obtain ⟨d', -, hd'⟩ := exists_of_forall₂ hb hp
      exact hd'.messages.targeted m hmp
    · obtain ⟨t, -, rfl⟩ := List.mem_map.1 hp
      cases List.mem_singleton.1 hmp
      exact List.forall_mem_nil _

def AddsOnly (names : List String) (step : Wiring α) : Prop :=
  ∀ added a added', step added = .ok a added' → ∀ t ∈ added', t ∈ added ∨ t.typeName ∈ names

variable {names : List String} {declared : List TypeRef}

theorem AddsOnly.pure (a : α) : AddsOnly names (pure a : Wiring α) := by
  intro added b added' h t ht
  obtain ⟨-, rfl⟩ := stateful_pure_eq_ok.1 h
  exact .inl ht

theorem AddsOnly.throw (e : Error) : AddsOnly names (throw e : Wiring α) := by
  intro added a added' h
  cases h

theorem AddsOnly.bind {first : Wiring α} {next : α → Wiring β} (hfirst : AddsOnly names first)
    (hnext : ∀ a, AddsOnly names (next a)) : AddsOnly names (first >>= next) := by
  intro added b added' h t ht
  obtain ⟨a, mid, ha, hb⟩ := stateful_bind_eq_ok.1 h
  rcases hnext a mid b added' hb t ht with hmid | hname
  · exact hfirst added a mid ha t hmid
  · exact .inr hname

theorem AddsOnly.mapM {step : α → Wiring β} {as : List α} (h : ∀ a ∈ as, AddsOnly names (step a)) :
    AddsOnly names (as.mapM step) := by
  induction as with
  | nil => exact .pure []
  | cons a rest ih =>
    obtain ⟨ha, hrest⟩ := List.forall_mem_cons.1 h
    rw [List.mapM_cons]
    exact ha.bind fun b => (ih hrest).bind fun bs => .pure (b :: bs)

theorem resolve_addsOnly {ref : String} (h : bareRef ref ∈ names) (package scope : String) :
    AddsOnly names (resolve declared package scope ref) := by
  intro added a added' hr t ht
  rw [resolve_eq] at hr
  split at hr
  · cases hr
    exact .inl ht
  · rename_i hw
    cases hr
    rcases List.mem_append.1 ht with ht | ht
    · exact .inl ht
    · cases List.mem_singleton.1 ht
      rw [(wellKnown?_eq_some hw).2]
      exact .inr h
  · cases hr

theorem wireField_addsOnly {f : FieldDecl} {typeName : String}
    (h : ∀ r, f.reference? typeName = some r → bareRef r.2 ∈ names) (package : String) :
    AddsOnly names (wireField declared package typeName f) := by
  rw [wireField]
  split
  · rename_i ht
    have hname : bareRef (f.type.getD "") ∈ names := h (typeName, _) (if_neg ht)
    exact (resolve_addsOnly hname package typeName).bind fun t => .pure _
  · split
    · exact .throw _
    · exact .pure _

theorem wireMessages_addsOnly {decls : Messages} {scope : String}
    (h : ∀ r ∈ decls.references scope, bareRef r.2 ∈ names) (file package : String) :
    AddsOnly names (wireMessages declared file package scope decls) := by
  induction decls generalizing scope with
  | nil => exact .pure []
  | cons name fields nested rest ihn ihr =>
    rw [Messages.references, List.forall_mem_append, List.forall_mem_append] at h
    obtain ⟨⟨hfields, hnested⟩, hrest⟩ := h
    rw [wireMessages, wireFields_eq_mapM]
    have hfield : ∀ f ∈ fields, AddsOnly names (wireField declared package (qualify scope name) f) := by
      intro f hf
      exact wireField_addsOnly (fun r hr => hfields r (List.mem_filterMap.2 ⟨f, hf, hr⟩)) package
    exact (AddsOnly.mapM hfield).bind fun gs => (ihn hnested).bind fun inner => (ihr hrest).bind fun others =>
      .pure _

theorem wireService_addsOnly {d : ServiceDecl} {package : String}
    (h : ∀ r ∈ d.references package, bareRef r.2 ∈ names) (file : String) :
    AddsOnly names (wireService declared file package d) := by
  have hmethod : ∀ m ∈ d.methods, AddsOnly names (wireMethod declared package m) := by
    intro m hm
    have hr : ∀ r ∈ [(package, m.input), (package, m.output)], bareRef r.2 ∈ names := fun r hr =>
      h r (List.mem_flatMap.2 ⟨m, hm, hr⟩)
    obtain ⟨hinput, houtput⟩ := List.forall_mem_cons.1 hr
    exact (resolve_addsOnly hinput package package).bind fun input =>
      (resolve_addsOnly (houtput _ (.head _)) package package).bind fun output => .pure _
  exact (AddsOnly.mapM hmethod).bind fun ms => .pure _

theorem wireFiles_addsOnly {decls : List FileDecl}
    (h : ∀ r ∈ decls.flatMap (·.references), bareRef r.2 ∈ names) :
    AddsOnly names (wireFiles declared decls) := by
  rw [wireFiles_eq_mapM]
  apply AddsOnly.mapM
  intro d hd
  have hd' : ∀ r ∈ d.references, bareRef r.2 ∈ names := fun r hr => h r (List.mem_flatMap.2 ⟨d, hd, hr⟩)
  obtain ⟨hm, hs⟩ := List.forall_mem_append.1 hd'
  have hservice : ∀ v ∈ d.services, AddsOnly names (wireService declared d.name d.package v) := fun v hv =>
    wireService_addsOnly (fun r hr => hs r (List.mem_flatMap.2 ⟨v, hv, hr⟩)) d.name
  exact (wireMessages_addsOnly hm d.name d.package).bind fun ms => (AddsOnly.mapM hservice).bind fun ss =>
    .pure _

/-- What a document's descriptors hold beyond the declared files: each of the types `added` in the file that
well-known types of its name are known from. -/
structure Adds (d : Document) (s : DescriptorSet) (added : List TypeRef) : Prop where
  files : ∃ files, List.Forall₂ (FileDecl.Becomes (d.types ++ added)) d.files files ∧
    s.files = files ++ added.map wellKnownFile
  once : added.Nodup
  wellKnown : added ⊆ wellKnownTypes
  undeclared : ∀ t ∈ added, t.typeName ∉ d.types.map (·.typeName)
  named : ∀ t ∈ added, ∃ r ∈ d.references, bareRef r.2 = t.typeName

theorem descriptors_adds {d : Document} {s : DescriptorSet} (h : d.descriptors = .ok s) :
    (s.messages.map (·.typeName)).Nodup ∧ ∃ added, d.Adds s added := by
  obtain ⟨files, added, hn, hw, rfl⟩ := wireFiles_of_descriptors h
  obtain ⟨hgrows, hb⟩ := wireFiles_eq_ok hw
  have hbecomes := hb _ (List.Subset.refl _)
  have hnodup : ((d.types ++ added).map (·.typeName)).Nodup := hgrows.nodup (by simpa using hn)
  have hrefs := refs_descriptors hbecomes added d.filesToGenerate
  constructor
  · rw [← hrefs, List.map_map] at hnodup
    exact hnodup
  · rw [List.map_append] at hnodup
    have hnamed : ∀ r ∈ d.references, bareRef r.2 ∈ d.references.map fun r => bareRef r.2 := fun r hr =>
      List.mem_map_of_mem hr
    refine ⟨added, ⟨files, hbecomes, rfl⟩, hnodup.of_append_right.of_map _, hgrows.wellKnown, ?_, ?_⟩
    · intro t ht hdeclared
      exact List.disjoint_of_nodup_append hnodup hdeclared (List.mem_map_of_mem ht)
    · intro t ht
      rcases wireFiles_addsOnly hnamed [] files added hw t ht with hnil | hname
      · cases hnil
      · exact List.mem_map.1 hname

end Document

namespace DescriptorSet

/-- Nothing leads out of a set. A document's set has each type name once, and beyond the declared files
those of the well-known types that the document names in full and does not declare, once each. -/
theorem closed_of_loaded {s : DescriptorSet} (h : s.Loaded) :
    s.Closed ∧ ∀ d : Document, d.descriptors = .ok s →
      (s.messages.map (·.typeName)).Nodup ∧ ∃ added, d.Adds s added := by
  refine ⟨?_, fun d hd => Document.descriptors_adds hd⟩
  cases h with
  | ofRequest h => exact Request.descriptors_closed h
  | ofDocument h => exact Document.descriptors_closed h

/-- A message that refers to itself, and a well-known type that is named twice. -/
def tree : Document :=
  { files := [
      { name := "tree.proto"
        package := "tree"
        messages :=
          .cons "Node" [{ name := "next", type := some "Node" },
            { name := "leaf", type := some ".google.protobuf.Empty" }] .nil .nil
        services := [⟨"Tree", [⟨"Cut", "tree.Node", "google.protobuf.Empty", .unary⟩]⟩] }] }

def nodeRef : TypeRef := ⟨"tree.Node", "Node", "tree.proto"⟩

def leafRef : TypeRef := ⟨"google.protobuf.Empty", "Empty", "google/protobuf/empty.proto"⟩

def cut : Method := ⟨"Cut", nodeRef, leafRef, .unary⟩

def treeSet : DescriptorSet :=
  { files := [
      ⟨"tree.proto", "tree",
        [⟨"tree.Node", "Node", "tree.proto", [⟨"next", .message, false, some nodeRef⟩,
          ⟨"leaf", .message, false, some leafRef⟩]⟩],
        [⟨"Tree", "tree", "tree.proto", [cut]⟩]⟩,
      ⟨"google/protobuf/empty.proto", "google.protobuf",
        [⟨"google.protobuf.Empty", "Empty", "google/protobuf/empty.proto", []⟩], []⟩] }

theorem closed_of_loaded_tree :
    treeSet.Loaded ∧ tree.descriptors = .ok treeSet ∧ (∃ p m, treeSet.LeadsTo nodeRef p m) ∧
      (∃ p m, treeSet.LeadsTo leafRef p m) ∧ ∃ added, tree.Adds treeSet added := by
  have hd : tree.descriptors = .ok treeSet := by decide +kernel
  have hload : treeSet.Loaded := .ofDocument hd
  obtain ⟨hclosed, hadds⟩ := closed_of_loaded hload
  have hnode : treeSet.Refers nodeRef := .target (.head _) (.head _) rfl
  have hleaf : treeSet.Refers cut.output := .output (.head _) (.head _) (.head _)
  exact ⟨hload, hd, hclosed.listed nodeRef hnode, hclosed.listed leafRef hleaf, (hadds tree hd).2⟩

end DescriptorSet

end RpcBindings
