import RpcBindings.Proofs.Document.AsRequest
import RpcBindings.Proofs.Document.Resolution
import RpcBindings.Proofs.Permuted

namespace RpcBindings

/-- The same message with its fields in another order. -/
structure Message.Reordered (m m' : Message) : Prop where
  typeName : m.typeName = m'.typeName
  name : m.name = m'.name
  file : m.file = m'.file
  fields : m.fields.Perm m'.fields

structure Service.Reordered (s s' : Service) : Prop where
  name : s.name = s'.name
  package : s.package = s'.package
  file : s.file = s'.file
  methods : s.methods.Perm s'.methods

structure ProtoFile.Reordered (p p' : ProtoFile) : Prop where
  name : p.name = p'.name
  package : p.package = p'.package
  messages : Permuted Message.Reordered p.messages p'.messages
  services : Permuted Service.Reordered p.services p'.services

structure DescriptorSet.Reordered (s s' : DescriptorSet) : Prop where
  files : Permuted ProtoFile.Reordered s.files s'.files
  filesToGenerate : s.filesToGenerate = s'.filesToGenerate

theorem Message.Reordered.refl (m : Message) : m.Reordered m := ⟨rfl, rfl, rfl, .refl _⟩

theorem Message.Reordered.trans {m m' m'' : Message} (h : m.Reordered m') (h' : m'.Reordered m'') :
    m.Reordered m'' where
  typeName := h.typeName.trans h'.typeName
  name := h.name.trans h'.name
  file := h.file.trans h'.file
  fields := h.fields.trans h'.fields

theorem Service.Reordered.refl (s : Service) : s.Reordered s := ⟨rfl, rfl, rfl, .refl _⟩

theorem ProtoFile.Reordered.refl (p : ProtoFile) : p.Reordered p :=
  ⟨rfl, rfl, .of_perm Message.Reordered.refl (.refl _), .of_perm Service.Reordered.refl (.refl _)⟩

namespace Document

/-- The same declarations in another order, at every depth. -/
inductive Messages.Reordered : Messages → Messages → Prop where
  | nil : Messages.Reordered .nil .nil
  | cons {name : String} {fields fields' : List FieldDecl} {nested nested' rest rest' : Messages}
      (hf : fields.Perm fields') (hn : nested.Reordered nested') (hr : rest.Reordered rest') :
      Messages.Reordered (.cons name fields nested rest) (.cons name fields' nested' rest')
  | swap {n n' : String} {fs fs' : List FieldDecl} {ns ns' rest : Messages} :
      Messages.Reordered (.cons n fs ns (.cons n' fs' ns' rest)) (.cons n' fs' ns' (.cons n fs ns rest))
  | trans {a b c : Messages} (h : a.Reordered b) (h' : b.Reordered c) : a.Reordered c

structure ServiceDecl.Reordered (s s' : ServiceDecl) : Prop where
  name : s.name = s'.name
  methods : s.methods.Perm s'.methods

structure FileDecl.Reordered (f f' : FileDecl) : Prop where
  name : f.name = f'.name
  package : f.package = f'.package
  messages : f.messages.Reordered f'.messages
  services : Permuted ServiceDecl.Reordered f.services f'.services

/-- The same document with its files, messages, fields, services and methods in another order. -/
structure Reordered (d d' : Document) : Prop where
  files : Permuted FileDecl.Reordered d.files d'.files
  filesToGenerate : d.filesToGenerate = d'.filesToGenerate
  config : d.config = d'.config

theorem Messages.Reordered.symm {a b : Messages} (h : a.Reordered b) : b.Reordered a := by
  induction h with
  | nil => exact .nil
  | cons hf _ _ ihn ihr => exact .cons hf.symm ihn ihr
  | swap => exact .swap
  | trans _ _ ih ih' => exact ih'.trans ih

theorem ServiceDecl.Reordered.symm {s s' : ServiceDecl} (h : s.Reordered s') : s'.Reordered s :=
  ⟨h.name.symm, h.methods.symm⟩

theorem FileDecl.Reordered.symm {f f' : FileDecl} (h : f.Reordered f') : f'.Reordered f where
  name := h.name.symm
  package := h.package.symm
  messages := h.messages.symm
  services := h.services.symm ServiceDecl.Reordered.symm

theorem Reordered.symm {d d' : Document} (h : d.Reordered d') : d'.Reordered d where
  files := h.files.symm FileDecl.Reordered.symm
  filesToGenerate := h.filesToGenerate.symm
  config := h.config.symm

theorem Messages.Reordered.types {a b : Messages} (h : a.Reordered b) (file scope : String) :
    (a.types file scope).Perm (b.types file scope) := by
  induction h generalizing scope with
  | nil => exact .refl _
  | cons _ _ _ ihn ihr => exact ((ihn _).append (ihr _)).cons _
  | swap => exact List.perm_append_comm_assoc ..
  | trans _ _ ih ih' => exact (ih _).trans (ih' _)

theorem Messages.Reordered.references {a b : Messages} (h : a.Reordered b) (scope : String) :
    (a.references scope).Perm (b.references scope) := by
  induction h generalizing scope with
  | nil => exact .refl _
  | cons hf _ _ ihn ihr => exact ((hf.filterMap _).append (ihn _)).append (ihr _)
  | swap => exact List.perm_append_comm_assoc ..
  | trans _ _ ih ih' => exact (ih _).trans (ih' _)

theorem FileDecl.Reordered.types {f f' : FileDecl} (h : f.Reordered f') : f.types.Perm f'.types := by
  rw [FileDecl.types, FileDecl.types, h.name, h.package]
  exact h.messages.types _ _

theorem FileDecl.Reordered.references {f f' : FileDecl} (h : f.Reordered f') :
    f.references.Perm f'.references := by
  rw [FileDecl.references, FileDecl.references, h.package]
  exact (h.messages.references _).append (h.services.flatMap fun hs => hs.methods.flatMap_right _)

theorem Reordered.types {d d' : Document} (h : d.Reordered d') : d.types.Perm d'.types :=
  h.files.flatMap fun hf => hf.types

theorem Reordered.references {d d' : Document} (h : d.Reordered d') : d.references.Perm d'.references :=
  h.files.flatMap fun hf => hf.references

theorem Reordered.namedWellKnown {d d' : Document} (h : d.Reordered d') :
    d.namedWellKnown = d'.namedWellKnown := by
  rw [Document.namedWellKnown, Document.namedWellKnown]
  refine List.filter_congr fun t _ => ?_
  rw [Bool.eq_iff_iff, List.any_eq_true, List.any_eq_true]
  exact exists_congr fun r => and_congr_left fun _ => h.references.mem_iff

theorem Messages.Reordered.yields {means : String → String → Option TypeRef} {file scope : String}
    {a b : Messages} (h : a.Reordered b) {ms : List Message} (hy : a.Yields means file scope ms) :
    ∃ ms', b.Yields means file scope ms' ∧ Permuted Message.Reordered ms ms' := by
  induction h generalizing scope ms with
  | nil => exact ⟨ms, hy, .of_perm Message.Reordered.refl (.refl _)⟩
  | cons hf _ _ ihn ihr =>
    obtain ⟨gs, inner, others, hgs, hinner, hothers, rfl⟩ := hy
    obtain ⟨gs', hgs', hperm⟩ := List.perm_comp_forall₂ hf.symm hgs
    obtain ⟨inner', hinner', hpinner⟩ := ihn hinner
    obtain ⟨others', hothers', hpothers⟩ := ihr hothers
    refine ⟨_, ⟨gs', inner', others', hgs', hinner', hothers', rfl⟩, ?_⟩
    exact (hpinner.cons ⟨rfl, rfl, rfl, hperm.symm⟩).append hpothers
  | swap =>
    obtain ⟨gs, inner, _, hgs, hinner, ⟨gs', inner', others, hgs', hinner', hothers, rfl⟩, rfl⟩ := hy
    refine ⟨_, ⟨gs', inner', _, hgs', hinner', ⟨gs, inner, others, hgs, hinner, hothers, rfl⟩, rfl⟩, ?_⟩
    exact .of_perm Message.Reordered.refl (List.perm_append_comm_assoc ..)
  | trans _ _ ih ih' =>
    obtain ⟨ms', hy', hp⟩ := ih hy
    obtain ⟨ms'', hy'', hp'⟩ := ih' hy'
    exact ⟨ms'', hy'', hp.trans Message.Reordered.trans hp'⟩

theorem ServiceDecl.Reordered.yields {means : String → String → Option TypeRef} {file scope : String}
    {d d' : ServiceDecl} (h : d.Reordered d') {s : Service} (hy : d.Yields means file scope s) :
    ∃ s', d'.Yields means file scope s' ∧ s.Reordered s' := by
  obtain ⟨methods, hmethods, hp⟩ := List.perm_comp_forall₂ h.methods.symm hy.methods
  refine ⟨{ s with methods }, ⟨hy.name.trans h.name, hy.package, hy.file, hmethods⟩, ?_⟩
  exact ⟨rfl, rfl, rfl, hp.symm⟩

theorem FileDecl.Reordered.yields {means : String → String → Option TypeRef} {d d' : FileDecl}
    (h : d.Reordered d') {p : ProtoFile} (hy : d.Yields means p) :
    ∃ p', d'.Yields means p' ∧ p.Reordered p' := by
  obtain ⟨messages, hmessages, hpm⟩ := h.messages.yields hy.messages
  obtain ⟨services, hservices, hps⟩ := h.services.yields hy.services fun hs hys => hs.yields hys
  rw [h.name, h.package] at hmessages hservices
  refine ⟨{ p with messages, services }, ⟨hy.name.trans h.name, hy.package.trans h.package, hmessages,
    hservices⟩, ?_⟩
  exact ⟨rfl, rfl, hpm, hps⟩

theorem fileTargets_perm {p p' : ProtoFile} (h : p.Reordered p') : (fileTargets p).Perm (fileTargets p') :=
  (h.messages.flatMap fun hm => hm.fields.flatMap_right _).append
    (h.services.flatMap fun hs => hs.methods.flatMap_right _)

theorem firstDuplicate_eq_none {seen : List String} {types : List TypeRef}
    (hs : ∀ t ∈ types, t.typeName ∉ seen) (hn : (types.map (·.typeName)).Nodup) :
    firstDuplicate seen types = none := by
  induction types generalizing seen with
  | nil => rfl
  | cons t rest ih =>
    obtain ⟨ht, hrest⟩ := List.forall_mem_cons.1 hs
    obtain ⟨hnew, hn⟩ := List.nodup_cons.1 hn
    rw [firstDuplicate, if_neg ht]
    refine ih (fun u hu hmem => ?_) hn
    rcases List.mem_cons.1 hmem with heq | hmem
    · exact hnew (List.mem_map.2 ⟨u, hu, heq⟩)
    · exact hrest u hu hmem

theorem nodup_note {declared added ts : List TypeRef} (h : added.Nodup) :
    (note declared added ts).Nodup := by
  induction ts generalizing added with
  | nil => exact h
  | cons t rest ih =>
    rw [← List.singleton_append, note_append]
    refine ih ?_
    by_cases ht : t ∈ declared ++ added
    · rw [note_singleton_of_mem ht]
      exact h
    · rw [note_singleton_of_not_mem ht]
      have hnew : t ∉ added := fun hmem => ht (List.mem_append_right _ hmem)
      exact h.append (List.nodup_singleton t) (by simpa using hnew)

theorem note_perm {declared declared' ts ts' : List TypeRef} (hd : declared.Perm declared')
    (ht : ts.Perm ts') : (note declared [] ts).Perm (note declared' [] ts') := by
  refine (List.perm_ext_iff_of_nodup (nodup_note .nil) (nodup_note .nil)).2 fun t => ?_
  rw [mem_note, mem_note, ht.mem_iff, hd.mem_iff]

theorem lookup?_congr {types types' : List TypeRef}
    (h : ∀ n, types.find? (·.typeName == n) = types'.find? (·.typeName == n)) :
    lookup? types = lookup? types' := by
  funext scope ref
  rw [lookup?, lookup?]
  simp only [h]

theorem lookup?_append_congr {types types' : List TypeRef} (named : List TypeRef)
    (h : ∀ n, types.find? (·.typeName == n) = types'.find? (·.typeName == n)) :
    lookup? (types ++ named) = lookup? (types' ++ named) := by
  refine lookup?_congr fun n => ?_
  rw [List.find?_append, List.find?_append, h]

theorem Reordered.allSettled {d d' : Document} (h : d.Reordered d')
    (hn : (d.types.map (·.typeName)).Nodup) (hs : d.AllSettled) : d'.AllSettled := by
  intro r hr
  have hfind := find?_eq_of_perm h.types hn
  have hsettled := hs r (h.references.mem_iff.2 hr)
  rw [Settled, lookup?_append_congr _ hfind, lookup?_congr hfind, h.namedWellKnown] at hsettled
  exact hsettled

theorem descriptors_eq_ok_iff {d : Document} (hs : d.AllSettled) {set : DescriptorSet} :
    d.descriptors = .ok set ↔ (d.types.map (·.typeName)).Nodup ∧
      ∃ files, List.Forall₂ (FileDecl.Yields (lookup? (d.types ++ d.namedWellKnown))) d.files files ∧
        set = ⟨files ++ (note d.types [] (files.flatMap fileTargets)).map wellKnownFile,
          d.filesToGenerate⟩ := by
  have hy := wireFiles_yielding (List.filter_subset_self _ : d.namedWellKnown ⊆ wellKnownTypes)
    fun f hf r hr => hs r (List.mem_flatMap.2 ⟨f, hf, hr⟩)
  have hrun := hy.eq_ok (List.nil_subset _)
  constructor
  · intro h
    obtain ⟨files, added, hn, hw, rfl⟩ := wireFiles_of_descriptors h
    obtain ⟨hfiles, rfl⟩ := (hrun files added).1 hw
    exact ⟨hn, files, hfiles, rfl⟩
  · rintro ⟨hn, files, hfiles, rfl⟩
    have hw := (hrun files _).2 ⟨hfiles, rfl⟩
    rw [descriptors, wire, firstDuplicate_eq_none (fun _ _ => List.not_mem_nil) hn]
    simp only [EStateM.run, hw]

theorem Reordered.descriptors {d d' : Document} (h : d.Reordered d') (hs : d.AllSettled)
    {s : DescriptorSet} (hd : d.descriptors = .ok s) :
    ∃ s', d'.descriptors = .ok s' ∧ s.Reordered s' := by
  obtain ⟨hn, files, hfiles, rfl⟩ := (descriptors_eq_ok_iff hs).1 hd
  have hn' : (d'.types.map (·.typeName)).Nodup := (h.types.map _).nodup_iff.1 hn
  rw [lookup?_append_congr _ (find?_eq_of_perm h.types hn), h.namedWellKnown] at hfiles
  obtain ⟨files', hfiles', hp⟩ := h.files.yields hfiles fun hf hy => hf.yields hy
  have hadded := note_perm h.types (hp.flatMap fileTargets_perm)
  refine ⟨_, (descriptors_eq_ok_iff (h.allSettled hn hs)).2 ⟨hn', files', hfiles', rfl⟩, ?_, ?_⟩
  · exact hp.append (.of_perm ProtoFile.Reordered.refl (hadded.map wellKnownFile))
  · exact h.filesToGenerate

/-- Where every reference is settled, the order of the declarations decides neither whether a document
parses nor what anything in it refers to. -/
theorem parse_reordered {v v' : Data.Value} {d d' : Document} (hv : check v = .pass d)
    (hv' : check v' = .pass d') (h : d.Reordered d') (hs : d.AllSettled) :
    ((∃ r, parse v = .ok r) ↔ ∃ r, parse v' = .ok r) ∧
      ∀ s s' settings settings', parse v = .ok (s, settings) → parse v' = .ok (s', settings') →
        s.Reordered s' ∧ settings = settings' := by
  have hforth : ∀ s settings, parse v = .ok (s, settings) →
      ∃ s', parse v' = .ok (s', settings) ∧ s.Reordered s' := by
    intro s settings hp
    obtain ⟨hset, rfl⟩ := (parse_eq_ok_iff hv).1 hp
    obtain ⟨s', hset', hr⟩ := h.descriptors hs hset
    exact ⟨s', (parse_eq_ok_iff hv').2 ⟨hset', h.config⟩, hr⟩
  refine ⟨⟨?_, ?_⟩, ?_⟩
  · rintro ⟨⟨s, settings⟩, hp⟩
    obtain ⟨s', hp', -⟩ := hforth s settings hp
    exact ⟨_, hp'⟩
  · rintro ⟨⟨s', settings⟩, hp'⟩
    obtain ⟨hset', rfl⟩ := (parse_eq_ok_iff hv').1 hp'
    obtain ⟨_, _, hn', _, -⟩ := descriptors_eq_ok hset'
    rw [List.map_append] at hn'
    have hn : (d.types.map (·.typeName)).Nodup := (h.types.map _).nodup_iff.2 hn'.of_append_left
    obtain ⟨s, hset, -⟩ := h.symm.descriptors (h.allSettled hn hs) hset'
    exact ⟨_, (parse_eq_ok_iff hv).2 ⟨hset, rfl⟩⟩
  · intro s s' settings settings' hp hp'
    obtain ⟨s'', hp'', hr⟩ := hforth s settings hp
    rw [hp''] at hp'
    cases hp'
    exact ⟨hr, rfl⟩

def itemsField : FieldDecl := ⟨"items", none, some "item.Item", true⟩

def timeField : FieldDecl := ⟨"at", none, some "google.protobuf.Timestamp", false⟩

def cartValue (fields : List Data.Value) : Data.Value :=
  .record [("name", .text "cart.proto"), ("package", .text "cart"),
    ("messages", .list [.record [("name", .text "Cart"), ("fields", .list fields)]]),
    ("services", .list [.record [("name", .text "Carts"), ("methods", .list [.record
      [("name", .text "Get"), ("input", .text "item.Item"), ("output", .text "Cart")]])]])]

def cartFile (fields : List FieldDecl) : FileDecl :=
  { name := "cart.proto"
    package := "cart"
    messages := .cons "Cart" fields .nil .nil
    services := [⟨"Carts", [⟨"Get", "item.Item", "Cart", .unary⟩]⟩] }

def itemValue : Data.Value :=
  .record [("name", .text "item.proto"), ("package", .text "item"),
    ("messages", .list [.record [("name", .text "Item")]])]

def itemFile : FileDecl :=
  { name := "item.proto"
    package := "item"
    messages := .cons "Item" [] .nil .nil }

def itemRef : TypeRef := ⟨"item.Item", "Item", "item.proto"⟩

def cartRef : TypeRef := ⟨"cart.Cart", "Cart", "cart.proto"⟩

def timeRef : TypeRef := ⟨"google.protobuf.Timestamp", "Timestamp", "google/protobuf/timestamp.proto"⟩

def cartSet : DescriptorSet :=
  { files := [
      { name := "cart.proto"
        package := "cart"
        messages := [⟨"cart.Cart", "Cart", "cart.proto",
          [⟨"items", .message, true, some itemRef⟩, ⟨"at", .message, false, some timeRef⟩]⟩]
        services := [⟨"Carts", "cart", "cart.proto", [⟨"Get", itemRef, cartRef, .unary⟩]⟩] },
      { name := "item.proto"
        package := "item"
        messages := [⟨"item.Item", "Item", "item.proto", []⟩] },
      wellKnownFile timeRef] }

theorem parse_reordered_cart :
    let items := .record [("name", .text "items"), ("type", .text "item.Item"), ("repeated", .bool true)]
    let time := .record [("name", .text "at"), ("type", .text "google.protobuf.Timestamp")]
    let v := Data.Value.record [("files", .list [cartValue [items, time], itemValue])]
    let v' := Data.Value.record [("files", .list [itemValue, cartValue [time, items]])]
    parse v = .ok (cartSet, []) ∧ ((∃ r, parse v = .ok r) ↔ ∃ r, parse v' = .ok r) ∧
      ∀ s s' settings settings', parse v = .ok (s, settings) → parse v' = .ok (s', settings') →
        s.Reordered s' ∧ settings = settings' := by
  intro items time v v'
  have hd : check v = .pass { files := [cartFile [itemsField, timeField], itemFile] } := by rfl
  have hd' : check v' = .pass { files := [itemFile, cartFile [timeField, itemsField]] } := by rfl
  have hcart : (cartFile [itemsField, timeField]).Reordered (cartFile [timeField, itemsField]) :=
    ⟨rfl, rfl, .cons (.swap ..) .nil .nil, .of_perm (fun _ => ⟨rfl, .refl _⟩) (.refl _)⟩
  have hitem : itemFile.Reordered itemFile := ⟨rfl, rfl, .cons (.refl _) .nil .nil, [], .refl _, .nil⟩
  have hfiles : Permuted FileDecl.Reordered [cartFile [itemsField, timeField], itemFile]
      [itemFile, cartFile [timeField, itemsField]] := ⟨_, .swap .., .cons hitem (.cons hcart .nil)⟩
  have hsettled := allSettled_of_topPackage (d := { files := [cartFile [itemsField, timeField], itemFile] })
    (by decide +kernel)
  refine ⟨(parse_eq_ok_iff hd).2 ⟨by decide +kernel, rfl⟩, ?_⟩
  exact parse_reordered hd hd' ⟨hfiles, rfl, rfl⟩ hsettled

def callValue (fields : List Data.Value) : Data.Value :=
  .record [("files", .list [.record [("name", .text "google/api.proto"), ("package", .text "google"),
    ("messages", .list [.record [("name", .text "Call"), ("fields", .list fields)]])]])]

def callDocument (fields : List FieldDecl) : Document :=
  { files := [
      { name := "google/api.proto"
        package := "google"
        messages := .cons "Call" fields .nil .nil }] }

def emptyRef : TypeRef := ⟨"google.protobuf.Empty", "Empty", "google/protobuf/empty.proto"⟩

def callSet : DescriptorSet :=
  { files := [
      { name := "google/api.proto"
        package := "google"
        messages := [⟨"google.Call", "Call", "google/api.proto",
          [⟨"done", .message, false, some emptyRef⟩, ⟨"none", .message, false, some emptyRef⟩]⟩] },
      wellKnownFile emptyRef] }

/-- The first field adds the type that the second one finds by a relative name; the other way round, the
relative name finds nothing. -/
theorem parse_call_depends_on_order :
    let done := .record [("name", .text "done"), ("type", .text "google.protobuf.Empty")]
    let none := .record [("name", .text "none"), ("type", .text "protobuf.Empty")]
    ∃ d d', check (callValue [done, none]) = .pass d ∧ check (callValue [none, done]) = .pass d' ∧
      d.Reordered d' ∧ parse (callValue [done, none]) = .ok (callSet, []) ∧
      parse (callValue [none, done]) = .error (.unknownType "protobuf.Empty" "google") := by
  intro done none
  have hd : check (callValue [done, none]) = .pass (callDocument
      [⟨"done", .none, some "google.protobuf.Empty", false⟩,
        ⟨"none", .none, some "protobuf.Empty", false⟩]) := by rfl
  have hd' : check (callValue [none, done]) = .pass (callDocument
      [⟨"none", .none, some "protobuf.Empty", false⟩,
        ⟨"done", .none, some "google.protobuf.Empty", false⟩]) := by rfl
  have herror : (callDocument [⟨"none", .none, some "protobuf.Empty", false⟩,
      ⟨"done", .none, some "google.protobuf.Empty", false⟩]).descriptors =
        .error (.unknownType "protobuf.Empty" "google") := by decide +kernel
  refine ⟨_, _, hd, hd', ⟨⟨_, .refl _, .cons ?_ .nil⟩, rfl, rfl⟩, ?_, ?_⟩
  · exact ⟨rfl, rfl, .cons (.swap ..) .nil .nil, [], .refl _, .nil⟩
  · exact (parse_eq_ok_iff hd).2 ⟨by decide +kernel, rfl⟩
  · rw [parse, hd']
    change (Document.descriptors _).map _ = _
    rw [herror]
    rfl

end Document

end RpcBindings
