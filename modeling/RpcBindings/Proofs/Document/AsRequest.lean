import RpcBindings.Proofs.Document.Wiring
import RpcBindings.Proofs.Request.Wiring

namespace RpcBindings

/-- The number of a kind in the descriptor format; a scalar stands for any type that is no message. -/
def FieldKind.typeCode : FieldKind → Nat
  | scalar | map => 9
  | enum => 14
  | message => 11

def TypeRef.qualified (t : TypeRef) : String := "." ++ t.typeName

namespace Document

/-- The field is no map, and it has a type exactly if it is of kind message. -/
def FieldDecl.Plain (f : FieldDecl) : Prop :=
  f.kindOrDefault ≠ .map ∧ (f.type.getD "" ≠ "" ↔ f.kindOrDefault = .message)

def Messages.Plain : Messages → Prop
  | .nil => True
  | .cons _ fields nested rest => (∀ f ∈ fields, f.Plain) ∧ nested.Plain ∧ rest.Plain

def Plain (d : Document) : Prop := ∀ f ∈ d.files, f.messages.Plain

/-- A field declaration as in a request, with the target of the field that it became. -/
def FieldDecl.toRequest (f : FieldDecl) (g : Field) : Request.FieldDecl :=
  { name := some f.name
    label := some (if f.repeated then 3 else 1)
    typeCode := some f.kindOrDefault.typeCode
    typeName := g.target.map TypeRef.qualified }

def Messages.toRequest (set : DescriptorSet) (scope : String) : Messages → Request.Messages
  | .nil => .nil
  | .cons name fields nested rest =>
    .cons (some name) none (List.zipWith FieldDecl.toRequest fields (set.fieldsOf (qualify scope name)))
      (nested.toRequest set (qualify scope name)) (rest.toRequest set scope)

def MethodDecl.toRequest (d : MethodDecl) (m : Method) : Request.MethodDecl :=
  { name := some d.name
    input := some m.input.qualified
    output := some m.output.qualified
    clientStreaming := some d.kind.clientStreams
    serverStreaming := some d.kind.serverStreams }

def ServiceDecl.toRequest (d : ServiceDecl) (s : Service) : Request.ServiceDecl :=
  ⟨some d.name, List.zipWith MethodDecl.toRequest d.methods s.methods⟩

def FileDecl.toRequest (set : DescriptorSet) (d : FileDecl) (p : ProtoFile) : Request.FileDecl :=
  ⟨some d.name, some d.package, d.messages.toRequest set d.package,
    List.zipWith ServiceDecl.toRequest d.services p.services⟩

def addedToRequest (p : ProtoFile) : Request.FileDecl :=
  ⟨some p.name, some p.package,
    p.messages.foldr (fun m rest => .cons (some m.name) none [] .nil rest) .nil, []⟩

/-- The document as a request, given its descriptors: the files that were declared, then those that were
added. -/
def toRequest (d : Document) (set : DescriptorSet) : Request :=
  { filesToGenerate := d.filesToGenerate
    files := List.zipWith (FileDecl.toRequest set) d.files set.files ++
      (set.files.drop d.files.length).map addedToRequest }

variable {table : List TypeRef} {set : DescriptorSet}

def Dotless (table : List TypeRef) : Prop := ∀ t ∈ table, Text.startsWith t.typeName "." = false

structure Clear (table : List TypeRef) : Prop where
  nodup : (table.map (·.typeName)).Nodup
  dotless : Dotless table

theorem Clear.lookup (h : Clear table) {t : TypeRef} (ht : t ∈ table) :
    Request.lookup table t.qualified = .ok t := Request.lookup_dot h.nodup ht (h.dotless t ht)

theorem FieldDecl.isRepeated_toRequest (f : FieldDecl) (g : Field) :
    (f.toRequest g).isRepeated = f.repeated := by
  rw [toRequest, Request.FieldDecl.isRepeated]
  cases f.repeated <;> rfl

theorem FieldDecl.Becomes.wireField_untyped {f : FieldDecl} {g : Field} (h : f.Becomes table g)
    (hp : f.Plain) (hk : f.kindOrDefault ≠ .message) (wired : Request.Wired) :
    Request.wireField table [] wired (f.toRequest g) = .ok g := by
  have htype : f.type.getD "" = "" := not_not.1 fun h => hk (hp.2.1 h)
  obtain ⟨htarget, _⟩ := h.untyped htype
  have hg : g = ⟨f.name, f.kindOrDefault, f.repeated, none⟩ := by
    rw [← h.name, ← h.kind, ← h.repeated, ← htarget]
  have hmap := hp.1
  rw [Request.wireField, isRepeated_toRequest, hg, toRequest]
  -- Without a type name, the code for the type alone decides the kind.
  generalize f.kindOrDefault = kind at hk hmap
  cases kind with
  | scalar => rfl
  | enum => rfl
  | message => exact absurd rfl hk
  | map => exact absurd rfl hmap

theorem FieldDecl.Becomes.wireField_typed (hc : Clear table) {f : FieldDecl} {g : Field}
    (h : f.Becomes table g) (hp : f.Plain) (hk : f.kindOrDefault = .message) (wired : Request.Wired) :
    Request.wireField table [] wired (f.toRequest g) = .ok g := by
  obtain ⟨t, ht⟩ := Option.isSome_iff_exists.1 (h.typed (hp.2.2 hk))
  have hg : g = ⟨f.name, .message, f.repeated, some t⟩ := by
    rw [← h.name, ← hk, ← h.kind, ← h.repeated, ← ht]
  rw [Request.wireField, isRepeated_toRequest, hg, toRequest, hk]
  simp only [Option.map_some, Option.getD_some, hc.lookup (h.target t ht)]
  rfl

theorem FieldDecl.Becomes.wireField (hc : Clear table) {f : FieldDecl} {g : Field}
    (h : f.Becomes table g) (hp : f.Plain) (wired : Request.Wired) :
    Request.wireField table [] wired (f.toRequest g) = .ok g := by
  by_cases hk : f.kindOrDefault = .message
  · exact h.wireField_typed hc hp hk wired
  · exact h.wireField_untyped hp hk wired

theorem wireFields_toRequest (hc : Clear table) {fields : List FieldDecl} {gs : List Field}
    (h : List.Forall₂ (FieldDecl.Becomes table) fields gs) (hp : ∀ f ∈ fields, f.Plain) (n : String)
    (wired : Request.Wired) :
    Request.wireFields table [] n wired (List.zipWith FieldDecl.toRequest fields gs) =
      .ok (wired ++ gs.map fun g => (n, g)) := by
  induction h generalizing wired with
  | nil => rw [List.map_nil, List.append_nil]; rfl
  | @cons f g fields gs hf _ ih =>
    obtain ⟨hpf, hp⟩ := List.forall_mem_cons.1 hp
    rw [List.zipWith_cons_cons, Request.wireFields, hf.wireField hc hpf]
    change Request.wireFields table [] n _ _ = _
    rw [ih hp, List.append_assoc]
    rfl

theorem types_toRequest (set : DescriptorSet) (file scope : String) (decls : Messages) :
    (decls.toRequest set scope).types file scope = decls.types file scope := by
  induction decls generalizing scope with
  | nil => rfl
  | cons name fields nested rest ihn ihr =>
    simp only [Messages.toRequest, Request.Messages.types, Messages.types, Option.getD_some, ihn, ihr]

theorem mapEntries_toRequest (set : DescriptorSet) (scope : String) (decls : Messages) :
    (decls.toRequest set scope).mapEntries scope = [] := by
  induction decls generalizing scope with
  | nil => rfl
  | cons name fields nested rest ihn ihr =>
    simp [Messages.toRequest, Request.Messages.mapEntries, ihn, ihr]

/-- A request wires nested messages before the outer one, yet each message gets the fields it has. -/
theorem Messages.Becomes.wireMessages (hc : Clear table) {file scope : String} {decls : Messages}
    {ms : List Message} (h : decls.Becomes table file scope ms) (hp : decls.Plain)
    (hfields : ∀ m ∈ ms, set.fieldsOf m.typeName = m.fields) :
    ∃ order : List String, order.Perm (ms.map (·.typeName)) ∧ ∀ wired,
      Request.wireMessages table [] scope wired (decls.toRequest set scope) =
        .ok (wired ++ order.flatMap (Request.entries set)) := by
  induction decls generalizing scope ms with
  | nil =>
    cases h
    refine ⟨[], .refl _, fun wired => ?_⟩
    rw [List.flatMap_nil, List.append_nil]
    rfl
  | cons name fields nested rest ihn ihr =>
    obtain ⟨gs, inner, others, hf, hi, ho, rfl⟩ := h
    obtain ⟨hpf, hpn, hpr⟩ := hp
    rw [List.cons_append, List.forall_mem_cons, List.forall_mem_append] at hfields
    obtain ⟨hself, hinner, hothers⟩ := hfields
    obtain ⟨order₁, hp₁, hw₁⟩ := ihn hi hpn hinner
    obtain ⟨order₂, hp₂, hw₂⟩ := ihr ho hpr hothers
    have hentries : Request.entries set (qualify scope name) =
        gs.map fun g => (qualify scope name, g) := by rw [Request.entries, hself]
    -- Here the message itself comes between those nested in it and those after it.
    refine ⟨order₁ ++ qualify scope name :: order₂, ?_, fun wired => ?_⟩
    · rw [List.cons_append, List.map_cons, List.map_append]
      exact List.perm_middle.trans ((hp₁.append hp₂).cons _)
    · rw [toRequest, Request.wireMessages, Option.getD_some, hself, hw₁]
      simp only [bind, Except.bind, wireFields_toRequest hc hf hpf, hw₂, List.flatMap_append,
        List.flatMap_cons, hentries, List.append_assoc]

theorem wireMethods_toRequest (hc : Clear table) {decls : List MethodDecl} {ms : List Method}
    (h : List.Forall₂ (MethodDecl.Becomes table) decls ms) :
    Request.wireMethods table (List.zipWith MethodDecl.toRequest decls ms) = .ok ms := by
  induction h with
  | nil => rfl
  | @cons d m decls ms hd _ ih =>
    obtain ⟨name, input, output, kind⟩ := m
    obtain ⟨rfl, rfl, hi, ho⟩ := hd
    rw [List.zipWith_cons_cons, Request.wireMethods, MethodDecl.toRequest]
    simp only [Option.getD_some, hc.lookup hi, hc.lookup ho, ih, MethodKind.ofStreaming_streams, bind,
      Except.bind, pure, Except.pure]

theorem wireServices_toRequest (hc : Clear table) {file package : String} {decls : List ServiceDecl}
    {ss : List Service} (h : List.Forall₂ (ServiceDecl.Becomes table file package) decls ss) :
    Request.wireServices table file package (List.zipWith ServiceDecl.toRequest decls ss) = .ok ss := by
  induction h with
  | nil => rfl
  | @cons d s decls ss hd _ ih =>
    obtain ⟨name, package, file, methods⟩ := s
    obtain ⟨rfl, rfl, rfl, hm⟩ := hd
    rw [List.zipWith_cons_cons, Request.wireServices, ServiceDecl.toRequest]
    simp only [Option.getD_some, wireMethods_toRequest hc hm, ih, bind, Except.bind, pure, Except.pure]

theorem FileDecl.Becomes.gives (hc : Clear table) {d : FileDecl} {p : ProtoFile} (h : d.Becomes table p)
    (hp : d.messages.Plain) (hfields : ∀ m ∈ p.messages, set.fieldsOf m.typeName = m.fields) :
    (d.toRequest set p).Gives table set p where
  name := h.name.symm
  package := h.package.symm
  declared := by
    rw [h.messages.refs]
    exact types_toRequest set d.name d.package d.messages
  unmapped := mapEntries_toRequest set d.package d.messages
  fields := h.messages.wireMessages hc hp hfields
  services := wireServices_toRequest hc h.services

theorem wellKnown_qualified : ∀ t ∈ wellKnownTypes, qualify wellKnownPackage t.name = t.typeName ∧
    Text.startsWith t.typeName "." = false := by decide

theorem gives_wellKnownFile {t : TypeRef} (ht : t ∈ wellKnownTypes)
    (hfields : ∀ m ∈ (wellKnownFile t).messages, set.fieldsOf m.typeName = m.fields) :
    (addedToRequest (wellKnownFile t)).Gives table set (wellKnownFile t) where
  name := rfl
  package := rfl
  declared := by
    change [(⟨qualify wellKnownPackage t.name, t.name, t.file⟩ : TypeRef)] = _
    rw [(wellKnown_qualified t ht).1]
    rfl
  unmapped := rfl
  fields := by
    refine ⟨[t.typeName], .refl _, fun wired => ?_⟩
    rw [List.flatMap_singleton, Request.entries, hfields _ (List.mem_singleton_self _), List.map_nil,
      List.append_nil]
    rfl
  services := rfl

theorem forall₂_gives (hc : Clear table) {decls : List FileDecl} {files : List ProtoFile}
    (h : List.Forall₂ (FileDecl.Becomes table) decls files) (hp : ∀ d ∈ decls, d.messages.Plain)
    (hfields : ∀ p ∈ files, ∀ m ∈ p.messages, set.fieldsOf m.typeName = m.fields) :
    List.Forall₂ (Request.FileDecl.Gives table set) (List.zipWith (FileDecl.toRequest set) decls files)
      files := by
  induction h with
  | nil => exact .nil
  | cons hd _ ih =>
    obtain ⟨hpd, hp⟩ := List.forall_mem_cons.1 hp
    obtain ⟨hfd, hfields⟩ := List.forall_mem_cons.1 hfields
    exact .cons (hd.gives hc hpd hfd) (ih hp hfields)

theorem forall₂_gives_added {added : List TypeRef} (ha : added ⊆ wellKnownTypes)
    (hfields : ∀ t ∈ added, ∀ m ∈ (wellKnownFile t).messages, set.fieldsOf m.typeName = m.fields) :
    List.Forall₂ (Request.FileDecl.Gives table set) ((added.map wellKnownFile).map addedToRequest)
      (added.map wellKnownFile) := by
  induction added with
  | nil => exact .nil
  | cons t rest ih =>
    obtain ⟨ht, ha⟩ := List.cons_subset.1 ha
    obtain ⟨hft, hfields⟩ := List.forall_mem_cons.1 hfields
    exact .cons (gives_wellKnownFile ht hft) (ih ha hfields)

theorem forall₂_gives_toRequest {d : Document} {files : List ProtoFile} {added : List TypeRef}
    (hc : Clear table) (hb : List.Forall₂ (FileDecl.Becomes table) d.files files)
    (ha : added ⊆ wellKnownTypes) (hset : set.files = files ++ added.map wellKnownFile) (hp : d.Plain)
    (hn : (set.messages.map (·.typeName)).Nodup) :
    List.Forall₂ (Request.FileDecl.Gives table set) (d.toRequest set).files set.files := by
  have hfields : ∀ p ∈ set.files, ∀ m ∈ p.messages, set.fieldsOf m.typeName = m.fields :=
    fun p hp m hm => DescriptorSet.fieldsOf_eq
      (DescriptorSet.find?_eq_of_nodup hn (List.mem_flatMap.2 ⟨p, hp, hm⟩))
  have hfiles : (d.toRequest set).files = List.zipWith (FileDecl.toRequest set) d.files files ++
      (added.map wellKnownFile).map addedToRequest := by
    rw [toRequest, hset, hb.length_eq, List.drop_left, ← List.append_nil d.files,
      List.zipWith_append hb.length_eq, List.zipWith_nil_left, List.append_nil, List.append_nil]
  rw [hset, List.forall_mem_append] at hfields
  obtain ⟨hdeclared, hadded⟩ := hfields
  rw [hfiles, hset]
  exact List.rel_append (forall₂_gives hc hb hp hdeclared)
    (forall₂_gives_added ha (List.forall_mem_map.1 hadded))

theorem toRequest_descriptors {d : Document} (h : d.descriptors = .ok set) (hp : d.Plain)
    (hdot : Dotless d.types) : (d.toRequest set).descriptors = .ok set := by
  obtain ⟨files, added, hn, ha, hb, rfl⟩ := descriptors_eq_ok h
  have href := refs_descriptors hb added d.filesToGenerate
  have hnames := hn
  rw [← href, Request.map_typeName_ref] at hnames
  have hc : Clear (d.types ++ added) := by
    refine ⟨hn, List.forall_mem_append.2 ⟨hdot, fun t ht => ?_⟩⟩
    exact (wellKnown_qualified t (ha ht)).2
  have hgives := forall₂_gives_toRequest hc hb ha rfl hp hnames
  refine Request.descriptors_eq_of_gives ?_ rfl hnames
  rw [Request.types, Request.types_eq hgives]
  exact href.symm ▸ hgives

theorem parse_eq_ok_iff {v : Data.Value} {d : Document} (hd : check v = .pass d) {settings : Overrides} :
    parse v = .ok (set, settings) ↔ d.descriptors = .ok set ∧ settings = d.config := by
  rw [parse, hd]
  refine map_eq_ok.trans ⟨?_, ?_⟩
  · rintro ⟨s, hs, heq⟩
    cases heq
    exact ⟨hs, rfl⟩
  · rintro ⟨hs, rfl⟩
    exact ⟨set, hs, rfl⟩

/-- A document that parses, has plain fields only and declares no name with a leading dot, can be written
as a request that has the same descriptors. -/
theorem parse_toRequest {v : Data.Value} {d : Document} {settings : Overrides}
    (hd : check v = .pass d) (h : parse v = .ok (set, settings)) (hp : d.Plain)
    (hdot : ∀ t ∈ d.types, Text.startsWith t.typeName "." = false) :
    (d.toRequest set).descriptors = .ok set :=
  toRequest_descriptors ((parse_eq_ok_iff hd).1 h).1 hp hdot

def nestedValue : Data.Value :=
  .record [("files", .list [.record [
    ("name", .text "a.proto"),
    ("package", .text "p"),
    ("messages", .list [.record [
      ("name", .text "A"),
      ("fields", .list [.record [("name", .text "b"), ("type", .text "B"), ("repeated", .bool true)]]),
      ("messages", .list [.record [
        ("name", .text "B"),
        ("fields", .list [
          .record [("name", .text "a"), ("type", .text "A")],
          .record [("name", .text "at"), ("type", .text "google.protobuf.Timestamp")],
          .record [("name", .text "n")]])]])]]),
    ("services", .list [.record [
      ("name", .text "S"),
      ("methods", .list [.record [("name", .text "Get"), ("input", .text "A"), ("output", .text "A.B"),
        ("kind", .text "server_streaming")]])]])]])]

def nestedDocument : Document :=
  { files := [
      { name := "a.proto"
        package := "p"
        messages :=
          .cons "A" [⟨"b", none, some "B", true⟩]
            (.cons "B" [⟨"a", none, some "A", false⟩, ⟨"at", none, some "google.protobuf.Timestamp", false⟩,
              ⟨"n", none, none, false⟩] .nil .nil) .nil
        services := [⟨"S", [⟨"Get", "A", "A.B", .serverStreaming⟩]⟩] }] }

def nestedSet : DescriptorSet :=
  { files := [
      { name := "a.proto"
        package := "p"
        messages := [
          ⟨"p.A", "A", "a.proto", [⟨"b", .message, true, some ⟨"p.A.B", "B", "a.proto"⟩⟩]⟩,
          ⟨"p.A.B", "B", "a.proto", [⟨"a", .message, false, some ⟨"p.A", "A", "a.proto"⟩⟩,
            ⟨"at", .message, false,
              some ⟨"google.protobuf.Timestamp", "Timestamp", "google/protobuf/timestamp.proto"⟩⟩,
            ⟨"n", .scalar, false, none⟩]⟩]
        services := [⟨"S", "p", "a.proto", [⟨"Get", ⟨"p.A", "A", "a.proto"⟩, ⟨"p.A.B", "B", "a.proto"⟩,
          .serverStreaming⟩]⟩] },
      wellKnownFile ⟨"google.protobuf.Timestamp", "Timestamp", "google/protobuf/timestamp.proto"⟩] }

theorem parse_toRequest_nested :
    check nestedValue = .pass nestedDocument ∧ parse nestedValue = .ok (nestedSet, []) ∧
      (nestedDocument.toRequest nestedSet).descriptors = .ok nestedSet := by
  have hd : check nestedValue = .pass nestedDocument := by rfl
  have hs : nestedDocument.descriptors = .ok nestedSet := by decide +kernel
  have h : parse nestedValue = .ok (nestedSet, []) := by
    rw [parse, hd]
    change nestedDocument.descriptors.map _ = _
    rw [hs]
    rfl
  have hp : nestedDocument.Plain := by
    simp [Plain, nestedDocument, Messages.Plain, FieldDecl.Plain, FieldDecl.kindOrDefault]
  exact ⟨hd, h, parse_toRequest hd h hp (by decide +kernel)⟩

end Document

end RpcBindings
