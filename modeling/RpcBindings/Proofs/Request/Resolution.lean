import RpcBindings.Proofs.Descriptor.Within
import RpcBindings.Proofs.Request.Linked

namespace RpcBindings.Request

/-- The fields that declarations in `scope` declare, each with the name of its type. -/
def Messages.declared (scope : String) : Messages → List (String × FieldDecl)
  | .nil => []
  | .cons name _ fields nested rest =>
    let typeName := qualify scope (name.getD "")
    nested.declared typeName ++ fields.map (fun f => (typeName, f)) ++ rest.declared scope

def FileDecl.declared (f : FileDecl) : List (String × FieldDecl) := f.messages.declared f.packageText

def declared (r : Request) : List (String × FieldDecl) := r.files.flatMap (·.declared)

def FieldDecl.refs (f : FieldDecl) : List String := if f.isMessage then [f.typeName.getD ""] else []

def ServiceDecl.refs (s : ServiceDecl) : List String :=
  s.methods.flatMap fun m => [m.input.getD "", m.output.getD ""]

/-- The references of a file: those of its fields and those of its services. -/
def FileDecl.refs (f : FileDecl) : List String :=
  f.declared.flatMap (·.2.refs) ++ f.services.flatMap (·.refs)

def refs (r : Request) : List String := r.files.flatMap (·.refs)

def Resolves (types : List TypeRef) (ref : String) : Prop := ∃ t, lookup types ref = .ok t

/-- The outline of the field that a declaration becomes; a map leads nowhere. -/
def FieldDecl.outline (types : List TypeRef) (mapEntries : List String) (f : FieldDecl) :
    String × Option String :=
  (f.name.getD "", match f.isMessage, lookup types (f.typeName.getD "") with
    | true, .ok t => if t.typeName ∈ mapEntries then none else some t.typeName
    | _, _ => none)

variable {types : List TypeRef} {mapEntries : List String}

theorem wireField_outline {wired : Wired} {f : FieldDecl} {g : Field}
    (h : wireField types mapEntries wired f = .ok g) : g.outline = f.outline types mapEntries := by
  rw [wireField] at h
  rw [FieldDecl.outline]
  cases hm : f.isMessage with
  | false =>
    rw [hm] at h
    cases pure_eq_ok.1 h
    cases f.isEnum with
    | true => rfl
    | false => rfl
  | true =>
    rw [hm] at h
    obtain ⟨t, ht, h⟩ := bind_eq_ok.1 h
    rw [ht]
    dsimp only
    split at h
    · rename_i hmap
      cases pure_eq_ok.1 h
      rw [if_pos hmap]
      rfl
    · rename_i hmap
      cases pure_eq_ok.1 h
      rw [if_neg hmap]
      rfl

theorem wireField_resolves {wired : Wired} {f : FieldDecl} :
    (∃ g, wireField types mapEntries wired f = .ok g) ↔ ∀ ref ∈ f.refs, Resolves types ref := by
  rw [wireField, FieldDecl.refs]
  cases f.isMessage with
  | false => exact ⟨fun _ => List.forall_mem_nil _, fun _ => ⟨_, rfl⟩⟩
  | true =>
    rw [if_pos rfl, if_pos rfl, List.forall_mem_singleton]
    refine (exists_bind_eq_ok fun t => ?_).trans (iff_of_eq (and_true _))
    split
    · exact ⟨fun _ => trivial, fun _ => ⟨_, rfl⟩⟩
    · exact ⟨fun _ => trivial, fun _ => ⟨_, rfl⟩⟩

def addField (types : List TypeRef) (mapEntries : List String) (wired : Wired) (d : String × FieldDecl) :
    Except Error Wired := do
  return wired ++ [(d.1, ← wireField types mapEntries wired d.2)]

theorem wireFields_eq_foldlM (typeName : String) (wired : Wired) (fields : List FieldDecl) :
    wireFields types mapEntries typeName wired fields =
      (fields.map fun f => (typeName, f)).foldlM (addField types mapEntries) wired := by
  induction fields generalizing wired with
  | nil => rfl
  | cons f rest ih =>
    rw [wireFields, List.map_cons, List.foldlM_cons, addField]
    simp only [bind_assoc, pure_bind, ih]

theorem wireMessages_eq_foldlM (scope : String) (wired : Wired) (ms : Messages) :
    wireMessages types mapEntries scope wired ms =
      (ms.declared scope).foldlM (addField types mapEntries) wired := by
  induction ms generalizing scope wired with
  | nil => rfl
  | cons name isMapEntry fields nested rest ihn ihr =>
    rw [wireMessages, Messages.declared, List.foldlM_append, List.foldlM_append]
    simp only [bind_assoc, ihn, ihr, wireFields_eq_foldlM]

/-- The field was made from the declaration, whatever had been added before. -/
def MadeFrom (types : List TypeRef) (mapEntries : List String) (d : String × FieldDecl)
    (p : String × Field) : Prop :=
  p.1 = d.1 ∧ p.2.outline = d.2.outline types mapEntries

theorem foldlM_addField_eq_ok {ds : List (String × FieldDecl)} {wired wired' : Wired}
    (h : ds.foldlM (addField types mapEntries) wired = .ok wired') :
    ∃ added, wired' = wired ++ added ∧ List.Forall₂ (MadeFrom types mapEntries) ds added := by
  induction ds generalizing wired with
  | nil =>
    cases h
    exact ⟨[], (List.append_nil _).symm, .nil⟩
  | cons d rest ih =>
    obtain ⟨w, hw, h⟩ := bind_eq_ok.1 h
    obtain ⟨g, hg, hw⟩ := bind_eq_ok.1 hw
    cases pure_eq_ok.1 hw
    obtain ⟨added, rfl, hadded⟩ := ih h
    refine ⟨(d.1, g) :: added, ?_, .cons ⟨rfl, wireField_outline hg⟩ hadded⟩
    rw [List.append_assoc, List.singleton_append]

theorem foldlM_addField_resolves {ds : List (String × FieldDecl)} {wired : Wired} :
    (∃ wired', ds.foldlM (addField types mapEntries) wired = .ok wired') ↔
      ∀ ref ∈ ds.flatMap (·.2.refs), Resolves types ref := by
  induction ds generalizing wired with
  | nil => exact ⟨fun _ => List.forall_mem_nil _, fun _ => ⟨wired, rfl⟩⟩
  | cons d rest ih =>
    rw [List.flatMap_cons, List.forall_mem_append, List.foldlM_cons, exists_bind_eq_ok fun _ => ih, addField,
      exists_map_eq_ok, wireField_resolves]

theorem wireMethods_resolves {decls : List MethodDecl} :
    (∃ ms, wireMethods types decls = .ok ms) ↔
      ∀ ref ∈ decls.flatMap (fun m => [m.input.getD "", m.output.getD ""]), Resolves types ref := by
  induction decls with
  | nil => exact ⟨fun _ => List.forall_mem_nil _, fun _ => ⟨[], rfl⟩⟩
  | cons m rest ih =>
    rw [List.flatMap_cons, List.forall_mem_append, List.forall_mem_cons, List.forall_mem_singleton, ← ih,
      and_assoc, wireMethods]
    exact exists_bind_eq_ok fun _ => exists_bind_eq_ok fun _ => exists_map_eq_ok _

theorem wireServices_resolves {file package : String} {decls : List ServiceDecl} :
    (∃ ss, wireServices types file package decls = .ok ss) ↔
      ∀ ref ∈ decls.flatMap (·.refs), Resolves types ref := by
  induction decls with
  | nil => exact ⟨fun _ => List.forall_mem_nil _, fun _ => ⟨[], rfl⟩⟩
  | cons s rest ih =>
    rw [List.flatMap_cons, List.forall_mem_append, ← ih, ServiceDecl.refs, ← wireMethods_resolves,
      wireServices]
    exact exists_bind_eq_ok fun _ => exists_map_eq_ok _

theorem wireFiles_resolves {wired : Wired} {files : List FileDecl} :
    (∃ out, wireFiles types mapEntries wired files = .ok out) ↔
      ∀ ref ∈ files.flatMap (·.refs), Resolves types ref := by
  induction files generalizing wired with
  | nil => exact ⟨fun _ => List.forall_mem_nil _, fun _ => ⟨(wired, []), rfl⟩⟩
  | cons f rest ih =>
    rw [List.flatMap_cons, List.forall_mem_append, FileDecl.refs, List.forall_mem_append, and_assoc,
      wireFiles, wireMessages_eq_foldlM]
    refine (exists_bind_eq_ok fun w => exists_bind_eq_ok fun _ => (exists_map_eq_ok _).trans ih).trans ?_
    rw [foldlM_addField_resolves, wireServices_resolves, FileDecl.declared]

/-- There are descriptors exactly if all references resolve. -/
theorem descriptors_resolves {r : Request} :
    (∃ s, r.descriptors = .ok s) ↔ ∀ ref ∈ r.refs, Resolves r.types ref :=
  (exists_map_eq_ok _).trans wireFiles_resolves

/-- The fields of all files are added one by one, and the services of each file are found beside them. -/
theorem foldlM_of_wireFiles {wired wired' : Wired} {files : List FileDecl} {services : List (List Service)}
    (h : wireFiles types mapEntries wired files = .ok (wired', services)) :
    (files.flatMap (·.declared)).foldlM (addField types mapEntries) wired = .ok wired' ∧
      List.Forall₂ (fun f ss => wireServices types f.nameText f.packageText f.services = .ok ss) files
        services := by
  induction files generalizing wired services with
  | nil =>
    cases h
    exact ⟨rfl, .nil⟩
  | cons f rest ih =>
    obtain ⟨w, hw, h⟩ := bind_eq_ok.1 h
    obtain ⟨ss, hss, h⟩ := bind_eq_ok.1 h
    obtain ⟨⟨w', more⟩, hrest, h⟩ := bind_eq_ok.1 h
    cases pure_eq_ok.1 h
    rw [wireMessages_eq_foldlM] at hw
    obtain ⟨hfold, hmore⟩ := ih hrest
    rw [List.flatMap_cons, List.foldlM_append]
    exact ⟨bind_eq_ok.2 ⟨w, hw, hfold⟩, .cons hss hmore⟩

theorem wireFiles_made {wired wired' : Wired} {files : List FileDecl} {services : List (List Service)}
    (h : wireFiles types mapEntries wired files = .ok (wired', services)) :
    (∃ added, wired' = wired ++ added ∧
      List.Forall₂ (MadeFrom types mapEntries) (files.flatMap (·.declared)) added) ∧
      List.Forall₂ (fun f ss => wireServices types f.nameText f.packageText f.services = .ok ss) files
        services :=
  (foldlM_of_wireFiles h).imp_left foldlM_addField_eq_ok

theorem assemble_serves {wired : Wired} {files : List FileDecl} {services : List (List Service)}
    {R : FileDecl → List Service → Prop} (h : List.Forall₂ R files services) :
    List.Forall₂ (fun f p => p.name = f.nameText ∧ R f p.services) files (assemble wired files services) := by
  induction h with
  | nil => exact .nil
  | cons hf _ ih => exact .cons ⟨rfl, hf⟩ ih

/-- What the descriptors of a request tell about its declarations. -/
structure Describes (s : DescriptorSet) (r : Request) : Prop where
  names : ∀ n, (∃ m, s.find? n = some m) ↔ ∃ t ∈ r.types, t.typeName = n
  outlines : ∀ n m, s.find? n = some m → ∀ o, o ∈ m.fields.map Field.outline ↔
    ∃ f, (n, f) ∈ r.declared ∧ f.outline r.types r.mapEntries = o
  files : List.Forall₂ (fun f p => p.name = f.nameText ∧
    wireServices r.types f.nameText f.packageText f.services = .ok p.services) r.files s.files
  filesToGenerate : s.filesToGenerate = r.filesToGenerate

theorem descriptors_describes {r : Request} {s : DescriptorSet} (h : r.descriptors = .ok s) :
    Describes s r := by
  obtain ⟨⟨wired, services⟩, hw, h⟩ := bind_eq_ok.1 h
  cases pure_eq_ok.1 h
  obtain ⟨⟨_, rfl, hmade⟩, hservices⟩ := wireFiles_made hw
  have hfind (n : String) : DescriptorSet.find? ⟨assemble wired r.files services, r.filesToGenerate⟩ n =
      (r.types.reverse.find? (·.typeName == n)).map wired.message := by
    rw [DescriptorSet.find?, DescriptorSet.messages, assemble_messages hservices.length_eq.symm]
    exact find?_messagesOf wired n r.types
  refine ⟨fun n => ?_, fun n m hm o => ?_, assemble_serves hservices, rfl⟩
  · rw [hfind, ← Option.isSome_iff_exists, Option.isSome_map, List.find?_isSome]
    simp only [List.mem_reverse, beq_iff_eq]
  · rw [hfind] at hm
    obtain ⟨t, ht, rfl⟩ := Option.map_eq_some_iff.1 hm
    have hn : t.typeName = n := by simpa using List.find?_some ht
    change o ∈ (wired.fieldsOf t.typeName).map Field.outline ↔ _
    rw [hn, List.mem_map]
    constructor
    · rintro ⟨g, hg, rfl⟩
      obtain ⟨⟨n', f⟩, hf, hname, houtline⟩ := exists_of_forall₂ hmade (Wired.mem_fieldsOf.1 hg)
      cases hname
      exact ⟨f, hf, houtline.symm⟩
    · rintro ⟨f, hf, rfl⟩
      obtain ⟨⟨n', g⟩, hg, hname, houtline⟩ := exists_of_forall₂ hmade.flip hf
      cases hname
      exact ⟨g, Wired.mem_fieldsOf.2 hg, houtline⟩

namespace Describes

variable {r : Request} {s : DescriptorSet}

theorem exists_file (h : Describes s r) {f : FileDecl} (hf : f ∈ r.files) :
    ∃ p, s.file? f.nameText = some p := by
  obtain ⟨p, hp, hname, -⟩ := exists_of_forall₂ h.files.flip hf
  rw [← Option.isSome_iff_exists, DescriptorSet.file?, List.find?_isSome]
  exact ⟨p, List.mem_reverse.2 hp, beq_iff_eq.2 hname⟩

theorem file_eq_some (h : Describes s r) {n : String} {p : ProtoFile} (hp : s.file? n = some p) :
    ∃ f ∈ r.files, f.nameText = n ∧
      wireServices r.types f.nameText f.packageText f.services = .ok p.services := by
  have hpn : p.name = n := by simpa using List.find?_some hp
  have hmem : p ∈ s.files := List.mem_reverse.1 (List.mem_of_find?_eq_some hp)
  obtain ⟨f, hf, hname, hservices⟩ := exists_of_forall₂ h.files hmem
  exact ⟨f, hf, hname.symm.trans hpn, hservices⟩

end Describes

end RpcBindings.Request
