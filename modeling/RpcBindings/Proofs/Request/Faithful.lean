import RpcBindings.Failure
import RpcBindings.Proofs.Request.Entries

namespace RpcBindings.Request

/-- The type is that of the message that the reference names, whatever file declares it. -/
def Names (set : DescriptorSet) (ref : String) (t : TypeRef) : Prop :=
  ∃ m ∈ set.messages, m.ref = t ∧ m.typeName = Text.dropLeading '.' ref

/-- A field as it is loaded: a map has the target of the values of its entry, as that is loaded itself. -/
inductive FieldDecl.LoadsAs (r : Request) (set : DescriptorSet) (f : FieldDecl) : Field → Prop where
  | plain (hf : f.isMessage = false) :
      LoadsAs r set f ⟨f.name.getD "", if f.isEnum then .enum else .scalar, f.isRepeated, none⟩
  | message {t : TypeRef} (hf : f.isMessage = true) (ht : Names set (f.typeName.getD "") t)
      (hentry : t.typeName ∉ r.mapEntries) : LoadsAs r set f ⟨f.name.getD "", .message, f.isRepeated, some t⟩
  | map {entry : Message} (hf : f.isMessage = true) (hmem : entry ∈ set.messages)
      (hname : entry.typeName = f.refName) (hentry : entry.typeName ∈ r.mapEntries) :
      LoadsAs r set f
        ⟨f.name.getD "", .map, false, (entry.fields.find? (·.name == "value")).bind (·.target)⟩

/-- The messages of declarations in `scope`: an outer one stands before those nested in it. -/
def Messages.LoadAs (r : Request) (set : DescriptorSet) (file scope : String) : Messages → List Message → Prop
  | .nil, ms => ms = []
  | .cons name _ fields nested rest, ms =>
    ∃ gs inner others, List.Forall₂ (FieldDecl.LoadsAs r set) fields gs ∧
      nested.LoadAs r set file (qualify scope (name.getD "")) inner ∧ rest.LoadAs r set file scope others ∧
      ms = ⟨qualify scope (name.getD ""), name.getD "", file, gs⟩ :: inner ++ others

structure MethodDecl.LoadsAs (set : DescriptorSet) (d : MethodDecl) (m : Method) : Prop where
  name : m.name = d.name.getD ""
  input : Names set (d.input.getD "") m.input
  output : Names set (d.output.getD "") m.output
  kind : m.kind = .ofStreaming (d.clientStreaming.getD false) (d.serverStreaming.getD false)

structure ServiceDecl.LoadsAs (set : DescriptorSet) (file package : String) (d : ServiceDecl) (s : Service) :
    Prop where
  name : s.name = d.name.getD ""
  package : s.package = package
  file : s.file = file
  methods : List.Forall₂ (MethodDecl.LoadsAs set) d.methods s.methods

structure FileDecl.LoadsAs (r : Request) (set : DescriptorSet) (f : FileDecl) (p : ProtoFile) : Prop where
  name : p.name = f.nameText
  package : p.package = f.packageText
  messages : f.messages.LoadAs r set f.nameText f.packageText p.messages
  services : List.Forall₂ (ServiceDecl.LoadsAs set f.nameText f.packageText) f.services p.services

structure LoadsAs (r : Request) (set : DescriptorSet) : Prop where
  files : List.Forall₂ (FileDecl.LoadsAs r set) r.files set.files
  filesToGenerate : set.filesToGenerate = r.filesToGenerate

variable {r : Request} {set : DescriptorSet} {types : List TypeRef} {wired : Wired} {file scope n : String}

def declaredIn (ds : List (String × FieldDecl)) (n : String) : List FieldDecl :=
  ds.filterMap fun (k, f) => if k = n then some f else none

theorem declaredIn_append (ds ds' : List (String × FieldDecl)) (n : String) :
    declaredIn (ds ++ ds') n = declaredIn ds n ++ declaredIn ds' n := List.filterMap_append

theorem declaredIn_map_self (fields : List FieldDecl) (n : String) :
    declaredIn (fields.map fun f => (n, f)) n = fields := by
  simp [declaredIn, List.filterMap_map]

theorem declaredIn_map_ne (fields : List FieldDecl) {m : String} (h : m ≠ n) :
    declaredIn (fields.map fun f => (m, f)) n = [] := by
  simp [declaredIn, List.filterMap_map, h]

theorem declaredIn_eq_nil {names : List String} {ds : List (String × FieldDecl)} (h : ∀ d ∈ ds, d.1 ∈ names)
    (hn : n ∉ names) : declaredIn ds n = [] :=
  List.filterMap_eq_nil_iff.2 fun d hd => if_neg fun (heq : d.1 = n) => hn (heq ▸ h d hd)

theorem Messages.declaredIn_eq_nil {ms : Messages} (hn : n ∉ (ms.types file scope).map (·.typeName)) :
    declaredIn (ms.declared scope) n = [] := by
  refine Request.declaredIn_eq_nil (fun d hd => ?_) hn
  obtain ⟨t, ht, hname⟩ := exists_type_of_declared file (n := d.1) (f := d.2) hd
  exact List.mem_map.2 ⟨t, ht, hname⟩

theorem files_declaredIn_eq_nil {files : List FileDecl} (hn : n ∉ (files.flatMap (·.types)).map (·.typeName)) :
    declaredIn (files.flatMap (·.declared)) n = [] := by
  refine declaredIn_eq_nil (fun d hd => ?_) hn
  obtain ⟨f, hf, hd⟩ := List.mem_flatMap.1 hd
  obtain ⟨t, ht, hname⟩ := Messages.exists_type_of_declared f.nameText (n := d.1) (f := d.2) hd
  exact List.mem_map.2 ⟨t, List.mem_flatMap.2 ⟨f, hf, ht⟩, hname⟩

theorem forall₂_fieldsOf {mapEntries : List String} {ds : List (String × FieldDecl)} {added : Wired}
    (h : List.Forall₂ (FinallyFrom types mapEntries wired) ds added) (n : String) :
    List.Forall₂ (fun f g => wireField types mapEntries wired f = .ok g) (declaredIn ds n) (added.fieldsOf n) := by
  induction h with
  | nil => exact .nil
  | @cons d p ds added hp _ ih =>
    obtain ⟨k, f⟩ := d
    obtain ⟨k', g⟩ := p
    obtain ⟨rfl : k' = k, hfield⟩ := hp
    by_cases hk : k' = n
    · simp only [declaredIn, Wired.fieldsOf, List.filterMap_cons, if_pos hk]
      exact .cons hfield ih
    · simp only [declaredIn, Wired.fieldsOf, List.filterMap_cons, if_neg hk]
      exact ih

def Holds (set : DescriptorSet) (types : List TypeRef) (wired : Wired) : Prop :=
  ∀ t ∈ types, wired.message t ∈ set.messages

theorem Holds.names (h : Holds set types wired) {ref : String} {t : TypeRef} (ht : lookup types ref = .ok t) :
    Names set ref t := by
  obtain ⟨hmem, hname⟩ := lookup_mem ht
  exact ⟨wired.message t, h t hmem, rfl, hname⟩

theorem Holds.field (h : Holds set r.types wired) {f : FieldDecl} {g : Field}
    (hg : wireField r.types r.mapEntries wired f = .ok g) : f.LoadsAs r set g := by
  rw [wireField] at hg
  cases hf : f.isMessage with
  | false =>
    rw [hf] at hg
    cases pure_eq_ok.1 hg
    exact .plain hf
  | true =>
    rw [hf] at hg
    obtain ⟨t, ht, hg⟩ := bind_eq_ok.1 hg
    split at hg
    · rename_i hentry
      cases pure_eq_ok.1 hg
      obtain ⟨hmem, hname⟩ := lookup_mem ht
      exact .map hf (h t hmem) hname hentry
    · rename_i hentry
      cases pure_eq_ok.1 hg
      exact .message hf (h.names ht) hentry

theorem Holds.methods (h : Holds set types wired) {decls : List MethodDecl} {ms : List Method}
    (hms : wireMethods types decls = .ok ms) : List.Forall₂ (MethodDecl.LoadsAs set) decls ms := by
  induction decls generalizing ms with
  | nil =>
    cases hms
    exact .nil
  | cons d rest ih =>
    obtain ⟨input, hinput, hms⟩ := bind_eq_ok.1 hms
    obtain ⟨output, houtput, hms⟩ := bind_eq_ok.1 hms
    obtain ⟨others, hothers, hms⟩ := bind_eq_ok.1 hms
    cases pure_eq_ok.1 hms
    exact .cons ⟨rfl, h.names hinput, h.names houtput, rfl⟩ (ih hothers)

theorem Holds.services (h : Holds set types wired) {package : String} {decls : List ServiceDecl} {ss : List Service}
    (hss : wireServices types file package decls = .ok ss) :
    List.Forall₂ (ServiceDecl.LoadsAs set file package) decls ss := by
  induction decls generalizing ss with
  | nil =>
    cases hss
    exact .nil
  | cons d rest ih =>
    obtain ⟨ms, hms, hss⟩ := bind_eq_ok.1 hss
    obtain ⟨others, hothers, hss⟩ := bind_eq_ok.1 hss
    cases pure_eq_ok.1 hss
    exact .cons ⟨rfl, rfl, rfl, h.methods hms⟩ (ih hothers)

/-- Messages are loaded as declared if the fields under each of their names are the declared ones. -/
theorem Messages.loadAs {ms : Messages} (hn : ((ms.types file scope).map (·.typeName)).Nodup)
    (h : ∀ n ∈ (ms.types file scope).map (·.typeName),
      List.Forall₂ (FieldDecl.LoadsAs r set) (declaredIn (ms.declared scope) n) (wired.fieldsOf n)) :
    ms.LoadAs r set file scope ((ms.types file scope).map wired.message) := by
  induction ms generalizing scope with
  | nil => rfl
  | cons name isMapEntry fields nested rest ihnested ihrest =>
    rw [types, List.map_append, List.map_cons] at hn h
    obtain ⟨hfirst, hrest, hdisjoint⟩ := List.nodup_append'.1 hn
    obtain ⟨hnew, hnested⟩ := List.nodup_cons.1 hfirst
    have hsplit (n : String) : declaredIn (declared scope (.cons name isMapEntry fields nested rest)) n =
        declaredIn (nested.declared (qualify scope (name.getD ""))) n ++
          declaredIn (fields.map fun f => (qualify scope (name.getD ""), f)) n ++
          declaredIn (rest.declared scope) n := by
      rw [declared, declaredIn_append, declaredIn_append]
    refine ⟨wired.fieldsOf (qualify scope (name.getD "")), _, _, ?_, ihnested hnested fun n hmem => ?_,
      ihrest hrest fun n hmem => ?_, ?_⟩
    · have hfields := h _ (List.mem_append_left _ List.mem_cons_self)
      rwa [hsplit, declaredIn_map_self, declaredIn_eq_nil hnew,
        declaredIn_eq_nil (hdisjoint List.mem_cons_self), List.append_nil, List.nil_append] at hfields
    · have hfields := h n (List.mem_append_left _ (List.mem_cons_of_mem _ hmem))
      have hne : qualify scope (name.getD "") ≠ n := fun heq => hnew (heq ▸ hmem)
      rwa [hsplit, declaredIn_map_ne fields hne, declaredIn_eq_nil (hdisjoint (List.mem_cons_of_mem _ hmem)),
        List.append_nil, List.append_nil] at hfields
    · have hfields := h n (List.mem_append_right _ hmem)
      have hout : n ∉ qualify scope (name.getD "") :: (nested.types file _).map (·.typeName) :=
        fun hin => hdisjoint hin hmem
      rw [List.mem_cons, not_or] at hout
      obtain ⟨hne, hnot⟩ := hout
      rwa [hsplit, declaredIn_map_ne fields (Ne.symm hne), declaredIn_eq_nil hnot, List.append_nil,
        List.nil_append] at hfields
    · rw [types, List.map_append, List.map_cons]
      rfl

theorem assemble_loadAs (hset : Holds set types wired) {files : List FileDecl} {services : List (List Service)}
    (hservices : List.Forall₂ (fun f ss => wireServices types f.nameText f.packageText f.services = .ok ss) files
      services) (hn : ((files.flatMap (·.types)).map (·.typeName)).Nodup)
    (h : ∀ n ∈ (files.flatMap (·.types)).map (·.typeName),
      List.Forall₂ (FieldDecl.LoadsAs r set) (declaredIn (files.flatMap (·.declared)) n) (wired.fieldsOf n)) :
    List.Forall₂ (FileDecl.LoadsAs r set) files (assemble wired files services) := by
  induction hservices with
  | nil => exact .nil
  | @cons f ss files services hss _ ih =>
    rw [List.flatMap_cons] at hn
    have hmessages : messagesOf wired _ f.types = _ := messagesOf_eq_map hn
    rw [List.map_append] at hn
    obtain ⟨hf, hrest, hdisjoint⟩ := List.nodup_append'.1 hn
    rw [List.flatMap_cons, List.flatMap_cons, List.map_append] at h
    refine .cons ⟨rfl, rfl, ?_, hset.services hss⟩ (ih hrest fun n hmem => ?_)
    · rw [hmessages]
      refine Messages.loadAs hf fun n hmem => ?_
      have hfields := h n (List.mem_append_left _ hmem)
      rwa [declaredIn_append, files_declaredIn_eq_nil (hdisjoint hmem), List.append_nil] at hfields
    · have hfields := h n (List.mem_append_right _ hmem)
      have hnot : n ∉ f.types.map (·.typeName) := fun hin => hdisjoint hin hmem
      rwa [declaredIn_append, FileDecl.declared, Messages.declaredIn_eq_nil hnot, List.nil_append] at hfields

theorem resolves_iff {ref : String} :
    Resolves types ref ↔ ∃ t ∈ types, t.typeName = Text.dropLeading '.' ref := by
  constructor
  · rintro ⟨t, ht⟩
    exact ⟨t, lookup_mem ht⟩
  · rintro ⟨t, ht, hname⟩
    have hfind : (types.reverse.find? (·.typeName == Text.dropLeading '.' ref)).isSome := by
      rw [List.find?_isSome]
      exact ⟨t, List.mem_reverse.2 ht, beq_iff_eq.2 hname⟩
    obtain ⟨u, hu⟩ := Option.isSome_iff_exists.1 hfind
    exact ⟨u, lookup_eq_ok.2 hu⟩

theorem loadsAs_of_descriptors (hn : (r.types.map (·.typeName)).Nodup) (hplace : r.EntriesInPlace)
    (h : r.descriptors = .ok set) : LoadsAs r set := by
  obtain ⟨⟨wired, services⟩, hw, h⟩ := bind_eq_ok.1 h
  cases pure_eq_ok.1 h
  obtain ⟨hfold, hservices⟩ := foldlM_of_wireFiles hw
  have hordered := files_ordered hn
  have hself : ∀ d ∈ r.declared, ¬d.2.ReadsEntry r.mapEntries d.1 := fun d hd hreads =>
    hordered.contained_ne _ (hplace.contained_of_readsEntry hd hreads) rfl
  have hlater : r.declared.Pairwise fun a b => ¬a.2.ReadsEntry r.mapEntries b.1 :=
    hordered.pairwise.imp_of_mem fun ha _ hab hreads => hab (hplace.contained_of_readsEntry ha hreads)
  obtain ⟨_, rfl, hfinal⟩ := foldlM_addField_finally hself hlater hfold
  have hmessages : DescriptorSet.messages ⟨assemble wired r.files services, r.filesToGenerate⟩ =
      r.types.map wired.message := by
    rw [DescriptorSet.messages, assemble_messages hservices.length_eq.symm, ← types, messagesOf_eq_map]
    · rfl
    · rwa [List.append_nil]
  have hset : Holds ⟨assemble wired r.files services, r.filesToGenerate⟩ r.types wired := fun t ht => by
    rw [hmessages]
    exact List.mem_map_of_mem ht
  refine ⟨assemble_loadAs hset hservices hn fun n _ => ?_, rfl⟩
  exact (forall₂_fieldsOf hfinal n).imp fun _ _ hg => hset.field hg

/-- A request in which no name is declared twice and map entries are read in place is loaded faithfully, or there is
an error of invalid input; that is the case exactly if a reference names no declared message. -/
theorem descriptors_faithful (hn : (r.types.map (·.typeName)).Nodup) (hplace : r.EntriesInPlace) :
    ((∃ e, r.descriptors = .error e ∧ (Failure.request e).label = "ValueError") ↔
        ∃ ref ∈ r.refs, ∀ t ∈ r.types, t.typeName ≠ Text.dropLeading '.' ref) ∧
      ∀ set, r.descriptors = .ok set → LoadsAs r set := by
  refine ⟨?_, fun set h => loadsAs_of_descriptors hn hplace h⟩
  have hnone : (∃ e, r.descriptors = .error e ∧ (Failure.request e).label = "ValueError") ↔
      ¬∃ set, r.descriptors = .ok set := by
    cases r.descriptors with
    | ok set => simp
    | error e => simp [Failure.label]
  rw [hnone, descriptors_resolves]
  simp only [resolves_iff, not_forall, not_exists, not_and, exists_prop]

/-- A map from names to messages of another file, with the entry that a compiler makes for it. -/
def mapRequest : Request :=
  { files := [
      { name := some "bag.proto"
        package := some "p"
        messages := .cons (some "Bag") none [⟨some "items", some 3, some 11, some ".p.Bag.ItemsEntry"⟩]
          (.cons (some "ItemsEntry") (some true)
            [⟨some "key", some 1, some 9, none⟩, ⟨some "value", some 1, some 11, some ".q.Item"⟩] .nil .nil) .nil },
      { name := some "item.proto"
        package := some "q"
        messages := .cons (some "Item") none [⟨some "bags", some 3, some 11, some ".p.Bag"⟩] .nil .nil }] }

def itemRef : TypeRef := ⟨"q.Item", "Item", "item.proto"⟩

def mapSet : DescriptorSet :=
  { files := [
      { name := "bag.proto"
        package := "p"
        messages := [⟨"p.Bag", "Bag", "bag.proto", [⟨"items", .map, false, some itemRef⟩]⟩,
          ⟨"p.Bag.ItemsEntry", "ItemsEntry", "bag.proto",
            [⟨"key", .scalar, false, none⟩, ⟨"value", .message, false, some itemRef⟩]⟩] },
      { name := "item.proto"
        package := "q"
        messages := [⟨"q.Item", "Item", "item.proto",
          [⟨"bags", .message, true, some ⟨"p.Bag", "Bag", "bag.proto"⟩⟩]⟩] }] }

theorem descriptors_faithful_map : mapRequest.descriptors = .ok mapSet ∧ mapRequest.LoadsAs mapSet := by
  have hn : (mapRequest.types.map (·.typeName)).Nodup := by decide +kernel
  have hplace : mapRequest.EntriesInPlace := by decide +kernel
  have h : mapRequest.descriptors = .ok mapSet := by decide +kernel
  exact ⟨h, (descriptors_faithful hn hplace).2 mapSet h⟩

end RpcBindings.Request
