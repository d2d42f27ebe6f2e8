import RpcBindings.Proofs.Request.Resolution

namespace RpcBindings.Request

variable {f : FieldDecl} {n : String} {t u : TypeRef}

theorem Messages.file_of_mem_types {file scope : String} {ms : Messages} (h : t ∈ ms.types file scope) :
    t.file = file := by
  induction ms generalizing scope with
  | nil => cases h
  | cons name isMapEntry fields nested rest ihn ihr =>
    rcases List.mem_append.1 h with h | h
    · rcases List.mem_cons.1 h with rfl | h
      · rfl
      · exact ihn h
    · exact ihr h

theorem Messages.exists_type_of_declared (file : String) {scope : String} {ms : Messages}
    (h : (n, f) ∈ ms.declared scope) : ∃ t ∈ ms.types file scope, t.typeName = n := by
  induction ms generalizing scope with
  | nil => cases h
  | cons name isMapEntry fields nested rest ihn ihr =>
    rw [Messages.declared, List.mem_append, List.mem_append] at h
    rw [Messages.types]
    obtain (h | h) | h := h
    · obtain ⟨t, ht, hn⟩ := ihn h
      exact ⟨t, List.mem_append_left _ (List.mem_cons_of_mem _ ht), hn⟩
    · obtain ⟨g, -, hg⟩ := List.mem_map.1 h
      cases hg
      exact ⟨_, List.mem_append_left _ List.mem_cons_self, rfl⟩
    · obtain ⟨t, ht, hn⟩ := ihr h
      exact ⟨t, List.mem_append_right _ ht, hn⟩

theorem Messages.exists_type_of_mapEntry (file : String) {scope : String} {ms : Messages}
    (h : n ∈ ms.mapEntries scope) : ∃ t ∈ ms.types file scope, t.typeName = n := by
  induction ms generalizing scope with
  | nil => cases h
  | cons name isMapEntry fields nested rest ihn ihr =>
    rw [Messages.mapEntries, List.mem_append, List.mem_append] at h
    rw [Messages.types]
    obtain (h | h) | h := h
    · split at h
      · cases List.mem_singleton.1 h
        exact ⟨_, List.mem_append_left _ List.mem_cons_self, rfl⟩
      · cases h
    · obtain ⟨t, ht, hn⟩ := ihn h
      exact ⟨t, List.mem_append_left _ (List.mem_cons_of_mem _ ht), hn⟩
    · obtain ⟨t, ht, hn⟩ := ihr h
      exact ⟨t, List.mem_append_right _ ht, hn⟩

structure PartOf (r r' : Request) : Prop where
  parameter : r'.parameter = r.parameter
  filesToGenerate : r'.filesToGenerate = r.filesToGenerate
  files : r.files ⊆ r'.files
  fileNames : ∀ f ∈ r.files, ∀ g ∈ r'.files, g.nameText = f.nameText → g = f
  typeNames : ∀ t ∈ r.types, ∀ u ∈ r'.types, u.typeName = t.typeName → u = t
  generated : ∀ g ∈ r'.files, g.nameText ∈ r.filesToGenerate → g ∈ r.files

namespace PartOf

variable {r r' : Request} {g : FileDecl} {ref : String} {s s' : DescriptorSet}

theorem types_subset (h : r.PartOf r') : r.types ⊆ r'.types := by
  intro t ht
  obtain ⟨f, hf, ht⟩ := List.mem_flatMap.1 ht
  exact List.mem_flatMap.2 ⟨f, h.files hf, ht⟩

theorem mem_files (h : r.PartOf r') (ht : t ∈ r.types) (hg : g ∈ r'.files) (hu : u ∈ g.types)
    (hname : u.typeName = t.typeName) : g ∈ r.files := by
  obtain ⟨f, hf, htf⟩ := List.mem_flatMap.1 ht
  have heq : u = t := h.typeNames t ht u (List.mem_flatMap.2 ⟨g, hg, hu⟩) hname
  have hfile : g.nameText = f.nameText := by
    rw [← Messages.file_of_mem_types hu, ← Messages.file_of_mem_types htf, heq]
  rw [h.fileNames f hf g hg hfile]
  exact hf

theorem lookup (h : r.PartOf r') (ht : lookup r.types ref = .ok t) : Request.lookup r'.types ref = .ok t := by
  obtain ⟨hmem, hname⟩ := lookup_mem ht
  rw [lookup_eq_ok, ← hname]
  exact find?_reverse_of_unique (h.types_subset hmem) (h.typeNames t hmem)

theorem resolves (h : r.PartOf r') (hr : Resolves r.types ref) : Resolves r'.types ref := by
  obtain ⟨t, ht⟩ := hr
  exact ⟨t, h.lookup ht⟩

theorem mem_declared (h : r.PartOf r') (ht : t ∈ r.types) :
    (t.typeName, f) ∈ r'.declared ↔ (t.typeName, f) ∈ r.declared := by
  constructor
  · intro hf
    obtain ⟨g, hg, hf⟩ := List.mem_flatMap.1 hf
    obtain ⟨u, hu, hname⟩ := Messages.exists_type_of_declared g.nameText hf
    exact List.mem_flatMap.2 ⟨g, h.mem_files ht hg hu hname, hf⟩
  · intro hf
    obtain ⟨g, hg, hf⟩ := List.mem_flatMap.1 hf
    exact List.mem_flatMap.2 ⟨g, h.files hg, hf⟩

theorem mem_mapEntries (h : r.PartOf r') (ht : t ∈ r.types) :
    t.typeName ∈ r'.mapEntries ↔ t.typeName ∈ r.mapEntries := by
  constructor
  · intro hm
    obtain ⟨g, hg, hm⟩ := List.mem_flatMap.1 hm
    obtain ⟨u, hu, hname⟩ := Messages.exists_type_of_mapEntry g.nameText hm
    exact List.mem_flatMap.2 ⟨g, h.mem_files ht hg hu hname, hm⟩
  · intro hm
    obtain ⟨g, hg, hm⟩ := List.mem_flatMap.1 hm
    exact List.mem_flatMap.2 ⟨g, h.files hg, hm⟩

theorem outline (h : r.PartOf r') (hf : ∀ ref ∈ f.refs, Resolves r.types ref) :
    f.outline r'.types r'.mapEntries = f.outline r.types r.mapEntries := by
  rw [FieldDecl.refs] at hf
  rw [FieldDecl.outline, FieldDecl.outline]
  cases hm : f.isMessage with
  | false => rfl
  | true =>
    rw [hm, if_pos rfl, List.forall_mem_singleton] at hf
    obtain ⟨t, ht⟩ := hf
    rw [ht, h.lookup ht]
    simp only [h.mem_mapEntries (lookup_mem ht).1]

theorem within (h : r.PartOf r') (hs : r.descriptors = .ok s) (hs' : r'.descriptors = .ok s') :
    s.Within s' := by
  have hd := descriptors_describes hs
  have hd' := descriptors_describes hs'
  have hrefs := descriptors_resolves.1 ⟨s, hs⟩
  intro n m hm
  obtain ⟨t, ht, rfl⟩ := (hd.names n).1 ⟨m, hm⟩
  obtain ⟨m', hm'⟩ := (hd'.names t.typeName).2 ⟨t, h.types_subset ht, rfl⟩
  refine ⟨m', hm', fun o => ?_⟩
  rw [hd.outlines _ m hm, hd'.outlines _ m' hm']
  refine exists_congr fun f => ?_
  rw [h.mem_declared ht]
  refine and_congr_right fun hf => ?_
  obtain ⟨g, hg, hfg⟩ := List.mem_flatMap.1 hf
  have hresolves : ∀ ref ∈ f.refs, Resolves r.types ref := fun ref href =>
    hrefs ref (List.mem_flatMap.2 ⟨g, hg, List.mem_append_left _ (List.mem_flatMap.2 ⟨_, hfg, href⟩)⟩)
  rw [h.outline hresolves]

theorem wireMethods (h : r.PartOf r') {decls : List MethodDecl} {ms : List Method}
    (hms : wireMethods r.types decls = .ok ms) : Request.wireMethods r'.types decls = .ok ms := by
  induction decls generalizing ms with
  | nil => exact hms
  | cons d rest ih =>
    obtain ⟨i, hi, hms⟩ := bind_eq_ok.1 hms
    obtain ⟨o, ho, hms⟩ := bind_eq_ok.1 hms
    obtain ⟨others, hothers, hms⟩ := bind_eq_ok.1 hms
    rw [Request.wireMethods, h.lookup hi, h.lookup ho, ih hothers]
    exact hms

theorem wireServices (h : r.PartOf r') {file package : String} {decls : List ServiceDecl}
    {ss : List Service} (hss : wireServices r.types file package decls = .ok ss) :
    Request.wireServices r'.types file package decls = .ok ss := by
  induction decls generalizing ss with
  | nil => exact hss
  | cons d rest ih =>
    obtain ⟨ms, hms, hss⟩ := bind_eq_ok.1 hss
    obtain ⟨others, hothers, hss⟩ := bind_eq_ok.1 hss
    rw [Request.wireServices, h.wireMethods hms, ih hothers]
    exact hss

theorem services (h : r.PartOf r') (hs : r.descriptors = .ok s) (hs' : r'.descriptors = .ok s') {n : String}
    (hn : n ∈ r.filesToGenerate) : (s'.file? n).map (·.services) = (s.file? n).map (·.services) := by
  have hd := descriptors_describes hs
  have hd' := descriptors_describes hs'
  cases hp : s.file? n with
  | none =>
    cases hp' : s'.file? n with
    | none => rfl
    | some p' =>
      obtain ⟨g, hg, hname, -⟩ := hd'.file_eq_some hp'
      obtain ⟨p, hp''⟩ := hd.exists_file (h.generated g hg (hname ▸ hn))
      rw [hname, hp] at hp''
      cases hp''
  | some p =>
    obtain ⟨f, hf, hname, hservices⟩ := hd.file_eq_some hp
    obtain ⟨p', hp'⟩ := hd'.exists_file (h.files hf)
    rw [hname] at hp'
    obtain ⟨g, hg, hname', hservices'⟩ := hd'.file_eq_some hp'
    rw [h.fileNames f hf g hg (hname'.trans hname.symm), h.wireServices hservices] at hservices'
    have heq : p.services = p'.services := Except.ok.inj hservices'
    rw [hp', Option.map_some, Option.map_some, heq]

theorem firstService (h : r.PartOf r') (hgen : r.filesToGenerate ≠ []) (hs : r.descriptors = .ok s)
    (hs' : r'.descriptors = .ok s') : s'.firstService? = s.firstService? := by
  have hg : s.filesToGenerate = r.filesToGenerate := (descriptors_describes hs).filesToGenerate
  have hg' : s'.filesToGenerate = r.filesToGenerate :=
    (descriptors_describes hs').filesToGenerate.trans h.filesToGenerate
  rw [DescriptorSet.firstService?, DescriptorSet.firstService?, DescriptorSet.services_eq (hg' ▸ hgen),
    DescriptorSet.services_eq (hg ▸ hgen), hg, hg']
  congr 1
  refine List.flatMap_congr fun n hn => ?_
  rw [h.services hs hs' hn]

theorem ofFirstService (h : r.PartOf r') (hgen : r.filesToGenerate ≠ []) (hs : r.descriptors = .ok s)
    (hs' : r'.descriptors = .ok s') (cwd : List String) (config : Config) :
    ViewModel.ofFirstService cwd s' config = ViewModel.ofFirstService cwd s config :=
  (h.within hs hs').ofFirstService (descriptors_linked hs) (descriptors_linked hs')
    (h.firstService hgen hs hs') cwd config

end PartOf

end RpcBindings.Request
