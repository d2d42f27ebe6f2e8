import RpcBindings.Proofs.Imports.Existence
import RpcBindings.Proofs.Imports.Identifiers
import RpcBindings.Proofs.Path.Relative

namespace RpcBindings

open RpcBindings.Path

/-- A relative path of names, the last of which is a stem and the suffix of proto files. -/
structure IsProtoPath (config : Config) (file : String) : Prop where
  normal : Normal (Text.splitOn '/' file)
  stem : ∃ stem, stem ≠ "" ∧ baseName file = stem ++ config.protoSuffix

variable {cwd : List String} {config : Config} {owner file other stem path name : String}

namespace IsProtoPath

theorem stem_iff {name tail : String} :
    (∃ stem, stem ≠ "" ∧ name = stem ++ tail) ↔ Text.endsWith name tail = true ∧ name ≠ tail := by
  constructor
  · rintro ⟨stem, hne, rfl⟩
    refine ⟨Text.endsWith_append stem tail, ?_⟩
    rw [Ne, String.append_eq_right_iff]
    exact hne
  · rintro ⟨hend, hne⟩
    obtain ⟨stem, hstem⟩ := List.isSuffixOf_iff_suffix.1 hend
    obtain rfl : String.ofList stem ++ tail = name := by
      rw [← String.toList_inj, String.toList_append, String.toList_ofList, hstem]
    refine ⟨_, ?_, rfl⟩
    intro hempty
    rw [hempty, String.empty_append] at hne
    exact hne rfl

instance (config : Config) (file : String) : Decidable (IsProtoPath config file) :=
  decidable_of_iff (Normal (Text.splitOn '/' file) ∧ Text.endsWith (baseName file) config.protoSuffix = true ∧
      baseName file ≠ config.protoSuffix)
    ⟨fun h => ⟨h.1, stem_iff.2 h.2⟩, fun h => ⟨h.normal, stem_iff.1 h.stem⟩⟩

theorem parts_eq (h : IsProtoPath config file) : parts file = Text.splitOn '/' file :=
  List.filter_eq_self.2 fun c hc => decide_eq_true ⟨(h.normal c hc).1, (h.normal c hc).2.1⟩

theorem descends (h : IsProtoPath config file) : Descends file := by
  constructor
  · rw [← intercalate_splitOn file]
    exact isAbsolute_intercalate fun c hc => isPart_of_mem (h.parts_eq.symm ▸ hc)
  · rw [h.parts_eq]
    intro hup
    exact (h.normal ".." hup).2.2 rfl

theorem splitOn_eq (h : IsProtoPath config file) :
    Text.splitOn '/' file = directories file ++ parts (baseName file) := by
  rw [← h.parts_eq, ← parts_folder_append, folder_append_baseName]

end IsProtoPath

theorem slash_not_mem_baseName (p : String) : '/' ∉ (baseName p).toList := by
  rw [baseName, String.toList_ofList, List.mem_reverse]
  intro hmem
  simpa using List.mem_takeWhile_imp hmem

theorem slash_not_mem_stem (h : baseName file = stem ++ config.protoSuffix) : '/' ∉ stem.toList := by
  intro hmem
  apply slash_not_mem_baseName file
  rw [h, String.toList_append]
  exact List.mem_append_left _ hmem

theorem splitOn_wayTo (hcwd : IsStart cwd) (hstem : baseName file = stem ++ config.protoSuffix) :
    Text.splitOn '/' ("/".intercalate (wayTo cwd owner file ++ [stem])) = wayTo cwd owner file ++ [stem] := by
  apply splitOn_intercalate
  · intro c hc
    rcases List.mem_append.1 hc with hc | hc
    · exact (hcwd.isPart_of_mem_wayTo owner file c hc).no_slash
    · rw [List.mem_singleton.1 hc]
      exact slash_not_mem_stem hstem
  · exact List.append_ne_nil_of_right_ne_nil _ (List.cons_ne_nil stem [])

/-- The module of a foreign file, put together from the output root, the way, the stem and the suffix. -/
theorem externalPath_of_stem (owner : String) (hcwd : IsStart cwd)
    (hstem : baseName file = stem ++ config.protoSuffix) (hne : stem ≠ "") :
    isAbsolute ("/".intercalate (wayTo cwd owner file ++ [stem]) ++ config.pbSuffix) = false ∧
      externalPath cwd config owner file =
        .ok (append config.outputRoot ("/".intercalate (wayTo cwd owner file ++ [stem]) ++ config.pbSuffix)) := by
  have hparts := hcwd.isPart_of_mem_wayTo owner file
  have hway : isAbsolute (relativeDir cwd owner file) = false := isAbsolute_intercalate hparts
  have hmodule : moduleStem config file = stem ++ config.pbSuffix := by
    rw [moduleStem, hstem, Text.dropSuffix_append_self]
  have hslash : '/' ∉ stem.toList := slash_not_mem_stem hstem
  have hrelative : isAbsolute (stem ++ config.pbSuffix) = false := by
    rw [isAbsolute_append_of_ne hne]
    exact isAbsolute_of_not_mem hslash
  have hsome : stem ++ config.pbSuffix ≠ "" := fun h => hne (String.append_eq_empty_iff.1 h).1
  have hjoined : append (relativeDir cwd owner file) (stem ++ config.pbSuffix) =
      "/".intercalate (wayTo cwd owner file ++ [stem]) ++ config.pbSuffix := by
    rw [← intercalate_concat_append]
    exact append_intercalate hparts hrelative
  rw [← hjoined]
  refine ⟨isAbsolute_append_eq_false hway hrelative, externalPath_eq_ok.2 ?_⟩
  rw [hmodule]
  exact join?_three hway hrelative hsome _

theorem IsProtoPath.eq_of_externalPath (hcwd : IsStart cwd) (hfile : IsProtoPath config file)
    (hother : IsProtoPath config other)
    (h : externalPath cwd config owner file = externalPath cwd config owner other) : file = other := by
  obtain ⟨stem, hne, hstem⟩ := hfile.stem
  obtain ⟨stem', hne', hstem'⟩ := hother.stem
  obtain ⟨hrelative, hpath⟩ := externalPath_of_stem owner hcwd hstem hne
  obtain ⟨hrelative', hpath'⟩ := externalPath_of_stem owner hcwd hstem' hne'
  rw [hpath, hpath'] at h
  have hmodules := (String.append_left_inj _).1 (append_left_cancel hrelative hrelative' (Except.ok.inj h))
  have hways := congrArg (Text.splitOn '/') hmodules
  rw [splitOn_wayTo hcwd hstem, splitOn_wayTo hcwd hstem', List.append_singleton_inj] at hways
  obtain ⟨hway, hstems⟩ := hways
  have hdirectory : absolute cwd (folder file) = absolute cwd (folder other) := by
    rw [← hcwd.enter_wayTo owner file, ← hcwd.enter_wayTo owner other, hway]
  rw [hfile.descends.absolute_folder, hother.descends.absolute_folder, List.append_cancel_left_eq] at hdirectory
  rw [← intercalate_splitOn file, ← intercalate_splitOn other, hfile.splitOn_eq, hother.splitOn_eq, hdirectory,
    hstem, hstem', hstems]

theorem TypeRef.origin_eq_external {t : TypeRef} :
    t.origin cwd config owner = .ok (.external path name) ↔
      wellKnown? t.typeName = none ∧ t.file ≠ owner ∧ externalPath cwd config owner t.file = .ok path ∧
        t.name = name := by
  constructor
  · intro h
    rcases origin_cases h with ⟨_, _, heq⟩ | ⟨_, _, heq⟩ | ⟨hnone, hfile, path', hpath, heq⟩
    · cases heq
    · cases heq
    · cases heq
      exact ⟨hnone, hfile, hpath, rfl⟩
  · rintro ⟨hnone, hfile, hpath, rfl⟩
    rw [origin, hnone]
    dsimp only
    rw [if_neg hfile, hpath]
    rfl

theorem TypeRef.not_lacksModule {t : TypeRef} (h : t.file ≠ owner → IsProtoPath config t.file) :
    ¬t.LacksModule cwd config owner := by
  intro hlacks
  obtain ⟨stem, hne, hstem⟩ := (h hlacks.foreign).stem
  rcases hlacks.name with hempty | hsuffix
  · exact hne (String.append_eq_empty_iff.1 (hstem.symm.trans hempty)).1
  · exact (IsProtoPath.stem_iff.1 ⟨stem, hne, hstem⟩).2 hsuffix

/-- A name stands in an entry exactly if it is used under its path. -/
theorem Imports.mem_external {os : List Origin} {entry : String × List String}
    (h : entry ∈ (ofOrigins os).external) : name ∈ entry.2 ↔ .external entry.1 name ∈ os := by
  rw [ofOrigins_eq] at h
  obtain ⟨path, -, rfl⟩ := List.mem_map.1 h
  refine mem_namesUnder.trans (List.mem_filterMap.trans ?_)
  simp only [Origin.external?_eq_some, exists_eq_right]

namespace ViewModel

variable {set : DescriptorSet} {s : Service} {vm : ViewModel}

/-- What is imported from a module: the types that the service uses of one file, which is not its own. -/
structure OfFile (cwd : List String) (config : Config) (s : Service) (entry : String × List String) (file : String) :
    Prop where
  foreign : file ≠ s.file
  path : externalPath cwd config s.file file = .ok entry.1
  names : ∀ name, name ∈ entry.2 ↔ ∃ t ∈ s.refs, wellKnown? t.typeName = none ∧ t.file = file ∧ t.name = name
  types : ∀ t ∈ s.refs, ∀ name, t.origin cwd config s.file = .ok (.external entry.1 name) → t.file = file

theorem exists_ofFile (hcwd : IsStart cwd) (hvm : ofService cwd set config s = .ok vm)
    (hfiles : ∀ t ∈ s.refs, t.file ≠ s.file → IsProtoPath config t.file) {entry : String × List String}
    (h : entry ∈ vm.imports.external) : ∃ file, OfFile cwd config s entry file := by
  obtain ⟨pairs, hpairs, rfl⟩ := ofService_eq_ok hvm
  have horigins := origins_of_refs hpairs
  have huses : ∀ name, name ∈ entry.2 ↔
      ∃ t ∈ s.refs, t.origin cwd config s.file = .ok (.external entry.1 name) := by
    intro name
    rw [Imports.mem_external h]
    constructor
    · exact exists_of_forall₂ horigins
    · rintro ⟨t, ht, ho⟩
      obtain ⟨o, hmem, ho'⟩ := exists_of_forall₂ horigins.flip ht
      exact Except.ok.inj (ho'.symm.trans ho) ▸ hmem
  obtain ⟨first, hfirst⟩ := List.exists_mem_of_ne_nil _ (Imports.names_ne_nil h)
  obtain ⟨t, ht, ho⟩ := (huses first).1 hfirst
  obtain ⟨-, hforeign, hpath, -⟩ := TypeRef.origin_eq_external.1 ho
  have htypes : ∀ u ∈ s.refs, ∀ name, u.origin cwd config s.file = .ok (.external entry.1 name) →
      u.file = t.file := by
    intro u hu name ho'
    obtain ⟨-, hforeign', hpath', -⟩ := TypeRef.origin_eq_external.1 ho'
    exact (hfiles u hu hforeign').eq_of_externalPath hcwd (hfiles t ht hforeign) (hpath'.trans hpath.symm)
  refine ⟨t.file, hforeign, hpath, ?_, htypes⟩
  intro name
  rw [huses]
  constructor
  · rintro ⟨u, hu, ho'⟩
    obtain ⟨hnone, -, -, hname⟩ := TypeRef.origin_eq_external.1 ho'
    exact ⟨u, hu, hnone, htypes u hu name ho', hname⟩
  · rintro ⟨u, hu, hnone, hfile, hname⟩
    exact ⟨u, hu, TypeRef.origin_eq_external.2 ⟨hnone, hfile ▸ hforeign, hfile ▸ hpath, hname⟩⟩

/-- Files with a stem have modules, and different files have different ones, seen from any owner. So a service
that uses types of such files only has a view model, and each import in it is of the types of one file. -/
theorem external_of_one_file (hcwd : IsStart cwd) (config : Config) :
    (∀ owner file other, IsProtoPath config file → IsProtoPath config other →
      (∃ path, externalPath cwd config owner file = .ok path) ∧
        (externalPath cwd config owner file = externalPath cwd config owner other → file = other)) ∧
      ∀ (set : DescriptorSet) (s : Service), (∀ t ∈ s.refs, t.file ≠ s.file → IsProtoPath config t.file) →
        ∃ vm, ofService cwd set config s = .ok vm ∧
          ∀ entry ∈ vm.imports.external, ∃ file, OfFile cwd config s entry file := by
  constructor
  · intro owner file other hfile hother
    obtain ⟨stem, hne, hstem⟩ := hfile.stem
    exact ⟨⟨_, (externalPath_of_stem owner hcwd hstem hne).2⟩, hfile.eq_of_externalPath hcwd hother⟩
  · intro set s hfiles
    have hexists : ∃ vm, ofService cwd set config s = .ok vm :=
      exists_ofService_iff.2 fun t ht => TypeRef.not_lacksModule (hfiles t ht)
    obtain ⟨vm, hvm⟩ := hexists
    exact ⟨vm, hvm, fun entry => exists_ofFile hcwd hvm hfiles⟩

/-- A service whose file is beside the working directory, and modules below a directory for each file. -/
def counter : Service :=
  ⟨"Counter", "desk", "../desk/counter.proto", [⟨"CountOrders", page, order, .unary⟩,
    ⟨"Measure", size, empty, .unary⟩]⟩

def counterConfig : Config := { outputRoot := "/lib/", pbSuffix := "/_pb" }

theorem external_of_one_file_counter :
    IsStart ["srv"] ∧ (∀ t ∈ counter.refs, t.file ≠ counter.file → IsProtoPath counterConfig t.file) ∧
      ∃ vm, ofService ["srv"] {} counterConfig counter = .ok vm ∧
        (∀ entry ∈ vm.imports.external, ∃ file, OfFile ["srv"] counterConfig counter entry file) ∧
        vm.imports.external = [("/lib/../srv/common/paging/_pb", ["Page", "Size"]),
          ("/lib/../srv/shop/order/_pb", ["Order"])] := by
  have hcwd : IsStart ["srv"] := by decide
  have hfiles : ∀ t ∈ counter.refs, t.file ≠ counter.file → IsProtoPath counterConfig t.file := by
    decide +kernel
  obtain ⟨vm, hvm, himports⟩ := (external_of_one_file hcwd counterConfig).2 {} counter hfiles
  refine ⟨hcwd, hfiles, vm, hvm, himports, ?_⟩
  have hexternal : (ofService ["srv"] {} counterConfig counter).map (fun vm => vm.imports.external) =
      .ok [("/lib/../srv/common/paging/_pb", ["Page", "Size"]), ("/lib/../srv/shop/order/_pb", ["Order"])] := by
    decide +kernel
  rw [hvm] at hexternal
  exact Except.ok.inj hexternal

end ViewModel

end RpcBindings
