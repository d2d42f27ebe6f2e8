import Mathlib.Data.List.Nodup
import RpcBindings.Proofs.Descriptor.Loaded
import RpcBindings.Proofs.Imports.FirstUse
import RpcBindings.Proofs.Rendering.Hooks

namespace RpcBindings

namespace Imports

def identifiers (i : Imports) : List String := i.wellKnown ++ i.sameFile ++ i.external.flatMap (·.2)

theorem identifiers_insertExternal {path name : String} {external : List (String × List String)}
    (h : ∀ names, (path, names) ∈ external → name ∉ names) :
    ((insertExternal path name external).flatMap (·.2)).Perm (name :: external.flatMap (·.2)) := by
  induction external with
  | nil => exact .refl _
  | cons entry rest ih =>
    obtain ⟨p, names⟩ := entry
    rw [insertExternal]
    by_cases hp : p = path
    · rw [if_pos hp, insertNew_of_not_mem (h names (hp ▸ List.mem_cons_self))]
      simp only [List.flatMap_cons, List.append_assoc]
      exact List.perm_middle
    · have hrest := ih fun names hn => h names (List.mem_cons_of_mem _ hn)
      rw [if_neg hp, List.flatMap_cons, List.flatMap_cons]
      exact (hrest.append_left names).trans List.perm_middle

theorem identifiers_insert {i : Imports} {o : Origin} (h : ¬i.Holds o) :
    (i.insert o).identifiers.Perm (o.name :: i.identifiers) := by
  cases o with
  | wellKnown name =>
    have hperm : (i.wellKnown ++ [name]).Perm (name :: i.wellKnown) := List.perm_append_singleton _ _
    rw [insert, insertNew_of_not_mem h]
    exact (hperm.append_right _).append_right _
  | sameFile name =>
    have hperm : (i.sameFile ++ [name]).Perm (name :: i.sameFile) := List.perm_append_singleton _ _
    rw [insert, insertNew_of_not_mem h]
    exact ((hperm.append_left i.wellKnown).trans List.perm_middle).append_right _
  | external path name =>
    have hperm : ((insertExternal path name i.external).flatMap (·.2)).Perm _ :=
      identifiers_insertExternal fun names hn hm => h ⟨names, hn, hm⟩
    exact (hperm.append_left (i.wellKnown ++ i.sameFile)).trans List.perm_middle

variable {os : List Origin}

theorem identifiers_ofOrigins (os : List Origin) :
    (ofOrigins os).identifiers.Perm (os.eraseDups.map Origin.name) := by
  -- Imports are read off from the first use on, so the induction adds the last one.
  induction os using List.reverseRecOn with
  | nil => exact .refl _
  | append_singleton os o ih =>
    rw [ofOrigins_append, eraseDups_append_singleton]
    by_cases h : o ∈ os
    · rw [insert_ofOrigins_of_mem h, insertNew_of_mem (List.mem_eraseDups.2 h)]
      exact ih
    · rw [insertNew_of_not_mem (mt List.mem_eraseDups.1 h), List.map_append]
      have hone := identifiers_insert (mt holds_ofOrigins.1 h)
      exact (hone.trans (ih.cons _)).trans (List.perm_append_singleton _ _).symm

theorem mem_identifiers_iff {name : String} :
    name ∈ (ofOrigins os).identifiers ↔ ∃ o ∈ os, o.name = name := by
  rw [(identifiers_ofOrigins os).mem_iff, List.mem_map]
  simp only [List.mem_eraseDups]

/-- No name is imported twice exactly if no two origins share one. -/
theorem nodup_identifiers_iff :
    (ofOrigins os).identifiers.Nodup ↔ ∀ o ∈ os, ∀ o' ∈ os, o.name = o'.name → o = o' := by
  rw [(identifiers_ofOrigins os).nodup_iff, List.nodup_map_iff_inj_on (nodup_eraseDups os)]
  simp only [List.mem_eraseDups]

theorem names_ne_nil {entry : String × List String} (h : entry ∈ (ofOrigins os).external) :
    entry.2 ≠ [] := by
  rw [ofOrigins_eq] at h
  obtain ⟨path, hpath, rfl⟩ := List.mem_map.1 h
  obtain ⟨use, huse, rfl⟩ := List.mem_map.1 (List.mem_eraseDups.1 hpath)
  exact List.ne_nil_of_mem (mem_namesUnder.2 huse)

end Imports

theorem join_importLine? (imports : List (String × List String)) :
    String.join (imports.map fun i => importLine? i.2 i.1) =
      String.join ((imports.filter (!·.2.isEmpty)).map fun i => importLine i.2 i.1) := by
  induction imports with
  | nil => rfl
  | cons i rest ih =>
    rw [List.map_cons, String.join_cons, ih, importLine?]
    by_cases h : i.2.isEmpty = true
    · rw [if_pos h, String.empty_append, List.filter_cons_of_neg (by simp [h])]
    · rw [if_neg h, List.filter_cons_of_pos (by simp [h]), List.map_cons, String.join_cons]

namespace ViewModel

/-- What the bindings import for message types: the module and the names of each import line. -/
def typeImports (vm : ViewModel) (config : Config) : List (String × List String) :=
  (("@bufbuild/protobuf", vm.imports.wellKnown) ::
    (config.modulePath vm.protoPbFile, vm.imports.sameFile) :: vm.imports.external).filter (!·.2.isEmpty)

def typeIdentifiers (vm : ViewModel) (config : Config) : List String :=
  (vm.typeImports config).flatMap (·.2)

theorem typeIdentifiers_eq (vm : ViewModel) (config : Config) :
    vm.typeIdentifiers config = vm.imports.identifiers := by
  have hfilter (is : List (String × List String)) :
      (is.filter (!·.2.isEmpty)).flatMap (·.2) = is.flatMap (·.2) := by
    induction is with
    | nil => rfl
    | cons i rest ih =>
      obtain ⟨path, names⟩ := i
      cases names with
      | nil => exact ih
      | cons name names => exact congrArg ((name :: names) ++ ·) ih
  rw [typeIdentifiers, typeImports, hfilter, List.flatMap_cons, List.flatMap_cons, Imports.identifiers,
    List.append_assoc]

theorem preamble_eq {vm : ViewModel} (h : ∀ entry ∈ vm.imports.external, entry.2 ≠ [])
    (config : Config) : vm.preamble config = title ++ vm.serviceName ++ libraries ++
      String.join ((vm.typeImports config).map fun i => importLine i.2 i.1) ++
      vm.definitionsLine config ++ invalidation := by
  have hexternal : vm.imports.external.map (fun i => importLine i.2 i.1) =
      vm.imports.external.map fun i => importLine? i.2 i.1 := by
    refine List.map_congr_left fun entry hentry => ?_
    rw [importLine?, if_neg (by simpa using h entry hentry)]
  rw [typeImports, ← join_importLine?, List.map_cons, List.map_cons, String.join_cons, String.join_cons,
    ← hexternal, preamble]
  simp only [String.append_assoc]

end ViewModel

theorem TypeRef.Qualified.importedName {t : TypeRef} (h : t.Qualified) :
    ∃ scope, t.typeName = qualify scope t.importedName := by
  rw [TypeRef.importedName]
  cases hw : wellKnown? t.typeName with
  | some known =>
    obtain ⟨hknown, hname⟩ := Document.wellKnown?_eq_some hw
    exact hname ▸ qualified_of_wellKnown hknown
  | none => exact h

theorem DescriptorSet.Linked.declares_refs {set : DescriptorSet} {p : ProtoFile} {s : Service}
    (h : set.Linked) (hp : p ∈ set.files) (hs : s ∈ p.services) : ∀ t ∈ s.refs, set.Declares t := by
  intro t ht
  obtain ⟨m, hm, ht⟩ := List.mem_flatMap.1 ht
  obtain ⟨hi, ho⟩ := h.methods p hp s hs m hm
  rcases List.mem_cons.1 ht with rfl | ht
  · exact hi
  · exact List.mem_singleton.1 ht ▸ ho

namespace ViewModel

variable {cwd : List String} {config : Config} {set : DescriptorSet} {p : ProtoFile} {s : Service}
  {vm : ViewModel} {pairs : List (Origin × Origin)}

theorem origins_of_refs (h : List.Forall₂ (Method.HasOrigins cwd config s.file) s.methods pairs) :
    List.Forall₂ (fun t o => t.origin cwd config s.file = .ok o) s.refs
      (pairs.flatMap fun p => [p.1, p.2]) :=
  List.rel_flatMap h fun _ _ hmp => .cons hmp.1 (.cons hmp.2 .nil)

section

variable {refs : List TypeRef} {os : List Origin} {owner : String}

theorem exists_name_iff (h : List.Forall₂ (fun t o => t.origin cwd config owner = .ok o) refs os)
    {name : String} : (∃ o ∈ os, o.name = name) ↔ ∃ t ∈ refs, t.importedName = name := by
  constructor
  · rintro ⟨o, ho, rfl⟩
    obtain ⟨t, ht, hto⟩ := exists_of_forall₂ h ho
    exact ⟨t, ht, (TypeRef.origin_name hto).symm⟩
  · rintro ⟨t, ht, rfl⟩
    obtain ⟨o, ho, hto⟩ := exists_of_forall₂ h.flip ht
    exact ⟨o, ho, TypeRef.origin_name hto⟩

theorem shared_name_iff (h : List.Forall₂ (fun t o => t.origin cwd config owner = .ok o) refs os) :
    (∀ o ∈ os, ∀ o' ∈ os, o.name = o'.name → o = o') ↔
      ∀ t ∈ refs, ∀ u ∈ refs, t.importedName = u.importedName →
        t.origin cwd config owner = u.origin cwd config owner := by
  constructor
  · intro hos t ht u hu hname
    obtain ⟨o, ho, hto⟩ := exists_of_forall₂ h.flip ht
    obtain ⟨o', ho', huo⟩ := exists_of_forall₂ h.flip hu
    rw [← TypeRef.origin_name hto, ← TypeRef.origin_name huo] at hname
    rw [hto, huo, hos o ho o' ho' hname]
  · intro hrefs o ho o' ho' hname
    obtain ⟨t, ht, hto⟩ := exists_of_forall₂ h ho
    obtain ⟨u, hu, huo⟩ := exists_of_forall₂ h ho'
    rw [TypeRef.origin_name hto, TypeRef.origin_name huo] at hname
    have heq := hrefs t ht u hu hname
    rw [hto, huo] at heq
    exact Except.ok.inj heq

end

/-- The bindings import each type that a service uses under its short name and use it under that name, so
types of different scopes may share an identifier. The import lines bind no identifier twice exactly if types
of one short name have one origin, as they do where no two types share a short name. -/
theorem nodup_typeIdentifiers_iff (h : set.Loaded) (hp : p ∈ set.files) (hs : s ∈ p.services)
    (hvm : ofService cwd set config s = .ok vm) :
    vm.preamble config = title ++ vm.serviceName ++ libraries ++
      String.join ((vm.typeImports config).map fun i => importLine i.2 i.1) ++
      vm.definitionsLine config ++ invalidation ∧
    List.Forall₂ (fun m r => r.inputType = m.input.importedName ∧ r.outputType = m.output.importedName)
      s.methods vm.rpcs ∧
    (∀ name, name ∈ vm.typeIdentifiers config ↔ ∃ t ∈ s.refs, t.importedName = name) ∧
    (∀ t ∈ s.refs, ∃ scope, t.typeName = qualify scope t.importedName) ∧
    ((vm.typeIdentifiers config).Nodup ↔ ∀ t ∈ s.refs, ∀ u ∈ s.refs,
      t.importedName = u.importedName → t.origin cwd config s.file = u.origin cwd config s.file) ∧
    ((∀ t ∈ s.refs, ∀ u ∈ s.refs, t.typeName ≠ u.typeName → t.importedName ≠ u.importedName) →
      (vm.typeIdentifiers config).Nodup) := by
  obtain ⟨pairs, hpairs, rfl⟩ := ofService_eq_ok hvm
  have horigins := origins_of_refs hpairs
  have hdeclares := h.linked.declares_refs hp hs
  have hiff := Imports.nodup_identifiers_iff.trans (shared_name_iff horigins)
  rw [typeIdentifiers_eq]
  refine ⟨preamble_eq (fun _ => Imports.names_ne_nil) config, ?_, ?_, ?_, hiff, ?_⟩
  · refine (rpcs_ofOrigins set hpairs).imp fun m r hr => ?_
    obtain ⟨q, -, ⟨hi, ho⟩, hinput, houtput⟩ := hr
    exact ⟨hinput.trans (TypeRef.origin_name hi), houtput.trans (TypeRef.origin_name ho)⟩
  · intro name
    exact Imports.mem_identifiers_iff.trans (exists_name_iff horigins)
  · intro t ht
    exact (h.qualified_of_declares (hdeclares t ht)).importedName
  · intro hdistinct
    refine hiff.2 fun t ht u hu hname => ?_
    -- Of one qualified name there is only one type, and one type has only one origin.
    have htypes : t.typeName = u.typeName := by
      by_contra hne
      exact hdistinct t ht u hu hne hname
    rw [(hdeclares t ht).eq_of_typeName (hdeclares u hu) htypes]

/-- A service whose types come from the runtime, from its own file and from another one. -/
def market : Document :=
  { files := [
      { name := "shop/order.proto"
        package := "shop"
        messages := .cons "Order" [] (.cons "Item" [] .nil .nil) .nil
        services := [⟨"Orders", [⟨"GetOrder", "common.Page", "Order", .unary⟩,
          ⟨"DropItem", "Order.Item", "google.protobuf.Empty", .unary⟩]⟩] },
      { name := "common/paging.proto", package := "common", messages := .cons "Page" [] .nil .nil }] }

def marketOrder : Message := ⟨"shop.Order", "Order", "shop/order.proto", []⟩

def marketItem : Message := ⟨"shop.Order.Item", "Item", "shop/order.proto", []⟩

def marketPage : Message := ⟨"common.Page", "Page", "common/paging.proto", []⟩

def marketService : Service :=
  ⟨"Orders", "shop", "shop/order.proto", [⟨"GetOrder", marketPage.ref, marketOrder.ref, .unary⟩,
    ⟨"DropItem", marketItem.ref, empty, .unary⟩]⟩

def marketFile : ProtoFile :=
  ⟨"shop/order.proto", "shop", [marketOrder, marketItem], [marketService]⟩

def marketSet : DescriptorSet :=
  { files := [marketFile, ⟨"common/paging.proto", "common", [marketPage], []⟩,
      ⟨"google/protobuf/empty.proto", "google.protobuf", [⟨empty.typeName, empty.name, empty.file, []⟩], []⟩] }

theorem nodup_typeIdentifiers_iff_market :
    marketSet.Loaded ∧ marketFile ∈ marketSet.files ∧ marketService ∈ marketFile.services ∧
      ∃ vm, ofService ["home"] marketSet {} marketService = .ok vm ∧
        (∀ name, name ∈ vm.typeIdentifiers {} ↔ ∃ t ∈ marketService.refs, t.importedName = name) ∧
        (vm.typeIdentifiers {}).Nodup := by
  have hload : marketSet.Loaded := .ofDocument (d := market) (by decide +kernel)
  have horigins : marketService.origins ["home"] {} =
      .ok [(.external "./gen/../common/paging_pb" "Page", .sameFile "Order"),
        (.sameFile "Item", .wellKnown "Empty")] := by
    decide +kernel
  have hvm := ofService_of_origins marketSet horigins
  obtain ⟨-, -, hnames, -, -, hnodup⟩ :=
    nodup_typeIdentifiers_iff hload (p := marketFile) (.head _) (.head _) hvm
  exact ⟨hload, .head _, .head _, _, hvm, hnames, hnodup (by decide +kernel)⟩

def till : Document :=
  { files := [
      { name := "shop.proto"
        package := "shop"
        messages := .cons "Empty" [] .nil .nil
        services := [⟨"Till", [⟨"Reset", "Empty", "google.protobuf.Empty", .unary⟩]⟩] }] }

def tillEmpty : Message := ⟨"shop.Empty", "Empty", "shop.proto", []⟩

def tillService : Service := ⟨"Till", "shop", "shop.proto", [⟨"Reset", tillEmpty.ref, empty, .unary⟩]⟩

def tillSet : DescriptorSet :=
  { files := [⟨"shop.proto", "shop", [tillEmpty], [tillService]⟩,
      ⟨"google/protobuf/empty.proto", "google.protobuf", [⟨empty.typeName, empty.name, empty.file, []⟩], []⟩] }

theorem not_nodup_typeIdentifiers_till :
    tillSet.Loaded ∧ tillSet.firstService? = some tillService ∧ tillEmpty.typeName ≠ empty.typeName ∧
      ∃ vm, ofService [] tillSet {} tillService = .ok vm ∧
        vm.rpcs.map (fun r => (r.inputType, r.outputType)) = [("Empty", "Empty")] ∧
        vm.typeImports {} = [("@bufbuild/protobuf", ["Empty"]), ("./gen/shop_pb", ["Empty"])] ∧
        ¬(vm.typeIdentifiers {}).Nodup := by
  have hload : tillSet.Loaded := .ofDocument (d := till) (by decide +kernel)
  have horigins : tillService.origins [] {} = .ok [(.sameFile "Empty", .wellKnown "Empty")] := by
    decide +kernel
  have hvm := ofService_of_origins tillSet horigins
  refine ⟨hload, by decide, by decide, _, hvm, rfl, by decide +kernel, ?_⟩
  decide +kernel

end ViewModel

end RpcBindings
