import Mathlib.Data.List.Induction
import Mathlib.Data.List.Nodup
import RpcBindings.Proofs.Sequence
import RpcBindings.ViewModel

namespace RpcBindings

section

variable [DecidableEq α]

theorem insertNew_of_mem {xs : List α} {a : α} (h : a ∈ xs) : insertNew a xs = xs := if_pos h

theorem insertNew_of_not_mem {xs : List α} {a : α} (h : a ∉ xs) : insertNew a xs = xs ++ [a] := if_neg h

theorem eraseDups_append_singleton (xs : List α) (a : α) :
    (xs ++ [a]).eraseDups = insertNew a xs.eraseDups := by
  rw [List.eraseDups_append]
  by_cases h : a ∈ xs
  · rw [insertNew_of_mem (List.mem_eraseDups.2 h)]
    simp [List.removeAll, h]
  · rw [insertNew_of_not_mem (mt List.mem_eraseDups.1 h)]
    simp [List.removeAll, h, List.eraseDups_cons]

theorem nodup_eraseDups (xs : List α) : xs.eraseDups.Nodup := by
  induction xs using List.reverseRecOn with
  | nil => exact List.nodup_nil
  | append_singleton xs a ih =>
    rw [eraseDups_append_singleton]
    by_cases h : a ∈ xs.eraseDups
    · rw [insertNew_of_mem h]
      exact ih
    · rw [insertNew_of_not_mem h, ← List.concat_eq_append, List.nodup_concat]
      exact ⟨h, ih⟩

end

namespace Imports

def namesUnder (uses : List (String × String)) (path : String) : List String :=
  ((uses.filter (·.1 = path)).map (·.2)).eraseDups

def byPath (uses : List (String × String)) : List (String × List String) :=
  (uses.map (·.1)).eraseDups.map fun path => (path, namesUnder uses path)

variable {uses : List (String × String)} {path name : String}

theorem mem_namesUnder : name ∈ namesUnder uses path ↔ (path, name) ∈ uses := by
  rw [namesUnder, List.mem_eraseDups]
  simp

theorem namesUnder_append_self :
    namesUnder (uses ++ [(path, name)]) path = insertNew name (namesUnder uses path) := by
  simp only [namesUnder, List.filter_append, List.map_append]
  simp [eraseDups_append_singleton]

theorem namesUnder_append_other {other : String} (h : path ≠ other) :
    namesUnder (uses ++ [(path, name)]) other = namesUnder uses other := by
  simp [namesUnder, List.filter_append, h]

theorem insertExternal_of_mem {paths : List String} (hn : paths.Nodup) {names : String → List String}
    (hp : path ∈ paths) : insertExternal path name (paths.map fun p => (p, names p)) =
      paths.map fun p => (p, if p = path then insertNew name (names p) else names p) := by
  induction paths with
  | nil => cases hp
  | cons p rest ih =>
    obtain ⟨hnew, hn⟩ := List.nodup_cons.1 hn
    rw [List.map_cons, List.map_cons, insertExternal]
    by_cases h : p = path
    · rw [if_pos h, if_pos h]
      congr 1
      refine List.map_congr_left fun q hq => ?_
      rw [if_neg (by rintro rfl; exact hnew (h ▸ hq))]
    · rw [if_neg h, if_neg h, ih hn ((List.mem_cons.1 hp).resolve_left fun heq => h heq.symm)]

theorem insertExternal_of_not_mem {paths : List String} {names : String → List String}
    (hp : path ∉ paths) : insertExternal path name (paths.map fun p => (p, names p)) =
      paths.map (fun p => (p, names p)) ++ [(path, [name])] := by
  induction paths with
  | nil => rfl
  | cons p rest ih =>
    rw [List.mem_cons, not_or] at hp
    obtain ⟨hne, hp⟩ := hp
    rw [List.map_cons, insertExternal, if_neg (Ne.symm hne), ih hp]
    rfl

/-- One more use is added to the names of its path, or behind all paths if the path is new. -/
theorem byPath_append (uses : List (String × String)) (path name : String) :
    byPath (uses ++ [(path, name)]) = insertExternal path name (byPath uses) := by
  have hpaths : ((uses ++ [(path, name)]).map (·.1)).eraseDups =
      insertNew path (uses.map (·.1)).eraseDups := by
    rw [List.map_append]
    exact eraseDups_append_singleton _ path
  rw [byPath, byPath, hpaths]
  by_cases h : path ∈ (uses.map (·.1)).eraseDups
  · rw [insertNew_of_mem h, insertExternal_of_mem (nodup_eraseDups _) h]
    refine List.map_congr_left fun p hp => ?_
    by_cases heq : p = path
    · rw [if_pos heq, heq, namesUnder_append_self]
    · rw [if_neg heq, namesUnder_append_other (Ne.symm heq)]
  · rw [insertNew_of_not_mem h, insertExternal_of_not_mem h, List.map_append]
    congr 1
    · refine List.map_congr_left fun p hp => ?_
      rw [namesUnder_append_other (by rintro rfl; exact h hp)]
    · have hnone : namesUnder uses path = [] := by
        refine List.eq_nil_iff_forall_not_mem.2 fun n hn => h ?_
        exact List.mem_eraseDups.2 (List.mem_map_of_mem (mem_namesUnder.1 hn))
      rw [List.map_singleton, namesUnder_append_self, hnone]
      rfl

theorem byPath_append_of_mem (h : (path, name) ∈ uses) : byPath (uses ++ [(path, name)]) = byPath uses := by
  have hpath : path ∈ (uses.map (·.1)).eraseDups := List.mem_eraseDups.2 (List.mem_map.2 ⟨_, h, rfl⟩)
  rw [byPath_append, byPath, insertExternal_of_mem (nodup_eraseDups _) hpath]
  refine List.map_congr_left fun p _ => ?_
  by_cases heq : p = path
  · rw [if_pos heq, heq, insertNew_of_mem (mem_namesUnder.2 h)]
  · rw [if_neg heq]

/-- A name stands under a path exactly if it is used there. -/
theorem mem_byPath : (∃ names, (path, names) ∈ byPath uses ∧ name ∈ names) ↔ (path, name) ∈ uses := by
  constructor
  · rintro ⟨names, hnames, hname⟩
    obtain ⟨p, -, heq⟩ := List.mem_map.1 hnames
    cases heq
    exact mem_namesUnder.1 hname
  · intro h
    have hpath : path ∈ (uses.map (·.1)).eraseDups := List.mem_eraseDups.2 (List.mem_map.2 ⟨_, h, rfl⟩)
    exact ⟨_, List.mem_map.2 ⟨path, hpath, rfl⟩, mem_namesUnder.2 h⟩

end Imports

def Origin.wellKnown? : Origin → Option String
  | wellKnown name => some name
  | _ => none

def Origin.sameFile? : Origin → Option String
  | sameFile name => some name
  | _ => none

def Origin.external? : Origin → Option (String × String)
  | external path name => some (path, name)
  | _ => none

theorem Origin.wellKnown?_eq_some {o : Origin} {name : String} :
    o.wellKnown? = some name ↔ o = .wellKnown name := by
  cases o <;> simp [wellKnown?]

theorem Origin.sameFile?_eq_some {o : Origin} {name : String} :
    o.sameFile? = some name ↔ o = .sameFile name := by
  cases o <;> simp [sameFile?]

theorem Origin.external?_eq_some {o : Origin} {path name : String} :
    o.external? = some (path, name) ↔ o = .external path name := by
  cases o <;> simp [external?]

namespace Imports

variable {os : List Origin} {o : Origin}

theorem ofOrigins_append (os : List Origin) (o : Origin) :
    ofOrigins (os ++ [o]) = (ofOrigins os).insert o := by
  rw [ofOrigins, ofOrigins, List.foldl_append]
  rfl

theorem ofOrigins_eq (os : List Origin) : ofOrigins os =
    { wellKnown := (os.filterMap Origin.wellKnown?).eraseDups
      sameFile := (os.filterMap Origin.sameFile?).eraseDups
      external := byPath (os.filterMap Origin.external?) } := by
  induction os using List.reverseRecOn with
  | nil => rfl
  | append_singleton os o ih =>
    rw [ofOrigins_append, ih, List.filterMap_append, List.filterMap_append, List.filterMap_append]
    cases o <;> simp only [insert, List.filterMap_cons, List.filterMap_nil, Origin.wellKnown?,
      Origin.sameFile?, Origin.external?, List.append_nil, eraseDups_append_singleton, byPath_append]

def Holds (i : Imports) : Origin → Prop
  | .wellKnown name => name ∈ i.wellKnown
  | .sameFile name => name ∈ i.sameFile
  | .external path name => ∃ names, (path, names) ∈ i.external ∧ name ∈ names

theorem holds_ofOrigins : (ofOrigins os).Holds o ↔ o ∈ os := by
  rw [ofOrigins_eq]
  cases o with
  | wellKnown name =>
    rw [Holds, List.mem_eraseDups, List.mem_filterMap]
    simp only [Origin.wellKnown?_eq_some, exists_eq_right]
  | sameFile name =>
    rw [Holds, List.mem_eraseDups, List.mem_filterMap]
    simp only [Origin.sameFile?_eq_some, exists_eq_right]
  | external path name =>
    rw [Holds, mem_byPath, List.mem_filterMap]
    simp only [Origin.external?_eq_some, exists_eq_right]

/-- An origin that is there already changes nothing. -/
theorem insert_ofOrigins_of_mem (h : o ∈ os) : (ofOrigins os).insert o = ofOrigins os := by
  have hheld : (ofOrigins os).Holds o := holds_ofOrigins.2 h
  cases o with
  | wellKnown name => rw [insert, insertNew_of_mem hheld]
  | sameFile name => rw [insert, insertNew_of_mem hheld]
  | external path name =>
    have huse : (path, name) ∈ os.filterMap Origin.external? := List.mem_filterMap.2 ⟨_, h, rfl⟩
    rw [ofOrigins_eq, insert, ← byPath_append, byPath_append_of_mem huse]

end Imports

def TypeRef.runtimeName? (t : TypeRef) : Option String := (wellKnown? t.typeName).map (·.name)

def TypeRef.isOwn (owner : String) (t : TypeRef) : Bool := (wellKnown? t.typeName).isNone && t.file == owner

/-- A type from another file that is not well-known. -/
def TypeRef.isForeign (owner : String) (t : TypeRef) : Bool :=
  (wellKnown? t.typeName).isNone && t.file != owner

variable {cwd : List String} {config : Config} {owner : String}

theorem TypeRef.origin_cases {t : TypeRef} {o : Origin} (h : t.origin cwd config owner = .ok o) :
    (∃ known, wellKnown? t.typeName = some known ∧ o = .wellKnown known.name) ∨
      (wellKnown? t.typeName = none ∧ t.file = owner ∧ o = .sameFile t.name) ∨
      (wellKnown? t.typeName = none ∧ t.file ≠ owner ∧
        ∃ path, externalPath cwd config owner t.file = .ok path ∧ o = .external path t.name) := by
  rw [TypeRef.origin] at h
  split at h
  · rename_i known hknown
    cases h
    exact .inl ⟨known, hknown, rfl⟩
  · rename_i hknown
    split at h
    · rename_i hfile
      cases h
      exact .inr (.inl ⟨hknown, hfile, rfl⟩)
    · rename_i hfile
      obtain ⟨path, hpath, rfl⟩ := map_eq_ok.1 h
      exact .inr (.inr ⟨hknown, hfile, path, hpath, rfl⟩)

theorem uses_of_origins {refs : List TypeRef} {os : List Origin}
    (h : List.Forall₂ (fun t o => t.origin cwd config owner = .ok o) refs os) :
    os.filterMap Origin.wellKnown? = refs.filterMap TypeRef.runtimeName? ∧
      os.filterMap Origin.sameFile? = (refs.filter (·.isOwn owner)).map (·.name) ∧
      List.Forall₂ (fun t use => externalPath cwd config owner t.file = .ok use.1 ∧ use.2 = t.name)
        (refs.filter (·.isForeign owner)) (os.filterMap Origin.external?) := by
  induction h with
  | nil => exact ⟨rfl, rfl, .nil⟩
  | @cons t o refs os ho _ ih =>
    obtain ⟨hwellKnown, hown, hforeign⟩ := ih
    rcases TypeRef.origin_cases ho with ⟨known, hknown, rfl⟩ | ⟨hknown, hfile, rfl⟩ |
      ⟨hknown, hfile, path, hpath, rfl⟩
    · have hname : t.runtimeName? = some known.name := congrArg _ hknown
      rw [List.filterMap_cons_some hname, List.filter_cons_of_neg (by simp [TypeRef.isOwn, hknown]),
        List.filter_cons_of_neg (by simp [TypeRef.isForeign, hknown]), ← hwellKnown]
      exact ⟨rfl, hown, hforeign⟩
    · have hname : t.runtimeName? = none := congrArg _ hknown
      rw [List.filterMap_cons_none hname, List.filter_cons_of_pos (by simp [TypeRef.isOwn, hknown, hfile]),
        List.filter_cons_of_neg (by simp [TypeRef.isForeign, hfile]), List.map_cons, ← hown]
      exact ⟨hwellKnown, rfl, hforeign⟩
    · have hname : t.runtimeName? = none := congrArg _ hknown
      rw [List.filterMap_cons_none hname, List.filter_cons_of_neg (by simp [TypeRef.isOwn, hfile]),
        List.filter_cons_of_pos (by simp [TypeRef.isForeign, hknown, hfile])]
      exact ⟨hwellKnown, hown, .cons ⟨hpath, rfl⟩ hforeign⟩

/-- The types that the methods refer to, the input of each before its output. -/
def Service.refs (s : Service) : List TypeRef := s.methods.flatMap fun m => [m.input, m.output]

def Method.HasOrigins (cwd : List String) (config : Config) (owner : String) (m : Method)
    (p : Origin × Origin) : Prop :=
  m.input.origin cwd config owner = .ok p.1 ∧ m.output.origin cwd config owner = .ok p.2

theorem Service.origins_eq_ok {s : Service} {pairs : List (Origin × Origin)}
    (h : s.origins cwd config = .ok pairs) :
    List.Forall₂ (Method.HasOrigins cwd config s.file) s.methods pairs := by
  refine (forall₂_of_mapM_eq_ok h).imp fun m p hp => ?_
  obtain ⟨i, hi, hp⟩ := bind_eq_ok.1 hp
  obtain ⟨o, ho, hp⟩ := bind_eq_ok.1 hp
  cases pure_eq_ok.1 hp
  exact ⟨hi, ho⟩

theorem Imports.insert_again {seen : List TypeRef} {os : List Origin}
    (hos : seen.mapM (·.origin cwd config owner) = .ok os) {t : TypeRef} (ht : t ∈ seen) {o : Origin}
    (ho : t.origin cwd config owner = .ok o) : (ofOrigins os).insert o = ofOrigins os := by
  obtain ⟨o', hmem, ho'⟩ := exists_of_forall₂ (forall₂_of_mapM_eq_ok hos).flip ht
  have heq : Except.ok o' = Except.ok o := ho'.symm.trans ho
  cases heq
  exact insert_ofOrigins_of_mem hmem

namespace ViewModel

variable {set : DescriptorSet} {s : Service} {vm : ViewModel} {pairs : List (Origin × Origin)} {o : Origin}

theorem ofService_eq_ok (h : ofService cwd set config s = .ok vm) :
    ∃ pairs, List.Forall₂ (Method.HasOrigins cwd config s.file) s.methods pairs ∧
      vm = ofOrigins set config s pairs := by
  obtain ⟨pairs, hpairs, rfl⟩ := map_eq_ok.1 h
  exact ⟨pairs, Service.origins_eq_ok hpairs, rfl⟩

theorem ofService_of_origins (set : DescriptorSet) (h : s.origins cwd config = .ok pairs) :
    ofService cwd set config s = .ok (ofOrigins set config s pairs) := by
  rw [ofService, h]
  rfl

theorem holds_imports_ofOrigins :
    (ofOrigins set config s pairs).imports.Holds o ↔ ∃ p ∈ pairs, o = p.1 ∨ o = p.2 := by
  refine Imports.holds_ofOrigins.trans (List.mem_flatMap.trans ?_)
  simp

theorem rpcs_ofOrigins (set : DescriptorSet)
    (h : List.Forall₂ (Method.HasOrigins cwd config s.file) s.methods pairs) :
    List.Forall₂ (fun m r => ∃ p ∈ pairs, m.HasOrigins cwd config s.file p ∧ r.inputType = p.1.name ∧
      r.outputType = p.2.name) s.methods (ofOrigins set config s pairs).rpcs := by
  have hmem := ((List.forall₂_and_left _ _).2 ⟨fun p hp => hp, h.flip⟩).flip
  refine forall₂_map_zip hmem fun m p hmp => ?_
  exact ⟨p, hmp.1, hmp.2, rfl, rfl⟩

theorem exists_rpc_of_holds (h : List.Forall₂ (Method.HasOrigins cwd config s.file) s.methods pairs)
    (ho : (ofOrigins set config s pairs).imports.Holds o) :
    ∃ r ∈ (ofOrigins set config s pairs).rpcs, r.inputType = o.name ∨ r.outputType = o.name := by
  obtain ⟨p, hp, heq⟩ := holds_imports_ofOrigins.1 ho
  obtain ⟨m, hm, hi, ho⟩ := exists_of_forall₂ h hp
  obtain ⟨r, hr, q, -, ⟨hi', ho'⟩, hinput, houtput⟩ := exists_of_forall₂ (rpcs_ofOrigins set h).flip hm
  have hfirst : q.1 = p.1 := Except.ok.inj (hi'.symm.trans hi)
  have hsecond : q.2 = p.2 := Except.ok.inj (ho'.symm.trans ho)
  rcases heq with rfl | rfl
  · exact ⟨r, hr, .inl (hfirst ▸ hinput)⟩
  · exact ⟨r, hr, .inr (hsecond ▸ houtput)⟩

/-- The imports of a service are exact. Each of the three lists holds what the references of its kind use,
in the order of first use; each method has the names that were imported for it, and there are no others;
and a reference that has been followed once changes nothing when it is followed again. -/
theorem imports_exact (h : ofService cwd set config s = .ok vm) :
    vm.imports.wellKnown = (s.refs.filterMap TypeRef.runtimeName?).eraseDups ∧
      vm.imports.sameFile = ((s.refs.filter (·.isOwn s.file)).map (·.name)).eraseDups ∧
      (∃ uses, vm.imports.external = Imports.byPath uses ∧
        List.Forall₂ (fun t use => externalPath cwd config s.file t.file = .ok use.1 ∧ use.2 = t.name)
          (s.refs.filter (·.isForeign s.file)) uses) ∧
      List.Forall₂ (fun m r => ∃ input output, m.input.origin cwd config s.file = .ok input ∧
        m.output.origin cwd config s.file = .ok output ∧ r.inputType = input.name ∧
        r.outputType = output.name ∧ vm.imports.Holds input ∧ vm.imports.Holds output) s.methods vm.rpcs ∧
      (∀ o, vm.imports.Holds o → ∃ r ∈ vm.rpcs, r.inputType = o.name ∨ r.outputType = o.name) ∧
      ∀ (seen : List TypeRef) (os : List Origin), seen.mapM (·.origin cwd config s.file) = .ok os →
        ∀ t ∈ seen, ∀ o, t.origin cwd config s.file = .ok o →
          (Imports.ofOrigins os).insert o = Imports.ofOrigins os := by
  obtain ⟨pairs, hpairs, rfl⟩ := ofService_eq_ok h
  have horigins : List.Forall₂ (fun t o => t.origin cwd config s.file = .ok o) s.refs
      (pairs.flatMap fun p => [p.1, p.2]) :=
    List.rel_flatMap hpairs fun m p hmp => .cons hmp.1 (.cons hmp.2 .nil)
  have himports : (ofOrigins set config s pairs).imports = _ := Imports.ofOrigins_eq _
  obtain ⟨hwellKnown, hown, hforeign⟩ := uses_of_origins horigins
  rw [hwellKnown, hown] at himports
  refine ⟨congrArg _ himports, congrArg _ himports, ⟨_, congrArg _ himports, hforeign⟩, ?_, ?_, ?_⟩
  · refine (rpcs_ofOrigins set hpairs).imp fun m r hr => ?_
    obtain ⟨p, hp, ⟨hi, ho⟩, hinput, houtput⟩ := hr
    refine ⟨p.1, p.2, hi, ho, hinput, houtput, ?_, ?_⟩
    · exact holds_imports_ofOrigins.2 ⟨p, hp, .inl rfl⟩
    · exact holds_imports_ofOrigins.2 ⟨p, hp, .inr rfl⟩
  · intro o ho
    exact exists_rpc_of_holds hpairs ho
  · intro seen os hos t ht o ho
    exact Imports.insert_again hos ht ho

def empty : TypeRef := ⟨"google.protobuf.Empty", "Empty", "google/protobuf/empty.proto"⟩

def order : TypeRef := ⟨"shop.Order", "Order", "shop/order.proto"⟩

def page : TypeRef := ⟨"common.Page", "Page", "common/paging.proto"⟩

def size : TypeRef := ⟨"common.Size", "Size", "common/paging.proto"⟩

def orders : Service :=
  ⟨"Orders", "shop", "shop/order.proto", [⟨"GetOrder", order, empty, .unary⟩,
    ⟨"ListOrders", page, order, .unary⟩, ⟨"WatchOrders", empty, size, .serverStreaming⟩,
    ⟨"UndoOrder", page, empty, .unary⟩]⟩

def ordersOrigins : List (Origin × Origin) :=
  [(.sameFile "Order", .wellKnown "Empty"),
    (.external "./gen/../common/paging_pb" "Page", .sameFile "Order"),
    (.wellKnown "Empty", .external "./gen/../common/paging_pb" "Size"),
    (.external "./gen/../common/paging_pb" "Page", .wellKnown "Empty")]

theorem imports_exact_orders :
    ∃ vm, ofService ["home"] {} {} orders = .ok vm ∧
      vm.imports = { wellKnown := ["Empty"]
                     sameFile := ["Order"]
                     external := [("./gen/../common/paging_pb", ["Page", "Size"])] } ∧
      vm.imports.wellKnown = (orders.refs.filterMap TypeRef.runtimeName?).eraseDups ∧
      vm.imports.sameFile = ((orders.refs.filter (·.isOwn "shop/order.proto")).map (·.name)).eraseDups ∧
      ∀ o, vm.imports.Holds o → ∃ r ∈ vm.rpcs, r.inputType = o.name ∨ r.outputType = o.name := by
  have horigins : orders.origins ["home"] {} = .ok ordersOrigins := by decide +kernel
  have h : ofService ["home"] {} {} orders = .ok (ofOrigins {} {} orders ordersOrigins) := by
    rw [ofService, horigins]
    rfl
  obtain ⟨hwellKnown, hown, -, -, hused, -⟩ := imports_exact h
  exact ⟨_, h, by decide +kernel, hwellKnown, hown, hused⟩

end ViewModel

end RpcBindings
