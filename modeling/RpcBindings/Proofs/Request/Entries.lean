import RpcBindings.Proofs.Request.Part
import RpcBindings.Proofs.Request.Wiring

namespace RpcBindings.Request

/-- The names of the declarations themselves, without those nested in them. -/
def Messages.outerNames (scope : String) : Messages → List String
  | .nil => []
  | .cons name _ _ _ rest => qualify scope (name.getD "") :: rest.outerNames scope

/-- The types that contain a type directly, each with the name of a type that it contains. -/
def Messages.contained (scope : String) : Messages → List (String × String)
  | .nil => []
  | .cons name _ _ nested rest =>
    let typeName := qualify scope (name.getD "")
    (nested.outerNames typeName).map (fun inner => (typeName, inner)) ++ nested.contained typeName ++
      rest.contained scope

def contained (r : Request) : List (String × String) := r.files.flatMap fun f => f.messages.contained f.packageText

def FieldDecl.refName (f : FieldDecl) : String := Text.dropLeading '.' (f.typeName.getD "")

/-- The field is of the type of the map entry. -/
structure FieldDecl.ReadsEntry (mapEntries : List String) (f : FieldDecl) (entry : String) : Prop where
  isMessage : f.isMessage = true
  refName : f.refName = entry
  mem : entry ∈ mapEntries

/-- Every field that is of the type of a map entry is declared in the type that contains the entry directly. -/
def EntriesInPlace (r : Request) : Prop :=
  ∀ d ∈ r.declared, d.2.isMessage = true → d.2.refName ∈ r.mapEntries → (d.1, d.2.refName) ∈ r.contained

instance (r : Request) : Decidable r.EntriesInPlace := inferInstanceAs (Decidable (∀ _ ∈ _, _))

theorem EntriesInPlace.contained_of_readsEntry {r : Request} (h : r.EntriesInPlace) {d : String × FieldDecl}
    (hd : d ∈ r.declared) {entry : String} (hreads : d.2.ReadsEntry r.mapEntries entry) :
    (d.1, entry) ∈ r.contained := by
  obtain ⟨hmessage, rfl, hentry⟩ := hreads
  exact h d hd hmessage hentry

/-- Once a field of a type has been declared, no field of a type within it is. -/
structure Ordered (names : List String) (declared : List (String × FieldDecl)) (contained : List (String × String)) :
    Prop where
  declared_mem : ∀ d ∈ declared, d.1 ∈ names
  contained_mem : ∀ p ∈ contained, p.1 ∈ names ∧ p.2 ∈ names
  contained_ne : ∀ p ∈ contained, p.1 ≠ p.2
  pairwise : declared.Pairwise fun a b => (a.1, b.1) ∉ contained

namespace Ordered

variable {names names' : List String} {declared declared' : List (String × FieldDecl)}
  {contained contained' : List (String × String)}

theorem nil : Ordered [] [] [] := ⟨nofun, nofun, nofun, .nil⟩

theorem append (h : Ordered names declared contained) (h' : Ordered names' declared' contained')
    (hdisjoint : List.Disjoint names names') :
    Ordered (names ++ names') (declared ++ declared') (contained ++ contained') := by
  refine ⟨fun d hd => ?_, fun p hp => ?_, fun p hp => ?_, List.pairwise_append.2 ⟨?_, ?_, ?_⟩⟩
  · exact List.mem_append.2 ((List.mem_append.1 hd).imp (h.declared_mem d) (h'.declared_mem d))
  · rcases List.mem_append.1 hp with hp | hp
    · exact (h.contained_mem p hp).imp (List.mem_append_left _) (List.mem_append_left _)
    · exact (h'.contained_mem p hp).imp (List.mem_append_right _) (List.mem_append_right _)
  · exact (List.mem_append.1 hp).elim (h.contained_ne p) (h'.contained_ne p)
  · refine h.pairwise.imp_of_mem fun {a b} ha _ hab => ?_
    rw [List.mem_append, not_or]
    exact ⟨hab, fun hp => hdisjoint (h.declared_mem a ha) (h'.contained_mem _ hp).1⟩
  · refine h'.pairwise.imp_of_mem fun {a b} ha _ hab => ?_
    rw [List.mem_append, not_or]
    exact ⟨fun hp => hdisjoint (h.contained_mem _ hp).1 (h'.declared_mem a ha), hab⟩
  · intro a ha b hb hp
    rcases List.mem_append.1 hp with hp | hp
    · exact hdisjoint (h.contained_mem _ hp).2 (h'.declared_mem b hb)
    · exact hdisjoint (h.declared_mem a ha) (h'.contained_mem _ hp).1

theorem enclose (h : Ordered names declared contained) {typeName : String} (hnew : typeName ∉ names)
    {inner : List String} (hinner : inner ⊆ names) (fields : List FieldDecl) :
    Ordered (typeName :: names) (declared ++ fields.map fun f => (typeName, f))
      (inner.map (fun n => (typeName, n)) ++ contained) := by
  have hfield {d : String × FieldDecl} (hd : d ∈ fields.map fun f => (typeName, f)) : d.1 = typeName := by
    obtain ⟨f, -, rfl⟩ := List.mem_map.1 hd
    rfl
  have hsecond {p : String × String} (hp : p ∈ inner.map (fun n => (typeName, n)) ++ contained) : p.2 ∈ names := by
    rcases List.mem_append.1 hp with hp | hp
    · obtain ⟨n, hn, rfl⟩ := List.mem_map.1 hp
      exact hinner hn
    · exact (h.contained_mem p hp).2
  refine ⟨fun d hd => ?_, fun p hp => ?_, fun p hp => ?_, List.pairwise_append.2 ⟨?_, ?_, ?_⟩⟩
  · rcases List.mem_append.1 hd with hd | hd
    · exact List.mem_cons_of_mem _ (h.declared_mem d hd)
    · rw [hfield hd]
      exact List.mem_cons_self
  · refine ⟨?_, List.mem_cons_of_mem _ (hsecond hp)⟩
    rcases List.mem_append.1 hp with hp | hp
    · obtain ⟨n, -, rfl⟩ := List.mem_map.1 hp
      exact List.mem_cons_self
    · exact List.mem_cons_of_mem _ (h.contained_mem p hp).1
  · rcases List.mem_append.1 hp with hp | hp
    · obtain ⟨n, hn, rfl⟩ := List.mem_map.1 hp
      rintro (heq : typeName = n)
      exact hnew (heq ▸ hinner hn)
    · exact h.contained_ne p hp
  · refine h.pairwise.imp_of_mem fun {a b} ha _ hab => ?_
    rw [List.mem_append, not_or]
    refine ⟨fun hp => ?_, hab⟩
    obtain ⟨n, -, heq⟩ := List.mem_map.1 hp
    rw [Prod.mk.injEq] at heq
    exact hnew (heq.1 ▸ h.declared_mem a ha)
  · exact List.pairwise_of_forall_mem_list fun a _ b hb hp => hnew (hfield hb ▸ hsecond hp)
  · exact fun a _ b hb hp => hnew (hfield hb ▸ hsecond hp)

end Ordered

variable {scope : String}

theorem Messages.outerNames_subset (file scope : String) (ms : Messages) :
    ms.outerNames scope ⊆ (ms.types file scope).map (·.typeName) := by
  induction ms with
  | nil => exact List.nil_subset _
  | cons name isMapEntry fields nested rest _ ih =>
    rw [outerNames, types, List.map_append, List.map_cons]
    exact List.cons_subset.2 ⟨List.mem_append_left _ List.mem_cons_self, fun n hn => List.mem_append_right _ (ih hn)⟩

theorem Messages.ordered {file : String} {ms : Messages} (h : ((ms.types file scope).map (·.typeName)).Nodup) :
    Ordered ((ms.types file scope).map (·.typeName)) (ms.declared scope) (ms.contained scope) := by
  induction ms generalizing scope with
  | nil => exact .nil
  | cons name isMapEntry fields nested rest ihnested ihrest =>
    rw [types, List.map_append, List.map_cons] at h ⊢
    obtain ⟨hfirst, hrest, hdisjoint⟩ := List.nodup_append'.1 h
    obtain ⟨hnew, hnested⟩ := List.nodup_cons.1 hfirst
    have houter := outerNames_subset file (qualify scope (name.getD "")) nested
    exact ((ihnested hnested).enclose hnew houter fields).append (ihrest hrest) hdisjoint

theorem files_ordered {files : List FileDecl} (h : ((files.flatMap (·.types)).map (·.typeName)).Nodup) :
    Ordered ((files.flatMap (·.types)).map (·.typeName)) (files.flatMap (·.declared))
      (files.flatMap fun f => f.messages.contained f.packageText) := by
  induction files with
  | nil => exact .nil
  | cons f rest ih =>
    rw [List.flatMap_cons, List.map_append] at h
    obtain ⟨hf, hrest, hdisjoint⟩ := List.nodup_append'.1 h
    rw [List.flatMap_cons, List.map_append, List.flatMap_cons, List.flatMap_cons]
    exact (Messages.ordered hf).append (ih hrest) hdisjoint

variable {types : List TypeRef} {mapEntries : List String} {wired wired' : Wired}

/-- A field depends on the fields added before only through the map entry that it reads. -/
theorem wireField_congr {f : FieldDecl}
    (h : ∀ entry, f.ReadsEntry mapEntries entry → wired.fieldsOf entry = wired'.fieldsOf entry) :
    wireField types mapEntries wired f = wireField types mapEntries wired' f := by
  rw [wireField, wireField]
  cases hm : f.isMessage with
  | false => rfl
  | true =>
    rw [if_pos rfl, if_pos rfl]
    cases ht : lookup types (f.typeName.getD "") with
    | error e => rfl
    | ok t =>
      by_cases hentry : t.typeName ∈ mapEntries
      · have hreads : f.ReadsEntry mapEntries t.typeName := ⟨hm, (lookup_mem ht).2.symm, hentry⟩
        have hvalue : wired.valueTarget t.typeName = wired'.valueTarget t.typeName := by
          rw [Wired.valueTarget, Wired.valueTarget, h _ hreads]
        simp only [bind, Except.bind, if_pos hentry, hvalue]
      · simp only [bind, Except.bind, if_neg hentry]

/-- The field is the one that the declaration gives when everything has been added. -/
def FinallyFrom (types : List TypeRef) (mapEntries : List String) (wired : Wired) (d : String × FieldDecl)
    (p : String × Field) : Prop :=
  p.1 = d.1 ∧ wireField types mapEntries wired d.2 = .ok p.2

theorem Wired.fieldsOf_eq_nil {n : String} (h : ∀ p ∈ wired, p.1 ≠ n) : wired.fieldsOf n = [] :=
  List.filterMap_eq_nil_iff.2 fun p hp => if_neg (h p hp)

/-- Where no field of an entry is added after a field that reads the entry, every field is as it would be at the
end. -/
theorem foldlM_addField_finally {ds : List (String × FieldDecl)}
    (hself : ∀ d ∈ ds, ¬d.2.ReadsEntry mapEntries d.1)
    (hlater : ds.Pairwise fun a b => ¬a.2.ReadsEntry mapEntries b.1)
    (h : ds.foldlM (addField types mapEntries) wired = .ok wired') :
    ∃ added, wired' = wired ++ added ∧ List.Forall₂ (FinallyFrom types mapEntries wired') ds added := by
  induction ds generalizing wired with
  | nil =>
    cases h
    exact ⟨[], (List.append_nil _).symm, .nil⟩
  | cons d rest ih =>
    obtain ⟨hd, hself⟩ := List.forall_mem_cons.1 hself
    obtain ⟨hafter, hlater⟩ := List.pairwise_cons.1 hlater
    obtain ⟨w, hw, h⟩ := bind_eq_ok.1 h
    obtain ⟨g, hg, hw⟩ := bind_eq_ok.1 hw
    cases pure_eq_ok.1 hw
    obtain ⟨added, rfl, hadded⟩ := ih hself hlater h
    have hsame (entry : String) (hreads : d.2.ReadsEntry mapEntries entry) :
        wired.fieldsOf entry = Wired.fieldsOf (wired ++ [(d.1, g)] ++ added) entry := by
      have hnew : Wired.fieldsOf ((d.1, g) :: added) entry = [] := by
        refine Wired.fieldsOf_eq_nil (List.forall_mem_cons.2 ⟨?_, fun p hp heq => ?_⟩)
        · rintro rfl
          exact hd hreads
        · obtain ⟨b, hb, hname, -⟩ := exists_of_forall₂ hadded hp
          exact hafter b hb (hname ▸ heq ▸ hreads)
      rw [List.append_assoc, List.singleton_append, Wired.fieldsOf_append, hnew, List.append_nil]
    refine ⟨(d.1, g) :: added, by rw [List.append_assoc, List.singleton_append], .cons ⟨rfl, ?_⟩ hadded⟩
    rw [← wireField_congr hsame, hg]

end RpcBindings.Request
