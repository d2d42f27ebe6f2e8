import RpcBindings.Imports
import RpcBindings.Proofs.Document.Wiring

namespace RpcBindings.Document

def FieldDecl.reference? (typeName : String) (f : FieldDecl) : Option (String × String) :=
  if f.type.getD "" = "" then none else some (typeName, f.type.getD "")

/-- The references in the fields of declarations, each with the scope in which it is looked up. -/
def Messages.references (scope : String) : Messages → List (String × String)
  | .nil => []
  | .cons name fields nested rest =>
    fields.filterMap (FieldDecl.reference? (qualify scope name)) ++
      nested.references (qualify scope name) ++ rest.references scope

def ServiceDecl.references (package : String) (s : ServiceDecl) : List (String × String) :=
  s.methods.flatMap fun m => [(package, m.input), (package, m.output)]

def FileDecl.references (f : FileDecl) : List (String × String) :=
  f.messages.references f.package ++ f.services.flatMap (·.references f.package)

def references (d : Document) : List (String × String) := d.files.flatMap (·.references)

/-- The well-known types that a reference of the document gives the full name of. -/
def namedWellKnown (d : Document) : List TypeRef :=
  wellKnownTypes.filter fun t => d.references.any fun r => bareRef r.2 == t.typeName

/-- In its scope, the reference finds the same type with and without the types in `named`; if it finds none
without them, it has the full name of a well-known type or finds none at all. -/
def Settled (declared named : List TypeRef) (r : String × String) : Prop :=
  lookup? (declared ++ named) r.1 r.2 = (lookup? declared r.1 r.2).or (wellKnown? (bareRef r.2))

instance (declared named : List TypeRef) (r : String × String) : Decidable (Settled declared named r) :=
  inferInstanceAs (Decidable (_ = _))

def AllSettled (d : Document) : Prop := ∀ r ∈ d.references, Settled d.types d.namedWellKnown r

instance (d : Document) : Decidable d.AllSettled := inferInstanceAs (Decidable (∀ _ ∈ _, _))

theorem qualify_ne_self {scope : String} (h : scope ≠ "") (name : String) : qualify scope name ≠ name := by
  rw [qualify, if_neg h]
  intro heq
  have hlength := congrArg String.length heq
  have hdot : (".".length : Nat) = 1 := rfl
  simp only [String.length_append] at hlength
  omega

theorem intercalate_take_ne_empty {parts : List String} {k : Nat} (hk : k ≠ 0) (hlt : k < parts.length) :
    ".".intercalate (parts.take (k + 1)) ≠ "" := by
  obtain ⟨k, rfl⟩ := Nat.exists_eq_succ_of_ne_zero hk
  match parts, hlt with
  | a :: b :: rest, _ =>
    rw [List.take_succ_cons, List.take_succ_cons, String.intercalate_cons_cons]
    intro heq
    have hlength := congrArg String.length heq
    have hdot : (".".length : Nat) = 1 := rfl
    simp only [String.length_append, String.length_empty] at hlength
    omega

/-- Once the name itself is looked up, no other name is. -/
theorem candidates_pairwise (scope ref : String) :
    (candidates scope ref).Pairwise fun a c => a = bareRef ref → c = bareRef ref := by
  rw [candidates]
  split
  · exact List.pairwise_singleton ..
  · rename_i hdot
    have hbare : bareRef ref = ref := Text.dropLeading_eq_self (by simpa using hdot)
    rw [hbare, List.pairwise_append]
    refine ⟨?_, List.pairwise_singleton .., ?_⟩
    · split
      · exact .nil
      · rw [enclosing, List.pairwise_map, List.pairwise_reverse]
        refine List.pairwise_lt_range.imp_of_mem ?_
        intro j k _ hk hjk heq
        have hne := intercalate_take_ne_empty (Nat.ne_zero_of_lt hjk) (List.mem_range.1 hk)
        exact absurd heq (qualify_ne_self hne ref)
    · intro a _ c hc _
      exact List.mem_singleton.1 hc

/-- What a table does not find, no smaller table finds. -/
theorem eq_none_of_below {found found' : Option α} (h : ∀ t, found = some t → found' = some t)
    (hnone : found' = none) : found = none := by
  cases found with
  | none => rfl
  | some t =>
    rw [h t rfl] at hnone
    cases hnone

theorem findSome?_between {f g h : κ → Option α} {key : α → κ} (hfh : ∀ c t, f c = some t → h c = some t)
    (hhg : ∀ c t, h c = some t → g c = some t) (hkey : ∀ c t, g c = some t → key t = c) {cs : List κ}
    {t : α} (hf : cs.findSome? f = some t) (hg : cs.findSome? g = some t) : cs.findSome? h = some t := by
  induction cs with
  | nil => cases hf
  | cons c rest ih =>
    cases hc : g c with
    | some u =>
      rw [List.findSome?_cons, hc] at hg
      cases hg
      obtain ⟨k, -, hk⟩ := List.exists_of_findSome?_eq_some hf
      have hkc : k = c := (hkey k t (hhg k t (hfh k t hk))).symm.trans (hkey c t hc)
      rw [List.findSome?_cons, ← hkc, hfh k t hk]
    | none =>
      have hhc : h c = none := eq_none_of_below (hhg c) hc
      have hfc : f c = none := eq_none_of_below (hfh c) hhc
      rw [List.findSome?_cons, hfc] at hf
      rw [List.findSome?_cons, hc] at hg
      rw [List.findSome?_cons, hhc]
      exact ih hf hg

/-- A smaller table finds the same type first or none, if that type has the name after which no other name
is looked up. -/
theorem findSome?_below {g h : κ → Option α} {key : α → κ} (hhg : ∀ c t, h c = some t → g c = some t)
    (hkey : ∀ c t, g c = some t → key t = c) {cs : List κ} {t : α}
    (hcs : cs.Pairwise fun a c => a = key t → c = key t) (hg : cs.findSome? g = some t) :
    cs.findSome? h = none ∨ cs.findSome? h = some t := by
  induction cs with
  | nil => cases hg
  | cons c rest ih =>
    obtain ⟨hc, hrest⟩ := List.pairwise_cons.1 hcs
    cases hgc : g c with
    | none =>
      have hhc : h c = none := eq_none_of_below (hhg c) hgc
      rw [List.findSome?_cons, hgc] at hg
      rw [List.findSome?_cons, hhc]
      exact ih hrest hg
    | some u =>
      rw [List.findSome?_cons, hgc] at hg
      cases hg
      cases hhc : h c with
      | some v =>
        have hv := hhg c v hhc
        rw [hgc] at hv
        cases hv
        exact .inr (by rw [List.findSome?_cons, hhc])
      | none =>
        refine .inl (List.findSome?_eq_none_iff.2 fun k hk => ?_)
        rcases List.mem_cons.1 hk with rfl | hk
        · exact hhc
        · rw [hc k hk (hkey c t hgc).symm, hkey c t hgc]
          exact hhc

variable {declared named added : List TypeRef}

theorem wellKnown_injective :
    ∀ t ∈ wellKnownTypes, ∀ u ∈ wellKnownTypes, t.typeName = u.typeName → t = u := by
  decide

theorem find?_of_mem_named (hn : named ⊆ wellKnownTypes) {t : TypeRef} (ht : t ∈ named) :
    named.find? (·.typeName == t.typeName) = some t :=
  find?_eq_some_of_unique ht fun u hu hname => wellKnown_injective u (hn hu) t (hn ht) hname

theorem find?_append_left {n : String} {t : TypeRef} (h : declared.find? (·.typeName == n) = some t)
    (more : List TypeRef) : (declared ++ more).find? (·.typeName == n) = some t := by
  rw [List.find?_append, h]
  rfl

theorem find?_append_mono (hn : named ⊆ wellKnownTypes) (ha : added ⊆ named) {n : String} {t : TypeRef}
    (h : (declared ++ added).find? (·.typeName == n) = some t) :
    (declared ++ named).find? (·.typeName == n) = some t := by
  rw [List.find?_append] at h ⊢
  cases hd : declared.find? (·.typeName == n) with
  | some u =>
    rw [hd] at h
    exact h
  | none =>
    rw [hd, Option.none_or] at h
    rw [Option.none_or]
    have htn : t.typeName = n := by simpa using List.find?_some h
    rw [← htn]
    exact find?_of_mem_named hn (ha (List.mem_of_find?_eq_some h))

/-- A settled reference stays settled whatever has been added. -/
theorem Settled.same_added {scope ref : String} (h : Settled declared named (scope, ref))
    (hn : named ⊆ wellKnownTypes) (ha : added ⊆ named) :
    lookup? (declared ++ named) scope ref =
      (lookup? (declared ++ added) scope ref).or (wellKnown? (bareRef ref)) := by
  have hfh (c : String) (t : TypeRef) (hc : declared.find? (·.typeName == c) = some t) :=
    find?_append_left hc added
  have hhg (c : String) (t : TypeRef) (hc : (declared ++ added).find? (·.typeName == c) = some t) :=
    find?_append_mono hn ha hc
  have hkey (c : String) (t : TypeRef) (hc : (declared ++ named).find? (·.typeName == c) = some t) :
      t.typeName = c := by simpa using List.find?_some hc
  have hsame : lookup? (declared ++ named) scope ref = _ := h
  cases hd : lookup? declared scope ref with
  | some t =>
    rw [hd, Option.some_or] at hsame
    have hadded : lookup? (declared ++ added) scope ref = some t :=
      findSome?_between hfh hhg hkey hd hsame
    rw [hsame, hadded, Option.some_or]
  | none =>
    rw [hd, Option.none_or] at hsame
    cases hw : wellKnown? (bareRef ref) with
    | none =>
      rw [hw] at hsame
      have hadded : lookup? (declared ++ added) scope ref = none := by
        refine List.findSome?_eq_none_iff.2 fun c hc => ?_
        have hnone : (declared ++ named).find? (·.typeName == c) = none :=
          List.findSome?_eq_none_iff.1 hsame c hc
        exact eq_none_of_below (hhg c) hnone
      rw [hsame, hadded, Option.none_or]
    | some t =>
      rw [hw] at hsame
      have hbare := (wellKnown?_eq_some hw).2
      have hcs := candidates_pairwise scope ref
      rw [← hbare] at hcs
      rcases findSome?_below hhg hkey hcs hsame with hnone | hsome
      · have hadded : lookup? (declared ++ added) scope ref = none := hnone
        rw [hsame, hadded, Option.none_or]
      · have hadded : lookup? (declared ++ added) scope ref = some t := hsome
        rw [hsame, hadded, Option.some_or]

def topPackage (name : String) : List Char := name.toList.takeWhile (· != '.')

theorem topPackage_wellKnown : ∀ t ∈ wellKnownTypes, topPackage t.typeName = "google".toList := by
  decide

theorem topPackage_append_dot (name rest : String) :
    topPackage (String.ofList (topPackage name) ++ "." ++ rest) = topPackage name := by
  have hall : ∀ c ∈ topPackage name, (c != '.') = true := List.all_eq_true.1 List.all_takeWhile
  rw [topPackage, String.toList_append, String.toList_append, String.toList_ofList, List.append_assoc,
    List.takeWhile_append_of_pos hall]
  simp

theorem topPackage_of_mem_enclosing {scope ref c : String}
    (h : c ∈ enclosing (Text.splitOn '.' scope) ref) : c = ref ∨ topPackage c = topPackage scope := by
  rw [enclosing] at h
  obtain ⟨k, -, rfl⟩ := List.mem_map.1 h
  have hhead := Text.head?_splitOn '.' scope
  cases hparts : Text.splitOn '.' scope with
  | nil => simp [hparts] at hhead
  | cons p rest =>
    rw [hparts, List.head?_cons, Option.some_inj] at hhead
    rw [qualify, List.take_succ_cons, hhead]
    split
    · exact .inl rfl
    · refine .inr ?_
      cases rest.take k with
      | nil =>
        rw [String.intercalate_singleton]
        exact topPackage_append_dot ..
      | cons q more =>
        rw [String.intercalate_cons_cons, String.append_assoc, String.append_assoc]
        exact topPackage_append_dot ..

/-- If `g` has a value at `b` only, and no other name is looked up after it, `g` may be asked last. -/
theorem findSome?_or [DecidableEq κ] {f g : κ → Option α} {b : κ} {cs : List κ}
    (hp : cs.Pairwise fun a c => a = b → c = b) (hb : b ∈ cs) (hg : ∀ c ∈ cs, c ≠ b → g c = none) :
    cs.findSome? (fun c => (f c).or (g c)) = (cs.findSome? f).or (g b) := by
  induction cs with
  | nil => cases hb
  | cons c rest ih =>
    obtain ⟨hlast, hp⟩ := List.pairwise_cons.1 hp
    obtain ⟨hc, hg⟩ := List.forall_mem_cons.1 hg
    rw [List.findSome?_cons, List.findSome?_cons]
    cases hf : f c with
    | some t => rfl
    | none =>
      rw [Option.none_or]
      by_cases hcb : c = b
      · subst hcb
        have hrest : ∀ d ∈ rest, d = c := fun d hd => hlast d hd rfl
        have hnone : rest.findSome? f = none := List.findSome?_eq_none_iff.2 fun d hd => hrest d hd ▸ hf
        cases hgc : g c with
        | some t => simp only [hnone, Option.none_or]
        | none =>
          have hor : rest.findSome? (fun d => (f d).or (g d)) = none :=
            List.findSome?_eq_none_iff.2 fun d hd => by rw [hrest d hd, hf, hgc, Option.none_or]
          simp only [hnone, hor, Option.none_or]
      · rw [hc hcb]
        exact ih hp ((List.mem_cons.1 hb).resolve_left fun h => hcb h.symm) hg

/-- Outside the package `google`, no relative name is that of a well-known type. -/
theorem settled_of_topPackage (hn : named ⊆ wellKnownTypes) {scope ref : String}
    (hnamed : ∀ t, wellKnown? (bareRef ref) = some t → t ∈ named)
    (hscope : topPackage scope ≠ "google".toList) : Settled declared named (scope, ref) := by
  have hbare : named.find? (·.typeName == bareRef ref) = wellKnown? (bareRef ref) := by
    cases hw : wellKnown? (bareRef ref) with
    | none => exact List.find?_eq_none.2 fun t ht => List.find?_eq_none.1 hw t (hn ht)
    | some t =>
      rw [← (wellKnown?_eq_some hw).2]
      exact find?_of_mem_named hn (hnamed t hw)
  have hother : ∀ c ∈ candidates scope ref, c ≠ bareRef ref → named.find? (·.typeName == c) = none := by
    intro c hc hne
    refine List.find?_eq_none.2 fun t ht heq => hscope ?_
    rw [← topPackage_wellKnown t (hn ht), beq_iff_eq.1 heq]
    rw [candidates] at hc
    split at hc
    · exact absurd (List.mem_singleton.1 hc) hne
    · rename_i hdot
      have hself : bareRef ref = ref := Text.dropLeading_eq_self (by simpa using hdot)
      rw [hself] at hne
      rcases List.mem_append.1 hc with hc | hc
      · split at hc
        · cases hc
        · exact ((topPackage_of_mem_enclosing hc).resolve_left hne).symm
      · exact absurd (List.mem_singleton.1 hc) hne
  rw [Settled, lookup?]
  simp only [List.find?_append]
  rw [findSome?_or (candidates_pairwise scope ref) (bareRef_mem_candidates scope ref) hother, hbare]
  rfl

theorem allSettled_of_topPackage {d : Document}
    (h : ∀ r ∈ d.references, topPackage r.1 ≠ "google".toList) : d.AllSettled := by
  intro r hr
  refine settled_of_topPackage (List.filter_subset_self _) (fun t ht => ?_) (h r hr)
  obtain ⟨hmem, hname⟩ := wellKnown?_eq_some ht
  exact List.mem_filter.2 ⟨hmem, List.any_eq_true.2 ⟨r, hr, beq_iff_eq.2 hname.symm⟩⟩

def note (declared added targets : List TypeRef) : List TypeRef :=
  targets.foldl (fun acc t => if t ∈ declared then acc else insertNew t acc) added

theorem note_append (declared added ts us : List TypeRef) :
    note declared added (ts ++ us) = note declared (note declared added ts) us := List.foldl_append

theorem note_singleton_of_mem {t : TypeRef} (h : t ∈ declared ++ added) :
    note declared added [t] = added := by
  rw [note, List.foldl_cons, List.foldl_nil]
  split
  · rfl
  · rename_i hd
    exact if_pos ((List.mem_append.1 h).resolve_left hd)

theorem note_singleton_of_not_mem {t : TypeRef} (h : t ∉ declared ++ added) :
    note declared added [t] = added ++ [t] := by
  rw [List.mem_append, not_or] at h
  rw [note, List.foldl_cons, List.foldl_nil, if_neg h.1]
  exact if_neg h.2

theorem mem_note {t : TypeRef} {ts : List TypeRef} :
    t ∈ note declared added ts ↔ t ∈ added ∨ t ∈ ts ∧ t ∉ declared := by
  induction ts generalizing added with
  | nil => simp [note]
  | cons u rest ih =>
    rw [← List.singleton_append, note_append, ih]
    by_cases hu : u ∈ declared ++ added
    · rw [note_singleton_of_mem hu]
      rw [List.mem_append] at hu
      grind
    · rw [note_singleton_of_not_mem hu]
      rw [List.mem_append] at hu
      grind

/-- A settled reference stands for one type, whatever has been added. -/
theorem Settled.resolve_eq_ok {scope ref : String} (h : Settled declared named (scope, ref))
    (hn : named ⊆ wellKnownTypes) (ha : added ⊆ named) {package : String} {t : TypeRef}
    {added' : List TypeRef} :
    resolve declared package scope ref added = .ok t added' ↔
      lookup? (declared ++ named) scope ref = some t ∧ added' = note declared added [t] := by
  rw [resolve_eq, h.same_added hn ha]
  cases hl : lookup? (declared ++ added) scope ref with
  | some u =>
    have hmem := lookup?_mem hl
    constructor
    · rintro ⟨⟩
      exact ⟨rfl, (note_singleton_of_mem hmem).symm⟩
    · rintro ⟨⟨⟩, rfl⟩
      rw [note_singleton_of_mem hmem]
  | none =>
    cases hu : wellKnown? (bareRef ref) with
    | none => simp
    | some u =>
      have hnew : u ∉ declared ++ added := fun hmem =>
        not_mem_of_lookup?_eq_none hl (List.mem_map.2 ⟨u, hmem, (wellKnown?_eq_some hu).2⟩)
      constructor
      · rintro ⟨⟩
        exact ⟨rfl, (note_singleton_of_not_mem hnew).symm⟩
      · rintro ⟨⟨⟩, rfl⟩
        rw [note_singleton_of_not_mem hnew]

/-- What a field declaration becomes where references mean types in this way. -/
structure FieldDecl.Yields (means : String → String → Option TypeRef) (typeName : String) (f : FieldDecl)
    (g : Field) : Prop where
  name : g.name = f.name
  kind : g.kind = f.kindOrDefault
  repeated : g.repeated = f.repeated
  typed : f.type.getD "" ≠ "" → ∃ t, means typeName (f.type.getD "") = some t ∧ g.target = some t
  untyped : f.type.getD "" = "" → g.target = none ∧ g.kind ≠ .message

def Messages.Yields (means : String → String → Option TypeRef) (file scope : String) :
    Messages → List Message → Prop
  | .nil, ms => ms = []
  | .cons name fields nested rest, ms =>
    ∃ gs inner others, List.Forall₂ (FieldDecl.Yields means (qualify scope name)) fields gs ∧
      nested.Yields means file (qualify scope name) inner ∧ rest.Yields means file scope others ∧
      ms = ⟨qualify scope name, name, file, gs⟩ :: inner ++ others

structure MethodDecl.Yields (means : String → String → Option TypeRef) (scope : String) (d : MethodDecl)
    (m : Method) : Prop where
  name : m.name = d.name
  kind : m.kind = d.kind
  input : means scope d.input = some m.input
  output : means scope d.output = some m.output

structure ServiceDecl.Yields (means : String → String → Option TypeRef) (file scope : String)
    (d : ServiceDecl) (s : Service) : Prop where
  name : s.name = d.name
  package : s.package = scope
  file : s.file = file
  methods : List.Forall₂ (MethodDecl.Yields means scope) d.methods s.methods

structure FileDecl.Yields (means : String → String → Option TypeRef) (d : FileDecl)
    (p : ProtoFile) : Prop where
  name : p.name = d.name
  package : p.package = d.package
  messages : d.messages.Yields means d.name d.package p.messages
  services : List.Forall₂ (ServiceDecl.Yields means d.name d.package) d.services p.services

def fieldTargets (g : Field) : List TypeRef := g.target.toList

def messageTargets (m : Message) : List TypeRef := m.fields.flatMap fieldTargets

def methodTargets (m : Method) : List TypeRef := [m.input, m.output]

def serviceTargets (s : Service) : List TypeRef := s.methods.flatMap methodTargets

/-- The targets of all references in a file, in the order in which they are found. -/
def fileTargets (p : ProtoFile) : List TypeRef :=
  p.messages.flatMap messageTargets ++ p.services.flatMap serviceTargets

theorem note_subset {ts : List TypeRef} (ha : added ⊆ named) (ht : ts ⊆ declared ++ named) :
    note declared added ts ⊆ named := by
  intro t h
  rcases mem_note.1 h with h | ⟨h, hd⟩
  · exact ha h
  · exact (List.mem_append.1 (ht h)).resolve_left hd

/-- The step yields exactly what satisfies `P` and then adds the targets of that, whatever has been added
before. -/
structure Yielding (declared named : List TypeRef) (step : Wiring α) (P : α → Prop)
    (targets : α → List TypeRef) : Prop where
  known : ∀ a, P a → targets a ⊆ declared ++ named
  eq_ok : ∀ {added}, added ⊆ named → ∀ a added',
    step added = .ok a added' ↔ P a ∧ added' = note declared added (targets a)

theorem Yielding.congr {step : Wiring α} {P P' : α → Prop} {targets : α → List TypeRef}
    (h : Yielding declared named step P targets) (hp : ∀ a, P a ↔ P' a) :
    Yielding declared named step P' targets where
  known a ha := h.known a ((hp a).2 ha)
  eq_ok hadded a added' := by rw [h.eq_ok hadded, hp]

theorem Yielding.done (a : α) {targets : α → List TypeRef} (ht : targets a = []) :
    Yielding declared named (pure a) (· = a) targets := by
  refine ⟨?_, fun {added} _ b added' => ?_⟩
  · rintro _ rfl
    rw [ht]
    exact List.nil_subset _
  · rw [stateful_pure_eq_ok]
    constructor
    · rintro ⟨rfl, rfl⟩
      exact ⟨rfl, by rw [ht]; rfl⟩
    · rintro ⟨rfl, rfl⟩
      exact ⟨rfl, by rw [ht]; rfl⟩

theorem Yielding.throw (e : Error) (targets : α → List TypeRef) :
    Yielding declared named (throw e : Wiring α) (fun _ => False) targets where
  known _ := False.elim
  eq_ok _ _ _ := by
    constructor
    · intro h
      cases h
    · rintro ⟨⟨⟩, -⟩

theorem Yielding.bind {first : Wiring α} {next : α → Wiring β} {P : α → Prop} {Q : α → β → Prop}
    {ts : α → List TypeRef} {us : α → β → List TypeRef} (hfirst : Yielding declared named first P ts)
    (vs : β → List TypeRef) (hnext : ∀ a, P a → Yielding declared named (next a) (Q a) (us a))
    (hvs : ∀ a b, P a → Q a b → vs b = ts a ++ us a b) :
    Yielding declared named (first >>= next) (fun b => ∃ a, P a ∧ Q a b) vs := by
  refine ⟨?_, fun {added} hadded b added' => ?_⟩
  · rintro b ⟨a, ha, hb⟩
    rw [hvs a b ha hb]
    exact List.append_subset.2 ⟨hfirst.known a ha, (hnext a ha).known b hb⟩
  · rw [stateful_bind_eq_ok]
    constructor
    · rintro ⟨a, mid, hfirsta, hnextb⟩
      obtain ⟨ha, rfl⟩ := (hfirst.eq_ok hadded a mid).1 hfirsta
      have hmid := note_subset hadded (hfirst.known a ha)
      obtain ⟨hb, rfl⟩ := ((hnext a ha).eq_ok hmid b added').1 hnextb
      exact ⟨⟨a, ha, hb⟩, by rw [hvs a b ha hb, note_append]⟩
    · rintro ⟨⟨a, ha, hb⟩, rfl⟩
      have hmid := note_subset hadded (hfirst.known a ha)
      refine ⟨a, _, (hfirst.eq_ok hadded a _).2 ⟨ha, rfl⟩, ?_⟩
      rw [hvs a b ha hb, note_append]
      exact ((hnext a ha).eq_ok hmid b _).2 ⟨hb, rfl⟩

/-- A last step that only puts the result together adds nothing. -/
theorem Yielding.map {step : Wiring α} {P : α → Prop} {ts : α → List TypeRef}
    (h : Yielding declared named step P ts) (f : α → β) (vs : β → List TypeRef)
    (hvs : ∀ a, P a → vs (f a) = ts a) :
    Yielding declared named (step >>= fun a => pure (f a)) (fun b => ∃ a, P a ∧ b = f a) vs := by
  have hlast (a : α) : Yielding declared named (pure (f a)) (· = f a) fun _ => [] := .done (f a) rfl
  refine h.bind vs (fun a _ => hlast a) ?_
  rintro a b ha rfl
  rw [hvs a ha, List.append_nil]

theorem Yielding.mapM {step : α → Wiring β} {P : α → β → Prop} {targets : β → List TypeRef} {as : List α}
    (h : ∀ a ∈ as, Yielding declared named (step a) (P a) targets) :
    Yielding declared named (as.mapM step) (List.Forall₂ P as) (·.flatMap targets) := by
  induction as with
  | nil =>
    refine (Yielding.done [] rfl).congr fun bs => ?_
    rw [List.forall₂_nil_left_iff]
  | cons a rest ih =>
    obtain ⟨ha, hrest⟩ := List.forall_mem_cons.1 h
    rw [List.mapM_cons]
    have htail (b : β) := (ih hrest).map (fun bs => b :: bs) (fun bs => bs.tail.flatMap targets)
      fun _ _ => rfl
    refine (ha.bind _ (fun b _ => htail b) fun b bs _ hbs => ?_).congr fun bs => ?_
    · obtain ⟨cs, -, rfl⟩ := hbs
      rfl
    · rw [List.forall₂_cons_left_iff]
      constructor
      · rintro ⟨b, hb, bs, hbs, rfl⟩
        exact ⟨b, bs, hb, hbs, rfl⟩
      · rintro ⟨b, bs, hb, hbs, rfl⟩
        exact ⟨b, hb, bs, hbs, rfl⟩

theorem resolve_yielding (hn : named ⊆ wellKnownTypes) {scope ref : String}
    (h : Settled declared named (scope, ref)) (package : String) :
    Yielding declared named (resolve declared package scope ref)
      (lookup? (declared ++ named) scope ref = some ·) ([·]) where
  known _ ht := List.cons_subset.2 ⟨lookup?_mem ht, List.nil_subset _⟩
  eq_ok ha _ _ := h.resolve_eq_ok hn ha

theorem wireField_yielding (hn : named ⊆ wellKnownTypes) {typeName : String} {f : FieldDecl}
    (h : ∀ r, f.reference? typeName = some r → Settled declared named r) (package : String) :
    Yielding declared named (wireField declared package typeName f)
      (f.Yields (lookup? (declared ++ named)) typeName) fieldTargets := by
  rw [wireField]
  by_cases ht : f.type.getD "" = ""
  · rw [if_neg (not_not.2 ht)]
    by_cases hk : f.kindOrDefault = .message
    · rw [if_pos hk]
      refine (Yielding.throw _ _).congr fun g => ⟨False.elim, fun hg => ?_⟩
      exact (hg.untyped ht).2 (hg.kind.trans hk)
    · rw [if_neg hk]
      refine (Yielding.done _ rfl).congr fun g => ?_
      constructor
      · rintro rfl
        exact ⟨rfl, rfl, rfl, fun hne => absurd ht hne, fun _ => ⟨rfl, hk⟩⟩
      · rintro ⟨hname, hkind, hrepeated, -, huntyped⟩
        obtain ⟨htarget, -⟩ := huntyped ht
        rw [← hname, ← hkind, ← hrepeated, ← htarget]
  · rw [if_pos ht]
    have hsettled : Settled declared named (typeName, f.type.getD "") := h _ (if_neg ht)
    refine ((resolve_yielding hn hsettled package).map
      (fun t => ⟨f.name, f.kindOrDefault, f.repeated, some t⟩) fieldTargets fun _ _ => rfl).congr fun g => ?_
    constructor
    · rintro ⟨t, hlookup, rfl⟩
      exact ⟨rfl, rfl, rfl, fun _ => ⟨t, hlookup, rfl⟩, fun hempty => absurd hempty ht⟩
    · rintro ⟨hname, hkind, hrepeated, htyped, -⟩
      obtain ⟨t, hlookup, htarget⟩ := htyped ht
      refine ⟨t, hlookup, ?_⟩
      rw [← hname, ← hkind, ← hrepeated, ← htarget]

theorem wireFields_eq_mapM (declared : List TypeRef) (package typeName : String) (fields : List FieldDecl) :
    wireFields declared package typeName fields = fields.mapM (wireField declared package typeName) := by
  induction fields with
  | nil => rfl
  | cons f rest ih => rw [wireFields, List.mapM_cons, ih]

theorem wireMessages_yielding (hn : named ⊆ wellKnownTypes) {file package scope : String} {decls : Messages}
    (h : ∀ r ∈ decls.references scope, Settled declared named r) :
    Yielding declared named (wireMessages declared file package scope decls)
      (decls.Yields (lookup? (declared ++ named)) file scope) (·.flatMap messageTargets) := by
  induction decls generalizing scope with
  | nil => exact (Yielding.done [] rfl).congr fun ms => Iff.rfl
  | cons name fields nested rest ihn ihr =>
    rw [Messages.references, List.forall_mem_append, List.forall_mem_append] at h
    obtain ⟨⟨hfields, hnested⟩, hrest⟩ := h
    have hfield : ∀ f ∈ fields, Yielding declared named (wireField declared package (qualify scope name) f)
        (f.Yields (lookup? (declared ++ named)) (qualify scope name)) fieldTargets := fun f hf =>
      wireField_yielding hn (fun r hr => hfields r (List.mem_filterMap.2 ⟨f, hf, hr⟩)) package
    rw [wireMessages, wireFields_eq_mapM]
    -- Of the messages found, the targets of those behind the first ones are left to each later step.
    have hothers (gs : List Field) (inner : List Message) := (ihr hrest).map
      (fun others => ⟨qualify scope name, name, file, gs⟩ :: inner ++ others)
      (fun ms => (ms.drop (inner.length + 1)).flatMap messageTargets) (fun others _ => by simp)
    have hinner (gs : List Field) := (ihn hnested).bind (fun ms => ms.tail.flatMap messageTargets)
      (fun inner _ => hothers gs inner)
      (by
        rintro inner ms - ⟨others, -, rfl⟩
        simp)
    refine ((Yielding.mapM hfield).bind _ (fun gs _ => hinner gs) ?_).congr fun ms => ?_
    · rintro gs ms - ⟨inner, -, others, -, rfl⟩
      rfl
    · constructor
      · rintro ⟨gs, hgs, inner, hi, others, ho, rfl⟩
        exact ⟨gs, inner, others, hgs, hi, ho, rfl⟩
      · rintro ⟨gs, inner, others, hgs, hi, ho, rfl⟩
        exact ⟨gs, hgs, inner, hi, others, ho, rfl⟩

def wireMethod (declared : List TypeRef) (package : String) (m : MethodDecl) : Wiring Method := do
  let input ← resolve declared package package m.input
  let output ← resolve declared package package m.output
  return ⟨m.name, input, output, m.kind⟩

theorem wireMethods_eq_mapM (declared : List TypeRef) (package : String) (decls : List MethodDecl) :
    wireMethods declared package decls = decls.mapM (wireMethod declared package) := by
  induction decls with
  | nil => rfl
  | cons m rest ih => simp only [wireMethods, List.mapM_cons, wireMethod, bind_assoc, pure_bind, ih]

def wireService (declared : List TypeRef) (file package : String) (s : ServiceDecl) : Wiring Service := do
  return ⟨s.name, package, file, ← s.methods.mapM (wireMethod declared package)⟩

theorem wireServices_eq_mapM (declared : List TypeRef) (file package : String) (decls : List ServiceDecl) :
    wireServices declared file package decls = decls.mapM (wireService declared file package) := by
  induction decls with
  | nil => rfl
  | cons s rest ih =>
    simp only [wireServices, List.mapM_cons, wireService, bind_assoc, pure_bind, ih, wireMethods_eq_mapM]

def wireFile (declared : List TypeRef) (f : FileDecl) : Wiring ProtoFile := do
  let messages ← wireMessages declared f.name f.package f.package f.messages
  let services ← f.services.mapM (wireService declared f.name f.package)
  return ⟨f.name, f.package, messages, services⟩

theorem wireFiles_eq_mapM (declared : List TypeRef) (decls : List FileDecl) :
    wireFiles declared decls = decls.mapM (wireFile declared) := by
  induction decls with
  | nil => rfl
  | cons f rest ih =>
    simp only [wireFiles, List.mapM_cons, wireFile, bind_assoc, pure_bind, ih, wireServices_eq_mapM]

theorem wireMethod_yielding (hn : named ⊆ wellKnownTypes) {package : String} {d : MethodDecl}
    (hi : Settled declared named (package, d.input)) (ho : Settled declared named (package, d.output)) :
    Yielding declared named (wireMethod declared package d)
      (d.Yields (lookup? (declared ++ named)) package) methodTargets := by
  have houtput (input : TypeRef) := (resolve_yielding hn ho package).map
    (fun output => (⟨d.name, input, output, d.kind⟩ : Method)) (fun m => [m.output]) fun _ _ => rfl
  refine ((resolve_yielding hn hi package).bind _ (fun input _ => houtput input) ?_).congr fun m => ?_
  · rintro input m - ⟨output, -, rfl⟩
    rfl
  · constructor
    · rintro ⟨input, hinput, output, houtput, rfl⟩
      exact ⟨rfl, rfl, hinput, houtput⟩
    · rintro ⟨hname, hkind, hinput, houtput⟩
      refine ⟨m.input, hinput, m.output, houtput, ?_⟩
      rw [← hname, ← hkind]

theorem wireService_yielding (hn : named ⊆ wellKnownTypes) (file : String) {package : String}
    {d : ServiceDecl} (h : ∀ r ∈ d.references package, Settled declared named r) :
    Yielding declared named (wireService declared file package d)
      (d.Yields (lookup? (declared ++ named)) file package) serviceTargets := by
  have hmethod : ∀ m ∈ d.methods, Yielding declared named (wireMethod declared package m)
      (m.Yields (lookup? (declared ++ named)) package) methodTargets := by
    intro m hm
    have hr : ∀ r ∈ [(package, m.input), (package, m.output)], Settled declared named r := fun r hr =>
      h r (List.mem_flatMap.2 ⟨m, hm, hr⟩)
    exact wireMethod_yielding hn (hr _ (.head _)) (hr _ (.tail _ (.head _)))
  refine ((Yielding.mapM hmethod).map _ serviceTargets fun _ _ => rfl).congr fun s => ?_
  constructor
  · rintro ⟨ms, hms, rfl⟩
    exact ⟨rfl, rfl, rfl, hms⟩
  · rintro ⟨hname, hpackage, hfile, hms⟩
    refine ⟨s.methods, hms, ?_⟩
    rw [← hname, ← hpackage, ← hfile]

theorem wireFile_yielding (hn : named ⊆ wellKnownTypes) {d : FileDecl}
    (h : ∀ r ∈ d.references, Settled declared named r) :
    Yielding declared named (wireFile declared d) (d.Yields (lookup? (declared ++ named))) fileTargets := by
  obtain ⟨hm, hs⟩ := List.forall_mem_append.1 h
  have hservice : ∀ s ∈ d.services, Yielding declared named (wireService declared d.name d.package s)
      (s.Yields (lookup? (declared ++ named)) d.name d.package) serviceTargets := fun s hmem =>
    wireService_yielding hn d.name fun r hr => hs r (List.mem_flatMap.2 ⟨s, hmem, hr⟩)
  have hservices (ms : List Message) := (Yielding.mapM hservice).map
    (fun ss => (⟨d.name, d.package, ms, ss⟩ : ProtoFile)) (fun p => p.services.flatMap serviceTargets)
    fun _ _ => rfl
  refine ((wireMessages_yielding hn hm).bind _ (fun ms _ => hservices ms) ?_).congr fun p => ?_
  · rintro ms p - ⟨ss, -, rfl⟩
    rfl
  · constructor
    · rintro ⟨ms, hms, ss, hss, rfl⟩
      exact ⟨rfl, rfl, hms, hss⟩
    · rintro ⟨hname, hpackage, hms, hss⟩
      refine ⟨p.messages, hms, p.services, hss, ?_⟩
      rw [← hname, ← hpackage]

theorem wireFiles_yielding (hn : named ⊆ wellKnownTypes) {decls : List FileDecl}
    (h : ∀ d ∈ decls, ∀ r ∈ d.references, Settled declared named r) :
    Yielding declared named (wireFiles declared decls)
      (List.Forall₂ (FileDecl.Yields (lookup? (declared ++ named))) decls) (·.flatMap fileTargets) := by
  rw [wireFiles_eq_mapM]
  exact .mapM fun d hd => wireFile_yielding hn (h d hd)

end RpcBindings.Document
