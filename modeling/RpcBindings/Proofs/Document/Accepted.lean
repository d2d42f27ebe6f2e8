import RpcBindings.Proofs.Document.Reordered
import RpcBindings.Proofs.Document.Scope
import RpcBindings.Proofs.Document.WellFormed

namespace RpcBindings.Document

open RpcBindings.Data

def Messages.allFields : Messages → List FieldDecl
  | .nil => []
  | .cons _ fields nested rest => fields ++ nested.allFields ++ rest.allFields

def allFields (d : Document) : List FieldDecl := d.files.flatMap (·.messages.allFields)

def FieldDecl.Typed (f : FieldDecl) : Prop := f.kind = some .message → f.type.getD "" ≠ ""

/-- Each reference, in turn, stands for a type or has the name of a well-known one, which is then added. -/
inductive Turns (declared : List TypeRef) : List TypeRef → List (String × String) → List TypeRef → Prop where
  | nil {added : List TypeRef} : Turns declared added [] added
  | found {added added' : List TypeRef} {scope ref : String} {t : TypeRef} {rest : List (String × String)}
      (ht : StandsFor (declared ++ added) scope ref t) (h : Turns declared added rest added') :
      Turns declared added ((scope, ref) :: rest) added'
  | added {added added' : List TypeRef} {scope ref : String} {t : TypeRef} {rest : List (String × String)}
      (hnone : ∀ u, ¬StandsFor (declared ++ added) scope ref u) (ht : wellKnown? (bareRef ref) = some t)
      (h : Turns declared (added ++ [t]) rest added') : Turns declared added ((scope, ref) :: rest) added'

variable {declared added added' : List TypeRef} {refs more : List (String × String)} {ok ok' : Prop}

theorem turns_append :
    Turns declared added (refs ++ more) added' ↔
      ∃ mid, Turns declared added refs mid ∧ Turns declared mid more added' := by
  constructor
  · intro h
    induction refs generalizing added with
    | nil => exact ⟨added, .nil, h⟩
    | cons r rest ih =>
      cases h with
      | found ht h =>
        obtain ⟨mid, hmid, hmore⟩ := ih h
        exact ⟨mid, .found ht hmid, hmore⟩
      | added hnone ht h =>
        obtain ⟨mid, hmid, hmore⟩ := ih h
        exact ⟨mid, .added hnone ht hmid, hmore⟩
  · rintro ⟨mid, hmid, hmore⟩
    induction hmid with
    | nil => exact hmore
    | found ht _ ih => exact .found ht (ih hmore)
    | added hnone ht _ ih => exact .added hnone ht (ih hmore)

theorem turns_one {scope ref : String} : Turns declared added [(scope, ref)] added' ↔
    (∃ t, StandsFor (declared ++ added) scope ref t) ∧ added' = added ∨
      (∀ u, ¬StandsFor (declared ++ added) scope ref u) ∧
        ∃ t, wellKnown? (bareRef ref) = some t ∧ added' = added ++ [t] := by
  constructor
  · intro h
    cases h with
    | found ht h =>
      cases h
      exact .inl ⟨⟨_, ht⟩, rfl⟩
    | added hnone ht h =>
      cases h
      exact .inr ⟨hnone, _, ht, rfl⟩
  · rintro (⟨⟨t, ht⟩, rfl⟩ | ⟨hnone, t, ht, rfl⟩)
    · exact .found ht .nil
    · exact .added hnone ht .nil

/-- The step succeeds exactly if the condition holds and the references have their turns, and then it has added what
they add. -/
def ByTurns (declared : List TypeRef) (step : Wiring α) (ok : Prop) (refs : List (String × String)) : Prop :=
  ∀ added added', (∃ a, step added = .ok a added') ↔ ok ∧ Turns declared added refs added'

namespace ByTurns

theorem congr {step : Wiring α} (h : ByTurns declared step ok refs) (hok : ok ↔ ok') :
    ByTurns declared step ok' refs := fun added added' => (h added added').trans (and_congr_left' hok)

theorem done (a : α) : ByTurns declared (pure a) True [] := by
  intro added added'
  constructor
  · rintro ⟨b, hb⟩
    obtain ⟨-, rfl⟩ := stateful_pure_eq_ok.1 hb
    exact ⟨trivial, .nil⟩
  · rintro ⟨-, h⟩
    cases h
    exact ⟨a, rfl⟩

theorem throw (e : Error) (refs : List (String × String)) :
    ByTurns declared (throw e : Wiring α) False refs := by
  intro added added'
  constructor
  · rintro ⟨a, ha⟩
    cases ha
  · rintro ⟨⟨⟩, -⟩

theorem bind {first : Wiring α} {next : α → Wiring β} (hfirst : ByTurns declared first ok refs)
    (hnext : ∀ a, ByTurns declared (next a) ok' more) :
    ByTurns declared (first >>= next) (ok ∧ ok') (refs ++ more) := by
  intro added added'
  rw [turns_append]
  constructor
  · rintro ⟨b, hb⟩
    obtain ⟨a, mid, ha, hb⟩ := stateful_bind_eq_ok.1 hb
    obtain ⟨hok, hmid⟩ := (hfirst added mid).1 ⟨a, ha⟩
    obtain ⟨hok', hmore⟩ := (hnext a mid added').1 ⟨b, hb⟩
    exact ⟨⟨hok, hok'⟩, mid, hmid, hmore⟩
  · rintro ⟨⟨hok, hok'⟩, mid, hmid, hmore⟩
    obtain ⟨a, ha⟩ := (hfirst added mid).2 ⟨hok, hmid⟩
    obtain ⟨b, hb⟩ := (hnext a mid added').2 ⟨hok', hmore⟩
    exact ⟨b, stateful_bind_eq_ok.2 ⟨a, mid, ha, hb⟩⟩

theorem map {step : Wiring α} (h : ByTurns declared step ok refs) (f : α → β) :
    ByTurns declared (step >>= fun a => pure (f a)) ok refs := by
  have hmap := (h.bind fun a => done (f a)).congr (and_iff_left trivial)
  rwa [List.append_nil] at hmap

theorem mapM {step : α → Wiring β} {ok : α → Prop} {refs : α → List (String × String)} {as : List α}
    (h : ∀ a ∈ as, ByTurns declared (step a) (ok a) (refs a)) :
    ByTurns declared (as.mapM step) (∀ a ∈ as, ok a) (as.flatMap refs) := by
  induction as with
  | nil => exact (done []).congr (iff_of_true trivial (List.forall_mem_nil _))
  | cons a rest ih =>
    obtain ⟨ha, hrest⟩ := List.forall_mem_cons.1 h
    rw [List.mapM_cons, List.flatMap_cons]
    exact (ha.bind fun b => (ih hrest).map (b :: ·)).congr List.forall_mem_cons.symm

end ByTurns

theorem resolve_byTurns (declared : List TypeRef) (package scope ref : String) :
    ByTurns declared (resolve declared package scope ref) True [(scope, ref)] := by
  intro added added'
  rw [resolve_eq, turns_one, true_and]
  simp only [← lookup?_eq_some]
  cases lookup? (declared ++ added) scope ref with
  | some t =>
    constructor
    · rintro ⟨u, hu⟩
      cases hu
      exact .inl ⟨⟨t, rfl⟩, rfl⟩
    · rintro (⟨-, rfl⟩ | ⟨hnone, -⟩)
      · exact ⟨t, rfl⟩
      · exact absurd rfl (hnone t)
  | none =>
    cases wellKnown? (bareRef ref) with
    | some t =>
      constructor
      · rintro ⟨u, hu⟩
        cases hu
        refine .inr ⟨?_, t, rfl, rfl⟩
        intro u hu
        cases hu
      · rintro (⟨⟨u, hu⟩, -⟩ | ⟨-, u, hu, rfl⟩)
        · cases hu
        · cases hu
          exact ⟨t, rfl⟩
    | none =>
      constructor
      · rintro ⟨u, hu⟩
        cases hu
      · rintro (⟨⟨u, hu⟩, -⟩ | ⟨-, u, hu, -⟩)
        · cases hu
        · cases hu

theorem kindOrDefault_eq_message {f : FieldDecl} (hempty : f.type.getD "" = "") :
    f.kindOrDefault = .message ↔ f.kind = some .message := by
  rw [FieldDecl.kindOrDefault, if_pos hempty]
  cases f.kind <;> simp

theorem wireField_byTurns (declared : List TypeRef) (package typeName : String) (f : FieldDecl) :
    ByTurns declared (wireField declared package typeName f) f.Typed (f.reference? typeName).toList := by
  rw [wireField, FieldDecl.reference?, FieldDecl.Typed]
  by_cases hempty : f.type.getD "" = ""
  · rw [if_neg (not_not.2 hempty), if_pos hempty]
    by_cases hkind : f.kindOrDefault = .message
    · rw [if_pos hkind]
      refine (ByTurns.throw _ _).congr (iff_of_false not_false fun h => ?_)
      exact h ((kindOrDefault_eq_message hempty).1 hkind) hempty
    · rw [if_neg hkind]
      refine (ByTurns.done _).congr (iff_of_true trivial fun h => ?_)
      exact absurd ((kindOrDefault_eq_message hempty).2 h) hkind
  · rw [if_pos hempty, if_neg hempty]
    exact ((resolve_byTurns declared package typeName _).map _).congr (iff_of_true trivial fun _ => hempty)

theorem wireFields_byTurns (declared : List TypeRef) (package typeName : String) (fields : List FieldDecl) :
    ByTurns declared (wireFields declared package typeName fields) (∀ f ∈ fields, f.Typed)
      (fields.filterMap (FieldDecl.reference? typeName)) := by
  rw [wireFields_eq_mapM, List.filterMap_eq_flatMap_toList]
  exact .mapM fun f _ => wireField_byTurns declared package typeName f

theorem wireMessages_byTurns (declared : List TypeRef) (file package scope : String) (ms : Messages) :
    ByTurns declared (wireMessages declared file package scope ms) (∀ f ∈ ms.allFields, f.Typed)
      (ms.references scope) := by
  induction ms generalizing scope with
  | nil => exact (ByTurns.done []).congr (iff_of_true trivial (List.forall_mem_nil _))
  | cons name fields nested rest ihnested ihrest =>
    rw [wireMessages, Messages.references, List.append_assoc, Messages.allFields]
    refine ((wireFields_byTurns declared package _ fields).bind fun gs =>
      (ihnested _).bind fun inner => (ihrest scope).map _).congr ?_
    simp only [List.mem_append, or_imp, forall_and, and_assoc]

theorem wireMethod_byTurns (declared : List TypeRef) (package : String) (m : MethodDecl) :
    ByTurns declared (wireMethod declared package m) True [(package, m.input), (package, m.output)] :=
  ((resolve_byTurns declared package package m.input).bind fun _ =>
    (resolve_byTurns declared package package m.output).map _).congr (and_iff_left trivial)

theorem wireService_byTurns (declared : List TypeRef) (file package : String) (s : ServiceDecl) :
    ByTurns declared (wireService declared file package s) True (s.references package) :=
  ((ByTurns.mapM fun m _ => wireMethod_byTurns declared package m).map _).congr
    (iff_of_true (fun _ _ => trivial) trivial)

theorem wireFile_byTurns (declared : List TypeRef) (f : FileDecl) :
    ByTurns declared (wireFile declared f) (∀ g ∈ f.messages.allFields, g.Typed) f.references :=
  ((wireMessages_byTurns declared f.name f.package f.package f.messages).bind fun _ =>
    (ByTurns.mapM fun s _ => wireService_byTurns declared f.name f.package s).map _).congr
    (and_iff_left fun _ _ => trivial)

theorem wireFiles_byTurns (d : Document) :
    ByTurns d.types (wireFiles d.types d.files) (∀ f ∈ d.allFields, f.Typed) d.references := by
  rw [wireFiles_eq_mapM]
  refine (ByTurns.mapM fun f _ => wireFile_byTurns d.types f).congr ?_
  simp only [allFields, List.mem_flatMap, forall_exists_index, and_imp]
  exact ⟨fun h g f hf hg => h f hf g hg, fun h f hf g hg => h g f hf hg⟩

theorem firstDuplicate_eq_none_iff {types : List TypeRef} :
    firstDuplicate [] types = none ↔ (types.map (·.typeName)).Nodup :=
  ⟨fun h => (nodup_of_firstDuplicate h).2, firstDuplicate_eq_none fun _ _ => List.not_mem_nil⟩

theorem exists_descriptors_iff (d : Document) :
    (∃ set, d.descriptors = .ok set) ↔ (d.types.map (·.typeName)).Nodup ∧ (∀ f ∈ d.allFields, f.Typed) ∧
      ∃ added, Turns d.types [] d.references added := by
  rw [← firstDuplicate_eq_none_iff, descriptors, wire]
  cases hduplicate : firstDuplicate [] d.types with
  | some t => simp
  | none =>
    have hturns : (∃ added files, wireFiles d.types d.files [] = .ok files added) ↔
        (∀ f ∈ d.allFields, f.Typed) ∧ ∃ added, Turns d.types [] d.references added := by
      rw [← exists_and_left]
      exact exists_congr fun added => wireFiles_byTurns d [] added
    rw [← hturns]
    dsimp only [EStateM.run]
    cases wireFiles d.types d.files [] with
    | ok files added => simp
    | error e added => simp

/-- The value is a document whose names are declared once each, whose message fields have types, and whose references
all stand for something in their turn. -/
structure Acceptable (v : Value) (d : Document) : Prop where
  describes : Describes v d
  nodup : (d.types.map (·.typeName)).Nodup
  typed : ∀ f ∈ d.allFields, f.Typed
  resolved : ∃ added, Turns d.types [] d.references added

/-- A value is parsed exactly if it is an acceptable document. For every other value there is an error of invalid
input, and never another failure. -/
theorem parse_accepts (v : Value) :
    ((∃ result, parse v = .ok result) ↔ ∃ d, Acceptable v d) ∧
      ((¬∃ d, Acceptable v d) → ∃ e, parse v = .error e ∧ (Failure.document e).label = "ValueError") := by
  have hiff : (∃ result, parse v = .ok result) ↔ ∃ d, Acceptable v d := by
    rw [parse]
    cases hcheck : check v with
    | fail issues =>
      refine iff_of_false ?_ ?_
      · rintro ⟨result, h⟩
        cases h
      · rintro ⟨d, hd⟩
        have hpass := (decides_describes v d).2 hd.describes
        rw [hcheck] at hpass
        cases hpass
    | pass d =>
      have hmap : (∃ result, (d.descriptors.map fun s => (s, d.config)) = .ok result) ↔
          ∃ set, d.descriptors = .ok set := by
        cases d.descriptors <;> simp [Except.map]
      rw [hmap, exists_descriptors_iff]
      constructor
      · rintro ⟨hnodup, htyped, hresolved⟩
        exact ⟨d, (decides_describes v d).1 hcheck, hnodup, htyped, hresolved⟩
      · rintro ⟨d', hdescribes, hnodup, htyped, hresolved⟩
        have hpass := (decides_describes v d').2 hdescribes
        rw [hcheck] at hpass
        cases hpass
        exact ⟨hnodup, htyped, hresolved⟩
  refine ⟨hiff, fun hnot => ?_⟩
  cases hparse : parse v with
  | ok result => exact absurd (hiff.1 ⟨result, hparse⟩) hnot
  | error e => exact ⟨e, rfl, rfl⟩

/-- A document with a message in a message, of which the inner one has the given entries. -/
def outerValue (inner : List (String × Value)) : Value :=
  .record [("files", .list [.record [("name", .text "a.proto"), ("messages", .list [.record [("name", .text "Outer"),
    ("fields", .list [.record [("name", .text "inner"), ("type", .text "Inner")]]),
    ("messages", .list [.record inner])]])]])]

theorem parse_accepts_outer :
    (∃ d, Acceptable (outerValue [("name", .text "Inner")]) d) ∧
      ¬∃ d, Acceptable (outerValue [("name", .text "Inner"), ("tables", .list [])]) d := by
  refine ⟨(parse_accepts _).1.1 ⟨_, rfl⟩, fun h => ?_⟩
  obtain ⟨result, hresult⟩ := (parse_accepts _).1.2 h
  cases hresult

end RpcBindings.Document
