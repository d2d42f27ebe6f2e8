import RpcBindings.Proofs.Descriptor.Linked
import RpcBindings.Proofs.Sequence
import RpcBindings.Request.Descriptors

namespace RpcBindings.Request

variable {types : List TypeRef} {mapEntries : List String}

def Latest (types : List TypeRef) (t : TypeRef) : Prop :=
  types.reverse.find? (·.typeName == t.typeName) = some t

theorem lookup_eq_ok {ref : String} {t : TypeRef} : lookup types ref = .ok t ↔
    types.reverse.find? (·.typeName == Text.dropLeading '.' ref) = some t := by
  rw [lookup]
  cases types.reverse.find? (·.typeName == Text.dropLeading '.' ref) with
  | none =>
    constructor
    · intro h
      cases h
    · intro h
      cases h
  | some u =>
    constructor
    · intro h
      cases h
      rfl
    · intro h
      cases h
      rfl

theorem lookup_mem {ref : String} {t : TypeRef} (h : lookup types ref = .ok t) :
    t ∈ types ∧ t.typeName = Text.dropLeading '.' ref := by
  have hfind := lookup_eq_ok.1 h
  exact ⟨List.mem_reverse.1 (List.mem_of_find?_eq_some hfind), by simpa using List.find?_some hfind⟩

theorem lookup_latest {ref : String} {t : TypeRef} (h : lookup types ref = .ok t) :
    Latest types t := by
  rw [Latest, (lookup_mem h).2]
  exact lookup_eq_ok.1 h

def Wired.Known (types : List TypeRef) (wired : Wired) : Prop :=
  ∀ p ∈ wired, ∀ t, p.2.target = some t → Latest types t

theorem Wired.mem_fieldsOf {wired : Wired} {n : String} {f : Field} :
    f ∈ wired.fieldsOf n ↔ (n, f) ∈ wired := by
  simp only [fieldsOf, List.mem_filterMap, Option.ite_none_right_eq_some, Option.some.injEq]
  constructor
  · rintro ⟨⟨a, b⟩, hm, rfl, rfl⟩
    exact hm
  · intro h
    exact ⟨(n, f), h, rfl, rfl⟩

theorem Wired.Known.valueTarget {wired : Wired} (h : wired.Known types) {entry : String} {t : TypeRef}
    (ht : wired.valueTarget entry = some t) : Latest types t := by
  obtain ⟨f, hf, hft⟩ := Option.bind_eq_some_iff.1 ht
  exact h _ (mem_fieldsOf.1 (List.mem_of_find?_eq_some hf)) t hft

theorem wireField_known {wired : Wired} (h : wired.Known types) {f : FieldDecl} {g : Field}
    (hg : wireField types mapEntries wired f = .ok g) {t : TypeRef} (ht : g.target = some t) :
    Latest types t := by
  rw [wireField] at hg
  split at hg
  · obtain ⟨u, hu, hg⟩ := bind_eq_ok.1 hg
    split at hg
    · cases pure_eq_ok.1 hg
      exact h.valueTarget ht
    · cases pure_eq_ok.1 hg
      cases ht
      exact lookup_latest hu
  · cases pure_eq_ok.1 hg
    cases ht

theorem wireFields_known {fields : List FieldDecl} {wired wired' : Wired} (h : wired.Known types)
    (hw : wireFields types mapEntries typeName wired fields = .ok wired') : wired'.Known types := by
  induction fields generalizing wired with
  | nil =>
    cases hw
    exact h
  | cons f rest ih =>
    obtain ⟨g, hg, hw⟩ := bind_eq_ok.1 hw
    refine ih ?_ hw
    intro p hp t ht
    rcases List.mem_append.1 hp with hp | hp
    · exact h p hp t ht
    · cases List.mem_singleton.1 hp
      exact wireField_known h hg ht

theorem wireMessages_known {ms : Messages} {wired wired' : Wired} (h : wired.Known types)
    (hw : wireMessages types mapEntries scope wired ms = .ok wired') : wired'.Known types := by
  induction ms generalizing scope wired wired' with
  | nil =>
    cases hw
    exact h
  | cons name isMapEntry fields nested rest ihn ihr =>
    obtain ⟨w₁, h₁, hw⟩ := bind_eq_ok.1 hw
    obtain ⟨w₂, h₂, hw⟩ := bind_eq_ok.1 hw
    exact ihr (wireFields_known (ihn h h₁) h₂) hw

theorem wireMethods_known {decls : List MethodDecl} {methods : List Method}
    (hw : wireMethods types decls = .ok methods) :
    ∀ m ∈ methods, Latest types m.input ∧ Latest types m.output := by
  induction decls generalizing methods with
  | nil =>
    cases hw
    intro m hm
    cases hm
  | cons d rest ih =>
    obtain ⟨i, hi, hw⟩ := bind_eq_ok.1 hw
    obtain ⟨o, ho, hw⟩ := bind_eq_ok.1 hw
    obtain ⟨ms, hms, hw⟩ := bind_eq_ok.1 hw
    cases pure_eq_ok.1 hw
    intro m hm
    rcases List.mem_cons.1 hm with rfl | hm
    · exact ⟨lookup_latest hi, lookup_latest ho⟩
    · exact ih hms m hm

theorem wireServices_known {decls : List ServiceDecl} {services : List Service}
    (hw : wireServices types file package decls = .ok services) :
    ∀ s ∈ services, ∀ m ∈ s.methods, Latest types m.input ∧ Latest types m.output := by
  induction decls generalizing services with
  | nil =>
    cases hw
    intro s hs
    cases hs
  | cons d rest ih =>
    obtain ⟨ms, hms, hw⟩ := bind_eq_ok.1 hw
    obtain ⟨ss, hss, hw⟩ := bind_eq_ok.1 hw
    cases pure_eq_ok.1 hw
    intro s hs
    rcases List.mem_cons.1 hs with rfl | hs
    · exact wireMethods_known hms
    · exact ih hss s hs

theorem wireFiles_known {files : List FileDecl} {wired wired' : Wired} {services : List (List Service)}
    (h : wired.Known types) (hw : wireFiles types mapEntries wired files = .ok (wired', services)) :
    wired'.Known types ∧ services.length = files.length ∧
      ∀ ss ∈ services, ∀ s ∈ ss, ∀ m ∈ s.methods, Latest types m.input ∧ Latest types m.output := by
  induction files generalizing wired wired' services with
  | nil =>
    cases hw
    exact ⟨h, rfl, by simp⟩
  | cons f rest ih =>
    obtain ⟨w₁, h₁, hw⟩ := bind_eq_ok.1 hw
    obtain ⟨ss, hss, hw⟩ := bind_eq_ok.1 hw
    obtain ⟨⟨w₂, more⟩, h₂, hw⟩ := bind_eq_ok.1 hw
    cases pure_eq_ok.1 hw
    obtain ⟨hk, hl, hm⟩ := ih (wireMessages_known h h₁) h₂
    refine ⟨hk, by simp [hl], ?_⟩
    intro ss' hs
    rcases List.mem_cons.1 hs with rfl | hs
    · exact wireServices_known hss
    · exact hm ss' hs

theorem messagesOf_append (wired : Wired) (later as bs : List TypeRef) :
    messagesOf wired later (as ++ bs) = messagesOf wired (bs ++ later) as ++ messagesOf wired later bs := by
  induction as with
  | nil => rfl
  | cons t rest ih =>
    simp only [List.cons_append, messagesOf, ih, List.append_assoc]

theorem assemble_messages {wired : Wired} {files : List FileDecl} {services : List (List Service)}
    (h : services.length = files.length) :
    (assemble wired files services).flatMap (·.messages) =
      messagesOf wired [] (files.flatMap (·.types)) := by
  induction files generalizing services with
  | nil => simp [assemble, messagesOf]
  | cons f rest ih =>
    cases services with
    | nil => cases h
    | cons ss more =>
      simp only [assemble, List.flatMap_cons, messagesOf_append, List.append_nil]
      rw [ih (Nat.succ.inj h)]

theorem mem_assemble_services {wired : Wired} {files : List FileDecl} {services : List (List Service)}
    {p : ProtoFile} (h : p ∈ assemble wired files services) : p.services ∈ services := by
  induction files generalizing services with
  | nil => simp [assemble] at h
  | cons f rest ih =>
    cases services with
    | nil => simp [assemble] at h
    | cons ss more =>
      rcases List.mem_cons.1 h with rfl | h
      · exact List.mem_cons_self
      · exact List.mem_cons_of_mem _ (ih h)

def Wired.message (wired : Wired) (t : TypeRef) : Message :=
  ⟨t.typeName, t.name, t.file, wired.fieldsOf t.typeName⟩

theorem mem_messagesOf {wired : Wired} {later : List TypeRef} {m : Message}
    (h : m ∈ messagesOf wired later types) :
    m.fields = [] ∨ m = wired.message m.ref ∧ Latest types m.ref := by
  induction types with
  | nil => cases h
  | cons t rest ih =>
    rcases List.mem_cons.1 h with rfl | h
    · dsimp only
      split
      · exact .inl rfl
      · rename_i hn
        simp only [List.any_append, Bool.or_eq_true, not_or, Bool.not_eq_true] at hn
        refine .inr ⟨rfl, ?_⟩
        rw [Latest, List.reverse_cons, List.find?_append]
        have hr : rest.reverse.find? (·.typeName == t.typeName) = none := by
          simpa using hn.1
        simp [Message.ref, hr]
    · refine (ih h).imp_right fun ⟨hm, ht⟩ => ⟨hm, ?_⟩
      rw [Latest, List.reverse_cons, List.find?_append, ht]
      rfl

theorem find?_messagesOf (wired : Wired) (n : String) (types : List TypeRef) :
    (messagesOf wired [] types).reverse.find? (·.typeName == n) =
      (types.reverse.find? (·.typeName == n)).map wired.message := by
  induction types with
  | nil => rfl
  | cons t rest ih =>
    simp only [messagesOf, List.reverse_cons, List.find?_append, ih, List.append_nil]
    cases hr : rest.reverse.find? (·.typeName == n) with
    | some u => rfl
    | none =>
      by_cases hn : t.typeName = n
      · subst hn
        have : rest.any (·.typeName == t.typeName) = false := by simpa using hr
        simp [this, Wired.message]
      · simp [hn]

theorem descriptors_linked {r : Request} {set : DescriptorSet} (h : r.descriptors = .ok set) :
    set.Linked := by
  obtain ⟨⟨wired, services⟩, hw, h⟩ := bind_eq_ok.1 h
  cases pure_eq_ok.1 h
  have hempty : Wired.Known r.types [] := fun p hp => absurd hp List.not_mem_nil
  obtain ⟨hk, hl, hs⟩ := wireFiles_known hempty hw
  have hm : DescriptorSet.messages ⟨assemble wired r.files services, r.filesToGenerate⟩ =
      messagesOf wired [] r.types := assemble_messages hl
  have hfind (n : String) := find?_messagesOf wired n r.types
  rw [← hm] at hfind
  have hd {t : TypeRef} (ht : Latest r.types t) :
      DescriptorSet.Declares ⟨assemble wired r.files services, r.filesToGenerate⟩ t := by
    refine ⟨wired.message t, ?_, rfl⟩
    rw [DescriptorSet.find?, hfind, ht]
    rfl
  refine ⟨fun m hmem => ?_, fun m hmem f hf t ht => hd ?_, fun p hp v hv m hmv => ?_⟩
  · rw [hm] at hmem
    refine (mem_messagesOf hmem).imp_right fun ⟨heq, hlatest⟩ => ?_
    have ht : r.types.reverse.find? (·.typeName == m.typeName) = some m.ref := hlatest
    rw [DescriptorSet.find?, hfind, ht, Option.map_some, ← heq]
  · rw [hm] at hmem
    rcases mem_messagesOf hmem with hnil | ⟨heq, _⟩
    · rw [hnil] at hf
      cases hf
    · rw [heq] at hf
      exact hk _ (Wired.mem_fieldsOf.1 hf) t ht
  · obtain ⟨hi, ho⟩ := hs _ (mem_assemble_services hp) v hv m hmv
    exact ⟨hd hi, hd ho⟩

end RpcBindings.Request
