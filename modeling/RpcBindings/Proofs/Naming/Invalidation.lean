import RpcBindings.Naming
import RpcBindings.Proofs.Text.Erase

namespace RpcBindings.Naming

/-- The name of a query whose key is the name itself. -/
structure IsQuery (name : String) : Prop where
  noVerb : isMutation name = false
  notAll : Text.startsWith name listAll = false

def Invalidates (mutation query : String) : Prop := (resource mutation).toList <:+: (resource query).toList

variable {verbs : List String} {name v w : String}

/-- If the name starts with one of the verbs only, that one is deleted. -/
theorem withoutVerb_of_unique (h : ∀ w ∈ verbs, Text.startsWith name w = true ↔ w = v) (hv : v ∈ verbs) :
    withoutVerb verbs name = Text.eraseAll name v := by
  have hfold (found : String) : verbs.foldl (fun found verb =>
      if Text.startsWith name verb then Text.eraseAll name verb else found) found =
        if v ∈ verbs then Text.eraseAll name v else found := by
    clear hv
    induction verbs generalizing found with
    | nil => rfl
    | cons w rest ih =>
      obtain ⟨hw, hrest⟩ := List.forall_mem_cons.1 h
      rw [List.foldl_cons, ih hrest]
      by_cases hwv : w = v
      · rw [if_pos (hw.2 hwv), hwv, if_pos List.mem_cons_self, ite_self]
      · rw [if_neg (mt hw.1 hwv)]
        simp only [List.mem_cons, Ne.symm hwv, false_or]
  rw [withoutVerb, hfold, if_pos hv]

theorem withoutVerb_of_none (h : ∀ w ∈ verbs, Text.startsWith name w = false) :
    withoutVerb verbs name = name := by
  rw [withoutVerb]
  induction verbs with
  | nil => rfl
  | cons w rest ih =>
    obtain ⟨hw, hrest⟩ := List.forall_mem_cons.1 h
    rw [List.foldl_cons, hw]
    exact ih hrest

theorem startsWith_iff {text head : String} :
    Text.startsWith text head = true ↔ head.toList <+: text.toList :=
  List.isPrefixOf_iff_prefix

theorem verbs_separate : ∀ v ∈ mutationVerbs, ∀ w ∈ listAll :: mutationVerbs,
    w.toList <+: v.toList ∨ v.toList <+: w.toList → w = v := by
  decide

theorem startsWith_append (hv : v ∈ mutationVerbs) (hw : w ∈ listAll :: mutationVerbs) (r : String) :
    Text.startsWith (v ++ r) w = true ↔ w = v := by
  rw [startsWith_iff, String.toList_append]
  constructor
  · intro h
    exact verbs_separate v hv w hw (List.prefix_or_prefix_of_prefix h (List.prefix_append _ _))
  · rintro rfl
    exact List.prefix_append _ _

theorem exists_cons_of_start (hw : w ∈ listAll :: mutationVerbs) :
    ∃ c tail, w.toList = c :: tail ∧ c ∉ tail ∧ c ≠ 'x' ∧ c ≠ 'y' := by
  have hall : ∀ w ∈ listAll :: mutationVerbs, w.toList ≠ [] ∧
      w.toList.head?.all fun c => c ∉ w.toList.tail ∧ c ≠ 'x' ∧ c ≠ 'y' := by decide
  obtain ⟨hne, hc⟩ := hall w hw
  obtain ⟨c, tail, heq⟩ := List.exists_cons_of_ne_nil hne
  rw [heq, List.head?_cons, Option.all_some, List.tail_cons, decide_eq_true_iff] at hc
  exact ⟨c, tail, heq, hc⟩

theorem resource_mutation (hv : v ∈ mutationVerbs) (r : String) : resource (v ++ r) = Text.eraseAll r v := by
  have hall : Text.startsWith (v ++ r) listAll = false := by
    rw [Bool.eq_false_iff, ne_eq, startsWith_append hv List.mem_cons_self]
    rintro rfl
    exact absurd hv (by decide)
  have hverb : ∀ w ∈ mutationVerbs, Text.startsWith (v ++ r) w = true ↔ w = v := fun w hw =>
    startsWith_append hv (List.mem_cons_of_mem _ hw) r
  obtain ⟨c, tail, heq, -⟩ := exists_cons_of_start (List.mem_cons_of_mem _ hv)
  have hne : v.toList ≠ [] := by
    rw [heq]
    exact List.cons_ne_nil c tail
  rw [resource, resourceBy, hall, if_neg Bool.false_ne_true, withoutVerb_of_unique hverb hv, Text.eraseAll,
    String.toList_append, Text.eraseFrom_needle hne]
  rfl

theorem IsQuery.resource_eq (h : IsQuery name) : resource name = name := by
  rw [resource, resourceBy, h.notAll, if_neg Bool.false_ne_true]
  refine withoutVerb_of_none fun w hw => ?_
  have hnone := List.any_eq_false.1 h.noVerb w hw
  simpa using hnone

theorem isQuery_of_head {c : Char} (hc : c = 'x' ∨ c = 'y') (r : String) :
    IsQuery (String.singleton c ++ r) := by
  have hstart : ∀ w ∈ listAll :: mutationVerbs, Text.startsWith (String.singleton c ++ r) w = false := by
    intro w hw
    obtain ⟨d, tail, heq, -, hx, hy⟩ := exists_cons_of_start hw
    rw [Bool.eq_false_iff, ne_eq, startsWith_iff, heq, String.toList_append, String.toList_singleton,
      List.singleton_append, List.cons_prefix_cons]
    rintro ⟨rfl, -⟩
    exact hc.elim hx hy
  obtain ⟨hall, hverbs⟩ := List.forall_mem_cons.1 hstart
  exact ⟨List.any_eq_false.2 fun w hw => by simp [hverbs w hw], hall⟩

theorem infix_of_forall_head {key text : List Char}
    (h : ∀ c, c = 'x' ∨ c = 'y' → key <:+: c :: text) : key <:+: text := by
  cases key with
  | nil => exact List.nil_infix
  | cons d rest =>
    obtain ⟨c, hc, hne⟩ : ∃ c, (c = 'x' ∨ c = 'y') ∧ d ≠ c := by
      by_cases hd : d = 'x'
      · exact ⟨'y', .inr rfl, by rw [hd]; decide⟩
      · exact ⟨'x', .inl rfl, hd⟩
    rcases List.infix_cons_iff.1 (h c hc) with hprefix | hinfix
    · exact absurd (List.cons_prefix_cons.1 hprefix).1 hne
    · exact hinfix

/-- The key of a mutation is what its verb applies to, with all occurrences of the verb deleted. It is part of
the keys of all queries for the same thing exactly if what is left is part of the thing's own name, and so
it is if the verb occurs in that name at its two ends at most. -/
theorem invalidates_iff (hv : v ∈ mutationVerbs) (r : String) :
    (∀ p, IsQuery (p ++ r) → resource (v ++ r) = Text.eraseAll r v ∧ resource (p ++ r) = p ++ r) ∧
      ((∀ p, IsQuery (p ++ r) → Invalidates (v ++ r) (p ++ r)) ↔
        (Text.eraseAll r v).toList <:+: r.toList) ∧
      ∀ m middle n, r.toList = (List.replicate m v.toList).flatten ++ (middle ++
          (List.replicate n v.toList).flatten) → ¬v.toList <:+: middle →
        ∀ p, IsQuery (p ++ r) → Invalidates (v ++ r) (p ++ r) := by
  have hkeys (p : String) (hp : IsQuery (p ++ r)) : Invalidates (v ++ r) (p ++ r) ↔
      (Text.eraseAll r v).toList <:+: p.toList ++ r.toList := by
    rw [Invalidates, resource_mutation hv, hp.resource_eq, String.toList_append]
  have hpart (h : (Text.eraseAll r v).toList <:+: r.toList) (p : String) (hp : IsQuery (p ++ r)) :
      Invalidates (v ++ r) (p ++ r) := (hkeys p hp).2 (h.trans (List.suffix_append _ _).isInfix)
  refine ⟨fun p hp => ⟨resource_mutation hv r, hp.resource_eq⟩, ⟨fun h => ?_, hpart⟩, ?_⟩
  · refine infix_of_forall_head fun c hc => ?_
    have hq := isQuery_of_head hc r
    have hinfix := (hkeys _ hq).1 (h _ hq)
    rw [String.toList_singleton] at hinfix
    exact hinfix
  · intro m middle n hr hmiddle
    obtain ⟨c, tail, heq, hc, -⟩ := exists_cons_of_start (List.mem_cons_of_mem _ hv)
    refine hpart ?_
    rw [Text.eraseAll, String.toList_ofList, hr, heq, Text.eraseFrom_between hc (heq ▸ hmiddle)]
    exact (List.prefix_append middle _).isInfix.trans (List.suffix_append _ _).isInfix

theorem invalidates_iff_ticket : Invalidates ("Create" ++ "TicketStatus") ("Get" ++ "TicketStatus") ∧
    Invalidates ("Set" ++ "SetMembers") ("List" ++ "SetMembers") := by
  have hcreate : "Create" ∈ mutationVerbs := by decide
  have hset : "Set" ∈ mutationVerbs := by decide
  have hget : IsQuery ("Get" ++ "TicketStatus") := ⟨by decide +kernel, by decide +kernel⟩
  have hlist : IsQuery ("List" ++ "SetMembers") := ⟨by decide +kernel, by decide +kernel⟩
  exact ⟨(invalidates_iff hcreate _).2.2 0 "TicketStatus".toList 0 (by decide) (by decide) "Get" hget,
    (invalidates_iff hset _).2.2 1 "Members".toList 0 (by decide) (by decide) "List" hlist⟩

/-- The verb stands within what it applies to: `Usertings` is not part of `GetUserSettings`. -/
theorem not_invalidates_userSettings :
    "Set" ∈ mutationVerbs ∧ "UserSettings" ≠ "" ∧ IsQuery ("Get" ++ "UserSettings") ∧
      ¬Invalidates ("Set" ++ "UserSettings") ("Get" ++ "UserSettings") := by
  have hquery : IsQuery ("Get" ++ "UserSettings") := ⟨by decide +kernel, by decide +kernel⟩
  refine ⟨by decide, by decide, hquery, ?_⟩
  rw [Invalidates, hquery.resource_eq, resource_mutation (by decide)]
  decide +kernel

end RpcBindings.Naming
