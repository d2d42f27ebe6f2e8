import RpcBindings.Failure
import RpcBindings.Proofs.Document.Wiring

namespace RpcBindings.Document

/-- The scope around a reference: the package where no other is given. -/
def scopeOr (package : String) (scope : Option String) : String :=
  match scope with
  | some s => if s = "" then package else s
  | none => package

def components (scope : String) : List String := if scope = "" then [] else Text.splitOn '.' scope

/-- The name that a reference has within the first components of a scope; within none of them it is the reference. -/
def within (scope ref : String) (k : Nat) : String :=
  qualify (".".intercalate ((components scope).take k)) ref

/-- The type is the one in the table that the reference names within `k` components, and within more of them the
reference names none. -/
structure Innermost (table : List TypeRef) (scope ref : String) (k : Nat) (t : TypeRef) : Prop where
  le : k ≤ (components scope).length
  entry : table.find? (·.typeName == within scope ref k) = some t
  deeper : ∀ j, k < j → j ≤ (components scope).length → ∀ u ∈ table, u.typeName ≠ within scope ref j

/-- What a reference stands for in a table: with a leading dot only what has its name without the dots. -/
inductive StandsFor (table : List TypeRef) (scope ref : String) (t : TypeRef) : Prop where
  | qualified (hdot : Text.startsWith ref "." = true) (h : table.find? (·.typeName == bareRef ref) = some t)
  | innermost {k : Nat} (hdot : Text.startsWith ref "." = false) (h : Innermost table scope ref k t)

variable {table before after : List TypeRef} {scope ref : String} {t u : TypeRef} {k : Nat}

theorem within_zero (scope ref : String) : within scope ref 0 = ref := by
  rw [within, List.take_zero]
  rfl

theorem candidates_eq (hdot : Text.startsWith ref "." = false) :
    candidates scope ref = (List.range ((components scope).length + 1)).reverse.map (within scope ref) := by
  have hlist : (if scope = "" then [] else enclosing (Text.splitOn '.' scope) ref) =
      (List.range (components scope).length).reverse.map fun k => within scope ref (k + 1) := by
    by_cases hscope : scope = ""
    · rw [if_pos hscope, components, if_pos hscope]
      rfl
    · have hparts : components scope = Text.splitOn '.' scope := if_neg hscope
      rw [if_neg hscope, enclosing, ← hparts]
      rfl
  rw [candidates, hdot, if_neg Bool.false_ne_true, hlist, List.range_succ_eq_map, List.reverse_cons, List.map_append,
    ← List.map_reverse, List.map_map, List.map_singleton, within_zero]
  rfl

theorem findSome?_range_reverse {f : Nat → Option β} {b : β} {n : Nat} :
    (List.range (n + 1)).reverse.findSome? f = some b ↔
      ∃ k ≤ n, f k = some b ∧ ∀ j, k < j → j ≤ n → f j = none := by
  induction n with
  | zero =>
    constructor
    · intro h
      simp at h
      exact ⟨0, Nat.le_refl 0, h, by omega⟩
    · rintro ⟨k, hk, h, -⟩
      obtain rfl := Nat.le_zero.1 hk
      simp [h]
  | succ n ih =>
    rw [List.range_succ, List.reverse_append, List.reverse_singleton, List.singleton_append, List.findSome?_cons]
    cases hf : f (n + 1) with
    | some c =>
      constructor
      · intro h
        cases h
        exact ⟨n + 1, Nat.le_refl _, hf, by omega⟩
      · rintro ⟨k, hk, h, hlast⟩
        rcases Nat.lt_or_eq_of_le hk with hlt | rfl
        · rw [hlast (n + 1) hlt (Nat.le_refl _)] at hf
          cases hf
        · rw [← h, hf]
    | none =>
      rw [ih]
      constructor
      · rintro ⟨k, hk, h, hlast⟩
        refine ⟨k, by omega, h, fun j hj hle => ?_⟩
        rcases Nat.lt_or_eq_of_le hle with hlt | rfl
        · exact hlast j hj (by omega)
        · exact hf
      · rintro ⟨k, hk, h, hlast⟩
        have hne : k ≠ n + 1 := by
          rintro rfl
          rw [hf] at h
          cases h
        exact ⟨k, by omega, h, fun j hj hle => hlast j hj (by omega)⟩

theorem find?_typeName_eq_none {n : String} :
    table.find? (·.typeName == n) = none ↔ ∀ u ∈ table, u.typeName ≠ n := by
  simp [List.find?_eq_none]

theorem lookup?_eq_some : lookup? table scope ref = some t ↔ StandsFor table scope ref t := by
  rw [lookup?]
  cases hdot : Text.startsWith ref "." with
  | true =>
    rw [candidates, hdot, if_pos rfl, List.findSome?_cons]
    constructor
    · intro h
      refine .qualified hdot ?_
      cases hfind : table.find? (·.typeName == bareRef ref) with
      | some u =>
        rw [hfind] at h
        exact h
      | none =>
        rw [hfind] at h
        cases h
    · intro h
      cases h with
      | qualified _ h => rw [h]
      | innermost hdot' _ => cases hdot.symm.trans hdot'
  | false =>
    rw [candidates_eq hdot, List.findSome?_map, findSome?_range_reverse]
    constructor
    · rintro ⟨k, hk, h, hlast⟩
      exact .innermost hdot ⟨hk, h, fun j hj hle => find?_typeName_eq_none.1 (hlast j hj hle)⟩
    · intro h
      cases h with
      | qualified hdot' _ => cases hdot.symm.trans hdot'
      | innermost _ h =>
        exact ⟨_, h.le, h.entry, fun j hj hle => find?_typeName_eq_none.2 (h.deeper j hj hle)⟩

/-- A type of another name makes no difference to who has a name. -/
theorem find?_insert {n : String} (hn : u.typeName ≠ n) :
    (before ++ u :: after).find? (·.typeName == n) = (before ++ after).find? (·.typeName == n) := by
  have hu : (u.typeName == n) = false := by simpa using hn
  simp only [List.find?_append, List.find?_cons, hu]

theorem Innermost.insert (h : Innermost (before ++ after) scope ref k t)
    (hu : u.typeName ∉ (before ++ after).map (·.typeName))
    (hdeeper : ∀ j, k < j → j ≤ (components scope).length → u.typeName ≠ within scope ref j) :
    Innermost (before ++ u :: after) scope ref k t := by
  have hname : t.typeName = within scope ref k := by simpa using List.find?_some h.entry
  have hmem : t ∈ before ++ after := List.mem_of_find?_eq_some h.entry
  have hne : u.typeName ≠ within scope ref k := fun heq =>
    hu (List.mem_map.2 ⟨t, hmem, hname.trans heq.symm⟩)
  refine ⟨h.le, (find?_insert hne).trans h.entry, fun j hj hle v hv => ?_⟩
  rcases List.mem_append.1 hv with hv | hv
  · exact h.deeper j hj hle v (List.mem_append_left _ hv)
  · rcases List.mem_cons.1 hv with rfl | hv
    · exact hdeeper j hj hle
    · exact h.deeper j hj hle v (List.mem_append_right _ hv)

/-- A new type takes the place of what a reference stands for only if it is declared further in. -/
theorem StandsFor.insert (h : StandsFor (before ++ after) scope ref t)
    (hu : u.typeName ∉ (before ++ after).map (·.typeName)) :
    StandsFor (before ++ u :: after) scope ref t ∨
      Text.startsWith ref "." = false ∧ ∃ k j, Innermost (before ++ after) scope ref k t ∧ k < j ∧
        j ≤ (components scope).length ∧ u.typeName = within scope ref j := by
  cases h with
  | qualified hdot h =>
    have hname : t.typeName = bareRef ref := by simpa using List.find?_some h
    have hne : u.typeName ≠ bareRef ref := fun heq =>
      hu (List.mem_map.2 ⟨t, List.mem_of_find?_eq_some h, hname.trans heq.symm⟩)
    exact .inl (.qualified hdot ((find?_insert hne).trans h))
  | @innermost k hdot h =>
    by_cases hdeeper : ∃ j, k < j ∧ j ≤ (components scope).length ∧ u.typeName = within scope ref j
    · obtain ⟨j, hj, hle, heq⟩ := hdeeper
      exact .inr ⟨hdot, k, j, h, hj, hle, heq⟩
    · exact .inl (.innermost hdot (h.insert hu fun j hj hle heq => hdeeper ⟨j, hj, hle, heq⟩))

/-- Resolving a reference gives what it stands for in the table. If it stands for nothing there, a well-known type of
its name is added, and without one the reference is an error. Of types that are added to a table, only one that is
declared further in than what the reference stands for gives it another meaning. -/
theorem resolve_innermost (declared added : List TypeRef) (package : String) (scope : Option String) (ref : String) :
    (∀ t, StandsFor (declared ++ added) (scopeOr package scope) ref t →
      resolve declared package (scopeOr package scope) ref added = .ok t added) ∧
    ((∀ t, ¬StandsFor (declared ++ added) (scopeOr package scope) ref t) →
      (∀ t, wellKnown? (bareRef ref) = some t →
        resolve declared package (scopeOr package scope) ref added = .ok t (added ++ [t])) ∧
      (wellKnown? (bareRef ref) = none →
        resolve declared package (scopeOr package scope) ref added = .error (.unknownType (bareRef ref) package) added ∧
          (Failure.document (.unknownType (bareRef ref) package)).label = "ValueError")) ∧
    ∀ t before after u declared' added', StandsFor (declared ++ added) (scopeOr package scope) ref t →
      declared ++ added = before ++ after → u.typeName ∉ (declared ++ added).map (·.typeName) →
      declared' ++ added' = before ++ u :: after →
      resolve declared' package (scopeOr package scope) ref added' = .ok t added' ∨
        Text.startsWith ref "." = false ∧ ∃ k j, Innermost (declared ++ added) (scopeOr package scope) ref k t ∧
          k < j ∧ j ≤ (components (scopeOr package scope)).length ∧
          u.typeName = within (scopeOr package scope) ref j := by
  have hmatch (declared added : List TypeRef) (t : TypeRef)
      (h : StandsFor (declared ++ added) (scopeOr package scope) ref t) :
      resolve declared package (scopeOr package scope) ref added = .ok t added := by
    rw [resolve_eq, lookup?_eq_some.2 h]
  refine ⟨hmatch declared added, fun hnone => ?_, ?_⟩
  · have hlookup : lookup? (declared ++ added) (scopeOr package scope) ref = none :=
      Option.eq_none_iff_forall_ne_some.2 fun t ht => hnone t (lookup?_eq_some.1 ht)
    refine ⟨fun t ht => ?_, fun ht => ⟨?_, rfl⟩⟩
    · rw [resolve_eq, hlookup, ht]
    · rw [resolve_eq, hlookup, ht]
  · intro t before after u declared' added' h htable hu htable'
    rw [htable] at h hu ⊢
    refine (h.insert hu).imp_left fun h' => hmatch declared' added' t ?_
    rwa [htable']

def boxTypes : List TypeRef := [⟨"p.Item", "Item", "a"⟩, ⟨"p.Box", "Box", "a"⟩]

def innerItem : TypeRef := ⟨"p.Box.Item", "Item", "a"⟩

theorem resolve_innermost_box :
    resolve boxTypes "p" "p.Box" "Item" [] = .ok ⟨"p.Item", "Item", "a"⟩ [] ∧
      resolve (boxTypes ++ [innerItem]) "p" "p.Box" "Item" [] = .ok innerItem [] ∧
      resolve (boxTypes ++ [innerItem]) "p" "p.Box" ".p.Item" [] = .ok ⟨"p.Item", "Item", "a"⟩ [] := by
  have hnone : ∀ j, 1 < j → j ≤ (components "p.Box").length → ∀ u ∈ boxTypes, u.typeName ≠ within "p.Box" "Item" j := by
    intro j hj hle
    have hlength : (components "p.Box").length = 2 := by decide +kernel
    obtain rfl : j = 2 := by omega
    decide +kernel
  have houter : Innermost boxTypes "p.Box" "Item" 1 ⟨"p.Item", "Item", "a"⟩ :=
    ⟨by decide +kernel, by decide +kernel, hnone⟩
  have hinner : Innermost (boxTypes ++ [innerItem]) "p.Box" "Item" 2 innerItem := by
    refine ⟨by decide +kernel, by decide +kernel, fun j hj hle => ?_⟩
    have hlength : (components "p.Box").length = 2 := by decide +kernel
    omega
  have hdot : Text.startsWith "Item" "." = false := by decide
  refine ⟨?_, ?_, ?_⟩
  · exact (resolve_innermost boxTypes [] "p" (some "p.Box") "Item").1 _ (.innermost hdot houter)
  · exact (resolve_innermost (boxTypes ++ [innerItem]) [] "p" (some "p.Box") "Item").1 _ (.innermost hdot hinner)
  · exact (resolve_innermost (boxTypes ++ [innerItem]) [] "p" (some "p.Box") ".p.Item").1 _
      (.qualified (by decide) (by decide +kernel))

end RpcBindings.Document
