import RpcBindings.Descriptor.Basic
import RpcBindings.Text.Case

namespace RpcBindings

def paginationKeys : List String := ["page", "offset", "cursor", "limit", "pagesize", "pagenumber"]

def Field.isPaginationKey (f : Field) : Bool := paginationKeys.contains (Text.lower f.name)

def Field.step? (f : Field) : Option String :=
  if f.kind = .message then f.target.map (·.typeName) else none

namespace DescriptorSet

def fieldsOf (s : DescriptorSet) (typeName : String) : List Field :=
  ((s.find? typeName).map (·.fields)).getD []

/-- The messages whose type name is not yet visited. -/
def unvisited (s : DescriptorSet) (visited : List String) : List Message :=
  s.messages.filter fun m => !visited.contains m.typeName

theorem find?_mem {s : DescriptorSet} {n : String} {m : Message} (h : s.find? n = some m) :
    m ∈ s.messages ∧ m.typeName = n := by
  refine ⟨List.mem_reverse.1 (List.mem_of_find?_eq_some h), ?_⟩
  simpa using List.find?_some h

theorem unvisited_cons (s : DescriptorSet) (visited : List String) (n : String) :
    s.unvisited (n :: visited) = (s.unvisited visited).filter fun m => m.typeName != n := by
  simp only [unvisited, List.filter_filter]
  congr 1
  funext m
  by_cases h : m.typeName = n <;> simp [h]

theorem unvisited_length_le (s : DescriptorSet) (visited : List String) (n : String) :
    (s.unvisited (n :: visited)).length ≤ (s.unvisited visited).length := by
  rw [unvisited_cons]
  exact List.length_filter_le ..

theorem unvisited_length_lt {s : DescriptorSet} {visited : List String} {n : String} {m : Message}
    (hm : s.find? n = some m) (hn : n ∉ visited) :
    (s.unvisited (n :: visited)).length < (s.unvisited visited).length := by
  obtain ⟨hmem, rfl⟩ := find?_mem hm
  rw [unvisited_cons, List.length_filter_lt_length_iff_exists]
  exact ⟨m, by simp [unvisited, hmem, hn], by simp⟩

theorem unvisited_fields (s : DescriptorSet) {visited : List String} {n : String} (hn : n ∉ visited)
    (rest : List Field) :
    (s.unvisited (n :: visited)).length < (s.unvisited visited).length ∨
      (s.unvisited (n :: visited)).length = (s.unvisited visited).length ∧
        s.fieldsOf n ++ rest = rest := by
  cases h : s.find? n with
  | some m => exact .inl (unvisited_length_lt h hn)
  | none =>
    rcases Nat.lt_or_eq_of_le (unvisited_length_le s visited n) with hlt | heq
    · exact .inl hlt
    · exact .inr ⟨heq, by simp [fieldsOf, h]⟩

/-- Looks through the pending fields, and through the fields of every message first entered on the way.
Yields whether a paging parameter was met, and the type names visited, latest first. -/
def searchFields (s : DescriptorSet) (visited : List String) : List Field → Bool × List String
  | [] => (false, visited)
  | f :: rest =>
    if f.isPaginationKey then (true, visited)
    else match f.step? with
      | none => s.searchFields visited rest
      | some n =>
        if n ∈ visited then s.searchFields visited rest
        else s.searchFields (n :: visited) (s.fieldsOf n ++ rest)
termination_by pending => ((s.unvisited visited).length, pending.length)
decreasing_by
  · exact Prod.Lex.right _ (Nat.lt_succ_self _)
  · exact Prod.Lex.right _ (Nat.lt_succ_self _)
  · rename_i hn
    rcases s.unvisited_fields hn rest with hlt | ⟨heq, hfields⟩
    · exact Prod.Lex.left _ _ hlt
    · rw [heq, hfields]
      exact Prod.Lex.right _ (Nat.lt_succ_self _)

def searchFrom (s : DescriptorSet) (m : Message) (visited : List String) : Bool × List String :=
  if m.typeName ∈ visited then (false, visited)
  else s.searchFields (m.typeName :: visited) m.fields

def isPaginated (s : DescriptorSet) (m : Message) : Bool := (s.searchFrom m []).1

end DescriptorSet

end RpcBindings
