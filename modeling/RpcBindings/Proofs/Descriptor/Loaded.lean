import RpcBindings.Proofs.Document.Wiring
import RpcBindings.Proofs.Request.Linked

namespace RpcBindings

def TypeRef.Qualified (t : TypeRef) : Prop := ∃ scope, t.typeName = qualify scope t.name

theorem Request.Messages.qualified {file scope : String} {decls : Messages} :
    ∀ t ∈ decls.types file scope, t.Qualified := by
  induction decls generalizing scope with
  | nil =>
    intro t ht
    cases ht
  | cons name _ _ nested rest ihn ihr =>
    intro t ht
    rcases List.mem_append.1 ht with ht | ht
    · rcases List.mem_cons.1 ht with rfl | ht
      · exact ⟨scope, rfl⟩
      · exact ihn t ht
    · exact ihr t ht

theorem Document.Messages.qualified {file scope : String} {decls : Messages} :
    ∀ t ∈ decls.types file scope, t.Qualified := by
  induction decls generalizing scope with
  | nil =>
    intro t ht
    cases ht
  | cons name _ nested rest ihn ihr =>
    intro t ht
    rcases List.mem_append.1 ht with ht | ht
    · rcases List.mem_cons.1 ht with rfl | ht
      · exact ⟨scope, rfl⟩
      · exact ihn t ht
    · exact ihr t ht

theorem qualified_of_wellKnown {t : TypeRef} (h : t ∈ wellKnownTypes) : t.Qualified := by
  refine ⟨wellKnownPackage, ?_⟩
  revert t
  decide

namespace Request

theorem messagesOf_refs (wired : Wired) (later types : List TypeRef) :
    (messagesOf wired later types).map Message.ref = types := by
  induction types with
  | nil => rfl
  | cons t rest ih =>
    rw [messagesOf, List.map_cons, ih]
    rfl

theorem refs_descriptors {r : Request} {set : DescriptorSet} (h : r.descriptors = .ok set) :
    set.messages.map Message.ref = r.types := by
  obtain ⟨⟨wired, services⟩, hw, h⟩ := bind_eq_ok.1 h
  cases pure_eq_ok.1 h
  have hempty : Wired.Known r.types [] := fun p hp => absurd hp List.not_mem_nil
  rw [DescriptorSet.messages, assemble_messages (wireFiles_known hempty hw).2.1]
  exact messagesOf_refs wired [] _

end Request

namespace DescriptorSet

inductive Loaded : DescriptorSet → Prop where
  | ofRequest {r : Request} {s : DescriptorSet} (h : r.descriptors = .ok s) : Loaded s
  | ofDocument {d : Document} {s : DescriptorSet} (h : d.descriptors = .ok s) : Loaded s

theorem Loaded.linked {s : DescriptorSet} (h : s.Loaded) : s.Linked := by
  cases h with
  | ofRequest h => exact Request.descriptors_linked h
  | ofDocument h => exact Document.descriptors_linked h

theorem Loaded.qualified {s : DescriptorSet} (h : s.Loaded) : ∀ m ∈ s.messages, m.ref.Qualified := by
  intro m hm
  have href := List.mem_map_of_mem (f := Message.ref) hm
  cases h with
  | ofRequest h =>
    rw [Request.refs_descriptors h] at href
    obtain ⟨f, -, hf⟩ := List.mem_flatMap.1 href
    exact Request.Messages.qualified _ hf
  | ofDocument h =>
    obtain ⟨files, added, -, hadded, hb, rfl⟩ := Document.descriptors_eq_ok h
    rw [Document.refs_descriptors hb] at href
    rcases List.mem_append.1 href with href | href
    · obtain ⟨f, -, hf⟩ := List.mem_flatMap.1 href
      exact Document.Messages.qualified _ hf
    · exact qualified_of_wellKnown (hadded href)

theorem Loaded.qualified_of_declares {s : DescriptorSet} (h : s.Loaded) {t : TypeRef} (ht : s.Declares t) :
    t.Qualified := by
  obtain ⟨m, hm, rfl⟩ := ht
  exact h.qualified m (find?_mem hm).1

end DescriptorSet

end RpcBindings
