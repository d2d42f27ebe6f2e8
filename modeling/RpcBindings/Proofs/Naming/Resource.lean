import RpcBindings.Proofs.Naming.Invalidation

namespace RpcBindings.Naming

def starts : List String := listAll :: mutationVerbs

variable {name v w : String} {verbs table : List String}

theorem start_unique (hv : v ∈ starts) (hw : w ∈ starts) (h : Text.startsWith name v = true)
    (h' : Text.startsWith name w = true) : v = w := by
  have hcomparable := List.prefix_or_prefix_of_prefix (startsWith_iff.1 h) (startsWith_iff.1 h')
  rcases List.mem_cons.1 hv with rfl | hverb
  · rcases List.mem_cons.1 hw with rfl | hverb'
    · rfl
    · exact verbs_separate w hverb' listAll hv hcomparable
  · exact (verbs_separate v hverb w hw hcomparable.symm).symm

theorem start_ne_nil (hv : v ∈ starts) : v.toList ≠ [] := by
  obtain ⟨c, tail, heq, -⟩ := exists_cons_of_start hv
  rw [heq]
  exact List.cons_ne_nil c tail

/-- A table that holds the start there is deletes it, whatever else it holds and in whatever order. -/
theorem withoutVerb_of_start (htable : ∀ w ∈ table, w ∈ starts) (hv : v ∈ starts) (hmem : v ∈ table)
    (h : Text.startsWith name v = true) : withoutVerb table name = Text.eraseAll name v := by
  apply withoutVerb_of_unique _ hmem
  intro w hw
  constructor
  · intro hstart
    exact start_unique (htable w hw) hv hstart h
  · rintro rfl
    exact h

theorem resourceBy_of_start (hverbs : verbs.Perm mutationVerbs) (hv : v ∈ starts)
    (h : Text.startsWith name v = true) : resourceBy verbs name = Text.eraseAll name v := by
  rw [resourceBy]
  by_cases hall : Text.startsWith name listAll = true
  · rw [if_pos hall, start_unique hv List.mem_cons_self h hall]
  · rw [if_neg hall]
    apply withoutVerb_of_start _ hv _ h
    · intro w hw
      exact List.mem_cons_of_mem listAll (hverbs.mem_iff.1 hw)
    · rcases List.mem_cons.1 hv with rfl | hverb
      · exact absurd h hall
      · exact hverbs.mem_iff.2 hverb

theorem resourceBy_of_none (hverbs : verbs.Perm mutationVerbs)
    (h : ∀ w ∈ starts, Text.startsWith name w = false) : resourceBy verbs name = name := by
  obtain ⟨hall, hnone⟩ := List.forall_mem_cons.1 h
  rw [resourceBy, hall, if_neg Bool.false_ne_true]
  apply withoutVerb_of_none
  intro w hw
  exact hnone w (hverbs.mem_iff.1 hw)

theorem exists_start_or_none (name : String) : (∃ v ∈ starts, Text.startsWith name v = true) ∨
    ∀ w ∈ starts, Text.startsWith name w = false := by
  by_cases h : ∃ v ∈ starts, Text.startsWith name v = true
  · exact .inl h
  · right
    intro w hw
    apply Bool.eq_false_iff.2
    intro hstart
    exact h ⟨w, hw, hstart⟩

theorem resourceBy_perm (hverbs : verbs.Perm mutationVerbs) (name : String) :
    resourceBy verbs name = resource name := by
  rcases exists_start_or_none name with ⟨v, hv, h⟩ | h
  · rw [resource, resourceBy_of_start hverbs hv h, resourceBy_of_start .rfl hv h]
  · rw [resource, resourceBy_of_none hverbs h, resourceBy_of_none .rfl h]

theorem withoutVerb_perm (htable : table.Perm starts) (name : String) :
    withoutVerb table name = resource name := by
  rcases exists_start_or_none name with ⟨v, hv, h⟩ | h
  · rw [resource, resourceBy_of_start .rfl hv h]
    apply withoutVerb_of_start _ hv (htable.mem_iff.2 hv) h
    intro w hw
    exact htable.mem_iff.1 hw
  · rw [resource, resourceBy_of_none .rfl h]
    apply withoutVerb_of_none
    intro w hw
    exact h w (htable.mem_iff.1 hw)

theorem erased_resource (hv : v ∈ starts) (h : Text.startsWith name v = true) :
    Text.Erased v.toList name.toList (resource name).toList := by
  rw [resource, resourceBy_of_start .rfl hv h, Text.eraseAll, String.toList_ofList]
  exact Text.erased_eraseFrom (start_ne_nil hv) name.toList

theorem length_resource_lt (hv : v ∈ starts) (h : Text.startsWith name v = true) :
    (resource name).length < name.length := by
  have hlt := (erased_resource hv h).length_lt (start_ne_nil hv) (startsWith_iff.1 h)
  rwa [String.length_toList, String.length_toList] at hlt

/-- Apart from lists of all, the names from which something is deleted are those of mutations. -/
theorem isMutation_iff_resource_ne (hall : Text.startsWith name listAll = false) :
    isMutation name = true ↔ resource name ≠ name := by
  rw [isMutation, List.any_eq_true]
  constructor
  · rintro ⟨v, hv, h⟩ heq
    have hlt := length_resource_lt (List.mem_cons_of_mem listAll hv) h
    rw [heq] at hlt
    exact Nat.lt_irrefl _ hlt
  · intro hne
    rcases exists_start_or_none name with ⟨v, hv, h⟩ | h
    · rcases List.mem_cons.1 hv with rfl | hverb
      · rw [hall] at h
        cases h
      · exact ⟨v, hverb, h⟩
    · exact absurd (resourceBy_of_none .rfl h) hne

/-- At most one start is found in a name, so the order of the table does not count. What is found is deleted
wherever it stands, which leaves less; what mutates is what the verbs change. -/
theorem resource_exact (name : String) :
    (∀ v ∈ starts, ∀ w ∈ starts, Text.startsWith name v = true → Text.startsWith name w = true → v = w) ∧
      (∀ verbs : List String, verbs.Perm mutationVerbs → resourceBy verbs name = resource name) ∧
      (∀ table : List String, table.Perm starts → withoutVerb table name = resource name) ∧
      ((∀ w ∈ starts, Text.startsWith name w = false) → resource name = name) ∧
      (∀ v ∈ starts, Text.startsWith name v = true →
        Text.Erased v.toList name.toList (resource name).toList ∧
          (resource name).toList.Sublist name.toList ∧ (resource name).length < name.length) ∧
      (Text.startsWith name listAll = false → (isMutation name = true ↔ resource name ≠ name)) := by
  refine ⟨?_, fun verbs h => resourceBy_perm h name, fun table h => withoutVerb_perm h name,
    resourceBy_of_none .rfl, ?_, isMutation_iff_resource_ne⟩
  · intro v hv w hw h h'
    exact start_unique hv hw h h'
  · intro v hv h
    have herased := erased_resource hv h
    exact ⟨herased, herased.sublist, length_resource_lt hv h⟩

/-- What is left may start with the verb again. -/
theorem resource_exact_anew :
    "Add" ∈ starts ∧ Text.startsWith "AddAAddddress" "Add" = true ∧
      ["Add", "ListAll", "Set", "Post", "Patch", "Remove", "Delete", "Update", "Create"].Perm starts ∧
      withoutVerb ["Add", "ListAll", "Set", "Post", "Patch", "Remove", "Delete", "Update", "Create"]
        "AddAAddddress" = "Address" ∧
      Text.Erased "Add".toList "AddAAddddress".toList "Address".toList ∧ isMutation "AddAAddddress" = true := by
  have hresource : resource "AddAAddddress" = "Address" := by decide +kernel
  have hmem : "Add" ∈ starts := by decide
  have hstart : Text.startsWith "AddAAddddress" "Add" = true := by decide +kernel
  have htable : ["Add", "ListAll", "Set", "Post", "Patch", "Remove", "Delete", "Update", "Create"].Perm
      starts := by decide +kernel
  obtain ⟨-, -, hperm, -, herased, hmutation⟩ := resource_exact "AddAAddddress"
  have hleft := (herased "Add" hmem hstart).1
  have hone := hperm _ htable
  have hchanged := (hmutation (by decide +kernel)).2
  rw [hresource] at hleft hone hchanged
  exact ⟨hmem, hstart, htable, hone, hleft, hchanged (by decide)⟩

end RpcBindings.Naming
