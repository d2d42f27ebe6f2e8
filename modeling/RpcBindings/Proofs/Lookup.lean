import Mathlib.Data.List.Nodup

namespace RpcBindings

variable [DecidableEq κ] {key : α → κ} {xs ys : List α}

theorem find?_eq_some_of_unique {x : α} (hx : x ∈ xs) (h : ∀ y ∈ xs, key y = key x → y = x) :
    xs.find? (key · == key x) = some x := by
  obtain ⟨y, hy⟩ : ∃ y, xs.find? (key · == key x) = some y := by
    rw [← Option.isSome_iff_exists, List.find?_isSome]
    exact ⟨x, hx, beq_self_eq_true _⟩
  have hkey : key y = key x := by simpa using List.find?_some hy
  rw [hy, h y (List.mem_of_find?_eq_some hy) hkey]

theorem find?_reverse_of_unique {x : α} (hx : x ∈ xs) (h : ∀ y ∈ xs, key y = key x → y = x) :
    xs.reverse.find? (key · == key x) = some x := by
  apply find?_eq_some_of_unique (List.mem_reverse.2 hx)
  intro y hy hkey
  exact h y (List.mem_reverse.1 hy) hkey

/-- Where no two elements have the same key, each one is found by its key. -/
theorem find?_reverse_of_nodup (h : (xs.map key).Nodup) {x : α} (hx : x ∈ xs) :
    xs.reverse.find? (key · == key x) = some x := by
  apply find?_reverse_of_unique hx
  intro y hy hkey
  exact List.inj_on_of_nodup_map h hy hx hkey

theorem find?_eq_some_iff_of_nodup (hn : (xs.map key).Nodup) {k : κ} {x : α} :
    xs.find? (key · == k) = some x ↔ x ∈ xs ∧ key x = k := by
  constructor
  · intro h
    have hkey : key x = k := by simpa using List.find?_some h
    exact ⟨List.mem_of_find?_eq_some h, hkey⟩
  · rintro ⟨hx, rfl⟩
    apply find?_eq_some_of_unique hx
    intro y hy hkey
    exact List.inj_on_of_nodup_map hn hy hx hkey

/-- Where no two elements have the same key, the order makes no difference. -/
theorem find?_eq_of_perm (h : xs.Perm ys) (hn : (xs.map key).Nodup) (k : κ) :
    xs.find? (key · == k) = ys.find? (key · == k) := by
  have hn' : (ys.map key).Nodup := (h.map key).nodup_iff.1 hn
  apply Option.ext
  intro x
  rw [find?_eq_some_iff_of_nodup hn, find?_eq_some_iff_of_nodup hn', h.mem_iff]

end RpcBindings
