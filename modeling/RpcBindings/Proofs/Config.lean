import RpcBindings.Config

namespace RpcBindings

namespace Schema

open RpcBindings.Data

theorem Check.map_eq_pass {c : Check α} {f : α → β} {b : β} :
    c.map f = .pass b ↔ ∃ a, c = .pass a ∧ f a = b := by
  cases c <;> simp [map]

theorem Check.and_eq_pass {c : Check α} {d : Check β} {p : α × β} :
    c.and d = .pass p ↔ c = .pass p.1 ∧ d = .pass p.2 := by
  cases c <;> cases d <;> simp [Check.and, Prod.ext_iff]

theorem Check.toExcept_eq_ok {c : Check α} {a : α} : c.toExcept = .ok a ↔ c = .pass a := by
  cases c <;> simp [toExcept]

theorem Check.andThen_eq_pass {c : Check α} {f : α → Check β} {b : β} :
    c.andThen f = .pass b ↔ ∃ a, c = .pass a ∧ f a = .pass b := by
  cases c <;> simp [andThen]

theorem nonEmptyText_eq_pass {v : Value} {s : String} :
    nonEmptyText v = .pass s ↔ text v = .pass s ∧ s ≠ "" := by
  rw [nonEmptyText, Check.andThen_eq_pass]
  constructor
  · rintro ⟨t, ht, hs⟩
    rw [nonEmpty] at hs
    split at hs
    · cases hs
    · rename_i hne
      cases hs
      exact ⟨ht, hne⟩
  · rintro ⟨ht, hne⟩
    exact ⟨s, ht, if_neg hne⟩

theorem optional_ne_empty {name default s : String} {entries : List (Value × Value)}
    (h : optional name default nonEmptyText entries = .pass s) (hd : default ≠ "") : s ≠ "" := by
  rw [optional] at h
  split at h
  · rename_i v hv
    cases hs : nonEmptyText v with
    | fail issues =>
      rw [hs] at h
      cases h
    | pass t =>
      rw [hs] at h
      cases h
      exact (nonEmptyText_eq_pass.1 hs).2
  · cases h
    exact hd

end Schema

open Schema

/-- The settings that name something are not empty, whatever is given. -/
theorem Config.build_names {given : List (Option Overrides)} {c : Config} (h : build given = .ok c) :
    c.protoSuffix ≠ "" ∧ c.hookPrefix ≠ "" ∧ c.clientFile ≠ "" ∧ c.apiFile ≠ "" ∧ c.indexFile ≠ "" := by
  obtain ⟨⟨c, _⟩, hpass, rfl⟩ := Check.map_eq_pass.1 (Check.toExcept_eq_ok.1 h)
  obtain ⟨t, ht, rfl⟩ := Check.map_eq_pass.1 (Check.and_eq_pass.1 hpass).1
  simp only [Check.and_eq_pass] at ht
  obtain ⟨-, hproto, -, -, hhook, -, hclient, hapi, hindex, -, -⟩ := ht
  exact ⟨optional_ne_empty hproto (by decide), optional_ne_empty hhook (by decide),
    optional_ne_empty hclient (by decide), optional_ne_empty hapi (by decide),
    optional_ne_empty hindex (by decide)⟩

end RpcBindings
