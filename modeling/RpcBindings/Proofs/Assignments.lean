import RpcBindings.Proofs.Imports.FirstUse

namespace RpcBindings.Assignments

variable {steps more settings settings' : List (String × α)} {key k : String} {value v : α}

def last? (steps : List (String × α)) (key : String) : Option α :=
  (steps.filter (·.1 = key)).getLast?.map (·.2)

/-- Each key once, in the order in which they first appear, with the value that it is given last. -/
structure Outcome (steps settings : List (String × α)) : Prop where
  keys : settings.map (·.1) = (steps.map (·.1)).eraseDups
  mem_iff : ∀ e, e ∈ settings ↔ last? steps e.1 = some e.2

/-- Sets a key; a key that is present keeps its place. -/
def put (key : String) (value : α) : List (String × α) → List (String × α)
  | [] => [(key, value)]
  | (k, v) :: rest => if k = key then (k, value) :: rest else (k, v) :: put key value rest

/-- Takes the steps one after another, starting from what is set already. -/
def putAll (settings steps : List (String × α)) : List (String × α) :=
  steps.foldl (fun acc e => put e.1 e.2 acc) settings

theorem last?_append_singleton (steps : List (String × α)) (k : String) (v : α) (key : String) :
    last? (steps ++ [(k, v)]) key = if k = key then some v else last? steps key := by
  rw [last?, List.filter_append]
  by_cases h : k = key
  · simp [h]
  · simp [h, last?]

theorem mem_of_last? (h : last? steps key = some value) : (key, value) ∈ steps := by
  obtain ⟨⟨k, v⟩, he, rfl⟩ := Option.map_eq_some_iff.1 h
  obtain ⟨hmem, hkey⟩ := List.mem_filter.1 (List.mem_of_getLast? he)
  obtain rfl := of_decide_eq_true hkey
  exact hmem

theorem keys_put : (put key value settings).map (·.1) = insertNew key (settings.map (·.1)) := by
  induction settings with
  | nil => rfl
  | cons e rest ih =>
    by_cases h : e.1 = key
    · rw [put, if_pos h, List.map_cons, List.map_cons, h, insertNew_of_mem List.mem_cons_self]
    · rw [put, if_neg h, List.map_cons, List.map_cons, ih]
      by_cases hmem : key ∈ rest.map (·.1)
      · rw [insertNew_of_mem hmem, insertNew_of_mem (List.mem_cons_of_mem _ hmem)]
      · rw [insertNew_of_not_mem hmem,
          insertNew_of_not_mem (List.not_mem_cons_of_ne_of_not_mem (Ne.symm h) hmem)]
        rfl

theorem mem_put (hkeys : (settings.map (·.1)).Nodup) (e : String × α) :
    e ∈ put key value settings ↔ if key = e.1 then e.2 = value else e ∈ settings := by
  obtain ⟨k, v⟩ := e
  induction settings with
  | nil => by_cases h : key = k <;> simp [put, h, eq_comm]
  | cons first rest ih =>
    obtain ⟨hnew, hrest⟩ := List.nodup_cons.1 hkeys
    have hfirst (h : first.1 = k) : (k, v) ∉ rest := by
      intro hmem
      exact hnew (List.mem_map.2 ⟨_, hmem, h.symm⟩)
    by_cases h : first.1 = key
    · rw [put, if_pos h, List.mem_cons]
      grind
    · rw [put, if_neg h, List.mem_cons, ih hrest, List.mem_cons]
      grind

theorem put_of_not_mem (h : key ∉ settings.map (·.1)) : put key value settings = settings ++ [(key, value)] := by
  induction settings with
  | nil => rfl
  | cons e rest ih =>
    obtain ⟨hne, hrest⟩ := List.ne_and_not_mem_of_not_mem_cons h
    rw [put, if_neg (Ne.symm hne), ih hrest]
    rfl

theorem putAll_append (settings steps more : List (String × α)) :
    putAll settings (steps ++ more) = putAll (putAll settings steps) more := List.foldl_append

theorem putAll_append_singleton (settings steps : List (String × α)) (e : String × α) :
    putAll settings (steps ++ [e]) = put e.1 e.2 (putAll settings steps) := putAll_append settings steps [e]

theorem Outcome.nodup (h : Outcome steps settings) : (settings.map (·.1)).Nodup := by
  rw [h.keys]
  exact nodup_eraseDups _

theorem Outcome.forall_key (h : Outcome steps settings) (P : String → Prop) :
    (∀ e ∈ settings, P e.1) ↔ ∀ e ∈ steps, P e.1 := by
  have hkeys (entries : List (String × α)) : (∀ e ∈ entries, P e.1) ↔ ∀ key ∈ entries.map (·.1), P key := by
    rw [List.forall_mem_map]
  rw [hkeys settings, hkeys steps, h.keys]
  simp only [List.mem_eraseDups]

theorem Outcome.put (h : Outcome steps settings) (key : String) (value : α) :
    Outcome (steps ++ [(key, value)]) (Assignments.put key value settings) := by
  constructor
  · rw [keys_put, h.keys, List.map_append]
    exact (eraseDups_append_singleton _ _).symm
  · intro e
    rw [mem_put h.nodup, last?_append_singleton, h.mem_iff]
    split
    · simp [eq_comm]
    · exact Iff.rfl

theorem outcome_putAll (steps : List (String × α)) : Outcome steps (putAll [] steps) := by
  induction steps using List.reverseRecOn with
  | nil =>
    constructor
    · rfl
    · intro e
      constructor
      · intro h
        cases h
      · intro h
        cases h
  | append_singleton steps e ih =>
    rw [putAll_append_singleton]
    exact ih.put e.1 e.2

theorem Outcome.unique (h : Outcome steps settings) (h' : Outcome steps settings') : settings = settings' := by
  have hvalues {settings : List (String × α)} (h : Outcome steps settings) :
      settings.map some = (settings.map (·.1)).map fun k => (last? steps k).map fun v => (k, v) := by
    rw [List.map_map]
    apply List.map_congr_left
    intro e he
    rw [Function.comp_apply, (h.mem_iff e).1 he]
    rfl
  have heq : settings.map some = settings'.map some := by
    rw [hvalues h, hvalues h', h.keys, h'.keys]
  exact List.map_injective_iff.2 (fun _ _ => Option.some.inj) heq

theorem Outcome.eq_putAll (h : Outcome steps settings) : settings = putAll [] steps :=
  h.unique (outcome_putAll steps)

theorem putAll_of_nodup (h : (steps.map (·.1)).Nodup) : putAll [] steps = steps := by
  induction steps using List.reverseRecOn with
  | nil => rfl
  | append_singleton steps e ih =>
    rw [List.map_append] at h
    obtain ⟨hsteps, -, hnew⟩ := List.nodup_append'.1 h
    have hkey : e.1 ∉ steps.map (·.1) := by
      intro hmem
      exact hnew hmem (List.mem_singleton_self e.1)
    rw [putAll_append_singleton, ih hsteps, put_of_not_mem hkey]

theorem Outcome.putAll_eq (h : Outcome steps settings) : putAll [] settings = settings :=
  putAll_of_nodup h.nodup

end RpcBindings.Assignments
