import RpcBindings.Proofs.Path.Parts

namespace RpcBindings.Path

def Location.enterPart (root : String) (ps : List String) (c : String) : List String :=
  if c ≠ ".." ∨ (root = "" ∧ ps = []) ∨ ps.getLast? = some ".." then ps ++ [c] else ps.dropLast

def Location.normal (l : Location) : Location := ⟨l.root, l.parts.foldl (enterPart l.root) []⟩

theorem Location.normal_append (root : String) (ps cs : List String) :
    Location.normal ⟨root, ps ++ cs⟩ = ⟨root, cs.foldl (enterPart root) (Location.normal ⟨root, ps⟩).parts⟩ := by
  rw [normal, List.foldl_append]
  rfl

/-- The location is the root of all others. -/
structure Location.IsTop (l : Location) : Prop where
  rooted : l.root ≠ ""
  no_part : l.normal.parts = []

/-- How far down the parts of a path lead; `..` leads up. -/
def depth (ps : List String) : Int := ps.length - 2 * ps.count ".."

variable {root : String} {ps cs : List String}

theorem depth_append (ps cs : List String) : depth (ps ++ cs) = depth ps + depth cs := by
  rw [depth, depth, depth, List.length_append, List.count_append]
  omega

theorem depth_of_not_mem (h : ".." ∉ cs) : depth cs = cs.length := by
  rw [depth, List.count_eq_zero_of_not_mem h]
  omega

/-- Going up leads one directory up, except from the root. -/
theorem depth_enterPart_up (h : root = "" ∨ ps ≠ []) :
    depth (Location.enterPart root ps "..") = depth ps - 1 := by
  rw [Location.enterPart]
  split
  · rw [depth_append]
    rfl
  · rename_i hup
    rw [not_or, not_or] at hup
    obtain ⟨-, hstart, hlast⟩ := hup
    have hne : ps ≠ [] := h.elim (fun hr hps => hstart ⟨hr, hps⟩) id
    have hlast' : ps.getLast hne ≠ ".." := by
      intro heq
      exact hlast (heq ▸ List.getLast?_eq_some_getLast hne)
    have hone : depth [ps.getLast hne] = 1 := depth_of_not_mem (by simpa using Ne.symm hlast')
    have hps := congrArg depth (List.dropLast_concat_getLast hne)
    rw [depth_append, hone] at hps
    omega

theorem enterPart_up_root (h : root ≠ "") : Location.enterPart root [] ".." = [] := by
  rw [Location.enterPart, if_neg (by simp [h])]
  rfl

theorem foldl_enterPart (h : ".." ∉ cs) (ps : List String) :
    cs.foldl (Location.enterPart root) ps = ps ++ cs := by
  induction cs generalizing ps with
  | nil => exact (List.append_nil ps).symm
  | cons c cs ih =>
    obtain ⟨hc, hcs⟩ := List.ne_and_not_mem_of_not_mem_cons h
    rw [List.foldl_cons, ih hcs, Location.enterPart, if_pos (.inl (Ne.symm hc)), List.append_assoc]
    rfl

theorem depth_climb_le (root : String) (k : Nat) (ps : List String) :
    depth ((List.replicate k "..").foldl (Location.enterPart root) ps) ≤ depth ps := by
  induction k generalizing ps with
  | zero => exact Int.le_refl _
  | succ k ih =>
    rw [List.replicate_succ, List.foldl_cons]
    refine Int.le_trans (ih _) ?_
    by_cases h : root = "" ∨ ps ≠ []
    · rw [depth_enterPart_up h]
      omega
    · obtain ⟨hroot, hps⟩ := not_or.1 h
      obtain rfl := not_not.1 hps
      exact Int.le_of_eq (congrArg depth (enterPart_up_root hroot))

/-- Going up leads to where some parts lead down only if neither leads anywhere: there are none of these, and
either no step goes up or the steps start at the root. -/
theorem climb_eq_append_iff (h : ".." ∉ cs) (k : Nat) :
    (List.replicate k "..").foldl (Location.enterPart root) ps = ps ++ cs ↔
      cs = [] ∧ (k = 0 ∨ root ≠ "" ∧ ps = []) := by
  by_cases hfree : root = "" ∨ ps ≠ []
  · cases k with
    | zero => simp
    | succ k =>
      have hno : ¬(root ≠ "" ∧ ps = []) := by
        rintro ⟨hr, hps⟩
        exact hfree.elim hr (· hps)
      simp only [Nat.add_one_ne_zero, hno, or_self, and_false, iff_false]
      intro heq
      have hle := depth_climb_le root k (Location.enterPart root ps "..")
      rw [List.replicate_succ, List.foldl_cons] at heq
      rw [heq, depth_enterPart_up hfree, depth_append, depth_of_not_mem h] at hle
      omega
  · rw [not_or, not_not] at hfree
    obtain ⟨hr, rfl⟩ := hfree
    have hstay : (List.replicate k "..").foldl (Location.enterPart root) [] = [] := by
      induction k with
      | zero => rfl
      | succ k ih => rw [List.replicate_succ, List.foldl_cons, enterPart_up_root hr, ih]
    rw [hstay]
    simp [hr, eq_comm]

/-- The way leads up from what only the first directory has and down to what only the second one has. -/
theorem between_eq (start target : List String) : ∃ shared up down, start = shared ++ up ∧
    target = shared ++ down ∧ (up ≠ [] → up.head? ≠ down.head?) ∧
      between start target = List.replicate up.length ".." ++ down := by
  induction start generalizing target with
  | nil => exact ⟨[], [], target, rfl, rfl, fun h => absurd rfl h, by cases target <;> rfl⟩
  | cons a start ih =>
    cases target with
    | nil => exact ⟨[], a :: start, [], rfl, rfl, by simp, rfl⟩
    | cons b target =>
      rw [between]
      by_cases hab : a = b
      · obtain ⟨shared, up, down, hstart, htarget, hheads, hway⟩ := ih target
        rw [if_pos hab, hab]
        exact ⟨b :: shared, up, down, congrArg _ hstart, congrArg _ htarget, hheads, hway⟩
      · rw [if_neg hab]
        exact ⟨[], a :: start, b :: target, rfl, rfl, by simp [hab], rfl⟩

theorem between_append_left (shared start target : List String) :
    between (shared ++ start) (shared ++ target) = between start target := by
  induction shared with
  | nil => rfl
  | cons c shared ih => rw [List.cons_append, List.cons_append, between, if_pos rfl, ih]

theorem isPart_of_mem_between {start target : List String} (h : ∀ c ∈ target, IsPart c) :
    ∀ c ∈ between start target, IsPart c := by
  obtain ⟨shared, up, down, -, htarget, -, hway⟩ := between_eq start target
  intro c hc
  rw [hway] at hc
  rcases List.mem_append.1 hc with hup | hdown
  · rw [List.eq_of_mem_replicate hup]
    exact ⟨by decide, by decide, by decide⟩
  · exact h c (htarget ▸ List.mem_append_right _ hdown)

/-- From a place other than the root, the way from one directory to another leads to where the parts of the
other one lead only if it starts at the top. From the root, it is enough that they share no directory. -/
theorem enter_between_iff {start target more : List String} (hstart : ".." ∉ start)
    (htarget : ".." ∉ target) (hmore : ".." ∉ more) :
    (between start target ++ more).foldl (Location.enterPart root) ps =
        (target ++ more).foldl (Location.enterPart root) ps ↔
      start = [] ∨ root ≠ "" ∧ ps = [] ∧ start.head? ≠ target.head? := by
  obtain ⟨shared, up, down, rfl, rfl, hheads, hway⟩ := between_eq start target
  have hshared : ".." ∉ shared := fun h => hstart (List.mem_append_left _ h)
  have hdown : ".." ∉ down := fun h => htarget (List.mem_append_right _ h)
  have hrest : ".." ∉ down ++ more := fun h => (List.mem_append.1 h).elim hdown hmore
  rw [hway, List.append_assoc, List.append_assoc, List.foldl_append, foldl_enterPart hrest,
    List.foldl_append, foldl_enterPart hshared, foldl_enterPart hrest, List.append_left_inj,
    climb_eq_append_iff hshared]
  cases shared with
  | cons c shared => simp
  | nil =>
    cases up with
    | nil => simp
    | cons c up =>
      have hne := hheads (List.cons_ne_nil c up)
      simp only [List.nil_append, true_and, List.length_cons, Nat.add_one_ne_zero, reduceCtorEq, false_or,
        hne, ne_eq, not_false_eq_true, and_true]

/-- Following the way from a location instead of the parts makes no difference only in those cases. -/
theorem Location.normal_between_iff {l : Location} {start target more : List String} (hstart : ".." ∉ start)
    (htarget : ".." ∉ target) (hmore : ".." ∉ more) :
    normal ⟨l.root, l.parts ++ (between start target ++ more)⟩ =
        normal ⟨l.root, l.parts ++ (target ++ more)⟩ ↔
      start = [] ∨ l.IsTop ∧ start.head? ≠ target.head? := by
  rw [normal_append, normal_append, Location.mk.injEq, enter_between_iff hstart htarget hmore]
  constructor
  · rintro ⟨-, h | ⟨hr, hps, hheads⟩⟩
    · exact .inl h
    · exact .inr ⟨⟨hr, hps⟩, hheads⟩
  · rintro (h | ⟨htop, hheads⟩)
    · exact ⟨rfl, .inl h⟩
    · exact ⟨rfl, .inr ⟨htop.rooted, htop.no_part, hheads⟩⟩

end RpcBindings.Path
