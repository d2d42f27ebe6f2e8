import RpcBindings.Proofs.Files.Changes

namespace RpcBindings.Files

open RpcBindings.Path
open RpcBindings.Files.Action

namespace Tree

variable {t t' : Tree} {p q cs : FilePath} {e : Entry}

def Sound (t : Tree) : Prop := ∀ p c e, t.get? (p ++ [c]) = some e → t.get? p = some .directory

theorem mem_of_get? (h : t.get? p = some e) (hp : p ≠ []) : (p, e) ∈ t.entries := by
  rw [get?, if_neg hp] at h
  obtain ⟨before, after, hentries, -⟩ := List.lookup_eq_some_iff.1 h
  rw [hentries]
  exact List.mem_append_right before List.mem_cons_self

theorem sound_of_entries (h : ∀ x ∈ t.entries, t.get? x.1.dropLast = some .directory) : t.Sound := by
  intro p c e he
  have hmem := mem_of_get? he (List.append_ne_nil_of_right_ne_nil _ (List.cons_ne_nil c []))
  have hdirectory := h _ hmem
  rwa [List.dropLast_concat] at hdirectory

theorem Sound.above (h : t.Sound) (hbelow : Below p q) (hq : t.get? q = some e) :
    t.get? p = some .directory := by
  obtain ⟨hunder, hne⟩ := hbelow
  induction q using List.reverseRecOn generalizing e with
  | nil => exact absurd (List.prefix_nil.1 hunder).symm hne
  | append_singleton q c ih =>
    have hdirectory := h q c e hq
    rcases List.prefix_concat_iff.1 hunder with rfl | hunder
    · exact absurd rfl hne
    · by_cases heq : q = p
      · rwa [← heq]
      · exact ih hdirectory hunder heq

/-- Below what is no directory there is nothing. -/
theorem Sound.get?_below (h : t.Sound) (hbelow : Below p q) (hp : t.get? p ≠ some .directory) :
    t.get? q = none := by
  cases hq : t.get? q with
  | none => rfl
  | some e => exact absurd (h.above hbelow hq) hp

/-- A path leads nowhere only if the directory that it is in is missing. -/
theorem Sound.missing_of_notFound (hs : t.Sound) (h : Normal cs) (hw : t.walk cs = .error .notFound) :
    ∃ p c, cs = p ++ [c] ∧ t.get? p = none := by
  induction cs using List.reverseRecOn with
  | nil => cases hw
  | append_singleton cs c ih =>
    obtain ⟨hcs, hc⟩ := List.forall_mem_append.1 h
    refine ⟨cs, c, rfl, ?_⟩
    cases hfront : t.walk cs with
    | error code =>
      rw [walk_append_singleton, hfront] at hw
      cases hw
      obtain ⟨p, c', rfl, hnone⟩ := ih hcs hfront
      exact hs.get?_below (below_concat p c') (by simp [hnone])
    | ok p =>
      have heq := walk_eq_ok hcs hfront
      subst heq
      rw [walk_concat hfront, step] at hw
      cases hthere : t.get? p with
      | none => rfl
      | some found =>
        rw [hthere] at hw
        cases found with
        | file content => cases hw
        | directory =>
          dsimp only at hw
          rw [if_neg (hc c (.head _)).2.2] at hw
          split at hw
          · cases hw
          · cases hw

end Tree

namespace Place

variable {place : Place} {t t' : Tree} {p : FilePath} {depth : Nat}

/-- A directory could not be made, because a name on the way to it is too long, and the error tells of the way up
to that name. What is above the name was missing before. -/
structure Stuck (t t' : Tree) (p : FilePath) (e : Error) : Prop where
  noNull : (Location.atPath p).hasNull = false
  walk : t'.walk p = .error .nameTooLong
  way : ∃ front c rest, p = front ++ c :: rest ∧ Tree.nameFits c = false ∧ t.get? front = none ∧
    e = .refused .nameTooLong (Location.atPath (front ++ [c])).text none

/-- What comes of making directories: the last one is there, or nothing has changed, or a name is too long. -/
inductive Made (t : Tree) (p : FilePath) : Except Error Unit → Tree → Prop where
  | made {t' : Tree} : Made t p (.ok ()) t'
  | unchanged (e : Error) : Made t p (.error e) t
  | stuck {t' : Tree} {e : Error} (h : Stuck t t' p e) : Made t p (.error e) t'

theorem Stands.above (h : place.Stands t p) {q : FilePath} (hq : q <+: p) : t.get? q = some .directory := by
  by_cases heq : q = p
  · rw [heq]
    exact h.directory
  · have hnormal : Normal q := fun c hc => h.normal c (hq.subset hc)
    rw [← Tree.lead_of_normal hnormal]
    exact Tree.walk_above h.walk hq heq

theorem Stands.before (h : place.Stands t' p) (hs : t.Sound) (hthere : t.get? p = some .directory) :
    place.Stands t p := by
  apply h.congr
  intro q hq
  rw [h.above hq]
  by_cases heq : q = p
  · rw [heq, hthere]
  · exact hs.above ⟨hq, Ne.symm heq⟩ hthere

theorem Stuck.concat {e : Error} {c : String} (h : Stuck t t' p e)
    (hnull : (Location.atPath (p ++ [c])).hasNull = false) : Stuck t t' (p ++ [c]) e := by
  obtain ⟨front, long, rest, hp, hlong, hnone, he⟩ := h.way
  refine ⟨hnull, ?_, front, long, rest ++ [c], ?_, hlong, hnone, he⟩
  · rw [Tree.walk_append_singleton, h.walk]
    rfl
  · rw [hp, List.append_assoc]
    rfl

theorem Stuck.locate {e : Error} (h : Stuck t t' p e) (place : Place) :
    place.locate t' (.atPath p) = .error (.refused .nameTooLong (Location.atPath p).text none) := by
  rw [Place.locate, h.noNull, if_neg Bool.false_ne_true, components_atPath, h.walk]
  split
  · rfl
  · rfl

theorem entry?_of_long {l : Location} {x : String} {y : Option String}
    (h : place.locate t l = .error (.refused .nameTooLong x y)) :
    place.entry? t l = .error (.refused .nameTooLong x y) := by
  rw [Place.entry?, stat, h]
  rfl

theorem makeDirectory_of_long {l : Location} {x : String} {y : Option String}
    (h : place.locate t l = .error (.refused .nameTooLong x y)) :
    place.makeDirectory t l = .error (.refused .nameTooLong x y) := by
  rw [makeDirectory, h]
  rfl

theorem isDirectory?_of_long {l : Location} {x : String} {y : Option String}
    (h : place.locate t l = .error (.refused .nameTooLong x y)) :
    place.isDirectory? t l = .error (.refused .nameTooLong x y) := by
  rw [isDirectory?, entry?_of_long h]
  rfl

theorem ends_makeOrKeep_of_long {l : Location} {x : String} {y : Option String}
    (h : place.locate t l = .error (.refused .nameTooLong x y)) :
    Ends (place.makeOrKeep l) t (.error (.refused .nameTooLong x y)) := by
  have hmake : Ends (change fun t => place.makeDirectory t l) t (.error (.refused .nameTooLong x y)) :=
    Leads.change_error (makeDirectory_of_long h)
  have hlook := Ends.look (fun t => place.isDirectory? t l) (t := t)
  rw [isDirectory?_of_long h] at hlook
  exact hmake.attempt.bind (hlook.bind_error _)

/-- Unless nothing was found, the directories above are not tried. -/
theorem leads_makeDirectories {l : Location} {r : Except Error Unit}
    (h : ∀ x y, place.makeDirectory t l ≠ .error (.refused .notFound x y))
    (hkeep : Leads (place.makeOrKeep l) t r t') : Leads (place.makeDirectories depth l) t r t' := by
  cases depth with
  | zero => exact hkeep
  | succ depth =>
    cases hmake : place.makeDirectory t l with
    | ok t₁ => exact hkeep.rebind (.attempt (.change_ok hmake)) rfl
    | error e =>
      have hattempt := Leads.attempt (δ := Error) (Leads.change_error (f := fun t => place.makeDirectory t l) hmake)
      cases e with
      | nullByte => exact hkeep.rebind hattempt rfl
      | undecodable fault => exact hkeep.rebind hattempt rfl
      | refused code x y =>
        cases code with
        | notFound => exact absurd hmake (h x y)
        | busy | «exists» | notDirectory | isDirectory | nameTooLong => exact hkeep.rebind hattempt rfl

/-- If nothing was found, the directory above is made first. -/
theorem leads_makeDirectories_up {front : FilePath} {c x : String} {y : Option String} {r : Except Error Unit}
    (h : place.makeDirectory t (.atPath (front ++ [c])) = .error (.refused .notFound x y))
    (hrest : Leads (do
      place.makeDirectories depth (.atPath front)
      place.makeOrKeep (.atPath (front ++ [c]))) t r t') :
    Leads (place.makeDirectories (depth + 1) (.atPath (front ++ [c]))) t r t' := by
  have hattempt := Leads.attempt (δ := Error)
    (Leads.change_error (f := fun t => place.makeDirectory t (.atPath (front ++ [c]))) h)
  have hparts : (Location.atPath (front ++ [c])).parts ≠ [] :=
    List.append_ne_nil_of_right_ne_nil _ (List.cons_ne_nil _ _)
  refine hattempt.bind ?_
  dsimp only
  rw [if_neg hparts, parent_atPath]
  exact hrest

theorem Stuck.ends_ensure {e : Error} (h : Stuck t t' p e) (place : Place) :
    Ends (place.ensure (.atPath p)) t' (.error (.refused .nameTooLong (Location.atPath p).text none)) := by
  apply leads_makeDirectories _ (ends_makeOrKeep_of_long (h.locate place))
  intro x y hmake
  rw [makeDirectory_of_long (h.locate place)] at hmake
  cases hmake

theorem makeOrKeep_made (place : Place) (t : Tree) (p : FilePath) :
    ∃ r t', Leads (place.makeOrKeep (.atPath p)) t r t' ∧ Made t p r t' := by
  have hlooked (e : Error) : ∃ r t', Leads (look (fun t => place.isDirectory? t (.atPath p)) >>= fun there =>
      if there then pure () else throw e : Action Error Unit) t r t' ∧ Made t p r t' := by
    have hlook := Ends.look (fun t => place.isDirectory? t (.atPath p)) (t := t)
    cases hthere : place.isDirectory? t (.atPath p) with
    | error f =>
      rw [hthere] at hlook
      exact ⟨_, t, hlook.bind_error _, .unchanged f⟩
    | ok b =>
      rw [hthere] at hlook
      cases b with
      | true => exact ⟨_, t, hlook.bind (.pure ()), .made⟩
      | false => exact ⟨_, t, hlook.bind (.throw e), .unchanged e⟩
  cases hmake : place.makeDirectory t (.atPath p) with
  | ok t' => exact ⟨_, t', Leads.bind (.attempt (.change_ok hmake)) (Ends.pure ()), .made⟩
  | error e =>
    have hattempt := Leads.attempt (δ := Error)
      (Leads.change_error (f := fun t => place.makeDirectory t (.atPath p)) hmake)
    obtain ⟨r, t', hlook, hmade⟩ := hlooked e
    cases e with
    | nullByte => exact ⟨_, t, hattempt.bind (Ends.throw _), .unchanged _⟩
    | undecodable fault => exact ⟨r, t', hattempt.bind hlook, hmade⟩
    | refused code path target =>
      cases code with
      | notFound => exact ⟨_, t, hattempt.bind (Ends.throw _), .unchanged _⟩
      | busy | «exists» | notDirectory | isDirectory | nameTooLong => exact ⟨r, t', hattempt.bind hlook, hmade⟩

/-- If nothing was found, it was the directory above. -/
theorem missing_of_makeDirectory {x : String} {y : Option String} (hs : t.Sound) (hp : Normal p)
    (h : place.makeDirectory t (.atPath p) = .error (.refused .notFound x y)) :
    (Location.atPath p).hasNull = false ∧ (Location.atPath p).text.utf8ByteSize < 4096 ∧
      ∃ front c, p = front ++ [c] ∧ t.get? front = none := by
  rcases bind_eq_error.1 h with hlocate | ⟨q, -, h⟩
  · rw [locate, components_atPath] at hlocate
    split at hlocate
    · cases hlocate
    · rename_i hnull
      split at hlocate
      · cases hlocate
      · rename_i hshort
        refine ⟨Bool.not_eq_true _ ▸ hnull, Nat.lt_of_not_le hshort, ?_⟩
        cases hw : t.walk p with
        | ok q =>
          rw [hw] at hlocate
          cases hlocate
        | error code =>
          rw [hw] at hlocate
          cases hlocate
          exact hs.missing_of_notFound hp hw
  · split at h
    · cases h
    · cases h

theorem Stands.makeDirectory_child {c : String} (h : place.Stands t p) (hup : c ≠ "..")
    (hnull : '\x00' ∉ c.toList) (hnone : t.get? (p ++ [c]) = none) (hlong : ¬TooLong p c) :
    place.makeDirectory t (.atPath (p ++ [c])) = .ok (t.put (p ++ [c]) .directory) := by
  rw [makeDirectory, h.locate_child hup hnull, if_neg hlong]
  simp only [bind, Except.bind, hnone]
  rfl

theorem Stands.makeOrKeep_child {c : String} (h : place.Stands t' p) (hup : c ≠ "..") (hnull : '\x00' ∉ c.toList)
    (hshort : (Location.atPath (p ++ [c])).text.utf8ByteSize < 4096) (hnone : t.get? p = none)
    (hnone' : t'.get? (p ++ [c]) = none) :
    ∃ r t₂, Leads (place.makeOrKeep (.atPath (p ++ [c]))) t' r t₂ ∧ Made t (p ++ [c]) r t₂ := by
  by_cases hlong : TooLong p c
  · have hfits : Tree.nameFits c = false := hlong.resolve_left (Nat.not_le.2 hshort)
    have hlocate := h.locate_child hup hnull
    rw [if_pos hlong] at hlocate
    refine ⟨_, t', ends_makeOrKeep_of_long hlocate, .stuck ⟨hasNull_concat h.noNull hnull, ?_, ?_⟩⟩
    · rw [h.walk_child hup, hfits]
      rfl
    · exact ⟨p, c, [], rfl, hfits, hnone, rfl⟩
  · have hmake := h.makeDirectory_child hup hnull hnone' hlong
    exact ⟨_, _, Leads.bind (.attempt (.change_ok hmake)) (Ends.pure ()), .made⟩

theorem makeDirectories_made (place : Place) (hs : t.Sound) (hp : Normal p) (depth : Nat) :
    ∃ r t', Leads (place.makeDirectories depth (.atPath p)) t r t' ∧ Made t p r t' := by
  induction depth generalizing p with
  | zero => exact makeOrKeep_made place t p
  | succ depth ih =>
    by_cases hmissing : ∃ x y, place.makeDirectory t (.atPath p) = .error (.refused .notFound x y)
    · obtain ⟨x, y, hmake⟩ := hmissing
      obtain ⟨hnull, hshort, front, c, rfl, hnone⟩ := missing_of_makeDirectory hs hp hmake
      obtain ⟨hnormal, hc⟩ := List.forall_mem_append.1 hp
      obtain ⟨r, t₁, hfront, hmade⟩ := ih hnormal
      cases r with
      | error e =>
        refine ⟨_, t₁, leads_makeDirectories_up hmake (hfront.bind_error _), ?_⟩
        cases hmade with
        | unchanged => exact .unchanged e
        | stuck h => exact .stuck (h.concat hnull)
      | ok u =>
        obtain ⟨log, hrun⟩ := hfront []
        have hstands := makeDirectories_ok hnormal hrun
        have hnone' : t₁.get? (front ++ [c]) = none := by
          have hbelow := hs.get?_below (Tree.below_concat front c) (by simp [hnone])
          rcases makeDirectories_changes hnormal hfront (front ++ [c]) with hsame | ⟨-, -, hunder⟩
          · rw [hsame, hbelow]
          · exact absurd hunder.length_le (by simp)
        have hchar : '\x00' ∉ c.toList := not_mem_of_hasNull_concat hnull
        obtain ⟨r, t₂, hkeep, hmade⟩ :=
          hstands.makeOrKeep_child (hc c (.head _)).2.2 hchar hshort hnone hnone'
        exact ⟨r, t₂, leads_makeDirectories_up hmake (hfront.bind hkeep), hmade⟩
    · push Not at hmissing
      obtain ⟨r, t', hkeep, hmade⟩ := makeOrKeep_made place t p
      exact ⟨r, t', leads_makeDirectories hmissing hkeep, hmade⟩

end Place

end RpcBindings.Files
