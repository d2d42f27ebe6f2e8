import RpcBindings.Proofs.Files.Ends
import RpcBindings.Proofs.Files.Tree

namespace RpcBindings.Files

open RpcBindings.Path

namespace Place

variable {place : Place} {t t' : Tree} {p q : FilePath}

theorem locate_eq_ok_iff {l : Location} : place.locate t l = .ok q ↔
    l.hasNull = false ∧ l.text.utf8ByteSize < 4096 ∧ t.walk (l.components place.cwd) = .ok q := by
  rw [locate]
  cases l.hasNull with
  | true => simp
  | false =>
    rw [if_neg Bool.false_ne_true]
    by_cases hlong : 4096 ≤ l.text.utf8ByteSize
    · simp [hlong, Nat.not_lt.2 hlong]
    · cases t.walk (l.components place.cwd) with
      | error code => simp [hlong, Except.mapError]
      | ok p => simp [if_neg hlong, Except.mapError, Nat.lt_of_not_le hlong]

/-- Where a path leads that has no `..`, if it leads anywhere. -/
theorem locate_eq_ok (hp : Normal p) (h : place.locate t (.atPath p) = .ok q) : q = p := by
  have hwalk := (locate_eq_ok_iff.1 h).2.2
  rw [components_atPath] at hwalk
  exact Tree.walk_eq_ok hp hwalk

theorem stat_eq_ok_iff {l : Location} {e : Entry} :
    place.stat t l = .ok e ↔ ∃ q, place.locate t l = .ok q ∧ t.get? q = some e := by
  rw [stat, bind_eq_ok]
  refine exists_congr fun q => and_congr_right fun _ => ?_
  cases t.get? q with
  | none =>
    constructor
    · intro h
      cases h
    · intro h
      cases h
  | some found => exact pure_eq_ok.trans Option.some_inj.symm

theorem entry?_eq_some_iff {l : Location} {e : Entry} :
    place.entry? t l = .ok (some e) ↔ place.stat t l = .ok e := by
  rw [Place.entry?]
  constructor
  · intro h
    split at h
    · rename_i found hfound
      cases h
      exact hfound
    · cases h
    · cases h
  · intro h
    rw [h]

theorem exists?_eq_true_iff {l : Location} : place.exists? t l = .ok true ↔ ∃ e, place.stat t l = .ok e := by
  rw [exists?, map_eq_ok]
  constructor
  · rintro ⟨found, hfound, hsome⟩
    obtain ⟨e, rfl⟩ := Option.isSome_iff_exists.1 hsome
    exact ⟨e, entry?_eq_some_iff.1 hfound⟩
  · rintro ⟨e, he⟩
    exact ⟨some e, entry?_eq_some_iff.2 he, rfl⟩

theorem isFile?_eq_true_iff {l : Location} :
    place.isFile? t l = .ok true ↔ ∃ content, place.stat t l = .ok (.file content) := by
  rw [isFile?, map_eq_ok]
  constructor
  · rintro ⟨found, hfound, hfile⟩
    cases found with
    | none => cases hfile
    | some e =>
      cases e with
      | file content => exact ⟨content, entry?_eq_some_iff.1 hfound⟩
      | directory => cases hfile
  · rintro ⟨content, hcontent⟩
    exact ⟨_, entry?_eq_some_iff.2 hcontent, rfl⟩

theorem isDirectory?_eq_true_iff {l : Location} :
    place.isDirectory? t l = .ok true ↔ place.stat t l = .ok .directory := by
  rw [isDirectory?, map_eq_ok, ← entry?_eq_some_iff]
  constructor
  · rintro ⟨found, hfound, hdirectory⟩
    rwa [beq_iff_eq.1 hdirectory] at hfound
  · intro h
    exact ⟨_, h, rfl⟩

theorem locate_congr (h : t'.walk p = t.walk p) :
    place.locate t' (.atPath p) = place.locate t (.atPath p) := by
  rw [locate, locate, components_atPath, h]

/-- There is a directory at the path. -/
structure Stands (place : Place) (t : Tree) (p : FilePath) : Prop where
  normal : Normal p
  located : place.locate t (.atPath p) = .ok p
  directory : t.get? p = some .directory

theorem Stands.congr (h : place.Stands t p) (hsame : ∀ q, q <+: p → t'.get? q = t.get? q) :
    place.Stands t' p := by
  have hwalk : t'.walk p = t.walk p := Tree.walk_congr h.normal fun q hq _ => hsame q hq
  exact ⟨h.normal, (locate_congr hwalk).trans h.located, (hsame p (List.prefix_refl p)).trans h.directory⟩

theorem Stands.noNull (h : place.Stands t p) : (Location.atPath p).hasNull = false :=
  (locate_eq_ok_iff.1 h.located).1

theorem Stands.walk (h : place.Stands t p) : t.walk p = .ok p := by
  have hwalk := (locate_eq_ok_iff.1 h.located).2.2
  rwa [components_atPath] at hwalk

theorem Stands.stat (h : place.Stands t p) : place.stat t (.atPath p) = .ok .directory :=
  stat_eq_ok_iff.2 ⟨p, h.located, h.directory⟩

theorem Stands.isDirectory? (h : place.Stands t p) : place.isDirectory? t (.atPath p) = .ok true :=
  isDirectory?_eq_true_iff.2 h.stat

theorem stands_of_isDirectory (hp : Normal p) (h : place.isDirectory? t (.atPath p) = .ok true) :
    place.Stands t p := by
  obtain ⟨q, hlocate, hthere⟩ := stat_eq_ok_iff.1 (isDirectory?_eq_true_iff.1 h)
  obtain rfl := locate_eq_ok hp hlocate
  exact ⟨hp, hlocate, hthere⟩

theorem stands_of_makeDirectory (hp : Normal p) (h : place.makeDirectory t (.atPath p) = .ok t') :
    place.Stands t' p := by
  rw [makeDirectory] at h
  obtain ⟨q, hlocate, h⟩ := bind_eq_ok.1 h
  obtain rfl := locate_eq_ok hp hlocate
  cases hthere : t.get? q with
  | some e =>
    rw [hthere] at h
    cases h
  | none =>
    rw [hthere] at h
    cases h
    have hne : q ≠ [] := by
      rintro rfl
      cases hthere
    have hwalk : (t.put q .directory).walk q = t.walk q := by
      apply Tree.walk_congr hp
      intro r _ hr
      rw [Tree.get?_put hne, if_neg hr]
    refine ⟨hp, (locate_congr hwalk).trans hlocate, ?_⟩
    rw [Tree.get?_put hne, if_pos rfl]

theorem makeDirectory_stands (h : place.Stands t p) :
    place.makeDirectory t (.atPath p) = .error (.refused .exists (Location.atPath p).text none) := by
  rw [makeDirectory, h.located]
  simp only [bind, Except.bind, h.directory]
  rfl

open RpcBindings.Files.Action

/-- If it matters whether there is a directory already, there is one where the step ends well. -/
theorem stands_of_look (hp : Normal p) {e : Error} {w w' : World}
    (h : (look (fun t => place.isDirectory? t (.atPath p)) >>= fun there =>
      if there then pure () else throw e : Action Error Unit) w = .ok () w') : place.Stands w'.tree p := by
  obtain ⟨b, w₁, hlook, h⟩ := stateful_bind_eq_ok.1 h
  obtain ⟨hdir, rfl⟩ := look_eq_ok hlook
  cases b with
  | true =>
    cases h
    exact stands_of_isDirectory hp hdir
  | false => cases h

theorem makeOrKeep_ok (hp : Normal p) {w w' : World} (h : place.makeOrKeep (.atPath p) w = .ok () w') :
    place.Stands w'.tree p := by
  rw [makeOrKeep] at h
  obtain ⟨r, w₁, hattempt, h⟩ := stateful_bind_eq_ok.1 h
  cases r with
  | ok u =>
    cases h
    exact stands_of_makeDirectory hp (change_eq_ok (attempt_eq_ok hattempt))
  | error e =>
    cases e with
    | nullByte => cases h
    | undecodable fault => exact stands_of_look hp h
    | refused code path target =>
      cases code with
      | notFound => cases h
      | busy | «exists» | notDirectory | isDirectory | nameTooLong => exact stands_of_look hp h

theorem makeDirectories_ok (hp : Normal p) {depth : Nat} {w w' : World}
    (h : place.makeDirectories depth (.atPath p) w = .ok () w') : place.Stands w'.tree p := by
  cases depth with
  | zero => exact makeOrKeep_ok hp h
  | succ depth =>
    rw [makeDirectories] at h
    obtain ⟨r, w₁, hattempt, h⟩ := stateful_bind_eq_ok.1 h
    cases r with
    | ok u =>
      cases h
      exact stands_of_makeDirectory hp (change_eq_ok (attempt_eq_ok hattempt))
    | error e =>
      cases e with
      | nullByte => cases h
      | undecodable fault => exact stands_of_look hp h
      | refused code path target =>
        cases code with
        | notFound =>
          dsimp only at h
          split at h
          · cases h
          · obtain ⟨_, w₂, -, h⟩ := stateful_bind_eq_ok.1 h
            exact makeOrKeep_ok hp h
        | busy | «exists» | notDirectory | isDirectory | nameTooLong => exact stands_of_look hp h

theorem determined_keep (place : Place) (l : Location) (e : Error) :
    Determined (look (fun t => place.isDirectory? t l) >>= fun there =>
      if there then pure () else throw e : Action Error Unit) := by
  refine .bind (.look _) fun there => ?_
  split
  · exact .pure ()
  · exact .throw e

theorem determined_makeOrKeep (place : Place) (l : Location) : Determined (place.makeOrKeep l) := by
  refine .bind (.attempt (.change _)) fun r => ?_
  split
  · exact .pure ()
  · exact .throw _
  · exact .throw _
  · exact determined_keep place l _

theorem determined_makeDirectories (place : Place) (depth : Nat) (l : Location) :
    Determined (place.makeDirectories depth l) := by
  induction depth generalizing l with
  | zero => exact determined_makeOrKeep place l
  | succ depth ih =>
    refine .bind (.attempt (.change _)) fun r => ?_
    split
    · exact .pure ()
    · split
      · exact .throw _
      · exact (ih l.parent).bind fun _ => determined_makeOrKeep place l
    · exact .throw _
    · exact determined_keep place l _

/-- A directory that stands is not made again. -/
theorem Stands.ends_make (h : place.Stands t p) :
    Ends (attempt (change fun t => place.makeDirectory t (.atPath p)) : Action Error (Except Error Unit)) t
      (.ok (.error (.refused .exists (Location.atPath p).text none))) :=
  Leads.attempt (Leads.change_error (makeDirectory_stands h))

theorem Stands.ends_look (h : place.Stands t p) :
    Ends (look fun t => place.isDirectory? t (.atPath p)) t (.ok true) := by
  have hlook := Ends.look (fun t => place.isDirectory? t (.atPath p)) (t := t)
  rwa [h.isDirectory?] at hlook

theorem Stands.ends_ensure (h : place.Stands t p) : Ends (place.ensure (.atPath p)) t (.ok ()) := by
  rw [ensure]
  cases (Location.atPath p).parts.length with
  | zero => exact h.ends_make.bind (h.ends_look.bind (.pure ()))
  | succ depth => exact h.ends_make.bind (h.ends_look.bind (.pure ()))

end Place

end RpcBindings.Files
