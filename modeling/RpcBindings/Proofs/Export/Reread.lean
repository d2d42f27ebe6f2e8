import RpcBindings.Proofs.Export.Again

namespace RpcBindings.Export

open RpcBindings.Files
open RpcBindings.Path
open RpcBindings.Files.Tree (Below lead)

variable {clean : Bool} {dir : FilePath} {place : Place} {t t' : Tree} {cs ps rest : List String} {c : String}
  {p s : FilePath} {l : Location} {e : Entry}

/-- Cleaning the directory removes no directory on the way. -/
def Unswept (t : Tree) (clean : Bool) (dir : FilePath) (cs : List String) : Prop :=
  ∀ ps s, ps <+: cs → t.walk ps = .ok s → t.get? s = some .directory → ¬Swept clean dir s

/-- The way does not end below the directory, and cleaning removes nothing on it. -/
structure Spared (t : Tree) (clean : Bool) (dir : FilePath) (cs : List String) : Prop where
  way : Unswept t clean dir cs
  outside : ¬Below dir (lead cs)

/-- From a missing directory above the output directory, or that one, the way goes on below it by names that
can be followed, as long as it stays above the output directory. -/
def Onward (t : Tree) (dir : FilePath) (cs : List String) : Prop :=
  ∀ ps a c b s, cs = ps ++ (a ++ c :: b) → t.walk ps = .ok s → t.get? s = none → s ++ a <+: dir →
    c ≠ ".." ∧ Tree.nameFits c = true

theorem walk_append (hw : t.walk ps = .ok s) (cs : List String) : t.walk (ps ++ cs) = cs.foldlM t.step s := by
  rw [Tree.walk, List.foldlM_append]
  change t.walk ps >>= _ = _
  rw [hw]
  rfl

theorem walk_eq_error {code : Code} (h : t.walk cs = .error code) :
    ∃ ps c rest s, cs = ps ++ c :: rest ∧ t.walk ps = .ok s ∧ t.step s c = .error code := by
  induction cs using List.reverseRecOn with
  | nil => cases h
  | append_singleton cs c ih =>
    cases hw : t.walk cs with
    | ok s =>
      rw [Tree.walk_concat hw] at h
      exact ⟨cs, c, [], s, rfl, hw, h⟩
    | error code' =>
      rw [Tree.walk_append_singleton, hw] at h
      cases h
      obtain ⟨ps, c', rest, s, rfl, hps, hstep⟩ := ih hw
      exact ⟨ps, c', rest ++ [c], s, List.append_assoc _ _ _, hps, hstep⟩

/-- No file is found at the end of the way, and no name on it is too long. -/
structure NoFile (t : Tree) (cs : List String) : Prop where
  fits : t.walk cs ≠ .error .nameTooLong
  none : ∀ p content, t.walk cs = .ok p → t.get? p ≠ some (.file content)

theorem noFile_ok_iff (hw : t.walk cs = .ok p) : NoFile t cs ↔ ∀ content, t.get? p ≠ some (.file content) := by
  constructor
  · intro h content
    exact h.none p content hw
  · intro h
    constructor
    · intro hlong
      cases hw.symm.trans hlong
    · intro q content hq
      cases hw.symm.trans hq
      exact h content

theorem noFile_error_iff {code : Code} (hw : t.walk cs = .error code) : NoFile t cs ↔ code ≠ .nameTooLong := by
  constructor
  · rintro h rfl
    exact h.fits hw
  · intro hcode
    constructor
    · intro hlong
      cases hw.symm.trans hlong
      exact hcode rfl
    · intro p content hp
      cases hw.symm.trans hp

theorem noFile_of_stop (hw : t.walk ps = .ok s) (hs : t.get? s ≠ some .directory) (c : String)
    (rest : List String) : NoFile t (ps ++ c :: rest) := by
  have hstop : ∃ code, code ≠ Code.nameTooLong ∧ t.walk (ps ++ c :: rest) = .error code := by
    rw [walk_append hw, List.foldlM_cons, Tree.step]
    cases hthere : t.get? s with
    | none => exact ⟨.notFound, by decide, rfl⟩
    | some e =>
      cases e with
      | file content => exact ⟨.notDirectory, by decide, rfl⟩
      | directory => exact absurd hthere hs
  obtain ⟨code, hcode, hwalk⟩ := hstop
  exact (noFile_error_iff hwalk).2 hcode

theorem isFile?_of_located (hlocate : place.locate t l = .ok p) :
    place.isFile? t l = .ok false ↔ ∀ content, t.get? p ≠ some (.file content) := by
  rw [Place.isFile?, Place.entry?, Place.stat, hlocate]
  simp only [bind, Except.bind]
  cases t.get? p with
  | none =>
    apply iff_of_true rfl
    intro content h
    cases h
  | some e =>
    cases e with
    | directory =>
      apply iff_of_true rfl
      intro content h
      cases h
    | file content =>
      apply iff_of_false
      · intro h
        cases h
      · intro h
        exact h content rfl

/-- Of what is not located, only too long a name is told from what is not there. -/
theorem isFile?_of_unlocated {e : Files.Error} (hlocate : place.locate t l = .error e) :
    place.isFile? t l = .ok false ↔ ∀ x y, e ≠ .refused .nameTooLong x y := by
  have hstat : place.stat t l = .error e := by
    rw [Place.stat, hlocate]
    rfl
  rw [Place.isFile?, Place.entry?, hstat]
  cases e with
  | nullByte | undecodable =>
    apply iff_of_true rfl
    intro x y h
    cases h
  | refused code path target =>
    cases code with
    | nameTooLong =>
      apply iff_of_false
      · intro h
        cases h
      · intro h
        exact h path target rfl
    | notFound | busy | «exists» | notDirectory | isDirectory =>
      apply iff_of_true rfl
      intro x y h
      cases h

theorem isFile?_eq_false_iff : place.isFile? t l = .ok false ↔
    l.hasNull = true ∨ l.text.utf8ByteSize < 4096 ∧ NoFile t (l.components place.cwd) := by
  cases hnull : l.hasNull with
  | true =>
    have hlocate : place.locate t l = .error .nullByte := by
      rw [Place.locate, if_pos hnull]
    refine iff_of_true ((isFile?_of_unlocated hlocate).2 ?_) (.inl rfl)
    intro x y h
    cases h
  | false =>
    have hrest : place.locate t l = if 4096 ≤ l.text.utf8ByteSize then .error (.refused .nameTooLong l.text none)
        else (t.walk (l.components place.cwd)).mapError fun c => .refused c l.text none := by
      rw [Place.locate, hnull, if_neg Bool.false_ne_true]
    by_cases hlong : 4096 ≤ l.text.utf8ByteSize
    · rw [if_pos hlong] at hrest
      have hfound : ¬place.isFile? t l = .ok false := fun h => (isFile?_of_unlocated hrest).1 h _ _ rfl
      simp [hfound, Nat.not_lt.2 hlong]
    · rw [if_neg hlong] at hrest
      have hway : place.isFile? t l = .ok false ↔ NoFile t (l.components place.cwd) := by
        cases hw : t.walk (l.components place.cwd) with
        | ok p =>
          rw [hw] at hrest
          rw [noFile_ok_iff hw, isFile?_of_located hrest]
        | error code =>
          rw [hw] at hrest
          rw [noFile_error_iff hw, isFile?_of_unlocated hrest]
          constructor
          · rintro h rfl
            exact h _ _ rfl
          · rintro hcode x y heq
            cases heq
            exact hcode rfl
      simp [hway, Nat.lt_of_not_le hlong]

theorem onward_of_walk (h : t.walk cs = .ok p) (dir : FilePath) : Onward t dir cs := by
  rintro ps a c b s rfl hs hnone -
  have hthere := Tree.walk_above h (List.prefix_append ps (a ++ c :: b)) (by simp)
  rw [← Tree.walk_lead hs, hnone] at hthere
  cases hthere

/-- A last name that can be followed makes no difference. -/
theorem Onward.concat (h : Onward t dir cs) (hup : c ≠ "..") (hfits : Tree.nameFits c = true) :
    Onward t dir (cs ++ [c]) := by
  intro ps a d b s heq hs hnone hdir
  induction b using List.reverseRecOn with
  | nil =>
    obtain ⟨-, hd⟩ := List.append_inj' (heq.trans (List.append_assoc ps a [d]).symm) rfl
    obtain rfl := List.singleton_inj.1 hd
    exact ⟨hup, hfits⟩
  | append_singleton b last _ =>
    have hassoc : ps ++ (a ++ d :: (b ++ [last])) = (ps ++ (a ++ d :: b)) ++ [last] := by simp
    obtain ⟨hcs, -⟩ := List.append_inj' (heq.trans hassoc) rfl
    exact h ps a d b s hcs hs hnone hdir

namespace Leaves

theorem walk (h : Leaves clean dir t t') (hspared : Spared t clean dir cs) (hps : ps <+: cs)
    (hw : t.walk ps = .ok s) : t'.walk ps = .ok s := by
  apply Tree.walk_mono hw
  intro qs q hqs hq hthere
  exact h.kept q hthere (hspared.way qs q (hqs.trans hps) hq hthere)

theorem stat (h : Leaves clean dir t t') (hspared : Spared t clean dir (l.components place.cwd))
    (hstat : place.stat t l = .ok e) : place.stat t' l = .ok e := by
  obtain ⟨p, hlocate, hthere⟩ := Place.stat_eq_ok_iff.1 hstat
  obtain ⟨hnull, hshort, hw⟩ := Place.locate_eq_ok_iff.1 hlocate
  have hlocate' := Place.locate_eq_ok_iff.2 ⟨hnull, hshort, h.walk hspared (List.prefix_refl _) hw⟩
  have hsame : t'.get? p = t.get? p := by
    rcases h.outside p (Tree.walk_lead hw ▸ hspared.outside) with hsame | ⟨hnone, -⟩
    · exact hsame
    · rw [hnone] at hthere
      cases hthere
  exact Place.stat_eq_ok_iff.2 ⟨p, hlocate', hsame.trans hthere⟩

/-- From a missing directory above the output directory, the way leads to no file. -/
theorem noFile_onward (h : Leaves clean dir t t') (hs : t.Sound) (hspared : Spared t clean dir (ps ++ rest))
    (honward : Onward t dir (ps ++ rest)) (hw : t.walk ps = .ok s) (hnone : t.get? s = none) {a b : List String}
    (hrest : rest = a ++ b) (hwalk : t'.walk (ps ++ a) = .ok (s ++ a)) : NoFile t' (ps ++ rest) := by
  have hmissing (a : List String) : t.get? (s ++ a) = none := by
    by_cases ha : a = []
    · rw [ha, List.append_nil, hnone]
    · apply hs.get?_below (p := s)
      · exact ⟨List.prefix_append s a, by simpa using ha⟩
      · rw [hnone]
        intro hthere
        cases hthere
  induction b generalizing a with
  | nil =>
    rw [List.append_nil] at hrest
    subst hrest
    have hend := Tree.walk_lead hwalk
    refine (noFile_ok_iff hwalk).2 fun content => ?_
    rcases h.outside _ hspared.outside with hsame | ⟨-, hthere⟩
    · rw [hend, hsame, ← hend, hmissing]
      intro heq
      cases heq
    · rw [hend, hthere]
      intro heq
      cases heq
  | cons c b ih =>
    by_cases hthere : t'.get? (s ++ a) = some .directory
    · have hdir : s ++ a <+: dir := by
        rcases h.grown _ hthere with hbefore | ⟨-, hdir⟩
        · rw [hmissing] at hbefore
          cases hbefore
        · exact hdir
      obtain ⟨hup, hfits⟩ := honward ps a c b s (congrArg _ hrest) hw hnone hdir
      apply @ih (a ++ [c])
      · rw [hrest, List.append_assoc]
        rfl
      · rw [← List.append_assoc, Tree.walk_concat hwalk, Tree.step, hthere]
        dsimp only
        rw [if_neg hup, if_pos hfits, List.append_assoc]
    · rw [hrest, ← List.append_assoc]
      exact noFile_of_stop hwalk hthere c b

theorem noFile (h : Leaves clean dir t t') (hs : t.Sound) (hspared : Spared t clean dir cs)
    (honward : Onward t dir cs) (hnone : NoFile t cs) : NoFile t' cs := by
  cases hw : t.walk cs with
  | ok p =>
    refine (noFile_ok_iff (h.walk hspared (List.prefix_refl cs) hw)).2 fun content => ?_
    rcases h.outside p (Tree.walk_lead hw ▸ hspared.outside) with hsame | ⟨-, hthere⟩
    · rw [hsame]
      exact hnone.none p content hw
    · rw [hthere]
      intro heq
      cases heq
  | error code =>
    obtain ⟨ps, c, rest, s, rfl, hps, hstep⟩ := walk_eq_error hw
    have hps' := h.walk hspared (List.prefix_append ps (c :: rest)) hps
    by_cases hthere : t'.get? s = some .directory
    · rcases h.grown s hthere with hbefore | ⟨hmissing, -⟩
      · -- The way would have gone on here, but for a name that is too long.
        rw [Tree.step, hbefore] at hstep
        dsimp only at hstep
        split at hstep
        · cases hstep
        · split at hstep
          · cases hstep
          · cases hstep
            exact absurd hw hnone.fits
      · have hwalk : t'.walk (ps ++ []) = .ok (s ++ []) := by
          rw [List.append_nil, List.append_nil]
          exact hps'
        exact h.noFile_onward hs hspared honward hps hmissing rfl hwalk
    · exact noFile_of_stop hps' hthere c rest

theorem isFile? (h : Leaves clean dir t t') (hs : t.Sound) (hspared : Spared t clean dir (l.components place.cwd))
    (honward : Onward t dir (l.components place.cwd)) {b : Bool} (hfile : place.isFile? t l = .ok b) :
    place.isFile? t' l = .ok b ∧ (b = true → place.readText t' l = place.readText t l) := by
  cases b with
  | false =>
    refine ⟨isFile?_eq_false_iff.2 ((isFile?_eq_false_iff.1 hfile).imp_right ?_), ?_⟩
    · rintro ⟨hshort, hnone⟩
      exact ⟨hshort, h.noFile hs hspared honward hnone⟩
    · intro hfalse
      cases hfalse
  | true =>
    obtain ⟨content, hstat⟩ := Place.isFile?_eq_true_iff.1 hfile
    have hstat' := h.stat hspared hstat
    refine ⟨Place.isFile?_eq_true_iff.2 ⟨content, hstat'⟩, fun _ => ?_⟩
    rw [Place.readText, Place.readText, Place.readBytes, Place.readBytes, hstat, hstat']

end Leaves

end RpcBindings.Export
