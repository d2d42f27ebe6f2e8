import RpcBindings.Proofs.Files.Directories
import RpcBindings.Proofs.Files.Temporary

namespace RpcBindings.Files

open RpcBindings.Path

namespace Place

open RpcBindings.Files.Action

variable {place : Place} {t t' : Tree} {p q : FilePath} {content : ByteArray}

/-- What came of writing a file: it is there, or it was refused, and nothing else has changed. -/
inductive Placed (t : Tree) (p : FilePath) (content : ByteArray) (v : α) : Except Error α → Tree → Prop where
  | written {t' : Tree} (h : ∀ q, t'.get? q = if q = p then some (.file content) else t.get? q) :
      Placed t p content v (.ok v) t'
  | refused {e : Error} {t' : Tree} (he : e.isRefusal = true) (h : ∀ q, t'.get? q = t.get? q) :
      Placed t p content v (.error e) t'

namespace Placed

variable {v : α} {r : Except Error α}

theorem get?_of_ne (h : Placed t p content v r t') (hq : q ≠ p) : t'.get? q = t.get? q := by
  cases h with
  | written h => exact (h q).trans (if_neg hq)
  | refused _ h => exact h q

theorem get?_of_ok {u : α} (h : Placed t p content v (.ok u) t') : t'.get? p = some (.file content) := by
  cases h with
  | written h => exact (h p).trans (if_pos rfl)

theorem isRefusal {e : Error} (h : Placed t p content v (.error e) t') : e.isRefusal = true := by
  cases h with
  | refused he _ => exact he

end Placed

variable {name : String}

/-- No path in the directory leads to the name, since it is too long or the whole path is. -/
def TooLong (p : FilePath) (name : String) : Prop :=
  4096 ≤ (Location.atPath (p ++ [name])).text.utf8ByteSize ∨ Tree.nameFits name = false

instance (p : FilePath) (name : String) : Decidable (TooLong p name) := inferInstanceAs (Decidable (_ ∨ _))

/-- What writing a file in a directory is refused with, if it is. `k` is the choice of the temporary name, and
`there` tells if a directory has the name of the file. -/
def refusal? (p : FilePath) (name : String) (atomic : Bool) (k : Nat) (there : Bool) : Option Error :=
  let text := (Location.atPath (p ++ [name])).text
  let temporary := (Location.atPath (p ++ [temporaryName name k])).text
  if atomic then
    if TooLong p (temporaryName name k) then some (.refused .nameTooLong temporary none)
    else if Tree.nameFits name = false then some (.refused .nameTooLong temporary (some text))
    else if there then some (.refused .isDirectory temporary (some text))
    else none
  else if TooLong p name then some (.refused .nameTooLong text none)
  else if there then some (.refused .isDirectory text none)
  else none

def endOf (v : α) : Option Error → Except Error α
  | none => .ok v
  | some e => .error e

theorem Stands.walk_child (h : place.Stands t p) (hup : name ≠ "..") :
    t.walk (p ++ [name]) = if Tree.nameFits name then .ok (p ++ [name]) else .error .nameTooLong := by
  rw [Tree.walk_append_singleton, h.walk]
  change t.step p name = _
  rw [Tree.step, h.directory]
  dsimp only
  rw [if_neg hup]

theorem Stands.locate_child (h : place.Stands t p) (hup : name ≠ "..") (hnull : '\x00' ∉ name.toList) :
    place.locate t (.atPath (p ++ [name])) =
      if TooLong p name then .error (.refused .nameTooLong (Location.atPath (p ++ [name])).text none)
      else .ok (p ++ [name]) := by
  rw [locate, hasNull_concat h.noNull hnull, if_neg Bool.false_ne_true, components_atPath, h.walk_child hup]
  by_cases hlong : 4096 ≤ (Location.atPath (p ++ [name])).text.utf8ByteSize
  · rw [if_pos hlong, if_pos (.inl hlong)]
  · rw [if_neg hlong]
    cases hfits : Tree.nameFits name with
    | true =>
      have hnot : ¬TooLong p name := by
        rintro (h | h)
        · exact hlong h
        · rw [hfits] at h
          cases h
      rw [if_neg hnot]
      rfl
    | false =>
      rw [if_neg Bool.false_ne_true, if_pos (.inr hfits)]
      rfl

theorem Stands.writeBytes_child (h : place.Stands t p) (hup : name ≠ "..") (hnull : '\x00' ∉ name.toList)
    (content : ByteArray) :
    place.writeBytes t (.atPath (p ++ [name])) content =
      if TooLong p name then .error (.refused .nameTooLong (Location.atPath (p ++ [name])).text none)
      else if t.isDirectory (p ++ [name]) then
        .error (.refused .isDirectory (Location.atPath (p ++ [name])).text none)
      else .ok (t.put (p ++ [name]) (.file content)) := by
  rw [writeBytes, h.locate_child hup hnull, Tree.isDirectory]
  by_cases hlong : TooLong p name
  · rw [if_pos hlong, if_pos hlong]
    rfl
  · rw [if_neg hlong, if_neg hlong]
    simp only [bind, Except.bind]
    cases t.get? (p ++ [name]) with
    | none => rfl
    | some e =>
      cases e with
      | file old => rfl
      | directory => rfl

theorem placed_direct (h : place.Stands t p) (hname : IsFileName name) (content : ByteArray) (k : Nat) :
    ∃ t', Leads (change fun t => place.writeBytes t (.atPath (p ++ [name])) content) t
        (endOf () (refusal? p name false k (t.isDirectory (p ++ [name])))) t' ∧
      Placed t (p ++ [name]) content () (endOf () (refusal? p name false k (t.isDirectory (p ++ [name])))) t' := by
  have hwrite := h.writeBytes_child hname.not_up hname.no_null content
  rw [refusal?, if_neg Bool.false_ne_true]
  by_cases hlong : TooLong p name
  · rw [if_pos hlong] at hwrite ⊢
    exact ⟨t, .change_error hwrite, .refused rfl fun q => rfl⟩
  · rw [if_neg hlong] at hwrite ⊢
    cases hthere : t.isDirectory (p ++ [name]) with
    | true =>
      rw [hthere, if_pos rfl] at hwrite
      exact ⟨t, .change_error hwrite, .refused rfl fun q => rfl⟩
    | false =>
      rw [hthere, if_neg Bool.false_ne_true] at hwrite
      have hne : p ++ [name] ≠ [] := List.append_ne_nil_of_right_ne_nil _ (List.cons_ne_nil _ _)
      exact ⟨_, .change_ok hwrite, .written fun q => Tree.get?_put hne⟩

/-- A directory stands whatever is put in it. -/
theorem Stands.put_child (h : place.Stands t p) (c : String) (e : Entry) :
    place.Stands (t.put (p ++ [c]) e) p := by
  have hne : p ++ [c] ≠ [] := List.append_ne_nil_of_right_ne_nil _ (List.cons_ne_nil _ _)
  apply h.congr
  intro q hq
  rw [Tree.get?_put hne, if_neg]
  rintro rfl
  exact absurd hq.length_le (by simp)

theorem Stands.rename_child {other : String} {e : Entry} (h : place.Stands t p) (hname : IsFileName name)
    (hup : other ≠ "..") (hnull : '\x00' ∉ other.toList) (hother : ¬TooLong p other)
    (hsize : name.utf8ByteSize ≤ other.utf8ByteSize) (hne : p ++ [other] ≠ p ++ [name])
    (he : t.get? (p ++ [other]) = some e) :
    place.rename t (.atPath (p ++ [other])) (.atPath (p ++ [name])) =
      if Tree.nameFits name = false then
        .error (.refused .nameTooLong (Location.atPath (p ++ [other])).text
          (some (Location.atPath (p ++ [name])).text))
      else if t.isDirectory (p ++ [name]) then
        .error (.refused .isDirectory (Location.atPath (p ++ [other])).text
          (some (Location.atPath (p ++ [name])).text))
      else .ok ((t.erase (p ++ [other])).put (p ++ [name]) e) := by
  have hfits : Tree.nameFits other = true := by
    rw [← Bool.not_eq_false]
    exact fun hfalse => hother (.inr hfalse)
  have hshort : ¬(4096 ≤ (Location.atPath (p ++ [other])).text.utf8ByteSize ∨
      4096 ≤ (Location.atPath (p ++ [name])).text.utf8ByteSize) :=
    not_or.2 ⟨fun hlong => hother (.inl hlong), fun hlong => hother (.inl (hlong.trans (size_text_concat p hsize)))⟩
  rw [rename, components_atPath, components_atPath, hasNull_concat h.noNull hnull,
    hasNull_concat h.noNull hname.no_null, h.walk_child hup, h.walk_child hname.not_up, hfits, name_atPath,
    Tree.isDirectory]
  simp only [Bool.or_self, Bool.false_eq_true, if_false, if_true, if_neg hshort]
  cases hfit : Tree.nameFits name with
  | false =>
    rw [if_neg Bool.false_ne_true, if_pos rfl]
    rfl
  | true =>
    have hplain : ¬(name = "" ∨ name = "..") := not_or.2 ⟨hname.ne_empty, hname.not_up⟩
    rw [if_pos rfl, if_neg Bool.noConfusion]
    simp only [Except.mapError, bind, Except.bind, he]
    rw [if_neg hplain]
    by_cases hthere : t.get? (p ++ [name]) = some .directory
    · rw [if_pos hthere, if_pos (beq_iff_eq.2 hthere)]
      rfl
    · rw [if_neg hthere, if_neg hne, if_neg (mt beq_iff_eq.1 hthere)]
      rfl

def temporary (place : Place) (t : Tree) (l : Location) : Location :=
  let directory := l.parent.absolute place.cwd
  directory.child (temporaryName l.name (freeMark t directory.parts l.name))

section Temporary

variable {l : Location} {t₁ t₂ : Tree} {e : Error}

theorem writeAtomic_unwritten (h : place.writeBytes t (place.temporary t l) content = .error e) :
    Leads (place.writeAtomic l content) t (.error e) t :=
  .get fun _ => Leads.bind_error (.change_error h) _

theorem writeAtomic_unnamed (h : place.writeBytes t (place.temporary t l) content = .ok t₁)
    (hrename : place.rename t₁ (place.temporary t l) l = .error e) :
    Leads (place.writeAtomic l content) t (.error e) (t₁.erase (place.temporary t l).parts) :=
  .get fun _ => Leads.bind (.change_ok h) (Leads.bind (.attempt (.change_error hrename))
    (Leads.bind (fun log => ⟨log, rfl⟩) (Ends.throw e)))

theorem writeAtomic_renamed (h : place.writeBytes t (place.temporary t l) content = .ok t₁)
    (hrename : place.rename t₁ (place.temporary t l) l = .ok t₂) :
    Leads (place.writeAtomic l content) t (.ok ()) t₂ :=
  .get fun _ => Leads.bind (.change_ok h) (Leads.bind (.attempt (.change_ok hrename)) (Ends.pure ()))

end Temporary

theorem temporary_atPath (hp : Normal p) (t : Tree) (name : String) :
    place.temporary t (.atPath (p ++ [name])) = .atPath (p ++ [temporaryName name (freeMark t p name)]) := by
  rw [temporary, parent_atPath, absolute_atPath hp, name_atPath]
  rfl

theorem placed_atomic (h : place.Stands t p) (hname : IsFileName name) (content : ByteArray) :
    ∃ t', Leads (place.writeAtomic (.atPath (p ++ [name])) content) t
        (endOf () (refusal? p name true (freeMark t p name) (t.isDirectory (p ++ [name])))) t' ∧
      Placed t (p ++ [name]) content ()
        (endOf () (refusal? p name true (freeMark t p name) (t.isDirectory (p ++ [name])))) t' := by
  let other := temporaryName name (freeMark t p name)
  let path := p ++ [other]
  have htemporary : place.temporary t (.atPath (p ++ [name])) = .atPath path := temporary_atPath h.normal t name
  have hfree : t.get? path = none := t.get?_temporary p name
  obtain ⟨hnormal, hother⟩ := temporary_ne h.normal name (freeMark t p name)
  have hnull : '\x00' ∉ other.toList := null_not_mem_temporaryName hname.no_null _
  have hup : other ≠ ".." := (hnormal other (List.mem_append_right _ (List.mem_singleton_self _))).2.2
  have hwrite := h.writeBytes_child hup hnull content
  have hnone : t.isDirectory path = false := by
    rw [Tree.isDirectory, hfree]
    rfl
  rw [refusal?, if_pos rfl]
  by_cases hlong : TooLong p other
  · rw [if_pos hlong] at hwrite ⊢
    exact ⟨t, writeAtomic_unwritten (htemporary ▸ hwrite), .refused rfl fun q => rfl⟩
  · rw [if_neg hlong, hnone, if_neg Bool.false_ne_true, ← htemporary] at hwrite
    rw [if_neg hlong]
    have hne : path ≠ [] := List.append_ne_nil_of_right_ne_nil _ (List.cons_ne_nil _ _)
    have hne' : p ++ [name] ≠ [] := List.append_ne_nil_of_right_ne_nil _ (List.cons_ne_nil _ _)
    let t₁ := t.put path (.file content)
    have hthere : t₁.get? path = some (.file content) := by
      rw [Tree.get?_put hne, if_pos rfl]
    have hsame : t₁.isDirectory (p ++ [name]) = t.isDirectory (p ++ [name]) := by
      rw [Tree.isDirectory, Tree.isDirectory, Tree.get?_put hne, if_neg (Ne.symm hother)]
    have hstands : place.Stands t₁ p := h.put_child other _
    have hrename :=
      hstands.rename_child hname hup hnull hlong (utf8ByteSize_temporaryName name _) hother hthere
    change place.rename t₁ (.atPath path) _ = _ at hrename
    rw [hsame, ← htemporary] at hrename
    -- A renaming that is refused takes the temporary file with it.
    have hrefused : ∀ q, (t₁.erase (place.temporary t (.atPath (p ++ [name]))).parts).get? q = t.get? q := by
      intro q
      rw [htemporary]
      exact Tree.get?_erase_put hne hfree _
    by_cases hlong' : Tree.nameFits name = false
    · rw [if_pos hlong'] at hrename ⊢
      rw [htemporary] at hrename
      exact ⟨_, writeAtomic_unnamed hwrite (htemporary ▸ hrename), .refused rfl hrefused⟩
    · rw [if_neg hlong'] at hrename ⊢
      cases hdirectory : t.isDirectory (p ++ [name]) with
      | true =>
        rw [hdirectory, if_pos rfl] at hrename
        exact ⟨_, writeAtomic_unnamed hwrite (htemporary ▸ hrename), .refused rfl hrefused⟩
      | false =>
        rw [hdirectory, if_neg Bool.false_ne_true] at hrename
        refine ⟨_, writeAtomic_renamed hwrite hrename, .written fun q => ?_⟩
        rw [Tree.get?_put hne', Tree.get?_erase_put hne hfree]

theorem Stands.ends_ensureDirectory (h : place.Stands t p) :
    Ends (place.ensureDirectory (.atPath p)) t (.ok ()) := h.ends_ensure.bind (.report _)

theorem Placed.bind {a : Action Error α} {u : α} {r : Option Error} (hleads : Leads a t (endOf u r) t')
    (h : Placed t p content u (endOf u r) t') {b : α → Action Error β} {v : β} (hb : Ends (b u) t' (.ok v)) :
    Leads (a >>= b) t (endOf v r) t' ∧ Placed t p content v (endOf v r) t' := by
  cases r with
  | none =>
    cases h with
    | written h => exact ⟨hleads.bind hb, .written h⟩
  | some e =>
    cases h with
    | refused he h => exact ⟨hleads.bind_error b, .refused he h⟩

/-- What writing a file is refused with in a tree, if it is. -/
def refusalIn (t : Tree) (p : FilePath) (name : String) (atomic : Bool) : Option Error :=
  refusal? p name atomic (freeMark t p name) (t.isDirectory (p ++ [name]))

theorem writeFile_placed (h : place.Stands t p) (hname : IsFileName name) (text : String) (atomic : Bool) :
    ∃ t', Leads (place.writeFile (.atPath (p ++ [name])) text atomic) t
        (endOf text.toUTF8.size (refusalIn t p name atomic)) t' ∧
      Placed t (p ++ [name]) text.toUTF8 text.toUTF8.size (endOf text.toUTF8.size (refusalIn t p name atomic))
        t' := by
  let l := Location.atPath (p ++ [name])
  let finishing (_ : Unit) : Action Error Nat := do
    report (.bytesWritten text.toUTF8.size l.text)
    return text.toUTF8.size
  have hend (t' : Tree) : Ends (finishing ()) t' (.ok text.toUTF8.size) := (Ends.report _).bind (.pure _)
  have hparent : Ends (place.ensureDirectory l.parent) t (.ok ()) := by
    rw [parent_atPath]
    exact h.ends_ensureDirectory
  cases atomic with
  | true =>
    obtain ⟨t', hwrite, hplaced⟩ := placed_atomic h hname text.toUTF8
    obtain ⟨hleads, hplaced⟩ := hplaced.bind hwrite (hend t')
    exact ⟨t', Leads.bind hparent hleads, hplaced⟩
  | false =>
    obtain ⟨t', hwrite, hplaced⟩ := placed_direct h hname text.toUTF8 (freeMark t p name)
    obtain ⟨hleads, hplaced⟩ := hplaced.bind hwrite (hend t')
    exact ⟨t', Leads.bind hparent hleads, hplaced⟩

end Place

end RpcBindings.Files
