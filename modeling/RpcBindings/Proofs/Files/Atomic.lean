import RpcBindings.Proofs.Files.Sound

namespace RpcBindings.Files

open RpcBindings.Path
open RpcBindings.Files.Action
open RpcBindings.Files.Tree (Below)

namespace Place

variable {place : Place} {t t₁ t' : Tree} {l : Location} {content : ByteArray} {q : FilePath} {r : Except Error Unit}

/-- All that has changed is that directories are there that the way to the location leads through. -/
def Paved (place : Place) (l : Location) (t t' : Tree) : Prop :=
  ∀ q, t'.get? q = t.get? q ∨ t.get? q = none ∧ t'.get? q = some .directory ∧ place.Passes l.parent q

theorem ensureDirectory_paved (place : Place) (t : Tree) (l : Location) :
    ∃ r t', Leads (place.ensureDirectory l.parent) t r t' ∧ place.Paved l t t' := by
  obtain ⟨r, t', hleads, hallow⟩ := (within_makeDirectories place l.parent.parts.length l.parent).bind
    (g := fun _ => report (.directoryEnsured l.parent.text)) (fun _ => .report _) t
  exact ⟨r, t', hleads, hallow.of_made⟩

theorem prefix_components (place : Place) (hname : l.name ≠ "") {ps : List String} (hps : ps <+: l.parent.parts) :
    (Location.mk l.root ps).components place.cwd <+: l.components place.cwd ∧
      (Location.mk l.root ps).components place.cwd ≠ l.components place.cwd := by
  have hparts : l.parts ≠ [] := by
    intro hnil
    exact hname (by rw [Location.name, hnil]; rfl)
  have hunder : ps <+: l.parts := hps.trans (List.dropLast_prefix l.parts)
  have hne : ps ≠ l.parts := by
    rintro rfl
    have hle := hps.length_le
    rw [Location.parent, List.length_dropLast] at hle
    have hpos := List.length_pos_iff.2 hparts
    omega
  rw [Location.components, Location.components]
  split
  · exact ⟨(List.prefix_append_right_inj _).2 hunder, fun heq => hne (List.append_cancel_left heq)⟩
  · exact ⟨hunder, hne⟩

theorem directory_of_passes (hlocate : place.locate t l = .ok q) (hname : l.name ≠ "") {p : FilePath}
    (hp : place.Passes l.parent p) : t.get? p = some .directory := by
  obtain ⟨ps, hps, rfl⟩ := hp
  obtain ⟨hunder, hne⟩ := prefix_components place hname hps
  exact Tree.walk_above (locate_eq_ok_iff.1 hlocate).2.2 hunder hne

/-- The file that the location leads to was written. -/
structure Written (place : Place) (l : Location) (content : ByteArray) (t t' : Tree) : Prop where
  file : t'.get? (Tree.lead (l.components place.cwd)) = some (.file content)
  replaced : t.get? (Tree.lead (l.components place.cwd)) ≠ some .directory
  way : ∀ q, place.Passes l.parent q → t'.get? q = some .directory
  frame : ∀ q, q ≠ Tree.lead (l.components place.cwd) →
    t'.get? q = t.get? q ∨ t.get? q = none ∧ t'.get? q = some .directory ∧ place.Passes l.parent q

theorem Paved.written (hpaved : place.Paved l t t₁) (hlocate : place.locate t₁ l = .ok q) (hname : l.name ≠ "")
    (hthere : t₁.get? q ≠ some .directory)
    (h : ∀ p, t'.get? p = if p = q then some (.file content) else t₁.get? p) : place.Written l content t t' := by
  obtain rfl := locate_lead hlocate
  refine ⟨(h _).trans (if_pos rfl), ?_, ?_, ?_⟩
  · rcases hpaved (Tree.lead (l.components place.cwd)) with hsame | ⟨-, hmade, -⟩
    · rwa [← hsame]
    · exact absurd hmade hthere
  · intro p hp
    have hdirectory := directory_of_passes hlocate hname hp
    rw [h, if_neg]
    · exact hdirectory
    · rintro rfl
      exact hthere hdirectory
  · intro p hp
    rw [h, if_neg hp]
    exact hpaved p

/-- Nothing that was there has changed, and what is new are directories on the way to the location. -/
structure Unwritten (place : Place) (l : Location) (t t' : Tree) : Prop where
  kept : ∀ q e, t.get? q = some e → t'.get? q = some e
  made : ∀ q e, t.get? q = none → t'.get? q = some e → e = .directory ∧ place.Passes l.parent q
  empty : ∀ q p e, t.get? q = none → Below q p → t'.get? p = some e →
    t.get? p = none ∧ e = .directory ∧ place.Passes l.parent p

theorem Paved.unwritten (h : place.Paved l t t') (hs : t.Sound) : place.Unwritten l t t' := by
  have hmade : ∀ q e, t.get? q = none → t'.get? q = some e → e = .directory ∧ place.Passes l.parent q := by
    intro q e hnone he
    rcases h q with hsame | ⟨-, hdirectory, hpasses⟩
    · rw [hsame, hnone] at he
      cases he
    · rw [hdirectory] at he
      cases he
      exact ⟨rfl, hpasses⟩
  refine ⟨?_, hmade, ?_⟩
  · intro q e he
    rcases h q with hsame | ⟨hnone, -⟩
    · rw [hsame, he]
    · rw [he] at hnone
      cases hnone
  · intro q p e hnone hbelow he
    have hnone' := hs.get?_below hbelow (by simp [hnone])
    exact ⟨hnone', hmade p e hnone' he⟩

theorem Paved.congr (h : place.Paved l t t₁) (hsame : ∀ q, t'.get? q = t₁.get? q) : place.Paved l t t' := by
  intro q
  rw [hsame]
  exact h q

/-- Writing a file directly where one was written by way of a temporary one comes to the same. -/
theorem writeBytes_of_locate (hlocate : place.locate t l = .ok q) (hthere : t.get? q ≠ some .directory) :
    place.writeBytes t l content = .ok (t.put q (.file content)) := by
  rw [writeBytes, hlocate]
  simp only [bind, Except.bind]
  cases h : t.get? q with
  | none => rfl
  | some e =>
    cases e with
    | file old => rfl
    | directory => exact absurd h hthere

theorem leads_writeFile {text : String} (atomic : Bool)
    (hensure : Leads (place.ensureDirectory l.parent) t (.ok ()) t₁)
    (hwrite : Leads (if atomic then place.writeAtomic l text.toUTF8
      else change fun t => place.writeBytes t l text.toUTF8) t₁ (.ok ()) t') :
    Leads (place.writeFile l text atomic) t (.ok text.toUTF8.size) t' := by
  refine hensure.bind ?_
  cases atomic with
  | true => exact hwrite.bind ((Leads.report _).bind (Ends.pure _))
  | false => exact hwrite.bind ((Leads.report _).bind (Ends.pure _))

/-- Writing a file atomically either writes it, which leaves the same tree as writing it directly, or fails; then
all that was there is as it was, and no file is new. -/
theorem writeFile_atomic (hs : t.Sound) (place : Place) (l : Location) (text : String) (log : List Log.Event) :
    ∃ r w, place.writeFile l text true ⟨t, log⟩ = finish r w ∧
      (r = .ok text.toUTF8.size ∧ place.Written l text.toUTF8 t w.tree ∧
          (∃ w', place.writeFile l text false ⟨t, log⟩ = .ok text.toUTF8.size w' ∧
            ∀ q, w'.tree.get? q = w.tree.get? q) ∨
        ∃ e, r = .error e ∧ place.Unwritten l t w.tree) := by
  obtain ⟨r, t₁, hensure, hpaved⟩ := place.ensureDirectory_paved t l
  cases r with
  | error e =>
    have hfailed : Leads (place.writeFile l text true) t (.error e) t₁ := hensure.bind_error _
    obtain ⟨log', hrun⟩ := hfailed log
    exact ⟨_, _, hrun, .inr ⟨e, rfl, hpaved.unwritten hs⟩⟩
  | ok u =>
    obtain ⟨r, t₂, hwrite, hstored⟩ := place.writeAtomic_stored t₁ l text.toUTF8
    cases hstored with
    | unchanged e hsame =>
      have hfailed : Leads (place.writeFile l text true) t (.error e) t₂ := hensure.bind (hwrite.bind_error _)
      obtain ⟨log', hrun⟩ := hfailed log
      exact ⟨_, _, hrun, .inr ⟨e, rfl, (hpaved.congr hsame).unwritten hs⟩⟩
    | @stored _ q hlocate hname hthere h =>
      have hne : q ≠ [] := by
        rintro rfl
        exact hthere rfl
      obtain ⟨log', hrun⟩ := leads_writeFile true hensure hwrite log
      have hbytes : place.writeBytes t₁ l text.toUTF8 = .ok (t₁.put q (.file text.toUTF8)) :=
        writeBytes_of_locate hlocate hthere
      have hdirect := Leads.change_ok (f := fun t => place.writeBytes t l text.toUTF8) hbytes
      obtain ⟨log'', hrun'⟩ := leads_writeFile false hensure hdirect log
      refine ⟨_, _, hrun, .inl ⟨rfl, hpaved.written hlocate hname hthere h, _, hrun', fun p => ?_⟩⟩
      rw [h]
      exact Tree.get?_put hne

def busyTree : Tree := ⟨[(["out"], .directory), (["out", "api.ts"], .directory)]⟩

theorem writeFile_atomic_busy : busyTree.Sound ∧
    (∃ w, Place.writeFile {} (.ofText "new/api.ts") "é\n" true ⟨busyTree, []⟩ = .ok 3 w ∧
      Place.Written {} (.ofText "new/api.ts") "é\n".toUTF8 busyTree w.tree) ∧
    ∃ e w, Place.writeFile {} (.ofText "out/api.ts") "é\n" true ⟨busyTree, []⟩ = .error e w ∧
      Place.Unwritten {} (.ofText "out/api.ts") busyTree w.tree := by
  have hs : busyTree.Sound := Tree.sound_of_entries (by decide)
  have hends : ((match Place.writeFile {} (.ofText "new/api.ts") "é\n" true ⟨busyTree, []⟩ with
      | .ok _ _ => true
      | .error _ _ => false),
      match Place.writeFile {} (.ofText "out/api.ts") "é\n" true ⟨busyTree, []⟩ with
      | .ok _ _ => true
      | .error _ _ => false) = (true, false) := by
    decide +kernel
  obtain ⟨hnew, hbusy⟩ := Prod.mk.injEq _ _ _ _ ▸ hends
  obtain ⟨r, w, hrun, hwritten⟩ := writeFile_atomic hs {} (.ofText "new/api.ts") "é\n" []
  obtain ⟨r', w', hrun', hunwritten⟩ := writeFile_atomic hs {} (.ofText "out/api.ts") "é\n" []
  rw [hrun] at hnew
  rw [hrun'] at hbusy
  refine ⟨hs, ?_, ?_⟩
  · rcases hwritten with ⟨rfl, hwritten, -⟩ | ⟨e, rfl, -⟩
    · exact ⟨w, hrun, hwritten⟩
    · cases hnew
  · rcases hunwritten with ⟨rfl, -⟩ | ⟨e, rfl, hunwritten⟩
    · cases hbusy
    · exact ⟨e, w', hrun', hunwritten⟩

end Place

end RpcBindings.Files
