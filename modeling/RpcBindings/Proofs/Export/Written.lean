import RpcBindings.Proofs.Files.Write

namespace RpcBindings.Export

open RpcBindings.Files
open RpcBindings.Path
open RpcBindings.Files.Action

def Failed.name? : Failed → Option String
  | aborted _ => none
  | notWritten name _ => some name

namespace Options

variable {o : Options} {place : Place} {t t₁ t₂ : Tree} {name : String} {files : List (String × String)}
  {records : List FileRecord} {failed : List Failed}

def pathOf (o : Options) (name : String) : FilePath := o.directory.parts ++ [name]

def recordOf (o : Options) (file : String × String) : FileRecord :=
  .ofText file.1 (o.directory.child file.1).text file.2

theorem pathOf_inj {other : String} : o.pathOf name = o.pathOf other ↔ name = other := by
  rw [pathOf, pathOf, List.append_cancel_left_eq, List.singleton_inj]

/-- The directory that is written to stands. -/
structure Ready (o : Options) (place : Place) (t : Tree) : Prop where
  absolute : o.directory = .atPath o.directory.parts
  stands : place.Stands t o.directory.parts

theorem Ready.congr (h : o.Ready place t) (name : String)
    (hsame : ∀ q, q ≠ o.pathOf name → t₁.get? q = t.get? q) : o.Ready place t₁ := by
  refine ⟨h.absolute, h.stands.congr fun q hq => hsame q ?_⟩
  rintro rfl
  have hlength := hq.length_le
  rw [pathOf, List.length_append, List.length_singleton] at hlength
  omega

theorem child_eq (h : o.Ready place t) (name : String) : o.directory.child name = .atPath (o.pathOf name) := by
  rw [h.absolute]
  rfl

/-- What a file is refused with in a tree, if it is. -/
def refusal (o : Options) (t : Tree) (name : String) : Option Error :=
  Place.refusalIn t o.directory.parts name o.atomic

theorem writeOne_placed (h : o.Ready place t) (hname : IsFileName name) (text : String) :
    ∃ t', Leads (o.writeOne place name text) t (Place.endOf (o.recordOf (name, text)) (o.refusal t name)) t' ∧
      Place.Placed t (o.pathOf name) text.toUTF8 (o.recordOf (name, text))
        (Place.endOf (o.recordOf (name, text)) (o.refusal t name)) t' := by
  let finishing (size : Nat) : Action Error FileRecord := do
    report (.fileWritten name size (Text.lineCount text))
    return .ofText name (o.directory.child name).text text
  obtain ⟨t', hwrite, hplaced⟩ := Place.writeFile_placed h.stands hname text o.atomic
  have hend : Ends (finishing text.toUTF8.size) t' (.ok (o.recordOf (name, text))) :=
    (Ends.report _).bind (.pure _)
  obtain ⟨hleads, hplaced⟩ := hplaced.bind hwrite hend
  refine ⟨t', ?_, hplaced⟩
  rw [writeOne, join_fileName hname]
  dsimp only [finishing] at hleads
  rw [child_eq h] at hleads ⊢
  exact hleads

/-- Files that were written in order, each to what the one before it left. -/
inductive Written (o : Options) :
    Tree → List (String × String) → List FileRecord → List Failed → Tree → Prop where
  | nil (t : Tree) : Written o t [] [] [] t
  | recorded {t t₁ t₂ : Tree} {file : String × String} {rest : List (String × String)}
      {records : List FileRecord} {failed : List Failed}
      (hthere : ∀ q, t₁.get? q = if q = o.pathOf file.1 then some (.file file.2.toUTF8) else t.get? q)
      (hrest : Written o t₁ rest records failed t₂) :
      Written o t (file :: rest) (o.recordOf file :: records) failed t₂
  | failed {t t₁ t₂ : Tree} {file : String × String} {rest : List (String × String)}
      {records : List FileRecord} {failed : List Failed} {e : Error} (he : e.isRefusal = true)
      (hsame : ∀ q, t₁.get? q = t.get? q) (hrest : Written o t₁ rest records failed t₂) :
      Written o t (file :: rest) records (.notWritten file.1 e :: failed) t₂

/-- Files are written one after the other, whatever comes of each of them. -/
theorem writeAll_written (hplain : ∀ f ∈ files, IsFileName f.1) (h : o.Ready place t) :
    ∃ records failed t', Leads (o.writeAll place files) t (.ok (records, failed)) t' ∧
      o.Written t files records failed t' ∧ o.Ready place t' := by
  induction files generalizing t with
  | nil => exact ⟨[], [], t, Ends.pure _, .nil t, h⟩
  | cons file rest ih =>
    obtain ⟨name, text⟩ := file
    obtain ⟨hname, hrest⟩ := List.forall_mem_cons.1 hplain
    obtain ⟨t₁, hone, hplaced⟩ := writeOne_placed h hname text
    generalize Place.endOf (o.recordOf (name, text)) (o.refusal t name) = r at hone hplaced
    cases hplaced with
    | written hthere =>
      have hready : o.Ready place t₁ := by
        apply h.congr name
        intro q hq
        rw [hthere, if_neg hq]
      obtain ⟨records, failed, t₂, hall, hwritten, hready⟩ := ih hrest hready
      refine ⟨_ :: records, failed, t₂, ?_, .recorded hthere hwritten, hready⟩
      exact hone.attempt.bind (hall.bind (Ends.pure _))
    | refused he hsame =>
      have hready : o.Ready place t₁ := h.congr name fun q _ => hsame q
      obtain ⟨records, failed, t₂, hall, hwritten, hready⟩ := ih hrest hready
      refine ⟨records, _ :: failed, t₂, ?_, .failed he hsame hwritten, hready⟩
      refine hone.attempt.bind ?_
      dsimp only
      rw [he]
      exact (Leads.report _).bind (hall.bind (Ends.pure _))

namespace Written

theorem get?_of_unrecorded (h : o.Written t files records failed t₁) {q : FilePath}
    (hq : ∀ record ∈ records, q ≠ o.pathOf record.name) : t₁.get? q = t.get? q := by
  induction h with
  | nil t => rfl
  | recorded hthere _ ih =>
    obtain ⟨hne, hrest⟩ := List.forall_mem_cons.1 hq
    rw [ih hrest, hthere]
    exact if_neg hne
  | failed he hsame _ ih => rw [ih hq, hsame]

theorem perm (h : o.Written t files records failed t₁) :
    (records.map (·.name) ++ failed.filterMap Failed.name?).Perm (files.map (·.1)) := by
  induction h with
  | nil t => exact .nil
  | recorded _ _ ih => exact ih.cons _
  | failed _ _ _ ih => exact List.perm_middle.trans (ih.cons _)

theorem sublist (h : o.Written t files records failed t₁) :
    (records.map (·.name)).Sublist (files.map (·.1)) := by
  induction h with
  | nil t => exact .slnil
  | recorded _ _ ih => exact ih.cons_cons _
  | failed _ _ _ ih => exact ih.cons _

theorem get?_eq (h : o.Written t files records failed t₁) {q : FilePath}
    (hq : ∀ f ∈ files, q ≠ o.pathOf f.1) : t₁.get? q = t.get? q := by
  apply h.get?_of_unrecorded
  intro record hrecord
  obtain ⟨f, hf, hname⟩ := List.mem_map.1 (h.sublist.subset (List.mem_map_of_mem hrecord))
  rw [← hname]
  exact hq f hf

theorem failed_mem (h : o.Written t files records failed t₁) {f : Failed} (hf : f ∈ failed) :
    ∃ file ∈ files, ∃ e, f = .notWritten file.1 e := by
  induction h with
  | nil t => cases hf
  | recorded _ _ ih =>
    obtain ⟨file, hfile, e, heq⟩ := ih hf
    exact ⟨file, List.mem_cons_of_mem _ hfile, e, heq⟩
  | failed _ _ _ ih =>
    rcases List.mem_cons.1 hf with rfl | hf
    · exact ⟨_, List.mem_cons_self, _, rfl⟩
    · obtain ⟨file, hfile, e, heq⟩ := ih hf
      exact ⟨file, List.mem_cons_of_mem _ hfile, e, heq⟩

theorem record_mem (h : o.Written t files records failed t₁) (hnames : (files.map (·.1)).Nodup)
    {r : FileRecord} (hr : r ∈ records) :
    ∃ file ∈ files, r = o.recordOf file ∧ t₁.get? (o.pathOf file.1) = some (.file file.2.toUTF8) := by
  induction h with
  | nil t => cases hr
  | @recorded t t₁ t₂ file rest records failed hthere hrest ih =>
    obtain ⟨hfresh, hnames⟩ := List.nodup_cons.1 hnames
    rcases List.mem_cons.1 hr with rfl | hr
    · refine ⟨file, List.mem_cons_self, rfl, ?_⟩
      have hother : ∀ f ∈ rest, o.pathOf file.1 ≠ o.pathOf f.1 := by
        intro f hf heq
        exact hfresh (List.mem_map.2 ⟨f, hf, (pathOf_inj.1 heq).symm⟩)
      rw [hrest.get?_eq hother, hthere, if_pos rfl]
    · obtain ⟨file, hfile, hrest⟩ := ih hnames hr
      exact ⟨file, List.mem_cons_of_mem _ hfile, hrest⟩
  | failed _ _ _ ih =>
    obtain ⟨file, hfile, hrest⟩ := ih (List.nodup_cons.1 hnames).2 hr
    exact ⟨file, List.mem_cons_of_mem _ hfile, hrest⟩

theorem failed_eq_nil_iff (h : o.Written t files records failed t₁) (hnames : (files.map (·.1)).Nodup) :
    failed = [] ↔ ∀ file ∈ files, file.1 ∈ records.map (·.name) := by
  constructor
  · rintro rfl file hfile
    have hperm := h.perm
    rw [List.filterMap_nil, List.append_nil] at hperm
    exact hperm.mem_iff.2 (List.mem_map_of_mem hfile)
  · intro hall
    rw [List.eq_nil_iff_forall_not_mem]
    intro f hf
    obtain ⟨file, hfile, e, rfl⟩ := h.failed_mem hf
    have hnodup := h.perm.nodup_iff.2 hnames
    have herror : file.1 ∈ failed.filterMap Failed.name? := List.mem_filterMap.2 ⟨_, hf, rfl⟩
    exact List.disjoint_of_nodup_append hnodup (hall file hfile) herror

end Written

theorem isFileName_manifestName : IsFileName manifestName := by decide

/-- The warning of a manifest that could not be written. -/
def warnings : Option Error → List String
  | none => []
  | some e => ["Could not write manifest: " ++ e.message]

/-- Where there is no warning, the manifest is there. -/
theorem writeManifest_placed (h : o.Ready place t) (records : List FileRecord) :
    ∃ t', Leads (o.writeManifest place records) t (.ok (warnings (o.refusal t manifestName))) t' ∧
      Place.Placed t (o.pathOf manifestName) (o.manifestText records).toUTF8
        (o.manifestText records).toUTF8.size
        (Place.endOf (o.manifestText records).toUTF8.size (o.refusal t manifestName)) t' := by
  obtain ⟨t', hwrite, hplaced⟩ :=
    Place.writeFile_placed h.stands isFileName_manifestName (o.manifestText records) o.atomic
  refine ⟨t', ?_, hplaced⟩
  rw [writeManifest, child_eq h]
  have hwritten : Leads (place.writeFile (.atPath (o.pathOf manifestName)) (o.manifestText records) o.atomic) t
      (Place.endOf (o.manifestText records).toUTF8.size (o.refusal t manifestName)) t' := hwrite
  have hrefusal : o.refusal t manifestName = Place.refusalIn t o.directory.parts manifestName o.atomic := rfl
  rw [← hrefusal] at hplaced
  generalize o.refusal t manifestName = refused at hwritten hplaced
  cases refused with
  | none => exact hwritten.attempt.bind ((Ends.report _).bind (.pure []))
  | some e =>
    have hfailed : Leads _ t (.error e) t' := hwritten
    refine hfailed.attempt.bind ?_
    dsimp only
    rw [hplaced.isRefusal]
    exact (Ends.report _).bind (.pure _)

/-- What comes of writing the manifest last, if it is to be written: it is there, or nothing has changed. -/
inductive Last (o : Options) (t : Tree) (records : List FileRecord) : List String → Tree → Prop where
  | written {t₁ : Tree} (hwanted : o.manifest = true)
      (h : ∀ q, t₁.get? q =
        if q = o.pathOf manifestName then some (.file (o.manifestText records).toUTF8) else t.get? q) :
      Last o t records [] t₁
  | left {t₁ : Tree} {told : List String} (hnot : o.manifest = true → told ≠ []) (h : ∀ q, t₁.get? q = t.get? q) :
      Last o t records told t₁

theorem writeLast_last (h : o.Ready place t) (records : List FileRecord) :
    ∃ told t₁, Leads (if o.manifest then o.writeManifest place records else pure []) t (.ok told) t₁ ∧
      o.Last t records told t₁ := by
  cases hwanted : o.manifest with
  | false =>
    refine ⟨[], t, Ends.pure [], .left ?_ fun q => rfl⟩
    intro htrue
    rw [hwanted] at htrue
    cases htrue
  | true =>
    obtain ⟨t₁, hwrite, hplaced⟩ := writeManifest_placed h records
    generalize o.refusal t manifestName = refused at hwrite hplaced
    refine ⟨_, t₁, hwrite, ?_⟩
    cases refused with
    | none =>
      cases hplaced with
      | written hthere => exact .written hwanted hthere
    | some e =>
      cases hplaced with
      | refused he hsame => exact .left (fun _ => List.cons_ne_nil _ _) hsame

namespace Last

variable {told : List String} {q : FilePath}

theorem get?_of_ne (h : o.Last t records told t₁) (hq : q ≠ o.pathOf manifestName) : t₁.get? q = t.get? q := by
  cases h with
  | written _ hthere => exact (hthere q).trans (if_neg hq)
  | left _ hsame => exact hsame q

theorem get?_manifest (h : o.Last t records told t₁) (hwanted : o.manifest = true) (htold : told = []) :
    t₁.get? (o.pathOf manifestName) = some (.file (o.manifestText records).toUTF8) := by
  cases h with
  | written _ hthere => exact (hthere _).trans (if_pos rfl)
  | left hnot _ => exact absurd htold (hnot hwanted)

end Last

theorem determined_cleanUp (o : Options) (place : Place) : Determined (o.cleanUp place) := by
  rw [cleanUp]
  split
  · refine .bind (.look _) fun there => ?_
    split
    · exact .bind (.report _) fun _ => .change _
    · exact .pure ()
  · exact .pure ()

theorem determined_prepare (o : Options) (place : Place) : Determined (o.prepare place) :=
  (determined_cleanUp o place).bind fun _ => Place.determined_makeDirectories place _ o.directory

def writeInto (o : Options) (place : Place) (files : List (String × String)) : Action Error Result := do
  let found ← o.writeAll place files
  report (.filesWritten found.1.length o.directory.text)
  let warnings ← if o.manifest then o.writeManifest place found.1 else pure []
  return { manifest := o.manifestOf found.1, errors := found.2, warnings }

theorem leads_writeInto {found : List FileRecord × List Failed} {told : List String}
    (hall : Leads (o.writeAll place files) t (.ok found) t₁)
    (hmanifest : Leads (if o.manifest then o.writeManifest place found.1 else pure []) t₁ (.ok told) t₂) :
    Leads (o.writeInto place files) t
      (.ok { manifest := o.manifestOf found.1, errors := found.2, warnings := told }) t₂ := by
  refine hall.bind ((Leads.report _).bind ?_)
  cases hwanted : o.manifest with
  | true =>
    rw [hwanted, if_pos rfl] at hmanifest
    exact hmanifest.bind (Ends.pure _)
  | false =>
    rw [hwanted, if_neg Bool.false_ne_true] at hmanifest
    exact hmanifest.bind (Ends.pure _)

theorem writeTo_of_prepared {r : Except Error Result} (h : Leads (o.prepare place) t (.ok ()) t₁)
    (hrest : Leads (o.writeInto place files) t₁ r t₂) : Leads (o.writeTo place files) t r t₂ :=
  h.attempt.bind hrest

theorem writeTo_of_refused {e : Error} (h : Leads (o.prepare place) t (.error e) t₁) (he : e.isRefusal = true)
    (files : List (String × String)) :
    Leads (o.writeTo place files) t (.ok { manifest := o.manifestOf [], errors := [.aborted e] }) t₁ := by
  refine h.attempt.bind ?_
  dsimp only
  rw [he]
  exact (Ends.report _).bind (.pure _)

theorem writeTo_of_broken {e : Error} (h : Leads (o.prepare place) t (.error e) t₁) (he : e.isRefusal = false)
    (files : List (String × String)) : Leads (o.writeTo place files) t (.error e) t₁ := by
  refine h.attempt.bind ?_
  dsimp only
  rw [he]
  exact (Ends.throw e).bind_error _

def resolved (o : Options) (place : Place) : Options := { o with directory := o.directory.absolute place.cwd }

theorem ready_of_prepare {w w' : World} (h : (o.resolved place).prepare place w = .ok () w') :
    (o.resolved place).Ready place w'.tree := by
  obtain ⟨_, w₁, -, hensure⟩ := stateful_bind_eq_ok.1 h
  have hnormal : Normal (enter [] (o.directory.components place.cwd)) :=
    normal_enter (List.forall_mem_nil _) _
  exact ⟨rfl, Place.makeDirectories_ok hnormal hensure⟩

end Options

end RpcBindings.Export
