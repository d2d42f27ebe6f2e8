import Mathlib
import RpcBindings.Proofs.Export.Written
import RpcBindings.Proofs.Json.RoundTrip

namespace RpcBindings.Export

open RpcBindings.Data
open RpcBindings.Files
open RpcBindings.Path
open RpcBindings.Files.Action

namespace Manifest

variable {m : Manifest}

/-- Totals with no more digits than a reader takes, as those of all files that a machine can hold. -/
structure Readable (m : Manifest) : Prop where
  files : Json.ShortInt m.totalFiles
  bytes : Json.ShortInt m.totalBytes
  lines : Json.ShortInt m.totalLines

theorem le_foldl {n : Nat} {ns : List Nat} (h : n ∈ ns) : n ≤ ns.foldl (· + ·) 0 := by
  rw [← List.sum_eq_foldl]
  exact List.le_sum_of_mem h

theorem portable_recordValue {r : FileRecord} (hbytes : Json.ShortInt r.bytes)
    (hlines : Json.ShortInt r.lines) : Json.Portable (recordValue r) := by
  apply Json.Portable.record
  · simp
  · simp only [List.forall_mem_cons]
    exact ⟨.text _, .int hbytes, .int hlines, .text _, List.forall_mem_nil _⟩

theorem portable_toValue (h : m.Readable) : Json.Portable m.toValue := by
  have hrecords : Json.Portable (.list (m.files.map recordValue)) := by
    apply Json.Portable.list
    intro v hv
    obtain ⟨r, hr, rfl⟩ := List.mem_map.1 hv
    exact portable_recordValue (h.bytes.mono (le_foldl (List.mem_map_of_mem hr)))
      (h.lines.mono (le_foldl (List.mem_map_of_mem hr)))
  apply Json.Portable.record
  · simp
  · simp only [List.forall_mem_cons]
    exact ⟨.text _, .text _, .text _, .text _, .int h.files, .int h.bytes,
      .int h.lines, hrecords, List.forall_mem_nil _⟩

theorem read_text (h : m.Readable) : Json.read m.text = .ok m.toValue :=
  Json.read_write Json.Repertoire.unicode_printed (portable_toValue h) 0

theorem timestamp_eq_of_toValue {m' : Manifest} (h : m.toValue = m'.toValue) : m.timestamp = m'.timestamp := by
  simp only [toValue, Value.record, List.map_cons, Value.map.injEq, List.cons.injEq, Prod.mk.injEq,
    Value.text.injEq] at h
  exact h.2.2.1.2

theorem Readable.stamped (h : m.Readable) (time : String) : (m.stamped time).Readable := ⟨h.files, h.bytes, h.lines⟩

end Manifest

/-- What an export says about the files is so in the tree that it leaves. The manifest there is the one that is
returned, except for the time. -/
structure Truthful (o : Options) (files : List (String × String)) (r : Result) (t : Tree) : Prop where
  settled : ∀ f ∈ files,
    (r.manifest.files.map (·.name)).count f.1 + (r.errors.filterMap Failed.name?).count f.1 = 1
  named : ∀ e ∈ r.errors, ∃ f ∈ files, ∃ cause, e = .notWritten f.1 cause
  success : r.success = true ↔ ∀ f ∈ files, f.1 ∈ r.manifest.files.map (·.name)
  recorded : ∀ x ∈ r.manifest.files, ∃ text, (x.name, text) ∈ files ∧
    t.get? (o.pathOf x.name) = some (.file text.toUTF8) ∧ x.bytes = text.toUTF8.size ∧
    x.lines = Text.lineCount text ∧ x.digest = Digest.sha256 text.toUTF8
  ordered : (r.manifest.files.map (·.name)).Sublist (files.map (·.1))
  totalFiles : r.manifest.totalFiles = r.manifest.files.length
  totalBytes : r.manifest.totalBytes = (r.manifest.files.map (·.bytes)).sum
  totalLines : r.manifest.totalLines = (r.manifest.files.map (·.lines)).sum
  returned : r.manifest.timestamp = o.timestamp.returned
  manifest : o.manifest = true → r.warnings = [] → ∃ content text,
    t.get? (o.pathOf manifestName) = some (.file content) ∧ Text.Utf8.decode content = .ok text ∧
    (r.manifest.Readable → Json.read text = .ok (r.manifest.stamped o.timestamp.written).toValue)

variable {o : Options} {place : Place} {t t₁ t₂ : Tree} {files : List (String × String)}
  {records : List FileRecord} {failed : List Failed} {warnings : List String}

theorem truthful_of_written (hwritten : o.Written t files records failed t₁)
    (hnames : (files.map (·.1)).Nodup) (hother : ∀ f ∈ files, f.1 ≠ manifestName)
    (hsame : ∀ q, q ≠ o.pathOf manifestName → t₂.get? q = t₁.get? q)
    (hmanifest : o.manifest = true → warnings = [] →
      t₂.get? (o.pathOf manifestName) = some (.file (o.manifestText records).toUTF8)) :
    Truthful o files { manifest := o.manifestOf records, errors := failed, warnings } t₂ where
  settled := by
    intro f hf
    rw [← List.count_append]
    change List.count f.1 (records.map (·.name) ++ _) = 1
    rw [hwritten.perm.count_eq]
    exact List.count_eq_one_of_mem hnames (List.mem_map_of_mem hf)
  named e he := hwritten.failed_mem he
  success := List.isEmpty_iff.trans (hwritten.failed_eq_nil_iff hnames)
  recorded := by
    intro x hx
    obtain ⟨⟨name, text⟩, hfile, rfl, hthere⟩ := hwritten.record_mem hnames hx
    have hpath : o.pathOf name ≠ o.pathOf manifestName := mt Options.pathOf_inj.1 (hother _ hfile)
    exact ⟨text, hfile, (hsame _ hpath).trans hthere, rfl, rfl, rfl⟩
  ordered := hwritten.sublist
  totalFiles := rfl
  totalBytes := List.sum_eq_foldl.symm
  totalLines := List.sum_eq_foldl.symm
  returned := rfl
  manifest := by
    intro hwanted hwarned
    refine ⟨_, _, hmanifest hwanted hwarned, Text.Utf8.decode_toUTF8 _, ?_⟩
    intro hreadable
    exact Manifest.read_text (hreadable.stamped o.timestamp.written)

theorem writeTo_truthful (hprepare : Leads (o.prepare place) t (.ok ()) t₁) (hready : o.Ready place t₁)
    (hnames : (files.map (·.1)).Nodup) (hplain : ∀ f ∈ files, IsFileName f.1 ∧ f.1 ≠ manifestName) :
    ∃ r t', Leads (o.writeTo place files) t (.ok r) t' ∧ Truthful o files r t' := by
  obtain ⟨records, failed, t₂, hall, hwritten, hready⟩ :=
    Options.writeAll_written (fun f hf => (hplain f hf).1) hready
  obtain ⟨told, t₃, hwrite, hlast⟩ := Options.writeLast_last hready records
  have hother : ∀ f ∈ files, f.1 ≠ manifestName := fun f hf => (hplain f hf).2
  refine ⟨_, t₃, Options.writeTo_of_prepared hprepare (Options.leads_writeInto hall hwrite), ?_⟩
  exact truthful_of_written hwritten hnames hother (fun q hq => hlast.get?_of_ne hq) hlast.get?_manifest

theorem leads_run_truthful (hnull : o.directory.hasNull = false) (hnames : (files.map (·.1)).Nodup)
    (hplain : ∀ f ∈ files, IsFileName f.1 ∧ f.1 ≠ manifestName) {w₀ : World}
    (hprepared : (o.resolved place).prepare place ⟨t, []⟩ = .ok () w₀) :
    ∃ r t', Leads (run place o files) t (.ok r) t' ∧ Truthful (o.resolved place) files r t' := by
  have hprepare := (Options.determined_prepare (o.resolved place) place).leads hprepared
  obtain ⟨r, t', hwrite, htruthful⟩ :=
    writeTo_truthful hprepare (Options.ready_of_prepare hprepared) hnames hplain
  refine ⟨r, t', ?_, htruthful⟩
  rw [run, hnull, if_neg Bool.false_ne_true]
  exact (Leads.report _).bind ((hwrite.timed "export").bind ((Leads.report _).bind (Ends.pure r)))

/-- If the output directory can be prepared, an export tells the truth about what it wrote. -/
theorem run_truthful (hnull : o.directory.hasNull = false) (hnames : (files.map (·.1)).Nodup)
    (hplain : ∀ f ∈ files, IsFileName f.1 ∧ f.1 ≠ manifestName) {w₀ : World}
    (hprepared : (o.resolved place).prepare place ⟨t, []⟩ = .ok () w₀) (log : List Log.Event) :
    ∃ r w, run place o files ⟨t, log⟩ = .ok r w ∧ Truthful (o.resolved place) files r w.tree := by
  obtain ⟨r, t', hrun, htruthful⟩ := leads_run_truthful hnull hnames hplain hprepared
  obtain ⟨log', h⟩ := hrun log
  exact ⟨r, ⟨t', log'⟩, h, htruthful⟩

/-- A directory is in the way of one of the files. -/
theorem run_truthful_partly : ∃ r w,
    run {} { directory := .ofText "out/../out", timestamp := "now" } [("api.ts", "a\n"), ("client.ts", "b")]
      ⟨⟨[(["out"], .directory), (["out", "api.ts"], .directory)]⟩, []⟩ = .ok r w ∧
    Truthful { directory := .ofText "/out", timestamp := "now" } [("api.ts", "a\n"), ("client.ts", "b")]
      r w.tree := by
  let o : Options := { directory := .ofText "out/../out", timestamp := "now" }
  let t : Tree := ⟨[(["out"], .directory), (["out", "api.ts"], .directory)]⟩
  have hprepared : (o.resolved {}).prepare {} ⟨t, []⟩ = .ok () ⟨t, []⟩ := rfl
  have hplain : ∀ f ∈ [("api.ts", "a\n"), ("client.ts", "b")], IsFileName f.1 ∧ f.1 ≠ manifestName := by
    decide
  exact run_truthful (by decide) (by decide) hplain hprepared []

def midnight : Options := { directory := .ofText "/out", timestamp := ⟨"23:59:59", "00:00:00"⟩ }

def manifestAt (path : String) : Manifest := ⟨"", version, "00:00:00", "/out", [⟨"api.ts", path, 1, 1, ""⟩]⟩

/-- The clock may go on between the two manifests, and then what is read back is not the one that is returned. The
places of the files are not read back at all. -/
theorem not_returned_midnight :
    (∃ r w content text value, run {} midnight [("api.ts", "a")] ⟨⟨[]⟩, []⟩ = .ok r w ∧
      r.success = true ∧ r.warnings = [] ∧ w.tree.get? ["out", manifestName] = some (.file content) ∧
      Text.Utf8.decode content = .ok text ∧ Json.read text = .ok value ∧ value ≠ r.manifest.toValue) ∧
    manifestAt "/out/api.ts" ≠ manifestAt "/srv/api.ts" ∧
      Json.read (manifestAt "/out/api.ts").text = .ok (manifestAt "/srv/api.ts").toValue := by
  constructor
  · have hplain : ∀ f ∈ [("api.ts", "a")], IsFileName f.1 ∧ f.1 ≠ manifestName := by decide
    obtain ⟨w₀, hprepared⟩ : ∃ w₀, (midnight.resolved {}).prepare {} ⟨⟨[]⟩, []⟩ = .ok () w₀ := ⟨_, rfl⟩
    obtain ⟨r, t', hleads, htruthful⟩ :=
      leads_run_truthful (o := midnight) (by decide) (by decide) hplain hprepared
    obtain ⟨log, hrun⟩ := hleads []
    have hends : (match run {} midnight [("api.ts", "a")] ⟨⟨[]⟩, []⟩ with
        | .ok r _ => (r.success, r.warnings, r.manifest.totalFiles, r.manifest.totalBytes, r.manifest.totalLines)
        | .error _ _ => (false, [], 0, 0, 0)) = (true, [], 1, 1, 1) := by
      decide +kernel
    rw [hrun] at hends
    change (r.success, _, _, _, _) = _ at hends
    simp only [Prod.mk.injEq] at hends
    obtain ⟨hsuccess, hwarnings, hfiles, hbytes, hlines⟩ := hends
    have hreadable : r.manifest.Readable :=
      ⟨by rw [hfiles]; decide, by rw [hbytes]; decide, by rw [hlines]; decide⟩
    obtain ⟨content, text, hthere, htext, hread⟩ := htruthful.manifest rfl hwarnings
    refine ⟨r, _, content, text, _, hrun, hsuccess, hwarnings, hthere, htext, hread hreadable, ?_⟩
    intro hsame
    have htime : "23:59:59" = r.manifest.timestamp := Manifest.timestamp_eq_of_toValue hsame
    rw [htruthful.returned] at htime
    exact absurd htime (by decide)
  · refine ⟨by decide, ?_⟩
    have hreadable : (manifestAt "/out/api.ts").Readable := ⟨by decide, by decide, by decide⟩
    exact Manifest.read_text hreadable

end RpcBindings.Export
