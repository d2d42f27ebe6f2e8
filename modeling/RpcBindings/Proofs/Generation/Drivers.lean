import RpcBindings.Answer
import RpcBindings.Proofs.Files.Directories

namespace RpcBindings

open RpcBindings.Files
open RpcBindings.Files.Action (Ends Leads)
open RpcBindings.Path

variable {place : Place} {set : DescriptorSet} {config : Config} {t : Tree}

namespace Rendering

def sourceIn (place : Place) (directory : Option Location) (t : Tree) (key text : String) :
    Except Files.Error (String × String) :=
  match directory with
  | none => .ok (key, text)
  | some d => do
    if ← place.isFile? t (d.child (fileName key)) then
      return (key, ← place.readText t (d.child (fileName key)))
    else return (key, text)

theorem source_ends (place : Place) (directory : Option Location) (t : Tree) (key text : String) :
    Ends (source place directory key text) t (sourceIn place directory t key text) := by
  cases directory with
  | none => exact .pure _
  | some d =>
    refine (Ends.look _).seq fun b => ?_
    cases b with
    | true => exact (Ends.report _).bind ((Ends.look _).seq fun text => .pure _)
    | false => exact .pure _

def sourcesIn (place : Place) (directory : Option Location) (t : Tree) :
    Except Files.Error Template.Sources :=
  bundled.mapM fun (key, text) => sourceIn place directory t key text

theorem sources_ends (place : Place) (directory : Option Location) (t : Tree) :
    Ends (sources place directory) t (sourcesIn place directory t) :=
  Ends.mapM (fun (key, text) => source_ends place directory t key text) bundled

end Rendering

namespace Generation

def renderIn (place : Place) (config : Config) (t : Tree) (vm : ViewModel) :
    Except Failure RenderedFiles := do
  let sources ← (Rendering.sourcesIn place (Rendering.directory config) t).mapError .file
  (Rendering.files sources config vm).mapError .rendering

theorem render_ends (place : Place) (config : Config) (t : Tree) (vm : ViewModel) :
    Ends (render place config vm) t (renderIn place config t vm) := by
  refine ((Rendering.sources_ends place _ t).liftError _).seq fun sources => ?_
  refine (Ends.report _).bind ?_
  cases Rendering.files sources config vm with
  | ok files => exact (Ends.report _).bind (.pure files)
  | error e => exact .throw _

theorem build_ends (place : Place) (set : DescriptorSet) (config : Config) (t : Tree) :
    Ends (build place set config) t
      ((ViewModel.ofFirstService place.cwd set config).mapError .imports) := by
  refine (Ends.reportAll _).bind ?_
  cases ViewModel.ofFirstService place.cwd set config with
  | ok vm => exact .pure vm
  | error e => exact .throw _

def firstIn (place : Place) (set : DescriptorSet) (config : Config) (t : Tree) :
    Except Failure RenderedFiles := do
  match ← (ViewModel.ofFirstService place.cwd set config).mapError .imports with
  | none => return []
  | some vm => renderIn place config t vm

theorem renderFirst_ends (place : Place) (set : DescriptorSet) (config : Config) (t : Tree) :
    Ends (renderFirst place set config) t (firstIn place set config t) := by
  refine (build_ends place set config t).seq fun vm => ?_
  cases vm with
  | none => exact .pure []
  | some vm => exact render_ends place config t vm

end Generation

def Request.filesIn (place : Place) (r : Request) (t : Tree) : Except Failure RenderedFiles := do
  let config ← (Config.build [some r.overrides]).mapError .settings
  let set ← r.descriptors.mapError .request
  Generation.firstIn place set config t

theorem Request.render_ends (place : Place) (r : Request) (t : Tree) :
    Ends (r.render place) t (r.filesIn place t) := by
  rw [Request.render, Request.filesIn]
  cases Config.build [some r.overrides] with
  | error issues => exact .throw _
  | ok config =>
    cases r.descriptors with
    | error e => exact .throw _
    | ok set => exact (Ends.report _).bind (Generation.renderFirst_ends place set config t)

def Response.Gives (a : Response) (files : RenderedFiles) : Prop := a.error = none ∧ a.files = files

/-- The answer that rendered files or a failure lead to. A broken run leads to none, and neither does a
failure that cannot be told. -/
def Request.response : Except Failure RenderedFiles → Except Failure Response
  | .ok files => .ok { files }
  | .error f =>
    if f.isRenderError then
      match f.halves? (errorText f) with
      | some h => .error (.unencodable h)
      | none => .ok { error := some (errorText f) }
    else .error f

theorem Request.eq_of_response_error {f : Failure} {a : Response} (h : response (.error f) = .ok a) :
    a = { error := some (errorText f) } := by
  rw [response] at h
  split at h
  · cases hhalves : f.halves? (errorText f) with
    | some _ =>
      rw [hhalves] at h
      cases h
    | none =>
      rw [hhalves] at h
      cases h
      rfl
  · cases h

theorem Request.answer_ends (place : Place) (r : Request) (t : Tree) :
    Ends (r.answer place) t (response (r.filesIn place t)) := by
  have h := (r.render_ends place t).attempt (δ := Failure)
  refine h.bind ?_
  cases r.filesIn place t with
  | ok files => exact (Ends.report _).bind (.pure _)
  | error f =>
    rw [response]
    dsimp only
    cases f.isRenderError with
    | true =>
      refine (Ends.report _).bind ?_
      cases f.halves? (errorText f) with
      | some h => exact .throw _
      | none => exact .pure _
    | false => exact (Ends.throw f).bind_error _

theorem Request.response_of_answer {r : Request} {log : List Log.Event} {a : Response} {w : World}
    (h : r.answer place ⟨t, log⟩ = .ok a w) : response (r.filesIn place t) = .ok a :=
  (Leads.eq_ok (r.answer_ends place t) h).1

namespace Generation

def Report.Gives (r : Report) (files : RenderedFiles) : Prop := r.success = true ∧ r.rendered = files

structure Report.Unrendered (r : Report) : Prop where
  rendered : r.rendered = []
  totalFiles : r.totalFiles = 0
  totalLines : r.totalLines = 0
  totalBytes : r.totalBytes = 0

/-- Nothing has gone wrong so far, and nothing is rendered. -/
structure Report.Clean (r : Report) : Prop extends r.Unrendered where
  load : r.loadErrors = []
  generation : r.generationErrors = []
  writing : r.exportErrors = []

theorem Report.Unrendered.addStep {r : Report} (h : r.Unrendered) (name : String) (success : Bool)
    (detail : String) : (r.addStep name success detail).Unrendered :=
  ⟨h.rendered, h.totalFiles, h.totalLines, h.totalBytes⟩

theorem Report.Clean.addStep {r : Report} (h : r.Clean) (name : String) (success : Bool)
    (detail : String) : (r.addStep name success detail).Clean :=
  ⟨h.toUnrendered.addStep name success detail, h.load, h.generation, h.writing⟩

theorem Report.Clean.finish {r : Report} (h : r.Clean) : r.finish.Gives [] := by
  refine ⟨?_, h.rendered⟩
  simp only [Report.finish, h.load, h.generation, h.writing, List.isEmpty_nil, Bool.and_self]

theorem buildStep_ends {r : Report} (hr : r.Clean) {vm : Option ViewModel}
    (h : ViewModel.ofFirstService place.cwd set config = .ok vm) :
    ∃ r', r'.Clean ∧ Ends (buildStep place set config r) t (.ok (vm, r')) := by
  have hb := (build_ends place set config t).timed "build_view_model"
  rw [h] at hb
  cases vm with
  | none => exact ⟨_, hr.addStep _ _ _, hb.bind (.pure _)⟩
  | some vm =>
    have hr' : Report.Clean { r with service := vm.serviceName, totalRpcs := vm.rpcs.length } :=
      ⟨⟨hr.rendered, hr.totalFiles, hr.totalLines, hr.totalBytes⟩, hr.load, hr.generation, hr.writing⟩
    exact ⟨_, hr'.addStep _ _ _, hb.bind (.pure _)⟩

theorem buildStep_ends_error {r : Report} {e : ImportError}
    (h : ViewModel.ofFirstService place.cwd set config = .error e) :
    Ends (buildStep place set config r) t (.error (.imports e)) := by
  have hb := (build_ends place set config t).timed "build_view_model"
  rw [h] at hb
  exact hb.bind_error _

theorem renderStep_ends {vm : ViewModel} {r : Report} (hr : r.Clean) {files : RenderedFiles}
    (h : renderIn place config t vm = .ok files) :
    ∃ r', r'.Clean ∧ Ends (renderStep place config vm r) t (.ok (some files, r')) := by
  have ha := (render_ends place config t vm).attempt (δ := Failure)
  rw [h] at ha
  exact ⟨_, hr.addStep _ _ _, ha.bind ((Ends.report _).bind (.pure _))⟩

/-- A failure of rendering is reported, and then there are no files. -/
theorem renderStep_ends_error {vm : ViewModel} {r : Report} (hr : r.Clean) {f : Failure}
    (h : renderIn place config t vm = .error f) (hf : f.isRenderError = true) :
    ∃ r', r'.loadErrors = [] ∧ r'.generationErrors ≠ [] ∧ r'.Unrendered ∧
      Ends (renderStep place config vm r) t (.ok (none, r')) := by
  have ha := (render_ends place config t vm).attempt (δ := Failure)
  rw [h] at ha
  refine ⟨Report.addStep { r with generationErrors := ["Fatal render error: " ++ f.text] }
    "Render Templates" false "aborted", hr.load, List.cons_ne_nil _ _, ?_, ha.bind ?_⟩
  · exact ⟨hr.rendered, hr.totalFiles, hr.totalLines, hr.totalBytes⟩
  · dsimp only
    rw [hf]
    exact (Ends.report _).bind ((Ends.report _).bind (.pure _))

theorem renderStep_ends_broken {vm : ViewModel} {r : Report} {f : Failure}
    (h : renderIn place config t vm = .error f) (hf : f.isRenderError = false) :
    Ends (renderStep place config vm r) t (.error f) := by
  have ha := (render_ends place config t vm).attempt (δ := Failure)
  rw [h] at ha
  refine ha.bind ?_
  dsimp only
  rw [hf]
  exact (Ends.report _).bind ((Ends.throw f).bind_error _)

end Generation

namespace DescriptorFile

variable {l : Location}

def loadIn (place : Place) (l : Location) (t : Tree) : Except Error (DescriptorSet × Overrides) := do
  (← read place t l).descriptors

theorem load_ends (place : Place) (l : Location) (t : Tree) : Ends (load place l) t (loadIn place l t) := by
  refine (Ends.look _).seq fun content => ?_
  refine (Ends.reportAll _).bind ?_
  cases content.descriptors with
  | ok found => exact .pure found
  | error e => exact .throw e

end DescriptorFile

namespace Generation

variable {setting : Setting} {flags : Flags} {path output : Location} {bytes : ByteArray} {r : Request}

def loadIn (place : Place) (path : Location) (overrides : Option Overrides) (t : Tree) :
    Except Failure (DescriptorSet × Config) := do
  let (set, given) ← (DescriptorFile.loadIn place path t).mapError .descriptorFile
  let config ← (Config.build [some given, overrides]).mapError .settings
  return (set, config)

theorem load_ends (place : Place) (path : Location) (overrides : Option Overrides) (t : Tree) :
    Ends (load place path overrides) t (loadIn place path overrides t) := by
  refine ((DescriptorFile.load_ends place path t).liftError Failure.descriptorFile).seq fun found => ?_
  obtain ⟨set, given⟩ := found
  dsimp only
  cases Config.build [some given, overrides] with
  | ok config => exact .pure _
  | error issues => exact .throw _

end Generation

end RpcBindings
