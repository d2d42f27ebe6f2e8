import RpcBindings.Proofs.Generation.Drivers
import RpcBindings.Proofs.Request.Part

namespace RpcBindings

open RpcBindings.Files

namespace Request

variable {r r' : Request} {place : Place} {t : Tree}

theorem overrides_eq (hp : r'.parameter = r.parameter) : r'.overrides = r.overrides := by
  rw [overrides, overrides, hp]

/-- Where both have descriptors, a part of a request has the same files generated as the whole. -/
theorem PartOf.filesIn (h : r.PartOf r') (hgen : r.filesToGenerate ≠ []) {s s' : DescriptorSet}
    (hs : r.descriptors = .ok s) (hs' : r'.descriptors = .ok s') (place : Place) (t : Tree) :
    r'.filesIn place t = r.filesIn place t := by
  rw [Request.filesIn, Request.filesIn, overrides_eq h.parameter, hs, hs']
  cases Config.build [some r.overrides] with
  | error issues => rfl
  | ok config =>
    change Generation.firstIn place s' config t = Generation.firstIn place s config t
    rw [Generation.firstIn, Generation.firstIn, h.ofFirstService hgen hs hs']

theorem exists_descriptors_of_filesIn {files : RenderedFiles} (h : r.filesIn place t = .ok files) :
    ∃ s, r.descriptors = .ok s := by
  obtain ⟨config, -, h⟩ := bind_eq_ok.1 h
  obtain ⟨s, hs, -⟩ := bind_eq_ok.1 h
  exact ⟨s, mapError_eq_ok hs⟩

/-- The file has a new name, is not to be generated and declares new types only. -/
structure FileDecl.NewTo (f : FileDecl) (r : Request) : Prop where
  name : f.nameText ∉ r.files.map (·.nameText)
  notGenerated : f.nameText ∉ r.filesToGenerate
  types : ∀ u ∈ f.types, u.typeName ∉ r.types.map (·.typeName)

variable {files extras : List FileDecl}

theorem partOf_of_perm (h : files.Perm (extras ++ r.files)) (hf : (r.files.map (·.nameText)).Nodup)
    (ht : (r.types.map (·.typeName)).Nodup) (hnew : ∀ f ∈ extras, f.NewTo r) :
    r.PartOf { r with files } := by
  have hmem (g : FileDecl) : g ∈ files ↔ g ∈ extras ∨ g ∈ r.files := by rw [h.mem_iff, List.mem_append]
  refine ⟨rfl, rfl, fun g hg => (hmem g).2 (.inr hg), ?_, ?_, ?_⟩
  · intro f hfmem g hg hname
    rcases (hmem g).1 hg with hg | hg
    · exact absurd (List.mem_map.2 ⟨f, hfmem, hname.symm⟩) (hnew g hg).name
    · exact List.inj_on_of_nodup_map hf hg hfmem hname
  · intro v hv u hu hname
    obtain ⟨g, hg, hug⟩ := List.mem_flatMap.1 hu
    rcases (hmem g).1 hg with hg | hg
    · exact absurd (List.mem_map.2 ⟨v, hv, hname.symm⟩) ((hnew g hg).types u hug)
    · exact List.inj_on_of_nodup_map ht (List.mem_flatMap.2 ⟨g, hg, hug⟩) hv hname
  · intro g hg hgen
    rcases (hmem g).1 hg with hg | hg
    · exact absurd hgen (hnew g hg).notGenerated
    · exact hg

theorem PartOf.exists_descriptors (hpart : r.PartOf { r with files })
    (h : files.Perm (extras ++ r.files))
    (hextras : ∀ f ∈ extras, ∀ ref ∈ f.refs, Resolves (types { r with files }) ref)
    (hs : ∃ s, r.descriptors = .ok s) : ∃ s, Request.descriptors { r with files } = .ok s := by
  refine descriptors_resolves.2 fun ref href => ?_
  obtain ⟨f, hf, href⟩ := List.mem_flatMap.1 href
  rcases List.mem_append.1 (h.mem_iff.1 hf) with hf | hf
  · exact hextras f hf ref href
  · exact hpart.resolves (descriptors_resolves.1 hs ref (List.mem_flatMap.2 ⟨f, hf, href⟩))

/-- Both runs are broken by the same failure, or both give an answer; then the files are the same, and
either both answers have an error or none has. -/
inductive Alike : EStateM.Result Failure World Response → EStateM.Result Failure World Response → Prop where
  | ended {a b : Response} {w w' : World} (herror : a.error = none ↔ b.error = none)
      (hfiles : a.files = b.files) : Alike (.ok a w) (.ok b w')
  | broken {f : Failure} {w w' : World} : Alike (.error f w) (.error f w')

theorem alike_finish (x : Except Failure Response) (w w' : World) :
    Alike (Action.finish x w) (Action.finish x w') := by
  cases x with
  | ok a => exact .ended Iff.rfl rfl
  | error f => exact .broken

/-- Without descriptors there is an answer with an error, whatever reference is the first that fails. -/
theorem alike_of_errors {e e' : Error} (hd : r.descriptors = .error e) (hd' : r'.descriptors = .error e')
    (hp : r'.parameter = r.parameter) (place : Place) (t : Tree) (w w' : World) :
    Alike (Action.finish (response (r.filesIn place t)) w)
      (Action.finish (response (r'.filesIn place t)) w') := by
  rw [Request.filesIn, Request.filesIn, overrides_eq hp, hd, hd']
  cases Config.build [some r.overrides] with
  | error issues => exact alike_finish ..
  | ok config =>
    refine .ended ?_ rfl
    constructor
    · intro h
      cases h
    · intro h
      cases h

theorem alike_of_perm (h : files.Perm r.files) (hf : (r.files.map (·.nameText)).Nodup)
    (ht : (r.types.map (·.typeName)).Nodup) (hgen : r.filesToGenerate ≠ []) (place : Place) (t : Tree)
    (log : List Log.Event) :
    Alike (r.answer place ⟨t, log⟩) (Request.answer place { r with files } ⟨t, log⟩) := by
  obtain ⟨log₁, h₁⟩ := r.answer_ends place t log
  obtain ⟨log₂, h₂⟩ := Request.answer_ends place { r with files } t log
  rw [h₁, h₂]
  have hforth : files.Perm ([] ++ r.files) := h
  have hpart : r.PartOf { r with files } := partOf_of_perm hforth hf ht (List.forall_mem_nil _)
  cases hd : r.descriptors with
  | ok s =>
    obtain ⟨s', hd'⟩ := hpart.exists_descriptors hforth (List.forall_mem_nil _) ⟨s, hd⟩
    rw [hpart.filesIn hgen hd hd']
    exact alike_finish ..
  | error e =>
    cases hd' : Request.descriptors { r with files } with
    | error e' => exact alike_of_errors hd hd' rfl ..
    | ok s' =>
      -- The request is also the permuted one with its files put back in order.
      have hback : r.files.Perm ([] ++ files) := h.symm
      have hf' : (files.map (·.nameText)).Nodup := (h.map _).nodup_iff.2 hf
      have ht' : ((types { r with files }).map (·.typeName)).Nodup :=
        ((h.flatMap_right _).map _).nodup_iff.2 ht
      have hpart' : Request.PartOf { r with files } r :=
        partOf_of_perm (r := { r with files }) hback hf' ht' (List.forall_mem_nil _)
      obtain ⟨s, hs⟩ :=
        hpart'.exists_descriptors (r := { r with files }) hback (List.forall_mem_nil _) ⟨s', hd'⟩
      rw [hd] at hs
      cases hs

theorem answer_of_new {before after : List FileDecl} {extra : FileDecl} (hfiles : r.files = before ++ after)
    (hf : (r.files.map (·.nameText)).Nodup) (ht : (r.types.map (·.typeName)).Nodup)
    (hgen : r.filesToGenerate ≠ []) (hnew : extra.NewTo r)
    (hrefs : ∀ ref ∈ extra.refs, Resolves (types { r with files := before ++ extra :: after }) ref)
    {log : List Log.Event} {a : Response} {w : World} (ha : r.answer place ⟨t, log⟩ = .ok a w)
    (hnone : a.error = none) :
    ∃ w', Request.answer place { r with files := before ++ extra :: after } ⟨t, log⟩ = .ok a w' := by
  obtain ⟨log', h'⟩ := Request.answer_ends place { r with files := before ++ extra :: after } t log
  have hperm : (before ++ extra :: after).Perm ([extra] ++ r.files) := by
    rw [hfiles]
    exact List.perm_middle
  have hpart := partOf_of_perm hperm hf ht (List.forall_mem_singleton.2 hnew)
  have hres := response_of_answer ha
  cases hx : r.filesIn place t with
  | error f =>
    rw [hx] at hres
    rw [eq_of_response_error hres] at hnone
    cases hnone
  | ok rendered =>
    obtain ⟨s, hs⟩ := exists_descriptors_of_filesIn hx
    obtain ⟨s', hs'⟩ := hpart.exists_descriptors hperm (List.forall_mem_singleton.2 hrefs) ⟨s, hs⟩
    rw [hpart.filesIn hgen hs hs', hres] at h'
    exact ⟨_, h'⟩

/-- Where no two files and no two types have the same name and some file is to be generated, the order of
the files makes no difference to the answer, and neither does a new file with references that resolve. -/
theorem answer_independent_of_files (hf : (r.files.map (·.nameText)).Nodup)
    (ht : (r.types.map (·.typeName)).Nodup) (hgen : r.filesToGenerate ≠ []) (place : Place) (t : Tree)
    (log : List Log.Event) :
    (∀ files : List FileDecl, files.Perm r.files →
      Alike (r.answer place ⟨t, log⟩) (Request.answer place { r with files } ⟨t, log⟩)) ∧
      ∀ before after extra, r.files = before ++ after → extra.NewTo r →
        (∀ ref ∈ extra.refs, Resolves (types { r with files := before ++ extra :: after }) ref) →
        ∀ a w, r.answer place ⟨t, log⟩ = .ok a w → a.error = none →
          ∃ w', Request.answer place { r with files := before ++ extra :: after } ⟨t, log⟩ = .ok a w' := by
  constructor
  · intro files h
    exact alike_of_perm h hf ht hgen place t log
  · intro before after extra hfiles hnew hrefs a w ha hnone
    exact answer_of_new hfiles hf ht hgen hnew hrefs ha hnone

def userFile : FileDecl :=
  { name := some "user.proto"
    package := some "user"
    messages := .cons (some "Ask") none [⟨some "page", none, some 11, some ".page.Page"⟩] .nil
      (.cons (some "User") none [⟨some "name", none, some 9, none⟩] .nil .nil)
    services := [⟨some "Users", [⟨some "ListUsers", some ".user.Ask", some ".user.User", none, none⟩]⟩] }

def pageFile : FileDecl :=
  { name := some "page.proto"
    package := some "page"
    messages := .cons (some "Page") none [⟨some "limit", none, some 5, none⟩] .nil .nil }

def otherFile : FileDecl :=
  { name := some "other.proto"
    package := some "other"
    messages := .cons (some "Other") none [⟨some "user", none, some 11, some ".user.User"⟩] .nil .nil
    services := [⟨some "Others", [⟨some "Get", some ".other.Other", some ".other.Other", none, none⟩]⟩] }

def userRequest : Request :=
  { filesToGenerate := ["user.proto"]
    files := [pageFile, userFile] }

def pageRequest : Request := { userRequest with filesToGenerate := ["page.proto"] }

theorem otherFile_newTo : otherFile.NewTo userRequest ∧ otherFile.NewTo pageRequest := by
  refine ⟨⟨?_, ?_, ?_⟩, ⟨?_, ?_, ?_⟩⟩ <;> decide +kernel

theorem resolves_otherFile : ∀ ref ∈ otherFile.refs,
    Resolves (types { userRequest with files := [pageFile, otherFile, userFile] }) ref := by
  have hrefs : otherFile.refs = [".user.User", ".other.Other", ".other.Other"] := by decide +kernel
  rw [hrefs, List.forall_mem_cons, List.forall_mem_cons, List.forall_mem_singleton]
  refine ⟨⟨⟨"user.User", "User", "user.proto"⟩, ?_⟩, ⟨⟨"other.Other", "Other", "other.proto"⟩, ?_⟩,
    ⟨⟨"other.Other", "Other", "other.proto"⟩, ?_⟩⟩
  · decide +kernel
  · decide +kernel
  · decide +kernel

theorem answer_independent_of_files_user :
    Alike (userRequest.answer {} ⟨⟨[]⟩, []⟩)
        (Request.answer {} { userRequest with files := [userFile, pageFile] } ⟨⟨[]⟩, []⟩) ∧
      (∀ a w, userRequest.answer {} ⟨⟨[]⟩, []⟩ = .ok a w → a.error = none →
        ∃ w', Request.answer {} { userRequest with files := [pageFile, otherFile, userFile] } ⟨⟨[]⟩, []⟩ =
          .ok a w') ∧
      ∃ w w', pageRequest.answer {} ⟨⟨[]⟩, []⟩ = .ok {} w ∧
        Request.answer {} { pageRequest with files := [pageFile, otherFile, userFile] } ⟨⟨[]⟩, []⟩ =
          .ok {} w' := by
  have hf : (userRequest.files.map (·.nameText)).Nodup := by decide +kernel
  have ht : (userRequest.types.map (·.typeName)).Nodup := by decide +kernel
  obtain ⟨horder, hextra⟩ := answer_independent_of_files (r := userRequest) hf ht (List.cons_ne_nil _ _) {} ⟨[]⟩ []
  obtain ⟨-, hpage⟩ := answer_independent_of_files (r := pageRequest) hf ht (List.cons_ne_nil _ _) {} ⟨[]⟩ []
  have hnone : pageRequest.filesIn {} ⟨[]⟩ = .ok [] := by decide +kernel
  obtain ⟨log, hanswer⟩ := pageRequest.answer_ends {} ⟨[]⟩ []
  rw [hnone] at hanswer
  obtain ⟨w', hanswer'⟩ := hpage [pageFile] [userFile] otherFile rfl otherFile_newTo.2 resolves_otherFile
    _ _ hanswer rfl
  refine ⟨horder _ (.swap ..), ?_, _, w', hanswer, hanswer'⟩
  exact hextra [pageFile] [userFile] otherFile rfl otherFile_newTo.1 resolves_otherFile

end Request

end RpcBindings
