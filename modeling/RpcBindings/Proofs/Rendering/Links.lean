import Mathlib.Data.List.Induction
import RpcBindings.Proofs.Config
import RpcBindings.Proofs.Path.Normal
import RpcBindings.Proofs.Rendering.Exact

namespace RpcBindings

namespace RenderedFiles

variable {files : RenderedFiles} {outputs : List (String × String)} {n name text s s' : String}

theorem mem_names_put : n ∈ (put name text files).map (·.1) ↔ n = name ∨ n ∈ files.map (·.1) := by
  induction files with
  | nil => simp [put]
  | cons f rest ih =>
    rw [put]
    by_cases hf : f.1 = name
    · rw [if_pos hf, List.map_cons, List.map_cons, List.mem_cons, hf]
      simp
    · rw [if_neg hf, List.map_cons, List.map_cons, List.mem_cons, List.mem_cons, ih]
      exact or_left_comm

theorem nodup_put (h : (files.map (·.1)).Nodup) : ((put name text files).map (·.1)).Nodup := by
  induction files with
  | nil => exact List.nodup_singleton name
  | cons f rest ih =>
    obtain ⟨hnew, hrest⟩ := List.nodup_cons.1 h
    rw [put]
    by_cases hf : f.1 = name
    · rw [if_pos hf]
      exact List.nodup_cons.2 ⟨hnew, hrest⟩
    · rw [if_neg hf]
      apply List.nodup_cons.2
      refine ⟨?_, ih hrest⟩
      intro hmem
      rcases mem_names_put.1 hmem with heq | hmem
      · exact hf heq
      · exact hnew hmem

theorem put_of_not_mem (h : name ∉ files.map (·.1)) : put name text files = files ++ [(name, text)] := by
  induction files with
  | nil => rfl
  | cons f rest ih =>
    obtain ⟨hne, hrest⟩ := List.ne_and_not_mem_of_not_mem_cons h
    rw [put, if_neg (Ne.symm hne), ih hrest]
    rfl

theorem ofList_append_singleton (outputs : List (String × String)) (o : String × String) :
    ofList (outputs ++ [o]) = put o.1 o.2 (ofList outputs) := by
  rw [ofList, List.foldl_append]
  rfl

theorem mem_names_ofList : n ∈ (ofList outputs).map (·.1) ↔ n ∈ outputs.map (·.1) := by
  induction outputs using List.reverseRecOn with
  | nil => rfl
  | append_singleton outputs o ih =>
    rw [ofList_append_singleton, mem_names_put, ih, List.map_append, List.mem_append, or_comm]
    simp

theorem nodup_ofList (outputs : List (String × String)) : ((ofList outputs).map (·.1)).Nodup := by
  induction outputs using List.reverseRecOn with
  | nil => exact List.nodup_nil
  | append_singleton outputs o ih =>
    rw [ofList_append_singleton]
    exact nodup_put ih

theorem ofList_eq_self (h : (outputs.map (·.1)).Nodup) : ofList outputs = outputs := by
  induction outputs using List.reverseRecOn with
  | nil => rfl
  | append_singleton outputs o ih =>
    rw [List.map_append] at h
    obtain ⟨houtputs, -, hnew⟩ := List.nodup_append'.1 h
    have hname : o.1 ∉ outputs.map (·.1) := by
      intro hmem
      exact hnew hmem (List.mem_singleton_self o.1)
    rw [ofList_append_singleton, ih houtputs, put_of_not_mem hname]

/-- Texts that all differ have all their files exactly if the names differ too. -/
theorem subset_ofList_iff (htexts : (outputs.map (·.2)).Nodup) :
    (∀ o ∈ outputs, o ∈ ofList outputs) ↔ (outputs.map (·.1)).Nodup := by
  constructor
  · intro hall
    apply List.Nodup.map_on
    · intro o ho o' ho' hname
      exact List.inj_on_of_nodup_map (nodup_ofList outputs) (hall o ho) (hall o' ho') hname
    · exact htexts.of_map
  · intro hnames o ho
    rw [ofList_eq_self hnames]
    exact ho

end RenderedFiles

namespace Config

def fileNames (config : Config) : List String := [config.clientFile, config.apiFile, config.indexFile]

end Config

/-- A specifier by which a generated file refers to another one. -/
structure Link where
  file : String
  text : String
  specifier : String

namespace Link

open RpcBindings.Path

def Stands (l : Link) : Prop := ("from \"" ++ l.specifier ++ "\";\n").toList <:+: l.text.toList

/-- The place of the script that the specifier leads to, as seen from the file that it stands in. -/
def target (l : Link) : Location := (Location.ofText (folder l.file ++ l.specifier ++ ".ts")).normal

def LeadsTo (l : Link) (name : String) : Prop := l.target = (Location.ofText name).normal

instance (l : Link) (name : String) : Decidable (l.LeadsTo name) := inferInstanceAs (Decidable (_ = _))

variable {l : Link} {name : String}

theorem ofText_fileName (h : IsFileName name) : Location.ofText name = ⟨"", [name]⟩ := by
  have hjoin := empty_join name
  rw [join_fileName h] at hjoin
  exact hjoin.symm

theorem normal_fileName (h : IsFileName name) : (Location.ofText name).normal = ⟨"", [name]⟩ := by
  have hup : ".." ∉ [name] := by
    rw [List.mem_singleton]
    exact Ne.symm h.not_up
  rw [ofText_fileName h, Location.normal, foldl_enterPart hup]
  rfl

theorem folder_fileName (h : IsFileName name) : folder name = "" := by
  have hall : ∀ c ∈ name.toList.reverse, decide (c ≠ '/') = true := by
    intro c hc
    apply decide_eq_true
    rintro rfl
    exact h.no_slash (List.mem_reverse.1 hc)
  rw [folder, List.dropWhile_eq_nil_iff.2 hall]
  rfl

theorem leadsTo_iff {script : String} (hfile : IsFileName l.file) (hname : IsFileName name)
    (hscript : (Location.ofText (l.specifier ++ ".ts")).normal = ⟨"", [script]⟩) :
    l.LeadsTo name ↔ script = name := by
  rw [LeadsTo, target, folder_fileName hfile, String.empty_append, hscript, normal_fileName hname,
    Location.mk.injEq, List.singleton_inj]
  exact and_iff_right rfl

end Link

namespace ViewModel

def outputs (vm : ViewModel) (config : Config) : List (String × String) :=
  [(config.clientFile, vm.clientText config), (config.apiFile, vm.apiText config), (config.indexFile, indexText)]

def links (vm : ViewModel) (config : Config) : List Link :=
  [⟨config.apiFile, vm.apiText config, "./client"⟩, ⟨config.indexFile, indexText, "./client"⟩,
    ⟨config.indexFile, indexText, "./api"⟩]

variable (vm : ViewModel) (config : Config)

theorem take_toList_append {a : String} {n : Nat} (h : n ≤ a.toList.length) (b : String) :
    (a ++ b).toList.take n = a.toList.take n := by
  rw [String.toList_append, List.take_append_of_le_length h]

theorem nodup_texts : ((vm.outputs config).map (·.2)).Nodup := by
  have hclientLength : 62 ≤ Config.clientTitle.toList.length := by
    rw [Config.clientTitle, toList_lines]
    decide +kernel
  have hapiLength : 62 ≤ title.toList.length := by
    rw [title, toList_lines]
    decide +kernel
  have hclient : (vm.clientText config).toList.take 62 = Config.clientTitle.toList.take 62 := by
    simp only [clientText, String.append_assoc]
    exact take_toList_append hclientLength _
  have hapi : (vm.apiText config).toList.take 62 = title.toList.take 62 := by
    simp only [apiText, preamble, String.append_assoc]
    exact take_toList_append hapiLength _
  have hheads : [Config.clientTitle.toList.take 62, title.toList.take 62, indexText.toList.take 62].Nodup := by
    rw [Config.clientTitle, title, indexText, toList_lines, toList_lines, toList_lines]
    decide +kernel
  apply List.Nodup.of_map fun text => text.toList.take 62
  simpa only [outputs, List.map_cons, List.map_nil, hclient, hapi] using hheads

theorem stands_of_mem_links {l : Link} (h : l ∈ vm.links config) : l.Stands := by
  have hapi : ("from \"" ++ "./client" ++ "\";\n").toList <:+: invalidation.toList := by
    rw [invalidation, toList_lines]
    decide +kernel
  have hclient : ("from \"" ++ "./client" ++ "\";\n").toList <:+: indexText.toList := by
    rw [indexText, toList_lines]
    decide +kernel
  have hindex : ("from \"" ++ "./api" ++ "\";\n").toList <:+: indexText.toList := by
    rw [indexText, toList_lines]
    decide +kernel
  simp only [links, List.mem_cons, List.not_mem_nil, or_false] at h
  rcases h with rfl | rfl | rfl
  · rw [Link.Stands]
    simp only [apiText, preamble, String.toList_append]
    apply List.IsInfix.trans hapi
    exact (List.suffix_append _ _).isInfix.trans (List.prefix_append _ _).isInfix
  · exact hclient
  · exact hindex

theorem links_lead_iff (hplain : ∀ name ∈ config.fileNames, Path.IsFileName name) :
    (∀ l ∈ vm.links config, ∃ name ∈ config.fileNames, l.LeadsTo name) ↔
      "client.ts" ∈ config.fileNames ∧ "api.ts" ∈ config.fileNames := by
  have hone {l : Link} {script : String} (hfile : l.file ∈ config.fileNames)
      (hscript : (Path.Location.ofText (l.specifier ++ ".ts")).normal = ⟨"", [script]⟩) :
      (∃ name ∈ config.fileNames, l.LeadsTo name) ↔ script ∈ config.fileNames := by
    constructor
    · rintro ⟨name, hname, hleads⟩
      rw [(Link.leadsTo_iff (hplain _ hfile) (hplain name hname) hscript).1 hleads]
      exact hname
    · intro hname
      exact ⟨script, hname, (Link.leadsTo_iff (hplain _ hfile) (hplain script hname) hscript).2 rfl⟩
  have hapi : config.apiFile ∈ config.fileNames := .tail _ (.head _)
  have hindex : config.indexFile ∈ config.fileNames := .tail _ (.tail _ (.head _))
  have hclientScript : (Path.Location.ofText ("./client" ++ ".ts")).normal = ⟨"", ["client.ts"]⟩ := by
    decide +kernel
  have hapiScript : (Path.Location.ofText ("./api" ++ ".ts")).normal = ⟨"", ["api.ts"]⟩ := by
    decide +kernel
  rw [links, List.forall_mem_cons, List.forall_mem_cons, List.forall_mem_singleton,
    hone hapi hclientScript, hone hindex hclientScript, hone hindex hapiScript]
  exact and_self_left

/-- As long as the time for which results stay fresh has a text, rendering gives the generated files, each name once.
All three texts have their files exactly if the names differ. The specifiers that stand in the files are those of
`client.ts` and `api.ts`; so among plain names every one leads to a generated file exactly if there are files with
these two names. -/
theorem files_linked_iff (vm : ViewModel) (config : Config) (hstale : Json.ShortInt config.queryStaleTime) :
    ∃ files, Rendering.files Rendering.bundled config vm = .ok files ∧
      (files.map (·.1)).Nodup ∧ (∀ name, name ∈ files.map (·.1) ↔ name ∈ config.fileNames) ∧
      ((∀ o ∈ vm.outputs config, o ∈ files) ↔ config.fileNames.Nodup) ∧
      (config.fileNames.Nodup → files = vm.outputs config) ∧
      (∀ l ∈ vm.links config, l.Stands) ∧
      ((∀ name ∈ config.fileNames, Path.IsFileName name) →
        ((∀ l ∈ vm.links config, ∃ f ∈ files, l.LeadsTo f.1) ↔
          "client.ts" ∈ config.fileNames ∧ "api.ts" ∈ config.fileNames)) := by
  have hnames : ∀ name, name ∈ (vm.files config).map (·.1) ↔ name ∈ config.fileNames :=
    fun name => RenderedFiles.mem_names_ofList
  refine ⟨vm.files config, vm.files_bundled config hstale, RenderedFiles.nodup_ofList _, hnames,
    RenderedFiles.subset_ofList_iff (vm.nodup_texts config), ?_, fun l => vm.stands_of_mem_links config, ?_⟩
  · intro hnodup
    have hdistinct : ((vm.outputs config).map (·.1)).Nodup := hnodup
    exact RenderedFiles.ofList_eq_self hdistinct
  · intro hplain
    rw [← vm.links_lead_iff config hplain]
    apply forall₂_congr
    intro l _
    simp only [← hnames, List.mem_map, exists_exists_and_eq_and]

def depot : Service := ⟨"Depot", "shop", "shop/depot.proto", []⟩

def depotView : ViewModel := ofOrigins {} {} depot []

/-- With a new name for the index alone, every specifier still leads to a file. -/
theorem files_linked_iff_mod :
    Json.ShortInt (0 : Nat) ∧ (∀ name ∈ Config.fileNames { indexFile := "mod.ts" }, Path.IsFileName name) ∧
      ∃ files, Rendering.files Rendering.bundled { indexFile := "mod.ts" } depotView = .ok files ∧
        files = depotView.outputs { indexFile := "mod.ts" } ∧
        ∀ l ∈ depotView.links { indexFile := "mod.ts" }, ∃ f ∈ files, l.LeadsTo f.1 := by
  have hplain : ∀ name ∈ Config.fileNames { indexFile := "mod.ts" }, Path.IsFileName name := by decide
  have hstale : Json.ShortInt (0 : Nat) := by decide
  obtain ⟨files, hfiles, -, -, -, hall, -, hlinks⟩ := files_linked_iff depotView { indexFile := "mod.ts" } hstale
  exact ⟨hstale, hplain, files, hfiles, hall (by decide), (hlinks hplain).2 (by decide)⟩

/-- With new names for the client and the bindings, no specifier leads to a file. With one name for client
and index, a text has no file. -/
theorem not_linked_renamed :
    (Config.build [some [("client_file", .text "transport.ts"), ("api_file", .text "hooks.ts")]] =
        .ok { clientFile := "transport.ts", apiFile := "hooks.ts" } ∧
      ViewModel.ofService [] {} { clientFile := "transport.ts", apiFile := "hooks.ts" } depot =
        .ok depotView ∧
      ∃ files, Rendering.files Rendering.bundled { clientFile := "transport.ts", apiFile := "hooks.ts" }
          depotView = .ok files ∧ files.map (·.1) = ["transport.ts", "hooks.ts", "index.ts"] ∧
        ∀ l ∈ depotView.links { clientFile := "transport.ts", apiFile := "hooks.ts" },
          l.Stands ∧ ∀ f ∈ files, ¬ l.LeadsTo f.1) ∧
    Config.build [some [("client_file", .text "index.ts")]] = .ok { clientFile := "index.ts" } ∧
      ViewModel.ofService [] {} { clientFile := "index.ts" } depot = .ok depotView ∧
      ∃ files, Rendering.files Rendering.bundled { clientFile := "index.ts" } depotView = .ok files ∧
        files.length = 2 ∧ ∃ o ∈ depotView.outputs { clientFile := "index.ts" }, o ∉ files := by
  constructor
  · refine ⟨by decide +kernel, by decide +kernel, _, files_bundled _ _ (by decide), rfl, ?_⟩
    intro l hl
    refine ⟨stands_of_mem_links _ _ hl, ?_⟩
    have hleads : ∀ name ∈ ["transport.ts", "hooks.ts", "index.ts"], ¬ l.LeadsTo name := by
      simp only [links, List.mem_cons, List.not_mem_nil, or_false] at hl
      rcases hl with rfl | rfl | rfl
      · decide +kernel
      · decide +kernel
      · decide +kernel
    intro f hf
    exact hleads f.1 (List.mem_map_of_mem (f := (·.1)) hf)
  · refine ⟨by decide +kernel, by decide +kernel, _, files_bundled _ _ (by decide), rfl, ?_⟩
    have hlost := mt (RenderedFiles.subset_ofList_iff (nodup_texts depotView { clientFile := "index.ts" })).1
      (by decide)
    push Not at hlost
    exact hlost

end ViewModel

end RpcBindings
