import RpcBindings.Proofs.Imports.Identifiers
import RpcBindings.Proofs.Rendering.Files

namespace RpcBindings

def EndsLine (s : String) : Prop := s.toList.getLast? = some '\n'

theorem EndsLine.append {s : String} (h : EndsLine s) (before : String) : EndsLine (before ++ s) := by
  rw [EndsLine, String.toList_append, List.getLast?_append, h]
  rfl

theorem toList_lines (ls : List String) :
    (lines ls).toList = ['\n'].intercalate (ls.map fun l => l.toList.map Template.Bundled.brace) :=
  String.toList_ofList

/-- Lines of which the last one is empty. -/
structure EndsEmpty (ls : List String) : Prop where
  several : 2 ≤ ls.length
  last : ls.getLast? = some ""

theorem EndsEmpty.endsLine {ls : List String} (h : EndsEmpty ls) : EndsLine (lines ls) := by
  obtain ⟨front, rfl⟩ := List.getLast?_eq_some_iff.1 h.last
  have hne : front ≠ [] := by
    rintro rfl
    exact absurd h.several (by decide)
  clear h
  rw [EndsLine, toList_lines]
  induction front with
  | nil => exact absurd rfl hne
  | cons l front ih =>
    cases front with
    | nil => simp [List.intercalate_cons_cons]
    | cons l' front =>
      have hrest := ih (List.cons_ne_nil _ _)
      rw [List.cons_append, List.map_cons] at hrest
      rw [List.cons_append, List.map_cons, List.cons_append, List.map_cons, List.intercalate_cons_cons,
        List.getLast?_append, hrest]
      rfl

namespace Layout

def MentionsMethods (l : Layout) : Prop :=
  ∃ ls ∈ l.pieces.map (·.1) ++ [l.last], ∃ line ∈ ls, "methods.".toList <:+: line.toList

instance (l : Layout) : Decidable l.MentionsMethods :=
  inferInstanceAs (Decidable (∃ ls ∈ l.pieces.map (·.1) ++ [l.last], _))

theorem endsLine_fill {l : Layout} (h : EndsEmpty l.last) (names : Slot → String) :
    EndsLine (l.fill names) := h.endsLine.append _

end Layout

theorem functionLayout_mentionsMethods : functionLayout.MentionsMethods := by decide +kernel

theorem streamingLayout_not_mentionsMethods : ¬ streamingLayout.MentionsMethods := by decide +kernel

theorem Hook.layout_mentionsMethods (h : Hook) : h.layout.MentionsMethods := by
  cases h with
  | query => decide +kernel
  | infiniteQuery => decide +kernel
  | mutation => decide +kernel

theorem Hook.endsEmpty_last (h : Hook) : EndsEmpty h.layout.last := by
  cases h with
  | query => exact ⟨by decide, rfl⟩
  | infiniteQuery => exact ⟨by decide, rfl⟩
  | mutation => exact ⟨by decide, rfl⟩

namespace Rpc

def layouts (r : Rpc) : List Layout :=
  (if r.isUnary then functionLayout else streamingLayout) :: (r.hook?.map Hook.layout).toList

theorem text_eq_layouts (r : Rpc) : r.text = String.join (r.layouts.map fun l => l.fill r.names) := by
  rw [text, layouts]
  cases r.hook? with
  | none => exact String.append_empty
  | some hook => rfl

def MentionsMethods (r : Rpc) : Prop := ∃ l ∈ r.layouts, l.MentionsMethods

theorem mentionsMethods_iff {r : Rpc} : r.MentionsMethods ↔ r.isUnary = true ∨ r.hook?.isSome = true := by
  rw [MentionsMethods, layouts]
  cases r.isUnary with
  | true =>
    exact iff_of_true ⟨functionLayout, .head _, functionLayout_mentionsMethods⟩ (.inl rfl)
  | false =>
    cases r.hook? with
    | none =>
      apply iff_of_false
      · rintro ⟨l, hl, hm⟩
        rcases List.mem_singleton.1 hl with rfl
        exact streamingLayout_not_mentionsMethods hm
      · decide
    | some hook =>
      have hmem : hook.layout ∈ [streamingLayout, hook.layout] := .tail _ (.head _)
      exact iff_of_true ⟨hook.layout, hmem, hook.layout_mentionsMethods⟩ (.inr rfl)

theorem endsLine_text (r : Rpc) : EndsLine r.text := by
  have hbody : EndsLine ((if r.isUnary then functionLayout else streamingLayout).fill r.names) := by
    cases r.isUnary with
    | true => exact Layout.endsLine_fill (l := functionLayout) ⟨by decide, rfl⟩ r.names
    | false => exact Layout.endsLine_fill (l := streamingLayout) ⟨by decide, rfl⟩ r.names
  rw [text]
  cases r.hook? with
  | none =>
    rw [Option.map_none, Option.getD_none, String.append_empty]
    exact hbody
  | some hook => exact (Layout.endsLine_fill hook.endsEmpty_last r.names).append _

end Rpc

theorem Method.rpc_mentionsMethods_iff (m : Method) (set : DescriptorSet) (config : Config)
    (input output : String) :
    (m.rpc set config input output).MentionsMethods ↔ (m.rpc set config input output).isUnary = true := by
  rw [Rpc.mentionsMethods_iff]
  constructor
  · rintro (h | h)
    · exact h
    · by_contra hunary
      simp [Rpc.hook?, Method.rpc] at h hunary
      simp [hunary] at h
  · exact .inl

theorem intercalate_eq_empty_iff {names : List String} :
    ", ".intercalate names = "" ↔ names = [] ∨ names = [""] := by
  cases names with
  | nil => simp
  | cons name rest =>
    cases rest with
    | nil => simp
    | cons next rest => simp [String.intercalate_cons_cons]

theorem endsLine_join {before : String} {blocks : List String} (h : EndsLine before)
    (hblocks : ∀ b ∈ blocks, EndsLine b) : EndsLine (before ++ String.join blocks) := by
  induction blocks generalizing before with
  | nil =>
    rw [String.join_nil, String.append_empty]
    exact h
  | cons b rest ih =>
    rw [String.join_cons, ← String.append_assoc]
    apply ih
    · exact (hblocks b (.head _)).append before
    · intro b' hb'
      exact hblocks b' (.tail _ hb')

namespace ViewModel

/-- The modules and the names of the import lines for message types: of well-known types and of those of the
service's own file if there are any, and of each other file. -/
def importLists (vm : ViewModel) (config : Config) : List (String × List String) :=
  (if vm.imports.wellKnown = [] then [] else [("@bufbuild/protobuf", vm.imports.wellKnown)]) ++
    (if vm.imports.sameFile = [] then [] else [(config.modulePath vm.protoPbFile, vm.imports.sameFile)]) ++
    vm.imports.external

theorem importLine?_eq_join (names : List String) (path : String) :
    importLine? names path =
      String.join ((if names = [] then [] else [(path, names)]).map fun i => importLine i.2 i.1) := by
  cases names with
  | nil => rfl
  | cons name rest => rfl

theorem preamble_eq_importLists (vm : ViewModel) (config : Config) :
    vm.preamble config = title ++ vm.serviceName ++ libraries ++
      String.join ((vm.importLists config).map fun i => importLine i.2 i.1) ++
      vm.definitionsLine config ++ invalidation := by
  rw [preamble, importLists, List.map_append, List.map_append, String.join_append, String.join_append,
    ← importLine?_eq_join, ← importLine?_eq_join]
  simp only [String.append_assoc]

theorem endsLine_preamble (vm : ViewModel) (config : Config) : EndsLine (vm.preamble config) := by
  have hinvalidation : EndsLine invalidation := EndsEmpty.endsLine ⟨by decide, rfl⟩
  exact hinvalidation.append _

theorem endsLine_apiText (vm : ViewModel) (config : Config) : EndsLine (vm.apiText config) := by
  apply endsLine_join (vm.endsLine_preamble config)
  intro block hblock
  obtain ⟨r, -, rfl⟩ := List.mem_map.1 hblock
  exact r.endsLine_text.append "\n"

theorem exists_importLine {vm : ViewModel} {config : Config} {i : String × List String}
    (h : i ∈ vm.importLists config) : ∃ before after,
      Template.render Rendering.bundled (vm.context config) "api" =
        .ok (before ++ importLine i.2 i.1 ++ after) := by
  obtain ⟨is, is', his⟩ := List.append_of_mem h
  rw [render_api, apiText, preamble_eq_importLists, his, List.map_append, List.map_cons, String.join_append,
    String.join_cons]
  refine ⟨title ++ vm.serviceName ++ libraries ++ String.join (is.map fun i => importLine i.2 i.1),
    String.join (is'.map fun i => importLine i.2 i.1) ++ vm.definitionsLine config ++ invalidation ++
      String.join (vm.rpcs.map fun r => "\n" ++ r.text), ?_⟩
  simp only [String.append_assoc]

theorem mem_importLists_iff {vm : ViewModel} {config : Config} {i : String × List String} :
    i ∈ vm.importLists config ↔
      (vm.imports.wellKnown ≠ [] ∧ i = ("@bufbuild/protobuf", vm.imports.wellKnown)) ∨
      (vm.imports.sameFile ≠ [] ∧ i = (config.modulePath vm.protoPbFile, vm.imports.sameFile)) ∨
      i ∈ vm.imports.external := by
  rw [importLists, List.mem_append, List.mem_append, List.mem_ite_nil_left, List.mem_ite_nil_left,
    List.mem_singleton, List.mem_singleton, or_assoc]

theorem mem_external_of_mem_importLists {vm : ViewModel} {config : Config} {i : String × List String}
    (h : i ∈ vm.importLists config) (hnone : i.2 = []) : i ∈ vm.imports.external := by
  rcases mem_importLists_iff.1 h with ⟨hne, rfl⟩ | ⟨hne, rfl⟩ | hi
  · exact absurd hnone hne
  · exact absurd hnone hne
  · exact hi

theorem mem_identifiers_of_mem_importLists {vm : ViewModel} {config : Config} {i : String × List String}
    {name : String} (h : i ∈ vm.importLists config) (hname : name ∈ i.2) :
    name ∈ vm.imports.identifiers := by
  rw [Imports.identifiers, List.mem_append, List.mem_append]
  rcases mem_importLists_iff.1 h with ⟨-, rfl⟩ | ⟨-, rfl⟩ | hi
  · exact .inl (.inl hname)
  · exact .inl (.inr hname)
  · exact .inr (List.mem_flatMap.2 ⟨i, hi, hname⟩)

variable {cwd : List String} {set : DescriptorSet} {config config' : Config} {s : Service} {vm : ViewModel}

/-- In a view model of a service each list of imports has a name, and only a type without a name has none. -/
theorem names_of_mem_importLists (hvm : ofService cwd set config s = .ok vm) {i : String × List String}
    (h : i ∈ vm.importLists config') :
    i.2 ≠ [] ∧ (", ".intercalate i.2 = "" → ∃ t ∈ s.refs, t.importedName = "") := by
  obtain ⟨pairs, hpairs, rfl⟩ := ofService_eq_ok hvm
  have hne : i.2 ≠ [] := by
    intro hnone
    exact Imports.names_ne_nil (mem_external_of_mem_importLists h hnone) hnone
  refine ⟨hne, ?_⟩
  intro hempty
  rcases intercalate_eq_empty_iff.1 hempty with hnone | hone
  · exact absurd hnone hne
  · have hname : "" ∈ i.2 := hone ▸ List.mem_singleton_self ""
    have hmem := Imports.mem_identifiers_iff.1 (mem_identifiers_of_mem_importLists h hname)
    exact (exists_name_iff (origins_of_refs hpairs)).1 hmem

theorem isUnary_of_mentionsMethods (hvm : ofService cwd set config s = .ok vm) {r : Rpc} (hr : r ∈ vm.rpcs)
    (hm : r.MentionsMethods) : r.isUnary = true := by
  obtain ⟨pairs, -, rfl⟩ := ofService_eq_ok hvm
  obtain ⟨⟨m, input, output⟩, -, rfl⟩ := List.mem_map.1 hr
  exact (m.rpc_mentionsMethods_iff set config input.name output.name).1 hm

/-- As long as the time for which results stay fresh has a text, rendering gives the files of every view model. This
is the text of the bindings, in whole lines. A line of imports has no names only where the view model has an import
from another file without names. In a view model of a service there is none, and the names on a line can only be blank
for a type without a name; and where a block mentions the definitions of methods they are imported. -/
theorem files_exact (vm : ViewModel) (config : Config) (hstale : Json.ShortInt config.queryStaleTime) :
    Rendering.files Rendering.bundled config vm =
      .ok (RenderedFiles.ofList [(config.clientFile, vm.clientText config),
        (config.apiFile, vm.apiText config), (config.indexFile, indexText)]) ∧
    Template.render Rendering.bundled (vm.context config) "api" = .ok (vm.apiText config) ∧
    vm.apiText config = title ++ vm.serviceName ++ libraries ++
      String.join ((vm.importLists config).map fun i => importLine i.2 i.1) ++
      (if vm.rpcs.any (·.isUnary) then
        lines ["import * as methods from \""] ++ config.modulePath vm.connectQueryFile ++ lines ["\";", ""]
      else "") ++
      invalidation ++ String.join (vm.rpcs.map fun r => "\n" ++ r.text) ∧
    EndsLine (vm.preamble config) ∧ (∀ r ∈ vm.rpcs, EndsLine r.text) ∧ EndsLine (vm.apiText config) ∧
    (∀ i ∈ vm.importLists config, i.2 = [] → i ∈ vm.imports.external) ∧
    ∀ cwd set config' s, ofService cwd set config' s = .ok vm →
      (∀ i ∈ vm.importLists config,
        i.2 ≠ [] ∧ (", ".intercalate i.2 = "" → ∃ t ∈ s.refs, t.importedName = "")) ∧
      ∀ r ∈ vm.rpcs, r.MentionsMethods → vm.rpcs.any (·.isUnary) = true := by
  refine ⟨vm.files_bundled config hstale, vm.render_api config, ?_, vm.endsLine_preamble config,
    fun r _ => r.endsLine_text, vm.endsLine_apiText config,
    fun i hi hnone => mem_external_of_mem_importLists hi hnone, ?_⟩
  · rw [apiText, preamble_eq_importLists]
    rfl
  · intro cwd set config' s hvm
    constructor
    · intro i hi
      exact names_of_mem_importLists hvm hi
    · intro r hr hm
      exact List.any_eq_true.2 ⟨r, hr, isUnary_of_mentionsMethods hvm hr hm⟩

def nameless : ViewModel :=
  { serviceName := "S", protoPbFile := "svc_pb", connectQueryFile := "svc-S_connectquery",
    imports := { external := [("./gen/other_pb", [])] } }

/-- An import without names has its line all the same. -/
theorem files_exact_nameless : Json.ShortInt (30000 : Nat) ∧
    (∃ files, Rendering.files Rendering.bundled { queryStaleTime := 30000 } nameless = .ok files) ∧
    EndsLine (nameless.apiText { queryStaleTime := 30000 }) := by
  have hstale : Json.ShortInt (30000 : Nat) := by decide
  obtain ⟨hfiles, -, -, -, -, hends, -⟩ := files_exact nameless { queryStaleTime := 30000 } hstale
  exact ⟨hstale, ⟨_, hfiles⟩, hends⟩

def unnamed : Request :=
  { files := [
      { name := some "svc.proto"
        package := some "p"
        messages := .cons none none [] .nil .nil
        services := [⟨some "S", [⟨some "Get", some ".p.", some ".p.", none, none⟩]⟩] }]
    filesToGenerate := ["svc.proto"] }

def unnamedRef : TypeRef := ⟨"p.", "", "svc.proto"⟩

def unnamedService : Service := ⟨"S", "p", "svc.proto", [⟨"Get", unnamedRef, unnamedRef, .unary⟩]⟩

def unnamedSet : DescriptorSet :=
  { files := [⟨"svc.proto", "p", [⟨"p.", "", "svc.proto", []⟩], [unnamedService]⟩]
    filesToGenerate := ["svc.proto"] }

/-- The least time with more digits than are printed. -/
def longTime : Nat := Nat.pow 10 4300

/-- Braces without a name between them, for a list without names and for a type without one; and no files at all, for
a time with one digit more than is printed. -/
theorem importLine_blank :
    (Config.build [some [("query_stale_time", .int longTime)]] = .ok { queryStaleTime := longTime } ∧
      Rendering.files Rendering.bundled { queryStaleTime := longTime } nameless = .error (.template .tooManyDigits)) ∧
    (∃ before after, Template.render Rendering.bundled (nameless.context {}) "api" =
      .ok (before ++ lines ["import «  » from \"./gen/other_pb\";", ""] ++ after)) ∧
    unnamed.descriptors = .ok unnamedSet ∧
      ∃ vm before after, ofFirstService [] unnamedSet {} = .ok (some vm) ∧
        Template.render Rendering.bundled (vm.context {}) "api" =
          .ok (before ++ lines ["import «  » from \"./gen/svc_pb\";", ""] ++ after) := by
  have hnameless : ("./gen/other_pb", []) ∈ nameless.importLists {} := .head _
  have hline : importLine [] "./gen/other_pb" = lines ["import «  » from \"./gen/other_pb\";", ""] := by
    rw [← String.toList_inj, importLine]
    simp only [String.toList_append, toList_lines]
    decide +kernel
  have horigins : unnamedService.origins [] {} = .ok [(.sameFile "", .sameFile "")] := by decide +kernel
  have hvm := ofService_of_origins unnamedSet horigins
  have hfirst : ofFirstService [] unnamedSet {} = (ofService [] unnamedSet {} unnamedService).map some := rfl
  rw [hvm] at hfirst
  have hunnamed : ("./gen/svc_pb", [""]) ∈
      (ofOrigins unnamedSet {} unnamedService [(.sameFile "", .sameFile "")]).importLists {} := by
    decide +kernel
  have hline' : importLine [""] "./gen/svc_pb" = lines ["import «  » from \"./gen/svc_pb\";", ""] := by
    rw [← String.toList_inj, importLine]
    simp only [String.toList_append, toList_lines]
    decide +kernel
  obtain ⟨before, after, hrender⟩ := exists_importLine hnameless
  obtain ⟨before', after', hrender'⟩ := exists_importLine hunnamed
  rw [hline] at hrender
  rw [hline'] at hrender'
  have hfiles (n : Nat) (hlong : 4300 < (Nat.toDigits 10 n).length) :
      Rendering.files Rendering.bundled { queryStaleTime := n } nameless = .error (.template .tooManyDigits) :=
    files_bundled_of_long _ _ (Nat.not_le.2 hlong)
  exact ⟨⟨by decide +kernel, hfiles longTime (by decide +kernel)⟩, ⟨before, after, hrender⟩,
    by decide +kernel, _, before', after', hfirst, hrender'⟩

end ViewModel

end RpcBindings
