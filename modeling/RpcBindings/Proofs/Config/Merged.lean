import Mathlib.Data.List.DropRight
import RpcBindings.Proofs.Assignments
import RpcBindings.Proofs.Document.WellFormed

namespace RpcBindings

open RpcBindings.Assignments
open RpcBindings.Data

namespace Schema

variable {check : Value → Check α} {default a : α} {name : String} {entries : List (Value × Value)}

/-- The result is the checked value, or the default if no value is given. -/
def Taken (check : Value → Check α) (default : α) : Option Value → α → Prop
  | none, a => a = default
  | some v, a => check v = .pass a

theorem optional_eq_pass :
    optional name default check entries = .pass a ↔ Taken check default (field? name entries) a := by
  rw [optional]
  cases field? name entries with
  | none =>
    rw [Check.pass.injEq]
    exact eq_comm
  | some v => exact Check.under_eq_pass

theorem taken_map {β : Type} {f : α → β} {given : Option Value} {b : β} :
    Taken (fun v => (check v).map f) (f default) given b ↔ ∃ a, Taken check default given a ∧ f a = b := by
  cases given with
  | none => simp [Taken, eq_comm]
  | some v => exact Check.map_eq_pass

theorem natural_int (n : Nat) : natural (.int n) = .pass n := by
  rw [natural, int, Check.andThen, if_neg (Int.not_lt.2 (Int.natCast_nonneg n)), Int.toNat_natCast]

end Schema

open Schema

namespace Config

def isGiven : Value → Bool
  | .null => false
  | _ => true

def values (given : List (Option Overrides)) : Overrides :=
  (given.flatMap (·.getD [])).filter fun e => isGiven e.2

/-- Each setting is the checked form of the value for its name, or has its default. -/
structure Takes (c : Config) (value? : String → Option Value) : Prop where
  outputRoot : Taken (fun v => (text v).map trimRoot) "./gen" (value? "output_root") c.outputRoot
  protoSuffix : Taken nonEmptyText ".proto" (value? "proto_suffix") c.protoSuffix
  pbSuffix : Taken text "_pb" (value? "pb_suffix") c.pbSuffix
  connectQuerySuffix : Taken text "_connectquery" (value? "connect_query_suffix") c.connectQuerySuffix
  hookPrefix : Taken nonEmptyText "use" (value? "hook_prefix") c.hookPrefix
  templateDir : Taken (fun v => (text v).map some) none (value? "template_dir") c.templateDir
  clientFile : Taken nonEmptyText "client.ts" (value? "client_file") c.clientFile
  apiFile : Taken nonEmptyText "api.ts" (value? "api_file") c.apiFile
  indexFile : Taken nonEmptyText "index.ts" (value? "index_file") c.indexFile
  baseUrl : Taken text "/" (value? "base_url") c.baseUrl
  queryStaleTime : Taken natural 0 (value? "query_stale_time") c.queryStaleTime

/-- The second list has sources or entries besides that give nothing. -/
inductive WithNulls : List (Option Overrides) → List (Option Overrides) → Prop where
  | refl (given : List (Option Overrides)) : WithNulls given given
  | absent (before after : List (Option Overrides)) : WithNulls (before ++ after) (before ++ none :: after)
  | empty (before after : List (Option Overrides)) : WithNulls (before ++ after) (before ++ some [] :: after)
  | null (before after : List (Option Overrides)) (front back : Overrides) (name : String) :
    WithNulls (before ++ some (front ++ back) :: after)
      (before ++ some (front ++ (name, .null) :: back) :: after)
  | trans {given given' given'' : List (Option Overrides)} (h : WithNulls given given')
    (h' : WithNulls given' given'') : WithNulls given given''

/-- The text has no slash at its end, or nothing but slashes. -/
def EndsPlain (root : String) : Prop := root.toList.getLast? = some '/' → ∀ x ∈ root.toList, x = '/'

variable {given given' : List (Option Overrides)} {c : Config} {entries : List (Value × Value)} {e : String × Value}

theorem values_append (given given' : List (Option Overrides)) :
    values (given ++ given') = values given ++ values given' := by
  rw [values, List.flatMap_append, List.filter_append]
  rfl

theorem values_cons (o : Option Overrides) (given : List (Option Overrides)) :
    values (o :: given) = (o.getD []).filter (fun e => isGiven e.2) ++ values given := by
  rw [values, List.flatMap_cons, List.filter_append]
  rfl

theorem isGiven_of_mem_values (h : e ∈ values given) : isGiven e.2 = true := (List.mem_filter.1 h).2

theorem assign_eq_put (name : String) (v : Value) (settings : Overrides) :
    assign name v settings = put name v settings := by
  induction settings with
  | nil => rfl
  | cons e rest ih => rw [assign, put, ih]

theorem merge_eq (settings more : Overrides) :
    merge settings more = putAll settings (more.filter fun e => isGiven e.2) := by
  induction more generalizing settings with
  | nil => rfl
  | cons e rest ih =>
    obtain ⟨name, v⟩ := e
    cases v with
    | null => exact ih settings
    | _ => exact (ih _).trans (congrArg (putAll · _) (assign_eq_put name _ settings))

theorem mergeAll_eq (given : List (Option Overrides)) : mergeAll given = putAll [] (values given) := by
  have hfrom (settings : Overrides) :
      given.foldl (fun acc o => merge acc (o.getD [])) settings = putAll settings (values given) := by
    induction given generalizing settings with
    | nil => rfl
    | cons o given ih => rw [List.foldl_cons, ih, merge_eq, values_cons, putAll_append]
  exact hfrom []

theorem outcome_mergeAll (given : List (Option Overrides)) : Outcome (values given) (mergeAll given) := by
  rw [mergeAll_eq]
  exact outcome_putAll _

theorem build_congr (h : mergeAll given = mergeAll given') : build given = build given' := by
  rw [build, h, build]

theorem WithNulls.values_eq (h : WithNulls given given') : values given' = values given := by
  induction h with
  | refl => rfl
  | absent before after => rw [values_append, values_append, values_cons, Option.getD_none, List.filter_nil,
      List.nil_append]
  | empty before after => rw [values_append, values_append, values_cons, Option.getD_some, List.filter_nil,
      List.nil_append]
  | null before after front back name =>
    rw [values_append, values_append, values_cons, values_cons, Option.getD_some, Option.getD_some,
      List.filter_append, List.filter_append, List.filter_cons_of_neg (by simp [isGiven])]
  | trans _ _ ih ih' => exact ih'.trans ih

theorem WithNulls.build_eq (h : WithNulls given given') : build given' = build given := by
  apply build_congr
  rw [mergeAll_eq, mergeAll_eq, h.values_eq]

/-- What is merged already may be merged with the rest. -/
theorem build_merge (merged after : List (Option Overrides)) :
    build (some (mergeAll merged) :: after) = build (merged ++ after) := by
  have hgiven : (mergeAll merged).filter (fun e => isGiven e.2) = mergeAll merged := by
    apply List.filter_eq_self.2
    intro e he
    have hlast := ((outcome_mergeAll merged).mem_iff e).1 he
    exact isGiven_of_mem_values (mem_of_last? hlast)
  apply build_congr
  rw [mergeAll_eq (some (mergeAll merged) :: after), mergeAll_eq (merged ++ after), values_cons, Option.getD_some,
    hgiven, values_append, putAll_append, putAll_append, (outcome_mergeAll merged).putAll_eq, mergeAll_eq merged]

theorem taken_root {v? : Option Value} {root : String} :
    Taken (fun v => (text v).map trimRoot) "./gen" v? root ↔ ∃ s, Taken text "./gen" v? s ∧ trimRoot s = root := by
  have hgen : trimRoot "./gen" = "./gen" := by decide +kernel
  rw [← taken_map, hgen]

theorem field?_record {settings : Overrides} (hkeys : (settings.map (·.1)).Nodup) (name : String) (v : Value) :
    field? name (settings.map fun e => (Value.text e.1, e.2)) = some v ↔ (name, v) ∈ settings := by
  induction settings with
  | nil => simp [field?]
  | cons e rest ih =>
    obtain ⟨hnew, hrest⟩ := List.nodup_cons.1 hkeys
    rw [List.map_cons, field?, isKey, List.mem_cons]
    by_cases h : e.1 = name
    · have hrest' : (name, v) ∉ rest := by
        intro hmem
        exact hnew (List.mem_map.2 ⟨_, hmem, h.symm⟩)
      simp [h, hrest', Prod.ext_iff, eq_comm]
    · simp [h, ih hrest, Prod.ext_iff, Ne.symm h]

theorem field?_mergeAll (given : List (Option Overrides)) (name : String) :
    field? name ((mergeAll given).map fun e => (Value.text e.1, e.2)) = last? (values given) name := by
  apply Option.ext
  intro v
  rw [field?_record (outcome_mergeAll given).nodup, (outcome_mergeAll given).mem_iff]

theorem closed_mergeAll (given : List (Option Overrides)) :
    Closed names ((mergeAll given).map fun e => (Value.text e.1, e.2)) ↔ ∀ e ∈ values given, e.1 ∈ names := by
  rw [Closed, List.forall_mem_map, ← (outcome_mergeAll given).forall_key (· ∈ names)]
  simp

theorem check_eq_pass : check entries = .pass c ↔ c.Takes fun name => field? name entries := by
  simp only [check, Check.map_eq_pass, Check.and_eq_pass, optional_eq_pass, Prod.exists]
  constructor
  · rintro ⟨root, proto, pb, query, hook, dir, client, api, index, url, stale, h, rfl⟩
    obtain ⟨hroot, hproto, hpb, hquery, hhook, hdir, hclient, hapi, hindex, hurl, hstale⟩ := h
    exact ⟨taken_root.2 ⟨root, hroot, rfl⟩, hproto, hpb, hquery, hhook, hdir, hclient, hapi, hindex, hurl, hstale⟩
  · intro h
    obtain ⟨root, hroot, htrim⟩ := taken_root.1 h.outputRoot
    refine ⟨root, c.protoSuffix, c.pbSuffix, c.connectQuerySuffix, c.hookPrefix, c.templateDir, c.clientFile,
      c.apiFile, c.indexFile, c.baseUrl, c.queryStaleTime, ⟨hroot, h.protoSuffix, h.pbSuffix, h.connectQuerySuffix,
      h.hookPrefix, h.templateDir, h.clientFile, h.apiFile, h.indexFile, h.baseUrl, h.queryStaleTime⟩, ?_⟩
    rw [htrim]

theorem build_eq_ok : build given = .ok c ↔
    (∀ e ∈ values given, e.1 ∈ names) ∧ c.Takes (last? (values given)) := by
  rw [build, Check.toExcept_eq_ok, record_eq_pass, ← closed_mergeAll, ← funext (field?_mergeAll given),
    ← check_eq_pass]
  constructor
  · rintro ⟨entries, hentries, hclosed, hcheck⟩
    cases hentries
    exact ⟨hclosed, hcheck⟩
  · rintro ⟨hclosed, hcheck⟩
    exact ⟨_, rfl, hclosed, hcheck⟩

theorem dropTrailing_eq (root : String) :
    Text.dropTrailing '/' root = String.ofList (root.toList.rdropWhile (· = '/')) := rfl

theorem dropTrailing_eq_empty_iff (root : String) :
    Text.dropTrailing '/' root = "" ↔ ∀ x ∈ root.toList, x = '/' := by
  simp [dropTrailing_eq]

theorem endsPlain_trimRoot (root : String) : EndsPlain (trimRoot root) := by
  rw [trimRoot]
  split
  · rename_i h
    intro _
    exact (dropTrailing_eq_empty_iff root).1 h
  · intro hlast
    rw [dropTrailing_eq, String.toList_ofList] at hlast
    have hne := List.ne_nil_of_mem (List.mem_of_getLast? hlast)
    have hplain := List.rdropWhile_last_not _ _ hne
    rw [List.getLast_of_getLast?_eq_some hlast] at hplain
    exact absurd rfl hplain

theorem trimRoot_of_endsPlain {root : String} (h : EndsPlain root) : trimRoot root = root := by
  rw [trimRoot, ite_eq_left_iff]
  intro hne
  have hself : root.toList.rdropWhile (· = '/') = root.toList := by
    apply List.rdropWhile_eq_self_iff.2
    intro hnil hlast
    apply hne
    apply (dropTrailing_eq_empty_iff root).2
    apply h
    rw [List.getLast?_eq_some_getLast hnil, of_decide_eq_true hlast]
  rw [dropTrailing_eq, hself, String.ofList_toList]

theorem Takes.endsPlain {value? : String → Option Value} (h : c.Takes value?) : EndsPlain c.outputRoot := by
  obtain ⟨root, -, hroot⟩ := taken_root.1 h.outputRoot
  rw [← hroot]
  exact endsPlain_trimRoot root

theorem values_toOverrides (c : Config) :
    values [some c.toOverrides] =
      [("output_root", .text c.outputRoot), ("proto_suffix", .text c.protoSuffix), ("pb_suffix", .text c.pbSuffix),
        ("connect_query_suffix", .text c.connectQuerySuffix), ("hook_prefix", .text c.hookPrefix)]
      ++ (c.templateDir.map fun dir => ("template_dir", Value.text dir)).toList
      ++ [("client_file", .text c.clientFile), ("api_file", .text c.apiFile), ("index_file", .text c.indexFile),
        ("base_url", .text c.baseUrl), ("query_stale_time", .int c.queryStaleTime)] := by
  rw [values, toOverrides]
  cases c.templateDir <;> rfl

theorem takes_toOverrides (hroot : EndsPlain c.outputRoot) (hproto : c.protoSuffix ≠ "") (hhook : c.hookPrefix ≠ "")
    (hclient : c.clientFile ≠ "") (hapi : c.apiFile ≠ "") (hindex : c.indexFile ≠ "") :
    c.Takes (last? (values [some c.toOverrides])) := by
  have hname {s : String} (h : s ≠ "") : nonEmptyText (.text s) = .pass s :=
    (decides_nonEmptyText _ _).2 ⟨.text s, h⟩
  have htrim : (text (.text c.outputRoot)).map trimRoot = .pass c.outputRoot :=
    congrArg Check.pass (trimRoot_of_endsPlain hroot)
  rw [values_toOverrides]
  cases hdir : c.templateDir with
  | none =>
    exact ⟨htrim, hname hproto, rfl, rfl, hname hhook, hdir, hname hclient, hname hapi, hname hindex, rfl,
      natural_int _⟩
  | some dir =>
    exact ⟨htrim, hname hproto, rfl, rfl, hname hhook, congrArg Check.pass hdir.symm, hname hclient, hname hapi,
      hname hindex, rfl, natural_int _⟩

theorem build_toOverrides (h : build given = .ok c) : build [some c.toOverrides] = .ok c := by
  obtain ⟨hproto, hhook, hclient, hapi, hindex⟩ := build_names h
  apply build_eq_ok.2
  constructor
  · rw [values_toOverrides]
    cases c.templateDir <;> simp [names]
  · exact takes_toOverrides (build_eq_ok.1 h).2.endsPlain hproto hhook hclient hapi hindex

/-- Settings are built exactly if every value that is not null has the name of a setting and each setting can be
read from the last of its values. Nulls do not matter, nor does what is merged beforehand. Built settings have a
root without a slash at its end, and they are built again from all their values. -/
theorem build_merged (given : List (Option Overrides)) :
    (∀ c, build given = .ok c ↔ (∀ e ∈ values given, e.1 ∈ names) ∧ c.Takes (last? (values given))) ∧
    (∀ given', WithNulls given given' → build given' = build given) ∧
    (∀ merged after, given = merged ++ after → build (some (mergeAll merged) :: after) = build given) ∧
    ∀ c, build given = .ok c → EndsPlain c.outputRoot ∧ build [some c.toOverrides] = .ok c := by
  refine ⟨fun c => build_eq_ok, fun given' => WithNulls.build_eq, ?_, ?_⟩
  · rintro merged after rfl
    exact build_merge merged after
  · intro c h
    exact ⟨(build_eq_ok.1 h).2.endsPlain, build_toOverrides h⟩

/-- An empty text counts, and a null after it does not take it back. -/
theorem build_merged_layers :
    let first : Option Overrides := some [("output_root", .text "gen"), ("pb_suffix", .text "_pb"), ("base_url", .null)]
    let second : Option Overrides := some [("pb_suffix", .text ""), ("query_stale_time", .text " 30 ")]
    let third : Option Overrides := some [("output_root", .text "out//"), ("pb_suffix", .null)]
    let c : Config := { outputRoot := "out", pbSuffix := "", queryStaleTime := 30 }
    build [first, second, third] = .ok c ∧ build [none, first, second, third] = .ok c ∧
      build [some (mergeAll [first, second]), third] = .ok c ∧ EndsPlain "out" ∧
      build [some c.toOverrides] = .ok c := by
  intro first second third c
  obtain ⟨hbuild, hnulls, hmerge, hagain⟩ := build_merged [first, second, third]
  have hc : build [first, second, third] = .ok c := by
    apply (hbuild c).2
    constructor
    · decide +kernel
    · exact ⟨rfl, rfl, rfl, rfl, rfl, rfl, rfl, rfl, rfl, rfl, rfl⟩
  exact ⟨hc, (hnulls _ (.absent [] _)).trans hc, (hmerge [first, second] [third] rfl).trans hc, hagain c hc⟩

end Config

end RpcBindings
