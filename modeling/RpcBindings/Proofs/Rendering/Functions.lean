import Mathlib.Data.List.Nodup
import Mathlib.Data.List.Perm.Basic
import RpcBindings.Proofs.Config
import RpcBindings.Proofs.Imports.FirstUse
import RpcBindings.Proofs.Rendering.Printer

namespace RpcBindings

namespace Text

variable {s t : String}

/-- A letter or an underscore, followed by letters, digits and underscores. -/
def isIdentifier (s : String) : Bool :=
  match s.toList with
  | [] => false
  | c :: rest => (c.isAlpha || c == '_') && rest.all fun d => d.isAlphanum || d == '_'

/-- The texts differ in the case of their first letter at most. -/
def EqButFirstCase (s t : String) : Prop :=
  s.toList.head?.map Char.toLower = t.toList.head?.map Char.toLower ∧ s.toList.tail = t.toList.tail

instance : Decidable (EqButFirstCase s t) := inferInstanceAs (Decidable (_ ∧ _))

theorem ascii_of_isAlpha {c : Char} (h : c.isAlpha = true) : c.toNat < 128 := by
  have hlast : c.val ≤ 'Z'.val ∨ c.val ≤ 'z'.val := by
    rcases (Bool.or_eq_true _ _).mp h with h | h
    · exact .inl (of_decide_eq_true h).2
    · exact .inr (of_decide_eq_true ((Bool.and_eq_true _ _).mp h).2)
  rcases hlast with h | h
  · exact Nat.lt_of_le_of_lt (UInt32.le_iff_toNat_le.1 h) (by decide)
  · exact Nat.lt_of_le_of_lt (UInt32.le_iff_toNat_le.1 h) (by decide)

theorem toList_lowerFirst (h : isIdentifier s = true) :
    ∃ c rest, s.toList = c :: rest ∧ (lowerFirst s).toList = c.toLower :: rest := by
  rw [isIdentifier] at h
  cases hs : s.toList with
  | nil =>
    rw [hs] at h
    cases h
  | cons c rest =>
    rw [hs] at h
    simp only [Bool.and_eq_true, Bool.or_eq_true, beq_iff_eq] at h
    have hascii : c.toNat < 128 := by
      rcases h.1 with h | rfl
      · exact ascii_of_isAlpha h
      · decide
    refine ⟨c, rest, rfl, ?_⟩
    rw [lowerFirst, hs, String.toList_ofList, lowerChar_ascii hascii]
    rfl

theorem lowerFirst_eq_iff (hs : isIdentifier s = true) (ht : isIdentifier t = true) :
    lowerFirst s = lowerFirst t ↔ EqButFirstCase s t := by
  obtain ⟨c, cs, hc, hlower⟩ := toList_lowerFirst hs
  obtain ⟨d, ds, hd, hlower'⟩ := toList_lowerFirst ht
  rw [← String.toList_inj, hlower, hlower', EqButFirstCase, hc, hd]
  simp

theorem length_lowerFirst (h : isIdentifier s = true) : (lowerFirst s).length = s.length := by
  obtain ⟨c, rest, hs, hlower⟩ := toList_lowerFirst h
  rw [← String.length_toList, hlower, ← String.length_toList, hs]
  rfl

end Text

def Layout.functions (names : Slot → String) (l : Layout) : List String :=
  (l.pieces.filter fun piece => piece.1.getLast? == some "export function ").map fun piece => names piece.2

def Rpc.functions (r : Rpc) : List String :=
  (if r.isUnary then functionLayout else streamingLayout).functions r.names ++
    (r.hook?.map fun hook => hook.layout.functions r.names).getD []

theorem Hook.functions_layout (hook : Hook) (names : Slot → String) :
    hook.layout.functions names = [names .hookName] := by
  cases hook <;> rfl

theorem Method.rpc_functions (set : DescriptorSet) (config : Config) (input output : String)
    (m : Method) : (m.rpc set config input output).functions =
      if m.kind = .unary then [Text.lowerFirst m.name, config.hookPrefix ++ m.name] else [] := by
  by_cases hk : m.kind = .unary
  · obtain ⟨hook, hhook⟩ : ∃ hook, (m.rpc set config input output).hook? = some hook := by
      rw [Rpc.hook?]
      split
      · exact ⟨_, rfl⟩
      · split
        · exact ⟨_, rfl⟩
        · exact ⟨_, if_pos (by simp [Method.rpc, hk])⟩
    have hunary : (m.rpc set config input output).isUnary = true := by simp [Method.rpc, hk]
    rw [Rpc.functions, hhook, hunary, if_pos rfl, if_pos hk, Option.map_some, Option.getD_some,
      Hook.functions_layout]
    rfl
  · have hook : (m.rpc set config input output).hook? = none := by simp [Method.rpc, Rpc.hook?, hk]
    have hunary : (m.rpc set config input output).isUnary = false := by simp [Method.rpc, hk]
    rw [Rpc.functions, hook, hunary, if_neg hk]
    rfl

def Service.unaryNames (s : Service) : List String := (s.methods.filter (·.kind == .unary)).map (·.name)

def importedValues : List String :=
  ["computed", "toValue", "useInfiniteQuery", "useMutation", "useQuery", "useQueryClient",
    "callUnaryMethod", "createConnectQueryKey", "methods", "getTransport"]

def takenNames : List String := "invalidateResource" :: importedValues

/-- A streaming method has no functions, a unary one has two. -/
theorem flatMap_functions {hookPrefix : String} {ms : List Method} {rs : List Rpc}
    (h : List.Forall₂ (fun m r => r.functions =
      if m.kind = .unary then [Text.lowerFirst m.name, hookPrefix ++ m.name] else []) ms rs) :
    rs.flatMap Rpc.functions = ((ms.filter (·.kind == .unary)).map (·.name)).flatMap fun n =>
      [Text.lowerFirst n, hookPrefix ++ n] := by
  induction h with
  | nil => rfl
  | @cons m r ms rs hr _ ih =>
    rw [List.flatMap_cons, hr, ih]
    by_cases hk : m.kind = .unary
    · rw [if_pos hk, List.filter_cons_of_pos (by simp [hk])]
      rfl
    · rw [if_neg hk, List.filter_cons_of_neg (by simp [hk])]
      rfl

section

variable {hookPrefix : String} {names : List String}

theorem functionNames_perm (hookPrefix : String) (names : List String) :
    (names.map Text.lowerFirst ++ names.map (hookPrefix ++ ·)).Perm
      (names.flatMap fun n => [Text.lowerFirst n, hookPrefix ++ n]) := by
  rw [List.map_eq_flatMap (f := (hookPrefix ++ ·))]
  exact List.map_append_flatMap_perm names Text.lowerFirst fun n => [hookPrefix ++ n]

theorem lowerFirst_ne_hook (hp : hookPrefix ≠ "") {n : String} (h : Text.isIdentifier n = true) :
    Text.lowerFirst n ≠ hookPrefix ++ n := by
  intro heq
  have hlength : (Text.lowerFirst n).length = (hookPrefix ++ n).length := congrArg _ heq
  rw [Text.length_lowerFirst h, String.length_append] at hlength
  exact hp (String.length_eq_zero_iff.1 (by omega))

theorem nodup_functionNames_iff (hp : hookPrefix ≠ "") (hn : names.Nodup)
    (hid : ∀ n ∈ names, Text.isIdentifier n = true) :
    (names.flatMap fun n => [Text.lowerFirst n, hookPrefix ++ n]).Nodup ↔
      ∀ n ∈ names, ∀ n' ∈ names, n ≠ n' →
        ¬Text.EqButFirstCase n n' ∧ Text.lowerFirst n ≠ hookPrefix ++ n' := by
  have hhooks : (names.map (hookPrefix ++ ·)).Nodup :=
    hn.map fun _ _ h => String.append_right_inj hookPrefix |>.1 h
  rw [← (functionNames_perm hookPrefix names).nodup_iff, List.nodup_append,
    List.nodup_map_iff_inj_on hn]
  constructor
  · rintro ⟨hfunctions, -, hdisjoint⟩ n h n' h' hne
    refine ⟨fun heq => hne (hfunctions n h n' h' ?_), ?_⟩
    · exact (Text.lowerFirst_eq_iff (hid n h) (hid n' h')).2 heq
    · exact hdisjoint _ (List.mem_map_of_mem h) _ (List.mem_map_of_mem h')
  · intro hpairs
    refine ⟨fun n h n' h' heq => ?_, hhooks, fun f hf k hk => ?_⟩
    · by_contra hne
      exact (hpairs n h n' h' hne).1 ((Text.lowerFirst_eq_iff (hid n h) (hid n' h')).1 heq)
    · obtain ⟨n, h, rfl⟩ := List.mem_map.1 hf
      obtain ⟨n', h', rfl⟩ := List.mem_map.1 hk
      -- A function and a hook of one method are apart whatever the names are.
      by_cases hne : n = n'
      · exact hne ▸ lowerFirst_ne_hook hp (hid n h)
      · exact (hpairs n h n' h' hne).2

end

theorem isIdentifier_of_taken {w : String} (h : w ∈ takenNames) :
    Text.isIdentifier w = true ∧ Text.lowerFirst w = w := by
  revert w
  decide +kernel

namespace ViewModel

def functions (vm : ViewModel) : List String := "invalidateResource" :: vm.rpcs.flatMap Rpc.functions

variable {cwd : List String} {set : DescriptorSet} {config : Config} {s : Service} {vm : ViewModel}

theorem functions_ofService (h : ofService cwd set config s = .ok vm) :
    vm.functions = "invalidateResource" ::
      s.unaryNames.flatMap fun n => [Text.lowerFirst n, config.hookPrefix ++ n] := by
  obtain ⟨pairs, hpairs, rfl⟩ := ofService_eq_ok h
  refine congrArg _ (flatMap_functions ?_)
  exact forall₂_map_zip hpairs fun m p _ => m.rpc_functions set config p.1.name p.2.name

/-- Where methods are named by distinct identifiers, the functions of the bindings collide with nothing
exactly if no two unary methods differ in the case of the first letter alone, no function of one is the hook
of another, and neither of the two has a name that is taken. -/
theorem nodup_functions_iff {given : List (Option Overrides)} (hc : Config.build given = .ok config)
    (hn : (s.methods.map (·.name)).Nodup) (hid : ∀ m ∈ s.methods, Text.isIdentifier m.name = true)
    (hvm : ofService cwd set config s = .ok vm) :
    vm.functions = "invalidateResource" ::
      s.unaryNames.flatMap (fun n => [Text.lowerFirst n, config.hookPrefix ++ n]) ∧
    ((vm.functions ++ importedValues).Nodup ↔
      (∀ n ∈ s.unaryNames, ∀ n' ∈ s.unaryNames, n ≠ n' →
        ¬Text.EqButFirstCase n n' ∧ Text.lowerFirst n ≠ config.hookPrefix ++ n') ∧
      ∀ n ∈ s.unaryNames, ∀ w ∈ takenNames, ¬Text.EqButFirstCase n w ∧ config.hookPrefix ++ n ≠ w) := by
  have hfunctions := functions_ofService hvm
  refine ⟨hfunctions, ?_⟩
  have hprefix : config.hookPrefix ≠ "" := (Config.build_names hc).2.1
  have hnames : s.unaryNames.Nodup := hn.sublist (List.filter_sublist.map _)
  have hunary : ∀ n ∈ s.unaryNames, Text.isIdentifier n = true := by
    intro n h
    obtain ⟨m, hm, rfl⟩ := List.mem_map.1 h
    exact hid m (List.mem_of_mem_filter hm)
  -- The function of every service is counted among the taken names from here on.
  have hperm : (vm.functions ++ importedValues).Perm
      ((s.unaryNames.flatMap fun n => [Text.lowerFirst n, config.hookPrefix ++ n]) ++ takenNames) := by
    rw [hfunctions]
    exact List.perm_middle.symm
  have htaken : takenNames.Nodup := by decide
  rw [hperm.nodup_iff, List.nodup_append, nodup_functionNames_iff hprefix hnames hunary]
  refine and_congr_right' ⟨?_, ?_⟩
  · rintro ⟨-, hdisjoint⟩ n h w hw
    obtain ⟨hword, hlower⟩ := isIdentifier_of_taken hw
    have hmem (k : String) (hk : k ∈ [Text.lowerFirst n, config.hookPrefix ++ n]) : k ≠ w :=
      hdisjoint k (List.mem_flatMap.2 ⟨n, h, hk⟩) w hw
    refine ⟨fun heq => hmem _ (.head _) ?_, hmem _ (.tail _ (.head _))⟩
    exact ((Text.lowerFirst_eq_iff (hunary n h) hword).2 heq).trans hlower
  · intro hfree
    refine ⟨htaken, fun k hk w hw heq => ?_⟩
    obtain ⟨n, h, hk⟩ := List.mem_flatMap.1 hk
    obtain ⟨hword, hlower⟩ := isIdentifier_of_taken hw
    obtain ⟨hfunction, hhook⟩ := hfree n h w hw
    rcases List.mem_cons.1 hk with rfl | hk
    · exact hfunction ((Text.lowerFirst_eq_iff (hunary n h) hword).1 (heq.trans hlower.symm))
    · exact hhook ((List.mem_singleton.1 hk).symm.trans heq)

/-- A service with a query, a mutation and a streaming method whose names are near each other. -/
def desk : Service :=
  ⟨"Desk", "shop", "shop/order.proto", [⟨"GetOrder", page, order, .unary⟩,
    ⟨"UpdateOrder", order, order, .unary⟩, ⟨"Query", page, order, .serverStreaming⟩]⟩

theorem nodup_functions_iff_desk :
    Config.build [] = .ok {} ∧ (desk.methods.map (·.name)).Nodup ∧
      (∀ m ∈ desk.methods, Text.isIdentifier m.name = true) ∧
      ∃ vm, ofService ["home"] {} {} desk = .ok vm ∧
        vm.functions = ["invalidateResource", "getOrder", "useGetOrder", "updateOrder", "useUpdateOrder"] ∧
        (vm.functions ++ importedValues).Nodup := by
  have hconfig : Config.build [] = .ok {} := by decide +kernel
  have hnames : (desk.methods.map (·.name)).Nodup := by decide
  have hid : ∀ m ∈ desk.methods, Text.isIdentifier m.name = true := by decide +kernel
  have horigins : desk.origins ["home"] {} =
      .ok [(.external "./gen/../common/paging_pb" "Page", .sameFile "Order"),
        (.sameFile "Order", .sameFile "Order"),
        (.external "./gen/../common/paging_pb" "Page", .sameFile "Order")] := by
    decide +kernel
  have hvm := ofService_of_origins {} horigins
  obtain ⟨hfunctions, hnodup⟩ := nodup_functions_iff hconfig hnames hid hvm
  exact ⟨hconfig, hnames, hid, _, hvm, hfunctions.trans (by decide +kernel),
    hnodup.2 ⟨by decide +kernel, by decide +kernel⟩⟩

def searches : Service := ⟨"Searches", "shop", "shop/order.proto", [⟨"Query", order, order, .unary⟩]⟩

theorem not_nodup_functions_searches :
    Config.build [] = .ok {} ∧ (searches.methods.map (·.name)).Nodup ∧
      (∀ m ∈ searches.methods, Text.isIdentifier m.name = true) ∧
      ∃ vm, ofService [] {} {} searches = .ok vm ∧
        vm.functions = ["invalidateResource", "query", "useQuery"] ∧ "useQuery" ∈ importedValues ∧
        ¬(vm.functions ++ importedValues).Nodup := by
  have horigins : searches.origins [] {} = .ok [(.sameFile "Order", .sameFile "Order")] := by
    decide +kernel
  have hvm := ofService_of_origins {} horigins
  have hfunctions : _ = ["invalidateResource", "query", "useQuery"] :=
    (functions_ofService hvm).trans (by decide +kernel)
  refine ⟨by decide +kernel, by decide, by decide +kernel, _, hvm, hfunctions, by decide, ?_⟩
  rw [hfunctions]
  decide

end ViewModel

end RpcBindings
