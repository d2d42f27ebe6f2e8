import RpcBindings.Proofs.Descriptor.Pagination
import RpcBindings.Proofs.Rendering.Bundled

namespace RpcBindings

def Method.HasMutationVerb (m : Method) : Prop :=
  ∃ verb ∈ Naming.mutationVerbs, verb.toList <+: m.name.toList

instance (m : Method) : Decidable m.HasMutationVerb :=
  inferInstanceAs (Decidable (∃ verb ∈ Naming.mutationVerbs, verb.toList <+: m.name.toList))

theorem Naming.isMutation_iff {m : Method} : Naming.isMutation m.name = true ↔ m.HasMutationVerb := by
  simp only [isMutation, List.any_eq_true, Text.startsWith, List.isPrefixOf_iff_prefix,
    Method.HasMutationVerb]

def TypeRef.importedName (t : TypeRef) : String := ((wellKnown? t.typeName).map (·.name)).getD t.name

theorem TypeRef.origin_name {cwd : List String} {config : Config} {owner : String} {t : TypeRef}
    {o : Origin} (h : t.origin cwd config owner = .ok o) : o.name = t.importedName := by
  rw [origin] at h
  rw [importedName]
  cases hw : wellKnown? t.typeName with
  | some known =>
    rw [hw] at h
    cases h
    rfl
  | none =>
    rw [hw] at h
    dsimp only at h
    split at h
    · cases h
      rfl
    · obtain ⟨path, -, rfl⟩ := map_eq_ok.1 h
      rfl

def Method.names (m : Method) (config : Config) : Slot → String
  | .functionName | .definitionName => Text.lowerFirst m.name
  | .hookName => config.hookPrefix ++ m.name
  | .resource => Naming.resource m.name
  | .inputType => m.input.importedName
  | .outputType => m.output.importedName

namespace DescriptorSet

def AsksForPage (s : DescriptorSet) (m : Method) : Prop :=
  ∃ input n, s.find? m.input.typeName = some input ∧ Relation.ReflTransGen s.Leads input n ∧
    n.HasPaginationKey

/-- The hook that the bindings of a method have. -/
inductive Offers (s : DescriptorSet) (m : Method) : Option Hook → Prop where
  | streaming (hk : m.kind ≠ .unary) : Offers s m none
  | mutation (hk : m.kind = .unary) (hv : m.HasMutationVerb) : Offers s m (some .mutation)
  | infiniteQuery (hk : m.kind = .unary) (hv : ¬m.HasMutationVerb) (hp : s.AsksForPage m) :
    Offers s m (some .infiniteQuery)
  | query (hk : m.kind = .unary) (hv : ¬m.HasMutationVerb) (hp : ¬s.AsksForPage m) :
    Offers s m (some .query)

variable {s : DescriptorSet} {m : Method} {hook : Option Hook}

theorem Offers.unique {hook' : Option Hook} (h : s.Offers m hook) (h' : s.Offers m hook') :
    hook' = hook := by
  cases h with
  | streaming hk =>
    cases h' with
    | streaming => rfl
    | mutation hk' | infiniteQuery hk' | query hk' => exact absurd hk' hk
  | mutation hk hv =>
    cases h' with
    | streaming hk' => exact absurd hk hk'
    | mutation => rfl
    | infiniteQuery _ hv' | query _ hv' => exact absurd hv hv'
  | infiniteQuery hk hv hp =>
    cases h' with
    | streaming hk' => exact absurd hk hk'
    | mutation _ hv' => exact absurd hv' hv
    | infiniteQuery => rfl
    | query _ _ hp' => exact absurd hp hp'
  | query hk hv hp =>
    cases h' with
    | streaming hk' => exact absurd hk hk'
    | mutation _ hv' => exact absurd hv' hv
    | infiniteQuery _ _ hp' => exact absurd hp' hp
    | query => rfl

theorem Offers.eq_none_iff (h : s.Offers m hook) : hook = none ↔ m.kind ≠ .unary := by
  cases h with
  | streaming hk => exact ⟨fun _ => hk, fun _ => rfl⟩
  | mutation hk | infiniteQuery hk | query hk =>
    constructor
    · nofun
    · intro hn
      exact absurd hk hn

theorem asksForPage_iff (h : s.Linked) (hd : s.Declares m.input) :
    ((s.find? m.input.typeName).map s.isPaginated).getD false = true ↔ s.AsksForPage m := by
  obtain ⟨input, hinput, -⟩ := hd
  have hmem := (find?_mem hinput).1
  rw [hinput, Option.map_some, Option.getD_some, isPaginated_iff h hmem]
  constructor
  · rintro ⟨n, hl, hk⟩
    exact ⟨input, n, hinput, hl, hk⟩
  · rintro ⟨input', n, hinput', hl, hk⟩
    rw [hinput] at hinput'
    cases hinput'
    exact ⟨n, hl, hk⟩

theorem offers_hook? (h : s.Linked) (hd : s.Declares m.input) (config : Config) (input output : String) :
    s.Offers m (m.rpc s config input output).hook? := by
  by_cases hk : m.kind = .unary
  · by_cases hv : Naming.isMutation m.name = true
    · have hook : (m.rpc s config input output).hook? = some .mutation := by
        simp [Method.rpc, Rpc.hook?, hk, hv]
      rw [hook]
      exact .mutation hk (Naming.isMutation_iff.1 hv)
    · have hnone := mt Naming.isMutation_iff.2 hv
      by_cases hp : ((s.find? m.input.typeName).map s.isPaginated).getD false = true
      · have hook : (m.rpc s config input output).hook? = some .infiniteQuery := by
          simp [Method.rpc, Rpc.hook?, hk, hv, hp]
        rw [hook]
        exact .infiniteQuery hk hnone ((asksForPage_iff h hd).1 hp)
      · have hook : (m.rpc s config input output).hook? = some .query := by
          simp [Method.rpc, Rpc.hook?, hk, hv, hp]
        rw [hook]
        exact .query hk hnone (mt (asksForPage_iff h hd).2 hp)
  · have hook : (m.rpc s config input output).hook? = none := by
      simp [Method.rpc, Rpc.hook?, hk]
    rw [hook]
    exact .streaming hk

end DescriptorSet

/-- Where exactly the streaming methods have no hook, no other text is printed. -/
theorem Rpc.text_eq_bindings {r : Rpc} (h : r.hook? = none ↔ r.isUnary = false) :
    r.text = bindings r.names r.hook? := by
  rw [text]
  cases hr : r.hook? with
  | none =>
    rw [h.1 hr, if_neg Bool.false_ne_true, Option.map_none, Option.getD_none, String.append_empty]
    rfl
  | some hook =>
    have hunary : r.isUnary = true := by
      rw [← Bool.not_eq_false, ← h, hr]
      nofun
    rw [hunary, if_pos rfl, Option.map_some, Option.getD_some]
    rfl

namespace DescriptorSet

variable {s : DescriptorSet} {m : Method}

theorem rpc_text (h : s.Linked) (hd : s.Declares m.input) (config : Config) {input output : String}
    (hi : input = m.input.importedName) (ho : output = m.output.importedName) :
    ∃ hook, (∀ hook', s.Offers m hook' ↔ hook' = hook) ∧ (hook = none ↔ m.kind ≠ .unary) ∧
      (m.rpc s config input output).text = bindings (m.names config) hook := by
  have hoffers := offers_hook? h hd config input output
  refine ⟨_, fun hook' => ⟨hoffers.unique, fun he => he ▸ hoffers⟩, hoffers.eq_none_iff, ?_⟩
  have hnames : (m.rpc s config input output).names = m.names config := by
    subst hi ho
    funext slot
    cases slot <;> rfl
  rw [← hnames]
  refine Rpc.text_eq_bindings (hoffers.eq_none_iff.trans ?_)
  change _ ↔ (m.kind == .unary) = false
  rw [beq_eq_false_iff_ne]

/-- After the imports, the bindings of a service hold one block for each method, in order. The kind of the
method, the start of its name and the fields that its input reaches decide what the block is: the remark on
streaming, or the function and one hook. -/
theorem render_api_blocks (h : s.Loaded) {v : Service} (hv : s.firstService? = some v)
    {cwd : List String} {config : Config} {vm : ViewModel}
    (hvm : ViewModel.ofFirstService cwd s config = .ok (some vm)) :
    ∃ blocks : List String,
      Template.render Rendering.bundled (vm.context config) "api" =
        .ok (vm.preamble config ++ String.join blocks) ∧
      List.Forall₂ (fun m block => ∃ hook, (∀ hook', s.Offers m hook' ↔ hook' = hook) ∧
        (hook = none ↔ m.kind ≠ .unary) ∧ block = "\n" ++ bindings (m.names config) hook)
        v.methods blocks := by
  obtain ⟨p, hp, hvp⟩ := exists_file_of_firstService? hv
  rw [ViewModel.ofFirstService, hv] at hvm
  change ((v.origins cwd config).map (ViewModel.ofOrigins s config v)).map some = _ at hvm
  cases ho : v.origins cwd config with
  | error e =>
    rw [ho] at hvm
    cases hvm
  | ok origins =>
    rw [ho] at hvm
    cases hvm
    have horigins := (List.forall₂_and_left _ _).2
      ⟨fun m hm => (h.linked.methods p hp v hvp m hm).1, forall₂_of_mapM_eq_ok ho⟩
    refine ⟨_, ViewModel.render_api _ _, ?_⟩
    rw [ViewModel.ofOrigins, List.map_map]
    refine forall₂_map_zip horigins ?_
    rintro m ⟨input, output⟩ ⟨hd, hmo⟩
    obtain ⟨i, hi, hmo⟩ := bind_eq_ok.1 hmo
    obtain ⟨o, houtput, hmo⟩ := bind_eq_ok.1 hmo
    cases pure_eq_ok.1 hmo
    -- Types are printed under the names that they are imported by.
    obtain ⟨hook, hu, hn, ht⟩ :=
      rpc_text h.linked hd config (TypeRef.origin_name hi) (TypeRef.origin_name houtput)
    exact ⟨hook, hu, hn, congrArg ("\n" ++ ·) ht⟩

def shop : Document :=
  { files := [
      { name := "shop.proto"
        package := "shop"
        messages :=
          .cons "Request" [{ name := "range", type := some "Range" }] .nil
            (.cons "Range" [{ name := "Limit" }] .nil .nil)
        services := [⟨"Shop", [⟨"ListItems", "Request", "Range", .unary⟩,
          ⟨"CreateItem", "Range", "google.protobuf.Empty", .unary⟩,
          ⟨"Watch", "Range", "Range", .serverStreaming⟩]⟩] }] }

def shopRequest : Message :=
  ⟨"shop.Request", "Request", "shop.proto",
    [⟨"range", .message, false, some ⟨"shop.Range", "Range", "shop.proto"⟩⟩]⟩

def shopRange : Message := ⟨"shop.Range", "Range", "shop.proto", [⟨"Limit", .scalar, false, none⟩]⟩

def listItems : Method := ⟨"ListItems", shopRequest.ref, shopRange.ref, .unary⟩

def createItem : Method :=
  ⟨"CreateItem", shopRange.ref, ⟨"google.protobuf.Empty", "Empty", "google/protobuf/empty.proto"⟩, .unary⟩

def watch : Method := ⟨"Watch", shopRange.ref, shopRange.ref, .serverStreaming⟩

def shopService : Service := ⟨"Shop", "shop", "shop.proto", [listItems, createItem, watch]⟩

def shopSet : DescriptorSet :=
  { files := [
      ⟨"shop.proto", "shop", [shopRequest, shopRange], [shopService]⟩,
      ⟨"google/protobuf/empty.proto", "google.protobuf",
        [⟨"google.protobuf.Empty", "Empty", "google/protobuf/empty.proto", []⟩], []⟩] }

theorem render_api_blocks_shop :
    shopSet.Loaded ∧ shopSet.firstService? = some shopService ∧
      ∃ vm, ViewModel.ofFirstService [] shopSet {} = .ok (some vm) ∧
        Template.render Rendering.bundled (vm.context {}) "api" = .ok (vm.preamble {} ++ String.join [
          "\n" ++ bindings (listItems.names {}) (some .infiniteQuery),
          "\n" ++ bindings (createItem.names {}) (some .mutation),
          "\n" ++ bindings (watch.names {}) none]) := by
  have hload : shopSet.Loaded := .ofDocument (d := shop) (by decide +kernel)
  have hfirst : shopSet.firstService? = some shopService := by decide
  have horigins : shopService.origins [] {} = .ok [(.sameFile "Request", .sameFile "Range"),
      (.sameFile "Range", .wellKnown "Empty"), (.sameFile "Range", .sameFile "Range")] := by
    decide +kernel
  have hvm : ViewModel.ofFirstService [] shopSet {} =
      .ok (some (.ofOrigins shopSet {} shopService [(.sameFile "Request", .sameFile "Range"),
        (.sameFile "Range", .wellKnown "Empty"), (.sameFile "Range", .sameFile "Range")])) := by
    rw [ViewModel.ofFirstService, hfirst]
    change ((shopService.origins [] {}).map (ViewModel.ofOrigins shopSet {} shopService)).map some = _
    rw [horigins]
    rfl
  obtain ⟨blocks, hrender, hblocks⟩ := render_api_blocks hload hfirst hvm
  have hlist : shopSet.Offers listItems (some .infiniteQuery) := by
    refine .infiniteQuery rfl (by decide) ⟨shopRequest, shopRange, by decide, .single ?_, ?_⟩
    · exact ⟨_, .head _, rfl, _, rfl, by decide⟩
    · exact ⟨_, .head _, by decide +kernel⟩
  have hcreate : shopSet.Offers createItem (some .mutation) :=
    .mutation rfl ⟨"Create", by decide, by decide⟩
  have hwatch : shopSet.Offers watch none := .streaming (by decide)
  change List.Forall₂ _ [listItems, createItem, watch] blocks at hblocks
  rcases hblocks with _ | ⟨⟨_, hl, -, rfl⟩, _ | ⟨⟨_, hc, -, rfl⟩, _ | ⟨⟨_, hw, -, rfl⟩, _ | _⟩⟩⟩
  cases (hl _).1 hlist
  cases (hc _).1 hcreate
  cases (hw _).1 hwatch
  exact ⟨hload, hfirst, _, hvm, hrender⟩

end DescriptorSet

end RpcBindings
