import RpcBindings.Proofs.Template.Bundled
import RpcBindings.Proofs.Template.Render
import RpcBindings.Rendering

namespace RpcBindings

open Template
open Template.Bundled

variable {embedded : Env → Value → Except Template.Error String} {env : Env} {e : Expr}

theorem Rpc.eval_entry {r : Rpc} (h : env.get "rpc" = r.context) (name : String) :
    (entry "rpc" name).eval env = r.context.property name := by
  rw [entry, Expr.eval, Expr.eval, h]
  rfl

theorem Rpc.eval_slot {r : Rpc} (h : env.get "rpc" = r.context) (slot : Slot) :
    (entry "rpc" slot.key).eval env = .ok (.text (r.names slot)) := by
  rw [eval_entry h]
  cases slot <;> rfl

theorem Layout.renders {r : Rpc} (h : env.get "rpc" = r.context) (l : Layout) :
    Renders embedded env l.template (l.fill r.names) := by
  rw [template, fill]
  induction l.pieces with
  | nil =>
    rw [List.map_nil, String.join_nil, String.empty_append]
    exact .last _
  | cons piece rest ih =>
    rw [List.foldr_cons, List.map_cons, String.join_cons, String.append_assoc, String.append_assoc]
    exact .text (.output (Rpc.eval_slot h piece.2) rfl ih) _

namespace Rpc

variable {r : Rpc}

theorem renders_body (h : env.get "rpc" = r.context) :
    Renders embedded env (if r.isUnary then functionLayout.template else streamingLayout.template)
      ((if r.isUnary then functionLayout else streamingLayout).fill r.names) := by
  cases r.isUnary with
  | true => exact functionLayout.renders h
  | false => exact streamingLayout.renders h

theorem renders_hook (h : env.get "rpc" = r.context) :
    Renders embedded env
      (if r.isPaginated then Hook.infiniteQueryLayout.template else
        .branch (entry "rpc" "is_query") Hook.queryLayout.template
          (.branch (entry "rpc" "is_unary") Hook.mutationLayout.template .done .done) .done)
      ((r.hook?.map fun hook => hook.layout.fill r.names).getD "") := by
  have hquery : (entry "rpc" "is_query").eval env = .ok (.bool r.isQuery) :=
    eval_entry h "is_query"
  have hunary : (entry "rpc" "is_unary").eval env = .ok (.bool r.isUnary) :=
    eval_entry h "is_unary"
  rw [hook?]
  cases r.isPaginated with
  | true => exact Hook.infiniteQueryLayout.renders h
  | false =>
    refine .branch_last hquery rfl ?_
    cases r.isQuery with
    | true => exact Hook.queryLayout.renders h
    | false =>
      refine .branch_last hunary rfl ?_
      cases r.isUnary with
      | true => exact Hook.mutationLayout.renders h
      | false => exact .done

theorem renders (h : env.get "rpc" = r.context) : Renders embedded env rpcTemplate r.text := by
  have hunary : (entry "rpc" "is_unary").eval env = .ok (.bool r.isUnary) :=
    eval_entry h "is_unary"
  have hpaginated : (entry "rpc" "is_paginated").eval env = .ok (.bool r.isPaginated) :=
    eval_entry h "is_paginated"
  exact (renders_body h).branch hunary rfl ((renders_hook h).branch_last hpaginated rfl)

theorem renderKey_rpc (h : env.get "rpc" = r.context) (depth : Nat) :
    renderKey Rendering.bundled (depth + 1) env "rpc" = .ok r.text := by
  have hs : Rendering.bundled.lookup "rpc" = some rpc := rfl
  rw [renderKey, hs]
  exact bind_eq_ok.2 ⟨rpcTemplate, parse_rpc, bind_eq_ok.2 ⟨_, renders h, rfl⟩⟩

end Rpc

theorem eval_commaJoin {names : List String} (h : e.eval env = .ok (ViewModel.textList names)) :
    (commaJoin e).eval env = .ok (.text (", ".intercalate names)) := by
  have hprint :=
    calc (names.map Value.text).mapM Value.print
      _ = names.mapM (Value.print ∘ Value.text) := List.mapM_map
      _ = .ok (names.map id) := mapM_eq_ok fun _ _ => rfl
      _ = .ok names := by rw [List.map_id]
  rw [commaJoin, Expr.eval, h]
  exact bind_eq_ok.2 ⟨_, rfl, bind_eq_ok.2 ⟨_, rfl, bind_eq_ok.2 ⟨_, rfl, bind_eq_ok.2 ⟨_, hprint, rfl⟩⟩⟩⟩

theorem renders_importLine? {names : List String} {path : String} {line next : Template} {rest : String}
    (he : e.eval env = .ok (ViewModel.textList names))
    (hline : Renders embedded env line (importLine names path))
    (h : Renders embedded env next rest) :
    Renders embedded env (.branch e line .done next) (importLine? names path ++ rest) := by
  refine .branch he rfl ?_ h
  rw [importLine?, List.isEmpty_map]
  cases names.isEmpty with
  | true => exact .done
  | false => exact hline

namespace ViewModel

variable (vm : ViewModel) (config : Config)

theorem eval_unaryMethods : unaryMethods.eval (vm.context config) =
    .ok (.list ((vm.rpcs.filter (·.isUnary)).map Rpc.context)) := by
  have hchosen : (vm.rpcs.map Rpc.context).filterM (fun i => do (← i.item (.text "is_unary")).truth) =
      .ok ((vm.rpcs.filter (·.isUnary)).map Rpc.context) := filterM_map_eq_ok fun _ _ => rfl
  have hfilter : (Value.list (vm.rpcs.map Rpc.context)).filter "selectattr" [.text "is_unary"] =
      .ok (.stream ((vm.rpcs.filter (·.isUnary)).map Rpc.context)) :=
    bind_eq_ok.2 ⟨_, rfl, bind_eq_ok.2 ⟨_, hchosen, rfl⟩⟩
  rw [unaryMethods, Expr.eval, Expr.eval]
  exact bind_eq_ok.2 ⟨_, bind_eq_ok.2 ⟨_, rfl, bind_eq_ok.2 ⟨_, rfl, hfilter⟩⟩, rfl⟩

theorem renders_definitions :
    Renders embedded (vm.context config)
      (if !((vm.rpcs.filter (·.isUnary)).map Rpc.context).isEmpty then definitionsTemplate else .done)
      (vm.definitionsLine config) := by
  have hany : (!((vm.rpcs.filter (·.isUnary)).map Rpc.context).isEmpty) = vm.rpcs.any (·.isUnary) := by
    rw [List.isEmpty_map, Bool.eq_iff_iff]
    simp
  rw [hany, definitionsLine]
  cases vm.rpcs.any (·.isUnary) with
  | false => exact .done
  | true =>
    simp only [if_true, Config.modulePath, String.append_assoc]
    exact .text (.output rfl rfl (.text (.output rfl rfl (.last _)) _)) _

theorem renders_wellKnown : Renders embedded (vm.context config) wellKnownTemplate
    (importLine vm.imports.wellKnown "@bufbuild/protobuf") := by
  -- Only here the module is part of the text of the template.
  have hfrom : lines [" » from \""] ++ ("@bufbuild/protobuf" ++ lines ["\";", ""]) =
      lines [" » from \"@bufbuild/protobuf\";", ""] := by decide +kernel
  simp only [importLine, String.append_assoc]
  rw [hfrom]
  exact .text (.output (eval_commaJoin rfl) rfl (.last _)) _

theorem renders_sameFile : Renders embedded (vm.context config) sameFileTemplate
    (importLine vm.imports.sameFile (config.modulePath vm.protoPbFile)) := by
  simp only [importLine, Config.modulePath, String.append_assoc]
  exact .text (.output (eval_commaJoin rfl) rfl (.text (.output rfl rfl (.text (.output rfl rfl
    (.last _)) _)) _)) _

theorem renders_external (path : String) (types : List String) : Renders embedded
    (("external", .record [("path", .text path), ("types", textList types)]) :: vm.context config)
    externalTemplate (importLine types path) := by
  simp only [importLine, String.append_assoc]
  exact .text (.output (eval_commaJoin rfl) rfl (.text (.output rfl rfl (.last _)) _)) _

theorem renders_methods (h : ∀ r ∈ vm.rpcs,
    embedded (("rpc", r.context) :: vm.context config) (.text "rpc") = .ok r.text) :
    Renders embedded (vm.context config)
      (.each "rpc" (.name "rpcs") false (.text "\n".toList <| .embed (.text "rpc") <| .done) .done .done)
      (String.join (vm.rpcs.map fun r => "\n" ++ r.text)) := by
  rw [← String.append_empty (s := String.join _)]
  refine .each rfl rfl (fun r hr => ?_) .done
  rw [← String.append_empty (s := r.text)]
  exact .text (.embed rfl (h r hr) .done) _

theorem renders_api (h : ∀ r ∈ vm.rpcs,
    embedded (("rpc", r.context) :: vm.context config) (.text "rpc") = .ok r.text) :
    Renders embedded (vm.context config) apiTemplate (vm.apiText config) := by
  have hdefinitions := Renders.branch (vm.eval_unaryMethods config) rfl
    (renders_definitions vm config) ((vm.renders_methods config h).text invalidation)
  have hexternals := Renders.each (e := .name "external_imports") rfl rfl
    (fun external _ => vm.renders_external config external.1 external.2) hdefinitions
  have himports := renders_importLine? (e := .name "wkt_imports") rfl (vm.renders_wellKnown config)
    (renders_importLine? (e := .name "local_imports") rfl (vm.renders_sameFile config) hexternals)
  rw [apiTemplate, apiText, preamble]
  simp only [String.append_assoc]
  exact .text (.output rfl rfl (.text himports libraries)) title

theorem render_api :
    Template.render Rendering.bundled (vm.context config) "api" = .ok (vm.apiText config) := by
  have hs : Rendering.bundled.lookup "api" = some api := rfl
  rw [Template.render, renderKey, hs]
  refine bind_eq_ok.2 ⟨apiTemplate, parse_api, bind_eq_ok.2 ⟨_, renders_api vm config ?_, rfl⟩⟩
  intro r _
  exact bind_eq_ok.2 ⟨"rpc", rfl, Rpc.renderKey_rpc rfl 98⟩

end ViewModel

end RpcBindings
