import RpcBindings.Proofs.Json.Markup
import RpcBindings.Proofs.Rendering.Files

namespace RpcBindings

theorem lines_eq_intercalate (ls : List String) :
    lines ls = "\n".intercalate (ls.map fun l => String.ofList (l.toList.map Template.Bundled.brace)) := by
  rw [← String.toList_inj, lines, String.toList_ofList, String.toList_intercalate, List.map_map]
  simp only [Function.comp_def, String.toList_ofList]
  rfl

theorem lines_append {front back : List String} (hfront : front ≠ []) (hback : back ≠ []) :
    lines (front ++ back) = lines front ++ "\n" ++ lines back := by
  rw [lines_eq_intercalate, lines_eq_intercalate, lines_eq_intercalate, List.map_append]
  exact String.intercalate_append_of_ne_nil (by simpa using hfront) (by simpa using hback)

namespace Config

theorem exists_clientImports : ∃ front : List String, front ≠ [] ∧
    clientImports = lines (front ++ ["let baseUrl = "]) := ⟨[_, _, _, _, _, _], List.cons_ne_nil _ _, rfl⟩

theorem exists_clientFunctions : ∃ back : List String, back ≠ [] ∧ clientFunctions = lines ([";"] ++ back) :=
  ⟨_, List.cons_ne_nil _ _, rfl⟩

end Config

namespace ViewModel

variable (vm : ViewModel) (config : Config)

/-- Of clients that differ in the base URL, only the literal in one line differs. The view model does not
depend on the base URL, so this holds of all that is generated for a service. -/
theorem render_client_baseUrl (hstale : Json.ShortInt config.queryStaleTime) :
    ∃ front back : String, ∀ url : String, ∃ literal : String,
    Template.render Rendering.bundled (vm.context { config with baseUrl := url }) "client" =
        .ok (front ++ "\nlet baseUrl = " ++ literal ++ ";\n" ++ back) ∧
      Json.IsPlainLiteral literal url ∧
      ∀ cwd set, ofFirstService cwd set { config with baseUrl := url } = ofFirstService cwd set config := by
  obtain ⟨front, hfront, himports⟩ := Config.exists_clientImports
  obtain ⟨back, hback, hfunctions⟩ := Config.exists_clientFunctions
  have hlet : "\n" ++ lines ["let baseUrl = "] = "\nlet baseUrl = " := by decide +kernel
  have hend : lines [";"] ++ "\n" = ";\n" := by decide +kernel
  rw [lines_append hfront (List.cons_ne_nil _ _), String.append_assoc, hlet] at himports
  rw [lines_append (List.cons_ne_nil _ _) hback, hend] at hfunctions
  refine ⟨Config.clientTitle ++ vm.serviceName ++ lines front,
    lines back ++ config.staleTimeText ++ Config.clientEnd, ?_⟩
  intro url
  refine ⟨Json.literal Json.Repertoire.markup url, ?_, Json.isPlainLiteral_literal url, fun cwd set => rfl⟩
  rw [render_client _ { config with baseUrl := url } hstale, clientText, himports, hfunctions]
  simp only [String.append_assoc]
  rfl

/-- A URL that tries to end its literal and its script. -/
theorem render_client_baseUrl_script : Json.ShortInt (0 : Nat) ∧ ∃ front back literal : String,
    Template.render Rendering.bundled
        (context { serviceName := "S", protoPbFile := "a_pb", connectQueryFile := "a-S_connectquery" }
          { baseUrl := "\";</script>\n" }) "client" =
      .ok (front ++ "\nlet baseUrl = " ++ literal ++ ";\n" ++ back) ∧
    Json.IsPlainLiteral literal "\";</script>\n" := by
  have hstale : Json.ShortInt (0 : Nat) := by decide
  obtain ⟨front, back, hclient⟩ := render_client_baseUrl
    { serviceName := "S", protoPbFile := "a_pb", connectQueryFile := "a-S_connectquery" } {} hstale
  obtain ⟨literal, hrender, hliteral, -⟩ := hclient "\";</script>\n"
  exact ⟨hstale, front, back, literal, hrender, hliteral⟩

end ViewModel

end RpcBindings
