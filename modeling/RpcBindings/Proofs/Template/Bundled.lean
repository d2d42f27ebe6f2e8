import Mathlib.Control.Monad.Basic
import RpcBindings.Proofs.Rendering.Printer
import RpcBindings.Template.Parse

namespace RpcBindings

open Template

def entry (owner name : String) : Expr := .property (.name owner) name

def Slot.key : Slot → String
  | functionName => "function_name"
  | hookName => "hook_name"
  | definitionName => "query_definition_name"
  | resource => "resource"
  | inputType => "input_type"
  | outputType => "output_type"

/-- Text with gaps as a template: a name of the method is printed in each gap. -/
def Layout.template (l : Layout) : Template :=
  l.pieces.foldr
    (fun piece next => .text (lines piece.1).toList (.output (entry "rpc" piece.2.key) next))
    (.text (lines l.last).toList .done)

namespace Template.Bundled

def commaJoin (list : Expr) : Expr := .filter "join" list (.cons (.text ", ") .nil)

def rpcTemplate : Template :=
  .branch (entry "rpc" "is_unary") functionLayout.template streamingLayout.template <|
  .branch (entry "rpc" "is_paginated") Hook.infiniteQueryLayout.template
    (.branch (entry "rpc" "is_query") Hook.queryLayout.template
      (.branch (entry "rpc" "is_unary") Hook.mutationLayout.template .done .done) .done) <|
  .done

def wellKnownTemplate : Template :=
  .text (lines ["import « "]).toList <|
  .output (commaJoin (.name "wkt_imports")) <|
  .text (lines [" » from \"@bufbuild/protobuf\";", ""]).toList <|
  .done

def sameFileTemplate : Template :=
  .text (lines ["import « "]).toList <|
  .output (commaJoin (.name "local_imports")) <|
  .text (lines [" » from \""]).toList <|
  .output (entry "config" "output_root") <|
  .text "/".toList <|
  .output (.name "proto_pb_file") <|
  .text (lines ["\";", ""]).toList <|
  .done

def externalTemplate : Template :=
  .text (lines ["import « "]).toList <|
  .output (commaJoin (entry "external" "types")) <|
  .text (lines [" » from \""]).toList <|
  .output (entry "external" "path") <|
  .text (lines ["\";", ""]).toList <|
  .done

def definitionsTemplate : Template :=
  .text (lines ["import * as methods from \""]).toList <|
  .output (entry "config" "output_root") <|
  .text "/".toList <|
  .output (.name "connect_query_file") <|
  .text (lines ["\";", ""]).toList <|
  .done

def unaryMethods : Expr :=
  .filter "list" (.filter "selectattr" (.name "rpcs") (.cons (.text "is_unary") .nil)) .nil

def apiTemplate : Template :=
  .text ViewModel.title.toList <|
  .output (.name "service_name") <|
  .text ViewModel.libraries.toList <|
  .branch (.name "wkt_imports") wellKnownTemplate .done <|
  .branch (.name "local_imports") sameFileTemplate .done <|
  .each "external" (.name "external_imports") false externalTemplate .done <|
  .branch unaryMethods definitionsTemplate .done <|
  .text ViewModel.invalidation.toList <|
  .each "rpc" (.name "rpcs") false (.text "\n".toList <| .embed (.text "rpc") <| .done) .done <|
  .done

theorem toList_ofLines (lines : List String) :
    (ofLines lines).toList = lines.flatMap fun l => l.toList.map brace ++ ['\n'] :=
  String.toList_ofList

-- The texts are turned into lists of characters first, as the kernel would take long to do so.

set_option maxRecDepth 10000 in
theorem parse_rpc : parse rpc = .ok rpcTemplate := by
  rw [parse, piecesOf, rpc, toList_ofLines, rpcTemplate]
  simp only [List.flatMap_cons, List.flatMap_nil, Layout.template, functionLayout, streamingLayout,
    Hook.infiniteQueryLayout, Hook.queryLayout, Hook.mutationLayout, List.foldr_cons, List.foldr_nil,
    lines, List.map_cons, List.map_nil, List.intercalate_cons_cons, List.intercalate_singleton]
  repeat rw [String.toList_ofList]
  decide +kernel

set_option maxRecDepth 10000 in
theorem parse_api : parse api = .ok apiTemplate := by
  rw [parse, piecesOf, api, toList_ofLines, apiTemplate]
  simp only [List.flatMap_cons, List.flatMap_nil, wellKnownTemplate, sameFileTemplate, externalTemplate,
    definitionsTemplate, ViewModel.title, ViewModel.libraries, ViewModel.invalidation,
    lines, List.map_cons, List.map_nil, List.intercalate_cons_cons, List.intercalate_singleton]
  repeat rw [String.toList_ofList]
  decide +kernel

end Template.Bundled

end RpcBindings
