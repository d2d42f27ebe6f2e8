import RpcBindings.Proofs.Json.Numbers
import RpcBindings.Proofs.Rendering.Bundled

namespace RpcBindings

open Template
open Template.Bundled

namespace Config

def clientTitle : String :=
  lines ["// Code generated by protoc-gen-connect-vue. DO NOT EDIT.",
    "// Transport and query client shared by the "]

def clientImports : String :=
  lines [
    " bindings.",
    "import type « Interceptor, Transport » from \"@connectrpc/connect\";",
    "import « createConnectTransport » from \"@connectrpc/connect-web\";",
    "import « QueryClient » from \"@tanstack/vue-query\";",
    "",
    "const interceptors: Interceptor[] = [];",
    "let baseUrl = "]

def clientFunctions : String :=
  lines [
    ";",
    "let transport: Transport = createConnectTransport(« baseUrl, interceptors »);",
    "",
    "function rebuildTransport(): void «",
    "  transport = createConnectTransport(« baseUrl, interceptors »);",
    "»",
    "",
    "/** Point every generated call at a different server. */",
    "export function setBaseUrl(url: string): void «",
    "  baseUrl = url;",
    "  rebuildTransport();",
    "»",
    "",
    "/** Register an interceptor (auth headers, logging) for all calls. */",
    "export function addInterceptor(interceptor: Interceptor): void «",
    "  interceptors.push(interceptor);",
    "  rebuildTransport();",
    "»",
    "",
    "export function getTransport(): Transport «",
    "  return transport;",
    "»",
    "",
    "export const queryClient = new QueryClient(«",
    "  defaultOptions: «",
    "    queries: «",
    "      staleTime: "]

def clientEnd : String :=
  lines [
    ",",
    "    »,",
    "  »,",
    "»);",
    ""]

def baseUrlLiteral (config : Config) : String := Json.literal Json.Repertoire.markup config.baseUrl

def staleTimeText (config : Config) : String := toString (config.queryStaleTime : Int)

end Config

def indexText : String :=
  lines [
    "// Code generated by protoc-gen-connect-vue. DO NOT EDIT.",
    "export * from \"./client\";",
    "export * from \"./api\";",
    ""]

namespace Template.Bundled

def clientTemplate : Template :=
  .text Config.clientTitle.toList <|
  .output (.name "service_name") <|
  .text Config.clientImports.toList <|
  .output (.filter "tojson" (entry "config" "base_url") .nil) <|
  .text Config.clientFunctions.toList <|
  .output (entry "config" "query_stale_time") <|
  .text Config.clientEnd.toList <|
  .done

set_option maxRecDepth 10000 in
theorem parse_client : parse client = .ok clientTemplate := by
  rw [parse, piecesOf, client, toList_ofLines, clientTemplate]
  simp only [List.flatMap_cons, List.flatMap_nil, Config.clientTitle, Config.clientImports,
    Config.clientFunctions, Config.clientEnd, lines, List.map_cons, List.map_nil,
    List.intercalate_cons_cons, List.intercalate_singleton]
  repeat rw [String.toList_ofList]
  decide +kernel

set_option maxRecDepth 10000 in
theorem parse_index : parse index = .ok (.text indexText.toList .done) := by
  rw [parse, piecesOf, index, toList_ofLines, indexText]
  simp only [List.flatMap_cons, List.flatMap_nil, lines, List.map_cons, List.map_nil,
    List.intercalate_cons_cons, List.intercalate_singleton]
  repeat rw [String.toList_ofList]
  decide +kernel

end Template.Bundled

theorem Template.Value.print_int {n : Int} (h : Json.ShortInt n) : (Value.int n).print = .ok (toString n) :=
  if_pos (decide_eq_true h)

theorem Template.Value.print_longInt {n : Int} (h : ¬Json.ShortInt n) : (Value.int n).print = .error .tooManyDigits :=
  if_neg (Bool.not_eq_true _ ▸ decide_eq_false h)

namespace ViewModel

variable (vm : ViewModel) (config : Config)

/-- The client: it mentions the service, the base URL and how long results stay fresh. -/
def clientText : String :=
  Config.clientTitle ++ vm.serviceName ++ Config.clientImports ++ config.baseUrlLiteral ++
    Config.clientFunctions ++ config.staleTimeText ++ Config.clientEnd

/-- All files of a service; of files with one name the last text stands. -/
def files : RenderedFiles :=
  RenderedFiles.ofList [(config.clientFile, vm.clientText config), (config.apiFile, vm.apiText config),
    (config.indexFile, indexText)]

theorem renders_client (hstale : Json.ShortInt config.queryStaleTime)
    {embedded : Env → Value → Except Template.Error String} :
    Renders embedded (vm.context config) clientTemplate (vm.clientText config) := by
  have hend : Renders embedded (vm.context config) (.output (entry "config" "query_stale_time")
      (.text Config.clientEnd.toList .done)) (config.staleTimeText ++ Config.clientEnd) :=
    .output rfl (Value.print_int hstale) (.last _)
  rw [clientTemplate, clientText]
  simp only [String.append_assoc]
  exact .text (.output rfl rfl (.text (.output rfl rfl (.text hend _)) _)) _

theorem render_client (hstale : Json.ShortInt config.queryStaleTime) :
    Template.render Rendering.bundled (vm.context config) "client" = .ok (vm.clientText config) := by
  have hs : Rendering.bundled.lookup "client" = some client := rfl
  rw [Template.render, renderKey, hs]
  exact bind_eq_ok.2 ⟨clientTemplate, parse_client, bind_eq_ok.2 ⟨_, vm.renders_client config hstale, rfl⟩⟩

theorem render_index : Template.render Rendering.bundled [] "index" = .ok indexText := by
  have hs : Rendering.bundled.lookup "index" = some index := rfl
  have hrenders {embedded : Env → Value → Except Template.Error String} :
      Renders embedded [] (.text indexText.toList .done) indexText := .last _
  rw [Template.render, renderKey, hs]
  exact bind_eq_ok.2 ⟨_, parse_index, bind_eq_ok.2 ⟨_, hrenders, rfl⟩⟩

theorem files_bundled (hstale : Json.ShortInt config.queryStaleTime) :
    Rendering.files Rendering.bundled config vm = .ok (vm.files config) := by
  have hsources : Rendering.checkSources Rendering.bundled = .ok () := by decide +kernel
  have hclient := congrArg (Except.mapError Rendering.Error.template) (vm.render_client config hstale)
  have hapi := congrArg (Except.mapError Rendering.Error.template) (vm.render_api config)
  have hindex := congrArg (Except.mapError Rendering.Error.template) render_index
  exact bind_eq_ok.2 ⟨(), hsources, bind_eq_ok.2 ⟨_, hclient, bind_eq_ok.2 ⟨_, hapi, bind_eq_ok.2
    ⟨_, hindex, rfl⟩⟩⟩⟩

/-- A time with more digits than are printed has no client. -/
theorem files_bundled_of_long (hstale : ¬Json.ShortInt config.queryStaleTime) :
    Rendering.files Rendering.bundled config vm = .error (.template .tooManyDigits) := by
  have hfails {embedded : Env → Value → Except Template.Error String} :
      Fails embedded (vm.context config) clientTemplate .tooManyDigits := by
    have hend : Fails embedded (vm.context config) (.output (entry "config" "query_stale_time")
        (.text Config.clientEnd.toList .done)) .tooManyDigits :=
      fails_of_print rfl (Value.print_longInt hstale)
    exact ((((hend.text _).output rfl rfl).text _).output rfl rfl).text _
  have hs : Rendering.bundled.lookup "client" = some client := rfl
  have hclient : Template.render Rendering.bundled (vm.context config) "client" = .error .tooManyDigits := by
    rw [Template.render, renderKey, hs]
    exact bind_eq_error.2 (.inr ⟨clientTemplate, parse_client, bind_eq_error.2 (.inl hfails)⟩)
  have hsources : Rendering.checkSources Rendering.bundled = .ok () := by decide +kernel
  have htold := congrArg (Except.mapError Rendering.Error.template) hclient
  exact bind_eq_error.2 (.inr ⟨(), hsources, bind_eq_error.2 (.inl htold)⟩)

end ViewModel

end RpcBindings
