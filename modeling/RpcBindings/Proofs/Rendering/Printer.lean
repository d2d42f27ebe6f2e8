import RpcBindings.Template.Bundled
import RpcBindings.ViewModel

namespace RpcBindings

/-- Lines as text, with line breaks between them and braces in place of angle quotes. -/
def lines (ls : List String) : String :=
  String.ofList (['\n'].intercalate (ls.map fun l => l.toList.map Template.Bundled.brace))

/-- A name that the bindings of a method mention. -/
inductive Slot where
  | functionName
  | hookName
  | definitionName
  | resource
  | inputType
  | outputType
deriving DecidableEq, Repr

/-- Text with gaps: pieces that a gap follows, and the piece at the end, each as its lines. -/
structure Layout where
  pieces : List (List String × Slot)
  last : List String
deriving DecidableEq, Repr

def Layout.fill (names : Slot → String) (l : Layout) : String :=
  String.join (l.pieces.map fun piece => lines piece.1 ++ names piece.2) ++ lines l.last

def functionLayout : Layout where
  pieces := [
    (["export function "], .functionName),
    (["(input: PartialMessage<"], .inputType),
    (["> = «»): Promise<"], .outputType),
    (["> «", "  return callUnaryMethod(methods."], .definitionName)]
  last := [", input, « transport: getTransport() »);", "»", ""]

def streamingLayout : Layout where
  pieces := [(["// "], .functionName)]
  last := [
    ": streaming RPC, no query binding is generated.",
    "// Call it through a Connect client created with getTransport().",
    ""]

inductive Hook where
  | query
  | infiniteQuery
  | mutation
deriving DecidableEq, Repr

namespace Hook

def queryLayout : Layout where
  pieces := [
    (["", "export function "], .hookName),
    (["(", "  input: MaybeRefOrGetter<PartialMessage<"], .inputType),
    ([">> = «»,",
      "  options: « enabled?: MaybeRefOrGetter<boolean> » = «»,",
      ") «",
      "  return useQuery(«",
      "    queryKey: computed(() => createConnectQueryKey(methods."], .definitionName),
    ([", toValue(input))),",
      "    queryFn: (« signal ») =>",
      "      callUnaryMethod(methods."], .definitionName),
    ([", toValue(input), «",
      "        transport: getTransport(),",
      "        callOptions: « signal »,",
      "      »),",
      "    enabled: computed(() => toValue(options.enabled) ?? true),",
      "    meta: « resource: \""], .resource)]
  last := ["\" »,", "  »);", "»", ""]

def infiniteQueryLayout : Layout where
  pieces := [
    (["", "export function "], .hookName),
    (["(", "  input: MaybeRefOrGetter<PartialMessage<"], .inputType),
    ([">>,", "  pageParamKey: keyof PartialMessage<"], .inputType),
    ([">,", "  getNextPageParam: (lastPage: "], .outputType),
    ([") => unknown,",
      ") «",
      "  return useInfiniteQuery(«",
      "    queryKey: computed(() => createConnectQueryKey(methods."], .definitionName),
    ([", toValue(input))),",
      "    queryFn: (« pageParam, signal ») =>",
      "      callUnaryMethod(",
      "        methods."], .definitionName),
    ([",",
      "        « ...toValue(input), ...(pageParam === undefined ? «» : « [pageParamKey]: pageParam ») »,",
      "        « transport: getTransport(), callOptions: « signal » »,",
      "      ),",
      "    initialPageParam: undefined as unknown,",
      "    getNextPageParam,",
      "    meta: « resource: \""], .resource)]
  last := ["\" »,", "  »);", "»", ""]

def mutationLayout : Layout where
  pieces := [
    (["", "export function "], .hookName),
    (["() «",
      "  const queryClient = useQueryClient();",
      "  return useMutation(«",
      "    mutationFn: (input: PartialMessage<"], .inputType),
    ([">) =>", "      callUnaryMethod(methods."], .definitionName),
    ([", input, « transport: getTransport() »),",
      "    onSuccess: () => invalidateResource(queryClient, \""], .resource)]
  last := ["\"),", "  »);", "»", ""]

def layout : Hook → Layout
  | query => queryLayout
  | infiniteQuery => infiniteQueryLayout
  | mutation => mutationLayout

end Hook

/-- The bindings of a method: a function and its hook, or a remark where there is no hook. -/
def bindings (names : Slot → String) : Option Hook → String
  | some hook => functionLayout.fill names ++ hook.layout.fill names
  | none => streamingLayout.fill names

namespace Rpc

def names (r : Rpc) : Slot → String
  | .functionName => r.functionName
  | .hookName => r.hookName
  | .definitionName => r.queryDefinitionName
  | .resource => r.resource
  | .inputType => r.inputType
  | .outputType => r.outputType

def hook? (r : Rpc) : Option Hook :=
  if r.isPaginated then some .infiniteQuery
  else if r.isQuery then some .query
  else if r.isUnary then some .mutation
  else none

/-- What is printed for a method, whatever its flags. -/
def text (r : Rpc) : String :=
  (if r.isUnary then functionLayout else streamingLayout).fill r.names ++
    (r.hook?.map fun hook => hook.layout.fill r.names).getD ""

end Rpc

def importLine (names : List String) (path : String) : String :=
  lines ["import « "] ++ ", ".intercalate names ++ lines [" » from \""] ++ path ++ lines ["\";", ""]

def importLine? (names : List String) (path : String) : String :=
  if names.isEmpty then "" else importLine names path

def Config.modulePath (config : Config) (file : String) : String := config.outputRoot ++ "/" ++ file

namespace ViewModel

def title : String :=
  lines ["// Code generated by protoc-gen-connect-vue. DO NOT EDIT.", "// Vue bindings for "]

def libraries : String :=
  lines [
    ".",
    "import « computed, toValue, type MaybeRefOrGetter » from \"vue\";",
    "import «",
    "  useInfiniteQuery,",
    "  useMutation,",
    "  useQuery,",
    "  useQueryClient,",
    "  type QueryClient,",
    "» from \"@tanstack/vue-query\";",
    "import « callUnaryMethod, createConnectQueryKey » from \"@connectrpc/connect-query\";",
    "import type « PartialMessage » from \"@bufbuild/protobuf\";",
    ""]

def invalidation : String :=
  lines [
    "import « getTransport » from \"./client\";",
    "",
    "/** Invalidate every cached query whose resource key contains `resource`. */",
    "export function invalidateResource(queryClient: QueryClient, resource: string): Promise<void> «",
    "  return queryClient.invalidateQueries(«",
    "    predicate: (query) => String(query.meta?.resource ?? \"\").includes(resource),",
    "  »);",
    "»",
    ""]

def definitionsLine (vm : ViewModel) (config : Config) : String :=
  if vm.rpcs.any (·.isUnary) then
    lines ["import * as methods from \""] ++ config.modulePath vm.connectQueryFile ++ lines ["\";", ""]
  else ""

def preamble (vm : ViewModel) (config : Config) : String :=
  title ++ vm.serviceName ++ libraries ++
    importLine? vm.imports.wellKnown "@bufbuild/protobuf" ++
    importLine? vm.imports.sameFile (config.modulePath vm.protoPbFile) ++
    String.join (vm.imports.external.map fun (path, types) => importLine types path) ++
    vm.definitionsLine config ++ invalidation

def apiText (vm : ViewModel) (config : Config) : String :=
  vm.preamble config ++ String.join (vm.rpcs.map fun r => "\n" ++ r.text)

end ViewModel

end RpcBindings
