import RpcBindings.Template.Basic

namespace RpcBindings.Template.Bundled

def brace (c : Char) : Char :=
  if c = '«' then '\x7b' else if c = '»' then '\x7d' else c

def ofLines (lines : List String) : String :=
  String.ofList (lines.flatMap fun l => l.toList.map brace ++ ['\n'])

def client : String :=
  ofLines [
    "// Code generated by protoc-gen-connect-vue. DO NOT EDIT.",
    "// Transport and query client shared by the «« service_name »» bindings.",
    "import type « Interceptor, Transport » from \"@connectrpc/connect\";",
    "import « createConnectTransport » from \"@connectrpc/connect-web\";",
    "import « QueryClient » from \"@tanstack/vue-query\";",
    "",
    "const interceptors: Interceptor[] = [];",
    "let baseUrl = «« config.base_url | tojson »»;",
    "let transport: Transport = createConnectTransport(« baseUrl, interceptors »);",
    "",
    "function rebuildTransport(): void «",
    "  transport = createConnectTransport(« baseUrl, interceptors »);",
    "»",
    "",
    "/** Point every generated call at a different server. */",
    "export function setBaseUrl(url: string): void «",
    "  baseUrl = url;",
    "  rebuildTransport();",
    "»",
    "",
    "/** Register an interceptor (auth headers, logging) for all calls. */",
    "export function addInterceptor(interceptor: Interceptor): void «",
    "  interceptors.push(interceptor);",
    "  rebuildTransport();",
    "»",
    "",
    "export function getTransport(): Transport «",
    "  return transport;",
    "»",
    "",
    "export const queryClient = new QueryClient(«",
    "  defaultOptions: «",
    "    queries: «",
    "      staleTime: «« config.query_stale_time »»,",
    "    »,",
    "  »,",
    "»);"]

def api : String :=
  ofLines [
    "// Code generated by protoc-gen-connect-vue. DO NOT EDIT.",
    "// Vue bindings for «« service_name »».",
    "import « computed, toValue, type MaybeRefOrGetter » from \"vue\";",
    "import «",
    "  useInfiniteQuery,",
    "  useMutation,",
    "  useQuery,",
    "  useQueryClient,",
    "  type QueryClient,",
    "» from \"@tanstack/vue-query\";",
    "import « callUnaryMethod, createConnectQueryKey » from \"@connectrpc/connect-query\";",
    "import type « PartialMessage » from \"@bufbuild/protobuf\";",
    "«% if wkt_imports %»",
    "import « «« wkt_imports | join(\", \") »» » from \"@bufbuild/protobuf\";",
    "«% endif %»",
    "«% if local_imports %»",
    "import « «« local_imports | join(\", \") »» » from \"«« config.output_root »»/«« proto_pb_file »»\";",
    "«% endif %»",
    "«% for external in external_imports %»",
    "import « «« external.types | join(\", \") »» » from \"«« external.path »»\";",
    "«% endfor %»",
    "«% if rpcs | selectattr(\"is_unary\") | list %»",
    "import * as methods from \"«« config.output_root »»/«« connect_query_file »»\";",
    "«% endif %»",
    "import « getTransport » from \"./client\";",
    "",
    "/** Invalidate every cached query whose resource key contains `resource`. */",
    "export function invalidateResource(queryClient: QueryClient, resource: string): Promise<void> «",
    "  return queryClient.invalidateQueries(«",
    "    predicate: (query) => String(query.meta?.resource ?? \"\").includes(resource),",
    "  »);",
    "»",
    "«% for rpc in rpcs %»",
    "",
    "«% include \"rpc\" %»",
    "«% endfor %»"]

def rpc : String :=
  ofLines [
    "«% if rpc.is_unary %»",
    "export function «« rpc.function_name »»(input: PartialMessage<«« rpc.input_type »»> = «»): Promise<«« rpc.output_type »»> «",
    "  return callUnaryMethod(methods.«« rpc.query_definition_name »», input, « transport: getTransport() »);",
    "»",
    "«% else %»",
    "// «« rpc.function_name »»: streaming RPC, no query binding is generated.",
    "// Call it through a Connect client created with getTransport().",
    "«% endif %»",
    "«% if rpc.is_paginated %»",
    "",
    "export function «« rpc.hook_name »»(",
    "  input: MaybeRefOrGetter<PartialMessage<«« rpc.input_type »»>>,",
    "  pageParamKey: keyof PartialMessage<«« rpc.input_type »»>,",
    "  getNextPageParam: (lastPage: «« rpc.output_type »») => unknown,",
    ") «",
    "  return useInfiniteQuery(«",
    "    queryKey: computed(() => createConnectQueryKey(methods.«« rpc.query_definition_name »», toValue(input))),",
    "    queryFn: (« pageParam, signal ») =>",
    "      callUnaryMethod(",
    "        methods.«« rpc.query_definition_name »»,",
    "        « ...toValue(input), ...(pageParam === undefined ? «» : « [pageParamKey]: pageParam ») »,",
    "        « transport: getTransport(), callOptions: « signal » »,",
    "      ),",
    "    initialPageParam: undefined as unknown,",
    "    getNextPageParam,",
    "    meta: « resource: \"«« rpc.resource »»\" »,",
    "  »);",
    "»",
    "«% elif rpc.is_query %»",
    "",
    "export function «« rpc.hook_name »»(",
    "  input: MaybeRefOrGetter<PartialMessage<«« rpc.input_type »»>> = «»,",
    "  options: « enabled?: MaybeRefOrGetter<boolean> » = «»,",
    ") «",
    "  return useQuery(«",
    "    queryKey: computed(() => createConnectQueryKey(methods.«« rpc.query_definition_name »», toValue(input))),",
    "    queryFn: (« signal ») =>",
    "      callUnaryMethod(methods.«« rpc.query_definition_name »», toValue(input), «",
    "        transport: getTransport(),",
    "        callOptions: « signal »,",
    "      »),",
    "    enabled: computed(() => toValue(options.enabled) ?? true),",
    "    meta: « resource: \"«« rpc.resource »»\" »,",
    "  »);",
    "»",
    "«% elif rpc.is_unary %»",
    "",
    "export function «« rpc.hook_name »»() «",
    "  const queryClient = useQueryClient();",
    "  return useMutation(«",
    "    mutationFn: (input: PartialMessage<«« rpc.input_type »»>) =>",
    "      callUnaryMethod(methods.«« rpc.query_definition_name »», input, « transport: getTransport() »),",
    "    onSuccess: () => invalidateResource(queryClient, \"«« rpc.resource »»\"),",
    "  »);",
    "»",
    "«% endif %»"]

def index : String :=
  ofLines [
    "// Code generated by protoc-gen-connect-vue. DO NOT EDIT.",
    "export * from \"./client\";",
    "export * from \"./api\";"]

end RpcBindings.Template.Bundled
