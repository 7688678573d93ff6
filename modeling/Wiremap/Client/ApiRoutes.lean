import Wiremap.Client.Api

/-! Requests between the client and the handlers: from the URL to the browser's request, and
through the routes of the server to the call of a service. -/
namespace Wiremap.Client.Api

open Wiremap.Library Wiremap.Library.Text Wiremap.Library.Routes
open Wiremap.Library.PercentEncoding (encode)
open Wiremap.Library.UrlPath (target segments sent Dotless)
open Wiremap.Handler.KubeClusterHandler (Query query defaultQuery)
open Wiremap.Handler.Router

abbrev Server := String → List String → Outcome Endpoint

/-- What a server makes of a request, `none` where it has no handler for it. -/
def received (serve : Server) (req : Request) : Option (Except AppError Call) :=
  (segments (target req.url).1).bind fun segs =>
    match serve req.method segs with
    | .handled endpoint params =>
        some (handle params (FormEncoding.parse (target req.url).2) req.body endpoint)
    | .redirected _ => none
    | .notFound => none

def pathOf (parts : List String) : String := join '/' ("" :: parts.map encode)

/-! ### URLs -/

theorem free_encode {c : Char} (hc : c ∈ ['#', '?', '/']) (s : String) : Free c (encode s) := by
  have hplain : c ≠ '%' ∧ PercentEncoding.hexValue c = none ∧
      PercentEncoding.unreserved c = false := by
    simp only [List.mem_cons, List.not_mem_nil, or_false] at hc
    rcases hc with rfl | rfl | rfl <;> decide
  exact PercentEncoding.encode_free hplain.1 hplain.2.1 hplain.2.2 s

theorem free_pathOf {c : Char} (hc : c ∈ ['#', '?']) (parts : List String) :
    Free c (pathOf parts) := by
  have hother : c ≠ '/' ∧ c ∈ ['#', '?', '/'] := by
    simp only [List.mem_cons, List.not_mem_nil, or_false] at hc
    rcases hc with rfl | rfl <;> decide
  refine UrlPath.free_join hother.1 fun part hpart => ?_
  rcases List.mem_cons.mp hpart with rfl | hpart
  · simp [Free]
  · obtain ⟨text, -, rfl⟩ := List.mem_map.mp hpart
    exact free_encode hother.2 text

theorem segments_pathOf (parts : List String) :
    segments (pathOf parts) = some ("" :: parts.flatMap (split '/')) := by
  have hempty : encode "" = "" := by decide
  have hpath : pathOf parts = join '/' (("" :: parts).map encode) := by
    rw [List.map_cons, hempty, pathOf]
  rw [hpath, UrlPath.segments_join_encode (by simp)]
  rfl

structure Sends (req : Request) (parts : List String) (params : Query) : Prop where
  path : (target req.url).1 = sent parts
  query : FormEncoding.parse (target req.url).2 = params

section

variable {req : Request} {parts : List String} {params : Query}

theorem sends_path (hurl : req.url = pathOf parts) : Sends req parts [] := by
  have htarget : target req.url = (sent parts, "") := by
    rw [hurl]
    exact UrlPath.target_join_encode (free_pathOf (by decide) parts)
      (FormEncoding.cut_of_free (free_pathOf (by decide) parts))
  rw [Prod.ext_iff] at htarget
  exact ⟨htarget.1, by rw [htarget.2]; rfl⟩

theorem sends_query {text : String} (hfree : Free '#' text)
    (hurl : req.url = pathOf parts ++ "?" ++ text) :
    Sends req parts (FormEncoding.parse text) := by
  have htarget : target req.url = (sent parts, text) := by
    rw [hurl]
    refine UrlPath.target_join_encode ?_
      (FormEncoding.cut_append (free_pathOf (by decide) parts) text)
    exact FormEncoding.free_append
      (FormEncoding.free_append (free_pathOf (by decide) parts) (by decide)) hfree
  rw [Prod.ext_iff] at htarget
  exact ⟨htarget.1, by rw [htarget.2]⟩

theorem free_searchParams (params : Query) : Free '#' (searchParams params) := by
  refine UrlPath.free_join (by decide) fun part hpart => ?_
  obtain ⟨pair, -, rfl⟩ := List.mem_map.mp hpart
  have hfree : ∀ s, Free '#' (FormEncoding.encode s) :=
    FormEncoding.encode_free (by decide) (by decide) (by decide) (by decide)
  exact FormEncoding.serializePair_free hfree (by decide) pair

theorem sends_searchParams (hurl : req.url = pathOf parts ++ "?" ++ searchParams params) : Sends req parts params := by
  have hsends := sends_query (free_searchParams params) hurl
  rwa [searchParams, FormEncoding.parse_serialize] at hsends

def words : List String :=
  ["api", "hosts", "containers", "networks", "fs", "read", "write", "env", "k8s", "clusters",
    "topology", "kinds", "objects", "counts", "resources", "scale", "restart", "trigger",
    "suspend", "nodes", "cordon", "drain", "namespaces", "pods", "ws", "exec"]

theorem plain_word {word : String} (h : word ∈ words) : encode word = word := by
  revert word
  decide

/-- The parameter that names a host, which is left out for the first one. -/
def hostPairs (host : String) : Query := if host = "" then [] else [("host", host)]

theorem sends_components (hkeys : ∀ pair ∈ params, FormEncoding.encode pair.1 = pair.1)
    (hurl : req.url = pathOf parts ++ "?" ++ join '&' (params.map FormEncoding.writeComponent)) :
    Sends req parts params := by
  have hfree : Free '#' (join '&' (params.map FormEncoding.writeComponent)) := by
    refine UrlPath.free_join (by decide) fun part hpart => ?_
    obtain ⟨pair, hpair, rfl⟩ := List.mem_map.mp hpart
    refine FormEncoding.free_append (FormEncoding.free_append ?_ (by decide))
      (free_encode (by decide) pair.2)
    rw [← hkeys pair hpair]
    exact FormEncoding.encode_free (by decide) (by decide) (by decide) (by decide) pair.1
  have hsends := sends_query hfree hurl
  rwa [FormEncoding.parse_components hkeys] at hsends

theorem sends_hostParam {host : String}
    (hurl : req.url = pathOf parts ++ hostParam host) : Sends req parts (hostPairs host) := by
  unfold hostParam at hurl
  unfold hostPairs
  split at hurl
  · rename_i hempty
    rw [if_pos hempty]
    exact sends_path (by simpa using hurl)
  · rename_i hhost
    rw [if_neg hhost]
    refine sends_components (by simp; decide) ?_
    rw [hurl]
    apply String.toList_inj.mp
    simp [FormEncoding.writeComponent]

end

/-! ### What each call sends -/

namespace Asked

def clusterParts (cluster : String) (rest : List String) : List String :=
  "api" :: "k8s" :: "clusters" :: cluster :: rest

def containerParts (id : String) (rest : List String) : List String :=
  "api" :: "containers" :: id :: rest

def targetParts (t : KubeTarget) (rest : List String) : List String :=
  clusterParts t.cluster ("resources" :: t.kind :: t.name :: rest)

def targetPairs (t : KubeTarget) : Query := [("group", t.group), ("namespace", t.ns.getD "")]

def parts : Asked → List String
  | getHosts => ["api", "hosts"]
  | getContainers _ => ["api", "containers"]
  | inspectContainer _ id => containerParts id []
  | getNetworks _ => ["api", "networks"]
  | inspectNetwork _ id => ["api", "networks", id]
  | listDir _ id _ => containerParts id ["fs"]
  | readFile _ id _ => containerParts id ["fs", "read"]
  | writeFile _ id _ _ => containerParts id ["fs", "write"]
  | updateEnv _ id _ => containerParts id ["env"]
  | getClusters => ["api", "k8s", "clusters"]
  | getTopology cluster _ => clusterParts cluster ["topology"]
  | getResource t | update t _ | remove t => targetParts t []
  | getKinds cluster => clusterParts cluster ["kinds"]
  | getObjects cluster _ _ _ _ _ => clusterParts cluster ["objects"]
  | getCounts cluster _ _ => clusterParts cluster ["counts"]
  | getPod cluster ns name => clusterParts cluster ["namespaces", ns, "pods", name]
  | scale t _ => targetParts t ["scale"]
  | restart t => targetParts t ["restart"]
  | trigger t => targetParts t ["trigger"]
  | suspend t _ => targetParts t ["suspend"]
  | cordon cluster node _ => clusterParts cluster ["nodes", node, "cordon"]
  | drain cluster node => clusterParts cluster ["nodes", node, "drain"]
  | openShell _ id => ["ws", "exec", id]
  | openPodShell cluster ns pod _ => ["ws", "k8s", "exec", cluster, ns, pod]

def pairs : Asked → Query
  | getContainers host | inspectContainer host _ | getNetworks host | inspectNetwork host _
  | writeFile host _ _ _ | updateEnv host _ _ | openShell host _ => hostPairs host
  | listDir host _ path | readFile host _ path => ("path", path) :: hostPairs host
  | getTopology _ view => topologyQuery view
  | getResource t | update t _ | remove t | scale t _ | restart t | trigger t | suspend t _ =>
      targetPairs t
  | getObjects _ group version resource ns continueToken =>
      [("group", group), ("version", version), ("resource", resource), ("namespace", ns),
        ("continue", continueToken)]
  | getCounts _ ns kinds => [("namespace", ns), ("kinds", join ',' kinds)]
  | openPodShell _ _ _ container => [("container", container)]
  | getHosts | getClusters | getKinds _ | getPod _ _ _ | cordon _ _ _ | drain _ _ => []

def endpoint : Asked → Endpoint
  | getHosts => .hosts
  | getContainers _ => .listContainers
  | inspectContainer _ _ => .inspectContainer
  | getNetworks _ => .listNetworks
  | inspectNetwork _ _ => .inspectNetwork
  | listDir _ _ _ => .listDir
  | readFile _ _ _ => .readFile
  | writeFile _ _ _ _ => .writeFile
  | updateEnv _ _ _ => .updateEnv
  | getClusters => .listClusters
  | getTopology _ _ => .topology
  | getResource _ => .getResource
  | getKinds _ => .kinds
  | getObjects _ _ _ _ _ _ => .listObjects
  | getCounts _ _ _ => .counts
  | getPod _ _ _ => .inspectPod
  | update _ _ => .update
  | remove _ => .delete
  | scale _ _ => .scale
  | restart _ => .restart
  | trigger _ => .trigger
  | suspend _ _ => .suspend
  | cordon _ _ _ => .cordon
  | drain _ _ => .drain
  | openShell _ _ => .wsExec
  | openPodShell _ _ _ _ => .wsKubeExec

end Asked

theorem pathOf_cons (part : String) (parts : List String) :
    pathOf (part :: parts) = "/" ++ encode part ++ pathOf parts := by
  apply String.toList_inj.mp
  cases parts with
  | nil => simp [pathOf]
  | cons next parts => simp [pathOf, List.intercalate_cons_cons]

theorem pathOf_word {word : String} (h : word ∈ words) (rest : List String) :
    pathOf (word :: rest) = "/" ++ word ++ pathOf rest := by
  rw [pathOf_cons, plain_word h]

@[simp] theorem pathOf_nil : pathOf [] = "" := by decide

theorem pathOf_clusterParts (cluster : String) (rest : List String) :
    pathOf (Asked.clusterParts cluster rest) = baseUrl ++ (k8sPath cluster ++ pathOf rest) := by
  rw [Asked.clusterParts, pathOf_word (by decide), pathOf_word (by decide), pathOf_word (by decide),
    pathOf_cons]
  apply String.toList_inj.mp
  simp [baseUrl, k8sPath]

theorem pathOf_containerParts {id : String} (hid : Plain id) (rest : List String) :
    pathOf (Asked.containerParts id rest) = baseUrl ++ ("/containers/" ++ id ++ pathOf rest) := by
  rw [Asked.containerParts, pathOf_word (by decide), pathOf_word (by decide), pathOf_cons, hid]
  apply String.toList_inj.mp
  simp [baseUrl]

theorem pathOf_targetParts {t : KubeTarget} (hkind : Plain t.kind) (rest : List String) :
    pathOf (Asked.targetParts t rest) ++ "?" ++ searchParams (Asked.targetPairs t) =
      baseUrl ++ resourcePath t (pathOf rest) := by
  rw [Asked.targetParts, pathOf_clusterParts, pathOf_word (by decide), pathOf_cons, pathOf_cons,
    hkind]
  apply String.toList_inj.mp
  simp [resourcePath, Asked.targetPairs]

theorem pathOf_nodeParts (cluster node : String) {action : String} (h : action ∈ words) :
    pathOf (Asked.clusterParts cluster ["nodes", node, action]) =
      baseUrl ++ nodePath cluster node action := by
  rw [pathOf_clusterParts, pathOf_word (by decide), pathOf_cons, pathOf_word h]
  apply String.toList_inj.mp
  simp [nodePath]

theorem segment_word : ∀ word ∈ words, Segment word := by decide

theorem part_cases {a : Asked} {part : String} (h : part ∈ a.parts) :
    part ∈ words ∨ part ∈ a.encoded ∨ part ∈ a.raw := by
  cases a <;>
    simp only [Asked.parts, Asked.clusterParts, Asked.containerParts, Asked.targetParts,
      Asked.encoded, Asked.raw, List.mem_cons, List.not_mem_nil, or_false, words] at h ⊢ <;>
    grind

theorem Asked.Addressable.segments {a : Asked} (h : a.Addressable) :
    ∀ part ∈ a.parts, Segment part := by
  intro part hpart
  rcases part_cases hpart with hword | hencoded | hraw
  · exact segment_word part hword
  · exact h.encoded part hencoded
  · exact (h.raw part hraw).1

theorem hostParam_append (host : String) (first : String × String) :
    "?" ++ FormEncoding.writeComponent first ++ hostParamAppend host =
      "?" ++ join '&' ((first :: hostPairs host).map FormEncoding.writeComponent) := by
  unfold hostParamAppend hostPairs
  apply String.toList_inj.mp
  split <;> simp [FormEncoding.writeComponent]

theorem plain_hostPairs (host : String) :
    ∀ pair ∈ hostPairs host, FormEncoding.encode pair.1 = pair.1 := by
  unfold hostPairs
  split
  · simp
  · simp only [List.mem_singleton, forall_eq]
    decide

theorem sends_asked {a : Asked} (hplain : ∀ name ∈ a.raw, Plain name) :
    Sends a.request a.parts a.pairs := by
  have htarget : ∀ (t : KubeTarget) (rest : List String), Plain t.kind →
      baseUrl ++ resourcePath t (pathOf rest) =
        pathOf (Asked.targetParts t rest) ++ "?" ++ searchParams (Asked.targetPairs t) :=
    fun t rest hkind => (pathOf_targetParts hkind rest).symm
  have hcomponents : ∀ (host path : String), ∀ pair ∈ ("path", path) :: hostPairs host,
      FormEncoding.encode pair.1 = pair.1 := by
    intro host path
    refine List.forall_mem_cons.mpr ⟨?_, plain_hostPairs host⟩
    exact (by decide : FormEncoding.encode "path" = "path")
  have hends : pathOf ["fs"] = "/fs" ∧ pathOf ["fs", "read"] = "/fs/read" ∧
      pathOf ["fs", "write"] = "/fs/write" ∧ pathOf ["env"] = "/env" := by decide
  obtain ⟨hlist, hread, hwrite, henv⟩ := hends
  cases a with
  | getHosts => exact sends_path rfl
  | getContainers host => exact sends_hostParam rfl
  | inspectContainer host id | writeFile host id path content | updateEnv host id env =>
      refine sends_hostParam ?_
      rw [Asked.parts, pathOf_containerParts (hplain id List.mem_cons_self)]
      apply String.toList_inj.mp
      simp [Asked.request, fetchJson, sendJson, hwrite, henv]
  | getNetworks host => exact sends_hostParam rfl
  | inspectNetwork host id =>
      refine sends_hostParam ?_
      rw [Asked.parts, pathOf_word (by decide), pathOf_word (by decide), pathOf_cons,
        hplain id List.mem_cons_self]
      apply String.toList_inj.mp
      simp [Asked.request, fetchJson, baseUrl]
  | listDir host id path | readFile host id path =>
      refine sends_components (hcomponents host path) ?_
      rw [Asked.parts, pathOf_containerParts (hplain id List.mem_cons_self), Asked.pairs,
        String.append_assoc, ← hostParam_append]
      apply String.toList_inj.mp
      simp [Asked.request, fetchJson, FormEncoding.writeComponent, hlist, hread]
  | getClusters => exact sends_path rfl
  | getTopology cluster view =>
      refine sends_searchParams ?_
      rw [Asked.parts, pathOf_clusterParts, pathOf_word (by decide)]
      apply String.toList_inj.mp
      simp [Asked.request, fetchJson, Asked.pairs]
  | getObjects cluster group version resource ns continueToken =>
      refine sends_searchParams ?_
      rw [Asked.parts, pathOf_clusterParts, pathOf_word (by decide)]
      apply String.toList_inj.mp
      simp [Asked.request, fetchJson, Asked.pairs]
  | getCounts cluster ns kinds =>
      refine sends_searchParams ?_
      rw [Asked.parts, pathOf_clusterParts, pathOf_word (by decide)]
      apply String.toList_inj.mp
      simp [Asked.request, fetchJson, Asked.pairs]
  | getKinds cluster =>
      refine sends_path ?_
      rw [Asked.parts, pathOf_clusterParts, pathOf_word (by decide)]
      apply String.toList_inj.mp
      simp [Asked.request, fetchJson]
  | getPod cluster ns name =>
      refine sends_path ?_
      rw [Asked.parts, pathOf_clusterParts, pathOf_word (by decide), pathOf_cons,
        pathOf_word (by decide), pathOf_cons]
      apply String.toList_inj.mp
      simp [Asked.request, fetchJson]
  | getResource t | update t yaml | remove t =>
      exact sends_searchParams (htarget t [] (hplain t.kind List.mem_cons_self))
  | scale t replicas =>
      exact sends_searchParams (htarget t ["scale"] (hplain t.kind List.mem_cons_self))
  | restart t =>
      exact sends_searchParams (htarget t ["restart"] (hplain t.kind List.mem_cons_self))
  | trigger t =>
      exact sends_searchParams (htarget t ["trigger"] (hplain t.kind List.mem_cons_self))
  | suspend t value =>
      exact sends_searchParams (htarget t ["suspend"] (hplain t.kind List.mem_cons_self))
  | cordon cluster node value =>
      exact sends_path (pathOf_nodeParts cluster node (by decide)).symm
  | drain cluster node => exact sends_path (pathOf_nodeParts cluster node (by decide)).symm
  | openShell host id =>
      refine sends_hostParam ?_
      rw [Asked.parts, pathOf_word (by decide), pathOf_word (by decide), pathOf_cons,
        hplain id List.mem_cons_self]
      apply String.toList_inj.mp
      simp [Asked.request]
  | openPodShell cluster ns pod container =>
      refine sends_components ?_ ?_
      · simp only [Asked.pairs, List.mem_singleton, forall_eq]
        decide
      · rw [Asked.parts, pathOf_word (by decide), pathOf_word (by decide), pathOf_word (by decide),
          pathOf_cons, pathOf_cons, pathOf_cons]
        apply String.toList_inj.mp
        simp [Asked.request, Asked.pairs, FormEncoding.writeComponent]

/-! ### What the server makes of it -/

def Asked.params : Asked → Params
  | inspectContainer _ id | inspectNetwork _ id | listDir _ id _ | readFile _ id _
  | writeFile _ id _ _ | updateEnv _ id _ | openShell _ id => [("id", id)]
  | getTopology cluster _ | getKinds cluster | getObjects cluster _ _ _ _ _
  | getCounts cluster _ _ => [("cluster", cluster)]
  | getResource t | update t _ | remove t | scale t _ | restart t | trigger t | suspend t _ =>
      [("cluster", t.cluster), ("kind", t.kind), ("name", t.name)]
  | getPod cluster ns name => [("cluster", cluster), ("namespace", ns), ("name", name)]
  | cordon cluster node _ | drain cluster node => [("cluster", cluster), ("name", node)]
  | openPodShell cluster ns pod _ => [("cluster", cluster), ("namespace", ns), ("pod", pod)]
  | getHosts | getContainers _ | getNetworks _ | getClusters => []

theorem fit_asked (a : Asked) : fit (form a.endpoint) a.parts = some a.params := by
  cases a <;> rfl

theorem method_asked (a : Asked) : a.request.method = method a.endpoint := by
  cases a <;> rfl

theorem dotless_of_segments {parts : List String} (h : ∀ part ∈ parts, Segment part) :
    Dotless parts := fun part hpart => ⟨(h part hpart).ne_dot, (h part hpart).ne_dots⟩

theorem segments_sent {parts : List String} (h : Dotless parts) :
    segments (sent parts) = some ("" :: parts.flatMap (split '/')) := by
  rw [UrlPath.sent_of_dotless h]
  exact segments_pathOf parts

theorem split_segments {parts : List String} (h : ∀ part ∈ parts, Segment part) :
    parts.flatMap (split '/') = parts := by
  rw [List.flatMap_congr fun part hpart => split_of_free (h part hpart).free]
  simp

/-- A path whose segments stay apart reaches the handler of its form. -/
theorem received_of_fit {serve : Server} (hserve : Serves initRoutes serve) {req : Request}
    {parts : List String} {pairs : Query} (hsends : Sends req parts pairs)
    (hparts : ∀ part ∈ parts, Segment part) {e : Endpoint} (hmethod : req.method = method e)
    {params : Params} (hfit : fit (form e) parts = some params) :
    received serve req = some (handle params pairs req.body e) := by
  have hsegs : segments (target req.url).1 = some ("" :: parts) := by
    rw [hsends.path, segments_sent (dotless_of_segments hparts), split_segments hparts]
  have hfull : fit (.literal "" :: form e) ("" :: parts) = some params := by
    rw [fit, if_pos rfl, hfit]
  have hhandled : serve (method e) ("" :: parts) = .handled e params :=
    hserve.handled initRoutes_unambiguous (mem_initRoutes e) hfull fun param hparam =>
      (hparts _ (mem_of_fit hfit param hparam)).ne_empty
  rw [received, hsegs, Option.bind_some, hmethod, hhandled, hsends.query]

/-! ### What is passed on -/

open Wiremap.Handler (FilesystemHandler.hostOf FilesystemHandler.validatePath
  FilesystemHandler.listDir FilesystemHandler.readFile FilesystemHandler.writeFile)

theorem hostOf_hostPairs (host : String) : FilesystemHandler.hostOf (hostPairs host) = host := by
  unfold hostPairs
  split
  · rename_i hempty
    rw [hempty]
    rfl
  · rfl

theorem hostOf_pathPair (host path : String) :
    FilesystemHandler.hostOf (("path", path) :: hostPairs host) = host := hostOf_hostPairs host

theorem countedKinds_join (ns : String) {kinds : List String}
    (h : ∀ kind ∈ kinds, kind ≠ "" ∧ Free ',' kind) :
    countedKinds [("namespace", ns), ("kinds", join ',' kinds)] = kinds := by
  have hquery : query [("namespace", ns), ("kinds", join ',' kinds)] "kinds" = join ',' kinds := rfl
  rw [countedKinds, hquery]
  cases kinds with
  | nil => rfl
  | cons kind rest =>
      have hne : join ',' (kind :: rest) ≠ "" := by
        intro hempty
        have hsplit := split_join (fun other hother => (h other hother).2) (List.cons_ne_nil kind rest)
        rw [hempty] at hsplit
        have hsingle : [""] = kind :: rest := hsplit
        exact (h kind List.mem_cons_self).1 (List.cons.inj hsingle).1.symm
      rw [if_neg hne]
      exact split_join (fun other hother => (h other hother).2) (List.cons_ne_nil kind rest)

theorem handle_asked {a : Asked} (hjoined : ∀ name ∈ a.joined, name ≠ "" ∧ Free ',' name) :
    handle a.params a.pairs a.request.body a.endpoint = a.answer := by
  cases a with
  | getContainers host | inspectContainer host id | getNetworks host | inspectNetwork host id
  | updateEnv host id env | openShell host id =>
      have hhost := hostOf_hostPairs host
      simp only [Asked.endpoint, Asked.pairs, handle, hhost]
      rfl
  | listDir host id path =>
      have hhost := hostOf_pathPair host path
      have hpath : defaultQuery (("path", path) :: hostPairs host) "path" "/" = path := rfl
      simp only [Asked.endpoint, Asked.pairs, handle, FilesystemHandler.listDir, hhost, hpath,
        Asked.answer, Asked.refusal, Asked.pathRefusal]
      cases FilesystemHandler.validatePath path <;> rfl
  | readFile host id path =>
      have hhost := hostOf_pathPair host path
      have hpath : query (("path", path) :: hostPairs host) "path" = path := rfl
      simp only [Asked.endpoint, Asked.pairs, handle, FilesystemHandler.readFile, hhost, hpath,
        Asked.answer, Asked.refusal, Asked.pathRefusal]
      split
      · rfl
      · cases FilesystemHandler.validatePath path <;> rfl
  | writeFile host id path content =>
      have hhost := hostOf_hostPairs host
      simp only [Asked.endpoint, Asked.pairs, handle, writeBody, Asked.request, sendJson,
        FilesystemHandler.writeFile, hhost, Asked.answer, Asked.refusal, Asked.pathRefusal]
      split
      · rfl
      · cases FilesystemHandler.validatePath path <;> rfl
  | getCounts cluster ns kinds =>
      have hkinds : countedKinds [("namespace", ns), ("kinds", join ',' kinds)] = kinds :=
        countedKinds_join ns hjoined
      simp only [Asked.endpoint, Asked.pairs, handle, hkinds]
      rfl
  | update t yaml =>
      simp only [Asked.endpoint, handle, updateRequest, Asked.request, sendJson, Asked.answer,
        Asked.refusal]
      split <;> rfl
  | scale t replicas =>
      by_cases hint : Asked.IsInt32 replicas
      · have hbody : scaleRequest (some (.replicas replicas)) = .ok replicas.num := if_pos hint
        have hrefusal : (Asked.scale t replicas).refusal = none := if_pos hint
        simp only [Asked.endpoint, handle, Asked.request, sendJson, hbody, Asked.answer, hrefusal]
        rfl
      · have hbody : scaleRequest (some (.replicas replicas)) =
            .error (.badRequest "replicas is required") := if_neg hint
        have hrefusal : (Asked.scale t replicas).refusal =
            some (.badRequest "replicas is required") := if_neg hint
        simp only [Asked.endpoint, handle, Asked.request, sendJson, hbody, Asked.answer, hrefusal]
        rfl
  | getHosts | getClusters | getTopology cluster view | getResource t | getKinds cluster
  | getObjects cluster group version resource ns continueToken | getPod cluster ns name
  | remove t | restart t | trigger t | suspend t value | cordon cluster node value
  | drain cluster node | openPodShell cluster ns pod container => rfl

/-- What the client asks for is what the server is called with, or refuses. -/
theorem asked_received (serve : Server) (hserve : Serves initRoutes serve) (a : Asked)
    (h : a.Addressable) : received serve a.request = some a.answer := by
  have hsends := sends_asked fun name hname => (h.raw name hname).2
  rw [received_of_fit hserve hsends h.segments (method_asked a) (fit_asked a),
    handle_asked h.joined]

/-- A name that no path could hold as it is. -/
def webTarget : KubeTarget := ⟨"kind prod?", "Deployment", "apps", "web", some "shop&co"⟩

theorem asked_received_scale : received (Routes.lookup initRoutes) (Asked.scale webTarget 3).request =
    some (.ok (.scale ⟨"kind prod?", "apps", "Deployment", "shop&co", "web"⟩ 3)) :=
  asked_received (Routes.lookup initRoutes) (serves_lookup initRoutes) (.scale webTarget 3)
    ⟨by decide, by decide, by decide⟩

/-! ### Requests that act on a cluster -/

namespace Asked

/-- The cluster that a request changes something in, or opens a shell in. -/
def actsIn : Asked → Option String
  | update t _ | remove t | scale t _ | restart t | trigger t | suspend t _ => some t.cluster
  | cordon cluster _ _ | drain cluster _ | openPodShell cluster _ _ _ => some cluster
  | _ => none

def front : Asked → List String
  | openPodShell _ _ _ _ => ["ws", "k8s", "exec"]
  | _ => ["api", "k8s", "clusters"]

def back : Asked → List String
  | update t _ | remove t => ["resources", t.kind, t.name]
  | scale t _ => ["resources", t.kind, t.name, "scale"]
  | restart t => ["resources", t.kind, t.name, "restart"]
  | trigger t => ["resources", t.kind, t.name, "trigger"]
  | suspend t _ => ["resources", t.kind, t.name, "suspend"]
  | cordon _ node _ => ["nodes", node, "cordon"]
  | drain _ node => ["nodes", node, "drain"]
  | openPodShell _ ns pod _ => [ns, pod]
  | _ => []

end Asked

theorem parts_of_actsIn {a : Asked} {cluster : String} (h : a.actsIn = some cluster) :
    a.parts = a.front ++ cluster :: a.back := by
  cases a <;> first | cases h; rfl | cases h

theorem none_of_few {a : Asked} {cluster : String} (h : a.actsIn = some cluster) {e : Endpoint}
    (hmethod : method e = method a.endpoint) :
    fit (form e) (a.front ++ a.back) = none ∧ fit (form e) (a.front.dropLast ++ a.back) = none := by
  cases a <;> cases h <;> cases e <;> simp only [Asked.endpoint, method] at hmethod <;>
    first
    | exact absurd hmethod (by decide)
    | simp [form, clusterForm, resourceForm, containerForm, Asked.front, Asked.back, fit]

theorem none_of_two {a : Asked} {cluster : String} (h : a.actsIn = some cluster) {e : Endpoint}
    (hmethod : method e = method a.endpoint) (first second : String) :
    fit (form e) (a.front ++ [first, second] ++ a.back) = none := by
  cases a <;> cases h <;> cases e <;> simp only [Asked.endpoint, method] at hmethod <;>
    first
    | exact absurd hmethod (by decide)
    | simp [form, clusterForm, resourceForm, containerForm, Asked.front, Asked.back, fit]

theorem none_of_many {a : Asked} {cluster : String} (h : a.actsIn = some cluster) {e : Endpoint}
    (hmethod : method e = method a.endpoint) (first second third : String) (more : List String) :
    fit (form e) (a.front ++ first :: second :: third :: more ++ a.back) = none := by
  by_contra hsome
  obtain ⟨params, hfit⟩ := Option.ne_none_iff_exists'.mp hsome
  have hlength := length_of_fit hfit
  cases a <;> cases h <;> cases e <;> simp only [Asked.endpoint, method] at hmethod <;>
    first
    | exact absurd hmethod (by decide)
    | (simp [form, clusterForm, resourceForm, containerForm, Asked.front, Asked.back] at hlength; done)
    | simp [form, clusterForm, Asked.front, Asked.back, fit] at hfit

theorem one_of_fit {a : Asked} {cluster : String} (h : a.actsIn = some cluster) {e : Endpoint}
    (hmethod : method e = method a.endpoint) {between : List String} {params : Params}
    (hfit : fit (form e) (a.front ++ between ++ a.back) = some params) : between.length = 1 := by
  match between with
  | [] =>
      rw [List.append_nil, (none_of_few h hmethod).1] at hfit
      cases hfit
  | [_] => rfl
  | [first, second] =>
      rw [none_of_two h hmethod] at hfit
      cases hfit
  | first :: second :: third :: more =>
      rw [none_of_many h hmethod] at hfit
      cases hfit

/-- Whatever the cluster is called, the request reaches no other object, and no other path: it
reaches its handler if the name is one segment, and none otherwise. -/
structure Delivered (serve : Server) (a : Asked) (cluster : String) : Prop where
  exact : ∀ answer, received serve a.request = some answer → answer = a.answer
  stays : ∀ segs, segments (target a.request.url).1 = some segs →
    ∀ segs', serve a.request.method segs ≠ .redirected segs'
  reaches : cluster ≠ "" → ((received serve a.request).isSome ↔
    Free '/' cluster ∧ cluster ≠ "." ∧ cluster ≠ "..")

def seen (a : Asked) (cluster : String) : List String :=
  if cluster = "." then a.front ++ a.back
  else if cluster = ".." then a.front.dropLast ++ a.back
  else a.front ++ split '/' cluster ++ a.back

theorem segment_front (a : Asked) : ∀ part ∈ a.front, Segment part := by
  cases a <;> simp only [Asked.front] <;> decide

theorem back_ne_nil {a : Asked} {cluster : String} (h : a.actsIn = some cluster) : a.back ≠ [] := by
  cases a <;> cases h <;> simp [Asked.back]

theorem getLast?_seen {a : Asked} {cluster : String} (h : a.actsIn = some cluster) :
    (seen a cluster).getLast? = a.back.getLast? := by
  obtain ⟨part, hpart⟩ := Option.ne_none_iff_exists'.mp
    (mt List.getLast?_eq_none_iff.mp (back_ne_nil h))
  unfold seen
  split
  · rw [List.getLast?_append, hpart, Option.some_or]
  · split <;> rw [List.getLast?_append, hpart, Option.some_or]

theorem segments_seen {a : Asked} {cluster : String} (h : a.actsIn = some cluster)
    (hback : ∀ part ∈ a.back, Segment part) :
    segments (sent a.parts) = some ("" :: seen a cluster) := by
  have hfront := segment_front a
  have hne := back_ne_nil h
  have hlast : ∀ part ∈ a.front.dropLast, Segment part :=
    fun part hpart => hfront part (List.mem_of_mem_dropLast hpart)
  have hboth : ∀ {front : List String}, (∀ part ∈ front, Segment part) →
      segments (sent (front ++ a.back)) = some ("" :: (front ++ a.back)) := by
    intro front hfront
    have hall := List.forall_mem_append.mpr ⟨hfront, hback⟩
    rw [segments_sent (dotless_of_segments hall), split_segments hall]
  obtain ⟨hdot, hdots⟩ := UrlPath.sent_dots (dotless_of_segments hfront)
    (dotless_of_segments hback) hne
  rw [parts_of_actsIn h]
  unfold seen
  split
  · rename_i heq
    rw [heq, hdot, hboth hfront]
  · split
    · rename_i heq
      rw [heq, hdots, hboth hlast]
    · rename_i hne hne'
      have hall : Dotless (a.front ++ cluster :: a.back) :=
        List.forall_mem_append.mpr ⟨dotless_of_segments hfront,
          List.forall_mem_cons.mpr ⟨⟨hne, hne'⟩, dotless_of_segments hback⟩⟩
      rw [segments_sent hall, List.flatMap_append, List.flatMap_cons, split_segments hfront,
        split_segments hback, List.append_assoc]

/-- Only a cluster name that is one segment of the path arrives at a route. -/
theorem clusters_of_fit {a : Asked} {cluster : String} (h : a.actsIn = some cluster) {e : Endpoint}
    (hmethod : method e = method a.endpoint) {params : Params}
    (hfit : fit (form e) (seen a cluster) = some params) :
    Free '/' cluster ∧ cluster ≠ "." ∧ cluster ≠ ".." := by
  unfold seen at hfit
  split at hfit
  · rw [(none_of_few h hmethod).1] at hfit
    cases hfit
  · split at hfit
    · rw [(none_of_few h hmethod).2] at hfit
      cases hfit
    · rename_i hdot hdots
      exact ⟨UrlPath.free_of_length_split (one_of_fit h hmethod hfit), hdot, hdots⟩

theorem seen_of_clusters {a : Asked} {cluster : String} (h : a.actsIn = some cluster)
    (hcluster : Free '/' cluster ∧ cluster ≠ "." ∧ cluster ≠ "..") : seen a cluster = a.parts := by
  rw [seen, if_neg hcluster.2.1, if_neg hcluster.2.2, split_of_free hcluster.1, parts_of_actsIn h]
  simp

theorem fit_of_mem {r : Route Endpoint} (hr : r ∈ initRoutes) {segs : List String} {params : Params}
    (hfit : fit r.path ("" :: segs) = some params) :
    method r.handler = r.method ∧ fit (form r.handler) segs = some params := by
  have hroute := eq_of_mem_initRoutes hr
  have hmethod : r.method = method r.handler := congrArg Route.method hroute
  have hpath : r.path = .literal "" :: form r.handler := congrArg Route.path hroute
  rw [hpath, fit, if_pos rfl] at hfit
  exact ⟨hmethod.symm, hfit⟩

theorem received_acting (serve : Server) {a : Asked} {cluster : String}
    (h : a.actsIn = some cluster) (hback : ∀ part ∈ a.back, Segment part)
    (hraw : ∀ name ∈ a.raw, Plain name) :
    received serve a.request =
      match serve (method a.endpoint) ("" :: seen a cluster) with
      | .handled endpoint params => some (handle params a.pairs a.request.body endpoint)
      | .redirected _ => none
      | .notFound => none := by
  have hsends := sends_asked hraw
  rw [received, hsends.path, segments_seen h hback, Option.bind_some, hsends.query, method_asked]

theorem endpoint_unique {e e' : Endpoint} (hmethod : method e = method e') {segs : List String}
    {params params' : Params} (hfit : fit (form e) segs = some params)
    (hfit' : fit (form e') segs = some params') : e = e' := by
  have hfull : ∀ {e params}, fit (form e) segs = some params →
      (fit (.literal "" :: form e) ("" :: segs)).isSome := by
    intro e params h
    rw [fit, if_pos rfl, h]
    rfl
  exact congrArg Route.handler (initRoutes_unambiguous.unique (mem_initRoutes e)
    (mem_initRoutes e') hmethod (hfull hfit) (hfull hfit'))

theorem handled_acting {serve : Server} (hserve : Serves initRoutes serve) {a : Asked}
    {cluster : String} (h : a.actsIn = some cluster) {e : Endpoint} {params : Params}
    (hhandled : serve (method a.endpoint) ("" :: seen a cluster) = .handled e params) :
    (Free '/' cluster ∧ cluster ≠ "." ∧ cluster ≠ "..") ∧ e = a.endpoint ∧ params = a.params := by
  obtain ⟨r, hr, hmethod, rfl, hfit⟩ := hserve.sound hhandled
  obtain ⟨hsame, hform⟩ := fit_of_mem hr hfit
  rw [hmethod] at hsame
  have hcluster := clusters_of_fit h hsame hform
  rw [seen_of_clusters h hcluster] at hform
  have hendpoint := endpoint_unique hsame hform (fit_asked a)
  rw [hendpoint, fit_asked] at hform
  exact ⟨hcluster, hendpoint, (Option.some.inj hform).symm⟩

theorem action_delivered (serve : Server) (hserve : Serves initRoutes serve) (a : Asked)
    (cluster : String) (hacts : a.actsIn = some cluster) (hback : ∀ part ∈ a.back, Segment part)
    (hraw : ∀ name ∈ a.raw, Plain name) : Delivered serve a cluster := by
  have hreceived := received_acting serve hacts hback hraw
  have hsegs : segments (target a.request.url).1 = some ("" :: seen a cluster) := by
    rw [(sends_asked hraw).path, segments_seen hacts hback]
  constructor
  · intro answer hanswer
    rw [hreceived] at hanswer
    split at hanswer
    · rename_i e params hhandled
      obtain ⟨-, rfl, rfl⟩ := handled_acting hserve hacts hhandled
      have hjoined : ∀ name ∈ a.joined, name ≠ "" ∧ Free ',' name := by
        cases a <;> cases hacts <;> simp [Asked.joined]
      rw [handle_asked hjoined] at hanswer
      exact (Option.some.inj hanswer).symm
    · cases hanswer
    · cases hanswer
  · intro segs hsome segs' hredirected
    rw [hsegs] at hsome
    cases hsome
    rcases hserve.redirected hredirected with hends | ⟨r, hr, hlast⟩
    · have hlast : (seen a cluster).getLast? = some "" := by
        have hconcat := congrArg List.getLast? hends
        obtain ⟨part, hpart⟩ := Option.ne_none_iff_exists'.mp
          (mt List.getLast?_eq_none_iff.mp (back_ne_nil hacts))
        rw [List.getLast?_cons, getLast?_seen hacts, hpart, List.getLast?_concat] at hconcat
        rw [getLast?_seen hacts, hpart]
        exact hconcat
      rw [getLast?_seen hacts] at hlast
      exact (hback "" (List.mem_of_getLast? hlast)).ne_empty rfl
    · rw [eq_of_mem_initRoutes hr] at hlast
      revert hlast
      cases r.handler <;> decide
  · intro hne
    constructor
    · intro hsome
      rw [hreceived] at hsome
      split at hsome
      · rename_i e params hhandled
        exact (handled_acting hserve hacts hhandled).1
      · cases hsome
      · cases hsome
    · intro hcluster
      have hparts : ∀ part ∈ a.parts, Segment part := by
        rw [parts_of_actsIn hacts]
        exact List.forall_mem_append.mpr ⟨segment_front a, List.forall_mem_cons.mpr
          ⟨⟨hne, hcluster.1, hcluster.2.1, hcluster.2.2⟩, hback⟩⟩
      rw [received_of_fit hserve (sends_asked hraw) hparts (method_asked a) (fit_asked a)]
      rfl

def arnTarget : KubeTarget :=
  ⟨"arn:aws:eks:eu-west-1:1:cluster/shop", "Pod", "", "web-0", some "shop"⟩

theorem action_delivered_arn :
    Delivered (Routes.lookup initRoutes) (.remove arnTarget) arnTarget.cluster ∧
      (received (Routes.lookup initRoutes) (Asked.remove arnTarget).request).isSome = false := by
  have h := action_delivered (Routes.lookup initRoutes) (serves_lookup initRoutes)
    (.remove arnTarget) arnTarget.cluster rfl (by decide) (by decide)
  refine ⟨h, Bool.eq_false_iff.mpr fun hsome => ?_⟩
  exact absurd ((h.reaches (by decide)).mp hsome).1 (by decide)

end Wiremap.Client.Api
