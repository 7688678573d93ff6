import Wiremap.Kube.Errors
import Wiremap.Kube.Resources
import Wiremap.Library.Stateful

/-! Taking nodes in and out of scheduling.  A drain cordons the node, lists its pods and
evicts them one by one; whatever the server answers is kept beside the call. -/
namespace Wiremap.Service.NodeActions

open Wiremap.Kube Wiremap.Library

/-- A pod whose eviction was asked for, and the server's refusal if it was refused. -/
structure Eviction where
  ns : String
  name : String
  refused : Option ApiError
  deriving DecidableEq

inductive Call where
  | patchNode (node patch : String) (refused : Option ApiError)
  | listPods (fieldSelector : String) (answer : Except ApiError (List Pod))
  | evict (eviction : Eviction)

/-- What the server answers, each time from the calls it has had so far. -/
structure Server where
  pool : List Call → Option AppError
  patchNode : List Call → String → String → Option ApiError
  listPods : List Call → String → Except ApiError (List Pod)
  evict : List Call → String → String → Option ApiError

abbrev NodeM := EStateM AppError (List Call)

def getCluster (server : Server) : NodeM Unit := do
  match server.pool (← get) with
  | some err => throw err
  | none => return

def patchNode (server : Server) (node patch : String) : NodeM (Option ApiError) := do
  let refused := server.patchNode (← get) node patch
  modify (· ++ [.patchNode node patch refused])
  return refused

def listPods (server : Server) (fieldSelector : String) : NodeM (Except ApiError (List Pod)) := do
  let answer := server.listPods (← get) fieldSelector
  modify (· ++ [.listPods fieldSelector answer])
  return answer

def evict (server : Server) (ns name : String) : NodeM (Option ApiError) := do
  let refused := server.evict (← get) ns name
  modify (· ++ [.evict ⟨ns, name, refused⟩])
  return refused

def unschedulablePatch (unschedulable : Bool) : String :=
  "\x7b\"spec\":\x7b\"unschedulable\":" ++ toString unschedulable ++ "\x7d\x7d"

def setUnschedulable (server : Server) (node : String) (unschedulable : Bool) : NodeM Unit := do
  getCluster server
  match ← patchNode server node (unschedulablePatch unschedulable) with
  | some err => throw (wrapError err ("update node " ++ node))
  | none => return

/-- A value is written with a backslash before each `\`, `,` and `=`. -/
def escapeValue (value : String) : String :=
  .ofList (value.toList.flatMap fun ch => if ch ∈ ['\\', ',', '='] then ['\\', ch] else [ch])

def oneTermEqualSelector (field value : String) : String := field ++ "=" ++ escapeValue value

def mirrorPodAnnotationKey : String := "kubernetes.io/config.mirror"

def evictable (pod : Pod) : Bool :=
  if (pod.annotations.lookup mirrorPodAnnotationKey).isSome then false
  else if pod.phase = "Succeeded" || pod.phase = "Failed" then false
  else !pod.ownerReferences.any fun ref => ref.kind = "DaemonSet"

/-- One pod of the loop; `refused` is what was refused before it. -/
def evictPod (server : Server) (refused : List String) (pod : Pod) : NodeM (List String) := do
  if evictable pod then
    match ← evict server pod.ns pod.name with
    | some err => return refused ++ [s!"{pod.ns}/{pod.name}: {err.text}"]
    | none => return refused
  else return refused

def onNode (node : String) : String := oneTermEqualSelector "spec.nodeName" node

def drain (server : Server) (node : String) : NodeM (List String) := do
  setUnschedulable server node true
  getCluster server
  match ← listPods server (onNode node) with
  | .error err => throw (wrapError err "list pods on node")
  | .ok pods => pods.foldlM (evictPod server) []

/-! ### What a drain may do -/

inductive Spared (pod : Pod) : Prop
  | mirror (h : mirrorPodAnnotationKey ∈ pod.annotations)
  | finished (h : pod.phase = "Succeeded" ∨ pod.phase = "Failed")
  | daemon (h : ∃ ref ∈ pod.ownerReferences, ref.kind = "DaemonSet")

theorem evictable_iff {pod : Pod} : evictable pod ↔ ¬Spared pod := by
  unfold evictable
  constructor
  · intro h hspared
    cases hspared with
    | mirror hmirror => simp [AList.lookup_isSome.mpr hmirror] at h
    | finished hphase => simp [hphase] at h
    | daemon howned =>
        obtain ⟨ref, href, hkind⟩ := howned
        have hany : pod.ownerReferences.any (fun ref => ref.kind = "DaemonSet") :=
          List.any_eq_true.mpr ⟨ref, href, by simp [hkind]⟩
        simp [hany] at h
  · intro h
    have hmirror : ¬(pod.annotations.lookup mirrorPodAnnotationKey).isSome :=
      fun hsome => h (.mirror (AList.lookup_isSome.mp hsome))
    have hphase : ¬(pod.phase = "Succeeded" ∨ pod.phase = "Failed") :=
      fun hfinished => h (.finished hfinished)
    have howned : ∀ ref ∈ pod.ownerReferences, ref.kind ≠ "DaemonSet" :=
      fun ref href hkind => h (.daemon ⟨ref, href, hkind⟩)
    simpa [hmirror, hphase] using howned

instance : DecidablePred Spared := fun pod =>
  decidable_of_iff (evictable pod = false) (by
    rw [← Bool.not_eq_true, evictable_iff, not_not])

def Eviction.pod (eviction : Eviction) : String × String := (eviction.ns, eviction.name)

def Eviction.refusal (eviction : Eviction) : Option String :=
  eviction.refused.map fun err => s!"{eviction.ns}/{eviction.name}: {err.text}"

def Call.eviction? : Call → Option Eviction
  | evict eviction => some eviction
  | _ => none

def evictions (calls : List Call) : List Eviction := calls.filterMap Call.eviction?

def cordon (node : String) (refused : Option ApiError) : Call :=
  .patchNode node (unschedulablePatch true) refused

/-- What a drain comes to: the refused pods or an error, and the calls it made. -/
abbrev Outcome := EStateM.Result AppError (List Call) (List String)

def calls : Outcome → List Call
  | .ok _ made => made
  | .error _ made => made

/-- The answer is what the server says after the calls before. -/
def Call.Answered (server : Server) (before : List Call) : Call → Prop
  | patchNode node patch refused => refused = server.patchNode before node patch
  | listPods fieldSelector answer => answer = server.listPods before fieldSelector
  | evict eviction => eviction.refused = server.evict before eviction.ns eviction.name

def Answered (server : Server) (made : List Call) : Prop :=
  ∀ before call after, made = before ++ call :: after → call.Answered server before

structure Granted (server : Server) (node : String) (pods : List Pod) : Prop where
  reached : server.pool [] = none
  cordoned : server.patchNode [] node (unschedulablePatch true) = none
  reachedAgain : server.pool [cordon node none] = none
  listed : server.listPods [cordon node none] (onNode node) = .ok pods

structure Drained (server : Server) (node : String) (outcome : Outcome) : Prop where
  asked : Answered server (calls outcome)
  granted : (∃ refused made, outcome = .ok refused made) ↔ ∃ pods, Granted server node pods
  /-- Where the server grants both, the calls are those two and then the evictions. -/
  made : ∀ pods, Granted server node pods → calls outcome =
    cordon node none :: .listPods (onNode node) (.ok pods) ::
      (evictions (calls outcome)).map .evict
  /-- No pod is evicted from a node that still takes new ones. -/
  afterCordon : ∀ before eviction after, calls outcome = before ++ .evict eviction :: after →
    cordon node none ∈ before
  /-- Every listed pod that is not spared is evicted once, in turn, and no other pod is. -/
  exact : ∀ pods, .listPods (onNode node) (.ok pods) ∈ calls outcome →
    (evictions (calls outcome)).map Eviction.pod = (pods.filter (¬Spared ·)).map (·.key)
  refused : ∀ refused made, outcome = .ok refused made →
    refused = (evictions made).filterMap Eviction.refusal
  answered : (∃ refused made, outcome = .ok refused made) ↔
    cordon node none ∈ calls outcome ∧
      ∃ pods, .listPods (onNode node) (.ok pods) ∈ calls outcome
  failed : ∀ err made, outcome = .error err made → evictions made = []

/-! ### Single calls -/

section Calls

variable {server : Server} {made : List Call}

theorem getCluster_ok (h : server.pool made = none) : getCluster server made = .ok () made := by
  change (match server.pool made with
    | some err => throw err
    | none => pure () : NodeM Unit) made = _
  rw [h]
  rfl

theorem getCluster_error {err : AppError} (h : server.pool made = some err) :
    getCluster server made = .error err made := by
  change (match server.pool made with
    | some err => throw err
    | none => pure () : NodeM Unit) made = _
  rw [h]
  rfl

theorem patchNode_run (server : Server) (node patch : String) (made : List Call) :
    patchNode server node patch made =
      .ok (server.patchNode made node patch)
        (made ++ [.patchNode node patch (server.patchNode made node patch)]) := rfl

theorem listPods_run (server : Server) (fieldSelector : String) (made : List Call) :
    listPods server fieldSelector made =
      .ok (server.listPods made fieldSelector)
        (made ++ [.listPods fieldSelector (server.listPods made fieldSelector)]) := rfl

theorem evict_run (server : Server) (ns name : String) (made : List Call) :
    evict server ns name made =
      .ok (server.evict made ns name)
        (made ++ [.evict ⟨ns, name, server.evict made ns name⟩]) := rfl

end Calls

theorem answered_nil (server : Server) : Answered server [] := fun before _ _ h =>
  absurd h.symm (by simp)

theorem Answered.snoc {server : Server} {made : List Call} {call : Call}
    (h : Answered server made) (hcall : call.Answered server made) :
    Answered server (made ++ [call]) := by
  intro before other after hsplit
  rcases List.eq_nil_or_concat' after with rfl | ⟨rest, last, rfl⟩
  · obtain ⟨rfl, hlast⟩ := List.append_inj' hsplit rfl
    obtain rfl := List.cons.inj hlast |>.1
    exact hcall
  · rw [← List.cons_append, ← List.append_assoc] at hsplit
    exact h _ _ _ (List.append_inj' hsplit rfl).1

/-! ### The loop over the pods -/

theorem evictPod_spared {server : Server} {pod : Pod} (h : ¬evictable pod)
    (refused : List String) (made : List Call) :
    evictPod server refused pod made = .ok refused made := by
  rw [evictPod, if_neg h]
  rfl

theorem evictPod_evictable (server : Server) {pod : Pod} (h : evictable pod)
    (refused : List String) (made : List Call) :
    ∃ eviction : Eviction, eviction.pod = pod.key ∧ (Call.evict eviction).Answered server made ∧
      evictPod server refused pod made =
        .ok (refused ++ eviction.refusal.toList) (made ++ [.evict eviction]) := by
  refine ⟨⟨pod.ns, pod.name, server.evict made pod.ns pod.name⟩, rfl, rfl, ?_⟩
  rw [evictPod, if_pos h, Stateful.bind_ok (evict_run server pod.ns pod.name made)]
  cases hrefused : server.evict made pod.ns pod.name with
  | none =>
      rw [Eviction.refusal, Option.map_none, Option.toList_none, List.append_nil]
      rfl
  | some err => rfl

theorem evictPods_run (server : Server) (pods : List Pod) (refused : List String)
    {made : List Call} (hmade : Answered server made) :
    ∃ evictions : List Eviction,
      evictions.map Eviction.pod = (pods.filter (¬Spared ·)).map (·.key) ∧
        Answered server (made ++ evictions.map .evict) ∧
        pods.foldlM (evictPod server) refused made =
          .ok (refused ++ evictions.filterMap Eviction.refusal)
            (made ++ evictions.map .evict) := by
  induction pods generalizing refused made with
  | nil =>
      refine ⟨[], rfl, ?_, ?_⟩
      · rwa [List.map_nil, List.append_nil]
      · rw [List.filterMap_nil, List.map_nil, List.append_nil, List.append_nil]
        rfl
  | cons pod rest ih =>
      rw [List.foldlM_cons]
      by_cases h : evictable pod
      · obtain ⟨eviction, hpod, hanswer, hstep⟩ := evictPod_evictable server h refused made
        obtain ⟨evictions, hpods, hanswered, hrun⟩ :=
          ih (refused ++ eviction.refusal.toList) (hmade.snoc hanswer)
        refine ⟨eviction :: evictions, ?_, ?_, ?_⟩
        · rw [List.map_cons, hpod, hpods, List.filter_cons_of_pos (by simpa using evictable_iff.mp h)]
          rfl
        · rwa [List.append_assoc] at hanswered
        · rw [Stateful.bind_ok hstep, hrun]
          cases hrefusal : eviction.refusal <;> simp [hrefusal]
      · obtain ⟨evictions, hpods, hanswered, hrun⟩ := ih refused hmade
        have hspared : Spared pod := by simpa [evictable_iff] using h
        refine ⟨evictions, ?_, hanswered, ?_⟩
        · rw [hpods, List.filter_cons_of_neg (by simpa using hspared)]
        · rw [Stateful.bind_ok (evictPod_spared h refused made), hrun]

/-! ### The drain -/

structure Idle (made : List Call) : Prop where
  noEviction : evictions made = []
  noPods : ∀ fieldSelector pods, .listPods fieldSelector (.ok pods) ∉ made

theorem idle_nil : Idle [] where
  noEviction := rfl
  noPods := by simp

theorem idle_cordon (node : String) (refused : Option ApiError) : Idle [cordon node refused] where
  noEviction := rfl
  noPods := by simp [cordon]

theorem idle_unlisted (node fieldSelector : String) (refused : Option ApiError) (err : ApiError) :
    Idle [cordon node refused, .listPods fieldSelector (.error err)] where
  noEviction := rfl
  noPods := by simp [cordon]

theorem setUnschedulable_run (server : Server) (node : String) :
    (∃ err made, setUnschedulable server node true [] = .error err made ∧ Idle made ∧
      Answered server made ∧ ¬∃ pods, Granted server node pods) ∨
      setUnschedulable server node true [] = .ok () [cordon node none] ∧
        server.pool [] = none ∧ server.patchNode [] node (unschedulablePatch true) = none := by
  unfold setUnschedulable
  cases hpool : server.pool [] with
  | some err =>
      refine .inl ⟨err, [], Stateful.bind_error (getCluster_error hpool), idle_nil,
        answered_nil server, ?_⟩
      rintro ⟨pods, hgranted⟩
      cases hpool.symm.trans hgranted.reached
  | none =>
      rw [Stateful.bind_ok (getCluster_ok hpool), Stateful.bind_ok (patchNode_run _ _ _ _)]
      cases hpatch : server.patchNode [] node (unschedulablePatch true) with
      | some err =>
          refine .inl ⟨_, [cordon node (some err)], rfl, idle_cordon node (some err),
            (answered_nil server).snoc hpatch.symm, ?_⟩
          rintro ⟨pods, hgranted⟩
          cases hpatch.symm.trans hgranted.cordoned
      | none => exact .inr ⟨rfl, rfl, rfl⟩

/-- Either it ends in an error before any pod is known, or it goes through all of them. -/
theorem drain_run (server : Server) (node : String) :
    (∃ err made, drain server node [] = .error err made ∧ Idle made ∧ Answered server made ∧
      ¬∃ pods, Granted server node pods) ∨
      ∃ pods, ∃ evicted : List Eviction, Granted server node pods ∧
        evicted.map Eviction.pod = (pods.filter (¬Spared ·)).map (·.key) ∧
        Answered server
          (cordon node none :: .listPods (onNode node) (.ok pods) :: evicted.map .evict) ∧
        drain server node [] = .ok (evicted.filterMap Eviction.refusal)
          (cordon node none :: .listPods (onNode node) (.ok pods) :: evicted.map .evict) := by
  unfold drain
  rcases setUnschedulable_run server node with ⟨err, made, hcordon, h⟩ | ⟨hcordon, hreached, hpatch⟩
  · exact .inl ⟨err, made, Stateful.bind_error hcordon, h⟩
  have hcordoned : Answered server [cordon node none] := (answered_nil server).snoc hpatch.symm
  rw [Stateful.bind_ok hcordon]
  cases hpool : server.pool [cordon node none] with
  | some err =>
      refine .inl ⟨err, _, Stateful.bind_error (getCluster_error hpool), idle_cordon node none,
        hcordoned, ?_⟩
      rintro ⟨pods, hgranted⟩
      cases hpool.symm.trans hgranted.reachedAgain
  | none =>
      rw [Stateful.bind_ok (getCluster_ok hpool), Stateful.bind_ok (listPods_run _ _ _)]
      cases hlist : server.listPods [cordon node none] (onNode node) with
      | error err =>
          refine .inl ⟨_, _, rfl, idle_unlisted node (onNode node) none err,
            hcordoned.snoc hlist.symm, ?_⟩
          rintro ⟨pods, hgranted⟩
          cases hlist.symm.trans hgranted.listed
      | ok pods =>
          have hlisted : Answered server [cordon node none, .listPods (onNode node) (.ok pods)] :=
            Answered.snoc hcordoned (show Call.Answered server _ (.listPods _ _) from hlist.symm)
          obtain ⟨evicted, hpods, hanswered, hrun⟩ := evictPods_run server pods [] hlisted
          exact .inr ⟨pods, evicted, ⟨hreached, hpatch, hpool, hlist⟩, hpods, hanswered, hrun⟩

@[simp] theorem evictions_map_evict (evicted : List Eviction) :
    evictions (evicted.map .evict) = evicted := by
  induction evicted with
  | nil => rfl
  | cons eviction rest ih => exact congrArg (eviction :: ·) ih

theorem drained_of_idle {server : Server} {node : String} {err : AppError} {made : List Call}
    (h : Idle made) (hanswered : Answered server made)
    (hgranted : ¬∃ pods, Granted server node pods) : Drained server node (.error err made) where
  asked := hanswered
  granted := by
    refine iff_of_false ?_ hgranted
    rintro ⟨refused, made, hok⟩
    cases hok
  made pods hpods := absurd ⟨pods, hpods⟩ hgranted
  afterCordon := by
    intro before eviction after hmade
    have hmem : .evict eviction ∈ made := by
      rw [show made = _ from hmade]
      exact List.mem_append_right before List.mem_cons_self
    have hevicted : eviction ∈ evictions made := List.mem_filterMap.mpr ⟨_, hmem, rfl⟩
    simp [h.noEviction] at hevicted
  exact pods hlisted := absurd hlisted (h.noPods _ pods)
  refused := by
    intro refused made hok
    cases hok
  answered := by
    constructor
    · rintro ⟨refused, made, hok⟩
      cases hok
    · rintro ⟨-, pods, hlisted⟩
      exact absurd hlisted (h.noPods _ pods)
  failed := by
    intro err made herr
    cases herr
    exact h.noEviction

theorem drained_of_evicted {server : Server} {node : String} {pods : List Pod}
    {evicted : List Eviction} (hgranted : Granted server node pods)
    (h : evicted.map Eviction.pod = (pods.filter (¬Spared ·)).map (·.key))
    (hanswered : Answered server
      (cordon node none :: .listPods (onNode node) (.ok pods) :: evicted.map .evict)) :
    Drained server node (.ok (evicted.filterMap Eviction.refusal)
      (cordon node none :: .listPods (onNode node) (.ok pods) :: evicted.map .evict)) := by
  have hevictions : evictions
      (cordon node none :: .listPods (onNode node) (.ok pods) :: evicted.map .evict) = evicted :=
    evictions_map_evict evicted
  constructor
  · exact hanswered
  · exact iff_of_true ⟨_, _, rfl⟩ ⟨pods, hgranted⟩
  · intro pods' hgranted'
    obtain rfl := Except.ok.inj (hgranted.listed.symm.trans hgranted'.listed)
    rw [calls, hevictions]
  · intro before eviction after hmade
    cases before with
    | nil => cases hmade
    | cons first rest =>
        obtain ⟨rfl, -⟩ := List.cons.inj hmade
        exact List.mem_cons_self
  · intro pods' hlisted
    obtain rfl : pods' = pods := by simpa [calls, cordon] using hlisted
    exact (congrArg _ hevictions).trans h
  · intro refused made hok
    cases hok
    rw [hevictions]
  · constructor
    · intro _
      exact ⟨List.mem_cons_self, pods, List.mem_cons_of_mem _ List.mem_cons_self⟩
    · intro _
      exact ⟨_, _, rfl⟩
  · intro err made herr
    cases herr

theorem drain_drained (server : Server) (node : String) :
    Drained server node (drain server node []) := by
  rcases drain_run server node with ⟨err, made, hrun, hidle, hanswered, hrefused⟩ |
    ⟨pods, evicted, hgranted, hpods, hanswered, hrun⟩
  · rw [hrun]
    exact drained_of_idle hidle hanswered hrefused
  · rw [hrun]
    exact drained_of_evicted hgranted hpods hanswered

def shopPods : List Pod :=
  [{ ns := "kube-system", name := "proxy", ownerReferences := [{ kind := "DaemonSet", name := "proxy" }] },
    { ns := "shop", name := "web" }, { ns := "shop", name := "done", phase := "Succeeded" },
    { ns := "shop", name := "db" }, { ns := "shop", name := "cache" }]

/-- The budget of the database allows no disruption. -/
def shopServer : Server where
  pool _ := none
  patchNode _ _ _ := none
  listPods _ _ := .ok shopPods
  evict _ _ name := if name = "db" then some ⟨.other, "budget"⟩ else none

theorem drain_drained_shop : ∃ made, drain shopServer "node-a" [] = .ok ["shop/db: budget"] made ∧
    evictions made = [⟨"shop", "web", none⟩, ⟨"shop", "db", some ⟨.other, "budget"⟩⟩,
      ⟨"shop", "cache", none⟩] ∧ Drained shopServer "node-a" (.ok ["shop/db: budget"] made) :=
  ⟨_, rfl, rfl, drain_drained shopServer "node-a"⟩

end Wiremap.Service.NodeActions
