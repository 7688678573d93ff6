import Wiremap.Client.KubeRoute
import Wiremap.Library.Machine
import Wiremap.Library.Requests
import Wiremap.Topology.Graph

/-! The hook that fetches the graph of a topology level.  A render only records
what is to be shown; effects, the timer, the socket and late answers follow in
any order. -/
namespace Wiremap.Client.KubeTopology

open Wiremap.Library Wiremap.Topology

structure Props where
  cluster : String
  view : Option KubeView
  deriving DecidableEq

/-- Namespace and object levels watch their namespace, all others the cluster. -/
def watchNamespace : Option KubeView → String
  | some view => if view.level = .namespace ∨ view.level = .object then view.ns.getD "" else ""
  | none => ""

def Props.watchKey (p : Props) : String := s!"{p.cluster}/{watchNamespace p.view}"

def statusWord : Status → String
  | .idle => "idle"
  | .healthy => "healthy"
  | .warning => "warning"
  | .error => "error"

/-- Changes only when something visible on the canvas does. -/
def graphKey (g : Graph) : String :=
  ",".intercalate (g.nodes.items.map fun n => s!"{n.id}:{statusWord n.status}:{n.summary}") ++
    "|" ++ toString g.edges.items.length

/-- `props` are those of the last render; `mounted` are those its effects last ran
with, which the timer and the socket refresh.  The graph is kept with its request. -/
structure Hook where
  props : Props
  mounted : Option Props := none
  graph : Option (Nat × Graph) := none
  error : Option String := none
  requests : Requests Props := .empty

inductive Event where
  | render (props : Props)
  | effects
  /-- The refresh interval has passed. -/
  | tick
  | changed (key : String)
  | respond (request : Nat) (result : Except String Graph)

namespace Hook

def pending (h : Hook) : Prop := h.mounted ≠ some h.props

instance (h : Hook) : Decidable h.pending := inferInstanceAs (Decidable (_ ≠ _))

def loading (h : Hook) : Bool := h.props.view.isSome && h.graph.isNone && h.error.isNone

def refresh (h : Hook) (p : Props) : Hook :=
  if p.view.isSome then { h with requests := h.requests.send p } else h

def runEffects (h : Hook) : Hook :=
  if h.pending then
    { h with mounted := some h.props, graph := none, error := none }.refresh h.props
  else h

def newer (shown : Option (Nat × Graph)) (request : Nat) (data : Graph) : Nat × Graph :=
  match shown with
  | some prev => if graphKey prev.2 = graphKey data then prev else (request, data)
  | none => (request, data)

def settle (h : Hook) (request : Nat) : Except String Graph → Hook
  | .ok data => { h with graph := some (newer h.graph request data), error := none }
  | .error err => { h with error := some err }

end Hook

/-- Effects left over run before the next render, and so before what an answer
changed is rendered. -/
def step (h : Hook) : Event → Option Hook
  | .render props => some { h.runEffects with props := props }
  | .effects => some h.runEffects
  | .tick => h.mounted.map h.refresh
  | .changed key =>
      h.mounted.map fun p => if p.view.isSome ∧ key = p.watchKey then h.refresh p else h
  | .respond request result =>
      (h.requests.answer request).map fun (_, requests) =>
        ({ h with requests := requests }.settle request result).runEffects

def machine (props : Props) : Machine Hook Event where
  init := { props := props }
  step := step

/-- The graph returned is the answer to a request for what is rendered. -/
def Current (h : Hook) : Prop :=
  ∀ i g, h.graph = some (i, g) → h.requests.sent[i]? = some h.props

def Ordered (h h' : Hook) : Prop :=
  ∀ i g j g', h.graph = some (i, g) → h'.graph = some (j, g') → i ≤ j

def Differs (h : Hook) (data : Graph) : Prop :=
  ∀ shown ∈ h.graph, graphKey shown.2 ≠ graphKey data

instance (h : Hook) (data : Graph) : Decidable (Differs h data) :=
  inferInstanceAs (Decidable (∀ shown ∈ h.graph, _))

/-- What is rendered changes only while no graph is held; an answer that looks
different comes to a request for what is rendered, and not after that of a later one. -/
def InOrder (h : Hook) : Event → Prop
  | .render props => h.pending ∨ h.graph.isNone ∨ props = h.props
  | .respond request (.ok data) => h.pending ∨ (Differs h data →
      h.requests.sent[request]? = some h.props ∧ ∀ shown ∈ h.graph, shown.1 ≤ request)
  | _ => True

instance (h : Hook) : ∀ e, Decidable (InOrder h e)
  | .render props => inferInstanceAs (Decidable (h.pending ∨ h.graph.isNone ∨ props = h.props))
  | .respond request (.ok data) => inferInstanceAs (Decidable (h.pending ∨ (Differs h data →
      h.requests.sent[request]? = some h.props ∧ ∀ shown ∈ h.graph, shown.1 ≤ request)))
  | .respond _ (.error _) => isTrue trivial
  | .effects => isTrue trivial
  | .tick => isTrue trivial
  | .changed _ => isTrue trivial

/-! ### What each step leaves -/

namespace Hook

variable {h : Hook}

theorem runEffects_pending (hpending : h.pending) : h.runEffects.graph = none := by
  rw [runEffects, if_pos hpending]
  unfold refresh
  split <;> rfl

theorem runEffects_of_not_pending (hpending : ¬ h.pending) : h.runEffects = h := if_neg hpending

@[simp] theorem props_refresh (p : Props) : (h.refresh p).props = h.props := by
  unfold refresh
  split <;> rfl

@[simp] theorem graph_refresh (p : Props) : (h.refresh p).graph = h.graph := by
  unfold refresh
  split <;> rfl

theorem sent_refresh (p : Props) {i : Nat} {r : Props} (hr : h.requests.sent[i]? = some r) :
    (h.refresh p).requests.sent[i]? = some r := by
  unfold refresh
  split
  · exact Requests.sent_send_of_some hr p
  · exact hr

end Hook

variable {h h' : Hook} {e : Event}

theorem current_of_graph_none (hgraph : h.graph = none) : Current h := by
  intro i g hshown
  rw [hgraph] at hshown
  cases hshown

theorem current_refresh (hcurrent : Current h) (p : Props) : Current (h.refresh p) := by
  intro i g hshown
  rw [Hook.graph_refresh] at hshown
  rw [Hook.props_refresh]
  exact Hook.sent_refresh p (hcurrent i g hshown)

theorem ordered_of_graph (hgraph : h'.graph = h.graph ∨ h'.graph = none) : Ordered h h' := by
  intro i g j g' hi hj
  rcases hgraph with hsame | hnone
  · rw [hsame, hi] at hj
    cases hj
    exact le_refl _
  · rw [hnone] at hj
    cases hj

theorem current_runEffects (hcurrent : Current h) : Current h.runEffects := by
  by_cases hpending : h.pending
  · exact current_of_graph_none (Hook.runEffects_pending hpending)
  · rwa [Hook.runEffects_of_not_pending hpending]

theorem ordered_runEffects : Ordered h h.runEffects := by
  by_cases hpending : h.pending
  · exact ordered_of_graph (.inr (Hook.runEffects_pending hpending))
  · exact ordered_of_graph (.inl (by rw [Hook.runEffects_of_not_pending hpending]))

theorem newer_of_differs {request : Nat} {data : Graph} (hdiffers : Differs h data) :
    Hook.newer h.graph request data = (request, data) := by
  cases hgraph : h.graph with
  | none => rfl
  | some prev => exact if_neg (hdiffers prev hgraph)

theorem newer_of_alike {request : Nat} {data : Graph} (halike : ¬ Differs h data) :
    some (Hook.newer h.graph request data) = h.graph := by
  simp only [Differs, not_forall, not_not] at halike
  obtain ⟨shown, hgraph, hkey⟩ := halike
  simp [Hook.newer, Option.mem_def.mp hgraph, hkey]

/-! ### When a step is good -/

def Good (h h' : Hook) : Prop := Current h' ∧ Ordered h h'

theorem good_render_iff (hcurrent : Current h) (props : Props) :
    InOrder h (.render props) ↔ Good h { h.runEffects with props := props } := by
  unfold InOrder Good
  by_cases hpending : h.pending
  · have hnone := Hook.runEffects_pending hpending
    exact iff_of_true (.inl hpending) ⟨current_of_graph_none hnone, ordered_of_graph (.inr hnone)⟩
  · rw [Hook.runEffects_of_not_pending hpending]
    simp only [hpending, false_or]
    by_cases hgraph : h.graph = none
    · exact iff_of_true (.inl (by simp [hgraph])) ⟨current_of_graph_none hgraph, ordered_of_graph (.inl rfl)⟩
    · obtain ⟨⟨i, g⟩, hshown⟩ := Option.ne_none_iff_exists'.mp hgraph
      constructor
      · rintro (hnone | rfl)
        · simp [hshown] at hnone
        · exact ⟨hcurrent, ordered_of_graph (.inl rfl)⟩
      · rintro ⟨hnew, -⟩
        exact .inr (Option.some.inj ((hnew i g hshown).symm.trans (hcurrent i g hshown)))

theorem good_refresh (hcurrent : Current h) (p : Props) : Good h (h.refresh p) :=
  ⟨current_refresh hcurrent p, ordered_of_graph (.inl (Hook.graph_refresh p))⟩

theorem good_answer_iff (hcurrent : Current h) {requests : Requests Props}
    (hsent : requests.sent = h.requests.sent) (request : Nat) (data : Graph) :
    (Differs h data →
      h.requests.sent[request]? = some h.props ∧ ∀ shown ∈ h.graph, shown.1 ≤ request) ↔
      Good h ({ h with requests := requests }.settle request (.ok data)) := by
  by_cases hdiffers : Differs h data
  · have hnewer : Hook.newer h.graph request data = (request, data) := newer_of_differs hdiffers
    simp only [hdiffers, true_imp_iff]
    constructor
    · rintro ⟨hasked, hlater⟩
      constructor
      · intro i g hshown
        cases (Option.some.inj hshown).symm.trans hnewer
        exact hsent ▸ hasked
      · intro i g j g' hi hj
        cases (Option.some.inj hj).symm.trans hnewer
        exact hlater (i, g) hi
    · rintro ⟨hnew, hordered⟩
      refine ⟨?_, fun shown hshown => ?_⟩
      · have hasked := hnew request data (congrArg some hnewer)
        exact hsent ▸ hasked
      · exact hordered shown.1 shown.2 request data hshown (congrArg some hnewer)
  · have hsame : some (Hook.newer h.graph request data) = h.graph := newer_of_alike hdiffers
    simp only [hdiffers, false_imp_iff, true_iff]
    constructor
    · intro i g hshown
      have hasked := hcurrent i g (hsame.symm.trans hshown)
      rwa [← hsent] at hasked
    · exact ordered_of_graph (.inl hsame)

theorem good_step_iff (hcurrent : Current h) (hstep : step h e = some h') :
    InOrder h e ↔ Good h h' := by
  cases e with
  | render props =>
      cases hstep
      exact good_render_iff hcurrent props
  | effects =>
      cases hstep
      exact iff_of_true trivial ⟨current_runEffects hcurrent, ordered_runEffects⟩
  | tick =>
      obtain ⟨p, -, rfl⟩ := Option.map_eq_some_iff.mp hstep
      exact iff_of_true trivial (good_refresh hcurrent p)
  | changed key =>
      obtain ⟨p, -, rfl⟩ := Option.map_eq_some_iff.mp hstep
      refine iff_of_true trivial ?_
      split
      · exact good_refresh hcurrent p
      · exact ⟨hcurrent, ordered_of_graph (.inl rfl)⟩
  | respond request result =>
      obtain ⟨⟨p, requests⟩, hanswer, rfl⟩ := Option.map_eq_some_iff.mp hstep
      have hsent := (Requests.answer_eq_some hanswer).2
      dsimp only
      by_cases hpending : h.pending
      · have hleft : ({ h with requests := requests }.settle request result).pending := by
          cases result <;> exact hpending
        have hnone := Hook.runEffects_pending hleft
        refine iff_of_true ?_ ⟨current_of_graph_none hnone, ordered_of_graph (.inr hnone)⟩
        cases result with
        | ok data => exact .inl hpending
        | error err => trivial
      · have hleft : ¬ ({ h with requests := requests }.settle request result).pending := by
          cases result <;> exact hpending
        rw [Hook.runEffects_of_not_pending hleft]
        cases result with
        | ok data =>
            simp only [InOrder, hpending, false_or]
            exact good_answer_iff hcurrent hsent request data
        | error err =>
            refine iff_of_true trivial ⟨fun i g hshown => ?_, ordered_of_graph (.inl rfl)⟩
            exact hsent ▸ hcurrent i g hshown

theorem current_run {props : Props} {events : List Event}
    (hrun : (machine props).Run InOrder events h) : Current h :=
  hrun.invariant (I := Current) (current_of_graph_none rfl)
    fun _ _ _ hcurrent horder hstep => ((good_step_iff hcurrent hstep).mp horder).1

/-- The graph returned always answers a request for what is rendered and never
gives way to the answer of an earlier request, exactly in the runs in order. -/
theorem shows_current_iff (props : Props) (events : List Event) (h : Hook)
    (hrun : (machine props).Run Machine.unguarded events h) :
    (machine props).AllSteps Good events ↔ (machine props).Run InOrder events h :=
  hrun.allSteps_iff fun _ s e s' hpast hstep =>
    (good_step_iff (current_run hpast) hstep : InOrder s e ↔ Good s s')

/-! ### Sessions -/

def emptyGraph (summary : String) : Graph :=
  (Graph.new .namespace).addNode
    { id := "Deployment/shop/web", kind := "Deployment", name := "web", ns := "shop"
      status := .healthy, summary := summary, weight := 1 }

def inNamespace (ns : String) : Props :=
  ⟨"prod", some { level := .namespace, ns := some ns }⟩

def polledSession : List Event :=
  [.effects, .tick, .respond 0 (.ok (emptyGraph "1/1")), .changed "prod/shop",
    .respond 1 (.error "timeout"), .respond 2 (.ok (emptyGraph "0/1"))]

/-- The namespace is switched before its first graph has come. -/
def lateAnswer : List Event :=
  [.effects, .render (inNamespace "blog"), .effects, .respond 1 (.ok (emptyGraph "blog")),
    .respond 0 (.ok (emptyGraph "shop"))]

theorem shows_current_polled :
    ∃ h, (machine (inNamespace "shop")).Run InOrder polledSession h ∧
      (machine (inNamespace "shop")).AllSteps Good polledSession := by
  have hrun := Machine.run_of_runGuarded (machine (inNamespace "shop")) InOrder polledSession rfl
  exact ⟨_, hrun, (shows_current_iff _ _ _ hrun.unguard).mpr hrun⟩

/-- The graph of the namespace that was left stays on screen. -/
theorem lateAnswer_not_current :
    ¬ (machine (inNamespace "shop")).AllSteps Good lateAnswer := by
  intro hall
  have hrun := Machine.run_of_runGuarded (machine (inNamespace "shop")) Machine.unguarded
    lateAnswer.dropLast rfl
  obtain ⟨hcurrent, -⟩ := hall lateAnswer.dropLast _ [] _ _ rfl hrun rfl
  have hasked : some (inNamespace "shop") = some (inNamespace "blog") :=
    hcurrent 0 (emptyGraph "shop") rfl
  exact absurd hasked (by decide)

end Wiremap.Client.KubeTopology
