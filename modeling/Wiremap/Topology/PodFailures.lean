import Wiremap.Topology.ObjectNodes

/-! Whether the rating of a pod shows that one of its containers cannot start.  The pod
is rated by its app containers alone, while the object level draws its init containers
as well. -/
namespace Wiremap.Topology

open Wiremap.Kube

/-- No part of a normal start. -/
def IsFailure (reason : String) : Prop := reason ≠ "" ∧ reason ∉ benignWaitingReasons

instance (reason : String) : Decidable (IsFailure reason) :=
  inferInstanceAs (Decidable (_ ∧ _))

/-- Drawn as an error because it waits. -/
def ContainerState.Stuck (ctr : ContainerState) : Prop :=
  ctr.state = "waiting" ∧ containerStatus ctr = .error

instance (ctr : ContainerState) : Decidable ctr.Stuck := inferInstanceAs (Decidable (_ ∧ _))

def initStates (pod : Pod) : List ContainerState :=
  pod.spec.initContainers.map (containerDto pod.initContainerStatuses true)

def appStates (pod : Pod) : List ContainerState :=
  pod.spec.containers.map (containerDto pod.containerStatuses false)

def AppWaits (pod : Pod) : Prop :=
  ∃ cs ∈ pod.containerStatuses, ∃ reason ∈ cs.waiting, IsFailure reason

/-- The rating of the pod is an error whenever that of a container that waits is. -/
def ShowsStuck (pod : Pod) : Prop :=
  (∃ ctr ∈ initStates pod ++ appStates pod, ctr.Stuck) → (podStatus pod).1 = .error

/-- These are the containers the object level draws below the pod. -/
theorem podNodes_status (ns : String) (pod : Pod) :
    (podNodes ns pod).map (·.status) =
      (podStatus pod).1 :: (initStates pod ++ appStates pod).map containerStatus := by
  simp [podNodes, podRoot, podNode, initStates, appStates, containerNodeOf, containerNode,
    Function.comp_def]

/-! ### Pods -/

theorem failing_count (tally : ContainerTally) (cs : ContainerStatus) :
    (tally.count cs).failing.isSome ↔
      tally.failing.isSome ∨ ∃ reason ∈ cs.waiting, IsFailure reason := by
  unfold ContainerTally.count IsFailure
  cases cs.waiting with
  | none => simp
  | some reason =>
      by_cases hfails : reason ≠ "" ∧ reason ∉ benignWaitingReasons
      · simp [hfails]
      · have hbenign : ¬(¬reason = "" ∧ ¬reason ∈ benignWaitingReasons) := hfails
        simp [hbenign]

theorem failing_foldl (statuses : List ContainerStatus) (tally : ContainerTally) :
    (statuses.foldl ContainerTally.count tally).failing.isSome ↔
      tally.failing.isSome ∨ ∃ cs ∈ statuses, ∃ reason ∈ cs.waiting, IsFailure reason := by
  induction statuses generalizing tally with
  | nil => simp
  | cons cs statuses ih =>
      rw [List.foldl_cons, ih, failing_count, List.exists_mem_cons_iff, or_assoc]

theorem podStatus_error_iff {pod : Pod} (hlive : pod.deleted = false) :
    (podStatus pod).1 = .error ↔ AppWaits pod ∨ pod.phase = "Failed" := by
  have hwaits := failing_foldl pod.containerStatuses {}
  simp only [Option.isSome_none, Bool.false_eq_true, false_or] at hwaits
  unfold AppWaits podStatus
  rw [← hwaits]
  cases hfailing : (pod.containerStatuses.foldl ContainerTally.count {}).failing with
  | some reason => simp [hfailing, hlive]
  | none =>
      simp only [hfailing, hlive, Bool.false_eq_true, if_false, Option.isSome_none, false_or]
      split
      · rename_i hphase
        split
        · simp [hphase]
        · simp [hphase]
      · simp [*]
      · simp [*]
      · rename_i hother
        simpa using hother

/-! ### Containers -/

theorem stuck_iff {statuses : List ContainerStatus} {init : Bool} {spec : Container} :
    (containerDto statuses init spec).Stuck ↔
      (statusByName statuses spec.name).running = false ∧
        (statusByName statuses spec.name).terminated = none ∧
          ∃ reason ∈ (statusByName statuses spec.name).waiting, IsFailure reason := by
  unfold ContainerState.Stuck containerDto containerStatus IsFailure
  simp only
  split
  · simp [*]
  · split
    · simp [*]
    · simp [*]
    · simp [*]

theorem statusByName_waiting {statuses : List ContainerStatus} {name reason : String}
    (h : reason ∈ (statusByName statuses name).waiting) :
    ∃ cs ∈ statuses, reason ∈ cs.waiting := by
  unfold statusByName at h
  cases hlast : (statuses.filter fun st => st.name = name).getLast? with
  | none => simp [hlast] at h
  | some cs =>
      rw [hlast] at h
      exact ⟨cs, List.mem_of_mem_filter (List.mem_of_getLast? hlast), h⟩

theorem appWaits_of_stuck {pod : Pod} {ctr : ContainerState} (hctr : ctr ∈ appStates pod)
    (h : ctr.Stuck) : AppWaits pod := by
  obtain ⟨spec, -, rfl⟩ := List.mem_map.mp hctr
  obtain ⟨-, -, reason, hreason, hfails⟩ := stuck_iff.mp h
  obtain ⟨cs, hcs, hwaiting⟩ := statusByName_waiting hreason
  exact ⟨cs, hcs, reason, hwaiting, hfails⟩

/-- The pod shows what is wrong with its containers exactly if an init container that
is stuck does not come alone. -/
theorem showsStuck_iff (pod : Pod) (hlive : pod.deleted = false) :
    ShowsStuck pod ↔
      ((∃ ctr ∈ initStates pod, ctr.Stuck) → AppWaits pod ∨ pod.phase = "Failed") := by
  unfold ShowsStuck
  rw [podStatus_error_iff hlive]
  constructor
  · rintro hshows ⟨ctr, hctr, hstuck⟩
    exact hshows ⟨ctr, List.mem_append_left _ hctr, hstuck⟩
  · rintro hinit ⟨ctr, hctr, hstuck⟩
    rcases List.mem_append.mp hctr with hctr | hctr
    · exact hinit ⟨ctr, hctr, hstuck⟩
    · exact Or.inl (appWaits_of_stuck hctr hstuck)

def startingPod (init app : ContainerStatus) : Pod where
  name := "web"
  ns := "shop"
  spec := { initContainers := [{ name := "migrate" }], containers := [{ name := "nginx" }] }
  phase := "Pending"
  initContainerStatuses := [{ init with name := "migrate" }]
  containerStatuses := [{ app with name := "nginx" }]

def waitingFor (reason : String) : ContainerStatus := { waiting := some reason }

theorem showsStuck_badImage :
    (startingPod { terminated := some "Completed" } (waitingFor "ErrImagePull")).deleted = false ∧
      (∃ ctr ∈ appStates (startingPod { terminated := some "Completed" }
        (waitingFor "ErrImagePull")), ctr.Stuck) ∧
      ShowsStuck (startingPod { terminated := some "Completed" } (waitingFor "ErrImagePull")) :=
  ⟨rfl, by decide, (showsStuck_iff _ rfl).mpr fun hinit => absurd hinit (by decide)⟩

/-- The app container waits for its turn, and the pod is rated by it. -/
theorem crashingInit_not_shown :
    (startingPod (waitingFor "CrashLoopBackOff") (waitingFor "PodInitializing")).deleted = false ∧
      ¬ShowsStuck (startingPod (waitingFor "CrashLoopBackOff") (waitingFor "PodInitializing")) := by
  refine ⟨rfl, fun hshows => ?_⟩
  exact absurd (hshows (by decide)) (by decide)

end Wiremap.Topology
