import Mathlib.Algebra.Field.Rat
import Mathlib.Data.Rat.Floor
import Wiremap.Kube.Errors
import Wiremap.Kube.Resources
import Wiremap.Library.Lists
import Wiremap.Library.Rounding

/-! What a pod uses, in percent of its limits.  Usage is summed over the containers that
metrics-server reports, limits over those of the pod's spec. -/
namespace Wiremap.Service.PodMetrics

open Wiremap.Kube (ApiError Quantity wrapError)
open Wiremap.Library Wiremap.Library.Rounding

structure ResourceList where
  amounts : StringMap Quantity
  nonneg : ∀ resource q, amounts.lookup resource = some q → 0 ≤ q.value

/-- `restartPolicy` is "Always" for an init container that keeps running. -/
structure Container where
  name : String
  limits : ResourceList
  restartPolicy : String := ""

/-- No two containers have one name. -/
structure PodSpec where
  initContainers : List Container
  containers : List Container
  nodeName : String
  named : ((initContainers ++ containers).map (·.name)).Nodup

structure ContainerMetrics where
  name : String
  usage : ResourceList

structure PodReport where
  containers : KeyedList ContainerMetrics.name
  timestamp : String

/-- A percentage is `none` when it divides by zero. -/
structure Stats where
  cpuPercent : Option Rat
  memoryUsage : Int
  memoryLimit : Int
  memoryPercent : Option Rat
  timestamp : String

/-- What the server answers; the last is the memory a node has to allocate. -/
structure Reads where
  pod : Except ApiError PodSpec
  metrics : Except ApiError PodReport
  node : String → Except ApiError ResourceList

structure Measure where
  resource : String
  scale : Nat

/-- In millicores. -/
def cpu : Measure := ⟨"cpu", 1000⟩

/-- In bytes. -/
def memory : Measure := ⟨"memory", 1⟩

namespace ResourceList

def has (r : ResourceList) (m : Measure) : Bool := (r.amounts.lookup m.resource).isSome

def amount (r : ResourceList) (m : Measure) : Rat :=
  ((r.amounts.lookup m.resource).map (·.value)).getD 0

def count (r : ResourceList) (m : Measure) : Int := ⌈r.amount m * m.scale⌉

end ResourceList

def Selects (container name : String) : Prop := container = "" ∨ name = container

instance (container name : String) : Decidable (Selects container name) :=
  inferInstanceAs (Decidable (_ ∨ _))

def usageOf (m : Measure) (report : PodReport) (container : String) : Int :=
  ((report.containers.items.filter fun cm => Selects container cm.name).map (·.usage.count m)).sum

def podLimit (m : Measure) (containers : List Container) (container : String) : Int :=
  let selected := containers.filter fun ctr => Selects container ctr.name
  if selected.any fun ctr => !ctr.limits.has m then 0
  else (selected.map (·.limits.count m)).sum

def podLimits (containers : List Container) (container : String) : Int × Int :=
  (podLimit cpu containers container, podLimit memory containers container)

def nodeAllocatableMemory (node : String → Except ApiError ResourceList) (nodeName : String) : Int :=
  if nodeName = "" then 0
  else
    match node nodeName with
    | .ok allocatable => allocatable.count memory
    | .error _ => 0

def percent (part whole : Int) : Option Rat :=
  if whole = 0 then none else some (roundHundredths ((part : Rat) / whole * 100))

def metrics (cluster : Except AppError Reads) (container : String) : Except AppError Stats := do
  let c ← cluster
  let pod ← c.pod.mapError fun err => wrapError err "get pod"
  let report ← c.metrics.mapError fun err =>
    match err.reason with
    | .notFound => .notFound
        "pod metrics unavailable — is metrics-server installed and has it scraped this pod yet?"
    | _ => wrapError err "get pod metrics"
  let cpuUsage := usageOf cpu report container
  let memUsage := usageOf memory report container
  let (cpuLimit, memLimit) := podLimits pod.containers container
  let cpuLimit := if cpuLimit = 0 then 1000 else cpuLimit
  let memLimit := if memLimit = 0 then nodeAllocatableMemory c.node pod.nodeName else memLimit
  return {
    cpuPercent := percent cpuUsage cpuLimit
    memoryUsage := memUsage
    memoryLimit := memLimit
    memoryPercent := if memLimit > 0 then percent memUsage memLimit else some 0
    timestamp := report.timestamp }

/-! ### The scale -/

/-- Each of the init containers, with those before it that keep running. -/
def initPhases (running : List Container) : List Container → List (List Container)
  | [] => []
  | ctr :: rest =>
      (running ++ [ctr]) ::
        initPhases (if ctr.restartPolicy = "Always" then running ++ [ctr] else running) rest

/-- The containers that run, and may be reported, at one time. -/
def PodSpec.phases (pod : PodSpec) : List (List Container) :=
  (pod.initContainers.filter (·.restartPolicy = "Always") ++ pod.containers) ::
    initPhases [] pod.initContainers

def Container.Limited (ctr : Container) : Prop := ctr.limits.has cpu ∧ ctr.limits.has memory

instance : DecidablePred Container.Limited := fun _ => inferInstanceAs (Decidable (_ ∧ _))

/-- Every reported container has limits and uses no more than they allow. -/
def Within (phase : List Container) (report : PodReport) : Prop :=
  ∀ cm ∈ report.containers.items, ∃ ctr ∈ phase, ctr.name = cm.name ∧ ctr.Limited ∧
    cm.usage.amount cpu ≤ ctr.limits.amount cpu ∧ cm.usage.amount memory ≤ ctr.limits.amount memory

/-- No percentage divides by zero, and within the limits none is above 100. -/
def Scaled (pod : PodSpec) (node : String → Except ApiError ResourceList) (container : String) : Prop :=
  ∀ report, ∃ stats cpuPercent memoryPercent,
    metrics (.ok ⟨.ok pod, .ok report, node⟩) container = .ok stats ∧
      stats.cpuPercent = some cpuPercent ∧ stats.memoryPercent = some memoryPercent ∧
      ∀ phase ∈ pod.phases, Within phase report → cpuPercent ≤ 100 ∧ memoryPercent ≤ 100

def demand (m : Measure) (phase : List Container) (container : String) : Int :=
  ((phase.filter fun ctr => Selects container ctr.name ∧ ctr.Limited).map (·.limits.count m)).sum

/-- Up to the rounding to two decimals, it is no more than the limits of the selected app
containers, or than the fallback where they come to none. -/
def Covers (m : Measure) (pod : PodSpec) (phase : List Container) (container : String)
    (fallback : Int) : Prop :=
  let selected := pod.containers.filter fun ctr => Selects container ctr.name
  let limit := (selected.map (·.limits.count m)).sum
  if (∀ ctr ∈ selected, ctr.limits.has m) ∧ limit ≠ 0 then
    20000 * demand m phase container < 20001 * limit
  else 0 < fallback → 20000 * demand m phase container < 20001 * fallback

instance (m : Measure) (pod : PodSpec) (phase : List Container) (container : String)
    (fallback : Int) : Decidable (Covers m pod phase container fallback) :=
  inferInstanceAs (Decidable (ite _ _ _))

variable {m : Measure} {pod : PodSpec} {phase : List Container} {report : PodReport}
  {container : String}

theorem ResourceList.amount_nonneg (r : ResourceList) (m : Measure) : 0 ≤ r.amount m := by
  unfold amount
  cases hlookup : r.amounts.lookup m.resource with
  | none => exact le_refl _
  | some q => exact r.nonneg _ _ hlookup

theorem ResourceList.count_nonneg (r : ResourceList) (m : Measure) : 0 ≤ r.count m :=
  Int.ceil_nonneg (mul_nonneg (r.amount_nonneg m) (Nat.cast_nonneg _))

theorem ResourceList.count_le {r r' : ResourceList} (h : r.amount m ≤ r'.amount m) :
    r.count m ≤ r'.count m :=
  Int.ceil_mono (mul_le_mul_of_nonneg_right h (Nat.cast_nonneg _))

theorem sum_count_nonneg (containers : List Container) (m : Measure) :
    0 ≤ (containers.map (·.limits.count m)).sum := by
  refine List.sum_nonneg fun term hterm => ?_
  obtain ⟨ctr, -, rfl⟩ := List.mem_map.mp hterm
  exact ctr.limits.count_nonneg m

theorem podLimit_nonneg (m : Measure) (containers : List Container) (container : String) :
    0 ≤ podLimit m containers container := by
  unfold podLimit
  simp only
  split
  · exact le_refl _
  · exact sum_count_nonneg _ m

def scaleOf (m : Measure) (pod : PodSpec) (container : String) (fallback : Int) : Int :=
  if podLimit m pod.containers container = 0 then fallback else podLimit m pod.containers container

theorem covers_iff {fallback : Int} : Covers m pod phase container fallback ↔
    (0 < scaleOf m pod container fallback →
      20000 * demand m phase container < 20001 * scaleOf m pod container fallback) := by
  have hpos := podLimit_nonneg m pod.containers container
  by_cases hlimited : ∀ ctr ∈ pod.containers.filter fun ctr => Selects container ctr.name,
      ctr.limits.has m
  · have hlimit : podLimit m pod.containers container =
        ((pod.containers.filter fun ctr => Selects container ctr.name).map (·.limits.count m)).sum := by
      have hany : ((pod.containers.filter fun ctr => Selects container ctr.name).any
          fun ctr => !ctr.limits.has m) = false := by
        rw [List.any_eq_false]
        intro ctr hctr
        simp [hlimited ctr hctr]
      simp only [podLimit, hany, Bool.false_eq_true, if_false]
    by_cases hzero : podLimit m pod.containers container = 0
    · rw [Covers, if_neg fun h => h.2 (hlimit ▸ hzero), scaleOf, if_pos hzero]
    · rw [Covers, if_pos ⟨hlimited, hlimit ▸ hzero⟩, scaleOf, if_neg hzero, hlimit]
      exact ⟨fun h _ => h, fun h => h (hlimit ▸ lt_of_le_of_ne hpos (Ne.symm hzero))⟩
  · have hzero : podLimit m pod.containers container = 0 := by
      have hany : ((pod.containers.filter fun ctr => Selects container ctr.name).any
          fun ctr => !ctr.limits.has m) = true := by
        rw [List.any_eq_true]
        push Not at hlimited
        obtain ⟨ctr, hctr, hnone⟩ := hlimited
        exact ⟨ctr, hctr, by simpa using hnone⟩
      simp only [podLimit, hany, if_true]
    rw [Covers, if_neg fun h => hlimited h.1, scaleOf, if_pos hzero]

theorem sublist_of_mem_initPhases {running initContainers : List Container}
    (h : phase ∈ initPhases running initContainers) :
    List.Sublist phase (running ++ initContainers) := by
  induction initContainers generalizing running with
  | nil => cases h
  | cons ctr rest ih =>
      rcases List.mem_cons.mp h with rfl | hrest
      · exact List.Sublist.append_left (List.singleton_sublist.mpr List.mem_cons_self) running
      · refine (ih hrest).trans ?_
        split
        · rw [List.append_assoc]
          exact List.Sublist.refl _
        · exact List.Sublist.append_left (List.sublist_cons_self ctr rest) running

theorem PodSpec.nodup_phase (h : phase ∈ pod.phases) : (phase.map (·.name)).Nodup := by
  refine pod.named.sublist (List.Sublist.map _ ?_)
  rcases List.mem_cons.mp h with rfl | hinit
  · exact List.filter_sublist.append_right _
  · exact (sublist_of_mem_initPhases hinit).trans (List.sublist_append_left _ _)

/-- Each reported container finds its own limit in the sum. -/
theorem usageOf_le_demand (h : Within phase report) (hm : m = cpu ∨ m = memory) :
    usageOf m report container ≤ demand m phase container := by
  have hkeys : ((report.containers.items.filter fun cm => Selects container cm.name).map
      ContainerMetrics.name).Nodup :=
    report.containers.unique.sublist (List.filter_sublist.map _)
  refine Lists.sum_map_le_of_keys ContainerMetrics.name Container.name hkeys
    (fun ctr _ => ctr.limits.count_nonneg m) fun cm hcm => ?_
  obtain ⟨hreported, hselected⟩ := List.mem_filter.mp hcm
  obtain ⟨ctr, hctr, hname, hlimited, hcpu, hmemory⟩ := h cm hreported
  refine ⟨ctr, List.mem_filter.mpr ⟨hctr, ?_⟩, hname, ?_⟩
  · rw [← hname] at hselected
    simpa using ⟨of_decide_eq_true hselected, hlimited⟩
  · rcases hm with rfl | rfl
    · exact ResourceList.count_le hcpu
    · exact ResourceList.count_le hmemory

def fullReport (phase : List Container) (h : (phase.map (·.name)).Nodup) : PodReport where
  containers.items := (phase.filter fun ctr => ctr.Limited).map fun ctr => ⟨ctr.name, ctr.limits⟩
  containers.unique := by
    rw [List.map_map]
    exact h.sublist (List.filter_sublist.map _)
  timestamp := ""

theorem within_fullReport (h : (phase.map (·.name)).Nodup) : Within phase (fullReport phase h) := by
  intro cm hcm
  obtain ⟨ctr, hctr, rfl⟩ := List.mem_map.mp hcm
  obtain ⟨hrunning, hlimited⟩ := List.mem_filter.mp hctr
  exact ⟨ctr, hrunning, rfl, of_decide_eq_true hlimited, le_refl _, le_refl _⟩

theorem usageOf_fullReport (m : Measure) (h : (phase.map (·.name)).Nodup) (container : String) :
    usageOf m (fullReport phase h) container = demand m phase container := by
  simp [usageOf, demand, fullReport, List.filter_map, List.filter_filter, Function.comp_def]

theorem percent_le_iff {part whole : Int} (hwhole : 0 < whole) {p : Rat}
    (h : percent part whole = some p) : p ≤ 100 ↔ 20000 * part < 20001 * whole := by
  rw [percent, if_neg (ne_of_gt hwhole)] at h
  rw [← Option.some.inj h, ← roundHundredths_percent_le_iff hwhole (K := Rat)]
  norm_num

variable {node : String → Except ApiError ResourceList}

theorem metrics_eq : metrics (.ok ⟨.ok pod, .ok report, node⟩) container = .ok {
    cpuPercent := percent (usageOf cpu report container) (scaleOf cpu pod container 1000)
    memoryUsage := usageOf memory report container
    memoryLimit := scaleOf memory pod container (nodeAllocatableMemory node pod.nodeName)
    memoryPercent :=
      if scaleOf memory pod container (nodeAllocatableMemory node pod.nodeName) > 0 then
        percent (usageOf memory report container)
          (scaleOf memory pod container (nodeAllocatableMemory node pod.nodeName))
      else some 0
    timestamp := report.timestamp } := rfl

theorem scaleOf_pos (m : Measure) (pod : PodSpec) (container : String) {fallback : Int}
    (h : 0 < fallback) : 0 < scaleOf m pod container fallback := by
  unfold scaleOf
  split
  · exact h
  · rename_i hne
    exact lt_of_le_of_ne (podLimit_nonneg m pod.containers container) (Ne.symm hne)

theorem exists_percent {whole : Int} (h : 0 < whole) (part : Int) :
    ∃ p, percent part whole = some p :=
  ⟨_, if_neg (ne_of_gt h)⟩

theorem covers_of_scaled (h : Scaled pod node container) (hphase : phase ∈ pod.phases) :
    Covers cpu pod phase container 1000 ∧
      Covers memory pod phase container (nodeAllocatableMemory node pod.nodeName) := by
  have hnodup := PodSpec.nodup_phase hphase
  obtain ⟨stats, cpuPercent, memoryPercent, hstats, hcpu, hmemory, hle⟩ := h (fullReport phase hnodup)
  obtain ⟨hcpule, hmemoryle⟩ := hle phase hphase (within_fullReport hnodup)
  rw [metrics_eq] at hstats
  obtain rfl := Except.ok.inj hstats
  constructor
  · rw [covers_iff, ← usageOf_fullReport cpu hnodup]
    intro hpos
    exact (percent_le_iff hpos hcpu).mp hcpule
  · rw [covers_iff, ← usageOf_fullReport memory hnodup]
    intro hpos
    exact (percent_le_iff hpos ((if_pos hpos).symm.trans hmemory)).mp hmemoryle

theorem scaled_of_covers
    (hcpu : ∀ phase ∈ pod.phases, Covers cpu pod phase container 1000)
    (hmemory : ∀ phase ∈ pod.phases,
      Covers memory pod phase container (nodeAllocatableMemory node pod.nodeName)) :
    Scaled pod node container := by
  intro report
  have hbelow : ∀ {m : Measure} {whole : Int} {phase : List Container}, m = cpu ∨ m = memory →
      Within phase report → 20000 * demand m phase container < 20001 * whole →
        20000 * usageOf m report container < 20001 * whole := by
    intro m whole phase hm hwithin hdemand
    have hle : usageOf m report container ≤ demand m phase container :=
      usageOf_le_demand hwithin hm
    linarith
  have hscale := scaleOf_pos cpu pod container (by norm_num : (0 : Int) < 1000)
  obtain ⟨cpuPercent, hcpuPercent⟩ := exists_percent hscale (usageOf cpu report container)
  have hcpule : ∀ phase ∈ pod.phases, Within phase report → cpuPercent ≤ 100 :=
    fun phase hphase hwithin => (percent_le_iff hscale hcpuPercent).mpr
      (hbelow (Or.inl rfl) hwithin (covers_iff.mp (hcpu phase hphase) hscale))
  by_cases hpos : 0 < scaleOf memory pod container (nodeAllocatableMemory node pod.nodeName)
  · obtain ⟨memoryPercent, hmemoryPercent⟩ :=
      exists_percent hpos (usageOf memory report container)
    refine ⟨_, cpuPercent, memoryPercent, metrics_eq, hcpuPercent,
      (if_pos hpos).trans hmemoryPercent,
      fun phase hphase hwithin => ⟨hcpule phase hphase hwithin, ?_⟩⟩
    exact (percent_le_iff hpos hmemoryPercent).mpr
      (hbelow (Or.inr rfl) hwithin (covers_iff.mp (hmemory phase hphase) hpos))
  · exact ⟨_, cpuPercent, 0, metrics_eq, hcpuPercent, if_neg hpos, fun phase hphase hwithin =>
      ⟨hcpule phase hphase hwithin, by norm_num⟩⟩

theorem scaled_iff (pod : PodSpec) (node : String → Except ApiError ResourceList)
    (container : String) :
    Scaled pod node container ↔ ∀ phase ∈ pod.phases, Covers cpu pod phase container 1000 ∧
      Covers memory pod phase container (nodeAllocatableMemory node pod.nodeName) :=
  ⟨fun h _ hphase => covers_of_scaled h hphase, fun h =>
    scaled_of_covers (fun phase hphase => (h phase hphase).1) fun phase hphase => (h phase hphase).2⟩

def halfCoreAmounts : StringMap Quantity :=
  (AList.singleton "memory" ⟨"64Mi", 67108864⟩).insert "cpu" ⟨"500m", 1 / 2⟩

def halfCore : ResourceList where
  amounts := halfCoreAmounts
  nonneg resource q hlookup :=
    of_decide_eq_true ((StringMap.allValues_iff (fun q => decide (0 ≤ q.value)) halfCoreAmounts).mp
      (by decide +kernel) resource q hlookup)

theorem halfCore_count : halfCore.count cpu = 500 ∧ halfCore.count memory = 67108864 := by
  have hcpu : halfCore.amount cpu = 1 / 2 := rfl
  have hmemory : halfCore.amount memory = 67108864 := rfl
  rw [ResourceList.count, ResourceList.count, hcpu, hmemory, cpu, memory, Int.ceil_eq_iff,
    Int.ceil_eq_iff]
  norm_num

theorem halfCore_has (m : Measure) (h : m = cpu ∨ m = memory) : halfCore.has m = true := by
  rcases h with rfl | rfl <;> rfl

theorem halfCore_limited (name restartPolicy : String) :
    Container.Limited ⟨name, halfCore, restartPolicy⟩ :=
  ⟨halfCore_has cpu (Or.inl rfl), halfCore_has memory (Or.inr rfl)⟩

def meshedPod : PodSpec where
  initContainers := [⟨"proxy", halfCore, "Always"⟩]
  containers := [⟨"server", halfCore, ""⟩]
  nodeName := ""
  named := by decide

/-- With both at their limits the pod is at 200 percent. -/
theorem meshedPod_not_scaled : ¬Scaled meshedPod (fun _ => .ok halfCore) "" := by
  intro h
  have hcovers := covers_iff.mp (covers_of_scaled h List.mem_cons_self).1
  have hscale : scaleOf cpu meshedPod "" 1000 = 500 := by
    simp [scaleOf, podLimit, meshedPod, Selects, halfCore_has, halfCore_count]
  have hdemand : demand cpu [⟨"proxy", halfCore, "Always"⟩, ⟨"server", halfCore, ""⟩] "" = 1000 := by
    simp [demand, Selects, halfCore_limited, halfCore_count]
  have hphase : meshedPod.initContainers.filter (·.restartPolicy = "Always") ++
      meshedPod.containers = [⟨"proxy", halfCore, "Always"⟩, ⟨"server", halfCore, ""⟩] := rfl
  rw [hscale, hphase, hdemand] at hcovers
  exact absurd (hcovers (by decide)) (by decide)

end Wiremap.Service.PodMetrics
