import Wiremap.Topology.ObjectNodes

/-! Where a pod spec names ConfigMaps, Secrets and claims, and that `podSpecRefs` has just
these, each where it first comes. -/
namespace Wiremap.Topology

open Wiremap.Kube Wiremap.Library

def refTo (kind : String) (name : Option String) : List SpecRef :=
  name.toList.map fun name => ⟨kind, name⟩

def sourceRefs (src : ProjectedSource) : List SpecRef :=
  refTo "ConfigMap" src.configMap ++ refTo "Secret" src.secret

def volumeRefs (v : Volume) : List SpecRef :=
  refTo "ConfigMap" v.configMap ++ refTo "Secret" v.secret ++
    refTo "PersistentVolumeClaim" v.persistentVolumeClaim ++
      (v.projected.getD []).flatMap sourceRefs

def envRefs (env : EnvRefs) : List SpecRef :=
  refTo "ConfigMap" env.configMap ++ refTo "Secret" env.secret

def containerRefs (ctr : Container) : List SpecRef :=
  ctr.envFrom.flatMap envRefs ++ (ctr.env.filterMap id).flatMap envRefs

/-- What a spec names by a name that is not empty, from its first line to its last. -/
def occurrences (spec : PodSpec) : List SpecRef :=
  (spec.volumes.flatMap volumeRefs ++ spec.imagePullSecrets.flatMap (refTo "Secret" <| some ·) ++
    (spec.initContainers ++ spec.containers).flatMap containerRefs).filter (·.name ≠ "")

inductive EnvNames (env : EnvRefs) : SpecRef → Prop
  | configMap {name : String} (h : env.configMap = some name) : EnvNames env ⟨"ConfigMap", name⟩
  | secret {name : String} (h : env.secret = some name) : EnvNames env ⟨"Secret", name⟩

inductive VolumeNames (v : Volume) : SpecRef → Prop
  | configMap {name : String} (h : v.configMap = some name) : VolumeNames v ⟨"ConfigMap", name⟩
  | secret {name : String} (h : v.secret = some name) : VolumeNames v ⟨"Secret", name⟩
  | persistentVolumeClaim {name : String} (h : v.persistentVolumeClaim = some name) :
      VolumeNames v ⟨"PersistentVolumeClaim", name⟩
  | projectedConfigMap {sources : List ProjectedSource} {src : ProjectedSource} {name : String}
      (h : v.projected = some sources) (hsrc : src ∈ sources) (hname : src.configMap = some name) :
      VolumeNames v ⟨"ConfigMap", name⟩
  | projectedSecret {sources : List ProjectedSource} {src : ProjectedSource} {name : String}
      (h : v.projected = some sources) (hsrc : src ∈ sources) (hname : src.secret = some name) :
      VolumeNames v ⟨"Secret", name⟩

/-- A spec refers to what it names in a volume, for a pull or in a container's environment. -/
inductive Refers (spec : PodSpec) : SpecRef → Prop
  | volume {v : Volume} {ref : SpecRef} (hv : v ∈ spec.volumes) (h : VolumeNames v ref) : Refers spec ref
  | imagePullSecret {name : String} (h : name ∈ spec.imagePullSecrets) :
      Refers spec ⟨"Secret", name⟩
  | envFrom {ctr : Container} {env : EnvRefs} {ref : SpecRef}
      (hctr : ctr ∈ spec.initContainers ∨ ctr ∈ spec.containers) (henv : env ∈ ctr.envFrom)
      (h : EnvNames env ref) : Refers spec ref
  | env {ctr : Container} {env : EnvRefs} {ref : SpecRef}
      (hctr : ctr ∈ spec.initContainers ∨ ctr ∈ spec.containers) (henv : some env ∈ ctr.env)
      (h : EnvNames env ref) : Refers spec ref

def SingleSource (v : Volume) : Prop :=
  [v.configMap.isSome, v.secret.isSome, v.persistentVolumeClaim.isSome, v.projected.isSome].count
    true ≤ 1

structure Exact (spec : PodSpec) (refs : List SpecRef) : Prop where
  mem_iff : ∀ ref, ref ∈ refs ↔ Refers spec ref ∧ ref.name ≠ ""
  once : refs.Nodup
  ordered : refs.Pairwise fun a b => (occurrences spec).idxOf a < (occurrences spec).idxOf b

/-! ### What is added -/

def named (refs : List SpecRef) : List SpecRef := refs.filter (·.name ≠ "")

theorem addSpecRef_eq (kind : String) (refs : SpecRefs) (name : Option String) :
    addSpecRef kind refs name = refs.addAll (named (refTo kind name)) := by
  cases name with
  | none => rfl
  | some name =>
      unfold addSpecRef named refTo
      by_cases h : name = "" <;> simp [h]

theorem named_append (refs refs' : List SpecRef) :
    named (refs ++ refs') = named refs ++ named refs' := List.filter_append ..

theorem named_flatMap {β : Type} (f : β → List SpecRef) (bs : List β) :
    named (bs.flatMap f) = bs.flatMap fun b => named (f b) := List.filter_flatMap ..

theorem addEnvRefs_eq (refs : SpecRefs) (env : EnvRefs) :
    addEnvRefs refs env = refs.addAll (named (envRefs env)) := by
  simp only [addEnvRefs, addSpecRef_eq, envRefs, named_append, KeyedList.addAll_append]

theorem addContainerRefs_eq (refs : SpecRefs) (ctr : Container) :
    addContainerRefs refs ctr = refs.addAll (named (containerRefs ctr)) := by
  have hfold : ∀ (envs : List EnvRefs) (refs : SpecRefs),
      envs.foldl addEnvRefs refs = refs.addAll (named (envs.flatMap envRefs)) := by
    intro envs refs
    rw [named_flatMap]
    exact KeyedList.foldl_eq_addAll (fun refs env _ => addEnvRefs_eq refs env) refs
  rw [addContainerRefs, hfold, hfold, ← KeyedList.addAll_append, ← named_append, containerRefs]

theorem addVolumeRefs_eq {v : Volume} (h : SingleSource v) (refs : SpecRefs) :
    addVolumeRefs refs v = refs.addAll (named (volumeRefs v)) := by
  have hsources : ∀ sources : List ProjectedSource,
      sources.foldl (fun refs src =>
          addSpecRef "Secret" (addSpecRef "ConfigMap" refs src.configMap) src.secret) refs =
        refs.addAll (named (sources.flatMap sourceRefs)) := by
    intro sources
    rw [named_flatMap]
    refine KeyedList.foldl_eq_addAll (fun refs src _ => ?_) refs
    simp only [addSpecRef_eq, sourceRefs, named_append, KeyedList.addAll_append]
  obtain ⟨configMap, secret, claim, projected⟩ := v
  cases configMap with
  | some name =>
      obtain ⟨rfl, rfl, rfl⟩ : secret = none ∧ claim = none ∧ projected = none := by
        simpa [SingleSource, List.count_eq_zero] using h
      exact addSpecRef_eq "ConfigMap" refs (some name)
  | none =>
      cases secret with
      | some name =>
          obtain ⟨rfl, rfl⟩ : claim = none ∧ projected = none := by
            simpa [SingleSource, List.count_eq_zero] using h
          exact addSpecRef_eq "Secret" refs (some name)
      | none =>
          cases claim with
          | some name =>
              obtain rfl : projected = none := by
                simpa [SingleSource, List.count_eq_zero] using h
              exact addSpecRef_eq "PersistentVolumeClaim" refs (some name)
          | none =>
              cases projected with
              | some sources => exact hsources sources
              | none => rfl

theorem podSpecRefs_eq {spec : PodSpec} (h : ∀ v ∈ spec.volumes, SingleSource v) :
    podSpecRefs spec = ((KeyedList.empty : SpecRefs).addAll (occurrences spec)).items := by
  have hvolumes : ∀ refs : SpecRefs, spec.volumes.foldl addVolumeRefs refs =
      refs.addAll (named (spec.volumes.flatMap volumeRefs)) := by
    rw [named_flatMap]
    exact KeyedList.foldl_eq_addAll fun refs v hv => addVolumeRefs_eq (h v hv) refs
  have hpulls : ∀ refs : SpecRefs, spec.imagePullSecrets.foldl
      (fun refs name => addSpecRef "Secret" refs (some name)) refs =
        refs.addAll (named (spec.imagePullSecrets.flatMap (refTo "Secret" <| some ·))) := by
    rw [named_flatMap]
    exact KeyedList.foldl_eq_addAll fun refs name _ => addSpecRef_eq "Secret" refs (some name)
  have hcontainers : ∀ (ctrs : List Container) (refs : SpecRefs),
      ctrs.foldl addContainerRefs refs = refs.addAll (named (ctrs.flatMap containerRefs)) := by
    intro ctrs
    rw [named_flatMap]
    exact KeyedList.foldl_eq_addAll fun refs ctr _ => addContainerRefs_eq refs ctr
  simp only [podSpecRefs, hvolumes, hpulls, hcontainers, ← KeyedList.addAll_append]
  rw [← named_append, ← named_append]
  rfl

/-! ### What is named -/

@[simp] theorem mem_refTo {kind : String} {name : Option String} {ref : SpecRef} :
    ref ∈ refTo kind name ↔ ∃ n, name = some n ∧ ref = ⟨kind, n⟩ := by
  cases name <;> simp [refTo]

theorem mem_envRefs {env : EnvRefs} {ref : SpecRef} : ref ∈ envRefs env ↔ EnvNames env ref := by
  simp only [envRefs, List.mem_append, mem_refTo]
  constructor
  · rintro (⟨name, h, rfl⟩ | ⟨name, h, rfl⟩)
    · exact .configMap h
    · exact .secret h
  · rintro (h | h)
    · exact Or.inl ⟨_, h, rfl⟩
    · exact Or.inr ⟨_, h, rfl⟩

theorem mem_volumeRefs {v : Volume} {ref : SpecRef} : ref ∈ volumeRefs v ↔ VolumeNames v ref := by
  simp only [volumeRefs, sourceRefs, List.mem_append, List.mem_flatMap, mem_refTo]
  constructor
  · rintro (((⟨name, h, rfl⟩ | ⟨name, h, rfl⟩) | ⟨name, h, rfl⟩) | ⟨src, hsrc, hname⟩)
    · exact .configMap h
    · exact .secret h
    · exact .persistentVolumeClaim h
    · cases hprojected : v.projected with
      | none => simp [hprojected] at hsrc
      | some sources =>
          rw [hprojected, Option.getD_some] at hsrc
          rcases hname with ⟨name, hname, rfl⟩ | ⟨name, hname, rfl⟩
          · exact .projectedConfigMap hprojected hsrc hname
          · exact .projectedSecret hprojected hsrc hname
  · rintro (h | h | h | ⟨h, hsrc, hname⟩ | ⟨h, hsrc, hname⟩)
    · exact Or.inl (Or.inl (Or.inl ⟨_, h, rfl⟩))
    · exact Or.inl (Or.inl (Or.inr ⟨_, h, rfl⟩))
    · exact Or.inl (Or.inr ⟨_, h, rfl⟩)
    · exact Or.inr ⟨_, by rwa [h], Or.inl ⟨_, hname, rfl⟩⟩
    · exact Or.inr ⟨_, by rwa [h], Or.inr ⟨_, hname, rfl⟩⟩

theorem mem_containerRefs {ctr : Container} {ref : SpecRef} : ref ∈ containerRefs ctr ↔
    (∃ env ∈ ctr.envFrom, EnvNames env ref) ∨ ∃ env, some env ∈ ctr.env ∧ EnvNames env ref := by
  simp [containerRefs, mem_envRefs]

theorem mem_occurrences {spec : PodSpec} {ref : SpecRef} :
    ref ∈ occurrences spec ↔ Refers spec ref ∧ ref.name ≠ "" := by
  simp only [occurrences, List.mem_filter, List.mem_append, List.mem_flatMap, decide_eq_true_eq,
    mem_volumeRefs, mem_refTo, mem_containerRefs]
  refine and_congr_left fun _ => ?_
  constructor
  · rintro ((⟨v, hv, h⟩ | ⟨name, hname, _, hsome, rfl⟩) | ⟨ctr, hctr, ⟨env, henv, h⟩ | ⟨env, henv, h⟩⟩)
    · exact .volume hv h
    · cases hsome
      exact .imagePullSecret hname
    · exact .envFrom hctr henv h
    · exact .env hctr henv h
  · rintro (⟨hv, h⟩ | hname | ⟨hctr, henv, h⟩ | ⟨hctr, henv, h⟩)
    · exact Or.inl (Or.inl ⟨_, hv, h⟩)
    · exact Or.inl (Or.inr ⟨_, hname, _, rfl, rfl⟩)
    · exact Or.inr ⟨_, hctr, Or.inl ⟨_, henv, h⟩⟩
    · exact Or.inr ⟨_, hctr, Or.inr ⟨_, henv, h⟩⟩

theorem mem_podSpecRefs {spec : PodSpec} (h : ∀ v ∈ spec.volumes, SingleSource v) {ref : SpecRef} :
    ref ∈ podSpecRefs spec ↔ Refers spec ref ∧ ref.name ≠ "" := by
  rw [podSpecRefs_eq h, KeyedList.mem_addAll_id, mem_occurrences]

/-- The pods that are drawn as consumers of an object are those that refer to it. -/
theorem consumes_iff {pod : Pod} (h : ∀ v ∈ pod.spec.volumes, SingleSource v)
    {kind name : String} :
    consumes kind name pod ↔ Refers pod.spec ⟨kind, name⟩ ∧ name ≠ "" := by
  rw [consumes, List.contains_iff_mem, mem_podSpecRefs h]

theorem podSpecRefs_exact {spec : PodSpec} (h : ∀ v ∈ spec.volumes, SingleSource v) :
    Exact spec (podSpecRefs spec) where
  mem_iff ref := mem_podSpecRefs h
  once := by
    rw [podSpecRefs_eq h]
    exact KeyedList.nodup_addAll_id _
  ordered := by
    rw [podSpecRefs_eq h]
    exact KeyedList.ordered_addAll_id _

/-- A spec that names something in every place there is, `settings` in two. -/
def settingsSpec : PodSpec where
  volumes :=
    [{ configMap := some "settings" }, { secret := some "tls" },
      { persistentVolumeClaim := some "data" },
      { projected := some [{ configMap := some "ca" }, { secret := some "token" }] }, {}]
  imagePullSecrets := ["registry"]
  initContainers := [{ envFrom := [{ secret := some "init-env" }] }]
  containers :=
    [{ envFrom := [{ configMap := some "settings" }]
       env := [none, some { configMap := some "flags" }, some { secret := some "db" }, some {}] }]

theorem settingsSpec_exact : Exact settingsSpec (podSpecRefs settingsSpec) :=
  podSpecRefs_exact (by unfold SingleSource; decide)

example : podSpecRefs settingsSpec =
    [⟨"ConfigMap", "settings"⟩, ⟨"Secret", "tls"⟩, ⟨"PersistentVolumeClaim", "data"⟩,
      ⟨"ConfigMap", "ca"⟩, ⟨"Secret", "token"⟩, ⟨"Secret", "registry"⟩, ⟨"Secret", "init-env"⟩,
      ⟨"ConfigMap", "flags"⟩, ⟨"Secret", "db"⟩] := by decide

end Wiremap.Topology
