import Wiremap.Kube.Resources
import Wiremap.Library.Text
import Wiremap.Service.ActionService

/-! Jobs that are created from a CronJob by hand.  Each is named after the CronJob and
the second it was asked for, and the name is cut to what a label can hold. -/
namespace Wiremap.Service.ManualRuns

open Wiremap.Kube Wiremap.Library
open Wiremap.Service.ActionService (ObjectRef orFail)

structure CronJobTemplate (Spec : Type) where
  name : String
  uid : String
  labels : StringMap String
  spec : Spec

structure ManualJob (Spec : Type) extends ObjectMeta where
  spec : Spec

abbrev Jobs (Spec : Type) := KeyedList (fun job : ManualJob Spec => job.key)

/-- What a call depends on besides the stored Jobs: the cluster's client, the CronJob
as it is read, and whether the server refuses the Create on other grounds than the name. -/
structure Batch (Spec : Type) where
  client : Option AppError
  cronJob : Except ApiError (CronJobTemplate Spec)
  refused : Option ApiError

/-- Object names are ASCII: their bytes are their characters. -/
def truncateName (name : String) : String :=
  if name.length > 63 then .ofList (name.toList.take 63) else name

def manualName (cronJob : String) (now : Int) : String :=
  truncateName (cronJob ++ "-manual-" ++ toString now)

variable {Spec : Type}

def manualJob (ref : ObjectRef) (cj : CronJobTemplate Spec) (now : Int) : ManualJob Spec where
  name := manualName cj.name now
  ns := ref.ns
  labels := cj.labels
  annotations := [⟨"cronjob.kubernetes.io/instantiate", "manual"⟩].toAList
  ownerReferences := [⟨"batch/v1", "CronJob", cj.name, cj.uid, some true⟩]
  spec := cj.spec

def alreadyExists (name : String) : ApiError := ⟨.other, s!"jobs.batch \"{name}\" already exists"⟩

def createJob (api : Batch Spec) (job : ManualJob Spec) : EStateM AppError (Jobs Spec) Unit := do
  let jobs ← get
  match api.refused with
  | some err => throw (wrapError err "create job")
  | none =>
      if jobs.has job.key then throw (wrapError (alreadyExists job.name) "create job")
      else set (jobs.add job)

def triggerCronJob (api : Batch Spec) (ref : ObjectRef) (now : Int) :
    EStateM AppError (Jobs Spec) String :=
  match api.client, api.cronJob with
  | some err, _ => throw err
  | none, .error err => throw (wrapError err "get cronjob")
  | none, .ok cj => do
      createJob api (manualJob ref cj now)
      return (manualJob ref cj now).name

structure CronJobName where
  text : String
  short : 1 ≤ text.length ∧ text.length ≤ 52
  subdomain : ∀ ch ∈ text.toList, ch.isLower ∨ ch.isDigit ∨ ch = '-' ∨ ch = '.'

/-- A run asked for at one second does not stand in the way of one asked for at another. -/
structure NeverClash (name : CronJobName) (t t' : Int) : Prop where
  distinct : manualName name.text t ≠ manualName name.text t'
  short : (manualName name.text t).length ≤ 63 ∧ (manualName name.text t').length ≤ 63
  unhindered : ∀ {Spec : Type} (api : Batch Spec) (ref : ObjectRef) (cj : CronJobTemplate Spec)
    (jobs jobs' : Jobs Spec) (created : String), api.cronJob = .ok cj → cj.name = name.text →
      triggerCronJob api ref t jobs = .ok created jobs' →
        ((ref.ns, manualName name.text t') ∈ jobs'.keys ↔
          (ref.ns, manualName name.text t') ∈ jobs.keys)

/-! ### Names -/

theorem toList_truncateName (name : String) : (truncateName name).toList = name.toList.take 63 := by
  unfold truncateName
  split
  · rw [String.toList_ofList]
  · rw [List.take_of_length_le]
    rwa [String.length_toList, ← Nat.not_lt]

theorem length_manualName_le (cronJob : String) (now : Int) :
    (manualName cronJob now).length ≤ 63 := by
  rw [← String.length_toList, manualName, toList_truncateName, List.length_take]
  exact Nat.min_le_left 63 _

/-- The infix leaves this much of the name to the time. -/
def room (name : CronJobName) : Nat := 55 - name.text.length

theorem toList_manualName (name : CronJobName) (t : Int) :
    (manualName name.text t).toList =
      name.text.toList ++ "-manual-".toList ++ (toString t).toList.take (room name) := by
  have hfixed : (name.text.toList ++ "-manual-".toList).length = name.text.length + 8 := by
    rw [List.length_append, String.length_toList]
    rfl
  have hshort := name.short.2
  rw [manualName, toList_truncateName, String.toList_append, String.toList_append,
    List.take_append, List.take_of_length_le (by omega), hfixed]
  congr 2
  unfold room
  omega

theorem manualName_inj_iff (name : CronJobName) (t t' : Int) :
    manualName name.text t = manualName name.text t' ↔
      (toString t).toList.take (room name) = (toString t').toList.take (room name) := by
  rw [← String.toList_inj, toList_manualName, toList_manualName, List.append_right_inj]

/-! ### Runs -/

variable {api : Batch Spec} {ref : ObjectRef} {cj : CronJobTemplate Spec}
variable {jobs jobs' : Jobs Spec}

theorem createJob_cases (api : Batch Spec) (job : ManualJob Spec) (jobs : Jobs Spec) :
    (∃ err, createJob api job jobs = .error err jobs) ∨
      job.key ∉ jobs.keys ∧ createJob api job jobs = .ok () (jobs.add job) := by
  have hstart : createJob api job jobs = (match api.refused with
      | some err => throw (wrapError err "create job")
      | none =>
          if jobs.has job.key then throw (wrapError (alreadyExists job.name) "create job")
          else set (jobs.add job) : EStateM AppError (Jobs Spec) Unit) jobs := rfl
  rw [hstart]
  cases api.refused with
  | some err => exact Or.inl ⟨_, rfl⟩
  | none =>
      by_cases htaken : jobs.has job.key
      · exact Or.inl ⟨_, by simp only [htaken, if_true]; rfl⟩
      · exact Or.inr ⟨fun hkey => htaken ((jobs.has_iff _).mpr hkey),
          by simp only [htaken]; rfl⟩

theorem keys_triggerCronJob {now : Int} {created : String} (hcj : api.cronJob = .ok cj)
    (h : triggerCronJob api ref now jobs = .ok created jobs') (key : String × String) :
    key ∈ jobs'.keys ↔ key ∈ jobs.keys ∨ key = (ref.ns, manualName cj.name now) := by
  unfold triggerCronJob at h
  rw [hcj] at h
  cases hclient : api.client with
  | some err =>
      rw [hclient] at h
      cases h
  | none =>
      rw [hclient] at h
      have hrun : (createJob api (manualJob ref cj now) >>= fun _ =>
        pure (manualJob ref cj now).name) jobs = .ok created jobs' := h
      obtain ⟨err, hfails⟩ | ⟨-, hcreates⟩ := createJob_cases api (manualJob ref cj now) jobs
      · rw [Stateful.bind_error hfails] at hrun
        cases hrun
      · rw [Stateful.bind_ok hcreates] at hrun
        obtain ⟨-, rfl⟩ := EStateM.Result.ok.inj hrun
        exact KeyedList.mem_keys_add

/-- Two runs never clash exactly if their times differ in what is left of them. -/
theorem neverClash_iff (name : CronJobName) (t t' : Int) :
    NeverClash name t t' ↔
      (toString t).toList.take (room name) ≠ (toString t').toList.take (room name) := by
  constructor
  · intro h hsame
    exact h.distinct ((manualName_inj_iff name t t').mpr hsame)
  · intro hroom
    have hdistinct : manualName name.text t ≠ manualName name.text t' := fun hsame =>
      hroom ((manualName_inj_iff name t t').mp hsame)
    refine ⟨hdistinct, ⟨length_manualName_le _ _, length_manualName_le _ _⟩, ?_⟩
    intro Spec api ref cj jobs jobs' created hcj hname hrun
    rw [keys_triggerCronJob hcj hrun, or_iff_left]
    rintro hkey
    exact hdistinct (hname ▸ (Prod.mk.inj hkey).2).symm

/-! ### Today's times -/

theorem toDigits_div {t : Nat} (j : Nat) (h : 10 ^ j ≤ t) :
    ∃ cut, cut.length = j ∧ Nat.toDigits 10 t = Nat.toDigits 10 (t / 10 ^ j) ++ cut := by
  induction j with
  | zero => exact ⟨[], rfl, by simp⟩
  | succ j ih =>
      have hpow : 10 ^ (j + 1) = 10 ^ j * 10 := Nat.pow_succ ..
      obtain ⟨cut, hlength, hdigits⟩ := ih (by omega)
      have hbase : 10 ≤ t / 10 ^ j :=
        (Nat.le_div_iff_mul_le (Nat.pow_pos (by decide))).mpr (by omega)
      rw [Nat.toDigits_of_base_le (by decide) hbase, Nat.div_div_eq_div_mul, ← hpow,
        List.append_assoc] at hdigits
      exact ⟨_, by simp [hlength], hdigits⟩

theorem length_toDigits_ten {t : Nat} (h : 10 ^ 9 ≤ t) (h' : t < 10 ^ 10) :
    (Nat.toDigits 10 t).length = 10 := by
  obtain ⟨cut, hlength, hdigits⟩ := toDigits_div 9 h
  have hlead : t / 10 ^ 9 < 10 := by omega
  rw [hdigits, Nat.toDigits_of_lt_base hlead, List.length_append, hlength]
  rfl

theorem take_toDigits_ten {t j : Nat} (h : 10 ^ 9 ≤ t) (h' : t < 10 ^ 10) (hj : j ≤ 9) :
    (Nat.toDigits 10 t).take (10 - j) = Nat.toDigits 10 (t / 10 ^ j) := by
  have hpow : 10 ^ j ≤ t := Nat.le_trans (Nat.pow_le_pow_right (by decide) hj) h
  obtain ⟨cut, hlength, hdigits⟩ := toDigits_div j hpow
  have htotal := length_toDigits_ten h h'
  rw [hdigits, List.length_append, hlength] at htotal
  rw [hdigits, List.take_left' (by omega)]

theorem toDigits_inj {m n : Nat} : Nat.toDigits 10 m = Nat.toDigits 10 n ↔ m = n := by
  constructor
  · intro hdigits
    apply Text.toString_inj
    rw [← String.toList_inj, Text.toList_toString, Text.toList_toString, hdigits]
  · exact congrArg _

/-- Of the ten digits of a time, each character of a name beyond 45 costs one. -/
theorem manualName_ne_iff_of_tenDigits (name : CronJobName) {t t' : Nat}
    (h : 10 ^ 9 ≤ t ∧ t < 10 ^ 10) (h' : 10 ^ 9 ≤ t' ∧ t' < 10 ^ 10) :
    manualName name.text t ≠ manualName name.text t' ↔
      t / 10 ^ (name.text.length - 45) ≠ t' / 10 ^ (name.text.length - 45) := by
  have hshort := name.short.2
  have hroom : ∀ {t : Nat}, 10 ^ 9 ≤ t ∧ t < 10 ^ 10 → (toString (t : Int)).toList.take (room name) =
      Nat.toDigits 10 (t / 10 ^ (name.text.length - 45)) := by
    intro t ht
    have hdigits : (toString (t : Int)).toList = Nat.toDigits 10 t := Text.toList_toString t
    rw [hdigits, ← take_toDigits_ten ht.1 ht.2 (by omega)]
    by_cases hlong : 45 ≤ name.text.length
    · congr 1
      unfold room
      omega
    · have hlength := length_toDigits_ten ht.1 ht.2
      rw [List.take_of_length_le (by unfold room; omega), List.take_of_length_le (by omega)]
  rw [not_iff_not, manualName_inj_iff, hroom h, hroom h', toDigits_inj]

def longestName : CronJobName where
  text := "nightly-database-backup-and-consistency-verification"
  short := by decide
  subdomain := by simp

/-- Three digits of the time are left to tell the runs of such a CronJob apart. -/
theorem longestName_clashes : ¬NeverClash longestName 1700000000 1700000060 :=
  fun h => (manualName_ne_iff_of_tenDigits longestName (t := 1700000000) (by decide)
    (by decide)).mp h.distinct (by decide)

end Wiremap.Service.ManualRuns
