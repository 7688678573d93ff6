import Mathlib.Algebra.Field.Rat
import Mathlib.Data.Rat.Floor
import Mathlib.Data.UInt
import Wiremap.Library.Rounding
import Wiremap.Library.StringMap

/-! What a container uses, from two readings of counters that only grow while it runs. -/
namespace Wiremap.Service.ContainerStats

open Wiremap.Library Wiremap.Library.Rounding

structure CPUStats where
  totalUsage : UInt64
  systemUsage : UInt64
  onlineCPUs : UInt32

structure NetworkStats where
  rxBytes : UInt64
  txBytes : UInt64

structure StatsResponse where
  cpuStats : CPUStats
  preCPUStats : CPUStats
  usage : UInt64
  limit : UInt64
  networks : StringMap NetworkStats

structure Stats where
  cpuPercent : Rat
  memoryUsage : UInt64
  memoryLimit : UInt64
  memoryPercent : Rat
  networkRx : UInt64
  networkTx : UInt64
  timestamp : String

/-- Daemons that do not say how many there are get one. -/
def StatsResponse.cpuCount (stats : StatsResponse) : Nat :=
  if stats.cpuStats.onlineCPUs = 0 then 1 else stats.cpuStats.onlineCPUs.toNat

def delta (current previous : UInt64) : Rat := (current - previous).toNat

/-- `raw` is what the JSON unmarshals into. -/
def parseStats (raw : Except String StatsResponse) (now : String) : Except String Stats := do
  let stats ← raw
  let cpuDelta := delta stats.cpuStats.totalUsage stats.preCPUStats.totalUsage
  let systemDelta := delta stats.cpuStats.systemUsage stats.preCPUStats.systemUsage
  let cpuPercent := if systemDelta > 0 then cpuDelta / systemDelta * stats.cpuCount * 100 else 0
  let memPercent : Rat :=
    if stats.limit > 0 then (stats.usage.toNat : Rat) / stats.limit.toNat * 100 else 0
  return {
    cpuPercent := roundHundredths cpuPercent
    memoryUsage := stats.usage
    memoryLimit := stats.limit
    memoryPercent := roundHundredths memPercent
    networkRx := (stats.networks.entries.map (·.2.rxBytes)).sum
    networkTx := (stats.networks.entries.map (·.2.txBytes)).sum
    timestamp := now }

/-! ### Counters -/

def StatsResponse.cpuGrowth (stats : StatsResponse) : Int :=
  stats.cpuStats.totalUsage.toNat - stats.preCPUStats.totalUsage.toNat

def StatsResponse.systemGrowth (stats : StatsResponse) : Int :=
  stats.cpuStats.systemUsage.toNat - stats.preCPUStats.systemUsage.toNat

/-- No less than none of the CPUs and no more than all of them. -/
def Bounded (stats : StatsResponse) (now : String) : Prop :=
  ∃ parsed, parseStats (.ok stats) now = .ok parsed ∧
    0 ≤ parsed.cpuPercent ∧ parsed.cpuPercent ≤ (100 * stats.cpuCount : Nat)

variable {stats : StatsResponse}

/-- A counter that has gone back has gone round. -/
theorem toNat_sub_eq (current previous : UInt64) :
    ((current - previous).toNat : Int) =
      if 0 ≤ (current.toNat : Int) - previous.toNat then (current.toNat : Int) - previous.toNat
      else 2 ^ 64 + ((current.toNat : Int) - previous.toNat) := by
  have hcurrent := current.toNat_lt
  have hprevious := previous.toNat_lt
  rw [UInt64.toNat_sub]
  split <;> omega

theorem delta_pos_iff {current previous : UInt64} :
    delta current previous > 0 ↔ 0 < (current - previous).toNat :=
  Nat.cast_pos

theorem roundHundredths_share_le_iff {part whole count : Nat} (hwhole : 0 < whole) :
    roundHundredths ((part : Rat) / whole * count * 100) ≤ (100 * count : Nat) ↔
      20000 * count * part < (20000 * count + 1) * whole := by
  have hpos : (0 : Rat) < whole := by exact_mod_cast hwhole
  have hshare : (part : Rat) / whole * count * 100 = part * count * 100 / whole := by ring
  have hcast : (20000 * count * part : Rat) < (20000 * count + 1) * whole ↔
      20000 * count * part < (20000 * count + 1) * whole := by norm_cast
  rw [roundHundredths_le_iff, hshare, div_lt_iff₀ hpos, ← hcast]
  push_cast
  constructor <;> intro h <;> linarith

theorem bounded_iff_delta (stats : StatsResponse) (now : String) : Bounded stats now ↔
    (0 < (stats.cpuStats.systemUsage - stats.preCPUStats.systemUsage).toNat →
      20000 * stats.cpuCount * (stats.cpuStats.totalUsage - stats.preCPUStats.totalUsage).toNat <
        (20000 * stats.cpuCount + 1) *
          (stats.cpuStats.systemUsage - stats.preCPUStats.systemUsage).toNat) := by
  by_cases hsystem : 0 < (stats.cpuStats.systemUsage - stats.preCPUStats.systemUsage).toNat
  · have hdelta := delta_pos_iff.mpr hsystem
    rw [← roundHundredths_share_le_iff hsystem]
    constructor
    · rintro ⟨parsed, hparse, -, hle⟩ -
      obtain rfl := Except.ok.inj hparse
      rwa [if_pos hdelta] at hle
    · intro hle
      refine ⟨_, rfl, ?_, ?_⟩
      · rw [if_pos hdelta]
        exact roundHundredths_nonneg (by unfold delta; positivity)
      · rw [if_pos hdelta]
        exact hle hsystem
  · have hdelta := mt delta_pos_iff.mp hsystem
    refine iff_of_true ⟨_, rfl, ?_, ?_⟩ fun h => absurd h hsystem
    · rw [if_neg hdelta]
      exact roundHundredths_nonneg (le_refl 0)
    · rw [if_neg hdelta, roundHundredths_le_iff]
      positivity

theorem share_of_le {part whole : Nat} (count : Nat) (hle : part ≤ whole) (hwhole : 0 < whole) :
    20000 * count * part < (20000 * count + 1) * whole := by
  have hmul := Nat.mul_le_mul_left (20000 * count) hle
  rw [Nat.add_mul, Nat.one_mul]
  omega

theorem bounded_iff (stats : StatsResponse) (now : String)
    (hgrowth : stats.cpuGrowth ≤ stats.systemGrowth) :
    Bounded stats now ↔
      0 ≤ stats.cpuGrowth ∨ stats.systemGrowth ≤ 0 ∨
        20000 * stats.cpuCount * (2 ^ 64 + stats.cpuGrowth) <
          (20000 * stats.cpuCount + 1) * stats.systemGrowth := by
  have hcpu := toNat_sub_eq stats.cpuStats.totalUsage stats.preCPUStats.totalUsage
  have hsystem := toNat_sub_eq stats.cpuStats.systemUsage stats.preCPUStats.systemUsage
  rw [← StatsResponse.cpuGrowth] at hcpu
  rw [← StatsResponse.systemGrowth] at hsystem
  rw [bounded_iff_delta]
  generalize (stats.cpuStats.totalUsage - stats.preCPUStats.totalUsage).toNat = part at hcpu ⊢
  generalize (stats.cpuStats.systemUsage - stats.preCPUStats.systemUsage).toNat = whole at hsystem ⊢
  by_cases hforward : 0 ≤ stats.cpuGrowth
  · -- neither counter has gone back
    rw [if_pos hforward] at hcpu
    rw [if_pos (hforward.trans hgrowth)] at hsystem
    exact iff_of_true (share_of_le _ (by omega)) (Or.inl hforward)
  · rw [if_neg hforward] at hcpu
    by_cases hback : stats.systemGrowth ≤ 0
    · -- both have, or the system's stands still
      refine iff_of_true (fun hwhole => share_of_le _ ?_ hwhole) (Or.inr (Or.inl hback))
      split at hsystem <;> omega
    · rw [if_pos (by omega)] at hsystem
      rw [or_iff_right hforward, or_iff_right hback, ← hcpu, ← hsystem]
      have hwhole : 0 < whole := by omega
      rw [forall_prop_of_true hwhole]
      norm_cast

def restarted : StatsResponse where
  cpuStats := ⟨0, 200, 1⟩
  preCPUStats := ⟨100, 100, 1⟩
  usage := 0
  limit := 0
  networks := ∅

theorem restarted_not_bounded : ¬∀ now, restarted.cpuGrowth ≤ restarted.systemGrowth →
    Bounded restarted now := by
  intro h
  have hbounded := (bounded_iff_delta restarted "").mp (h "" (by decide))
  revert hbounded
  decide

/-- Both counters have gone round, as after a restart of the host. -/
def rebooted : StatsResponse where
  cpuStats := ⟨5, 50, 4⟩
  preCPUStats := ⟨100, 100, 4⟩
  usage := 1
  limit := 2
  networks := ∅

theorem rebooted_bounded : Bounded rebooted "2024-01-01T00:00:00Z" :=
  (bounded_iff rebooted _ (by decide)).mpr (Or.inr (Or.inl (by decide)))

end Wiremap.Service.ContainerStats
