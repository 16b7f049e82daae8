import EspNetwork.Base.Schedule

/-!
# The CPU load estimate

`main/cpu_monitor.c`: the idle hook counts, and a timer samples the counter, keeps the largest
difference as its baseline and reports the load. The callback of the timer is taken apart into the
steps between which the idle hook can run.
-/

namespace EspNetwork.Firmware

open Schedule (exec)

/-- Where `sample_cb` stands. -/
inductive SamplePc where
  | idle
  | loaded (curr : UInt32)
  | measured (delta : UInt32)
  | calibrated (delta : UInt32)
  deriving DecidableEq, Repr

structure CpuMonitor where
  idleTicks : UInt32
  prevTicks : UInt32
  maxTicks : UInt32
  cpuLoad : UInt8
  pc : SamplePc
  deriving DecidableEq, Repr

def CpuMonitor.start : CpuMonitor := ⟨0, 0, 0, 0, .idle⟩

inductive CpuAction where
  /-- `idle_hook_cb`. -/
  | idleHook
  /-- `atomic_load` in `sample_cb`. -/
  | load
  | measure
  | calibrate
  | report
  deriving DecidableEq, Repr

/-- The load that a difference means under a positive baseline, in 32 bits. -/
def loadOf (delta maxTicks : UInt32) : UInt8 :=
  let load := 100 - delta * 100 / maxTicks
  (if 100 < load then 100 else load).toUInt8

def cpuStep (s : CpuMonitor) : CpuAction → Option CpuMonitor
  | .idleHook => some { s with idleTicks := s.idleTicks + 1 }
  | .load =>
    match s.pc with
    | .idle => some { s with pc := .loaded s.idleTicks }
    | _ => none
  | .measure =>
    match s.pc with
    | .loaded curr => some { s with prevTicks := curr, pc := .measured (curr - s.prevTicks) }
    | _ => none
  | .calibrate =>
    match s.pc with
    | .measured delta =>
      some { s with
        maxTicks := if s.maxTicks < delta then delta else s.maxTicks
        pc := .calibrated delta }
    | _ => none
  | .report =>
    match s.pc with
    | .calibrated delta =>
      some { s with
        cpuLoad := if 0 < s.maxTicks then loadOf delta s.maxTicks else s.cpuLoad
        pc := .idle }
    | _ => none

/-- What a step finds and what it leaves. -/
inductive CpuMonitor.Steps (s : CpuMonitor) : CpuAction → CpuMonitor → Prop
  | idleHook : Steps s .idleHook { s with idleTicks := s.idleTicks + 1 }
  | load (pc : s.pc = .idle) : Steps s .load { s with pc := .loaded s.idleTicks }
  | measure {curr : UInt32} (pc : s.pc = .loaded curr) :
      Steps s .measure { s with prevTicks := curr, pc := .measured (curr - s.prevTicks) }
  | calibrate {delta : UInt32} (pc : s.pc = .measured delta) :
      Steps s .calibrate { s with
        maxTicks := if s.maxTicks < delta then delta else s.maxTicks
        pc := .calibrated delta }
  | report {delta : UInt32} (pc : s.pc = .calibrated delta) :
      Steps s .report { s with
        cpuLoad := if 0 < s.maxTicks then loadOf delta s.maxTicks else s.cpuLoad
        pc := .idle }

theorem cpuStep_steps {s t : CpuMonitor} {a : CpuAction} (h : cpuStep s a = some t) :
    s.Steps a t := by
  cases a with
  | idleHook => exact Option.some.inj h ▸ .idleHook
  | load | measure | calibrate | report =>
    cases pc : s.pc <;> simp only [cpuStep, pc, reduceCtorEq, Option.some.injEq] at h
    subst h
    constructor
    exact pc

/-! ## True counts -/

/-- The idle ticks since the last sample, and those between the samples before it. The start counts
as a sample: `s_prev_ticks` is 0 there. -/
structure IdleCounts where
  since : ℕ
  done : List ℕ

def IdleCounts.add (c : IdleCounts) : CpuAction → IdleCounts
  | .idleHook => { c with since := c.since + 1 }
  | .load => ⟨0, c.done ++ [c.since]⟩
  | _ => c

def idleCounts (as : List CpuAction) : IdleCounts := as.foldl IdleCounts.add ⟨0, []⟩

/-- The maximum of the counts. -/
def peak (done : List ℕ) : ℕ := done.foldl max 0

theorem peak_concat (done : List ℕ) (d : ℕ) : peak (done ++ [d]) = max (peak done) d := by
  simp [peak]

/-! ## The estimate -/

/-- The products do not overflow. -/
def SlowEnough (c : IdleCounts) : Prop := ∀ d ∈ c.done, 100 * d < 2 ^ 32

/-- The 32-bit counters stand for the true counts, up to a wrap of the tick counter. -/
def Tracks (s : CpuMonitor) (c : IdleCounts) : Prop :=
  match s.pc with
  | .idle => s.idleTicks = s.prevTicks + UInt32.ofNat c.since ∧ s.maxTicks.toNat = peak c.done ∧
    ∀ d, c.done.getLast? = some d → 0 < s.maxTicks →
      s.cpuLoad.toNat = 100 - 100 * d / peak c.done
  | .loaded curr => ∃ done d, c.done = done ++ [d] ∧
    s.idleTicks = curr + UInt32.ofNat c.since ∧ curr = s.prevTicks + UInt32.ofNat d ∧
      s.maxTicks.toNat = peak done
  | .measured delta => ∃ done d, c.done = done ++ [d] ∧
    s.idleTicks = s.prevTicks + UInt32.ofNat c.since ∧ delta.toNat = d ∧
      s.maxTicks.toNat = peak done
  | .calibrated delta => ∃ done d, c.done = done ++ [d] ∧
    s.idleTicks = s.prevTicks + UInt32.ofNat c.since ∧ delta.toNat = d ∧
      s.maxTicks.toNat = peak c.done

theorem toNat_loadOf_le (delta maxTicks : UInt32) : (loadOf delta maxTicks).toNat ≤ 100 := by
  unfold loadOf
  dsimp only
  split_ifs with large
  · decide
  · have small : (100 - delta * 100 / maxTicks).toNat ≤ 100 := UInt32.not_lt.mp large
    rw [UInt32.toNat_toUInt8]
    exact (Nat.mod_le _ _).trans small

/-- Without an overflow the subtraction does not wrap either. -/
theorem toNat_loadOf {delta maxTicks : UInt32} (fits : 100 * delta.toNat < 2 ^ 32)
    (le : delta.toNat ≤ maxTicks.toNat) :
    (loadOf delta maxTicks).toNat = 100 - 100 * delta.toNat / maxTicks.toNat := by
  have share : 100 * delta.toNat / maxTicks.toNat ≤ 100 := by
    apply Nat.div_le_of_le_mul
    omega
  have quotient : (delta * 100 / maxTicks).toNat = 100 * delta.toNat / maxTicks.toNat := by
    rw [UInt32.toNat_div, UInt32.toNat_mul, Nat.mul_comm]
    exact congrArg (· / _) (Nat.mod_eq_of_lt fits)
  have load : (100 - delta * 100 / maxTicks).toNat = 100 - 100 * delta.toNat / maxTicks.toNat := by
    rw [UInt32.toNat_sub_of_le, quotient]
    · rfl
    · rw [UInt32.le_iff_toNat_le, quotient]
      exact share
  unfold loadOf
  dsimp only
  rw [if_neg, UInt32.toNat_toUInt8, load]
  · exact Nat.mod_eq_of_lt (by omega)
  · rw [UInt32.not_lt, UInt32.le_iff_toNat_le, load]
    exact Nat.sub_le _ _

theorem SlowEnough.of_add {c : IdleCounts} {a : CpuAction} (slow : SlowEnough (c.add a)) :
    SlowEnough c := by
  intro d mem
  apply slow
  cases a <;> simp [IdleCounts.add, mem]

theorem tracks_start : Tracks .start ⟨0, []⟩ := ⟨rfl, rfl, fun d last => by simp at last⟩

theorem Tracks.step {s t : CpuMonitor} {c : IdleCounts} {a : CpuAction} (tracks : Tracks s c)
    (slow : SlowEnough (c.add a)) (h : cpuStep s a = some t) : Tracks t (c.add a) := by
  cases cpuStep_steps h with
  | idleHook =>
    have tick : ∀ x : UInt32, s.idleTicks = x + UInt32.ofNat c.since →
        s.idleTicks + 1 = x + UInt32.ofNat (c.since + 1) := by
      intro x ticks
      rw [ticks, UInt32.ofNat_add, UInt32.add_assoc]
      rfl
    unfold Tracks at tracks ⊢
    cases pc : s.pc with
    | idle =>
      simp only [pc] at tracks ⊢
      exact ⟨tick _ tracks.1, tracks.2⟩
    | loaded | measured | calibrated =>
      simp only [pc] at tracks ⊢
      obtain ⟨done, d, counts, ticks, rest⟩ := tracks
      exact ⟨done, d, counts, tick _ ticks, rest⟩
  | load pc =>
    rw [Tracks, pc] at tracks
    obtain ⟨ticks, baseline, -⟩ := tracks
    exact ⟨c.done, c.since, rfl, by simp [IdleCounts.add], ticks, baseline⟩
  | measure pc =>
    rw [Tracks, pc] at tracks
    obtain ⟨done, d, counts, ticks, curr, baseline⟩ := tracks
    refine ⟨done, d, counts, ticks, ?_, baseline⟩
    have small : 100 * d < 2 ^ 32 := slow d (by simp [IdleCounts.add, counts])
    -- the wrap of the counter cancels out
    rw [curr, UInt32.add_comm, UInt32.add_sub_cancel, UInt32.toNat_ofNat']
    exact Nat.mod_eq_of_lt (by omega)
  | @calibrate delta pc =>
    rw [Tracks, pc] at tracks
    obtain ⟨done, d, counts, ticks, measured, baseline⟩ := tracks
    refine ⟨done, d, counts, ticks, measured, ?_⟩
    change (if s.maxTicks < delta then delta else s.maxTicks).toNat = peak c.done
    rw [counts, peak_concat, ← baseline, ← measured]
    split_ifs with larger
    · exact (max_eq_right (UInt32.lt_iff_toNat_lt.mp larger).le).symm
    · exact (max_eq_left (UInt32.not_lt.mp larger)).symm
  | @report delta pc =>
    rw [Tracks, pc] at tracks
    obtain ⟨done, d, counts, ticks, measured, baseline⟩ := tracks
    refine ⟨ticks, baseline, fun d' last pos => ?_⟩
    obtain rfl : d = d' := by simpa [IdleCounts.add, counts] using last
    have small : 100 * d < 2 ^ 32 := slow d (by simp [IdleCounts.add, counts])
    have below : delta.toNat ≤ s.maxTicks.toNat := by
      rw [baseline, counts, peak_concat, measured]
      exact le_max_right _ _
    change (if 0 < s.maxTicks then loadOf delta s.maxTicks else s.cpuLoad).toNat = _
    rw [if_pos pos, toNat_loadOf (measured ▸ small) below, measured, baseline]
    rfl

/-- The clamp holds whatever has wrapped. -/
theorem cpuLoad_le_step {s t : CpuMonitor} {a : CpuAction} (le : s.cpuLoad.toNat ≤ 100)
    (h : cpuStep s a = some t) : t.cpuLoad.toNat ≤ 100 := by
  cases cpuStep_steps h with
  | idleHook | load | measure | calibrate => exact le
  | @report delta =>
    change (if 0 < s.maxTicks then loadOf delta s.maxTicks else s.cpuLoad).toNat ≤ 100
    split_ifs
    · exact toNat_loadOf_le _ _
    · exact le

/-- **The estimate over any run.** It is a percentage; and while the counts between samples stay
below 2^32 / 100, the load after a sample is what the true counts say. -/
theorem cpuLoad_run {as : List CpuAction} {s : CpuMonitor}
    (run : exec cpuStep .start as = some s) :
    s.cpuLoad.toNat ≤ 100 ∧
      (SlowEnough (idleCounts as) → s.pc = .idle → 0 < s.maxTicks →
        ∀ d, (idleCounts as).done.getLast? = some d →
          s.cpuLoad.toNat = 100 - 100 * d / peak (idleCounts as).done) := by
  constructor
  · exact Schedule.exec_invariant (fun s => s.cpuLoad.toNat ≤ 100)
      (fun _ _ _ le h => cpuLoad_le_step le h) (by decide) run
  · intro slow idle pos d last
    have kept : ∀ s c a t, (SlowEnough c → Tracks s c) → cpuStep s a = some t →
        SlowEnough (c.add a) → Tracks t (c.add a) :=
      fun _ _ _ _ before h slow => (before slow.of_add).step slow h
    have tracks : SlowEnough (idleCounts as) → Tracks s (idleCounts as) :=
      Schedule.exec_invariant_foldl (fun s c => SlowEnough c → Tracks s c) kept
        (fun _ => tracks_start) run
    have estimate := tracks slow
    rw [Tracks, idle] at estimate
    exact estimate.2.2 d last pos

def sampleCb : List CpuAction := [.load, .measure, .calibrate, .report]

/-- Four idle ticks before the first sample, and two before the second. -/
def halfLoad : List CpuAction :=
  [.idleHook, .idleHook, .idleHook, .idleHook] ++ sampleCb ++ [.idleHook, .idleHook] ++ sampleCb

theorem cpuLoad_run_half :
    ∃ s, exec cpuStep .start halfLoad = some s ∧ s.cpuLoad.toNat ≤ 100 ∧
      s.cpuLoad.toNat = 100 - 100 * 2 / peak [4, 2] := by
  refine ⟨_, rfl, (@cpuLoad_run halfLoad _ rfl).1, ?_⟩
  refine (@cpuLoad_run halfLoad _ rfl).2 ?_ rfl (by decide) 2 rfl
  unfold SlowEnough
  decide

end EspNetwork.Firmware
