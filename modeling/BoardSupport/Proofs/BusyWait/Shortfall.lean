import BoardSupport.Proofs.BusyWait.Granularity
import Mathlib.Data.Nat.Cast.Order.Field
import Mathlib.Data.Rat.Cast.Order
import Mathlib.Tactic.FieldSimp
import Mathlib.Tactic.Linarith
import Mathlib.Tactic.NormNum
import Mathlib.Tactic.Positivity
import Mathlib.Tactic.Ring

/-!
# How far delays fall short

A delay should last at least as long as was asked for.  Its cycles are truncated to whole cycles and
then to whole rounds, so it lasts at most as long, and what the truncation drops is missing.  A delay
in milliseconds is made of parts of one millisecond, each of them truncated, so that it misses the more
the longer it is.

- `Granularity`: the units of a delay, and the parts that are truncated by themselves.
- `cycles_delay`: the cycles of a delay are those requested without the shortfall.
- `delay_falls_short`: how much is missing, when nothing is, and what would be enough.
- `millisecond_cut_short`: a millisecond that is too short, in whatever unit it is given.
-/

namespace BoardSupport.BusyWait

/-- The units in which a delay can be given. -/
inductive Granularity where
  /-- Nanoseconds. -/
  | nanosecond
  /-- Microseconds. -/
  | microsecond
  /-- Milliseconds. -/
  | millisecond
  deriving DecidableEq, Repr

namespace Granularity

/-- How many units make up a second. -/
def perSecond : Granularity → ℕ
  | nanosecond => 1000000000
  | microsecond => 1000000
  | millisecond => 1000

/-- Into how many parts a delay of `d` units is taken. -/
def parts (d : UInt32) : Granularity → ℕ
  | nanosecond | microsecond => 1
  | millisecond => d.toNat

/-- How many units each of these parts has. -/
def part (d : UInt32) : Granularity → ℕ
  | nanosecond | microsecond => d.toNat
  | millisecond => 1

theorem perSecond_pos (g : Granularity) : 0 < g.perSecond := by
  cases g <;> decide

theorem parts_mul_part (g : Granularity) (d : UInt32) : g.parts d * g.part d = d.toNat := by
  cases g <;> simp [parts, part]

end Granularity

open Granularity

variable (w : BusyWait) (g : Granularity) (d : UInt32)

/-- The rounds of a delay of `d` units. -/
def delay : Granularity → UInt32 → ℕ
  | .nanosecond => w.nanoseconds
  | .microsecond => w.microseconds
  | .millisecond => w.milliseconds

/-- The clock cycles that so many rounds last. -/
def cycles (n : ℕ) : ℕ := n * cyclesPerRound

/-- The clock cycles in a delay of `d` units, exactly. -/
def requested : ℚ := d.toNat * w.frequency.toNat / g.perSecond

/-- The delay lasts at least as long as was asked for. -/
def Suffices : Prop := w.requested g d ≤ cycles (w.delay g d)

/-- The cycles that are missing: what the truncation of one part drops, once for each part. -/
def shortfall : ℚ :=
  g.parts d * ((g.part d * w.frequency.toNat % (g.perSecond * cyclesPerRound) : ℕ) / g.perSecond)

/-- Each part is truncated once, whatever the unit. -/
theorem delay_eq : w.delay g d =
    g.parts d * (g.part d * w.frequency.toNat / (g.perSecond * cyclesPerRound)) := by
  cases g with
  | nanosecond => exact (w.nanoseconds_eq d).trans (Nat.one_mul _).symm
  | microsecond => exact (w.microseconds_eq d).trans (Nat.one_mul _).symm
  | millisecond =>
    show w.milliseconds d = d.toNat * (1 * w.frequency.toNat / 4000)
    rw [milliseconds_eq, Nat.one_mul]

theorem requested_eq :
    w.requested g d = g.parts d * ((g.part d * w.frequency.toNat : ℕ) / g.perSecond) := by
  rw [requested, ← g.parts_mul_part d]
  push_cast
  ring

theorem cycles_delay : (cycles (w.delay g d) : ℚ) = w.requested g d - w.shortfall g d := by
  have hpos : (g.perSecond : ℚ) ≠ 0 := Nat.cast_ne_zero.2 g.perSecond_pos.ne'
  -- what one part lasts and what it drops come to the cycles in it
  have hpart := Nat.div_add_mod (g.part d * w.frequency.toNat) (g.perSecond * cyclesPerRound)
  rw [requested_eq, shortfall, cycles, delay_eq, ← mul_sub, ← sub_div]
  nth_rewrite 2 [← hpart]
  push_cast
  field_simp
  ring

theorem shortfall_nonneg : 0 ≤ w.shortfall g d := by
  unfold shortfall
  positivity

theorem shortfall_le : w.shortfall g d ≤ cycles (g.parts d) := by
  have hpos : (0 : ℚ) < g.perSecond := Nat.cast_pos.2 g.perSecond_pos
  have hrest : g.part d * w.frequency.toNat % (g.perSecond * cyclesPerRound) ≤
      cyclesPerRound * g.perSecond := by
    rw [Nat.mul_comm cyclesPerRound]
    exact (Nat.mod_lt _ (Nat.mul_pos g.perSecond_pos (by decide))).le
  rw [shortfall, cycles, Nat.cast_mul]
  refine mul_le_mul_of_nonneg_left ?_ (Nat.cast_nonneg _)
  rw [div_le_iff₀ hpos]
  exact_mod_cast hrest

theorem shortfall_eq_zero_iff : w.shortfall g d = 0 ↔
    g.parts d = 0 ∨ g.perSecond * cyclesPerRound ∣ g.part d * w.frequency.toNat := by
  have hpos : (g.perSecond : ℚ) ≠ 0 := Nat.cast_ne_zero.2 g.perSecond_pos.ne'
  rw [shortfall, mul_eq_zero, div_eq_zero_iff, or_iff_left hpos, Nat.cast_eq_zero, Nat.cast_eq_zero,
    Nat.dvd_iff_mod_eq_zero]

theorem suffices_iff : w.Suffices g d ↔ w.shortfall g d = 0 := by
  have hnonneg := w.shortfall_nonneg g d
  rw [Suffices, cycles_delay]
  constructor
  · intro h
    linarith
  · intro h
    linarith

/-- A delay lasts as long as was asked for less its shortfall, so it is never longer.  It suffices only
if there is nothing to truncate, and one more round for each part would be enough. -/
theorem delay_falls_short :
    (cycles (w.delay g d) : ℚ) = w.requested g d - w.shortfall g d ∧
      0 ≤ w.shortfall g d ∧ w.requested g d ≤ cycles (w.delay g d + g.parts d) ∧
      (w.Suffices g d ↔
        g.parts d = 0 ∨ g.perSecond * cyclesPerRound ∣ g.part d * w.frequency.toNat) := by
  refine ⟨w.cycles_delay g d, w.shortfall_nonneg g d, ?_, ?_⟩
  · have hlast := w.cycles_delay g d
    have hshort := w.shortfall_le g d
    have hsum : cycles (w.delay g d + g.parts d) = cycles (w.delay g d) + cycles (g.parts d) :=
      Nat.add_mul ..
    rw [hsum, Nat.cast_add]
    linarith
  · rw [suffices_iff, shortfall_eq_zero_iff]

/-- The cycles of a thousandth of a second, in whatever unit it is given. -/
theorem requested_of_millisecond {g : Granularity} {d : UInt32} (h : 1000 * d.toNat = g.perSecond) :
    w.requested g d = w.frequency.toNat / 1000 := by
  have hpos := g.perSecond_pos
  have hd : (d.toNat : ℚ) ≠ 0 := Nat.cast_ne_zero.2 (by omega)
  rw [requested, ← h]
  push_cast
  field_simp

/-- The clock of a core that runs at 1 048 576 Hz. -/
def binaryMegahertz : BusyWait := ⟨1048576⟩

/-- A millisecond has 1048.576 cycles of this clock, but the delay ends after 262 rounds, which are 1048
cycles, in whatever unit it is given. -/
theorem millisecond_cut_short :
    (binaryMegahertz.delay .nanosecond 1000000 = 262 ∧
        ¬ binaryMegahertz.Suffices .nanosecond 1000000) ∧
      (binaryMegahertz.delay .microsecond 1000 = 262 ∧
        ¬ binaryMegahertz.Suffices .microsecond 1000) ∧
      binaryMegahertz.delay .millisecond 1 = 262 ∧ ¬ binaryMegahertz.Suffices .millisecond 1 := by
  have hfrequency : binaryMegahertz.frequency.toNat = 1048576 := rfl
  have hshort : ∀ {g d}, 1000 * d.toNat = g.perSecond → binaryMegahertz.delay g d = 262 →
      ¬ binaryMegahertz.Suffices g d := by
    intro g d hd hrounds h
    rw [Suffices, hrounds, requested_of_millisecond _ hd, hfrequency, cycles, cyclesPerRound] at h
    norm_num at h
  -- the closed form is what can be computed here, not the rounds one by one
  have hnano : binaryMegahertz.delay .nanosecond 1000000 = 262 := binaryMegahertz.delay_eq ..
  have hmicro : binaryMegahertz.delay .microsecond 1000 = 262 := binaryMegahertz.delay_eq ..
  have hmilli : binaryMegahertz.delay .millisecond 1 = 262 := binaryMegahertz.delay_eq ..
  exact ⟨⟨hnano, hshort rfl hnano⟩, ⟨hmicro, hshort rfl hmicro⟩, hmilli, hshort rfl hmilli⟩

end BoardSupport.BusyWait
