import BoardSupport.BusyWait
import BoardSupport.Proofs.Registers.Words

/-!
# Delays of different granularity

A delay is given in nanoseconds, microseconds or milliseconds, and is truncated on the way to its
rounds: twice in the first two cases, and once for every millisecond in the third.

- `Adds`: work that always executes the same number of idle instructions, and what comes of it if it is
  repeated.
- `nanoseconds_eq`, `microseconds_eq`: two truncations come to one, and the products of which they are
  taken fit the 64 bits in which they are computed (`toNat_mul_toUInt64`).
- `milliseconds_add_shortfall`: what is lost by truncating each millisecond by itself.
- `granularities_consistent`: all that ties the three kinds of delay together, for every clock.
-/

namespace BoardSupport.BusyWait

/-! ## Loops -/

/-- However many idle instructions were executed before, the work executes `n` more. -/
def Adds (n : Nat) (work : Work) : Prop := ∀ idled, work.run idled = ((), idled + n)

theorem Adds.rounds_eq {n : Nat} {work : Work} (h : Adds n work) : rounds work = n := by
  rw [rounds, h 0]
  exact Nat.zero_add n

theorem adds_idle : Adds 1 idle := fun _ => rfl

theorem Adds.repeated {n : Nat} {work : Work} (h : Adds n work) (times : Nat) :
    Adds (times * n) (repeated work times) := by
  induction times with
  | zero =>
    intro idled
    rw [Nat.zero_mul]
    rfl
  | succ times ih =>
    intro idled
    have hfirst : (BusyWait.repeated work (times + 1)).run idled =
        (BusyWait.repeated work times).run (work.run idled).2 := rfl
    rw [hfirst, h idled, ih, Nat.succ_mul, Nat.add_assoc, Nat.add_comm n]

/-- The rounds that fit into some cycles. -/
theorem adds_spin (cycles : UInt64) : Adds (cycles.toNat / cyclesPerRound) (spin cycles) := by
  have hrounds : (cycles / cyclesPerRound.toUInt64).toNat = cycles.toNat / cyclesPerRound :=
    UInt64.toNat_div cycles _
  have hspin := adds_idle.repeated (cycles / cyclesPerRound.toUInt64).toNat
  rw [hrounds, Nat.mul_one] at hspin
  rw [spin, hrounds]
  exact hspin

/-! ## Truncation -/

/-- Cycles and rounds are truncated one after the other, which comes to one truncation. -/
theorem adds_spin_div (a b : UInt32) (unit : UInt64) :
    Adds (a.toNat * b.toNat / (unit.toNat * cyclesPerRound))
      (spin (a.toUInt64 * b.toUInt64 / unit)) := by
  have hspin := adds_spin (a.toUInt64 * b.toUInt64 / unit)
  rw [UInt64.toNat_div, toNat_mul_toUInt64, Nat.div_div_eq_div_mul] at hspin
  exact hspin

theorem toNat_thousand_mul {d : UInt32} (h : 1000 * d.toNat < UInt32.size) :
    (1000 * d).toNat = 1000 * d.toNat := by
  rw [UInt32.toNat_mul]
  exact Nat.mod_eq_of_lt h

variable (w : BusyWait)

theorem nanoseconds_eq (ns : UInt32) :
    w.nanoseconds ns = ns.toNat * w.frequency.toNat / 4000000000 :=
  (adds_spin_div ns w.frequency 1000000000).rounds_eq

theorem microseconds_eq (us : UInt32) :
    w.microseconds us = us.toNat * w.frequency.toNat / 4000000 :=
  (adds_spin_div us w.frequency 1000000).rounds_eq

theorem milliseconds_eq_mul (ms : UInt32) : w.milliseconds ms = ms.toNat * w.microseconds 1000 := by
  have hpart : Adds (w.microseconds 1000) (w.delayMicroseconds 1000) := by
    rw [microseconds_eq]
    exact adds_spin_div 1000 w.frequency 1000000
  exact (hpart.repeated ms.toNat).rounds_eq

theorem milliseconds_eq (ms : UInt32) :
    w.milliseconds ms = ms.toNat * (w.frequency.toNat / 4000) := by
  have hms : w.microseconds 1000 = w.frequency.toNat / 4000 := by
    rw [microseconds_eq]
    exact Nat.mul_div_mul_left w.frequency.toNat 4000 (by decide : 0 < 1000)
  rw [milliseconds_eq_mul, hms]

/-! ## One kind of delay by another -/

theorem nanoseconds_thousand_mul {us : UInt32} (h : 1000 * us.toNat < UInt32.size) :
    w.nanoseconds (1000 * us) = w.microseconds us := by
  rw [nanoseconds_eq, microseconds_eq, toNat_thousand_mul h, Nat.mul_assoc]
  exact Nat.mul_div_mul_left _ 4000000 (by decide : 0 < 1000)

theorem microseconds_thousand_mul {ms : UInt32} (h : 1000 * ms.toNat < UInt32.size) :
    w.microseconds (1000 * ms) = ms.toNat * w.frequency.toNat / 4000 := by
  rw [microseconds_eq, toNat_thousand_mul h, Nat.mul_assoc]
  exact Nat.mul_div_mul_left _ 4000 (by decide : 0 < 1000)

/-- Every millisecond loses what the frequency leaves over, and all of them together lose this. -/
theorem milliseconds_add_shortfall {ms : UInt32} (h : 1000 * ms.toNat < UInt32.size) :
    w.milliseconds ms + ms.toNat * (w.frequency.toNat % 4000) / 4000 = w.microseconds (1000 * ms) := by
  have hcycles : ms.toNat * w.frequency.toNat =
      4000 * (ms.toNat * (w.frequency.toNat / 4000)) + ms.toNat * (w.frequency.toNat % 4000) := by
    rw [← Nat.mul_left_comm, ← Nat.mul_add, Nat.div_add_mod]
  rw [microseconds_thousand_mul w h, milliseconds_eq, hcycles, Nat.mul_add_div (by decide)]

/-- Of two delays in a row each loses less than a round. -/
theorem microseconds_add {a b : UInt32} (h : a.toNat + b.toNat < UInt32.size) :
    w.microseconds (a + b) = w.microseconds a + w.microseconds b ∨
      w.microseconds (a + b) = w.microseconds a + w.microseconds b + 1 := by
  have hsum : (a + b).toNat = a.toNat + b.toNat := by
    rw [UInt32.toNat_add]
    exact Nat.mod_eq_of_lt h
  rw [microseconds_eq, microseconds_eq, microseconds_eq, hsum, Nat.add_mul]
  omega

/-! ## Longer delays and faster clocks -/

section Mono

variable {w} {v : BusyWait} {a b : UInt32}

theorem product_mono (hclock : w.frequency ≤ v.frequency) (h : a ≤ b) :
    a.toNat * w.frequency.toNat ≤ b.toNat * v.frequency.toNat :=
  Nat.mul_le_mul (UInt32.le_iff_toNat_le.1 h) (UInt32.le_iff_toNat_le.1 hclock)

theorem nanoseconds_mono (hclock : w.frequency ≤ v.frequency) (h : a ≤ b) :
    w.nanoseconds a ≤ v.nanoseconds b := by
  rw [nanoseconds_eq, nanoseconds_eq]
  exact Nat.div_le_div_right (product_mono hclock h)

theorem microseconds_mono (hclock : w.frequency ≤ v.frequency) (h : a ≤ b) :
    w.microseconds a ≤ v.microseconds b := by
  rw [microseconds_eq, microseconds_eq]
  exact Nat.div_le_div_right (product_mono hclock h)

theorem milliseconds_mono (hclock : w.frequency ≤ v.frequency) (h : a ≤ b) :
    w.milliseconds a ≤ v.milliseconds b := by
  rw [milliseconds_eq_mul, milliseconds_eq_mul]
  exact Nat.mul_le_mul (UInt32.le_iff_toNat_le.1 h) (microseconds_mono hclock (UInt32.le_refl 1000))

end Mono

/-! ## All together -/

/-- What ties the delays of one clock together. -/
structure Consistent (w : BusyWait) : Prop where
  product : ∀ d : UInt32, (d.toUInt64 * w.frequency.toUInt64).toNat = d.toNat * w.frequency.toNat
  nanoseconds : ∀ ns, w.nanoseconds ns = ns.toNat * w.frequency.toNat / 4000000000
  microseconds : ∀ us, w.microseconds us = us.toNat * w.frequency.toNat / 4000000
  /-- A microsecond is as long as a thousand nanoseconds. -/
  thousand : ∀ us : UInt32, 1000 * us.toNat < UInt32.size →
    w.nanoseconds (1000 * us) = w.microseconds us
  /-- A delay is at most one round longer than its parts. -/
  parts : ∀ a b : UInt32, a.toNat + b.toNat < UInt32.size →
    w.microseconds (a + b) = w.microseconds a + w.microseconds b ∨
      w.microseconds (a + b) = w.microseconds a + w.microseconds b + 1
  /-- A millisecond may be shorter than a thousand microseconds. -/
  shortfall : ∀ ms : UInt32, 1000 * ms.toNat < UInt32.size →
    w.milliseconds ms ≤ w.microseconds (1000 * ms) ∧
      w.microseconds (1000 * ms) - w.milliseconds ms = ms.toNat * (w.frequency.toNat % 4000) / 4000 ∧
      (4000 ∣ w.frequency.toNat → w.milliseconds ms = w.microseconds (1000 * ms))

theorem consistent : Consistent w where
  product d := toNat_mul_toUInt64 d w.frequency
  nanoseconds := w.nanoseconds_eq
  microseconds := w.microseconds_eq
  thousand _ := w.nanoseconds_thousand_mul
  parts _ _ := w.microseconds_add
  shortfall ms h := by
    have hlost := w.milliseconds_add_shortfall h
    refine ⟨?_, ?_, fun hdvd => ?_⟩
    · exact hlost ▸ Nat.le_add_right _ _
    · rw [← hlost, Nat.add_sub_cancel_left]
    · rw [Nat.mod_eq_zero_of_dvd hdvd, Nat.mul_zero, Nat.zero_div, Nat.add_zero] at hlost
      exact hlost

/-- The three kinds of delay agree with one another up to their truncations, for every clock, and no
longer delay and no faster clock makes fewer rounds. -/
theorem granularities_consistent (w v : BusyWait) :
    Consistent w ∧ (w.frequency ≤ v.frequency → ∀ a b : UInt32, a ≤ b →
      w.nanoseconds a ≤ v.nanoseconds b ∧ w.microseconds a ≤ v.microseconds b ∧
        w.milliseconds a ≤ v.milliseconds b) :=
  ⟨w.consistent, fun hclock _ _ h =>
    ⟨nanoseconds_mono hclock h, microseconds_mono hclock h, milliseconds_mono hclock h⟩⟩

/-- On a clock of 1 048 576 Hz a second of milliseconds is 144 rounds shorter than one of
microseconds, and a clock of 32 768 Hz makes no more rounds in a tenth of the time. -/
theorem megahertz_consistent :
    1000 * (1000 : UInt32).toNat < UInt32.size ∧
      (mk 1048576).microseconds (1000 * 1000) - (mk 1048576).milliseconds 1000 = 144 ∧
      (mk 32768).frequency ≤ (mk 1048576).frequency ∧ (100 : UInt32) ≤ 1000 ∧
      (mk 32768).milliseconds 100 ≤ (mk 1048576).milliseconds 1000 := by
  have hfits : 1000 * (1000 : UInt32).toNat < UInt32.size := by decide
  have hclock : (mk 32768).frequency ≤ (mk 1048576).frequency := by decide
  have hlonger : (100 : UInt32) ≤ 1000 := by decide
  have hlost := ((granularities_consistent ⟨1048576⟩ ⟨1048576⟩).1.shortfall 1000 hfits).2.1
  have hmono := (granularities_consistent ⟨32768⟩ ⟨1048576⟩).2 hclock 100 1000 hlonger
  exact ⟨hfits, hlost.trans (by decide), hclock, hlonger, hmono.2.2⟩

end BoardSupport.BusyWait
