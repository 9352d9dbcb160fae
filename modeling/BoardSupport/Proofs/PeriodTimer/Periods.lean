import BoardSupport.PeriodTimer.Basic
import BoardSupport.Proofs.Program.Course
import BoardSupport.Proofs.Registers.Words
import BoardSupport.SleepClock.Basic
import Mathlib.Algebra.Group.Nat.Defs

/-!
# Periods

A period is counted in ticks of the auxiliary clock.  The number of counts is computed from the
milliseconds by a constant that makes a second the longest period, so a start either fits the compare
register exactly or is refused before anything is written.

- `Period`: what starting a period comes to, and `runs_start_iff`, whatever hardware there is.
- `period_doubled`: the constant is not the rate of the crystal, which is about half of it; a period
  from the crystal is twice as long as was asked for (`half_second_doubled`).
- `Fate` and `Kept`: what one command does, and what any commands in a row leave in the registers.
- `registers_follow_starts`: both, over all periods and all commands.
-/

namespace BoardSupport.PeriodTimer

variable {κ : Type}

/-! ## The count of a period -/

theorem toNat_counts (millis : UInt32) :
    (counts millis).toNat = millis.toNat * 65535 / 1000 := by
  have hproduct : (millis.toUInt64 * countsPerSecond).toNat = millis.toNat * 65535 :=
    toNat_mul_toUInt64 millis 65535
  rw [counts, UInt64.toNat_div, hproduct]
  rfl

/-- The compare register holds the counts of a second and no more. -/
theorem counts_le_iff (millis : UInt32) : counts millis ≤ 0xFFFF ↔ millis.toNat ≤ 1000 := by
  rw [UInt64.le_iff_toNat_le, toNat_counts]
  show millis.toNat * 65535 / 1000 ≤ 65535 ↔ _
  omega

/-- Each millisecond adds to the count. -/
theorem counts_lt {millis millis' : UInt32} (h : millis < millis') :
    counts millis < counts millis' := by
  have hlt : millis.toNat < millis'.toNat := UInt32.lt_iff_toNat_lt.1 h
  rw [UInt64.lt_iff_toNat_lt, toNat_counts, toNat_counts]
  omega

theorem toNat_toUInt16_counts {millis : UInt32} (h : millis.toNat ≤ 1000) :
    (counts millis).toUInt16.toNat = millis.toNat * 65535 / 1000 := by
  rw [UInt64.toNat_toUInt16, toNat_counts]
  omega

/-- Counting up on the auxiliary clock, from zero on. -/
def upFromAuxiliary : BitVec 16 :=
  TimerControl.auxiliaryClock ||| TimerControl.up ||| TimerControl.clear

/-- The calls that start a period. -/
def startCalls (millis : UInt32) : List (Event (interface κ)) :=
  [⟨.setCompareControl CompareControl.compareEnable, ()⟩,
    ⟨.setCompare (counts millis).toUInt16, ()⟩, ⟨.setControl upFromAuxiliary, ()⟩]

theorem start_of_le {millis : UInt32} (h : millis.toNat ≤ 1000) :
    start (κ := κ) millis = .call (.setCompareControl CompareControl.compareEnable) fun _ =>
      .call (.setCompare (counts millis).toUInt16) fun _ =>
        .call (.setControl upFromAuxiliary) fun _ => .done (.ok ()) := by
  rw [start, if_pos ((counts_le_iff millis).2 h)]
  rfl

theorem start_of_lt {millis : UInt32} (h : 1000 < millis.toNat) :
    start (κ := κ) millis = .done (.error (.periodTooLong millis)) := by
  rw [start, if_neg (fun hfits => absurd ((counts_le_iff millis).1 hfits) (by omega))]
  rfl

/-- Starting a period makes the three calls or none. -/
theorem runs_start_iff {millis : UInt32} {es : List (Event (interface κ))}
    {r : Except Error Unit} : Program.Runs (start millis) es r ↔
      (millis.toNat ≤ 1000 ∧ r = .ok () ∧ es = startCalls millis) ∨
        (1000 < millis.toNat ∧ r = .error (.periodTooLong millis) ∧ es = []) := by
  by_cases h : millis.toNat ≤ 1000
  · have hnot : ¬ 1000 < millis.toNat := by omega
    rw [start_of_le h]
    simp only [h, hnot, true_and, false_and, or_false]
    constructor
    · intro hruns
      obtain ⟨⟨⟩, _, rfl, hcompare⟩ := Program.runs_call_iff.1 hruns
      obtain ⟨⟨⟩, _, rfl, hcontrol⟩ := Program.runs_call_iff.1 hcompare
      obtain ⟨⟨⟩, _, rfl, hend⟩ := Program.runs_call_iff.1 hcontrol
      obtain ⟨rfl, rfl⟩ := Program.runs_done_iff.1 hend
      exact ⟨rfl, rfl⟩
    · rintro ⟨rfl, rfl⟩
      exact .call (.call (.call (.done _)))
  · have hlt : 1000 < millis.toNat := by omega
    rw [start_of_lt hlt, Program.runs_done_iff]
    simp only [h, hlt, true_and, false_and, false_or, and_comm]

/-- What starting a period comes to. -/
structure Period (κ : Type) (millis : UInt32) : Prop where
  /-- The product fits a word of 64 bits. -/
  product : millis.toNat * 65535 < 2 ^ 64
  /-- The count is computed in such words, and none of them runs over. -/
  computed : (millis.toUInt64 * countsPerSecond).toNat = millis.toNat * 65535 ∧
    (counts millis).toNat = millis.toNat * 65535 / 1000
  /-- It fits the compare register up to a second. -/
  fits : millis.toNat * 65535 / 1000 < 2 ^ 16 ↔ millis.toNat ≤ 1000
  accepted : millis.toNat ≤ 1000 → ∃ count : UInt16, count.toNat = millis.toNat * 65535 / 1000 ∧
    ∀ (es : List (Event (interface κ))) (r : Except Error Unit),
      Program.Runs (start millis) es r ↔ r = .ok () ∧
        es = [⟨.setCompareControl CompareControl.compareEnable, ()⟩, ⟨.setCompare count, ()⟩,
          ⟨.setControl (TimerControl.auxiliaryClock ||| TimerControl.up ||| TimerControl.clear), ()⟩]
  refused : 1000 < millis.toNat → ∀ (es : List (Event (interface κ))) (r : Except Error Unit),
    Program.Runs (start millis) es r ↔ r = .error (.periodTooLong millis) ∧ es = []

theorem period (κ : Type) (millis : UInt32) : Period κ millis := by
  have hmillis : millis.toNat < 2 ^ 32 := millis.toNat_lt
  refine ⟨by omega, ⟨toNat_mul_toUInt64 millis 65535, toNat_counts millis⟩, by omega,
    fun h => ?_, fun h => ?_⟩
  · refine ⟨(counts millis).toUInt16, toNat_toUInt16_counts h, fun es r => ?_⟩
    rw [runs_start_iff]
    simp only [h, Nat.not_lt.2 h, true_and, false_and, or_false]
    rfl
  · intro es r
    rw [runs_start_iff]
    simp only [h, Nat.not_le.2 h, true_and, false_and, false_or]

/-! ## The rate of the crystal -/

/-- The ticks of the crystal in a period, rounded down. -/
def crystalTicks (millis : UInt32) : Nat :=
  millis.toNat * SleepClock.Source.crystal.ticksPerSecond.toNat / 1000

/-- What a call loads into the compare register. -/
def loaded? : Event (interface κ) → Option Nat
  | ⟨.setCompare value, _⟩ => some value.toNat
  | _ => none

/-- Starting a period loads the ticks of the crystal, and is refused only if they do not fit. -/
def CountsCrystal (κ : Type) (millis : UInt32) : Prop :=
  ∀ (es : List (Event (interface κ))) (r : Except Error Unit), Program.Runs (start millis) es r →
    if crystalTicks millis < 2 ^ 16 then r = .ok () ∧ es.filterMap loaded? = [crystalTicks millis]
    else r = .error (.periodTooLong millis)

theorem crystalTicks_eq (millis : UInt32) : crystalTicks millis = millis.toNat * 32768 / 1000 := rfl

/-- The compare register holds the ticks of nearly two seconds. -/
theorem crystalTicks_lt_iff (millis : UInt32) :
    crystalTicks millis < 2 ^ 16 ↔ millis.toNat < 2000 := by
  rw [crystalTicks_eq]
  omega

theorem loaded_startCalls {millis : UInt32} (h : millis.toNat ≤ 1000) :
    (startCalls (κ := κ) millis).filterMap loaded? = [millis.toNat * 65535 / 1000] :=
  congrArg (fun n => [n]) (toNat_toUInt16_counts h)

/-- Only a period of no length, or one that is too long at either rate, is what the crystal makes of
it. -/
theorem countsCrystal_iff (κ : Type) (millis : UInt32) :
    CountsCrystal κ millis ↔ millis.toNat = 0 ∨ 2000 ≤ millis.toNat := by
  have hticks := crystalTicks_lt_iff millis
  constructor
  · intro h
    by_cases hone : millis.toNat ≤ 1000
    · have hstart := h _ _ (runs_start_iff.2 (.inl ⟨hone, rfl, rfl⟩))
      rw [if_pos (hticks.2 (by omega)), loaded_startCalls hone] at hstart
      have hsame := List.singleton_inj.1 hstart.2
      rw [crystalTicks_eq] at hsame
      omega
    · refine .inr (Nat.not_lt.1 fun htwo => ?_)
      have hstart := h _ _ (runs_start_iff.2 (.inr ⟨by omega, rfl, rfl⟩))
      rw [if_pos (hticks.2 htwo)] at hstart
      exact absurd hstart.1 nofun
  · intro h es r hruns
    obtain ⟨hone, rfl, rfl⟩ | ⟨hone, rfl, rfl⟩ := runs_start_iff.1 hruns
    · have hzero : millis.toNat = 0 := by omega
      rw [if_pos (hticks.2 (by omega)), loaded_startCalls hone, crystalTicks_eq, hzero]
      exact ⟨rfl, rfl⟩
    · rw [if_neg (by omega)]

/-- Every period that is started, but the one of no length, is counted as about twice the ticks that the
crystal makes in it, and periods between one and two seconds are refused although their ticks fit. -/
theorem period_doubled (κ : Type) (millis : UInt32) :
    (∀ (es : List (Event (interface κ))) (r : Except Error Unit),
      Program.Runs (start millis) es r →
        (r = .ok () ∧ ∃ count, es.filterMap loaded? = [count] ∧
          2 * crystalTicks millis ≤ count + 1 ∧ count ≤ 2 * crystalTicks millis + 1) ∨
        (r = .error (.periodTooLong millis) ∧ es = [] ∧ 1000 < millis.toNat)) ∧
      (crystalTicks millis < 2 ^ 16 ↔ millis.toNat < 2000) ∧
      (CountsCrystal κ millis ↔ millis.toNat = 0 ∨ 2000 ≤ millis.toNat) := by
  refine ⟨fun es r hruns => ?_, crystalTicks_lt_iff millis, countsCrystal_iff κ millis⟩
  obtain ⟨hone, rfl, rfl⟩ | ⟨hone, rfl, rfl⟩ := runs_start_iff.1 hruns
  · refine .inl ⟨rfl, _, loaded_startCalls hone, ?_⟩
    rw [crystalTicks_eq]
    omega
  · exact .inr ⟨rfl, rfl, hone⟩

/-- A second is started with the counts of nearly two. -/
theorem second_doubled :
    Program.Runs (start (κ := Empty) 1000) (startCalls 1000) (.ok ()) ∧
      ∃ count, (startCalls (κ := Empty) 1000).filterMap loaded? = [count] ∧
        2 * crystalTicks 1000 ≤ count + 1 := by
  have hruns : Program.Runs (start (κ := Empty) 1000) (startCalls 1000) (.ok ()) :=
    runs_start_iff.2 (.inl ⟨by decide, rfl, rfl⟩)
  obtain ⟨-, count, hcount, hticks, -⟩ | ⟨hrefused, -⟩ := (period_doubled Empty 1000).1 _ _ hruns
  · exact ⟨hruns, count, hcount, hticks⟩
  · cases hrefused

/-- Half a second is counted as 32767 ticks where the crystal makes 16384, and a second and a half is
refused although its ticks fit. -/
theorem half_second_doubled :
    ¬ CountsCrystal Empty 500 ∧ ¬ CountsCrystal Empty 1500 ∧
      crystalTicks 500 = 16384 ∧ (startCalls (κ := Empty) 500).filterMap loaded? = [32767] ∧
      crystalTicks 1500 < 2 ^ 16 ∧
      Program.Runs (start (κ := Empty) 1500) [] (.error (.periodTooLong 1500)) := by
  rw [countsCrystal_iff, countsCrystal_iff]
  exact ⟨by decide, by decide, rfl, rfl, by decide,
    runs_start_iff.2 (.inr ⟨by decide, rfl, rfl⟩)⟩

/-! ## One command -/

/-- The timer's driver on registers that remember. -/
abbrev onRegisters : Performer (commands κ) (interface κ) (PeriodTimer κ × RegisterFile κ) :=
  Performer.ofDriver RegisterFile.handler perform

/-- A turn of the period timer on such registers. -/
abbrev TimerTurn (κ : Type) : Type :=
  Turn (commands κ) (interface κ) (PeriodTimer κ × RegisterFile κ)

/-- What a command does: its answer, the calls made for it, and what becomes of the driver and of the
registers. -/
inductive Fate : TimerTurn κ → Prop
  | started (timer : PeriodTimer κ) (f : RegisterFile κ) {millis : UInt32}
      (h : millis.toNat ≤ 1000) :
      Fate ⟨.start millis, (timer, f), .ok (), startCalls millis, (timer,
        { f with
          compareControl := some CompareControl.compareEnable
          compare := some (counts millis).toUInt16
          control := some upFromAuxiliary })⟩
  | refused (s : PeriodTimer κ × RegisterFile κ) {millis : UInt32} (h : 1000 < millis.toNat) :
      Fate ⟨.start millis, s, .error (.periodTooLong millis), [], s⟩
  | stopped (timer : PeriodTimer κ) (f : RegisterFile κ) :
      Fate ⟨.stop, (timer, f), (), [⟨.setControl 0, ()⟩], (timer, { f with control := some 0 })⟩
  | set (timer : PeriodTimer κ) (f : RegisterFile κ) (callback : κ) :
      Fate ⟨.setCallback callback, (timer, f), (), [], (⟨some callback⟩, f)⟩
  | ran (f : RegisterFile κ) (callback : κ) :
      Fate ⟨.onInterrupt, (⟨some callback⟩, f), (), [⟨.run callback, ()⟩],
        (⟨some callback⟩, { f with runs := f.runs ++ [callback] })⟩
  | idle (f : RegisterFile κ) : Fate ⟨.onInterrupt, (⟨none⟩, f), (), [], (⟨none⟩, f)⟩

theorem fate_turn (c : Command κ) (s : PeriodTimer κ × RegisterFile κ) :
    Fate (onRegisters.turn c s) := by
  obtain ⟨timer, f⟩ := s
  cases c with
  | start millis =>
    have hrun : (perform (.start millis)).run timer =
        start millis >>= fun r => .done (r, timer) := StateT.run_lift (start millis) timer
    rw [Performer.turn_ofDriver, hrun]
    by_cases h : millis.toNat ≤ 1000
    · rw [start_of_le h]
      exact .started timer f h
    · have hlt : 1000 < millis.toNat := by omega
      rw [start_of_lt hlt]
      exact .refused (timer, f) hlt
  | stop => exact .stopped timer f
  | setCallback callback => exact .set timer f callback
  | onInterrupt =>
    obtain ⟨callback | callback⟩ := timer
    · exact .idle f
    · exact .ran f _

/-! ## Commands in a row -/

/-- The period that a turn has started. -/
def started? : TimerTurn κ → Option UInt32
  | ⟨.start millis, _, .ok (), _, _⟩ => some millis
  | _ => none

/-- What a turn has done to the timer's control register. -/
def controlled? : TimerTurn κ → Option (BitVec 16)
  | ⟨.start _, _, .ok (), _, _⟩ => some upFromAuxiliary
  | ⟨.stop, _, _, _, _⟩ => some 0
  | _ => none

/-- The callback that a turn has set. -/
def callbackSet? : TimerTurn κ → Option κ
  | ⟨.setCallback callback, _, _, _, _⟩ => some callback
  | _ => none

/-- The callback that a call runs. -/
def run? : Event (interface κ) → Option κ
  | ⟨.run callback, _⟩ => some callback
  | _ => none

/-- The callback that an interrupt finds after some turns. -/
def callbackAfter (timer : PeriodTimer κ) (turns : List (TimerTurn κ)) : Option κ :=
  (Turn.latest callbackSet? turns).or timer.callback

/-- What some turns leave behind, if they began with the driver and the registers of `start`. -/
structure Kept (start : PeriodTimer κ × RegisterFile κ) (turns : List (TimerTurn κ))
    (s : PeriodTimer κ × RegisterFile κ) : Prop where
  compareControl : s.2.compareControl =
    ((Turn.latest started? turns).map fun _ => CompareControl.compareEnable).or
      start.2.compareControl
  compare : s.2.compare.map UInt16.toNat =
    ((Turn.latest started? turns).map fun millis => millis.toNat * 65535 / 1000).or
      (start.2.compare.map UInt16.toNat)
  control : s.2.control = (Turn.latest controlled? turns).or start.2.control
  callback : s.1.callback = callbackAfter start.1 turns
  runs : s.2.runs = start.2.runs ++ (Turn.log turns).filterMap run?

theorem Kept.start (start : PeriodTimer κ × RegisterFile κ) : Kept start [] start :=
  ⟨rfl, rfl, rfl, rfl, (List.append_nil start.2.runs).symm⟩

/-- Each command keeps it. -/
theorem Kept.concat {start : PeriodTimer κ × RegisterFile κ} {turns : List (TimerTurn κ)}
    {turn : TimerTurn κ} (h : Kept start turns turn.before) (hfate : Fate turn) :
    Kept start (turns ++ [turn]) turn.after := by
  obtain ⟨hcompareControl, hcompare, hcontrol, hcallback, hruns⟩ := h
  constructor
  · rw [Turn.latest_concat]
    cases hfate <;> first | exact hcompareControl | rfl
  · rw [Turn.latest_concat]
    cases hfate with
    | started timer f h => exact congrArg some (toNat_toUInt16_counts h)
    | _ => exact hcompare
  · rw [Turn.latest_concat]
    cases hfate <;> first | exact hcontrol | rfl
  · rw [callbackAfter, Turn.latest_concat]
    cases hfate <;> first | exact hcallback | rfl
  · rw [Turn.log_concat, List.filterMap_append, ← List.append_assoc, ← hruns]
    cases hfate <;> first | exact (List.append_nil _).symm | rfl

/-- What a turn runs: an interrupt what `callback` names and nothing else, other commands nothing. -/
structure Serves (callback : Option κ) (turn : TimerTurn κ) : Prop where
  interrupt : turn.command = .onInterrupt →
    turn.calls = callback.toList.map fun callback => ⟨.run callback, ()⟩
  others : turn.command ≠ .onInterrupt → turn.calls.filterMap run? = []

theorem Fate.serves {turn : TimerTurn κ} (h : Fate turn) : Serves turn.before.1.callback turn := by
  cases h with
  | ran f callback => exact ⟨fun _ => rfl, fun hnot => absurd rfl hnot⟩
  | idle f => exact ⟨fun _ => rfl, fun hnot => absurd rfl hnot⟩
  | _ => exact ⟨nofun, fun _ => rfl⟩

/-- Periods are accepted up to a second, and longer ones have longer counts.  Over any commands, the
registers hold what the last start that was accepted has written, or a later stop, and each interrupt
runs the callback that was set last. -/
theorem registers_follow_starts (cs : List (Command κ)) (start : PeriodTimer κ × RegisterFile κ) :
    (∀ millis, Period κ millis) ∧
      (∀ millis millis' : UInt32, millis < millis' → millis'.toNat ≤ 1000 →
        counts millis < counts millis') ∧
      ∀ before turn later, (onRegisters.play cs start).1 = before ++ turn :: later →
        Kept start (before ++ [turn]) turn.after ∧ Serves (callbackAfter start.1 before) turn := by
  refine ⟨period κ, fun _ _ hlt _ => counts_lt hlt, fun before turn later hsplit => ?_⟩
  obtain ⟨c, s, rfl, hs⟩ := Performer.exists_turn (p := onRegisters) (P := Kept start)
    (fun _ c s h => h.concat (fate_turn c s)) cs [] (Kept.start start) hsplit
  have hfate := fate_turn c s
  refine ⟨hs.concat hfate, ?_⟩
  have hcallback : s.1.callback = callbackAfter start.1 before := hs.callback
  rw [← hcallback]
  exact hfate.serves

/-- A start that is refused leaves the registers to the one before it. -/
example : (onRegisters.play [.start 10, .setCallback 'a', .start 1001, .onInterrupt, .stop]
      ({}, {})).2 =
    (⟨some 'a'⟩, ⟨some 0, some CompareControl.compareEnable, some 655, ['a']⟩) := by
  decide

end BoardSupport.PeriodTimer
