import BoardSupport.Proofs.Program.Simulation
import BoardSupport.Proofs.Registers.Bits
import BoardSupport.SleepClock.Basic
import Mathlib.Algebra.Order.Field.Rat
import Mathlib.Logic.Function.Iterate

/-!
# Waking up in time

Nothing but the overflow of the counter ends a sleep, so the core must not go to sleep unless the
overflow is on its way: its interrupt has to be enabled, and the counter has to run, on the clock
that was asked for, from the right count on.

- `Timely`: the right count is the one that `startCount` computes; `timely` says so for all times
  and both clocks.
- `Armed`: what has to be in the registers when the core goes to sleep.
- `Wakeful`: all that there is to say of one command, and `sleeps_armed`, of any commands in a row.
-/

namespace BoardSupport.SleepClock

open Program (Executes)

/-! ## The time of the overflow -/

/-- A counter that counts up from `start` gets to zero after so many steps and not before. -/
structure WrapsAfter (steps : ℕ) (start : UInt32) : Prop where
  zero : (· + 1)^[steps] start = 0
  first : ∀ i < steps, (· + 1)^[i] start ≠ 0

/-- The time, in seconds, at which a counter makes its `n`th step, if it makes the first one `phase`
ticks after it was started. -/
def stepTime (source : Source) (phase : ℚ) (n : ℕ) : ℚ :=
  (phase + (n - 1)) / source.ticksPerSecond.toNat

/-- From the count that is computed for a sleep the counter overflows in time. -/
structure Timely (seconds : UInt16) (source : Source) : Prop where
  /-- The number of ticks fits the counter. -/
  ticks : (source.ticksPerSecond * seconds.toUInt32).toNat =
    source.ticksPerSecond.toNat * seconds.toNat
  /-- They can be taken from its highest value. -/
  count : (startCount seconds source).toNat + source.ticksPerSecond.toNat * seconds.toNat =
    2 ^ 32 - 1
  wraps : WrapsAfter (source.ticksPerSecond.toNat * seconds.toNat + 1) (startCount seconds source)
  /-- The sleep is as long as it should be, and at most one tick longer. -/
  bounds : ∀ phase : ℚ, 0 ≤ phase → phase ≤ 1 →
    let time := stepTime source phase (source.ticksPerSecond.toNat * seconds.toNat + 1)
    seconds.toNat ≤ time ∧ time ≤ seconds.toNat + 1 / source.ticksPerSecond.toNat

theorem toNat_iterate (n : ℕ) (start : UInt32) :
    ((· + 1)^[n] start).toNat = (start.toNat + n) % 2 ^ 32 := by
  induction n with
  | zero => exact (Nat.mod_eq_of_lt start.toNat_lt).symm
  | succ n ih =>
    rw [Function.iterate_succ_apply', UInt32.toNat_add, ih, Nat.mod_add_mod]
    rfl

/-- A counter wraps as soon as the steps make up for what is missing. -/
theorem wrapsAfter_of_add_eq {start : UInt32} {n : ℕ} (h : start.toNat + n = 2 ^ 32)
    (hn : n < 2 ^ 32) : WrapsAfter n start := by
  constructor
  · refine UInt32.toNat_inj.1 ?_
    rw [toNat_iterate, h, Nat.mod_self]
    rfl
  · intro i hi hzero
    have hcount := congrArg UInt32.toNat hzero
    rw [toNat_iterate, Nat.mod_eq_of_lt (by omega)] at hcount
    have hnone : start.toNat + i = 0 := hcount
    omega

theorem timely (seconds : UInt16) (source : Source) : Timely seconds source := by
  have hrate : 0 < source.ticksPerSecond.toNat ∧ source.ticksPerSecond.toNat ≤ 32768 := by
    cases source <;> decide
  have hseconds : seconds.toNat ≤ 65535 := Nat.le_of_lt_succ seconds.toNat_lt
  have hbound : source.ticksPerSecond.toNat * seconds.toNat ≤ 32768 * 65535 :=
    Nat.mul_le_mul hrate.2 hseconds
  have hticks : (source.ticksPerSecond * seconds.toUInt32).toNat =
      source.ticksPerSecond.toNat * seconds.toNat := by
    rw [UInt32.toNat_mul, UInt16.toNat_toUInt32]
    exact Nat.mod_eq_of_lt (by omega)
  have hcount : (startCount seconds source).toNat +
      source.ticksPerSecond.toNat * seconds.toNat = 2 ^ 32 - 1 := by
    have hle : source.ticksPerSecond * seconds.toUInt32 ≤ 0xFFFFFFFF := by
      rw [UInt32.le_iff_toNat_le, hticks]
      exact hbound.trans (by decide)
    have hmax : (0xFFFFFFFF : UInt32).toNat = 2 ^ 32 - 1 := rfl
    rw [startCount, UInt32.toNat_sub_of_le _ _ hle, hticks, hmax]
    omega
  refine ⟨hticks, hcount, wrapsAfter_of_add_eq (by omega) (by omega), ?_⟩
  intro phase hzero hone time
  have hpos : (0 : ℚ) < source.ticksPerSecond.toNat := Nat.cast_pos.2 hrate.1
  have htime : time = seconds.toNat + phase / source.ticksPerSecond.toNat := by
    show (phase + ((_ : ℕ) - 1)) / _ = _
    rw [Nat.cast_add_one, add_sub_cancel_right, Nat.cast_mul, add_div,
      mul_div_cancel_left₀ _ hpos.ne', add_comm]
  rw [htime]
  constructor
  · exact le_add_of_nonneg_right (div_nonneg hzero hpos.le)
  · exact add_le_add_right (div_le_div_of_nonneg_right hone hpos.le) _

/-! ## One command -/

/-- The registers as a machine.  During a wait anything may happen to them, and then it ends. -/
def machine (wait : RegisterFile → RegisterFile) : Machine interface RegisterFile Empty :=
  unfailing fun
    | .enterLowPower => fun s => ((), wait (RegisterFile.handler .enterLowPower s).2)
    | c => RegisterFile.handler c

/-- If nothing happens, these are the registers that remember. -/
theorem machine_id : machine id = unfailing RegisterFile.handler := by
  funext c
  cases c <;> rfl

/-- If the overflow's interrupt is served, these are the registers on which it ends a wait. -/
theorem machine_waking :
    machine (fun s => (onInterrupt.interpret RegisterFile.handler (RegisterFile.overflow s).2).2) =
      unfailing (waking RegisterFile.handler RegisterFile.overflow) := by
  funext c
  cases c <;> rfl

/-- The source of the auxiliary clock, by the selection that was made. -/
def auxiliary (selection : BitVec 16) : Source :=
  if contains selection ClockControl4.auxiliaryFromLowPower then .lowPower else .crystal

/-- The registers see to it that a wait is ended by the overflow. -/
structure Armed (seconds : UInt16) (source : Source) (s : RegisterFile) : Prop where
  clocks : s.clocks.map auxiliary = some source
  counter : s.counter = some (startCount seconds source)
  enabled : ∃ value, s.control0 = some value ∧ contains value RtcControl0.eventEnable = true
  /-- All 32 bits are counted, and the counter is not held. -/
  running : s.control1 = some 0x03

/-- The low power mode is entered. -/
def isEntry (x : Event interface × RegisterFile) : Bool :=
  match x.1.call with
  | .enterLowPower => true
  | _ => false

/-- The command has to wait. -/
def Command.waits : Command → Bool
  | .sleep seconds _ => seconds != 0
  | .onInterrupt => false

/-- A command that was performed on the registers. -/
abbrev Performed : Type := Transition commands interface RegisterFile

/-- The core goes to sleep only if it will wake up. -/
structure Wakeful (d : Performed) : Prop where
  /-- The low power mode is entered once if there is something to wait for, and otherwise never. -/
  entries : d.calls.countP isEntry = if Command.waits d.command then 1 else 0
  /-- Clock, counter, interrupt enable and mode are set in this order, before it is entered. -/
  slept : ∀ seconds source, d.command = .sleep seconds source → seconds ≠ 0 →
    d.calls.map (fun x => x.1.call) =
        [.selectClocks source.selection, .loadCounter (startCount seconds source), .readControl0,
          .setControl0 (d.before.readControl0 ||| RtcControl0.eventEnable), .setControl1 0x03,
          .enterLowPower] ∧
      ∀ x ∈ d.calls, isEntry x = true → Armed seconds source x.2
  idle : ∀ source, d.command = .sleep 0 source → d.calls = [] ∧ d.after = d.before
  /-- The interrupt is acknowledged, and the counter is held at zero. -/
  served : d.command = .onInterrupt → d.after.readControl0 &&& RtcControl0.eventFlag = 0 ∧
    d.after.control1 = some RtcControl1.hold ∧ d.after.counter = some 0

theorem auxiliary_selection (source : Source) : auxiliary source.selection = source := by
  cases source <;> rfl

variable {wait : RegisterFile → RegisterFile}

theorem executes_sleep (seconds : UInt16) (source : Source) (s : RegisterFile) :
    ∃ es t, Executes (machine wait) s (sleep seconds source) es () t ∧
      Wakeful ⟨.sleep seconds source, s, (), es, t⟩ := by
  by_cases hseconds : seconds = 0
  · subst hseconds
    refine ⟨[], s, .done s (), rfl, ?_, fun _ _ => ⟨rfl, rfl⟩, nofun⟩
    rintro seconds source' hcommand hne
    obtain ⟨rfl, -⟩ := Command.sleep.inj hcommand
    exact absurd rfl hne
  · rw [sleep, if_neg hseconds]
    refine ⟨_, _, .call rfl (.call rfl (.call rfl (.call rfl (.call rfl (.call rfl (.done _ _)))))),
      ?_, ?_, ?_, nofun⟩
    · have hwaits : Command.waits (.sleep seconds source) = true := bne_iff_ne.2 hseconds
      rw [hwaits]
      rfl
    · rintro seconds' source' hcommand -
      obtain ⟨rfl, rfl⟩ := Command.sleep.inj hcommand
      refine ⟨rfl, ?_⟩
      intro x hx hentry
      -- of the six calls only the last one is an entry
      simp only [List.mem_cons, List.not_mem_nil, or_false] at hx
      rcases hx with rfl | rfl | rfl | rfl | rfl | rfl <;> cases hentry
      have hclocks : some (auxiliary source.selection) = some source := by
        rw [auxiliary_selection]
      exact ⟨hclocks, rfl, ⟨_, rfl, contains_or_right _ _⟩, rfl⟩
    · rintro source' hcommand
      obtain ⟨rfl, -⟩ := Command.sleep.inj hcommand
      exact absurd rfl hseconds

theorem executes_onInterrupt (s : RegisterFile) :
    ∃ es t, Executes (machine wait) s onInterrupt es () t ∧
      Wakeful ⟨.onInterrupt, s, (), es, t⟩ := by
  refine ⟨_, _, .call rfl (.call rfl (.call rfl (.call rfl (.done _ _)))), rfl, nofun, nofun, ?_⟩
  intro _
  exact ⟨and_not_and_self _ _, rfl, rfl⟩

theorem executes_perform (c : Command) (s : RegisterFile) :
    ∃ r es t, Executes (machine wait) s (perform c) es r t ∧ Wakeful ⟨c, s, r, es, t⟩ := by
  cases c with
  | sleep seconds source => exact ⟨(), executes_sleep seconds source s⟩
  | onInterrupt => exact ⟨(), executes_onInterrupt s⟩

/-- A whole session enters the low power mode as often as there is something to wait for. -/
theorem countP_isEntry {ds : List Performed} (h : ∀ d ∈ ds, Wakeful d) :
    (ds.flatMap Transition.calls).countP isEntry =
      (ds.map Transition.command).countP Command.waits := by
  induction ds with
  | nil => rfl
  | cons d ds ih =>
    obtain ⟨hd, hds⟩ := List.forall_mem_cons.1 h
    rw [List.flatMap_cons, List.countP_append, hd.entries, ih hds, List.map_cons, List.countP_cons,
      Nat.add_comm]

/-- Whatever is in the registers, and whatever happens to them during a wait: the low power mode is
entered only when the overflow is sure to end it in time. -/
theorem sleeps_armed (wait : RegisterFile → RegisterFile) (cs : List Command) (s : RegisterFile) :
    (∃ ds t, (machine wait).session perform cs s = .ok (ds, t) ∧
        ds.map Transition.command = cs ∧ (∀ d ∈ ds, Wakeful d) ∧
        (ds.flatMap Transition.calls).countP isEntry = cs.countP Command.waits) ∧
      ∀ seconds source, Timely seconds source := by
  obtain ⟨ds, t, hsession, hcommands, hwakeful⟩ :=
    Machine.session_ok (P := Wakeful) executes_perform cs s (m := machine wait)
  refine ⟨⟨ds, t, hsession, hcommands, hwakeful, ?_⟩, timely⟩
  rw [countP_isEntry hwakeful, hcommands]

end BoardSupport.SleepClock
