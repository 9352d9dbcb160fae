import BoardSupport.PeripheralBus.Backends
import BoardSupport.Proofs.ByteMemory.Addresses
import BoardSupport.Proofs.Program.Simulation

/-!
# The clocks' registers on the bus

The sleep clock and the period timer reach their registers either as registers that remember, or as
accesses of the peripheral bus.  On a bus of plain memory the two ways agree: whatever is done, the
accesses of the bus can be read back as the calls of the registers, one after another (`Access`),
and what the registers hold is what lies at their addresses (`Mirrors`).

- `Stored`: what a writing of some bytes does to the cells; registers do not overlap, so a writing
  to one of them is no matter to the others (`Mirrors.store`).
- `simulation`: each call of the registers is carried out by the accesses that stand for it.
- `backends_agree`: any commands in a row do the same by both ways.
-/

namespace BoardSupport.PeripheralBus

open ByteMemory (consecutive)
open Program (Executes)

/-! ## The two ways -/

/-- The registers of both drivers; there are no callbacks. -/
abbrev clocks : Interface := SleepClock.interface.sum (PeriodTimer.interface Empty)

/-- What an application can ask of the two drivers. -/
inductive ClockCommand where
  | sleep (seconds : UInt16) (source : SleepClock.Source)
  | onInterrupt
  | start (millis : UInt32)
  | stop

abbrev ClockCommand.Answer : ClockCommand → Type
  | start _ => Except PeriodTimer.Error Unit
  | _ => Unit

abbrev clockCommands : Interface := ⟨ClockCommand, ClockCommand.Answer⟩

/-- Performs a command of either driver. -/
def performClocks : Handler clockCommands (Program clocks)
  | .sleep seconds source => (SleepClock.sleep seconds source).left
  | .onInterrupt => SleepClock.onInterrupt.left
  | .start millis => (PeriodTimer.start millis).right
  | .stop => PeriodTimer.stop.right

/-- The registers that remember, of both drivers. -/
structure Remembered where
  sleepClock : SleepClock.RegisterFile := {}
  periodTimer : PeriodTimer.RegisterFile Empty := {}

/-- These registers as hardware. -/
def remembering : Surroundings clocks Remembered
  | .inl c => fun f =>
    let (r, s) := SleepClock.RegisterFile.handler c f.sleepClock
    (r, { f with sleepClock := s })
  | .inr c => fun f =>
    let (r, t) := PeriodTimer.RegisterFile.handler c f.periodTimer
    (r, { f with periodTimer := t })

/-- The registers as accesses of the bus. -/
def backends : Handler clocks Routine := Handler.sum sleepClock (periodTimer nofun)

/-- Performs a command by way of the bus. -/
def performClocksOnBus : Handler clockCommands Routine := fun c =>
  (performClocks c).interpret backends

/-- The accesses of the bus that stand for a call of the registers. -/
inductive Access : Event clocks → List (Event interface) → Prop
  | selectClocks (value : BitVec 16) :
      Access ⟨.inl (.selectClocks value), ()⟩ [⟨.write16 0x0168 value, ()⟩]
  | readControl0 (value : BitVec 8) : Access ⟨.inl .readControl0, value⟩ [⟨.read8 0x04A0, ⟨value⟩⟩]
  | setControl0 (value : BitVec 8) :
      Access ⟨.inl (.setControl0 value), ()⟩ [⟨.write8 0x04A0 ⟨value⟩, ()⟩]
  | setControl1 (value : BitVec 8) :
      Access ⟨.inl (.setControl1 value), ()⟩ [⟨.write8 0x04A1 ⟨value⟩, ()⟩]
  /-- The counter is loaded byte by byte, the highest first. -/
  | loadCounter {ticks : UInt32} {b₀ b₁ b₂ b₃ : UInt8}
      (h : LittleEndian.value [b₀, b₁, b₂, b₃] = ticks.toNat) :
      Access ⟨.inl (.loadCounter ticks), ()⟩
        [⟨.write8 0x04B3 b₃, ()⟩, ⟨.write8 0x04B2 b₂, ()⟩, ⟨.write8 0x04B1 b₁, ()⟩,
          ⟨.write8 0x04B0 b₀, ()⟩]
  | enterLowPower : Access ⟨.inl .enterLowPower, ()⟩ [⟨.setStatus 0xD8, ()⟩]
  | setControl (value : BitVec 16) :
      Access ⟨.inr (.setControl value), ()⟩ [⟨.write16 0x0380 value, ()⟩]
  | setCompareControl (value : BitVec 16) :
      Access ⟨.inr (.setCompareControl value), ()⟩ [⟨.write16 0x0382 value, ()⟩]
  | setCompare (value : UInt16) :
      Access ⟨.inr (.setCompare value), ()⟩ [⟨.write16 0x0392 value.toBitVec, ()⟩]

/-! ## Registers in the cells -/

/-- The number of bytes of a register. -/
def RegisterName.width : RegisterName → ℕ
  | rtcControl0 | rtcControl1 => 1
  | rtcCounter => 4
  | flashControl1 | flashControl3 | clockControl4 | timerControl | compareControl | compare => 2

/-- What a register holds, if it is one of the two drivers' and was ever written.  Control register
0 of the real time clock can be read, and is zero at first. -/
def Remembered.held (f : Remembered) : RegisterName → Option ℕ
  | .flashControl1 | .flashControl3 => none
  | .clockControl4 => f.sleepClock.clocks.map BitVec.toNat
  | .rtcControl0 => some f.sleepClock.readControl0.toNat
  | .rtcControl1 => f.sleepClock.control1.map BitVec.toNat
  | .rtcCounter => f.sleepClock.counter.map UInt32.toNat
  | .timerControl => f.periodTimer.control.map BitVec.toNat
  | .compareControl => f.periodTimer.compareControl.map BitVec.toNat
  | .compare => f.periodTimer.compare.map UInt16.toNat

/-- What the registers hold lies at their addresses, the lowest byte first. -/
def Mirrors (f : Remembered) (cells : Cells) : Prop :=
  ∀ name, ∀ value ∈ f.held name,
    LittleEndian.value ((consecutive name.address name.width).map cells.get) = value

/-- Bytes were written to the cells from an address on, and nothing else was written. -/
structure Stored (cells : Cells) (address : UInt16) (bytes : List UInt8) (after : Cells) :
    Prop where
  stored : (consecutive address bytes.length).map after.get = bytes
  others : ∀ a, a ∉ consecutive address bytes.length → after.get a = cells.get a

section Cells

variable {cells after : Cells} {address : UInt16} {bytes : List UInt8} {f g : Remembered}
  {name : RegisterName}

theorem stored_word (word : UInt16) : Stored cells address [word.toUInt8, (word >>> 8).toUInt8]
    ((cells.set address word.toUInt8).set (address + 1) (word >>> 8).toUInt8) := by
  have hnext : address + 1 ≠ address := by simp
  constructor
  · simp [ByteMemory.consecutive_succ, Cells.get_set]
  · intro a ha
    simp only [List.length_cons, List.length_nil, ByteMemory.consecutive_succ,
      ByteMemory.consecutive_zero, List.mem_cons, List.not_mem_nil, not_or] at ha
    rw [Cells.get_set, Cells.get_set, if_neg (Ne.symm ha.2.1), if_neg (Ne.symm ha.1)]

/-- A byte is written in front of others that were written before it. -/
theorem Stored.cons {mid : Cells} {byte : UInt8} (h : Stored cells (address + 1) bytes mid)
    (haddress : address ∉ consecutive (address + 1) bytes.length) :
    Stored cells address (byte :: bytes) (mid.set address byte) := by
  constructor
  · rw [List.length_cons, ByteMemory.consecutive_succ, List.map_cons, Cells.get_set, if_pos rfl]
    congr 1
    conv => rhs; rw [← h.stored]
    refine List.map_congr_left fun a ha => ?_
    rw [Cells.get_set, if_neg]
    rintro rfl
    exact haddress ha
  · intro a ha
    rw [List.length_cons, ByteMemory.consecutive_succ, List.mem_cons, not_or] at ha
    rw [Cells.get_set, if_neg (Ne.symm ha.1), h.others a ha.2]

theorem stored_byte (byte : UInt8) : Stored cells address [byte] (cells.set address byte) := by
  have hnone : Stored cells (address + 1) [] cells := ⟨rfl, fun _ _ => rfl⟩
  exact hnone.cons List.not_mem_nil

theorem value_word (word : UInt16) :
    LittleEndian.value [word.toUInt8, (word >>> 8).toUInt8] = word.toNat := by
  have hword : word.toNat < 65536 := word.toNat_lt
  simp [LittleEndian.value, Nat.shiftRight_eq_div_pow]
  omega

/-- No two registers overlap. -/
theorem RegisterName.disjoint {other : RegisterName} (h : other ≠ name) :
    ∀ a ∈ consecutive other.address other.width, a ∉ consecutive name.address name.width := by
  have hnone : ((consecutive other.address other.width).any
      (consecutive name.address name.width).contains) = false := by
    cases name <;> cases other <;> first | exact absurd rfl h | rfl
  intro a ha hcommon
  rw [List.any_eq_false] at hnone
  exact hnone a ha (List.contains_iff_mem.2 hcommon)

/-- Writing to one register leaves the others alone. -/
theorem Mirrors.store {value : ℕ} (h : Mirrors f cells) (name : RegisterName)
    (hstored : Stored cells name.address bytes after) (hwidth : bytes.length = name.width)
    (hvalue : LittleEndian.value bytes = value)
    (hheld : ∀ other, g.held other = if other = name then some value else f.held other := by
      intro other; cases other <;> rfl) : Mirrors g after := by
  intro other v hv
  rw [hheld other] at hv
  by_cases hother : other = name
  · subst hother
    rw [if_pos rfl] at hv
    rw [← hwidth, hstored.stored, hvalue, Option.some.inj hv]
  · rw [if_neg hother] at hv
    rw [← h other v hv]
    congr 1
    refine List.map_congr_left fun a ha => hstored.others a ?_
    rw [hwidth]
    exact RegisterName.disjoint hother a ha

/-- Bytes that are written downwards are stored upwards. -/
theorem executes_writeDown (bytes : List UInt8) (address : UInt16) (cells : Cells)
    (hnodup : (consecutive address bytes.length).Nodup) :
    ∃ es after, Executes (unfailing memory) cells (writeDown address bytes) es () after ∧
      Stored cells address bytes after ∧
      es.map Prod.fst = (((consecutive address bytes.length).zip bytes).map fun x =>
        (⟨.write8 x.1 x.2, ()⟩ : Event interface)).reverse := by
  induction bytes generalizing address with
  | nil => exact ⟨[], cells, .done cells (), ⟨rfl, fun _ _ => rfl⟩, rfl⟩
  | cons byte bytes ih =>
    rw [List.length_cons, ByteMemory.consecutive_succ, List.nodup_cons] at hnodup
    obtain ⟨es, mid, hrun, hstored, hes⟩ := ih (address + 1) hnodup.2
    refine ⟨es ++ [(⟨.write8 address byte, ()⟩, mid)], mid.set address byte,
      hrun.bind (.send rfl), hstored.cons hnodup.1, ?_⟩
    rw [List.map_append, hes, List.length_cons, ByteMemory.consecutive_succ, List.zip_cons_cons]
    exact List.reverse_cons.symm

end Cells

/-! ## One call -/

section Calls

variable {f g : Remembered} {cells : Cells}

theorem Mirrors.control0 (h : Mirrors f cells) :
    cells.get 0x04A0 = ⟨f.sleepClock.readControl0⟩ := by
  have hvalue : (cells.get 0x04A0).toNat = f.sleepClock.readControl0.toNat :=
    h .rtcControl0 _ rfl
  exact UInt8.toNat_inj.1 hvalue

theorem executes_readControl0 (cells : Cells) :
    Executes (unfailing memory) cells (sleepClock .readControl0)
      [(⟨.read8 0x04A0, cells.get 0x04A0⟩, cells)] (cells.get 0x04A0).toBitVec cells :=
  .call rfl (.done cells _)

/-- Each call of the registers is carried out by the accesses that stand for it. -/
theorem simulation :
    Simulation (unfailing remembering) (unfailing memory) backends Mirrors Access := by
  intro f g cells c r h answered
  obtain ⟨rfl, rfl⟩ := Prod.mk.inj (Except.ok.inj answered)
  rcases c with c | c
  · cases c with
    | selectClocks value =>
      refine ⟨_, _, .send rfl, .selectClocks value, ?_⟩
      exact h.store .clockControl4 (stored_word _) rfl (value_word _)
    | readControl0 =>
      have hrun := executes_readControl0 cells
      rw [h.control0] at hrun
      exact ⟨_, cells, hrun, .readControl0 _, h⟩
    | setControl0 value =>
      refine ⟨_, _, .send rfl, .setControl0 value, ?_⟩
      exact h.store .rtcControl0 (stored_byte _) rfl rfl
    | setControl1 value =>
      refine ⟨_, _, .send rfl, .setControl1 value, ?_⟩
      exact h.store .rtcControl1 (stored_byte _) rfl rfl
    | loadCounter ticks =>
      have hvalue : LittleEndian.value (LittleEndian.bytes 4 ticks.toNat) = ticks.toNat := by
        rw [LittleEndian.value_bytes]
        exact Nat.mod_eq_of_lt ticks.toNat_lt
      have hnodup : (consecutive 0x04B0 (LittleEndian.bytes 4 ticks.toNat).length).Nodup := by
        rw [LittleEndian.length_bytes]
        decide
      obtain ⟨es, after, hrun, hstored, hes⟩ := executes_writeDown _ 0x04B0 cells hnodup
      refine ⟨es, after, hrun, ?_, h.store .rtcCounter hstored rfl hvalue⟩
      rw [hes]
      exact .loadCounter hvalue
    | enterLowPower => exact ⟨_, _, .send rfl, .enterLowPower, h⟩
  · cases c with
    | setControl value =>
      refine ⟨_, _, .send rfl, .setControl value, ?_⟩
      exact h.store .timerControl (stored_word _) rfl (value_word _)
    | setCompareControl value =>
      refine ⟨_, _, .send rfl, .setCompareControl value, ?_⟩
      exact h.store .compareControl (stored_word _) rfl (value_word _)
    | setCompare value =>
      refine ⟨_, _, .send rfl, .setCompare value, ?_⟩
      exact h.store .compare (stored_word _) rfl (value_word _)
    | run callback => exact callback.elim

end Calls

/-! ## Whole sessions -/

/-- The address that is written. -/
def Call.written? : Call → Option UInt16
  | .write16 address _ | .write8 address _ => some address
  | .read8 _ | .setStatus _ | .mask | .unmask => none

/-- The call sets the bits of the status register that make up the low power mode. -/
def entersLowPower : Event interface → Bool
  | ⟨.setStatus bits, _⟩ => bits == 0xD8
  | _ => false

/-- The addresses that the two drivers write to. -/
def clockAddresses : List UInt16 :=
  [0x0168, 0x04A0, 0x04A1, 0x0380, 0x0382, 0x0392, 0x04B3, 0x04B2, 0x04B1, 0x04B0]

/-- A command was performed by both ways, and did the same. -/
structure Agrees (d : Transition clockCommands clocks Remembered)
    (f : Transition clockCommands interface Cells) : Prop where
  /-- The answer is the same. -/
  same : f = ⟨d.command, f.before, d.answer, f.calls, f.after⟩
  before : Mirrors d.before f.before
  after : Mirrors d.after f.after
  /-- The accesses can be read as the calls, one after another. -/
  calls : Images Access (d.calls.map Prod.fst) (f.calls.map Prod.fst)
  /-- Nothing is written elsewhere. -/
  addresses : ∀ x ∈ f.calls, ∀ address ∈ x.1.call.written?, address ∈ clockAddresses
  /-- The status register is set as often as the low power mode is noted to be entered. -/
  entries : d.after.sleepClock.sleeps =
    d.before.sleepClock.sleeps + (f.calls.map Prod.fst).countP entersLowPower

theorem Access.written {e : Event clocks} {us : List (Event interface)} (h : Access e us) :
    ∀ u ∈ us, ∀ address ∈ u.call.written?, address ∈ clockAddresses := by
  cases h <;> simp [Call.written?, clockAddresses]

/-- A call enters the low power mode as often as its accesses do. -/
theorem Access.sleeps_eq {e : Event clocks} {us : List (Event interface)} (h : Access e us)
    (f : Remembered) : (remembering e.call f).2.sleepClock.sleeps =
      f.sleepClock.sleeps + us.countP entersLowPower := by
  cases h <;> rfl

theorem sleeps_of_executes {α : Type} {f g : Remembered} {p : Program clocks α}
    {es : History clocks Remembered} {us : List (Event interface)} {a : α}
    (e : Executes (unfailing remembering) f p es a g) (h : Images Access (es.map Prod.fst) us) :
    g.sleepClock.sleeps = f.sleepClock.sleeps + us.countP entersLowPower := by
  induction e generalizing us with
  | done f a =>
    cases h
    rfl
  | @call s t u c r next es a answered _ ih =>
    cases h with
    | cons first later =>
      have hanswer : remembering c s = (r, t) := Except.ok.inj answered
      have hfirst : (remembering c s).2.sleepClock.sleeps = _ := first.sleeps_eq s
      rw [hanswer] at hfirst
      rw [ih later, hfirst, List.countP_append, Nat.add_assoc]

/-- A single command does the same by both ways. -/
theorem agrees_perform (c : ClockCommand) (f : Remembered) (cells : Cells) (h : Mirrors f cells) :
    ∃ r es g us after, Executes (unfailing remembering) f (performClocks c) es r g ∧
      Executes (unfailing memory) cells (performClocksOnBus c) us r after ∧ Mirrors g after ∧
      Agrees ⟨c, f, r, es, g⟩ ⟨c, cells, r, us, after⟩ := by
  obtain ⟨r, es, g, hrun⟩ := executes_unfailing remembering (performClocks c) f
  obtain ⟨us, after, hbus, himages, hafter⟩ := hrun.simulated simulation h
  refine ⟨r, es, g, us, after, hrun, hbus, hafter, rfl, h, hafter, himages, ?_, ?_⟩
  · intro x hx
    obtain ⟨e, part, haccess, hmem⟩ := himages.exists_image (List.mem_map_of_mem hx)
    exact haccess.written _ hmem
  · exact sleeps_of_executes hrun himages

/-- From registers that mirror each other any commands do the same by both ways. -/
theorem backends_agree (cs : List ClockCommand) {f : Remembered} {cells : Cells}
    (h : Mirrors f cells) : ∃ ds g fs after,
      (unfailing remembering).session performClocks cs f = .ok (ds, g) ∧
      (unfailing memory).session performClocksOnBus cs cells = .ok (fs, after) ∧
      List.Forall₂ Agrees ds fs ∧ Mirrors g after :=
  Machine.sessions_related (Q := Agrees) agrees_perform cs h

/-- Nothing was ever written, and all memory is zero. -/
theorem mirrors_reset : Mirrors {} {} := by
  intro name value hvalue
  cases name with
  | rtcControl0 =>
    obtain rfl := Option.some.inj hvalue
    show (Cells.get {} 0x04A0).toNat = 0
    simp [Cells.get]
  | _ => cases hvalue

theorem backends_agree_reset : Mirrors {} {} ∧ ∃ ds g fs after,
      (unfailing remembering).session performClocks
        [.sleep 1 .crystal, .onInterrupt, .start 500, .stop] {} = .ok (ds, g) ∧
      (unfailing memory).session performClocksOnBus
        [.sleep 1 .crystal, .onInterrupt, .start 500, .stop] {} = .ok (fs, after) ∧
      List.Forall₂ Agrees ds fs ∧ Mirrors g after :=
  ⟨mirrors_reset, backends_agree _ mirrors_reset⟩

end BoardSupport.PeripheralBus
