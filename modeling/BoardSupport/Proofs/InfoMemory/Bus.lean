import BoardSupport.Proofs.InfoMemory.Refinement
import BoardSupport.PeripheralBus.Backends
import Mathlib.Data.List.Forall2

/-!
# Information memory by way of the peripheral bus

The flash controller can be reached in two ways: directly, or through its registers on the peripheral
bus.  `busHandler` says what the bus accesses mean to the array, and the two ways stay in lock-step:
each call of the one is one access of the other, made in the same state and leaving the same state
(`executes_onBus`), so whole sessions agree (`session_onBus`).

A control register takes the low byte of the word written to it, and the high byte is for the
password.  So the direct way may ask for a wider value than the bus can carry; `IsNarrow` rules that
out, and every call that information memory makes is narrow.
-/

namespace BoardSupport

open NorArray (Fault reprogramCalls)
open PeripheralBus (RegisterName)
open Program (Executes)

/-- The low byte of a word, as the value of a control register. -/
def PeripheralBus.lowByte (word : BitVec 16) : BitVec 16 := (word.setWidth 8).setWidth 16

/-- The high byte of a word. -/
def PeripheralBus.highByte (word : BitVec 16) : BitVec 8 := (word >>> 8).setWidth 8

/-- The array behind the peripheral bus: two addresses for words are its control registers, and no
other word is part of it; bytes are those of the array. -/
def NorArray.busHandler : Machine PeripheralBus.interface NorArray Fault
  | .write16 address word =>
    if address = 0x0140 then
      NorArray.handler (.setControl1 (PeripheralBus.lowByte word))
    else if address = 0x0144 then
      NorArray.handler (.setControl3 (PeripheralBus.lowByte word))
    else
      throw ⟨address⟩
  | .write8 address byte => NorArray.handler (.write address byte)
  | .read8 address => NorArray.handler (.read address)
  | .setStatus _ => pure ()
  | .mask => NorArray.handler .mask
  | .unmask => NorArray.handler .unmask

/-- A word on the bus carries a register's value: the password is in its high byte, and the value,
unchanged, in its low byte. -/
def PeripheralBus.Carries (word value : BitVec 16) : Prop :=
  highByte word = 0xA5 ∧ lowByte word = value

/-- The access of the bus that stands for a call of the controller. -/
inductive PeripheralBus.Wired : Flash.Call → PeripheralBus.Call → Prop
  /-- Control register 1 is written. -/
  | setControl1 {value word : BitVec 16} (h : Carries word value) :
      Wired (.setControl1 value) (.write16 0x0140 word)
  /-- Control register 3 is written. -/
  | setControl3 {value word : BitVec 16} (h : Carries word value) :
      Wired (.setControl3 value) (.write16 0x0144 word)
  /-- A byte is read. -/
  | read (address : UInt16) : Wired (.read address) (.read8 address)
  /-- A byte is written. -/
  | write (address : UInt16) (byte : UInt8) : Wired (.write address byte) (.write8 address byte)
  /-- Interrupts are masked. -/
  | mask : Wired .mask .mask
  /-- One masking is undone. -/
  | unmask : Wired .unmask .unmask

/-- The address of the byte that an access of the bus is to. -/
def PeripheralBus.Call.byteAddress? : PeripheralBus.Call → Option UInt16
  | .read8 address | .write8 address _ => some address
  | .write16 _ _ | .setStatus _ | .mask | .unmask => none

/-! ## One call -/

namespace PeripheralBus.Wired

theorem word_written {c : Flash.Call} {a : UInt16} {word : BitVec 16}
    (h : Wired c (.write16 a word)) : (a = 0x0140 ∨ a = 0x0144) ∧ highByte word = 0xA5 := by
  cases h with
  | setControl1 hcarries => exact ⟨.inl rfl, hcarries.1⟩
  | setControl3 hcarries => exact ⟨.inr rfl, hcarries.1⟩

theorem byteAddress?_eq {c : Flash.Call} {b : PeripheralBus.Call} (h : Wired c b) :
    b.byteAddress? = c.address? := by
  cases h <;> rfl

end PeripheralBus.Wired

namespace NorArray

/-- The value fits a control register on the bus. -/
def IsNarrow : Flash.Call → Prop
  | .setControl1 value | .setControl3 value => PeripheralBus.Carries
      (PeripheralBus.flashPassword ||| value) value
  | .mask | .unmask | .read _ | .write _ _ => True

/-- The access that the bus carries a call out by. -/
def wire : (c : Flash.Call) → (r : c.Reply) → Event PeripheralBus.interface
  | .mask, r => ⟨.mask, r⟩
  | .unmask, r => ⟨.unmask, r⟩
  | .setControl1 value, r =>
    ⟨.write16 RegisterName.flashControl1.address (PeripheralBus.flashPassword ||| value), r⟩
  | .setControl3 value, r =>
    ⟨.write16 RegisterName.flashControl3.address (PeripheralBus.flashPassword ||| value), r⟩
  | .read address, r => ⟨.read8 address, r⟩
  | .write address byte, r => ⟨.write8 address byte, r⟩

theorem wired_wire {c : Flash.Call} (h : IsNarrow c) (r : c.Reply) :
    PeripheralBus.Wired c (wire c r).call := by
  cases c with
  | mask => exact .mask
  | unmask => exact .unmask
  | setControl1 value => exact .setControl1 h
  | setControl3 value => exact .setControl3 h
  | read address => exact .read address
  | write address byte => exact .write address byte

/-- One call of the controller is one access of the bus. -/
theorem executes_wire {s t : NorArray} {c : Flash.Call} {r : c.Reply} (hnarrow : IsNarrow c)
    (answered : (handler c).run s = .ok (r, t)) :
    Executes busHandler s (PeripheralBus.flash c) [(wire c r, s)] r t := by
  cases c with
  | mask => exact .send answered
  | unmask => exact .send answered
  | setControl1 value =>
    refine .send ?_
    -- the register takes the low byte, and that is the whole value
    have hvalue : PeripheralBus.lowByte (PeripheralBus.flashPassword ||| value) = value :=
      hnarrow.2
    show (handler (.setControl1 (PeripheralBus.lowByte _))).run s = _
    rw [hvalue]
    exact answered
  | setControl3 value =>
    refine .send ?_
    have hvalue : PeripheralBus.lowByte (PeripheralBus.flashPassword ||| value) = value :=
      hnarrow.2
    show (handler (.setControl3 (PeripheralBus.lowByte _))).run s = _
    rw [hvalue]
    exact answered
  | read address => exact .send answered
  | write address byte => exact .send answered

/-- A program on the controller makes the same way through the bus. -/
theorem executes_onBus {α : Type} {s t : NorArray} {p : Flash.Routine α}
    {es : History Flash.interface NorArray} {a : α} (e : Executes handler s p es a t)
    (hnarrow : ∀ x ∈ es, IsNarrow x.1.call) :
    Executes busHandler s (p.interpret PeripheralBus.flash)
      (es.map fun x => (wire x.1.call x.1.reply, x.2)) a t := by
  have h := e.through (fun x => [(wire x.1.call x.1.reply, x.2)]) executes_wire hnarrow
  rwa [← List.map_eq_flatMap] at h

end NorArray

/-! ## Sessions -/

namespace InfoMemory

/-- A command of information memory that was performed on the bus. -/
abbrev BusAccess : Type := Transition commands PeripheralBus.interface NorArray

/-- Performs a command by way of the bus. -/
def performOnBus : Handler commands PeripheralBus.Routine := fun c =>
  (perform c).interpret PeripheralBus.flash

/-- The access `f` of the bus does what the access `d` does directly. -/
structure Carried (d : Access) (f : BusAccess) : Prop where
  /-- The answer is the same, and so are the states before and after. -/
  same : f = ⟨d.command, d.before, d.answer, f.calls, d.after⟩
  /-- Each call is one access, made in the same state. -/
  wired : List.Forall₂ (fun e b => PeripheralBus.Wired e.1.call b.1.call ∧ e.2 = b.2) d.calls f.calls
  /-- Words are written to the two control registers only, and with the password. -/
  words : ∀ b ∈ f.calls, ∀ a word, b.1.call = .write16 a word →
    (a = 0x0140 ∨ a = 0x0144) ∧ PeripheralBus.highByte word = 0xA5
  /-- Bytes are accessed in the section that was granted only. -/
  bytes : ∀ b ∈ f.calls, ∀ a, b.1.call.byteAddress? = some a →
    ∃ sect, f.command.grant = .ok sect ∧ sect.Contains a

theorem isNarrow_reprogramCalls {i : Nat} {bytes : List UInt8} {call : Flash.Call}
    (h : call ∈ reprogramCalls i bytes) : NorArray.IsNarrow call := by
  simp only [reprogramCalls, List.mem_cons, List.mem_append, List.mem_map, List.not_mem_nil,
    or_false] at h
  rcases h with rfl | rfl | rfl | rfl | ⟨w, -, rfl⟩ | rfl | rfl
  · exact ⟨by decide, by decide⟩
  · exact ⟨by decide, by decide⟩
  · trivial
  · exact ⟨by decide, by decide⟩
  · trivial
  · exact ⟨by decide, by decide⟩
  · exact ⟨by decide, by decide⟩

theorem Access.Outcome.isNarrow {d : Access} (h : d.Outcome)
    {e : Event Flash.interface × NorArray} (he : e ∈ d.calls) : NorArray.IsNarrow e.1.call := by
  have hread : ∀ {s : NorArray} {i : Nat} {bytes : List UInt8},
      e ∈ NorArray.readHistory s i bytes → NorArray.IsNarrow e.1.call := by
    intro s i bytes he
    obtain ⟨k, -, hcall⟩ := NorArray.mem_readHistory he
    rw [hcall]
    trivial
  cases h with
  | refused _ _ _ hcalls =>
    rw [hcalls] at he
    cases he
  | fetched _ _ _ _ _ _ hcalls =>
    rw [hcalls] at he
    exact hread he
  | idle _ _ _ _ _ hcalls =>
    rw [hcalls] at he
    cases he
  | stored _ _ _ inner hcalls hinner =>
    rw [hcalls, storeHistory] at he
    simp only [List.mem_append, List.mem_cons, List.not_mem_nil, or_false] at he
    rcases he with he | rfl | he | rfl
    · exact hread he
    · trivial
    · have hcall := List.mem_map_of_mem (f := (·.1.call)) he
      rw [hinner.calls] at hcall
      exact isNarrow_reprogramCalls hcall
    · trivial

/-- The access of the bus that carries an access out. -/
def Access.onBus (d : Access) : BusAccess :=
  ⟨d.command, d.before, d.answer,
    d.calls.map fun x => (NorArray.wire x.1.call x.1.reply, x.2), d.after⟩

theorem Access.Outcome.carried {d : Access} (h : d.Outcome) : Carried d d.onBus := by
  have hwired : ∀ e ∈ d.calls,
      PeripheralBus.Wired e.1.call (NorArray.wire e.1.call e.1.reply).call :=
    fun e he => NorArray.wired_wire (h.isNarrow he) e.1.reply
  refine ⟨rfl, ?_, ?_, ?_⟩
  · rw [Access.onBus, List.forall₂_map_right_iff, List.forall₂_same]
    exact fun e he => ⟨hwired e he, rfl⟩
  · intro b hb a word hcall
    obtain ⟨e, he, rfl⟩ := List.mem_map.1 hb
    have hword := hwired e he
    rw [hcall] at hword
    exact hword.word_written
  · intro b hb a ha
    obtain ⟨e, he, rfl⟩ := List.mem_map.1 hb
    obtain ⟨sect, hgrant, hconfines⟩ := h.confined he
    refine ⟨sect, hgrant, hconfines a ?_⟩
    rw [← (hwired e he).byteAddress?_eq, ← ha]

/-- From every state of the array every session of commands comes to its end by both ways, with the
same answers and the same states in between and at the end. -/
theorem session_onBus (s : NorArray) (cs : List Command) :
    ∃ ds fs t, Machine.session NorArray.handler perform cs s = .ok (ds, t) ∧
      Machine.session NorArray.busHandler performOnBus cs s = .ok (fs, t) ∧
      List.Forall₂ Carried ds fs := by
  induction cs generalizing s with
  | nil => exact ⟨[], [], s, rfl, rfl, .nil⟩
  | cons c cs ih =>
    obtain ⟨r, es, t, hrun, hway⟩ := executes_perform c s
    have hbus : Executes NorArray.busHandler s (performOnBus c) _ r t :=
      NorArray.executes_onBus hrun fun e he => hway.isNarrow he
    obtain ⟨ds, fs, u, hds, hfs, hall⟩ := ih t
    refine ⟨_ :: ds, _ :: fs, u, ?_, ?_, .cons hway.carried hall⟩
    · rw [Machine.session_cons hrun, hds]
      rfl
    · rw [Machine.session_cons hbus, hfs]
      rfl

end InfoMemory

end BoardSupport
