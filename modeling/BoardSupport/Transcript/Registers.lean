import BoardSupport.ByteMemory.Basic
import BoardSupport.Flash.Controller
import BoardSupport.PeriodTimer.Basic
import BoardSupport.PeripheralBus.Basic
import BoardSupport.SleepClock.Basic
import BoardSupport.Transcript.Item

/-!
# Register and memory accesses in writing

Registers are written by the names of the device's documentation.  A byte access that goes on where
the one before ended is joined to it.
-/

namespace BoardSupport.Transcript

/-- The name of a write of bytes. -/
def writeName : String := "w8"

/-- The name of a read of bytes. -/
def readName : String := "r8"

/-- A write of bytes from an address on. -/
def writeEntry (address : UInt16) (bytes : List UInt8) : Entry :=
  ⟨writeName, [item address, .bytes bytes]⟩

/-- A read of so many bytes from an address on. -/
def readEntry (address : UInt16) (count : Nat) : Entry :=
  ⟨readName, [item address, item count]⟩

/-- An access to bytes that goes on where the one before ended is joined to it. -/
def joinBytes (a b : Entry) : Option Entry :=
  if a.name = b.name then
    match a.args, b.args with
    | [.number start, .bytes held], [.number next, .bytes more] =>
      if start + held.length = next then some ⟨a.name, [item start, .bytes (held ++ more)]⟩
      else none
    | [.number start, .number held], [.number next, .number more] =>
      if a.name = readName ∧ start + held = next then
        some ⟨a.name, [item start, item (held + more)]⟩
      else
        none
    | _, _ => none
  else
    none

/-- Accesses to flash in writing, each with whether interrupts were masked; reads and the masking
itself are left out. -/
def ofFlash (trace : Array (Event Flash.interface × Bool)) : List Entry :=
  Entry.collapse joinBytes (trace.toList.filterMap fun (e, masked) =>
    match e.call with
    | .setControl1 value => some ⟨"FCTL1", [item value, item masked]⟩
    | .setControl3 value => some ⟨"FCTL3", [item value, item masked]⟩
    | .write address byte => some (writeEntry address [byte])
    | _ => none)

/-- Accesses of the sleep clock in writing, reads left out. -/
def ofSleepClock (trace : Trace SleepClock.interface) : List Entry :=
  trace.toList.filterMap fun e =>
    match e.call with
    | .selectClocks value => some ⟨"UCSCTL4", [item value]⟩
    | .readControl0 => none
    | .setControl0 value => some ⟨"RTCCTL0", [item value]⟩
    | .setControl1 value => some ⟨"RTCCTL1", [item value]⟩
    | .loadCounter ticks => some ⟨"RTCNT", [item ticks]⟩
    | .enterLowPower => some ⟨"LPM3", []⟩

/-- Accesses of the period timer in writing, callbacks left out. -/
def ofPeriodTimer {κ : Type} (trace : Trace (PeriodTimer.interface κ)) : List Entry :=
  trace.toList.filterMap fun e =>
    match e.call with
    | .setControl value => some ⟨"TA1CTL", [item value]⟩
    | .setCompareControl value => some ⟨"TA1CCTL0", [item value]⟩
    | .setCompare value => some ⟨"TA1CCR0", [item value]⟩
    | .run _ => none

/-- Accesses to single cells in writing. -/
def ofCells (trace : Trace ByteMemory.interface) : List Entry :=
  trace.toList.map fun e =>
    match e.call with
    | .read address => ⟨"r", [item address]⟩
    | .write address byte => ⟨"w", [item address, item byte]⟩

/-- Accesses of the peripheral bus in writing, the masking of interrupts left out. -/
def ofBus (trace : Trace PeripheralBus.interface) : List Entry :=
  Entry.collapse joinBytes (trace.toList.filterMap fun e =>
    match e.call with
    | .write16 address value => some ⟨"w16", [item address, item value]⟩
    | .write8 address byte => some (writeEntry address [byte])
    | .read8 address => some (readEntry address 1)
    | .setStatus bits => some ⟨"bis_sr", [item bits]⟩
    | .mask | .unmask => none)

end BoardSupport.Transcript
