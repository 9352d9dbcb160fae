import BoardSupport.ClockGenerator.Basic
import BoardSupport.CountdownTimer.Basic
import BoardSupport.Transcript.Names
import BoardSupport.Watchdog.Basic

/-!
# Calls of the chip support library in writing

Every entry point is written by the vendor's name, followed by its arguments.  Status polls of the
converter with nothing between them are written as one entry with their number; calls of the
debug console are not written.
-/

namespace BoardSupport.Transcript

open ChipSupport (Library)

/-- A part of the chip support library whose calls can be written. -/
class Legible (L : Library) where
  /-- The arguments of a call that may fail. -/
  args : L.Request → List Item
  /-- A call that cannot fail. -/
  access : L.Access → Entry

instance : Transcribe ClockGenerator.Config where
  item c := item [c.control1, c.inputControl, c.control2, c.outputControl]

instance : Transcribe CountdownTimer.RegisterImage where
  item i :=
    .items [item i.autoReload, item i.prescale, item i.enabled, item i.periodLow, item i.periodHigh]

/-- The settings of the serial bus, one by one. -/
def busConfig (c : SerialBus.Config) : List Item :=
  [item c.clockDivider, item c.wordLength.bits, item c.frameLength, item c.wordInterrupt,
    item c.frameInterrupt, item c.chipSelect.index, item c.dataDelay, item c.selectActiveHigh,
    item c.polarity, item c.phase]

/-- A choice of pins. -/
def routing (p : ChipSupport.PinRouting) : List Item := [item p.group, item p.mode]

instance : Legible Converter.library where
  args r :=
    match r with
    | .openChannel c | .route c => [item c.index]
    | .setUp s =>
      [item s.completion, item s.multiChannelDischarge, item s.reference, item s.clockDivider]
    | .setCycle c => [item c]
    | .status => [item 1]
    | _ => []
  access := nofun

instance : Legible SerialBus.library where
  args r :=
    match r with
    | .routePins p => routing p
    | .openOn select mode => [item select.index, item mode]
    | .configure c => busConfig c
    | .write ws => [item ws]
    | .read n => [item n]
    | _ => []
  access
    | .setLoopback enable => ⟨"SPI_setLoopBackMode", [item enable]⟩

instance : Legible MultichannelBus.library where
  args r :=
    match r with
    | .openIn mode => [item mode]
    | .routePins p => routing p
    | .configure c =>
      [item c.master, item c.fullDuplex, item c.wordLength, item c.dataDelay, item c.clockDivider,
        item c.clockPhase, item c.clockIdlesHigh, item c.selectActiveHigh, item c.receiveLine,
        item c.transmitLine, item c.channel.index]
    | .read n => [item n]
    | .write ws => [item ws]
    | _ => []
  access
    | .receiveFull => ⟨"McSPI_RxFullInt_Chk", []⟩
    | .transmitEmpty => ⟨"McSPI_TxEmptyInt_Chk", []⟩

instance : Legible HostInterface.library where
  args r :=
    match r with
    | .configure s => [item s.mode, item s.interruptOnAccess]
    | .routePins p => routing p
    | _ => []
  access := nofun

instance : Legible ClockGenerator.library where
  args r :=
    match r with
    | .configure c => [item c.control1, item c.inputControl, item c.control2, item c.outputControl]
    | _ => []
  access
    | .input => ⟨"PLL_input", []⟩

instance : Legible CountdownTimer.library where
  args r :=
    match r.operation with
    | .configure image => [item r.timer.index, item image]
    | _ => [item r.timer.index]
  access
    | .clearInterrupts => ⟨"GPT_clearInterrupts", []⟩

instance : Legible Watchdog.library where
  args r :=
    match r with
    | .configure c => [item c.counter, item c.prescale]
    | _ => []
  access := nofun

/-- Two batches of status polls make one. -/
def joinPolls (a b : Entry) : Option Entry :=
  match a.args, b.args with
  | [.number m], [.number n] =>
    if a.name = Converter.Request.status.entry ∧ b.name = a.name then
      some ⟨a.name, [item (m + n)]⟩
    else
      none
  | _, _ => none

/-- A call of the library in writing. -/
def ofCall (L : Library) [Legible L] : L.Call → Option Entry
  | .request r => some ⟨L.entry r, Legible.args r⟩
  | .access a => some (Legible.access a)
  | .leftover | .debug _ => none

/-- The calls of a trace in writing. -/
def ofTrace (L : Library) [Legible L] (trace : Trace L.interface) : List Entry :=
  Entry.collapse joinPolls (trace.toList.filterMap fun e => ofCall L e.call)

end BoardSupport.Transcript
