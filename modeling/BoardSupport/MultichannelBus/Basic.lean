import BoardSupport.MultichannelBus.Library
import BoardSupport.NonBlocking
import BoardSupport.SerialBus.Basic

/-!
# The multichannel serial bus

A master with four chip select channels, routed to the pins of serial interface 1.  Blocks are read
and written as a whole; single words can be exchanged without blocking.

- `read` and `write` refuse an empty block.
- `readWord` and `writeWord` first look whether the register is ready, and touch nothing else if
  it is not.  Their failures are handed back without a report.
-/

namespace BoardSupport

/-- The multichannel bus's driver. -/
structure MultichannelBus where
  /-- The bank of the open module. -/
  handle : ChipSupport.Bank := .unmapped
  deriving DecidableEq, Repr, Inhabited

namespace MultichannelBus

open ChipSupport (leftover overlay report thenAlways)
open SerialBus (Error)

/-- Operations of the multichannel bus that may end in an `ε`. -/
abbrev Action (ε α : Type) : Type := ChipSupport.Action library MultichannelBus ε α

variable [ChipSupport.Build]

/-- Makes a call; a failure is reported as `line` and handed back as an error. -/
def attempt (line : String) (r : Request) : Action Error r.Value :=
  (ChipSupport.attempt (L := library) line r).adapt .library

/-- Makes a call; a failure is handed back as an error without a report. -/
def request (r : Request) : Action (NonBlocking Error) r.Value :=
  (ChipSupport.request (L := library) r).adapt fun e => .failed (.library e)

/-- Reports `line` and refuses the arguments. -/
def refuse {α : Type} (line : String) : Action Error α :=
  report line (.library .invalidParams)

/-- Brings the module up, opens it and routes it to the pins of serial interface 1. -/
def bringUp (mode : TransferMode) : Action Error Unit := do
  attempt "begin(): McSPI_init failed" .init
  let bank ← attempt "begin(): McSPI_open failed" (.openIn mode)
  modify fun s => { s with handle := bank }
  attempt "begin(): SYS_setEBSR failed" (.routePins ⟨.serial1, 1⟩)

/-- Closes the module.  The handle is released whether or not that succeeds. -/
def shutDown : Action Error Unit :=
  thenAlways (attempt "end(): McSPI_close failed" .close) do
    modify fun s => { s with handle := .unmapped }

/-- Configures the channel of a number.  A number that names no channel is refused before the
hardware is touched. -/
def configure (index : UInt8) : Action Error Unit :=
  match Channel.ofIndex? index with
  | some channel => attempt "config(): McSPI_config failed" (.configure { channel })
  | none => refuse "config(): invalid chip select"

/-- Fills a buffer with received words and hands it back; an empty one is refused.  If receiving
fails, the words that came before are in the buffer. -/
def read (buffer : List UInt16) :
    StateT MultichannelBus library.Task (Except Error Unit × List UInt16) := do
  if buffer.isEmpty then
    let refusal ← (refuse "read(): McSPI_read failed").run
    pure (refusal, buffer)
  else
    match ← (attempt "read(): McSPI_read failed" (.read buffer.length)).run with
    | .ok words => pure (.ok (), words.toList)
    | .error e =>
      let stored ← StateT.lift leftover
      pure (.error e, overlay stored buffer)

/-- Sends a block of words; an empty one is refused. -/
def write (words : List UInt16) : Action Error Unit :=
  if words.isEmpty then
    refuse "write(): McSPI_write failed"
  else
    attempt "write(): McSPI_write failed" (.write words)

/-- Whether the receive register holds a word. -/
def isReceiveFull : StateT MultichannelBus library.Task Bool :=
  StateT.lift (ChipSupport.access (L := library) .receiveFull)

/-- Whether the transmit register can take a word. -/
def isTransmitEmpty : StateT MultichannelBus library.Task Bool :=
  StateT.lift (ChipSupport.access (L := library) .transmitEmpty)

/-- Receives a word if the receive register holds one. -/
def readWord : Action (NonBlocking Error) UInt16 := do
  if ← isReceiveFull then
    let received ← request (.read 1)
    pure (received.get ⟨0, Nat.one_pos⟩)
  else
    throw .wouldBlock

/-- Sends a word if the transmit register can take one. -/
def writeWord (word : UInt16) : Action (NonBlocking Error) Unit := do
  if ← isTransmitEmpty then
    request (.write [word])
  else
    throw .wouldBlock

/-- Sends later messages to another sink; the driver is made anew around it. -/
def withDebug (sink : ChipSupport.Sink) : StateT MultichannelBus library.Task Unit := do
  StateT.lift (ChipSupport.debug (.attach sink))
  modify fun s => { handle := s.handle }

end MultichannelBus

end BoardSupport
