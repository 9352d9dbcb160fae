import BoardSupport.Converter.Library
import BoardSupport.NonBlocking

/-!
# The analog-to-digital converter

`readPin` is one complete polled conversion that leaves the converter shut down; the operations
it is made of can also be used by themselves for continuous or interrupt driven conversion.

- `pollUntilReady`: polls the status at most so many times.
- `awaitReady`: polls as the configuration says.  A bounded wait that runs out is a `timeout`; an
  unbounded one is run for a number of polls chosen by the caller, and if that runs out the
  conversion is left `unfinished`, an outcome of its own that no wait of bounded length has.
- `abandon`: the shutdown after a timeout, every step of which is made whatever the others do.
-/

namespace BoardSupport

/-- How long a conversion is waited for. -/
inductive Converter.PollLimit where
  /-- As long as it takes. -/
  | unbounded
  /-- For so many status polls. -/
  | polls (limit : UInt32)
  deriving DecidableEq, Repr, Inhabited

/-- The settings applied to every channel. -/
structure Converter.Config where
  /-- The reference voltage. -/
  reference : Reference := .supply
  /-- The divider from the system clock to the converter's clock. -/
  clockDivider : UInt16 := 0x0B
  /-- How long `readPin` waits. -/
  pollLimit : PollLimit := .unbounded
  deriving DecidableEq, Repr, Inhabited

/-- The converter's driver. -/
structure Converter where
  /-- The bank of the open channel. -/
  handle : ChipSupport.Bank := .unmapped
  /-- The settings. -/
  config : Converter.Config := {}
  deriving DecidableEq, Repr, Inhabited

namespace Converter

open ChipSupport (report regardless)

/-- The largest result of the 10-bit converter. -/
def fullScale : UInt16 := 0x3FF

/-- Why an analog reading failed. -/
inductive Error where
  /-- The number names no pin. -/
  | invalidPin (id : UInt8)
  /-- A call of the chip support library failed. -/
  | library (e : ChipSupport.Error)
  /-- The converter did not report a result within the poll limit. -/
  | timeout
  /-- The wait has no limit and was not followed to its end. -/
  | unfinished
  deriving DecidableEq, Repr

/-- Operations of the converter that may end in an `ε`. -/
abbrev Action (ε α : Type) : Type := ChipSupport.Action library Converter ε α

/-- An operation whose only failures are the library's, among those of a reading. -/
def Action.lift {α : Type} (act : Action ChipSupport.Error α) : Action Error α :=
  act.adapt Error.library

variable [ChipSupport.Build]

/-- Makes a call; a failure is reported as `line` and handed back as an error. -/
def attempt (line : String) (r : Request) : Action ChipSupport.Error r.Value :=
  ChipSupport.attempt (L := library) line r

/-- Brings the module up. -/
def bringUp : Action ChipSupport.Error Unit :=
  attempt "begin(): SAR init failed" .init

/-- Closes the open channel, which releases the handle, and shuts the module down. -/
def shutDown : Action ChipSupport.Error Unit := do
  attempt "end(): SAR_chanClose failed" .closeChannel
  modify fun s => { s with handle := .unmapped }
  attempt "end(): SAR_deInit failed" .deinit

/-- Opens `channel` and prepares it for conversions. -/
def configureChannel (completion : Completion) (channel : Channel) (conversion : Conversion) :
    Action ChipSupport.Error Unit := do
  let bank ← attempt "configChannel(): SAR_chanOpen failed" (.openChannel channel)
  modify fun s => { s with handle := bank }
  attempt "configChannel(): SAR_chanInit failed" .resetChannel
  let config := (← get).config
  attempt "configChannel(): SAR_chanSetup failed"
    (.setUp ⟨completion, false, config.reference, config.clockDivider⟩)
  attempt "configChannel(): SAR_chanCycSet failed" (.setCycle conversion)
  attempt "configChannel(): SAR_A2DMeasParamSet failed" (.route channel)

/-- Starts converting on the channel that was prepared. -/
def start : Action ChipSupport.Error Unit :=
  attempt "startConversion(): SAR_startConversion failed" .start

/-- Stops converting. -/
def stop : Action ChipSupport.Error Unit :=
  attempt "stopConversion(): SAR_stopConversion failed" .stop

/-- Whether a result is waiting.  A query that fails counts as no. -/
def isReady : StateT Converter library.Task Bool := do
  match ← (attempt "getStatus(): SAR_getStatus failed" .status).run with
  | .ok ready => pure ready
  | .error _ => pure false

/-- Reads the latest result. -/
def readData : Action ChipSupport.Error UInt16 :=
  attempt "readData(): SAR_readData failed" .read

/-- Reads the result if one is waiting. -/
def readNonBlocking : Action (NonBlocking ChipSupport.Error) UInt16 := do
  let ready ← (attempt "readNb(): SAR_getStatus failed" .status).adapt .failed
  if ready then
    readData.adapt .failed
  else
    throw .wouldBlock

/-- Asks for the status on behalf of `readPin`. -/
def pollStatus : Action ChipSupport.Error Bool :=
  attempt "analogRead(): SAR_getStatus failed" .status

/-- Polls the status until a result is waiting, at most `limit` times; whether there is one. -/
def pollUntilReady : (limit : Nat) → Action ChipSupport.Error Bool
  | 0 => pure false
  | limit + 1 => do
    if ← pollStatus then
      pure true
    else
      pollUntilReady limit

/-- Waits for a result as the configuration says, following an unbounded wait for `budget` polls. -/
def awaitReady (budget : Nat) : Action Error Unit := do
  match (← get).config.pollLimit with
  | .unbounded =>
    unless ← (pollUntilReady budget).lift do
      throw .unfinished
  | .polls limit =>
    unless ← (pollUntilReady limit.toNat).lift do
      report "analogRead(): SAR conversion timed out" .timeout

/-- Shuts the converter down after a timeout: every step is made, and the handle released, even if
an earlier step fails. -/
def abandon : StateT Converter library.Task Unit := do
  regardless stop
  regardless (attempt "analogRead(): SAR_chanClose failed" .closeChannel)
  modify fun s => { s with handle := .unmapped }
  regardless (attempt "analogRead(): SAR_deInit failed" .deinit)

/-- One complete conversion of `pin`: bring up, prepare the pin's channel, convert, wait, read and
shut down.  After a timeout the converter is shut down; after any other failure it is left as it
is. -/
def readPin (budget : Nat) (pin : Pin) : Action Error UInt16 := do
  bringUp.lift
  (configureChannel .polling pin.channel .single).lift
  start.lift
  tryCatch (awaitReady budget) fun e => do
    if e = .timeout then
      abandon
    throw e
  let sample ← readData.lift
  shutDown.lift
  pure sample

/-- `readPin` by the pin's number.  A number that names no pin is refused before the converter is
touched. -/
def readId (budget : Nat) (id : UInt8) : Action Error UInt16 :=
  match Pin.ofId? id with
  | some pin => readPin budget pin
  | none => throw (.invalidPin id)

/-- Sends later messages to another sink; the driver is made anew around it. -/
def withDebug (sink : ChipSupport.Sink) : StateT Converter library.Task Unit := do
  StateT.lift (ChipSupport.debug (.attach sink))
  modify fun s => { handle := s.handle, config := s.config }

end Converter

end BoardSupport
