import BoardSupport.ChipSupport.Bank
import BoardSupport.ClockGenerator.Frequency
import BoardSupport.StandIn.Fault

/-!
# A stand-in for the chip support library

A small state machine that plays all modules of the library at once, for trying drivers without
the board.  Every call succeeds unless a fault says otherwise; what is read back is what was
written, or what a script provides.
-/

namespace BoardSupport

/-- The state of the stand-in. -/
structure StandIn where
  /-- What the converter reads. -/
  sample : UInt16 := 0
  /-- The samples still to come; each becomes `sample` when the converter is read. -/
  samples : List UInt16 := []
  /-- The number of polls that find the converter busy. -/
  busyPolls : UInt32 := 0
  /-- The converter never finishes. -/
  neverReady : Bool := false
  /-- The number of status polls so far. -/
  polls : UInt32 := 0
  /-- The words still to be received on the buses. -/
  received : List UInt16 := []
  /-- The words sent on the buses so far. -/
  sent : Array UInt16 := #[]
  /-- The multichannel bus holds a received word. -/
  receiveFull : Bool := false
  /-- The multichannel bus can take a word. -/
  transmitEmpty : Bool := false
  /-- The count of every timer. -/
  count : UInt32 := 0
  /-- The selected input clock. -/
  inputClock : ClockGenerator.Input := .external
  /-- The registers of the clock generator. -/
  clock : ClockGenerator.Config := {}
  /-- The bank that opening yields. -/
  bank : ChipSupport.Bank := ⟨0x7000, 0x1C00⟩
  /-- The faults in effect. -/
  faults : List StandIn.Fault := []
  /-- The number of calls made, mere queries of a flag apart. -/
  calls : Nat := 0
  deriving DecidableEq, Repr, Inhabited

namespace StandIn

/-- Serves a call of `entry`: a fault makes it fail, otherwise `act` is done. -/
def serve {α : Type} (entry : String) (act : StateM StandIn α) :
    StateM StandIn (Except ChipSupport.Error α) := do
  let (error, faults) := Fault.onAll entry (← get).faults
  modify fun s => { s with faults }
  match error with
  | some e => pure (.error e)
  | none => .ok <$> act

/-- Counts a call. -/
def countCall : StateM StandIn Unit :=
  modify fun s => { s with calls := s.calls + 1 }

/-- Counts a call and serves it. -/
def answer {α : Type} (entry : String) (act : StateM StandIn α) :
    StateM StandIn (Except ChipSupport.Error α) := do
  countCall
  serve entry act

/-- Opening yields the bank. -/
def openBank : StateM StandIn ChipSupport.Bank := return (← get).bank

/-- Stores words that were sent. -/
def send (words : List UInt16) : StateM StandIn Unit :=
  modify fun s => { s with sent := s.sent ++ words }

/-- The next word that is received: the first of those still to come, or, when there are none, the
last word that was sent, or zero. -/
def receiveWord : StateM StandIn UInt16 := do
  let s ← get
  match s.received with
  | word :: received =>
    set { s with received }
    pure word
  | [] => pure (s.sent.back?.getD 0)

/-- Receives `n` words one after another. -/
def receive (n : Nat) : StateM StandIn (Vector UInt16 n) :=
  Vector.ofFnM fun _ => receiveWord

/-- The status of the converter as of the latest poll. -/
def isReady (s : StandIn) : Bool := !s.neverReady && s.busyPolls < s.polls

/-- Counts a poll of the converter's status. -/
def poll : StateM StandIn Unit :=
  modify fun s => { s with polls := s.polls + 1 }

/-- Takes the next sample of the script, if there is one. -/
def takeSample : StateM StandIn Unit :=
  modify fun s =>
    match s.samples with
    | [] => s
    | sample :: samples => { s with sample, samples }

/-- A number of polls that is enough for any wait to end that ends at all: in so many polls the
counter of polls takes all of its values. -/
def pollBudget : Nat := UInt32.size

/-- A change of some parts of the state from outside, between calls. -/
structure Edit where
  /-- A new sample. -/
  sample : Option UInt16 := none
  /-- A new script of samples. -/
  samples : Option (List UInt16) := none
  /-- A new number of busy polls. -/
  busyPolls : Option UInt32 := none
  /-- Whether the converter ever finishes. -/
  neverReady : Option Bool := none
  /-- A new count of polls. -/
  polls : Option UInt32 := none
  /-- New words to be received. -/
  received : Option (List UInt16) := none
  /-- Whether the multichannel bus holds a word. -/
  receiveFull : Option Bool := none
  /-- Whether the multichannel bus can take a word. -/
  transmitEmpty : Option Bool := none
  /-- A new count of the timers. -/
  count : Option UInt32 := none
  /-- Another input clock. -/
  inputClock : Option ClockGenerator.Input := none
  /-- New registers of the clock generator. -/
  clock : Option ClockGenerator.Config := none
  /-- Another bank. -/
  bank : Option ChipSupport.Bank := none
  /-- New faults in place of all. -/
  faults : Option (List Fault) := none
  deriving DecidableEq, Repr, Inhabited

/-- Makes the change: every part that is given takes the place of the old one. -/
def Edit.apply (e : Edit) (s : StandIn) : StandIn :=
  { s with
    sample := e.sample.getD s.sample
    samples := e.samples.getD s.samples
    busyPolls := e.busyPolls.getD s.busyPolls
    neverReady := e.neverReady.getD s.neverReady
    polls := e.polls.getD s.polls
    received := e.received.getD s.received
    receiveFull := e.receiveFull.getD s.receiveFull
    transmitEmpty := e.transmitEmpty.getD s.transmitEmpty
    count := e.count.getD s.count
    inputClock := e.inputClock.getD s.inputClock
    clock := e.clock.getD s.clock
    bank := e.bank.getD s.bank
    faults := e.faults.getD s.faults }

end StandIn

end BoardSupport
