import BoardSupport.SerialBus.Library

/-!
# The serial bus

A polled master on chip select 0.  Bytes are exchanged one at a time in either bit order
(`exchangeByte`); words are sent and received in blocks or exchanged pairwise.

- `exchange`: one word out, one word in; `transfer` and `transferInPlace` repeat it.
- `transfer_cons` and `transferInPlace_cons`: a transfer is the first exchange and, if that
  succeeds, the transfer of the others.
- Operations on a buffer hand it back together with their result, because a block exchange that
  fails half way has filled the first part of it.
- `read` and `write` refuse an empty block; `fill` and `send`, which serve generic bus users, have
  nothing to do then.
-/

namespace BoardSupport

/-- The serial bus's driver. -/
structure SerialBus where
  /-- The bank of the open module. -/
  handle : ChipSupport.Bank := .unmapped
  /-- The configuration in use. -/
  config : SerialBus.Config := {}
  /-- The bit order of `exchangeByte`. -/
  order : SerialBus.BitOrder := default
  deriving DecidableEq, Repr, Inhabited

namespace SerialBus

open ChipSupport (leftover overlay report thenAlways)

/-- The classes into which generic bus users sort errors. -/
inductive ErrorKind where
  /-- Received data was lost. -/
  | overrun
  /-- Several masters were found on the bus. -/
  | modeFault
  /-- The data had the wrong frame format. -/
  | frameFormat
  /-- The chip select line could not be driven. -/
  | chipSelectFault
  /-- Any other cause. -/
  | other
  deriving DecidableEq, Repr

/-- Why an operation on a serial bus failed. -/
inductive Error where
  /-- A call of the chip support library failed, or was refused with its code. -/
  | library (e : ChipSupport.Error)
  deriving DecidableEq, Repr

/-- The class of an error; the library's failures are not told apart. -/
def Error.kind : Error → ErrorKind
  | library _ => .other

/-- Operations of the serial bus. -/
abbrev Action (α : Type) : Type := ChipSupport.Action library SerialBus Error α

/-- An operation on a buffer, which it hands back with its result. -/
abbrev Filling : Type :=
  List UInt16 → StateT SerialBus library.Task (Except Error Unit × List UInt16)

variable [ChipSupport.Build]

/-- Makes a call; a failure is reported as `line` and handed back as an error. -/
def attempt (line : String) (r : Request) : Action r.Value :=
  (ChipSupport.attempt (L := library) line r).adapt .library

/-- Reports `line` and refuses the arguments. -/
def refuse {α : Type} (line : String) : Action α :=
  report line (.library .invalidParams)

/-- Brings the module up, routes it to the parallel pins, opens it on chip select 0 and writes the
default configuration. -/
def bringUp : Action Unit := do
  attempt "begin(): SPI initialization failed" .init
  attempt "begin(): SYS_setEBSR failed" (.routePins ⟨.parallel, 1⟩)
  let bank ← attempt "begin(): SPI instance open failed" (.openOn .cs0 .polling)
  modify fun s => { s with handle := bank, config := {} }
  attempt "begin(): SPI instance configuration failed" (.configure (← get).config)

/-- Shuts the module down and closes it.  The handle is kept if the shutdown fails, and released
whether or not the close succeeds. -/
def shutDown : Action Unit := do
  attempt "end(): SPI instance de-initialization failed" .deinit
  thenAlways (attempt "end(): SPI instance close failed" .close) do
    modify fun s => { s with handle := .unmapped }

/-- Edits the configuration and writes it as a whole. -/
def reconfigure (line : String) (edit : Config → Config) : Action Unit := do
  modify fun s => { s with config := edit s.config }
  attempt line (.configure (← get).config)

/-- Changes the clock divider. -/
def setDivider (divider : Divider) : Action Unit :=
  reconfigure "setClockDivider(): SPI_config failed" fun c =>
    { c with clockDivider := divider.factor }

/-- Changes clock polarity and phase. -/
def setMode (mode : Mode) : Action Unit :=
  reconfigure "setDataMode(): SPI_config failed" fun c =>
    { c with polarity := mode.polarity, phase := mode.phase }

/-- Connects transmit to receive inside the module, or not. -/
def setLoopback (enable : Bool) : StateT SerialBus library.Task Unit :=
  StateT.lift (ChipSupport.access (L := library) (.setLoopback enable))

/-- Chooses the bit order of `exchangeByte`. -/
def setOrder (order : BitOrder) : StateT SerialBus library.Task Unit :=
  modify fun s => { s with order }

/-- Sends a word and receives one. -/
def exchange (word : UInt16) : Action UInt16 := do
  attempt "transfer(): SPI write failed" (.write [word])
  let received ← attempt "transfer(): SPI read failed" (.read 1)
  pure (received.get ⟨0, Nat.one_pos⟩)

/-- Sends a byte and receives one, both in the chosen bit order.  Words have 8 bits, so the high
byte of what is received carries nothing. -/
def exchangeByte (byte : UInt8) : Action UInt8 := do
  let order := (← get).order
  let word ← exchange (order.arrange byte).toUInt16
  pure (order.arrange word.toUInt8)

/-- Sends a block of words; an empty one is refused. -/
def write (words : List UInt16) : Action Unit :=
  if words.isEmpty then
    refuse "write(): invalid parameter"
  else
    attempt "write(): SPI write failed" (.write words)

/-- Fills a buffer with received words; an empty one is refused.  If receiving fails, the words that
came before are in the buffer. -/
def read : Filling := fun buffer => do
  if buffer.isEmpty then
    let refusal ← (refuse "read(): invalid parameter").run
    pure (refusal, buffer)
  else
    match ← (attempt "read(): SPI read failed" (.read buffer.length)).run with
    | .ok words => pure (.ok (), words.toList)
    | .error e =>
      let stored ← StateT.lift leftover
      pure (.error e, overlay stored buffer)

/-- Sends a block of words, if there are any. -/
def send (words : List UInt16) : Action Unit :=
  if words.isEmpty then pure () else write words

/-- Fills a buffer with received words, if it has room for any. -/
def fill : Filling := fun buffer =>
  if buffer.isEmpty then pure (.ok (), buffer) else read buffer

/-- Exchanges `words` and drops what is received. -/
def sendOnly : List UInt16 → Action Unit
  | [] => pure ()
  | word :: words => do
    let _ ← exchange word
    sendOnly words

/-- The part of a transfer that is still to come; the buffer is what has room left, and `received`
are the words received so far, the latest first. -/
def transferAfter (received words : List UInt16) : Filling
  | [] => do
    let result ← (sendOnly words).run
    pure (result, received.reverse)
  | slot :: buffer => do
    match ← (exchange (words.headD 0)).run with
    | .ok word => transferAfter (word :: received) words.tail buffer
    | .error e => pure (.error e, received.reverse ++ slot :: buffer)

/-- Exchanges as many words as the longer of buffer and `words` has, sending zeros after the last
of `words` and dropping what is received after the buffer is full.  A failure ends the transfer
and leaves the rest of the buffer as it was. -/
def transfer (words : List UInt16) : Filling := transferAfter [] words

/-- The part of a transfer in place that is still to come; the buffer is what is still to be sent,
and `received` are the words received so far, the latest first. -/
def transferInPlaceAfter (received : List UInt16) : Filling
  | [] => pure (.ok (), received.reverse)
  | word :: buffer => do
    match ← (exchange word).run with
    | .ok answer => transferInPlaceAfter (answer :: received) buffer
    | .error e => pure (.error e, received.reverse ++ word :: buffer)

/-- Exchanges every word of a buffer for the one received.  A failure ends the transfer and leaves
the rest of the buffer as it was. -/
def transferInPlace : Filling := transferInPlaceAfter []

/-- Waits for transfers to end; they are polled, so none is ever under way. -/
def flush : Action Unit := pure ()

/-- Sends later messages to another sink; the driver is made anew around it. -/
def withDebug (sink : ChipSupport.Sink) : StateT SerialBus library.Task Unit := do
  StateT.lift (ChipSupport.debug (.attach sink))
  modify fun s => { handle := s.handle, config := s.config, order := s.order }

/-! ## Transfers word by word -/

/-- Puts words that were received before in front of the buffer that an operation hands back. -/
def behind (front : List UInt16) (outcome : Except Error Unit × List UInt16) :
    Except Error Unit × List UInt16 :=
  (outcome.1, front ++ outcome.2)

omit [ChipSupport.Build] in
@[simp] theorem behind_behind (front middle : List UInt16)
    (outcome : Except Error Unit × List UInt16) :
    behind front (behind middle outcome) = behind (front ++ middle) outcome := by
  simp [behind]

theorem transferAfter_eq (received words buffer : List UInt16) :
    transferAfter received words buffer =
      behind received.reverse <$> transfer words buffer := by
  induction buffer generalizing received words with
  | nil => simp [transfer, transferAfter, behind]
  | cons slot buffer ih =>
    rw [transfer, transferAfter, transferAfter, map_bind]
    congr 1
    funext answer
    cases answer with
    | ok word => simp [ih [word], ih (word :: received)]
    | error e => simp [behind]

theorem transfer_nil (words : List UInt16) :
    transfer words [] = (sendOnly words).run >>= fun result => pure (result, []) := rfl

theorem transfer_cons (words : List UInt16) (slot : UInt16) (buffer : List UInt16) :
    transfer words (slot :: buffer) = (exchange (words.headD 0)).run >>= fun
      | .ok word => behind [word] <$> transfer words.tail buffer
      | .error e => pure (.error e, slot :: buffer) := by
  rw [transfer, transferAfter]
  congr 1
  funext answer
  cases answer with
  | ok word => exact transferAfter_eq [word] words.tail buffer
  | error e => rfl

theorem transferInPlaceAfter_eq (received buffer : List UInt16) :
    transferInPlaceAfter received buffer =
      behind received.reverse <$> transferInPlace buffer := by
  induction buffer generalizing received with
  | nil => simp [transferInPlace, transferInPlaceAfter, behind]
  | cons word buffer ih =>
    rw [transferInPlace, transferInPlaceAfter, transferInPlaceAfter, map_bind]
    congr 1
    funext answer
    cases answer with
    | ok word => simp [ih [word], ih (word :: received)]
    | error e => simp [behind]

@[simp] theorem transferInPlace_nil : transferInPlace [] = pure (.ok (), []) := rfl

theorem transferInPlace_cons (word : UInt16) (buffer : List UInt16) :
    transferInPlace (word :: buffer) = (exchange word).run >>= fun
      | .ok received => behind [received] <$> transferInPlace buffer
      | .error e => pure (.error e, word :: buffer) := by
  rw [transferInPlace, transferInPlaceAfter]
  congr 1
  funext answer
  cases answer with
  | ok received => exact transferInPlaceAfter_eq [received] buffer
  | error e => rfl

end SerialBus

end BoardSupport
