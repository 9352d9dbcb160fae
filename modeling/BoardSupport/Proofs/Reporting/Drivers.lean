import BoardSupport.Converter.Command
import BoardSupport.HostInterface.Basic
import BoardSupport.MultichannelBus.Command
import BoardSupport.Proofs.ChipSupport.Reporting
import BoardSupport.Proofs.Converter.Stages
import BoardSupport.SerialBus.Command
import BoardSupport.StandIn.Devices

/-!
# What the drivers report

Built with messages, the converter, the serial bus and the host interface report every call of the
library that fails, and so does the multichannel bus but for its two non-blocking operations: they hand
a failure back without a word.  Remarks are made on empty blocks, on numbers that name no channel, and
on readings that have timed out.
-/

namespace BoardSupport

open ChipSupport (Build Device Plain Reporting Reports Session failures lines oneLine_ofList written)
open ChipSupport.Action (plain_bind reports_bind toldOf)

variable [Build] {τ : Type}

/-! ## The serial bus -/

namespace SerialBus

/-- Only the operations on blocks refuse arguments, and then the block is empty. -/
def Command.remarks : Command → List String
  | write [] => ["write(): invalid parameter"]
  | read [] => ["read(): invalid parameter"]
  | _ => []

def reporting : Reporting commands where
  remarks c _ := c.remarks
  keepsSink
    | .withDebug sink => sink = .capture
    | _ => true

theorem plain_attempt {line : String} (hline : ChipSupport.OneLine line) (r : Request) :
    Plain (attempt line r).run :=
  ChipSupport.Action.plain_adapt (ChipSupport.Action.plain_attempt (L := library) hline r)

theorem plain_bringUp : Plain bringUp.run := by
  refine plain_bind (plain_attempt (oneLine_ofList rfl) .init) fun _ => ?_
  refine plain_bind (plain_attempt (oneLine_ofList rfl) (.routePins ⟨.parallel, 1⟩)) fun _ => ?_
  refine plain_bind (plain_attempt (oneLine_ofList rfl) (.openOn .cs0 .polling)) fun bank => ?_
  refine plain_bind (ChipSupport.Action.plain_modify _) fun _ => ?_
  refine plain_bind ChipSupport.Action.plain_get fun s => ?_
  exact plain_attempt (oneLine_ofList rfl) (.configure s.config)

theorem plain_shutDown : Plain shutDown.run := by
  refine plain_bind (plain_attempt (oneLine_ofList rfl) .deinit) fun _ => ?_
  exact ChipSupport.Action.plain_thenAlways (plain_attempt (oneLine_ofList rfl) .close)
    (ChipSupport.plain_modify _)

theorem plain_reconfigure {line : String} (hline : ChipSupport.OneLine line)
    (edit : Config → Config) : Plain (reconfigure line edit).run := by
  refine plain_bind (ChipSupport.Action.plain_modify _) fun _ => ?_
  refine plain_bind ChipSupport.Action.plain_get fun s => ?_
  exact plain_attempt hline (.configure s.config)

theorem plain_exchange (word : UInt16) : Plain (exchange word).run := by
  refine plain_bind (plain_attempt (oneLine_ofList rfl) (.write [word])) fun _ => ?_
  refine plain_bind (plain_attempt (oneLine_ofList rfl) (.read 1)) fun _ => ?_
  exact .pure rfl

theorem plain_exchangeByte (byte : UInt8) : Plain (exchangeByte byte).run := by
  refine plain_bind ChipSupport.Action.plain_get fun s => ?_
  refine plain_bind (plain_exchange _) fun _ => ?_
  exact .pure rfl

theorem reports_write (words : List UInt16) :
    Reports (fun _ => (Command.write words).remarks) (write words).run := by
  cases words with
  | nil => exact ChipSupport.Action.reports_report (oneLine_ofList rfl) _
  | cons word words => exact plain_attempt (oneLine_ofList rfl) (.write (word :: words))

theorem reports_read (buffer : List UInt16) :
    Reports (fun _ => (Command.read buffer).remarks) (read buffer) := by
  cases buffer with
  | nil =>
    have hrefuse : Reports (fun _ => ["read(): invalid parameter"])
        (refuse "read(): invalid parameter" : Action Unit).run :=
      ChipSupport.Action.reports_report (oneLine_ofList rfl) _
    exact hrefuse.map fun _ => rfl
  | cons slot buffer =>
    refine Reports.bind (plain_attempt (oneLine_ofList rfl) (.read (buffer.length + 1))) fun answer => ?_
    cases answer with
    | ok words => exact .pure rfl
    | error e => exact Reports.bind ChipSupport.plain_leftover fun stored => .pure rfl

theorem plain_send (words : List UInt16) : Plain (send words).run := by
  cases words with
  | nil => exact .pure rfl
  | cons word words => exact reports_write (word :: words)

theorem plain_fill (buffer : List UInt16) : Plain (fill buffer) := by
  cases buffer with
  | nil => exact .pure rfl
  | cons slot buffer => exact reports_read (slot :: buffer)

theorem plain_sendOnly (words : List UInt16) : Plain (sendOnly words).run := by
  induction words with
  | nil => exact .pure rfl
  | cons word words ih => exact plain_bind (plain_exchange word) fun _ => ih

theorem plain_transferAfter (received words buffer : List UInt16) :
    Plain (transferAfter received words buffer) := by
  induction buffer generalizing received words with
  | nil => exact Reports.bind (plain_sendOnly words) fun _ => .pure rfl
  | cons slot buffer ih =>
    refine Reports.bind (plain_exchange _) fun answer => ?_
    cases answer with
    | ok word => exact ih _ _
    | error e => exact .pure rfl

theorem plain_transferInPlaceAfter (received buffer : List UInt16) :
    Plain (transferInPlaceAfter received buffer) := by
  induction buffer generalizing received with
  | nil => exact .pure rfl
  | cons word buffer ih =>
    refine Reports.bind (plain_exchange word) fun answer => ?_
    cases answer with
    | ok answer => exact ih _
    | error e => exact .pure rfl

theorem reporting_holds (hbuild : Build.debugMessages = true) (d : Device library τ) :
    reporting.Holds d perform := by
  refine Reporting.holds hbuild (fun c hc _ => ?_) nofun d
  cases c with
  | bringUp => exact plain_bringUp
  | shutDown => exact plain_shutDown
  | setDivider divider => exact plain_reconfigure (oneLine_ofList rfl) _
  | setMode mode => exact plain_reconfigure (oneLine_ofList rfl) _
  | setLoopback enable => exact ChipSupport.plain_access _
  | setOrder order => exact ChipSupport.plain_modify _
  | exchangeByte byte => exact plain_exchangeByte byte
  | write words => exact reports_write words
  | read buffer => exact reports_read buffer
  | send words => exact plain_send words
  | fill buffer => exact plain_fill buffer
  | transfer words buffer => exact plain_transferAfter [] words buffer
  | transferInPlace buffer => exact plain_transferInPlaceAfter [] buffer
  | flush => exact .pure rfl
  | withDebug sink => exact ChipSupport.plain_attach (of_decide_eq_true hc) _

end SerialBus

/-! ## The multichannel bus -/

namespace MultichannelBus

open SerialBus (Error)

/-- Blocks that are refused are empty, and numbers that are refused name no channel. -/
def Command.remarks : Command → List String
  | configure index => if Channel.ofIndex? index = none then ["config(): invalid chip select"] else []
  | read [] => ["read(): McSPI_read failed"]
  | write [] => ["write(): McSPI_write failed"]
  | _ => []

/-- The two non-blocking operations are silent. -/
def reporting : Reporting commands where
  remarks c _ := c.remarks
  silent
    | .readWord | .writeWord _ => true
    | _ => false
  keepsSink
    | .withDebug sink => sink = .capture
    | _ => true

theorem plain_attempt {line : String} (hline : ChipSupport.OneLine line) (r : Request) :
    Plain (attempt line r).run :=
  ChipSupport.Action.plain_adapt (ChipSupport.Action.plain_attempt (L := library) hline r)

theorem reports_refuse {α : Type} {line : String} (hline : ChipSupport.OneLine line) :
    Reports (fun _ => [line]) (refuse line : Action Error α).run :=
  ChipSupport.Action.reports_report hline _

theorem plain_bringUp (mode : TransferMode) : Plain (bringUp mode).run := by
  refine plain_bind (plain_attempt (oneLine_ofList rfl) .init) fun _ => ?_
  refine plain_bind (plain_attempt (oneLine_ofList rfl) (.openIn mode)) fun bank => ?_
  refine plain_bind (ChipSupport.Action.plain_modify _) fun _ => ?_
  exact plain_attempt (oneLine_ofList rfl) (.routePins ⟨.serial1, 1⟩)

theorem plain_shutDown : Plain shutDown.run :=
  ChipSupport.Action.plain_thenAlways (plain_attempt (oneLine_ofList rfl) .close)
    (ChipSupport.plain_modify _)

theorem reports_configure (index : UInt8) :
    Reports (fun _ => (Command.configure index).remarks) (configure index).run := by
  show Reports (fun _ => if Channel.ofIndex? index = none then _ else _) _
  rw [configure]
  cases Channel.ofIndex? index with
  | none => exact reports_refuse (oneLine_ofList rfl)
  | some channel => exact plain_attempt (oneLine_ofList rfl) (.configure { channel })

theorem reports_read (buffer : List UInt16) :
    Reports (fun _ => (Command.read buffer).remarks) (read buffer) := by
  cases buffer with
  | nil =>
    have hrefuse : Reports (fun _ => ["read(): McSPI_read failed"])
        (refuse "read(): McSPI_read failed" : Action Error Unit).run :=
      reports_refuse (oneLine_ofList rfl)
    exact hrefuse.map fun _ => rfl
  | cons slot buffer =>
    refine Reports.bind (plain_attempt (oneLine_ofList rfl) (.read (buffer.length + 1))) fun answer => ?_
    cases answer with
    | ok words => exact .pure rfl
    | error e => exact Reports.bind ChipSupport.plain_leftover fun stored => .pure rfl

theorem reports_write (words : List UInt16) :
    Reports (fun _ => (Command.write words).remarks) (write words).run := by
  cases words with
  | nil => exact reports_refuse (oneLine_ofList rfl)
  | cons word words => exact plain_attempt (oneLine_ofList rfl) (.write (word :: words))

omit [Build] in
theorem mute_request (r : Request) : ChipSupport.Mute (request r).run :=
  ChipSupport.Action.leaves_adapt (ChipSupport.Action.leaves_request trivial)

omit [Build] in
theorem mute_readWord : ChipSupport.Mute readWord.run := by
  refine ChipSupport.Action.leaves_bind (ChipSupport.Action.leaves_lift (.access trivial)) fun full => ?_
  split
  · exact ChipSupport.Action.leaves_bind (mute_request _) fun _ => .pure _
  · exact .pure _

omit [Build] in
theorem mute_writeWord (word : UInt16) : ChipSupport.Mute (writeWord word).run := by
  refine ChipSupport.Action.leaves_bind (ChipSupport.Action.leaves_lift (.access trivial)) fun ready => ?_
  split
  · exact mute_request _
  · exact .pure _

theorem reporting_holds (hbuild : Build.debugMessages = true) (d : Device library τ) :
    reporting.Holds d perform := by
  refine Reporting.holds hbuild (fun c hc hsilent => ?_) (fun c hsilent => ?_) d
  · cases c with
    | bringUp mode => exact plain_bringUp mode
    | shutDown => exact plain_shutDown
    | configure index => exact reports_configure index
    | read buffer => exact reports_read buffer
    | write words => exact reports_write words
    | isReceiveFull => exact ChipSupport.plain_access _
    | isTransmitEmpty => exact ChipSupport.plain_access _
    | readWord => cases hsilent
    | writeWord word => cases hsilent
    | withDebug sink => exact ChipSupport.plain_attach (of_decide_eq_true hc) _
  · cases c with
    | readWord => exact mute_readWord
    | writeWord word => exact mute_writeWord word
    | _ => cases hsilent

end MultichannelBus

/-! ## The converter -/

namespace Converter

/-- A wait that has run out is remarked on. -/
def Error.remarks : Error → List String
  | timeout => ["analogRead(): SAR conversion timed out"]
  | _ => []

def remarks : (c : Command) → c.Answer → List String
  | .readPin _, answer | .readId _, answer | .sample _, answer => toldOf Error.remarks answer
  | _, _ => []

def reporting : Reporting commands where
  remarks := remarks
  keepsSink
    | .withDebug sink => sink = .capture
    | _ => true

theorem plain_attempt {line : String} (hline : ChipSupport.OneLine line) (r : Request) :
    Plain (attempt line r).run :=
  ChipSupport.Action.plain_attempt (L := library) hline r

theorem plain_shutDown : Plain shutDown.run := by
  refine plain_bind (plain_attempt (oneLine_ofList rfl) .closeChannel) fun _ => ?_
  refine plain_bind (ChipSupport.Action.plain_modify _) fun _ => ?_
  exact plain_attempt (oneLine_ofList rfl) .deinit

theorem plain_configureChannel (completion : Completion) (channel : Channel)
    (conversion : Conversion) : Plain (configureChannel completion channel conversion).run := by
  refine plain_bind (plain_attempt (oneLine_ofList rfl) (.openChannel channel)) fun bank => ?_
  refine plain_bind (ChipSupport.Action.plain_modify _) fun _ => ?_
  refine plain_bind (plain_attempt (oneLine_ofList rfl) .resetChannel) fun _ => ?_
  refine plain_bind ChipSupport.Action.plain_get fun s => ?_
  refine plain_bind (plain_attempt (oneLine_ofList rfl) (.setUp _)) fun _ => ?_
  refine plain_bind (plain_attempt (oneLine_ofList rfl) (.setCycle conversion)) fun _ => ?_
  exact plain_attempt (oneLine_ofList rfl) (.route channel)

/-- A query that fails is reported although its failure is dropped. -/
theorem plain_isReady : Plain isReady := by
  refine Reports.bind (plain_attempt (oneLine_ofList rfl) .status) fun answer => ?_
  cases answer with
  | ok ready => exact .pure rfl
  | error e => exact .pure rfl

theorem plain_readNonBlocking : Plain readNonBlocking.run := by
  refine plain_bind (ChipSupport.Action.plain_adapt (plain_attempt (oneLine_ofList rfl) .status))
    fun ready => ?_
  split
  · exact ChipSupport.Action.plain_adapt (plain_attempt (oneLine_ofList rfl) .read)
  · exact .pure rfl

theorem plain_pollUntilReady (limit : Nat) : Plain (pollUntilReady limit).run := by
  induction limit with
  | zero => exact .pure rfl
  | succ limit ih =>
    refine plain_bind (plain_attempt (oneLine_ofList rfl) .status) fun ready => ?_
    split
    · exact .pure rfl
    · exact ih

theorem plain_abandon : Plain abandon := by
  have hregardless (line : String) (hline : ChipSupport.OneLine line) (r : Request) :
      Plain (ChipSupport.regardless (attempt line r)) :=
    ChipSupport.Action.plain_regardless (plain_attempt hline r)
  refine Reports.bind (hregardless _ (oneLine_ofList rfl) .stop) fun _ => ?_
  refine Reports.bind (hregardless _ (oneLine_ofList rfl) .closeChannel) fun _ => ?_
  refine Reports.bind (ChipSupport.plain_modify _) fun _ => ?_
  exact hregardless _ (oneLine_ofList rfl) .deinit

/-- Among the failures of a reading those of the library are not remarked on. -/
theorem reports_lift {α : Type} {x : Action ChipSupport.Error α} (hx : Plain x.run) :
    Reports (toldOf Error.remarks) x.lift.run :=
  ChipSupport.Action.reports_adapt hx fun _ => rfl

theorem reports_prepare (pin : Pin) : Reports (toldOf Error.remarks) (prepare pin).run := by
  refine reports_bind (reports_lift (plain_attempt (oneLine_ofList rfl) .init)) fun _ => ?_
  refine reports_bind (reports_lift (plain_configureChannel _ _ _)) fun _ => ?_
  exact reports_lift (plain_attempt (oneLine_ofList rfl) .start)

theorem reports_finish : Reports (toldOf Error.remarks) finish.run := by
  refine reports_bind (reports_lift (plain_attempt (oneLine_ofList rfl) .read)) fun _ => ?_
  refine reports_bind (reports_lift plain_shutDown) fun _ => ?_
  exact .pure rfl

theorem reports_pollOr {n : Nat} {last : Action Error Unit}
    (hlast : Reports (toldOf Error.remarks) last.run) :
    Reports (toldOf Error.remarks) (pollOr n last).run := by
  refine reports_bind (reports_lift (plain_pollUntilReady n)) fun ready => ?_
  cases ready with
  | true => exact .pure rfl
  | false => exact hlast

theorem reports_runOut (limit : PollLimit) : Reports (toldOf Error.remarks) (runOut limit).run := by
  cases limit with
  | unbounded => exact .pure rfl
  | polls limit =>
    intro hbuild s es r t h
    obtain ⟨⟨said, rfl⟩, rfl, -⟩ := ChipSupport.Action.runs_report_iff.1 h
    rw [ChipSupport.Action.messageCalls_of_messages hbuild]
    exact .remark (oneLine_ofList rfl) .nil

theorem reports_awaitReady (budget : Nat) :
    Reports (toldOf Error.remarks) (awaitReady budget).run := by
  intro hbuild s es r t h
  rw [run_awaitReady_eq] at h
  exact reports_pollOr (reports_runOut s.config.pollLimit) hbuild s es r t h

/-- Settling an error keeps it, and reports what fails on the way. -/
theorem reported_settle (hbuild : Build.debugMessages = true) {e : Error} {s t : Converter}
    {es : List (Event library.interface)} {r : Except Error Unit} (h : (settle e).Runs s es r t) :
    ChipSupport.Reported es [] ∧ r = .error e := by
  by_cases he : e = .timeout
  · rw [he] at h ⊢
    have hrun : Program.Runs ((settle .timeout).run.run s) es (r, t) := h
    rw [run_settle_timeout] at hrun
    obtain ⟨es₁, ⟨⟩, u, es₂, rfl, habandon, hend⟩ := ChipSupport.runs_run_bind_iff.1 hrun
    obtain ⟨rfl, rfl, -⟩ := ChipSupport.runs_end_iff.1 hend
    rw [List.append_nil]
    exact ⟨plain_abandon hbuild s es₁ () u habandon, rfl⟩
  · have hrun : Program.Runs ((settle e).run.run s) es (r, t) := h
    rw [run_settle he] at hrun
    obtain ⟨rfl, rfl, -⟩ := ChipSupport.runs_end_iff.1 hrun
    exact ⟨.nil, rfl⟩

theorem reports_wait (budget : Nat) : Reports (toldOf Error.remarks) (wait budget).run := by
  intro hbuild s es r t h
  obtain ⟨a, rfl, hawait⟩ | ⟨es₁, e, u, es₂, rfl, hawait, hsettle⟩ :=
    ChipSupport.Action.runs_tryCatch_iff.1 h
  · exact reports_awaitReady budget hbuild s es _ t hawait
  · -- the remark is that of the wait, and settling adds no other
    obtain ⟨hreported, rfl⟩ := reported_settle hbuild hsettle
    have htold : Error.remarks e = Error.remarks e ++ [] := (List.append_nil _).symm
    show ChipSupport.Reported (es₁ ++ es₂) (Error.remarks e)
    rw [htold]
    exact (reports_awaitReady budget hbuild s es₁ _ u hawait).append hreported

theorem reports_readPin (budget : Nat) (pin : Pin) :
    Reports (toldOf Error.remarks) (readPin budget pin).run := by
  rw [readPin_eq]
  refine reports_bind (reports_prepare pin) fun _ => ?_
  refine reports_bind (reports_wait budget) fun _ => ?_
  exact reports_finish

theorem reports_readId (budget : Nat) (id : UInt8) :
    Reports (toldOf Error.remarks) (readId budget id).run := by
  rw [readId]
  cases Pin.ofId? id with
  | none => exact .pure rfl
  | some pin => exact reports_readPin budget pin

theorem reporting_holds (hbuild : Build.debugMessages = true) (budget : Nat)
    (d : Device library τ) : reporting.Holds d (perform budget) := by
  refine Reporting.holds hbuild (fun c hc _ => ?_) nofun d
  cases c with
  | bringUp => exact plain_attempt (oneLine_ofList rfl) .init
  | shutDown => exact plain_shutDown
  | configureChannel completion channel conversion => exact plain_configureChannel _ _ _
  | start => exact plain_attempt (oneLine_ofList rfl) .start
  | stop => exact plain_attempt (oneLine_ofList rfl) .stop
  | isReady => exact plain_isReady
  | readData => exact plain_attempt (oneLine_ofList rfl) .read
  | readNonBlocking => exact plain_readNonBlocking
  | readPin pin => exact reports_readPin budget pin
  | readId id => exact reports_readId budget id
  | sample pin => exact reports_readPin budget pin
  | withConfig config => exact ChipSupport.plain_modify _
  | withDebug sink => exact ChipSupport.plain_attach (of_decide_eq_true hc) _

end Converter

/-! ## The host interface -/

namespace HostInterface

def reporting : Reporting commands where
  remarks _ _ := []
  keepsSink
    | .withDebug sink => sink = .capture
    | _ => true

theorem plain_attempt {line : String} (hline : ChipSupport.OneLine line) (r : Request) :
    Plain (attempt line r).run :=
  ChipSupport.Action.plain_attempt (L := library) hline r

theorem plain_bringUp : Plain bringUp.run := by
  refine plain_bind (plain_attempt (oneLine_ofList rfl) .openModule) fun bank => ?_
  refine plain_bind (ChipSupport.Action.plain_modify _) fun _ => ?_
  exact plain_attempt (oneLine_ofList rfl) (.routePins ⟨.parallel, 0⟩)

theorem plain_shutDown : Plain shutDown.run := by
  refine plain_bind (plain_attempt (oneLine_ofList rfl) .close) fun _ => ?_
  exact ChipSupport.Action.plain_modify _

theorem reporting_holds (hbuild : Build.debugMessages = true) (d : Device library τ) :
    reporting.Holds d perform := by
  refine Reporting.holds hbuild (fun c hc _ => ?_) nofun d
  cases c with
  | bringUp => exact plain_bringUp
  | shutDown => exact plain_shutDown
  | configure interruptOnAccess => exact plain_attempt (oneLine_ofList rfl) (.configure _)
  | withDebug sink => exact ChipSupport.plain_attach (of_decide_eq_true hc) _

end HostInterface

/-! ## All drivers -/

/-- If the drivers are built with messages, every call of the library that fails is reported by one
line, at once, whichever command it is made for and whatever the library does; there are no lines but
these and the remarks, and all of them get to a sink that keeps what it gets.  The two non-blocking
operations of the multichannel bus are the exception: they report nothing. -/
theorem drivers_report_failures (hbuild : Build.debugMessages = true) (budget : Nat) :
    (∀ d : Device Converter.library τ, Converter.reporting.Holds d (Converter.perform budget)) ∧
      (∀ d : Device SerialBus.library τ, SerialBus.reporting.Holds d SerialBus.perform) ∧
      (∀ d : Device MultichannelBus.library τ,
        MultichannelBus.reporting.Holds d MultichannelBus.perform) ∧
      ∀ d : Device HostInterface.library τ, HostInterface.reporting.Holds d HostInterface.perform :=
  ⟨Converter.reporting_holds hbuild budget, SerialBus.reporting_holds hbuild,
    MultichannelBus.reporting_holds hbuild, HostInterface.reporting_holds hbuild⟩

/-- A converter that never has a result and cannot be stopped, and a reading that may poll twice. -/
def stuckConversion : Session Converter StandIn where
  driver := { config := { pollLimit := .polls 2 } }
  device :=
    { neverReady := true, faults := [{ entry := "SAR_stopConversion", error := some .fail }] }
  console := { sink := .capture }

omit [Build] in
/-- The wait that has run out is remarked on, and then the stop that fails is reported. -/
theorem stuckConversion_told :
    let play := (Session.performer StandIn.converter
      (@Converter.perform { debugMessages := true } 0)).play [.readPin .a0] stuckConversion
    (∀ turn ∈ play.1, Converter.reporting.Told turn) ∧ lines (Turn.log play.1) =
      ["analogRead(): SAR conversion timed out", "stopConversion(): SAR_stopConversion failed"] ∧
      play.2.console.text = stuckConversion.console.text ++ written (lines (Turn.log play.1)) := by
  intro play
  have htold := (@drivers_report_failures { debugMessages := true } _ rfl 0).1 StandIn.converter
    [.readPin .a0] stuckConversion rfl (List.forall_mem_singleton.2 rfl)
  have hlines : lines (Turn.log play.1) =
      ["analogRead(): SAR conversion timed out", "stopConversion(): SAR_stopConversion failed"] := by
    decide +kernel
  exact ⟨htold.1, hlines, htold.2⟩

/-- The register holds a word, and reading it fails. -/
def unreadableWord : StandIn where
  receiveFull := true
  faults := [{ entry := "McSPI_read", error := some .xio }]

omit [Build] in
/-- A failure of a non-blocking operation is handed back, and nobody is told. -/
theorem unreported_word :
    let start : Session MultichannelBus StandIn := ⟨{}, unreadableWord, { sink := .capture }⟩
    let turn := (Session.performer StandIn.multichannelBus
      (@MultichannelBus.perform { debugMessages := true })).turn .readWord start
    start.console.Keeps ∧ turn.answer = .error (.failed (.library .xio)) ∧ failures turn.calls = 1 ∧
      lines turn.calls = [] ∧ turn.after.console.text = start.console.text ∧
      ∀ remarks, ¬ ChipSupport.Reported turn.calls remarks := by
  intro start turn
  refine ⟨rfl, rfl, rfl, rfl, rfl, fun remarks h => ?_⟩
  have hlength : 0 = 1 + remarks.length := h.length_lines
  omega

end BoardSupport
