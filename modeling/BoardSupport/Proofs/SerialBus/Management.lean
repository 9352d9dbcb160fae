import BoardSupport.Proofs.ChipSupport.Inversion
import BoardSupport.SerialBus.Command

/-!
# How the serial bus is managed

Most commands of the serial bus exchange data; four manage the module, and only these touch the handle
or the configuration: bringing the bus up, shutting it down, and the two setters.

- `Fate`: all that one command can do about the module, call by call, with the driver's state
  afterwards.  What is proved about handle and configuration follows from it alone.
- `fate_of_runs`: whatever the library answers, a command does what its fate says.
-/

namespace BoardSupport.SerialBus

open ChipSupport (Asks Leaves asks_attempt libraryCalls runs_end_iff)

/-- The event of a request. -/
abbrev event (r : Request) (reply : Except ChipSupport.Error r.Value) : Event library.interface :=
  ⟨.request r, reply⟩

/-- The call is made to manage the module, not to exchange data. -/
def manages : library.interface.Call → Bool
  | .request (.write _) | .request (.read _) | .access _ | .leftover | .debug _ => false
  | .request _ => true

/-- The calls that manage the module. -/
def managing (es : List (Event library.interface)) : List (Event library.interface) :=
  es.filter fun e => manages e.call

/-- What a setter makes of the configuration. -/
def Command.edit? : Command → Option (Config → Config)
  | setDivider divider => some fun c => { c with clockDivider := divider.factor }
  | setMode mode => some fun c => { c with polarity := mode.polarity, phase := mode.phase }
  | _ => none

/-- The command does not manage the module. -/
def Command.isExchange : Command → Bool
  | bringUp | shutDown | setDivider _ | setMode _ => false
  | _ => true

/-- What a command can do about the module: the calls that manage it, and the state of the driver
afterwards if it was `before`. -/
inductive Fate (before : SerialBus) : Command → List (Event library.interface) → SerialBus → Prop where
  /-- Handle and configuration are no concern of the command. -/
  | exchange {c : Command} {after : SerialBus} (hc : c.isExchange = true)
      (hhandle : after.handle = before.handle) (hconfig : after.config = before.config) :
      Fate before c [] after
  | initFailed (e : ChipSupport.Error) : Fate before .bringUp [event .init (.error e)] before
  | routingFailed (e : ChipSupport.Error) :
      Fate before .bringUp
        [event .init (.ok ()), event (.routePins ⟨.parallel, 1⟩) (.error e)] before
  | openFailed (e : ChipSupport.Error) :
      Fate before .bringUp
        [event .init (.ok ()), event (.routePins ⟨.parallel, 1⟩) (.ok ()),
          event (.openOn .cs0 .polling) (.error e)] before
  /-- The module is open, and whether or not it takes the default configuration, the driver starts
  over with it. -/
  | opened (bank : ChipSupport.Bank) (reply : Except ChipSupport.Error Unit) :
      Fate before .bringUp
        [event .init (.ok ()), event (.routePins ⟨.parallel, 1⟩) (.ok ()),
          event (.openOn .cs0 .polling) (.ok bank), event (.configure {}) reply]
        { before with handle := bank, config := {} }
  | downFailed (e : ChipSupport.Error) : Fate before .shutDown [event .deinit (.error e)] before
  /-- The module is down, and whether or not it can be closed, the handle is released. -/
  | down (reply : Except ChipSupport.Error Unit) :
      Fate before .shutDown [event .deinit (.ok ()), event .close reply]
        { before with handle := .unmapped }
  /-- A setter edits the configuration, whether or not the module takes it. -/
  | edited {c : Command} {edit : Config → Config} (hc : c.edit? = some edit)
      (reply : Except ChipSupport.Error Unit) :
      Fate before c [event (.configure (edit before.config)) reply]
        { before with config := edit before.config }

/-! ## Exchanging data -/

/-- Operations that make no call to manage the module, and keep handle and configuration. -/
abbrev Exchanges {α : Type} (x : StateT SerialBus library.Task α) : Prop :=
  Leaves (fun c => manages c = false) (fun s => (s.handle, s.config)) x

section Operations

variable [ChipSupport.Build]

theorem asks (line : String) (r : Request) :
    Asks (L := library) Error.library r (attempt line r) :=
  (asks_attempt (L := library) line r).adapt Error.library

theorem exchanges_attempt (line : String) {r : Request} (hr : manages (.request r) = false) :
    Exchanges (attempt line r).run :=
  (asks line r).leaves hr fun _ => rfl

theorem exchanges_refuse {α : Type} (line : String) : Exchanges (refuse line : Action α).run :=
  ChipSupport.Action.leaves_report rfl

theorem exchanges_exchange (word : UInt16) : Exchanges (exchange word).run := by
  refine ChipSupport.Action.leaves_bind (exchanges_attempt _ rfl) fun _ => ?_
  refine ChipSupport.Action.leaves_bind (exchanges_attempt _ rfl) fun _ => ?_
  exact .pure _

theorem exchanges_exchangeByte (byte : UInt8) : Exchanges (exchangeByte byte).run := by
  refine ChipSupport.Action.leaves_bind ChipSupport.Action.leaves_get fun _ => ?_
  refine ChipSupport.Action.leaves_bind (exchanges_exchange _) fun _ => ?_
  exact .pure _

theorem exchanges_write (words : List UInt16) : Exchanges (write words).run := by
  rw [write]
  split
  · exact exchanges_refuse _
  · exact exchanges_attempt _ rfl

theorem exchanges_read (buffer : List UInt16) : Exchanges (read buffer) := by
  rw [read]
  split
  · exact (exchanges_refuse _).bind fun _ => .pure _
  · refine (exchanges_attempt _ rfl).bind fun answer => ?_
    cases answer with
    | ok words => exact .pure _
    | error e => exact Leaves.bind (.leftover rfl) fun _ => .pure _

theorem exchanges_send (words : List UInt16) : Exchanges (send words).run := by
  rw [send]
  split
  · exact .pure _
  · exact exchanges_write words

theorem exchanges_fill (buffer : List UInt16) : Exchanges (fill buffer) := by
  rw [fill]
  split
  · exact .pure _
  · exact exchanges_read buffer

theorem exchanges_sendOnly (words : List UInt16) : Exchanges (sendOnly words).run := by
  induction words with
  | nil => exact .pure _
  | cons word words ih =>
    exact ChipSupport.Action.leaves_bind (exchanges_exchange word) fun _ => ih

theorem exchanges_transferAfter (received words buffer : List UInt16) :
    Exchanges (transferAfter received words buffer) := by
  induction buffer generalizing received words with
  | nil => exact (exchanges_sendOnly words).bind fun _ => .pure _
  | cons slot buffer ih =>
    rw [transferAfter]
    refine (exchanges_exchange _).bind fun answer => ?_
    cases answer with
    | ok word => exact ih _ _
    | error e => exact .pure _

theorem exchanges_transferInPlaceAfter (received buffer : List UInt16) :
    Exchanges (transferInPlaceAfter received buffer) := by
  induction buffer generalizing received with
  | nil => exact .pure _
  | cons word buffer ih =>
    rw [transferInPlaceAfter]
    refine (exchanges_exchange word).bind fun answer => ?_
    cases answer with
    | ok answer => exact ih _
    | error e => exact .pure _

end Operations

/-! ## Managing the module -/

section Runs

variable {s t : SerialBus} {es : List (Event library.interface)}

theorem managing_libraryCalls (es : List (Event library.interface)) :
    managing (libraryCalls es) = managing es := by
  rw [managing, libraryCalls, List.filter_filter]
  refine List.filter_congr fun e _ => ?_
  obtain ⟨r | a | _ | call, reply⟩ := e
  · exact Bool.and_true _
  · rfl
  · rfl
  · rfl

/-- What holds of exchanges of data, of accesses, of looks into buffers and of reports holds of every
event that does not manage the module. -/
theorem forall_not_manages {P : Event library.interface → Prop}
    (write : ∀ words reply, P (event (.write words) reply))
    (read : ∀ count reply, P (event (.read count) reply))
    (access : ∀ a reply, P ⟨.access a, reply⟩) (leftover : ∀ stored, P ⟨.leftover, stored⟩)
    (debug : ∀ call reply, P ⟨.debug call, reply⟩) : ∀ e, manages e.call = false → P e := by
  rintro ⟨r | a | _ | call, reply⟩ he
  · cases r with
    | write words => exact write words reply
    | read count => exact read count reply
    | _ => cases he
  · exact access a reply
  · exact leftover reply
  · exact debug call reply

/-- What only managing calls tell can be told from them. -/
theorem filterMap_managing {γ : Type} {f : Event library.interface → Option γ}
    (hf : ∀ e, manages e.call = false → f e = none) (es : List (Event library.interface)) :
    (managing es).filterMap f = es.filterMap f := by
  rw [managing, List.filterMap_filter]
  congr 1
  funext e
  by_cases h : manages e.call = true
  · rw [if_pos h]
  · rw [if_neg h, hf e (Bool.eq_false_iff.2 h)]

theorem any_managing {p : Event library.interface → Bool}
    (hp : ∀ e, manages e.call = false → p e = false) (es : List (Event library.interface)) :
    (managing es).any p = es.any p := by
  rw [managing, List.any_filter]
  congr 1
  funext e
  by_cases h : manages e.call = true
  · rw [h, Bool.true_and]
  · rw [hp e (Bool.eq_false_iff.2 h), Bool.and_false]

theorem mem_managing {r : Request} (hr : manages (.request r) = true)
    {reply : Except ChipSupport.Error r.Value} {es : List (Event library.interface)} :
    event r reply ∈ managing es ↔ event r reply ∈ es := by
  rw [managing, List.mem_filter]
  exact and_iff_left hr

/-- A run whose calls of the library all manage the module. -/
theorem managing_eq {calls : List (Event library.interface)} (h : libraryCalls es = calls)
    (hcalls : ∀ e ∈ calls, manages e.call = true) : managing es = calls := by
  rw [← managing_libraryCalls, h]
  exact List.filter_eq_self.2 hcalls

theorem fate_exchange {c : Command} {α : Type} {x : StateT SerialBus library.Task α} {a : α}
    (hc : c.isExchange = true) (hx : Exchanges x) (h : Program.Runs (x.run s) es (a, t)) :
    Fate s c (managing es) t := by
  obtain ⟨hes, ht⟩ := hx s es a t h
  obtain ⟨hhandle, hconfig⟩ := Prod.mk.inj ht
  have hnone : managing es = [] := List.filter_eq_nil_iff.2 fun e he => by
    rw [hes e he]
    exact Bool.false_ne_true
  rw [hnone]
  exact .exchange hc hhandle hconfig

variable [ChipSupport.Build]

/-- Bringing the bus up succeeds only if the module takes its configuration. -/
theorem fate_bringUp {r : Except Error Unit} (h : bringUp.Runs s es r t) :
    Fate s .bringUp (managing es) t ∧
      (r = .ok () → event (.configure {}) (.ok ()) ∈ managing es) := by
  obtain ⟨e, hes, rfl, rfl⟩ | ⟨⟨⟩, es₁, hes, h⟩ := (asks _ .init).runs_bind h
  · rw [managing_eq hes (by simp [manages])]
    exact ⟨.initFailed e, nofun⟩
  obtain ⟨e, hes₁, rfl, rfl⟩ | ⟨⟨⟩, es₂, hes₁, h⟩ :=
    (asks _ (.routePins ⟨.parallel, 1⟩)).runs_bind h
  · rw [hes₁] at hes
    rw [managing_eq hes (by simp [manages])]
    exact ⟨.routingFailed e, nofun⟩
  obtain ⟨e, hes₂, rfl, rfl⟩ | ⟨bank, es₃, hes₂, h⟩ := (asks _ (.openOn .cs0 .polling)).runs_bind h
  · rw [hes₁, hes₂] at hes
    rw [managing_eq hes (by simp [manages])]
    exact ⟨.openFailed e, nofun⟩
  -- what is noted once the module is open stays noted if it refuses its configuration
  have hconfigure : (attempt "begin(): SPI instance configuration failed" (.configure {})).Runs
      { s with handle := bank, config := {} } es₃ r t := h
  obtain ⟨reply, hes₃, rfl, rfl⟩ := asks _ _ _ _ _ _ hconfigure
  rw [hes₁, hes₂, hes₃] at hes
  rw [managing_eq hes (by simp [manages])]
  refine ⟨.opened bank reply, fun hok => ?_⟩
  cases reply with
  | ok v => simp
  | error e => cases hok

theorem fate_shutDown {r : Except Error Unit} (h : shutDown.Runs s es r t) :
    Fate s .shutDown (managing es) t := by
  obtain ⟨e, hes, -, rfl⟩ | ⟨⟨⟩, es₁, hes, h⟩ := (asks _ .deinit).runs_bind h
  · rw [managing_eq hes (by simp [manages])]
    exact .downFailed e
  obtain ⟨u, hclose, rfl⟩ := ChipSupport.Action.runs_thenAlways_modify_iff.1 h
  obtain ⟨reply, hes₁, -, rfl⟩ := asks _ .close _ _ _ _ hclose
  rw [hes₁] at hes
  rw [managing_eq hes (by simp [manages])]
  exact .down reply

theorem fate_reconfigure {c : Command} {line : String} {edit : Config → Config}
    (hc : c.edit? = some edit) {r : Except Error Unit} (h : (reconfigure line edit).Runs s es r t) :
    Fate s c (managing es) t := by
  have hconfigure : (attempt line (.configure (edit s.config))).Runs
      { s with config := edit s.config } es r t := h
  obtain ⟨reply, hes, -, rfl⟩ := asks _ _ _ _ _ _ hconfigure
  rw [managing_eq hes (by simp [manages])]
  exact .edited hc reply

/-- Whatever the library answers, a command does what its fate says. -/
theorem fate_of_runs {c : Command} {answer : c.Answer}
    (h : Program.Runs ((perform c).run s) es (answer, t)) : Fate s c (managing es) t := by
  cases c with
  | bringUp => exact (fate_bringUp h).1
  | shutDown => exact fate_shutDown h
  | setDivider divider => exact fate_reconfigure rfl h
  | setMode mode => exact fate_reconfigure rfl h
  | setLoopback enable => exact fate_exchange rfl (.access rfl) h
  | setOrder order =>
    obtain ⟨rfl, -, rfl⟩ := runs_end_iff.1 h
    exact .exchange rfl rfl rfl
  | exchangeByte byte => exact fate_exchange rfl (exchanges_exchangeByte byte) h
  | write words => exact fate_exchange rfl (exchanges_write words) h
  | read buffer => exact fate_exchange rfl (exchanges_read buffer) h
  | send words => exact fate_exchange rfl (exchanges_send words) h
  | fill buffer => exact fate_exchange rfl (exchanges_fill buffer) h
  | transfer words buffer => exact fate_exchange rfl (exchanges_transferAfter [] words buffer) h
  | transferInPlace buffer => exact fate_exchange rfl (exchanges_transferInPlaceAfter [] buffer) h
  | flush => exact fate_exchange rfl (.pure _) h
  | withDebug sink =>
    have hattach : Exchanges (withDebug sink) :=
      Leaves.bind (.debug rfl) fun _ => .modify fun _ => rfl
    exact fate_exchange rfl hattach h

end Runs

theorem fate_turn [ChipSupport.Build] {τ : Type} (d : ChipSupport.Device library τ) (c : Command)
    (s : ChipSupport.Session SerialBus τ) :
    let turn := (ChipSupport.Session.performer d perform).turn c s
    Fate s.driver c (managing turn.calls) turn.after.driver :=
  fate_of_runs (ChipSupport.Session.runs_turn d perform c s)

end BoardSupport.SerialBus
