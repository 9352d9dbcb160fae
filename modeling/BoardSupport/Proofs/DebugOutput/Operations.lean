import BoardSupport.Converter.Command
import BoardSupport.HostInterface.Basic
import BoardSupport.MultichannelBus.Command
import BoardSupport.Proofs.ChipSupport.Twins
import BoardSupport.SerialBus.Command

/-!
# No operation heeds the console

Every operation of the converter, of the two buses and of the host interface does the same in every
build, but for what it tells the console, and goes on from whatever the sink says.  Another sink can
be attached without anything being done.
-/

namespace BoardSupport

open ChipSupport

variable {build build' : Build}

namespace Converter

theorem twins_shutDown : (@shutDown build).Twins build build' (@shutDown build') := by
  refine (Action.Twins.attempt _ _).bind fun _ => ?_
  refine (Action.Twins.modify _).bind fun _ => ?_
  exact Action.Twins.attempt _ _

theorem twins_configureChannel (completion : Completion) (channel : Channel)
    (conversion : Conversion) :
    (@configureChannel build completion channel conversion).Twins build build'
      (@configureChannel build' completion channel conversion) := by
  refine (Action.Twins.attempt _ _).bind fun bank => ?_
  refine (Action.Twins.modify _).bind fun _ => ?_
  refine (Action.Twins.attempt _ _).bind fun _ => ?_
  refine Action.Twins.get.bind fun _ => ?_
  refine (Action.Twins.attempt _ _).bind fun _ => ?_
  refine (Action.Twins.attempt _ _).bind fun _ => ?_
  exact Action.Twins.attempt _ _

theorem twins_isReady : Twins build build' (@isReady build) (@isReady build') := by
  refine Twins.bind (Action.Twins.attempt _ _) fun r => ?_
  cases r with
  | ok ready => exact Twins.pure ready
  | error e => exact Twins.pure false

theorem twins_readNonBlocking :
    (@readNonBlocking build).Twins build build' (@readNonBlocking build') := by
  refine ((Action.Twins.attempt _ _).adapt _).bind fun ready => ?_
  cases ready with
  | true => exact (Action.Twins.attempt _ _).adapt _
  | false => exact Action.Twins.throw _

theorem twins_pollUntilReady (limit : Nat) :
    (@pollUntilReady build limit).Twins build build' (@pollUntilReady build' limit) := by
  induction limit with
  | zero => exact Action.Twins.pure false
  | succ limit ih =>
    refine (Action.Twins.attempt _ _).bind fun ready => ?_
    cases ready with
    | true => exact Action.Twins.pure true
    | false => exact ih

theorem twins_awaitReady (budget : Nat) :
    (@awaitReady build budget).Twins build build' (@awaitReady build' budget) := by
  refine Action.Twins.get.bind fun s => ?_
  cases s.config.pollLimit with
  | unbounded =>
    refine ((twins_pollUntilReady budget).adapt _).bind fun ready => ?_
    cases ready with
    | true => exact Action.Twins.pure ()
    | false => exact Action.Twins.throw _
  | polls limit =>
    refine ((twins_pollUntilReady limit.toNat).adapt _).bind fun ready => ?_
    cases ready with
    | true => exact Action.Twins.pure ()
    | false => exact Action.Twins.report _ _

theorem twins_abandon : Twins build build' (@abandon build) (@abandon build') := by
  refine Twins.bind (Action.Twins.attempt _ _).regardless fun _ => ?_
  refine Twins.bind (Action.Twins.attempt _ _).regardless fun _ => ?_
  refine (Twins.modify _).bind fun _ => ?_
  exact (Action.Twins.attempt _ _).regardless

theorem twins_readPin (budget : Nat) (pin : Pin) :
    (@readPin build budget pin).Twins build build' (@readPin build' budget pin) := by
  refine ((Action.Twins.attempt _ _).adapt _).bind fun _ => ?_
  refine ((twins_configureChannel _ _ _).adapt _).bind fun _ => ?_
  refine ((Action.Twins.attempt _ _).adapt _).bind fun _ => ?_
  refine ((twins_awaitReady budget).tryCatch fun e => ?_).bind fun _ => ?_
  · by_cases h : e = .timeout
    · simp only [if_pos h]
      exact (Action.Twins.lift twins_abandon).bind fun _ => Action.Twins.throw e
    · simp only [if_neg h]
      exact Action.Twins.throw e
  · refine ((Action.Twins.attempt _ _).adapt _).bind fun sample => ?_
    refine (twins_shutDown.adapt _).bind fun _ => ?_
    exact Action.Twins.pure sample

theorem twins_readId (budget : Nat) (id : UInt8) :
    (@readId build budget id).Twins build build' (@readId build' budget id) := by
  unfold readId
  cases Pin.ofId? id with
  | some pin => exact twins_readPin budget pin
  | none => exact Action.Twins.throw _

/-- The driver that is made anew around another sink is the same as before. -/
theorem twins_withDebug (sink : Sink) : Twins build build' (withDebug sink) (pure ()) :=
  Twins.attach_left sink fun s => .done ((), s)

theorem twins_perform (budget : Nat) (c : Command) :
    Twins build build' (@perform build budget c) (@perform build' budget c) := by
  cases c with
  | bringUp | start | stop | readData => exact Action.Twins.attempt _ _
  | shutDown => exact twins_shutDown
  | configureChannel completion channel conversion =>
    exact twins_configureChannel completion channel conversion
  | isReady => exact twins_isReady
  | readNonBlocking => exact twins_readNonBlocking
  | readPin pin | sample pin => exact twins_readPin budget pin
  | readId id => exact twins_readId budget id
  | withConfig config => exact Twins.modify _
  | withDebug sink => exact Twins.attach sink (Twins.modify _)

end Converter

namespace SerialBus

theorem twins_attempt (line : String) (r : Request) :
    (@attempt build line r).Twins build build' (@attempt build' line r) :=
  (Action.Twins.attempt (L := library) line r).adapt _

theorem twins_bringUp : (@bringUp build).Twins build build' (@bringUp build') := by
  refine (twins_attempt _ _).bind fun _ => ?_
  refine (twins_attempt _ _).bind fun _ => ?_
  refine (twins_attempt _ _).bind fun bank => ?_
  refine (Action.Twins.modify _).bind fun _ => ?_
  refine Action.Twins.get.bind fun _ => ?_
  exact twins_attempt _ _

theorem twins_shutDown : (@shutDown build).Twins build build' (@shutDown build') := by
  refine (twins_attempt _ _).bind fun _ => ?_
  exact (twins_attempt _ _).thenAlways (Twins.modify _)

theorem twins_reconfigure (line : String) (edit : Config → Config) :
    (@reconfigure build line edit).Twins build build' (@reconfigure build' line edit) := by
  refine (Action.Twins.modify _).bind fun _ => ?_
  refine Action.Twins.get.bind fun _ => ?_
  exact twins_attempt _ _

theorem twins_exchange (word : UInt16) :
    (@exchange build word).Twins build build' (@exchange build' word) := by
  refine (twins_attempt _ _).bind fun _ => ?_
  refine (twins_attempt _ _).bind fun received => ?_
  exact Action.Twins.pure _

theorem twins_exchangeByte (byte : UInt8) :
    (@exchangeByte build byte).Twins build build' (@exchangeByte build' byte) := by
  refine Action.Twins.get.bind fun _ => ?_
  refine (twins_exchange _).bind fun word => ?_
  exact Action.Twins.pure _

theorem twins_write (words : List UInt16) :
    (@write build words).Twins build build' (@write build' words) := by
  unfold write
  by_cases h : words.isEmpty = true
  · rw [if_pos h, if_pos h]
    exact Action.Twins.report _ _
  · rw [if_neg h, if_neg h]
    exact twins_attempt _ _

theorem twins_read (buffer : List UInt16) :
    Twins build build' (@read build buffer) (@read build' buffer) := by
  unfold read
  by_cases h : buffer.isEmpty = true
  · rw [if_pos h, if_pos h]
    exact Twins.bind (Action.Twins.report _ _) fun refusal => Twins.pure _
  · rw [if_neg h, if_neg h]
    refine Twins.bind (twins_attempt _ _) fun r => ?_
    cases r with
    | ok words => exact Twins.pure _
    | error e => exact Twins.leftover.bind fun stored => Twins.pure _

theorem twins_send (words : List UInt16) :
    (@send build words).Twins build build' (@send build' words) := by
  unfold send
  by_cases h : words.isEmpty = true
  · rw [if_pos h, if_pos h]
    exact Action.Twins.pure ()
  · rw [if_neg h, if_neg h]
    exact twins_write words

theorem twins_fill (buffer : List UInt16) :
    Twins build build' (@fill build buffer) (@fill build' buffer) := by
  unfold fill
  by_cases h : buffer.isEmpty = true
  · rw [if_pos h, if_pos h]
    exact Twins.pure _
  · rw [if_neg h, if_neg h]
    exact twins_read buffer

theorem twins_sendOnly (words : List UInt16) :
    (@sendOnly build words).Twins build build' (@sendOnly build' words) := by
  induction words with
  | nil => exact Action.Twins.pure ()
  | cons word words ih => exact (twins_exchange word).bind fun _ => ih

theorem twins_transferAfter (received words buffer : List UInt16) :
    Twins build build' (@transferAfter build received words buffer)
      (@transferAfter build' received words buffer) := by
  induction buffer generalizing received words with
  | nil => exact Twins.bind (twins_sendOnly words) fun result => Twins.pure _
  | cons slot buffer ih =>
    refine Twins.bind (twins_exchange _) fun r => ?_
    cases r with
    | ok word => exact ih _ _
    | error e => exact Twins.pure _

theorem twins_transferInPlaceAfter (received buffer : List UInt16) :
    Twins build build' (@transferInPlaceAfter build received buffer)
      (@transferInPlaceAfter build' received buffer) := by
  induction buffer generalizing received with
  | nil => exact Twins.pure _
  | cons word buffer ih =>
    refine Twins.bind (twins_exchange word) fun r => ?_
    cases r with
    | ok answer => exact ih _
    | error e => exact Twins.pure _

@[inherit_doc Converter.twins_withDebug]
theorem twins_withDebug (sink : Sink) : Twins build build' (withDebug sink) (pure ()) :=
  Twins.attach_left sink fun s => .done ((), s)

theorem twins_perform (c : Command) :
    Twins build build' (@perform build c) (@perform build' c) := by
  cases c with
  | bringUp => exact twins_bringUp
  | shutDown => exact twins_shutDown
  | setDivider divider => exact twins_reconfigure _ _
  | setMode mode => exact twins_reconfigure _ _
  | setLoopback enable => exact Twins.access (L := library) _
  | setOrder order => exact Twins.modify _
  | exchangeByte byte => exact twins_exchangeByte byte
  | write words => exact twins_write words
  | read buffer => exact twins_read buffer
  | send words => exact twins_send words
  | fill buffer => exact twins_fill buffer
  | transfer words buffer => exact twins_transferAfter [] words buffer
  | transferInPlace buffer => exact twins_transferInPlaceAfter [] buffer
  | flush => exact Action.Twins.pure ()
  | withDebug sink => exact Twins.attach sink (Twins.modify _)

end SerialBus

namespace MultichannelBus

theorem twins_attempt (line : String) (r : Request) :
    (@attempt build line r).Twins build build' (@attempt build' line r) :=
  (Action.Twins.attempt (L := library) line r).adapt _

theorem twins_bringUp (mode : TransferMode) :
    (@bringUp build mode).Twins build build' (@bringUp build' mode) := by
  refine (twins_attempt _ _).bind fun _ => ?_
  refine (twins_attempt _ _).bind fun bank => ?_
  refine (Action.Twins.modify _).bind fun _ => ?_
  exact twins_attempt _ _

theorem twins_configure (index : UInt8) :
    (@configure build index).Twins build build' (@configure build' index) := by
  unfold configure
  cases Channel.ofIndex? index with
  | some channel => exact twins_attempt _ _
  | none => exact Action.Twins.report _ _

theorem twins_read (buffer : List UInt16) :
    Twins build build' (@read build buffer) (@read build' buffer) := by
  unfold read
  by_cases h : buffer.isEmpty = true
  · rw [if_pos h, if_pos h]
    exact Twins.bind (Action.Twins.report _ _) fun refusal => Twins.pure _
  · rw [if_neg h, if_neg h]
    refine Twins.bind (twins_attempt _ _) fun r => ?_
    cases r with
    | ok words => exact Twins.pure _
    | error e => exact Twins.leftover.bind fun stored => Twins.pure _

theorem twins_write (words : List UInt16) :
    (@write build words).Twins build build' (@write build' words) := by
  unfold write
  by_cases h : words.isEmpty = true
  · rw [if_pos h, if_pos h]
    exact Action.Twins.report _ _
  · rw [if_neg h, if_neg h]
    exact twins_attempt _ _

theorem twins_readWord : readWord.Twins build build' readWord := by
  refine (Action.Twins.lift (Twins.access (L := library) _)).bind fun full => ?_
  cases full with
  | true =>
    refine ((Action.Twins.request _).adapt _).bind fun received => ?_
    exact Action.Twins.pure _
  | false => exact Action.Twins.throw _

theorem twins_writeWord (word : UInt16) :
    (writeWord word).Twins build build' (writeWord word) := by
  refine (Action.Twins.lift (Twins.access (L := library) _)).bind fun empty => ?_
  cases empty with
  | true => exact (Action.Twins.request _).adapt _
  | false => exact Action.Twins.throw _

@[inherit_doc Converter.twins_withDebug]
theorem twins_withDebug (sink : Sink) : Twins build build' (withDebug sink) (pure ()) :=
  Twins.attach_left sink fun s => .done ((), s)

theorem twins_perform (c : Command) :
    Twins build build' (@perform build c) (@perform build' c) := by
  cases c with
  | bringUp mode => exact twins_bringUp mode
  | shutDown => exact (twins_attempt _ _).thenAlways (Twins.modify _)
  | configure index => exact twins_configure index
  | read buffer => exact twins_read buffer
  | write words => exact twins_write words
  | isReceiveFull | isTransmitEmpty => exact Twins.access (L := library) _
  | readWord => exact twins_readWord
  | writeWord word => exact twins_writeWord word
  | withDebug sink => exact Twins.attach sink (Twins.modify _)

end MultichannelBus

namespace HostInterface

theorem twins_bringUp : (@bringUp build).Twins build build' (@bringUp build') := by
  refine (Action.Twins.attempt _ _).bind fun bank => ?_
  refine (Action.Twins.modify _).bind fun _ => ?_
  exact Action.Twins.attempt _ _

theorem twins_shutDown : (@shutDown build).Twins build build' (@shutDown build') := by
  refine (Action.Twins.attempt _ _).bind fun _ => ?_
  exact Action.Twins.modify _

@[inherit_doc Converter.twins_withDebug]
theorem twins_withDebug (sink : Sink) : Twins build build' (withDebug sink) (pure ()) :=
  Twins.attach_left sink fun s => .done ((), s)

theorem twins_perform (c : Command) :
    Twins build build' (@perform build c) (@perform build' c) := by
  cases c with
  | bringUp => exact twins_bringUp
  | shutDown => exact twins_shutDown
  | configure interruptOnAccess => exact Action.Twins.attempt _ _
  | withDebug sink => exact Twins.attach sink (Twins.modify _)

end HostInterface

end BoardSupport
