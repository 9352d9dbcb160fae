import BoardSupport.CountdownTimer.Basic
import BoardSupport.HostInterface.Basic
import BoardSupport.MultichannelBus.Command
import BoardSupport.Proofs.ChipSupport.Custody
import BoardSupport.Proofs.SerialBus.Management

/-!
# Who releases a handle, and when

Four drivers and three policies.  The serial bus gives its handle up once the module is shut down,
even if it cannot be closed then; the multichannel bus whenever it is asked to; the host interface and
a countdown timer only if the close succeeds.

A countdown timer comes into being when it is selected, so there may be no driver, and then no handle:
selecting a timer gives up the one before, and fails with none left.
-/

namespace BoardSupport

open ChipSupport (Asks Bank Custody Leaves any_of_libraryCalls asks_attempt asks_request
  filterMap_of_libraryCalls runs_end_iff)

namespace SerialBus

/-- The event is the module being shut down. -/
def downs : Event library.interface → Bool
  | ⟨.request .deinit, .ok _⟩ => true
  | _ => false

/-- The handle is released once the module is shut down, whether or not it can be closed. -/
def custody : Custody commands library SerialBus where
  handle? s := some s.handle
  opened?
    | ⟨.request (.openOn _ _), .ok bank⟩ => some bank
    | _ => none
  opening
    | .bringUp => true
    | _ => false
  releases
    | .shutDown, es => es.any downs
    | _, _ => false

theorem opened?_idle : ∀ e, manages e.call = false → custody.opened? e = none :=
  forall_not_manages (fun _ _ => rfl) (fun _ _ => rfl) (fun _ _ => rfl) (fun _ => rfl) fun _ _ => rfl

theorem downs_idle : ∀ e, manages e.call = false → downs e = false :=
  forall_not_manages (fun _ _ => rfl) (fun _ _ => rfl) (fun _ _ => rfl) (fun _ => rfl) fun _ _ => rfl

variable {s t : SerialBus} {c : Command} {es : List (Event library.interface)}

theorem releases_managing (c : Command) (es : List (Event library.interface)) :
    custody.releases c (managing es) = custody.releases c es := by
  cases c <;> first | rfl | exact any_managing downs_idle es

/-- What is known of the module tells what becomes of the handle. -/
theorem custody_fate {calls : List (Event library.interface)} (h : Fate s c calls t)
    (hopened : es.filterMap custody.opened? = calls.filterMap custody.opened?)
    (hreleases : custody.releases c es = custody.releases c calls) : custody.Fate s c es t := by
  cases h with
  | exchange hc hhandle hconfig =>
    refine .kept hopened ?_ (congrArg some hhandle)
    cases c <;> exact hreleases
  | initFailed e => exact .kept hopened hreleases rfl
  | routingFailed e => exact .kept hopened hreleases rfl
  | openFailed e => exact .kept hopened hreleases rfl
  | opened bank reply =>
    refine .opened bank rfl ?_ hreleases (by simp [custody])
    cases reply <;> exact hopened
  | downFailed e => exact .kept hopened hreleases rfl
  | down reply => exact .released rfl hopened hreleases (by simp [custody])
  | edited hc reply =>
    refine .kept (hopened.trans ?_) ?_ rfl
    · cases reply <;> rfl
    · cases c <;> exact hreleases

theorem custody_holds [ChipSupport.Build] : custody.Holds perform {} := by
  refine Custody.holds_of_fate (by simp [custody]) fun s c es answer t h => ?_
  exact custody_fate (fate_of_runs h) (filterMap_managing opened?_idle es).symm
    (releases_managing c es).symm

end SerialBus

namespace MultichannelBus

open SerialBus (Error)

/-- The handle is released by every shutdown. -/
def custody : Custody commands library MultichannelBus where
  handle? s := some s.handle
  opened?
    | ⟨.request (.openIn _), .ok bank⟩ => some bank
    | _ => none
  opening
    | .bringUp _ => true
    | _ => false
  releases
    | .shutDown, _ => true
    | _, _ => false

/-- Operations that open nothing and leave the handle alone. -/
abbrev Idles {α : Type} (x : StateT MultichannelBus library.Task α) : Prop :=
  Leaves custody.Idle custody.handle? x

section Pieces

variable [ChipSupport.Build]

theorem asks (line : String) (r : Request) : Asks (L := library) Error.library r (attempt line r) :=
  (asks_attempt (L := library) line r).adapt Error.library

theorem idles_attempt (line : String) {r : Request} (hr : custody.Idle (.request r)) :
    Idles (attempt line r).run :=
  (asks line r).leaves hr fun _ _ => rfl

omit [ChipSupport.Build] in
theorem idles_request {r : Request} (hr : custody.Idle (.request r)) : Idles (request r).run :=
  ((asks_request (L := library) r).adapt _).leaves hr fun _ _ => rfl

theorem idles_refuse {α : Type} (line : String) : Idles (refuse line : Action Error α).run :=
  ChipSupport.Action.leaves_report fun _ => rfl

theorem idles_configure (index : UInt8) : Idles (configure index).run := by
  rw [configure]
  split
  · exact idles_attempt _ fun _ => rfl
  · exact idles_refuse _

theorem idles_write (words : List UInt16) : Idles (write words).run := by
  rw [write]
  split
  · exact idles_refuse _
  · exact idles_attempt _ fun _ => rfl

theorem idles_read (buffer : List UInt16) : Idles (read buffer) := by
  rw [read]
  split
  · exact (idles_refuse _).bind fun _ => .pure _
  · refine (idles_attempt _ fun _ => rfl).bind fun answer => ?_
    cases answer with
    | ok words => exact .pure _
    | error e => exact (Leaves.leftover fun _ => rfl).bind fun stored => .pure _

omit [ChipSupport.Build] in
theorem idles_readWord : Idles readWord.run := by
  refine ChipSupport.Action.leaves_bind (ChipSupport.Action.leaves_lift (.access fun _ => rfl))
    fun full => ?_
  cases full with
  | true => exact ChipSupport.Action.leaves_bind (idles_request fun _ => rfl) fun _ => .pure _
  | false => exact .pure _

omit [ChipSupport.Build] in
theorem idles_writeWord (word : UInt16) : Idles (writeWord word).run := by
  refine ChipSupport.Action.leaves_bind (ChipSupport.Action.leaves_lift (.access fun _ => rfl))
    fun empty => ?_
  cases empty with
  | true => exact idles_request fun _ => rfl
  | false => exact .pure _

omit [ChipSupport.Build] in
theorem idles_withDebug (sink : ChipSupport.Sink) : Idles (withDebug sink) :=
  (Leaves.debug fun _ => rfl).bind fun _ => .modify fun _ => rfl

end Pieces

variable [ChipSupport.Build] {s t : MultichannelBus} {es : List (Event library.interface)}

theorem custody_bringUp {mode : TransferMode} {r : Except Error Unit}
    (h : (bringUp mode).Runs s es r t) : custody.Fate s (.bringUp mode) es t := by
  obtain ⟨e, hes, -, rfl⟩ | ⟨⟨⟩, es₁, hes, h⟩ := (asks _ .init).runs_bind h
  · exact .kept (filterMap_of_libraryCalls (fun _ _ => rfl) hes) rfl rfl
  obtain ⟨e, hes₁, -, rfl⟩ | ⟨bank, es₂, hes₁, h⟩ := (asks _ (.openIn mode)).runs_bind h
  · rw [hes₁] at hes
    exact .kept (filterMap_of_libraryCalls (fun _ _ => rfl) hes) rfl rfl
  -- the bank is noted before the pins are routed
  have hroute : (attempt "begin(): SYS_setEBSR failed" (.routePins ⟨.serial1, 1⟩)).Runs
      { s with handle := bank } es₂ r t := h
  obtain ⟨reply, hes₂, -, rfl⟩ := asks _ _ _ _ _ _ hroute
  rw [hes₁, hes₂] at hes
  exact .opened bank rfl (filterMap_of_libraryCalls (fun _ _ => rfl) hes) rfl (by simp [custody])

theorem custody_shutDown {r : Except Error Unit} (h : shutDown.Runs s es r t) :
    custody.Fate s .shutDown es t := by
  obtain ⟨u, hclose, rfl⟩ := ChipSupport.Action.runs_thenAlways_modify_iff.1 h
  obtain ⟨reply, hes, -, rfl⟩ := asks _ .close _ _ _ _ hclose
  exact .released rfl (filterMap_of_libraryCalls (fun _ _ => rfl) hes) rfl (by simp [custody])

theorem custody_holds : custody.Holds perform {} := by
  refine Custody.holds_of_fate (by simp [custody]) fun s c es answer t h => ?_
  cases c with
  | bringUp mode => exact custody_bringUp h
  | shutDown => exact custody_shutDown h
  | configure index => exact .of_leaves rfl (idles_configure index) h
  | read buffer => exact .of_leaves rfl (idles_read buffer) h
  | write words => exact .of_leaves rfl (idles_write words) h
  | isReceiveFull => exact .of_leaves rfl (.access fun _ => rfl) h
  | isTransmitEmpty => exact .of_leaves rfl (.access fun _ => rfl) h
  | readWord => exact .of_leaves rfl idles_readWord h
  | writeWord word => exact .of_leaves rfl (idles_writeWord word) h
  | withDebug sink => exact .of_leaves rfl (idles_withDebug sink) h

end MultichannelBus

namespace HostInterface

/-- The event is the module being closed. -/
def closes : Event library.interface → Bool
  | ⟨.request .close, .ok _⟩ => true
  | _ => false

/-- The handle is released only if the module is closed. -/
def custody : Custody commands library HostInterface where
  handle? s := some s.handle
  opened?
    | ⟨.request .openModule, .ok bank⟩ => some bank
    | _ => none
  opening
    | .bringUp => true
    | _ => false
  releases
    | .shutDown, es => es.any closes
    | _, _ => false

variable [ChipSupport.Build] {s t : HostInterface} {es : List (Event library.interface)}

theorem asks (line : String) (r : Request) : Asks (L := library) id r (attempt line r) :=
  asks_attempt (L := library) line r

theorem custody_bringUp {r : Except ChipSupport.Error Unit} (h : bringUp.Runs s es r t) :
    custody.Fate s .bringUp es t := by
  obtain ⟨e, hes, -, rfl⟩ | ⟨bank, es₁, hes, h⟩ := (asks _ .openModule).runs_bind h
  · exact .kept (filterMap_of_libraryCalls (fun _ _ => rfl) hes) rfl rfl
  -- the bank is noted before the pins are handed over
  have hroute : (attempt "begin(): SYS_setEBSR failed" (.routePins ⟨.parallel, 0⟩)).Runs
      { s with handle := bank } es₁ r t := h
  obtain ⟨reply, hes₁, -, rfl⟩ := asks _ _ _ _ _ _ hroute
  rw [hes₁] at hes
  exact .opened bank rfl (filterMap_of_libraryCalls (fun _ _ => rfl) hes) rfl (by simp [custody])

theorem custody_shutDown {r : Except ChipSupport.Error Unit} (h : shutDown.Runs s es r t) :
    custody.Fate s .shutDown es t := by
  obtain ⟨e, hes, -, rfl⟩ | ⟨⟨⟩, es₁, hes, h⟩ := (asks _ .close).runs_bind h
  · exact .kept (filterMap_of_libraryCalls (fun _ _ => rfl) hes)
      (any_of_libraryCalls (fun _ _ => rfl) hes) rfl
  obtain ⟨rfl, -, rfl⟩ := ChipSupport.Action.runs_modify_iff.1 h
  exact .released rfl (filterMap_of_libraryCalls (fun _ _ => rfl) hes)
    (any_of_libraryCalls (fun _ _ => rfl) hes) (by simp [custody])

theorem custody_holds : custody.Holds perform {} := by
  refine Custody.holds_of_fate (by simp [custody]) fun s c es answer t h => ?_
  cases c with
  | bringUp => exact custody_bringUp h
  | shutDown => exact custody_shutDown h
  | configure interruptOnAccess =>
    exact .of_leaves rfl ((asks _ _).leaves (fun _ => rfl) fun _ _ => rfl) h
  | withDebug sink =>
    have hsink : Leaves custody.Idle custody.handle? (withDebug sink) :=
      (Leaves.debug fun _ => rfl).bind fun _ => .modify fun _ => rfl
    exact .of_leaves rfl hsink h

end HostInterface

namespace CountdownTimer

/-- The event is the timer being closed. -/
def closes : Event library.interface → Bool
  | ⟨.request ⟨_, .close⟩, .ok _⟩ => true
  | _ => false

/-- The handle is released only if the timer is closed. -/
def custody : Custody commands library Bench where
  handle? := Option.map CountdownTimer.handle
  opened?
    | ⟨.request ⟨_, .openTimer⟩, .ok bank⟩ => some bank
    | _ => none
  opening
    | .select _ => true
    | _ => false
  releases
    | .close, es => es.any closes
    | _, _ => false

/-- Operations of the selected timer that open nothing and leave the handle alone. -/
abbrev Idles {α : Type} (x : StateT CountdownTimer library.Task α) : Prop :=
  Leaves custody.Idle CountdownTimer.handle x

section Pieces

theorem asks {σ : Type} (timer : Instance) (op : Operation) :
    Asks (L := library) (σ := σ) id ⟨timer, op⟩ (request timer op) :=
  asks_request (L := library) ⟨timer, op⟩

theorem idles_call (op : Operation) (hop : ∀ timer, custody.Idle (.request ⟨timer, op⟩)) :
    Idles (call op).run :=
  ChipSupport.Action.leaves_bind ChipSupport.Action.leaves_get fun s =>
    (asks s.timer op).leaves (hop s.timer) fun _ _ => rfl

theorem idles_stop : Idles stop.run :=
  ChipSupport.Action.leaves_bind (idles_call .stop fun _ _ => rfl) fun _ =>
    idles_call .reset fun _ _ => rfl

/-- Without a selected timer nothing happens. -/
theorem runs_onSelected_none {α : Type} {x : StateT CountdownTimer library.Task α}
    {es : List (Event library.interface)} {answer : Option α} {t : Bench}
    (h : Program.Runs ((onSelected x).run none) es (answer, t)) :
    es = [] ∧ answer = none ∧ t = none :=
  runs_end_iff.1 h

/-- An operation of the selected timer runs in its place. -/
theorem runs_onSelected_some {α : Type} {x : StateT CountdownTimer library.Task α}
    {s : CountdownTimer} {es : List (Event library.interface)} {answer : Option α} {t : Bench}
    (h : Program.Runs ((onSelected x).run (some s)) es (answer, t)) :
    ∃ a u, Program.Runs (x.run s) es (a, u) ∧ answer = some a ∧ t = some u := by
  have hrun : (onSelected x).run (some s) = x.run s >>= fun p => .done (some p.1, some p.2) := rfl
  rw [hrun, Program.runs_bind_iff] at h
  obtain ⟨es₁, ⟨a, u⟩, es₂, rfl, hx, hend⟩ := h
  obtain ⟨rfl, rfl, rfl⟩ := runs_end_iff.1 hend
  rw [List.append_nil]
  exact ⟨a, u, hx, rfl, rfl⟩

theorem leaves_onSelected {α : Type} {x : StateT CountdownTimer library.Task α} (hx : Idles x) :
    Leaves custody.Idle custody.handle? (onSelected x) := by
  intro s es answer t h
  cases s with
  | none =>
    obtain ⟨rfl, -, rfl⟩ := runs_onSelected_none h
    exact ⟨List.forall_mem_nil _, rfl⟩
  | some s =>
    obtain ⟨a, u, hrun, -, rfl⟩ := runs_onSelected_some h
    obtain ⟨hes, hhandle⟩ := hx s es a u hrun
    exact ⟨hes, congrArg some hhandle⟩

end Pieces

section Runs

variable {es : List (Event library.interface)}

theorem custody_select {timer : Instance} {s t : Bench} {r : Except ChipSupport.Error Unit}
    (h : (select timer).Runs s es r t) : custody.Fate s (.select timer) es t := by
  -- whatever was selected before is given up first
  have hopen : (request timer .openTimer >>= fun handle =>
      request timer .reset >>= fun _ => set (some { timer, handle : CountdownTimer })).Runs
        (none : Bench) es r t := h
  obtain ⟨e, hes, -, rfl⟩ | ⟨bank, es₁, hes, hreset⟩ := (asks timer .openTimer).runs_bind hopen
  · exact .dropped rfl (filterMap_of_libraryCalls (fun _ _ => rfl) hes) rfl rfl
  obtain ⟨e, hes₁, -, rfl⟩ | ⟨⟨⟩, es₂, hes₁, hset⟩ := (asks timer .reset).runs_bind hreset
  · rw [hes₁] at hes
    exact .opened bank rfl (filterMap_of_libraryCalls (fun _ _ => rfl) hes) rfl (by simp [custody])
  · obtain ⟨rfl, -, rfl⟩ := ChipSupport.Action.runs_set_iff.1 hset
    rw [hes₁] at hes
    exact .opened bank rfl (filterMap_of_libraryCalls (fun _ _ => rfl) hes) rfl (by simp [custody])

/-- Closing the selected timer, in its place. -/
theorem custody_close {s t : Bench} {answer : Option (Except ChipSupport.Error Unit)}
    (h : Program.Runs ((onSelected close.run).run s) es (answer, t)) :
    custody.Fate s .close es t := by
  cases s with
  | none =>
    obtain ⟨rfl, -, rfl⟩ := runs_onSelected_none h
    exact .kept rfl rfl rfl
  | some s =>
    obtain ⟨a, u, hclose, -, rfl⟩ := runs_onSelected_some h
    have hcall : (request s.timer .close >>= fun _ =>
        modify fun s => { s with handle := .unmapped }).Runs s es a u := hclose
    obtain ⟨e, hes, -, rfl⟩ | ⟨⟨⟩, es₁, hes, hrelease⟩ := (asks s.timer .close).runs_bind hcall
    · exact .kept (filterMap_of_libraryCalls (fun _ _ => rfl) hes)
        (any_of_libraryCalls (fun _ _ => rfl) hes) rfl
    · obtain ⟨rfl, -, rfl⟩ := ChipSupport.Action.runs_modify_iff.1 hrelease
      exact .released rfl (filterMap_of_libraryCalls (fun _ _ => rfl) hes)
        (any_of_libraryCalls (fun _ _ => rfl) hes) (by simp [custody])

end Runs

theorem custody_holds : custody.Holds perform none := by
  refine Custody.holds_of_fate (by simp [custody]) fun s c es answer t h => ?_
  cases c with
  | select timer => exact custody_select h
  | configure config =>
    exact .of_leaves rfl (leaves_onSelected (idles_call (.configure config.image) fun _ _ => rfl)) h
  | setPeriod period =>
    exact .of_leaves rfl (leaves_onSelected
      (idles_call (.configure (Config.periodic period).image) fun _ _ => rfl)) h
  | start => exact .of_leaves rfl (leaves_onSelected (idles_call .start fun _ _ => rfl)) h
  | stop => exact .of_leaves rfl (leaves_onSelected idles_stop) h
  | count => exact .of_leaves rfl (leaves_onSelected (idles_call .count fun _ _ => rfl)) h
  | close => exact custody_close h
  | clearInterrupts => exact .of_leaves rfl (leaves_onSelected (.access fun _ => rfl)) h

end CountdownTimer

/-- The four handles are in custody: each is the bank that was opened last, unless it was released
since by the driver's own policy. -/
theorem drivers_keep_custody [ChipSupport.Build] :
    SerialBus.custody.Holds SerialBus.perform {} ∧
      MultichannelBus.custody.Holds MultichannelBus.perform {} ∧
      HostInterface.custody.Holds HostInterface.perform {} ∧
      CountdownTimer.custody.Holds CountdownTimer.perform none :=
  ⟨SerialBus.custody_holds, MultichannelBus.custody_holds, HostInterface.custody_holds,
    CountdownTimer.custody_holds⟩

end BoardSupport
