import BoardSupport.Proofs.ChipSupport.Frame
import BoardSupport.Proofs.ChipSupport.Session
import BoardSupport.Proofs.Converter.Stages

/-!
# The converter's handle

Three operations write the handle, and they differ in what they make of a failure: opening a channel
sets it, the shutdown releases it once the channel is closed, and a reading that has timed out
releases it whatever happens.  Readings are made of all three.

- `Change` and `changes`: the history of the handle, as far as it can be told from the calls and the
  answers of a run.
- `Fate`: all that one command can do about the channel and the handle.  What is proved here follows
  from it alone (`fate_of_runs`).
- `handle_follows_calls`: over any commands and on any device the handle is what its history says, and
  every turn keeps to the policy on failures (`HandlePolicy`).
-/

namespace BoardSupport.Converter

open ChipSupport (Bank Leaves Session runs_end_iff runs_run_bind_iff)
open ChipSupport.Action (attemptCalls messageCalls)

variable {τ : Type}

/-! ## The history of the handle -/

/-- How a command ended, as far as the handle is concerned. -/
inductive Ending where
  /-- A reading has yielded a sample. -/
  | sampled
  /-- A reading has timed out. -/
  | timedOut
  /-- Anything else. -/
  | ordinary
  deriving DecidableEq, Repr

/-- The ending that the answer of a reading tells of. -/
def readingEnding : Except Error UInt16 → Ending
  | .ok _ => .sampled
  | .error .timeout => .timedOut
  | .error _ => .ordinary

/-- The ending that an answer tells of. -/
def ending : (c : Command) → c.Answer → Ending
  | .readPin _, answer | .readId _, answer | .sample _, answer => readingEnding answer
  | _, _ => .ordinary

/-- What happens to the handle. -/
inductive Change where
  /-- A channel is open, and its registers are in `bank`. -/
  | opened (bank : Bank)
  /-- No channel is open. -/
  | released
  deriving DecidableEq, Repr

/-- The handle that a change leaves. -/
def Change.handle : Change → Bank
  | opened bank => bank
  | released => .unmapped

/-- The change that a call makes: only calls that succeed make one. -/
def change? : Event library.interface → Option Change
  | ⟨.request (.openChannel _), .ok bank⟩ => some (.opened bank)
  | ⟨.request .closeChannel, .ok _⟩ => some .released
  | _ => none

/-- The changes of a turn, in their order; a reading that has timed out ends in a release. -/
def changes (turn : Turn commands library.interface (Session Converter τ)) : List Change :=
  turn.calls.filterMap change? ++
    if ending turn.command turn.answer = .timedOut then [.released] else []

/-- The handle after some changes: the last one decides. -/
def handleAfter (start : Bank) (changes : List Change) : Bank :=
  (changes.getLast?.map Change.handle).getD start

theorem handleAfter_append (start : Bank) (first later : List Change) :
    handleAfter start (first ++ later) = handleAfter (handleAfter start first) later := by
  rw [handleAfter, handleAfter, List.getLast?_append]
  cases later.getLast? <;> rfl

/-! ## What one command can do -/

/-- The call opens or closes a channel. -/
def grips : library.interface.Call → Bool
  | .request (.openChannel _) | .request .closeChannel => true
  | _ => false

/-- The calls that open or close a channel. -/
def gripping (es : List (Event library.interface)) : List (Event library.interface) :=
  es.filter fun e => grips e.call

/-- The event of a request. -/
abbrev event (r : Request) (reply : Except ChipSupport.Error r.Value) : Event library.interface :=
  ⟨.request r, reply⟩

/-- What a command can do about the channel: the calls that open or close one, how the command ends,
and the handle that it leaves if it found `before`. -/
inductive Fate (before : Bank) : List (Event library.interface) → Ending → Bank → Prop where
  /-- Nothing is opened or closed. -/
  | idle : Fate before [] .ordinary before
  /-- Opening fails. -/
  | openFailed (channel : Channel) (e : ChipSupport.Error) :
      Fate before [event (.openChannel channel) (.error e)] .ordinary before
  /-- A channel is opened and stays open. -/
  | opened (channel : Channel) (bank : Bank) :
      Fate before [event (.openChannel channel) (.ok bank)] .ordinary bank
  /-- Closing fails. -/
  | closeFailed (e : ChipSupport.Error) :
      Fate before [event .closeChannel (.error e)] .ordinary before
  /-- The channel is closed. -/
  | closed : Fate before [event .closeChannel (.ok ())] .ordinary .unmapped
  /-- A reading opens a channel, and fails to close it in the end. -/
  | readingKept (channel : Channel) (bank : Bank) (e : ChipSupport.Error) :
      Fate before [event (.openChannel channel) (.ok bank), event .closeChannel (.error e)] .ordinary
        bank
  /-- A reading opens a channel and closes it, and may still fail after that. -/
  | readingClosed (channel : Channel) (bank : Bank) (ending : Ending) (h : ending ≠ .timedOut) :
      Fate before [event (.openChannel channel) (.ok bank), event .closeChannel (.ok ())] ending
        .unmapped
  /-- A reading opens a channel, times out, and tries to close it. -/
  | abandoned (channel : Channel) (bank : Bank) (reply : Except ChipSupport.Error Unit) :
      Fate before [event (.openChannel channel) (.ok bank), event .closeChannel reply] .timedOut
        .unmapped

namespace Fate

variable {before after : Bank} {es : List (Event library.interface)} {ending : Ending}

/-- The handle that is left is the one that the calls and the ending tell of. -/
theorem handle_eq (h : Fate before es ending after) :
    after = handleAfter before
      (es.filterMap change? ++ if ending = .timedOut then [.released] else []) := by
  cases h with
  | readingClosed channel bank ending h =>
    rw [if_neg h]
    rfl
  | abandoned channel bank reply => cases reply <;> rfl
  | _ => rfl

theorem of_released (h : Fate before es ending after) (hending : ending ≠ .ordinary) :
    after = .unmapped := by
  cases h with
  | readingClosed => rfl
  | abandoned => rfl
  | _ => exact absurd rfl hending

theorem of_openFailed {channel : Channel} {e : ChipSupport.Error} (h : Fate before es ending after)
    (hopen : event (.openChannel channel) (.error e) ∈ es) : after = before := by
  cases h with
  | idle => rfl
  | openFailed => rfl
  | closeFailed => rfl
  | _ => simp at hopen

theorem of_readingKept {channel : Channel} {bank : Bank} {e : ChipSupport.Error}
    (h : Fate before es ending after) (hopen : event (.openChannel channel) (.ok bank) ∈ es)
    (hclose : event .closeChannel (.error e) ∈ es) (hending : ending ≠ .timedOut) :
    after = bank := by
  cases h with
  | abandoned => exact absurd rfl hending
  | readingKept =>
    rcases List.mem_cons.1 hopen with heq | hmem
    · cases heq
      rfl
    · cases List.mem_singleton.1 hmem
  | _ => simp at hopen hclose

theorem of_closed (h : Fate before es ending after) (hclose : event .closeChannel (.ok ()) ∈ es) :
    after = .unmapped := by
  cases h with
  | closed => rfl
  | readingClosed => rfl
  | abandoned => rfl
  | _ => simp at hclose

end Fate

section Pieces

variable {s t : Converter} {es : List (Event library.interface)}

/-- Operations that neither open nor close a channel, and leave the handle as it is. -/
abbrev Quiet {α : Type} (x : StateT Converter library.Task α) : Prop :=
  Leaves (fun c => grips c = false) handle x

theorem gripping_append (es₁ es₂ : List (Event library.interface)) :
    gripping (es₁ ++ es₂) = gripping es₁ ++ gripping es₂ :=
  List.filter_append ..

theorem Quiet.runs {α : Type} {x : StateT Converter library.Task α} {a : α} (hx : Quiet x)
    (h : Program.Runs (x.run s) es (a, t)) : gripping es = [] ∧ t.handle = s.handle := by
  obtain ⟨hes, ht⟩ := hx s es a t h
  refine ⟨List.filter_eq_nil_iff.2 fun e he => ?_, ht⟩
  rw [hes e he]
  exact Bool.false_ne_true

variable [ChipSupport.Build]

theorem quiet_attempt (line : String) {r : Request} (hr : grips (.request r) = false) :
    Quiet (attempt line r).run :=
  ChipSupport.Action.leaves_attempt hr rfl

theorem quiet_isReady : Quiet isReady := by
  refine (quiet_attempt _ rfl).bind fun r => ?_
  cases r with
  | ok ready => exact .pure _
  | error e => exact .pure _

theorem quiet_readNonBlocking : Quiet readNonBlocking.run := by
  refine ChipSupport.Action.leaves_bind (ChipSupport.Action.leaves_adapt ?_) fun ready => ?_
  · exact quiet_attempt _ rfl
  · cases ready with
    | true => exact ChipSupport.Action.leaves_adapt (quiet_attempt _ rfl)
    | false => exact .pure _

theorem quiet_pollUntilReady (n : Nat) : Quiet (pollUntilReady n).run := by
  induction n with
  | zero => exact .pure _
  | succ n ih =>
    refine ChipSupport.Action.leaves_bind (quiet_attempt _ rfl) fun ready => ?_
    cases ready with
    | true => exact .pure _
    | false => exact ih

theorem quiet_pollOr (n : Nat) {last : Action Error Unit} (hlast : Quiet last.run) :
    Quiet (pollOr n last).run := by
  rw [run_pollOr]
  refine (quiet_pollUntilReady n).bind fun r => ?_
  rcases r with e | ready
  · exact .pure _
  · cases ready with
    | true => exact .pure _
    | false => exact hlast

theorem quiet_awaitReady (budget : Nat) : Quiet (awaitReady budget).run := by
  intro s es r t h
  rw [run_awaitReady] at h
  cases hlimit : s.config.pollLimit with
  | unbounded =>
    rw [hlimit] at h
    exact quiet_pollOr budget (.pure _) s es r t h
  | polls limit =>
    rw [hlimit] at h
    exact quiet_pollOr limit.toNat (ChipSupport.Action.leaves_report rfl) s es r t h

theorem gripping_attempt (line : String) {r : Request} (hr : grips (.request r) = true)
    (said : Except ChipSupport.WriteError Unit) (reply : Except ChipSupport.Error r.Value) :
    gripping (attemptCalls (L := library) line r said reply) = [event r reply] := by
  cases reply with
  | ok v => exact List.filter_cons_of_pos hr
  | error e =>
    have hnone : gripping (messageCalls line said) = [] := by
      unfold messageCalls
      cases ChipSupport.Build.debugMessages <;> rfl
    show gripping ([_] ++ messageCalls line said) = _
    rw [gripping_append, hnone, List.append_nil]
    exact List.filter_cons_of_pos hr

/-- A call that opens or closes a channel, the note about it, and what is done after that. -/
theorem runs_grip {line : String} {r : Request} (hr : grips (.request r) = true)
    (noted : r.Value → Bank) {rest : r.Value → Action ChipSupport.Error Unit}
    (hrest : ∀ v, Quiet (rest v).run) {result : Except ChipSupport.Error Unit}
    (h : (do
      let v ← attempt line r
      modify fun s => { s with handle := noted v }
      rest v : Action ChipSupport.Error Unit).Runs s es result t) :
    (∃ e, result = .error e ∧ gripping es = [event r (.error e)] ∧ t.handle = s.handle) ∨
      ∃ v, gripping es = [event r (.ok v)] ∧ t.handle = noted v := by
  obtain ⟨es₁, v, u, es₂, rfl, hcall, hlater⟩ | ⟨e, rfl, hcall⟩ :=
    ChipSupport.Action.runs_bind_iff.1 h
  · right
    obtain ⟨⟨said, rfl⟩, rfl⟩ := ChipSupport.Action.runs_attempt_iff.1 hcall
    obtain ⟨es₃, ⟨⟩, w, es₄, rfl, hnote, hlast⟩ | ⟨e, -, hnote⟩ :=
      ChipSupport.Action.runs_bind_iff.1 hlater
    · obtain ⟨rfl, -, rfl⟩ := ChipSupport.Action.runs_modify_iff.1 hnote
      obtain ⟨hes, ht⟩ := (hrest v).runs hlast
      refine ⟨v, ?_, ht⟩
      rw [gripping_append, gripping_attempt line hr, List.nil_append, hes, List.append_nil]
    · cases (ChipSupport.Action.runs_modify_iff.1 hnote).2.1
  · left
    obtain ⟨⟨said, rfl⟩, rfl⟩ := ChipSupport.Action.runs_attempt_iff.1 hcall
    exact ⟨e, rfl, gripping_attempt line hr said _, rfl⟩

theorem runs_configureChannel {completion : Completion} {channel : Channel} {conversion : Conversion}
    {r : Except ChipSupport.Error Unit}
    (h : (configureChannel completion channel conversion).Runs s es r t) :
    (∃ e, r = .error e ∧ gripping es = [event (.openChannel channel) (.error e)] ∧
        t.handle = s.handle) ∨
      ∃ bank, gripping es = [event (.openChannel channel) (.ok bank)] ∧ t.handle = bank := by
  refine runs_grip (r := .openChannel channel) rfl (fun bank => bank) (fun bank => ?_) h
  refine ChipSupport.Action.leaves_bind (quiet_attempt _ rfl) fun _ => ?_
  refine ChipSupport.Action.leaves_bind ChipSupport.Action.leaves_get fun _ => ?_
  refine ChipSupport.Action.leaves_bind (quiet_attempt _ rfl) fun _ => ?_
  exact ChipSupport.Action.leaves_bind (quiet_attempt _ rfl) fun _ => quiet_attempt _ rfl

/-- The handle is released as soon as the channel is closed, before the module is shut down. -/
theorem runs_shutDown {r : Except ChipSupport.Error Unit} (h : shutDown.Runs s es r t) :
    (∃ e, r = .error e ∧ gripping es = [event .closeChannel (.error e)] ∧ t.handle = s.handle) ∨
      gripping es = [event .closeChannel (.ok ())] ∧ t.handle = .unmapped := by
  obtain hfailed | ⟨⟨⟩, hes, ht⟩ :=
    runs_grip (r := .closeChannel) rfl (fun _ => .unmapped) (fun _ => quiet_attempt _ rfl) h
  · exact .inl hfailed
  · exact .inr ⟨hes, ht⟩

/-- The shutdown after a timeout goes on whatever closing returns. -/
theorem runs_abandon (h : Program.Runs (abandon.run s) es ((), t)) :
    (∃ reply, gripping es = [event .closeChannel reply]) ∧ t.handle = .unmapped := by
  obtain ⟨es₁, ⟨⟩, u, _, rfl, hstop, h⟩ := runs_run_bind_iff.1 h
  obtain ⟨es₂, ⟨⟩, v, _, rfl, hclose, h⟩ := runs_run_bind_iff.1 h
  obtain ⟨es₃, ⟨⟩, w, es₄, rfl, hrelease, hdeinit⟩ := runs_run_bind_iff.1 h
  have hstopped : gripping es₁ = [] :=
    (Quiet.runs (ChipSupport.Action.leaves_regardless (quiet_attempt _ rfl)) hstop).1
  obtain ⟨reply, hclosed⟩ := ChipSupport.Action.runs_regardless_iff.1 hclose
  obtain ⟨⟨said, rfl⟩, rfl⟩ := ChipSupport.Action.runs_attempt_iff.1 hclosed
  obtain ⟨rfl, -, rfl⟩ := runs_end_iff.1 hrelease
  obtain ⟨hended, ht⟩ :=
    Quiet.runs (ChipSupport.Action.leaves_regardless (quiet_attempt _ rfl)) hdeinit
  refine ⟨⟨reply, ?_⟩, ht⟩
  rw [gripping_append, gripping_append, hstopped, gripping_attempt _ rfl, List.nil_append,
    List.nil_append, hended]
  rfl

/-- A wait leaves the channel alone unless it has timed out, and then it ends in the shutdown. -/
theorem runs_wait {budget : Nat} {r : Except Error Unit}
    (h : (wait budget).Runs s es r t) :
    r ≠ .error .timeout ∧ gripping es = [] ∧ t.handle = s.handle ∨
      r = .error .timeout ∧ (∃ reply, gripping es = [event .closeChannel reply]) ∧
        t.handle = .unmapped := by
  obtain ⟨⟨⟩, rfl, hwait⟩ | ⟨es₁, e, u, es₂, rfl, hwait, hsettle⟩ :=
    ChipSupport.Action.runs_tryCatch_iff.1 h
  · exact .inl ⟨nofun, (quiet_awaitReady budget).runs hwait⟩
  · obtain ⟨hes, hu⟩ := (quiet_awaitReady budget).runs hwait
    by_cases he : e = .timeout
    · right
      subst he
      have hrun : Program.Runs ((settle .timeout).run.run u) es₂ (r, t) := hsettle
      rw [run_settle_timeout] at hrun
      obtain ⟨es₃, ⟨⟩, v, es₄, rfl, habandon, hend⟩ := runs_run_bind_iff.1 hrun
      obtain ⟨rfl, rfl, rfl⟩ := runs_end_iff.1 hend
      rw [gripping_append, hes, List.append_nil]
      exact ⟨rfl, runs_abandon habandon⟩
    · left
      have hrun : Program.Runs ((settle e).run.run u) es₂ (r, t) := hsettle
      rw [run_settle he] at hrun
      obtain ⟨rfl, rfl, rfl⟩ := runs_end_iff.1 hrun
      rw [List.append_nil]
      exact ⟨fun h => he (Except.error.inj h), hes, hu⟩

omit [ChipSupport.Build] in
theorem runs_lift_bind {α β : Type} {x : Action ChipSupport.Error α} {f : α → Action Error β}
    {r : Except Error β} (h : (x.lift >>= f).Runs s es r t) :
    (∃ e, r = .error (.library e) ∧ x.Runs s es (.error e) t) ∨
      ∃ es₁ a u es₂, es = es₁ ++ es₂ ∧ x.Runs s es₁ (.ok a) u ∧ (f a).Runs u es₂ r t := by
  obtain ⟨es₁, a, u, es₂, rfl, hx, hlater⟩ | ⟨e, rfl, hx⟩ := ChipSupport.Action.runs_bind_iff.1 h
  · obtain ⟨r₁, hr₁, hok⟩ := ChipSupport.Action.runs_adapt_iff.1 hx
    cases r₁ with
    | ok a₁ =>
      cases hok
      exact .inr ⟨es₁, a, u, es₂, rfl, hr₁, hlater⟩
    | error e => cases hok
  · obtain ⟨r₁, hr₁, herror⟩ := ChipSupport.Action.runs_adapt_iff.1 hx
    cases r₁ with
    | ok a₁ => cases herror
    | error e₁ =>
      cases herror
      exact .inl ⟨e₁, rfl, hr₁⟩

omit [ChipSupport.Build] in
/-- A quiet step of a reading either ends it or is not to be seen afterwards. -/
theorem runs_quiet_bind {α β : Type} {x : Action ChipSupport.Error α} {f : α → Action Error β}
    {r : Except Error β} (hx : Quiet x.run) (h : (x.lift >>= f).Runs s es r t) :
    (∃ e, r = .error (.library e) ∧ gripping es = [] ∧ t.handle = s.handle) ∨
      ∃ a u es₂, gripping es = gripping es₂ ∧ u.handle = s.handle ∧ (f a).Runs u es₂ r t := by
  obtain ⟨e, rfl, hfailed⟩ | ⟨es₁, a, u, es₂, rfl, hok, hlater⟩ := runs_lift_bind h
  · exact .inl ⟨e, rfl, hx.runs hfailed⟩
  · obtain ⟨hes₁, hu⟩ := hx.runs hok
    refine .inr ⟨a, u, es₂, ?_, hu, hlater⟩
    rw [gripping_append, hes₁, List.nil_append]

omit [ChipSupport.Build] in
theorem readingEnding_error {e : Error} (h : e ≠ .timeout) :
    readingEnding (.error e) = .ordinary := by
  cases e with
  | timeout => exact absurd rfl h
  | _ => rfl

/-- The end of a reading: the channel that was opened is closed, or it is not. -/
theorem fate_closing {channel : Channel} {before : Bank} {sample : UInt16} {r : Except Error UInt16}
    (h : (shutDown.lift >>= fun _ => pure sample : Action Error UInt16).Runs s es r t) :
    Fate before (event (.openChannel channel) (.ok s.handle) :: gripping es) (readingEnding r)
      t.handle := by
  obtain ⟨e, rfl, hdown⟩ | ⟨es₁, ⟨⟩, u, es₂, rfl, hdown, hend⟩ := runs_lift_bind h
  · obtain ⟨e', -, hes, ht⟩ | ⟨hes, ht⟩ := runs_shutDown hdown
    · rw [hes, ht]
      exact .readingKept channel _ e'
    · rw [hes, ht]
      exact .readingClosed channel _ .ordinary nofun
  · obtain ⟨rfl, rfl, rfl⟩ := ChipSupport.Action.runs_pure_iff.1 hend
    obtain ⟨e', he', -⟩ | ⟨hes, ht⟩ := runs_shutDown hdown
    · cases he'
    · rw [List.append_nil, hes, ht]
      exact .readingClosed channel _ .sampled nofun

/-- A reading once its channel is open: the conversion, the wait, and the end. -/
theorem fate_converting {budget : Nat} {channel : Channel} {before : Bank} {r : Except Error UInt16}
    (h : (start.lift >>= fun _ => wait budget >>= fun _ => finish).Runs s es r t) :
    Fate before (event (.openChannel channel) (.ok s.handle) :: gripping es) (readingEnding r)
      t.handle := by
  obtain ⟨e, rfl, hes, ht⟩ | ⟨⟨⟩, s₁, es₁, hes, hs₁, h⟩ := runs_quiet_bind (quiet_attempt _ rfl) h
  · rw [hes, ht]
    exact .opened channel _
  rw [hes, ← hs₁]
  obtain ⟨es₂, ⟨⟩, s₂, es₃, rfl, hwait, h⟩ | ⟨e, rfl, hwait⟩ := ChipSupport.Action.runs_bind_iff.1 h
  · obtain ⟨-, hes₂, hs₂⟩ | ⟨hr, -⟩ := runs_wait hwait
    · rw [gripping_append, hes₂, List.nil_append, ← hs₂]
      obtain ⟨e, rfl, hes₃, ht⟩ | ⟨sample, s₃, es₄, hes₃, hs₃, h⟩ :=
        runs_quiet_bind (quiet_attempt _ rfl) h
      · rw [hes₃, ht]
        exact .opened channel _
      · rw [hes₃, ← hs₃]
        exact fate_closing h
    · cases hr
  · -- the wait has failed, and only if that is a timeout is there a shutdown
    obtain ⟨he, hes₁, ht⟩ | ⟨he, ⟨reply, hes₁⟩, ht⟩ := runs_wait hwait
    · rw [hes₁, ht, readingEnding_error fun h => he (congrArg _ h)]
      exact .opened channel _
    · rw [hes₁, ht]
      cases he
      exact .abandoned channel _ reply

theorem fate_readPin {budget : Nat} {pin : Pin} {r : Except Error UInt16}
    (h : (readPin budget pin).Runs s es r t) :
    Fate s.handle (gripping es) (readingEnding r) t.handle := by
  obtain ⟨e, rfl, hes, ht⟩ | ⟨⟨⟩, s₁, es₁, hes, hs₁, h⟩ := runs_quiet_bind (quiet_attempt _ rfl) h
  · rw [hes, ht]
    exact .idle
  rw [hes, ← hs₁]
  -- the reading ends here if the channel cannot be opened, or cannot be set up
  obtain ⟨e, rfl, hopen⟩ | ⟨es₂, ⟨⟩, s₂, es₃, rfl, hopen, h⟩ := runs_lift_bind h
  · obtain ⟨e', -, hes₁, ht⟩ | ⟨bank, hes₁, ht⟩ := runs_configureChannel hopen
    · rw [hes₁, ht]
      exact .openFailed _ e'
    · rw [hes₁, ht]
      exact .opened _ bank
  · obtain ⟨e', he', -⟩ | ⟨bank, hes₂, rfl⟩ := runs_configureChannel hopen
    · cases he'
    · rw [gripping_append, hes₂]
      exact fate_converting h

end Pieces

/-! ## All commands -/

theorem fate_quiet {s t : Converter} {es : List (Event library.interface)} {α : Type}
    {x : StateT Converter library.Task α} {a : α} (hx : Quiet x)
    (h : Program.Runs (x.run s) es (a, t)) :
    Fate s.handle (gripping es) .ordinary t.handle := by
  obtain ⟨hes, ht⟩ := hx.runs h
  rw [hes, ht]
  exact .idle

/-- Whatever the library answers, a command can do no more than `Fate` says. -/
theorem fate_of_runs [ChipSupport.Build] {budget : Nat} {c : Command} {s t : Converter}
    {es : List (Event library.interface)} {answer : c.Answer}
    (h : Program.Runs ((perform budget c).run s) es (answer, t)) :
    Fate s.handle (gripping es) (ending c answer) t.handle := by
  cases c with
  | bringUp => exact fate_quiet (quiet_attempt _ rfl) h
  | shutDown =>
    obtain ⟨e, -, hes, ht⟩ | ⟨hes, ht⟩ := runs_shutDown h
    · rw [hes, ht]
      exact .closeFailed e
    · rw [hes, ht]
      exact .closed
  | configureChannel completion channel conversion =>
    obtain ⟨e, -, hes, ht⟩ | ⟨bank, hes, ht⟩ := runs_configureChannel h
    · rw [hes, ht]
      exact .openFailed channel e
    · rw [hes, ht]
      exact .opened channel bank
  | start => exact fate_quiet (quiet_attempt _ rfl) h
  | stop => exact fate_quiet (quiet_attempt _ rfl) h
  | isReady => exact fate_quiet quiet_isReady h
  | readData => exact fate_quiet (quiet_attempt _ rfl) h
  | readNonBlocking => exact fate_quiet quiet_readNonBlocking h
  | readPin pin => exact fate_readPin h
  | readId id =>
    cases hid : Pin.ofId? id with
    | none =>
      have hthrow : readId budget id = throw (.invalidPin id) := by
        rw [readId, hid]
      simp only [perform, hthrow] at h
      obtain ⟨rfl, rfl, rfl⟩ := runs_end_iff.1 h
      exact .idle
    | some pin =>
      have hread : readId budget id = readPin budget pin := by
        rw [readId, hid]
      simp only [perform, hread] at h
      exact fate_readPin h
  | sample pin => exact fate_readPin h
  | withConfig config =>
    obtain ⟨rfl, -, rfl⟩ := runs_end_iff.1 h
    exact .idle
  | withDebug sink =>
    have hattach : Quiet (withDebug sink) := Leaves.bind (.debug rfl) fun _ => .modify fun _ => rfl
    exact fate_quiet hattach h

/-! ## Plays -/

theorem filterMap_gripping (es : List (Event library.interface)) :
    (gripping es).filterMap change? = es.filterMap change? := by
  rw [gripping, List.filterMap_filter]
  congr 1
  funext e
  by_cases h : grips e.call = true
  · rw [if_pos h]
  · rw [if_neg h]
    obtain ⟨r | a | _ | call, reply⟩ := e
    · cases r <;> first | rfl | exact absurd rfl h
    · cases a
    · rfl
    · rfl

theorem mem_gripping {r : Request} (hr : grips (.request r) = true)
    {reply : Except ChipSupport.Error r.Value} {es : List (Event library.interface)}
    (h : event r reply ∈ es) : event r reply ∈ gripping es :=
  List.mem_filter.2 ⟨h, hr⟩

/-- What becomes of the handle when something fails in a turn, or does not. -/
structure HandlePolicy (turn : Turn commands library.interface (Session Converter τ)) : Prop where
  /-- A reading that yields a sample or times out releases the handle, whatever the shutdown
  returns. -/
  released : ending turn.command turn.answer ≠ .ordinary → turn.after.driver.handle = .unmapped
  /-- A channel that cannot be opened leaves the handle of before. -/
  openFailed : ∀ channel e, event (.openChannel channel) (.error e) ∈ turn.calls →
    turn.after.driver.handle = turn.before.driver.handle
  /-- A shutdown that cannot close the channel keeps the handle. -/
  closeFailed : ∀ e, turn.command = .shutDown → event .closeChannel (.error e) ∈ turn.calls →
    turn.after.driver.handle = turn.before.driver.handle
  /-- So does the shutdown at the end of a reading, where it is the handle of the channel that the
  reading has opened. -/
  readingKept : ∀ channel bank e, event (.openChannel channel) (.ok bank) ∈ turn.calls →
    event .closeChannel (.error e) ∈ turn.calls → ending turn.command turn.answer ≠ .timedOut →
    turn.after.driver.handle = bank
  /-- Once the channel is closed the handle is released, whether the module can be shut down or
  not. -/
  closed : event .closeChannel (.ok ()) ∈ turn.calls → turn.after.driver.handle = .unmapped

section Turns

variable [ChipSupport.Build] (d : ChipSupport.Device library τ) (budget : Nat)

theorem fate_turn (c : Command) (s : Session Converter τ) :
    let turn := (Session.performer d (perform budget)).turn c s
    Fate s.driver.handle (gripping turn.calls) (ending turn.command turn.answer)
      turn.after.driver.handle := by
  obtain ⟨answer, calls, after, hturn, hrun⟩ :=
    Session.turn_runs d (perform budget) c s
  rw [hturn]
  exact fate_of_runs hrun

theorem handle_turn (c : Command) (s : Session Converter τ) :
    let turn := (Session.performer d (perform budget)).turn c s
    turn.after.driver.handle = handleAfter s.driver.handle (changes turn) := by
  have hfate := (fate_turn d budget c s).handle_eq
  rw [filterMap_gripping] at hfate
  exact hfate

theorem policy_turn (c : Command) (s : Session Converter τ) :
    HandlePolicy ((Session.performer d (perform budget)).turn c s) := by
  obtain ⟨answer, calls, after, hturn, hrun⟩ :=
    Session.turn_runs d (perform budget) c s
  have hfate := fate_of_runs hrun
  rw [hturn]
  constructor
  · intro h
    exact hfate.of_released h
  · intro channel e h
    exact hfate.of_openFailed (mem_gripping rfl h)
  · -- the one field that depends on the command: a fate does not tell a shutdown from a reading
    intro e hc h
    obtain rfl : c = .shutDown := hc
    obtain ⟨-, -, -, ht⟩ | ⟨hes, -⟩ := runs_shutDown hrun
    · exact ht
    · have hmem := mem_gripping rfl h
      rw [hes] at hmem
      cases List.mem_singleton.1 hmem
  · intro channel bank e hopen hclose h
    exact hfate.of_readingKept (mem_gripping rfl hopen) (mem_gripping rfl hclose) h
  · intro h
    exact hfate.of_closed (mem_gripping rfl h)

/-- Over any commands and on any device, the handle after each turn is the bank of the channel that
was opened last, unless it was released since; and every turn keeps to the policy. -/
theorem handle_follows_calls (config : Config) (t : τ) (k : ChipSupport.Console) (cs : List Command) :
    let turns := ((Session.performer d (perform budget)).play cs ⟨{ config }, t, k⟩).1
    (∀ before turn later, turns = before ++ turn :: later →
        turn.after.driver.handle = handleAfter .unmapped ((before ++ [turn]).flatMap changes)) ∧
      ∀ turn ∈ turns, HandlePolicy turn := by
  refine ⟨fun before turn later h => ?_,
    Performer.forall_turns (P := HandlePolicy) (policy_turn d budget) cs _⟩
  refine Performer.play_induction (P := fun history s =>
    s.driver.handle = handleAfter .unmapped (history.flatMap changes)) ?_ cs [] rfl h
  intro history c s hs
  rw [handle_turn d budget c s, hs, List.flatMap_append, List.flatMap_singleton,
    handleAfter_append]

end Turns

end BoardSupport.Converter
