import BoardSupport.Proofs.Converter.Polling

/-!
# A reading by commands

An application can make a reading by itself: bring the converter up, prepare the channel, start, try to
read until there is something to be read, and shut down.  A complete reading without a limit polls with
a loop of its own, but what it does is the same (`readPin_by_commands`).

- `Client`, `readByCommands`: the application, which knows the commands only and stops at the first
  error.
- `carriedOut`: what the driver makes of it.
- `doing_collect`: the loop of polls and what follows it against the loop of tries and what follows it,
  by induction over their number.
- `PollEnds`: the poll terminates.  If it does, then so do both readings, in one and the same way.
-/

namespace BoardSupport.Converter

open ChipSupport (Device doing doing_adapt doing_bind doing_bind_behind doing_bind_error doing_bind_ok)

variable {τ α β : Type} {d : Device library τ}

/-! ## The application -/

/-- A program of an application that stops at the first error. -/
abbrev Client (α : Type) : Type := ExceptT Error (Program commands) α

/-- Gives one command. -/
def issue (c : Command) : Program commands c.Answer := .send (I := commands) c

/-- Goes on only if a command succeeds. -/
def must (p : Program commands (Except ChipSupport.Error α)) : Client α :=
  ExceptT.mk do
    let answer ← p
    pure (answer.mapError .library)

/-- What was read, or another try if there was nothing to be read yet. -/
def retry (again : Client UInt16) : Except (NonBlocking ChipSupport.Error) UInt16 → Client UInt16
  | .ok sample => pure sample
  | .error .wouldBlock => again
  | .error (.failed e) => throw (.library e)

/-- Tries to read until there is something to be read, at most `tries` times. -/
def collect : (tries : Nat) → Client UInt16
  | 0 => throw .unfinished
  | tries + 1 => ExceptT.lift (issue .readNonBlocking) >>= retry (collect tries)

/-- One complete conversion of `pin`, command by command. -/
def readByCommands (tries : Nat) (pin : Pin) : Client UInt16 := do
  must (issue .bringUp)
  must (issue (.configureChannel .polling pin.channel .single))
  must (issue .start)
  let sample ← collect tries
  must (issue .shutDown)
  pure sample

section CarriedOut

variable [ChipSupport.Build] (budget : Nat)

/-- What the driver makes of an application. -/
def carriedOut (x : Client α) : Action Error α :=
  ⟨x.run.interpret (perform budget)⟩

theorem carriedOut_bind (x : Client α) (f : α → Client β) :
    carriedOut budget (x >>= f) = carriedOut budget x >>= fun a => carriedOut budget (f a) := by
  have hrun : (x >>= f).run.interpret (perform budget) =
      (carriedOut budget x >>= fun a => carriedOut budget (f a)).run := by
    rw [ExceptT.run_bind, Program.interpret_bind, ChipSupport.Action.run_bind]
    show x.run.interpret (perform budget) >>= _ = x.run.interpret (perform budget) >>= _
    congr 1
    funext r
    cases r with
    | ok a => rfl
    | error e => rfl
  exact congrArg ChipSupport.Action.mk hrun

theorem interpret_issue (c : Command) : (issue c).interpret (perform budget) = perform budget c :=
  Program.interpret_send (perform budget) c

theorem carriedOut_must {p : Program commands (Except ChipSupport.Error α)}
    {x : Action ChipSupport.Error α} (hp : p.interpret (perform budget) = x.run) :
    carriedOut budget (must p) = x.lift := by
  have hmust : (must p).run = p >>= fun answer => pure (answer.mapError Error.library) := rfl
  have hrun : (must p).run.interpret (perform budget) = x.lift.run := by
    rw [hmust, Program.interpret_bind, hp, Action.lift, ChipSupport.Action.run_adapt]
    congr 1
    funext r
    cases r with
    | ok a => rfl
    | error e => rfl
  exact congrArg ChipSupport.Action.mk hrun

/-- Shuts the converter down once `sample` is read. -/
def close (sample : UInt16) : Action Error UInt16 := shutDown.lift >>= fun _ => pure sample

/-- But for the reading itself, the application does what a complete reading does. -/
theorem carriedOut_readByCommands (tries : Nat) (pin : Pin) :
    carriedOut budget (readByCommands tries pin) =
      prepare pin >>= fun _ => carriedOut budget (collect tries) >>= close := by
  have hbringUp : carriedOut budget (must (issue .bringUp)) = bringUp.lift :=
    carriedOut_must budget (interpret_issue budget .bringUp)
  have hconfigure : carriedOut budget
      (must (issue (.configureChannel .polling pin.channel .single))) =
        (configureChannel .polling pin.channel .single).lift :=
    carriedOut_must budget (interpret_issue budget (.configureChannel .polling pin.channel .single))
  have hstart : carriedOut budget (must (issue .start)) = start.lift :=
    carriedOut_must budget (interpret_issue budget .start)
  have hshutDown : carriedOut budget (must (issue .shutDown)) = shutDown.lift :=
    carriedOut_must budget (interpret_issue budget .shutDown)
  rw [readByCommands, prepare, action_bind_assoc]
  simp only [carriedOut_bind, hbringUp, hconfigure, hstart, hshutDown, action_bind_assoc]
  rfl

end CarriedOut

/-! ## Trying to read -/

section Trying

variable [ChipSupport.Build] {budget : Nat} {s : Converter} {t : τ}

/-- What comes of a try. -/
theorem run_collect_succ (tries : Nat) :
    (carriedOut budget (collect (tries + 1))).run =
      readNonBlocking.run >>= fun answer =>
        (carriedOut budget (retry (collect tries) answer)).run := by
  have hlift : (carriedOut budget (ExceptT.lift (issue .readNonBlocking))).run =
      Except.ok <$> readNonBlocking.run := by
    have hissue : (issue .readNonBlocking).interpret (perform budget) = readNonBlocking.run :=
      interpret_issue budget .readNonBlocking
    rw [← hissue, map_eq_pure_bind]
    exact Program.interpret_bind (perform budget) _ _
  rw [collect, carriedOut_bind, ChipSupport.Action.run_bind, hlift, bind_map_left]

theorem doing_readData_adapt {ε : Type} (f : ChipSupport.Error → ε) :
    doing d (readData.adapt f).run s t =
      ⟨[d.reply t .read], ((d.request .read t).1.mapError f, s), (d.request .read t).2⟩ :=
  doing_adapt (doing_attempt _ .read s t)

/-- What a try makes of the reply to its status query. -/
def readIf : Except ChipSupport.Error Bool → Action (NonBlocking ChipSupport.Error) UInt16
  | .ok true => readData.adapt .failed
  | .ok false => throw .wouldBlock
  | .error e => throw (.failed e)

theorem doing_readNonBlocking :
    doing d readNonBlocking.run s t =
      (doing d (readIf (d.request .status t).1).run s (d.request .status t).2).behind
        [d.reply t .status] := by
  have hstatus := doing_adapt (f := NonBlocking.failed)
    (doing_attempt (d := d) "readNb(): SAR_getStatus failed" .status s t)
  have hrun : readNonBlocking.run = _ := ChipSupport.Action.run_bind _
  rw [hrun, doing_bind hstatus]
  rcases (d.request .status t).1 with e | ready
  · rfl
  · cases ready with
    | true => rfl
    | false => rfl

/-- The polls of a reading and what follows them come to the same as so many tries and the shutdown. -/
theorem doing_collect (n : Nat) :
    doing d ((pollUntilReady n).run >>= conclude .unbounded) s t =
      doing d (carriedOut budget (collect n) >>= close).run s t := by
  induction n generalizing t with
  | zero => rfl
  | succ n ih =>
    -- a poll and a try send the same query, and its reply tells both how to go on
    rw [run_pollUntilReady_succ, bind_assoc, ChipSupport.Action.run_bind, run_collect_succ,
      bind_assoc, doing_bind doing_pollStatus, doing_bind_behind doing_readNonBlocking]
    congr 1
    rcases (d.request .status t).1 with e | ready
    · rfl
    · cases ready with
      | false => exact ih
      | true =>
        -- both read now, and name a failure of it in their own way
        have htry : doing d (readIf (.ok true)).run s (d.request .status t).2 = _ :=
          doing_readData_adapt NonBlocking.failed
        have hread : doing d readData.lift.run s (d.request .status t).2 = _ :=
          doing_readData_adapt Error.library
        show doing d finish.run s (d.request .status t).2 = _
        rw [finish, ChipSupport.Action.run_bind, doing_bind hread, doing_bind htry]
        cases (d.request .read (d.request .status t).2).1 with
        | ok sample => rfl
        | error e => rfl

end Trying

/-! ## Failures of the library -/

/-- Whatever is answered, the action fails with a failure of the library, if it fails. -/
def FailsAsLibrary (x : Action Error α) : Prop :=
  ∀ ⦃s es e t⦄, x.Runs s es (.error e) t → ∃ failure, e = .library failure

namespace FailsAsLibrary

theorem pure (a : α) : FailsAsLibrary (pure a : Action Error α) :=
  fun _ _ _ _ h => nomatch (ChipSupport.Action.runs_pure_iff.1 h).2.1

theorem lift (x : Action ChipSupport.Error α) : FailsAsLibrary x.lift := by
  intro s es e t h
  obtain ⟨r, -, he⟩ := ChipSupport.Action.runs_adapt_iff.1 h
  cases r with
  | ok a => cases he
  | error failure => exact ⟨failure, Except.error.inj he⟩

theorem bind {x : Action Error α} {f : α → Action Error β} (hx : FailsAsLibrary x)
    (hf : ∀ a, FailsAsLibrary (f a)) : FailsAsLibrary (x >>= f) := by
  intro s es e t h
  obtain ⟨es₁, a, u, es₂, -, -, hlater⟩ | ⟨e', he, hfirst⟩ := ChipSupport.Action.runs_bind_iff.1 h
  · exact hf a hlater
  · obtain rfl := Except.error.inj he
    exact hx hfirst

theorem of_doing {x : Action Error α} (hx : FailsAsLibrary x) {s u : Converter} {t v : τ}
    {es : List (Event library.interface)} {e : Error} (h : doing d x.run s t = ⟨es, (.error e, u), v⟩) :
    ∃ failure, e = .library failure := by
  have hresult : ((x.run.run s).course d.alone t).result = (.error e, u) := congrArg Course.result h
  have hrun := Program.runs_course (h := d.alone) (x.run.run s) t
  rw [hresult] at hrun
  exact hx hrun

/-- Such an action is not left unfinished. -/
theorem answer_ne {x : Action Error α} (hx : FailsAsLibrary x) (s : Converter) (t : τ) :
    (doing d x.run s t).result.1 ≠ .error .unfinished := by
  rcases h : doing d x.run s t with ⟨es, ⟨r, u⟩, v⟩
  cases r with
  | ok a => nofun
  | error e =>
    obtain ⟨failure, rfl⟩ := hx.of_doing h
    nofun

end FailsAsLibrary

theorem failsAsLibrary_prepare [ChipSupport.Build] (pin : Pin) : FailsAsLibrary (prepare pin) :=
  (FailsAsLibrary.lift _).bind fun _ => (FailsAsLibrary.lift _).bind fun _ => .lift _

theorem failsAsLibrary_finish [ChipSupport.Build] : FailsAsLibrary finish :=
  (FailsAsLibrary.lift _).bind fun _ => (FailsAsLibrary.lift _).bind fun _ => .pure _

/-! ## The whole reading -/

section Readings

variable [ChipSupport.Build] {pin : Pin} {s : Converter} {t : τ}

theorem doing_readByCommands (hlimit : s.config.pollLimit = .unbounded) (budget n : Nat) :
    doing d (readPin n pin).run s t =
      doing d (carriedOut budget (readByCommands n pin)).run s t := by
  rw [readPin_eq, carriedOut_readByCommands]
  rcases performs_prepare (d := d) s pin t with ⟨-, ⟨⟩, u, hu, hprepare⟩ | ⟨-, e, u, v, hprepare⟩
  · -- the channel is prepared, and the poll limit is still the one of the start
    have hunbounded : u.config.pollLimit = .unbounded := (congrArg Config.pollLimit hu).trans hlimit
    have hwait := run_wait_finish n u
    rw [hunbounded] at hwait
    rw [doing_bind_ok hprepare, doing_bind_ok hprepare, ← doing_collect, doing, hwait]
    rfl
  · rw [doing_bind_error hprepare, doing_bind_error hprepare]

omit [ChipSupport.Build] in
/-- The poll terminates: if the channel can be prepared, there is a poll that does not find nothing. -/
def PollEnds (d : Device library τ) (pin : Pin) (s : Converter) (t : τ) : Prop :=
  d.Serves t (preparation s.config pin.channel) →
    ∃ k, pollReply d (d.afterAll t (preparation s.config pin.channel)) k ≠ .ok false

/-- A wait is the same for every limit that allows the last poll. -/
theorem doing_wait_settles {k : Nat} (hlimit : s.config.pollLimit = .unbounded)
    (hk : pollReply d t k ≠ .ok false) :
    ∃ m polls last v, ∀ n ≥ m, doing d (wait n).run s t = ⟨polls, (lastPoll last, s), v⟩ := by
  rcases idleFor_or_last d t (k + 1) with hidle | ⟨j, -, hidle, hlast⟩
  · exact absurd (hidle k k.lt_succ_self) hk
  · refine ⟨j + 1, _, _, _, fun n hn => doing_wait_last hidle ?_ hlast⟩
    rw [hlimit]
    exact hn

/-- A reading whose poll terminates is the same from some number of polls on, and it is not left
unfinished. -/
theorem doing_readPin_settles (hlimit : s.config.pollLimit = .unbounded) (hends : PollEnds d pin s t) :
    ∃ m settled, settled.result.1 ≠ .error .unfinished ∧
      ∀ n ≥ m, doing d (readPin n pin).run s t = settled := by
  rcases performs_prepare (d := d) s pin t with
    ⟨hserves, ⟨⟩, u, hu, hprepare⟩ | ⟨-, e, u, v, hprepare⟩
  · obtain ⟨k, hk⟩ := hends hserves
    have hunbounded : u.config.pollLimit = .unbounded := (congrArg Config.pollLimit hu).trans hlimit
    obtain ⟨m, polls, last, v, hwait⟩ := doing_wait_settles hunbounded hk
    generalize d.exchange t (preparation s.config pin.channel) = calls at hprepare
    cases last with
    | error e =>
      refine ⟨m, ⟨calls ++ polls, (.error (.library e), u), v⟩, nofun, fun n hn => ?_⟩
      rw [readPin_eq, doing_bind_ok hprepare, doing_bind_error (hwait n hn)]
      rfl
    | ok ready =>
      have hne := failsAsLibrary_finish.answer_ne (d := d) u v
      refine ⟨m, ((doing d finish.run u v).behind polls).behind calls, hne, fun n hn => ?_⟩
      rw [readPin_eq, doing_bind_ok hprepare, doing_bind_ok (hwait n hn)]
  · -- the channel cannot be prepared, so nothing is polled
    obtain ⟨failure, rfl⟩ := (failsAsLibrary_prepare pin).of_doing hprepare
    generalize d.chain t (preparation s.config pin.channel) = calls at hprepare
    refine ⟨0, ⟨calls, (.error (.library failure), u), v⟩, nofun, fun n _ => ?_⟩
    rw [readPin_eq, doing_bind_error hprepare]

end Readings

/-- A complete reading without a limit, and the same reading command by command.  Over any number of
polls and as many tries, they give the same answer, make the same calls of the library, and leave driver
and device in the same state, whatever fails; and if the poll terminates, then from some number on both
are over, in one way. -/
theorem readPin_by_commands [ChipSupport.Build] (d : Device library τ) (pin : Pin) (s : Converter)
    (t : τ)
    (hlimit : s.config.pollLimit = .unbounded) :
    (∀ n budget, doing d (perform n (.readPin pin)) s t =
      doing d ((readByCommands n pin).run.interpret (perform budget)) s t) ∧
    (PollEnds d pin s t → ∃ m settled, settled.result.1 ≠ .error .unfinished ∧
      ∀ n ≥ m, ∀ budget, doing d (perform n (.readPin pin)) s t = settled ∧
        doing d ((readByCommands n pin).run.interpret (perform budget)) s t = settled) := by
  have hsame (n budget : Nat) : doing d (perform n (.readPin pin)) s t =
      doing d ((readByCommands n pin).run.interpret (perform budget)) s t :=
    doing_readByCommands hlimit budget n
  refine ⟨hsame, fun hends => ?_⟩
  obtain ⟨m, settled, hne, hsettled⟩ := doing_readPin_settles hlimit hends
  refine ⟨m, settled, hne, fun n hn budget => ⟨hsettled n hn, ?_⟩⟩
  rw [← hsame n budget]
  exact hsettled n hn

/-- A converter that is busy for two polls. -/
def slowSample : StandIn := { sample := 321, busyPolls := 2 }

/-- It is read with the third try, and by a complete reading too. -/
theorem slowSample_by_commands :
    PollEnds StandIn.converter .a1 {} slowSample ∧
      (doing StandIn.converter ((readByCommands 3 .a1).run.interpret (@perform {} 0)) {}
        slowSample).result.1 = .ok 321 ∧
      ∃ m settled, settled.result.1 ≠ .error .unfinished ∧ ∀ n ≥ m, ∀ budget,
        doing StandIn.converter (@perform {} n (.readPin .a1)) {} slowSample = settled ∧
          doing StandIn.converter ((readByCommands n .a1).run.interpret (@perform {} budget)) {}
            slowSample = settled := by
  have hends : PollEnds StandIn.converter .a1 {} slowSample := by
    refine fun _ => ⟨2, ?_⟩
    decide +kernel
  have hby := @readPin_by_commands _ {} StandIn.converter .a1 {} slowSample rfl
  refine ⟨hends, ?_, hby.2 hends⟩
  rw [← hby.1 3 0]
  decide +kernel

end BoardSupport.Converter
