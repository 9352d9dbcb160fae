import BoardSupport.Proofs.ChipSupport.Inversion
import BoardSupport.Proofs.FailFast.Timers

/-!
# The life of a watchdog

A watchdog is opened, gets its settings, runs, and comes to an end, and the driver's stages are
there to keep the calls in that order.  Here the order is read off the log of all calls that a run
has made, without a look at the stages.

- `Permitted`: what has to have gone before a call.
- `Fate`: all that one command can do, in the driver's terms; `fate_of_runs` says that a command
  does nothing else.
- `Reached`: the logs that lead to a stage.  It is kept by every command (`Reached.step`), and a
  call made at a stage is permitted after each log that leads there (`Reached.permitted`).
- `lifecycle_safe`: over any commands and on any device every call of the log is permitted.
-/

namespace BoardSupport.Watchdog

open ChipSupport (Bank Console Device Session runs_end_iff)
open ChipSupport.Action (runs_request_bind_iff runs_set_iff)

variable {τ : Type}

/-- The event of a request. -/
abbrev event (r : Request) (reply : Except ChipSupport.Error r.Value) : Event library.interface :=
  ⟨.request r, reply⟩

/-! ## The order of the calls -/

/-- The call opens the watchdog, or tries to. -/
def opens : Event library.interface → Bool
  | ⟨.request .openTimer, _⟩ => true
  | _ => false

/-- The call loads the settings, or tries to. -/
def configures : Event library.interface → Bool
  | ⟨.request (.configure _), _⟩ => true
  | _ => false

/-- The call is for a watchdog that has its settings. -/
def uses : Event library.interface → Bool
  | ⟨.request .start, _⟩ | ⟨.request .service, _⟩ | ⟨.request .stop, _⟩
  | ⟨.request .close, _⟩ => true
  | _ => false

/-- With the call the watchdog has come to its end: it could not be opened, it has not taken its
settings, or it was closed, however that went. -/
def ends : Event library.interface → Bool
  | ⟨.request .openTimer, .error _⟩ | ⟨.request (.configure _), .error _⟩
  | ⟨.request .close, _⟩ => true
  | _ => false

/-- The bank that a call yields if it opens the watchdog. -/
def opened? : Event library.interface → Option Bank
  | ⟨.request .openTimer, .ok bank⟩ => some bank
  | _ => none

/-- The call may be made after others. -/
structure Permitted (before : List (Event library.interface)) (e : Event library.interface) :
    Prop where
  /-- A watchdog is used or closed after it has taken its settings, and was not opened since. -/
  used : uses e = true → ∃ earlier config between,
    before = earlier ++ event (.configure config) (.ok ()) :: between ∧
      ∀ x ∈ between, opens x = false
  /-- Settings are loaded right after the watchdog was opened. -/
  configured : configures e = true → ∃ earlier bank,
    before = earlier ++ [event .openTimer (.ok bank)]
  /-- After its end a watchdog is opened before anything else is done to it. -/
  ended : ∀ earlier last between, before = earlier ++ last :: between → ends last = true →
    opens e = false → ∃ x ∈ between, opens x = true

/-- A turn in which a command of the watchdog was performed. -/
abbrev WatchdogTurn (τ : Type) : Type := Turn commands library.interface (Session Watchdog τ)

/-- The bank of the last successful opening. -/
def lastOpened (calls : List (Event library.interface)) : Option Bank :=
  (calls.filterMap opened?).getLast?

/-- The call that a command is for, if it is for one. -/
def Command.request? : Command → Option Request
  | openAnew => some .openTimer
  | configure config => some (.configure config)
  | start => some .start
  | service => some .service
  | stop => some .stop
  | close => some .close
  | free => none

/-- A turn is refused without effect, or it makes the call that its command is for and no other. -/
structure Obliging (turn : WatchdogTurn τ) : Prop where
  refused : ∀ refusal ∈ contract.refusal turn.before.driver turn.command,
    turn.answer = refusal ∧ turn.calls = [] ∧ turn.after = turn.before
  performed : contract.refusal turn.before.driver turn.command = none →
    turn.calls.map Event.call = turn.command.request?.toList.map fun r => .request r

/-! ## What one command can do -/

/-- The calls that only use the watchdog, by their commands. -/
def Command.use? : Command → Option Request
  | start => some .start
  | service => some .service
  | stop => some .stop
  | _ => none

/-- What a command can do at a stage: the calls that it makes, and the stage that it leads to. -/
inductive Fate : Watchdog → Command → List (Event library.interface) → Watchdog → Prop where
  | refused {s : Watchdog} {c : Command} (hrefusal : contract.refusal s c ≠ none) : Fate s c [] s
  | opened (s : Watchdog) (bank : Bank) :
      Fate s .openAnew [event .openTimer (.ok bank)] (.unconfigured bank)
  | openFailed (s : Watchdog) (e : ChipSupport.Error) :
      Fate s .openAnew [event .openTimer (.error e)] .absent
  | configured (bank : Bank) (config : Config) :
      Fate (.unconfigured bank) (.configure config) [event (.configure config) (.ok ())]
        (.configured bank)
  | configureFailed (bank : Bank) (config : Config) (e : ChipSupport.Error) :
      Fate (.unconfigured bank) (.configure config) [event (.configure config) (.error e)] .absent
  | used (bank : Bank) {c : Command} {r : Request} (hc : c.use? = some r)
      (reply : Except ChipSupport.Error r.Value) :
      Fate (.configured bank) c [event r reply] (.configured bank)
  | closed (bank : Bank) (reply : Except ChipSupport.Error Unit) :
      Fate (.configured bank) .close [event .close reply] .absent
  | freed {s : Watchdog} (hs : s ≠ .absent) : Fate s .free [] .absent

section Runs

variable {s t : Watchdog} {es : List (Event library.interface)}

theorem runs_request {r : Request} {result : Except ChipSupport.Error r.Value}
    (h : (request r).Runs s es result t) : es = [event r result] ∧ t = s :=
  ChipSupport.Action.runs_request_iff.1 h

theorem fate_openAnew {r : Except ChipSupport.Error Unit} (h : openAnew.Runs s es r t) :
    Fate s .openAnew es t := by
  -- whatever there was before is given up first
  have hopen : (request .openTimer >>= fun handle => set (Watchdog.unconfigured handle)).Runs
      .absent es r t := h
  obtain ⟨e, rfl, rfl, rfl⟩ | ⟨bank, later, rfl, hset⟩ := runs_request_bind_iff.1 hopen
  · exact .openFailed s e
  · obtain ⟨rfl, rfl, rfl⟩ := runs_set_iff.1 hset
    exact .opened s bank

theorem fate_configureOn {bank : Bank} {config : Config} {r : Except ChipSupport.Error Unit}
    (h : (configureOn bank config).Runs s es r t) :
    Fate (.unconfigured bank) (.configure config) es t := by
  have hload : (request (.configure config) >>= fun _ => set (Watchdog.configured bank)).Runs
      .absent es r t := h
  obtain ⟨e, rfl, rfl, rfl⟩ | ⟨⟨⟩, later, rfl, hset⟩ := runs_request_bind_iff.1 hload
  · exact .configureFailed bank config e
  · obtain ⟨rfl, rfl, rfl⟩ := runs_set_iff.1 hset
    exact .configured bank config

/-- An operation that is offered runs in its place. -/
theorem runs_some {act : Action Unit} {answer : Option (Except ChipSupport.Error Unit)}
    (h : Program.Runs ((some <$> act.run).run s) es (answer, t)) : ∃ r, act.Runs s es r t := by
  have hrun : (some <$> act.run).run s = act.program s >>= fun p => .done (some p.1, p.2) := rfl
  rw [hrun, Program.runs_bind_iff] at h
  obtain ⟨es₁, ⟨r, u⟩, es₂, rfl, hact, hend⟩ := h
  obtain ⟨rfl, -, rfl⟩ := runs_end_iff.1 hend
  rw [List.append_nil]
  exact ⟨r, hact⟩

theorem fate_use {bank : Bank} {c : Command} {r : Request} (hc : c.use? = some r)
    {result : Except ChipSupport.Error r.Value}
    (h : (request r).Runs (.configured bank) es result t) : Fate (.configured bank) c es t := by
  obtain ⟨rfl, rfl⟩ := runs_request h
  exact .used bank hc result

theorem fate_close {bank : Bank} {r : Except ChipSupport.Error Unit}
    (h : closeAnyway.Runs s es r t) : Fate (.configured bank) .close es t := by
  have hclose : (request .close).Runs .absent es r t := h
  obtain ⟨rfl, rfl⟩ := runs_request hclose
  exact .closed bank r

theorem run_refused {c : Command} {refusal : c.Answer}
    (h : contract.refusal s c = some refusal) : (perform c).run s = .done (refusal, s) := by
  cases c with
  | openAnew => cases h
  | _ => cases s <;> cases h <;> rfl

/-- What is offered at a stage is performed there. -/
theorem fate_offered {c : Command} {answer : c.Answer} (hoffered : contract.refusal s c = none)
    (h : Program.Runs ((perform c).run s) es (answer, t)) : Fate s c es t := by
  cases c with
  | openAnew => exact fate_openAnew h
  | free =>
    cases s with
    | absent => cases hoffered
    | unconfigured bank | configured bank =>
      obtain ⟨rfl, -, rfl⟩ := runs_end_iff.1 h
      exact .freed nofun
  | configure config =>
    cases s with
    | absent | configured bank => cases hoffered
    | unconfigured bank =>
      obtain ⟨r, hrun⟩ := runs_some h
      exact fate_configureOn hrun
  | start | service | stop =>
    cases s with
    | absent | unconfigured bank => cases hoffered
    | configured bank =>
      obtain ⟨r, hrun⟩ := runs_some h
      exact fate_use rfl hrun
  | close =>
    cases s with
    | absent | unconfigured bank => cases hoffered
    | configured bank =>
      obtain ⟨r, hrun⟩ := runs_some h
      exact fate_close hrun

theorem fate_of_runs {c : Command} {answer : c.Answer}
    (h : Program.Runs ((perform c).run s) es (answer, t)) : Fate s c es t := by
  cases hrefusal : contract.refusal s c with
  | none => exact fate_offered hrefusal h
  | some refusal =>
    rw [run_refused hrefusal] at h
    obtain ⟨rfl, -, rfl⟩ := runs_end_iff.1 h
    exact .refused (by rw [hrefusal]; exact Option.some_ne_none refusal)

end Runs

/-! ## What a log says of the stage -/

/-- Once a watchdog has its settings and has not come to its end, it is only used. -/
def keepsRunning (e : Event library.interface) : Bool := uses e && !ends e

/-- The log has led to a stage.  About a watchdog that is gone it says nothing. -/
inductive Reached : List (Event library.interface) → Watchdog → Prop where
  | absent (log : List (Event library.interface)) : Reached log .absent
  | unconfigured (earlier : List (Event library.interface)) (bank : Bank) :
      Reached (earlier ++ [event .openTimer (.ok bank)]) (.unconfigured bank)
  | configured (earlier : List (Event library.interface)) (bank : Bank) (config : Config)
      (between : List (Event library.interface)) (hbetween : ∀ x ∈ between, keepsRunning x = true) :
      Reached (earlier ++ event .openTimer (.ok bank) ::
        event (.configure config) (.ok ()) :: between) (.configured bank)

section Logs

variable {before since : List (Event library.interface)} {e : Event library.interface}

theorem of_keepsRunning (he : keepsRunning e = true) :
    opens e = false ∧ ends e = false ∧ opened? e = none := by
  obtain ⟨r | a | _ | call, reply⟩ := e
  · cases r with
    | start | service | stop => exact ⟨rfl, rfl, rfl⟩
    | openTimer | configure _ | close => cases he
  · exact a.elim
  · cases he
  · cases he

theorem keepsRunning_event {c : Command} {r : Request} (hc : c.use? = some r)
    (reply : Except ChipSupport.Error r.Value) : keepsRunning (event r reply) = true := by
  cases c <;> cases hc <;> rfl

/-- If a watchdog was opened and has not ended since, then any end lies before its opening. -/
theorem opened_after_end {earlier front between : List (Event library.interface)} {bank : Bank}
    {last : Event library.interface}
    (hbefore : before = earlier ++ event .openTimer (.ok bank) :: since)
    (hsince : ∀ x ∈ since, ends x = false) (hfront : before = front ++ last :: between)
    (hlast : ends last = true) : ∃ x ∈ between, opens x = true := by
  have hsplit := hbefore.symm.trans hfront
  obtain ⟨middle, -, hback⟩ | ⟨middle, -, hback⟩ := List.append_eq_append_iff.1 hsplit
  · -- the end would be the opening itself or come after it
    have hmem : last ∈ event .openTimer (.ok bank) :: since := by
      rw [hback]
      exact List.mem_append_right middle List.mem_cons_self
    rcases List.mem_cons.1 hmem with rfl | hmem
    · cases hlast
    · exact absurd hlast (Bool.eq_false_iff.1 (hsince last hmem))
  · cases middle with
    | nil =>
      obtain ⟨rfl, -⟩ := List.cons.inj hback
      cases hlast
    | cons x middle =>
      obtain ⟨-, rfl⟩ := List.cons.inj hback
      exact ⟨_, List.mem_append_right middle List.mem_cons_self, rfl⟩

namespace Reached

variable {s t : Watchdog} {c : Command} {es : List (Event library.interface)}

/-- A watchdog has the bank of the last opening. -/
theorem handle_eq (h : Reached before s) : ∀ bank ∈ s.handle?, lastOpened before = some bank := by
  intro bank' hbank'
  cases h with
  | absent => cases hbank'
  | unconfigured earlier bank =>
    obtain rfl := Option.some.inj hbank'
    rw [lastOpened, List.filterMap_append]
    exact List.getLast?_concat
  | configured earlier bank config between hbetween =>
    obtain rfl := Option.some.inj hbank'
    have hnone : between.filterMap opened? = [] :=
      List.filterMap_eq_nil_iff.2 fun x hx => (of_keepsRunning (hbetween x hx)).2.2
    have hfilter : (event .openTimer (.ok bank) :: event (.configure config) (.ok ()) ::
        between).filterMap opened? = bank :: between.filterMap opened? := rfl
    rw [lastOpened, List.filterMap_append, hfilter, hnone]
    exact List.getLast?_concat

/-- Neither an opening nor an end has come after the opening of a watchdog. -/
theorem exists_opening (h : Reached before s) (hs : s ≠ .absent) : ∃ earlier bank since,
    before = earlier ++ event .openTimer (.ok bank) :: since ∧ ∀ x ∈ since, ends x = false := by
  cases h with
  | absent => exact absurd rfl hs
  | unconfigured earlier bank => exact ⟨earlier, bank, [], rfl, List.forall_mem_nil _⟩
  | configured earlier bank config between hbetween =>
    refine ⟨earlier, bank, _, rfl, List.forall_mem_cons.2 ⟨rfl, ?_⟩⟩
    intro x hx
    exact (of_keepsRunning (hbetween x hx)).2.1

/-- A watchdog with settings took them when nothing but uses have followed. -/
theorem exists_config {bank : Bank} (h : Reached before (.configured bank)) :
    ∃ earlier config between, before = earlier ++ event (.configure config) (.ok ()) :: between ∧
      ∀ x ∈ between, opens x = false := by
  cases h with
  | configured earlier bank config between hbetween =>
    refine ⟨earlier ++ [event .openTimer (.ok bank)], config, between, by simp, ?_⟩
    intro x hx
    exact (of_keepsRunning (hbetween x hx)).1

/-- What a command calls at a stage is permitted after a log that has led there. -/
theorem permitted (h : Reached before s) (hfate : Fate s c [e] t) : Permitted before e := by
  have hended : s ≠ .absent → ∀ earlier last between, before = earlier ++ last :: between →
      ends last = true → opens e = false → ∃ x ∈ between, opens x = true := by
    intro hs earlier last between hbefore hlast _
    obtain ⟨front, bank, since, hopening, hsince⟩ := h.exists_opening hs
    exact opened_after_end hopening hsince hbefore hlast
  cases hfate with
  | opened _ bank | openFailed _ error => exact ⟨nofun, nofun, nofun⟩
  | configured bank config | configureFailed bank config error =>
    cases h with
    | unconfigured earlier bank => exact ⟨nofun, fun _ => ⟨earlier, bank, rfl⟩, hended nofun⟩
  | @used bank c r hc reply =>
    have hconfigures : configures (event r reply) = false := by cases c <;> cases hc <;> rfl
    exact ⟨fun _ => h.exists_config, by rw [hconfigures]; nofun, hended nofun⟩
  | closed bank reply => exact ⟨fun _ => h.exists_config, nofun, hended nofun⟩

/-- A command leads from stage to stage. -/
theorem step (h : Reached before s) (hfate : Fate s c es t) : Reached (before ++ es) t := by
  cases hfate with
  | refused hrefusal =>
    rw [List.append_nil]
    exact h
  | opened s bank => exact .unconfigured before bank
  | openFailed s error | configureFailed bank config error | closed bank reply | freed hs =>
    exact .absent _
  | configured bank config =>
    cases h with
    | unconfigured earlier bank =>
      rw [List.append_assoc]
      exact .configured earlier bank config [] (List.forall_mem_nil _)
  | used bank hc reply =>
    cases h with
    | configured earlier bank config between hbetween =>
      rw [List.append_assoc]
      refine .configured earlier bank config (between ++ _) ?_
      rw [List.forall_mem_append]
      exact ⟨hbetween, List.forall_mem_singleton.2 (keepsRunning_event hc reply)⟩

end Reached

end Logs

/-! ## Whole runs -/

/-- Every call of the log is permitted after those before it. -/
def Orderly (calls : List (Event library.interface)) : Prop :=
  ∀ before e after, calls = before ++ e :: after → Permitted before e

section Sequences

variable {calls es : List (Event library.interface)} {s t : Watchdog} {c : Command}

theorem orderly_nil : Orderly [] := by
  intro before e after h
  exact absurd h.symm (List.append_ne_nil_of_right_ne_nil before (List.cons_ne_nil e after))

theorem Orderly.concat {e : Event library.interface} (h : Orderly calls) (he : Permitted calls e) :
    Orderly (calls ++ [e]) := by
  intro before x after hsplit
  rcases List.eq_nil_or_concat after with rfl | ⟨after, y, rfl⟩
  · obtain ⟨rfl, hx⟩ := List.append_inj' hsplit rfl
    obtain rfl := List.singleton_inj.1 hx
    exact he
  · have hfront : calls ++ [e] = (before ++ x :: after) ++ [y] := by simp [hsplit]
    obtain ⟨hcalls, -⟩ := List.append_inj' hfront rfl
    exact h before x after hcalls

/-- A command makes at most one call. -/
theorem Fate.calls_eq (h : Fate s c es t) : es = [] ∨ ∃ e, es = [e] := by
  cases h with
  | refused | freed => exact .inl rfl
  | opened | openFailed | configured | configureFailed | used | closed => exact .inr ⟨_, rfl⟩

/-- What is offered is asked for once. -/
theorem Fate.calls_of_offered (h : Fate s c es t) (hoffered : contract.refusal s c = none) :
    es.map Event.call = c.request?.toList.map fun r => .request r := by
  cases h with
  | refused hrefusal => exact absurd hoffered hrefusal
  | opened | openFailed | configured | configureFailed | closed | freed => rfl
  | used bank hc reply => cases c <;> cases hc <;> rfl

theorem Orderly.step (h : Orderly calls) (hreached : Reached calls s) (hfate : Fate s c es t) :
    Orderly (calls ++ es) := by
  rcases hfate.calls_eq with rfl | ⟨e, rfl⟩
  · rw [List.append_nil]
    exact h
  · exact h.concat (hreached.permitted hfate)

/-- Settings are not loaded twice without an opening in between. -/
theorem Orderly.opened_between (h : Orderly calls) {before between after} {x y}
    (hcalls : calls = before ++ x :: (between ++ y :: after)) (hx : configures x = true)
    (hy : configures y = true) : ∃ o ∈ between, opens o = true := by
  have hsplit : calls = (before ++ x :: between) ++ y :: after := by simp [hcalls]
  obtain ⟨earlier, bank, hlast⟩ := (h _ y after hsplit).configured hy
  rcases List.eq_nil_or_concat between with rfl | ⟨between, o, rfl⟩
  · -- the first settings would be the opening themselves
    obtain ⟨-, hopening⟩ := List.append_inj' hlast rfl
    obtain rfl := List.singleton_inj.1 hopening
    cases hx
  · have hfront : (before ++ x :: between) ++ [o] = earlier ++ [event .openTimer (.ok bank)] := by
      simpa using hlast
    obtain ⟨-, hopening⟩ := List.append_inj' hfront rfl
    obtain rfl := List.singleton_inj.1 hopening
    exact ⟨event .openTimer (.ok bank), by simp, rfl⟩

end Sequences

section Turns

variable (d : Device library τ)

theorem fate_turn (c : Command) (s : Session Watchdog τ) :
    let turn := (Session.performer d perform).turn c s
    Fate s.driver c turn.calls turn.after.driver :=
  fate_of_runs (Session.runs_turn d perform c s)

theorem obliging_turn (c : Command) (s : Session Watchdog τ) :
    Obliging ((Session.performer d perform).turn c s) := by
  cases hrefusal : contract.refusal s.driver c with
  | some refusal =>
    rw [Session.turn_of_done d perform (run_refused hrefusal)]
    constructor
    · intro other hother
      exact ⟨Option.some.inj (hrefusal.symm.trans hother), rfl, rfl⟩
    · intro hoffered
      cases hrefusal.symm.trans hoffered
  | none =>
    constructor
    · intro other hother
      cases hrefusal.symm.trans hother
    · intro _
      exact (fate_turn d c s).calls_of_offered hrefusal

/-- What every command keeps: the log is orderly, and it has led to the stage of the watchdog. -/
theorem reached_step (history : List (WatchdogTurn τ)) (c : Command) (s : Session Watchdog τ)
    (h : Orderly (Turn.log history) ∧ Reached (Turn.log history) s.driver) :
    let turn := (Session.performer d perform).turn c s
    Orderly (Turn.log (history ++ [turn])) ∧
      Reached (Turn.log (history ++ [turn])) turn.after.driver := by
  intro turn
  obtain ⟨horderly, hreached⟩ := h
  have hfate := fate_turn d c s
  rw [Turn.log_concat]
  exact ⟨horderly.step hreached hfate, hreached.step hfate⟩

/-- Over any commands, and whatever the device does, every call comes in its order; the watchdog
that there is has the bank of the last successful opening. -/
theorem lifecycle_safe (cs : List Command) (t : τ) (k : Console) :
    let turns := ((Session.performer d perform).play cs ⟨.absent, t, k⟩).1
    (∀ before e after, Turn.log turns = before ++ e :: after → Permitted before e) ∧
      (∀ before x between y after, Turn.log turns = before ++ x :: (between ++ y :: after) →
        configures x = true → configures y = true → ∃ o ∈ between, opens o = true) ∧
      (∀ before turn after, turns = before ++ turn :: after →
        ∀ bank ∈ turn.after.driver.handle?, lastOpened (Turn.log (before ++ [turn])) = some bank) ∧
      ∀ turn ∈ turns, Obliging turn := by
  intro turns
  let first : Session Watchdog τ := ⟨.absent, t, k⟩
  have start : Orderly (Turn.log ([] : List (WatchdogTurn τ))) ∧ Reached [] first.driver :=
    ⟨orderly_nil, .absent []⟩
  have horderly : Orderly (Turn.log turns) := (Performer.play_end (reached_step d) cs [] start).1
  have hobliging : ∀ turn ∈ turns, Obliging turn :=
    Performer.forall_turns (p := Session.performer d perform) (obliging_turn d) cs first
  refine ⟨horderly, ?_, ?_, hobliging⟩
  · intro before x between y after hcalls hx hy
    exact horderly.opened_between hcalls hx hy
  · intro before turn after hturns
    have hreached := (Performer.play_induction (reached_step d) cs [] start hturns).2
    exact hreached.handle_eq

end Turns

end BoardSupport.Watchdog
