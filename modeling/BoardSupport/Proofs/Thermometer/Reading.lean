import BoardSupport.Binary32.Log
import BoardSupport.Proofs.Program.Course
import BoardSupport.Thermometer.Script

/-!
# Readings of the temperature, call by call

Whatever the power pin, the delays and the analog source do, a reading goes one of four ways, and
each of them fixes its calls and its answer (`Reading`).  The power is turned on first and taken away
last, so that over any commands it stays on only if it could not be taken away.

- `Row`: what taking a row of samples comes to; `row_of_runs` is the induction over the row.
- `Reading`: what a reading comes to, and `reading_of_runs`: there is nothing else.
- `power_bracketed`: over a run of commands, every turn goes as described, and the last drive of the
  pin that has worked is a low one.
-/

namespace BoardSupport.Thermometer

variable {ε α β ω : Type}

/-! ## Runs of actions -/

section Runs

variable {es : List (Event (interface ε))}

/-- Either the first part succeeds and the second goes on, or the first part's error is the end. -/
theorem runs_action_bind {x : Action ε α} {f : α → Action ε β} {r : Except (Error ε) β}
    (h : Program.Runs (x >>= f).run es r) :
    (∃ es₁ a es₂, es = es₁ ++ es₂ ∧ Program.Runs x.run es₁ (.ok a) ∧
      Program.Runs (f a).run es₂ r) ∨
      ∃ e, r = .error e ∧ Program.Runs x.run es (.error e) := by
  rw [ExceptT.run_bind] at h
  obtain ⟨es₁, a | a, es₂, rfl, hx, hlater⟩ := Program.runs_bind_iff.1 h
  · obtain ⟨rfl, rfl⟩ := Program.runs_done_iff.1 hlater
    rw [List.append_nil]
    exact .inr ⟨a, rfl, hx⟩
  · exact .inl ⟨es₁, a, es₂, rfl, hx, hlater⟩

/-- The power pin is driven. -/
def powered (on : Bool) (reply : Except Unit Unit) : Event (interface ε) := ⟨.power on, reply⟩

/-- Some time passes. -/
def waited (millis : UInt32) : Event (interface ε) := ⟨.wait millis, ()⟩

/-- A sample is asked for. -/
def sampled (reply : Except ε UInt16) : Event (interface ε) := ⟨.sample, reply⟩

theorem runs_power {on : Bool} {r : Except (Error ε) Unit}
    (h : Program.Runs (drive on : Action ε Unit).run es r) :
    ∃ reply, es = [powered on reply] ∧ r = reply.mapError fun _ => .pin := by
  obtain ⟨⟨⟨⟩⟩ | ⟨⟨⟩⟩, later, rfl, hlater⟩ := Program.runs_call_iff.1 h
  · obtain ⟨rfl, rfl⟩ := Program.runs_done_iff.1 hlater
    exact ⟨.error (), rfl, rfl⟩
  · obtain ⟨rfl, rfl⟩ := Program.runs_done_iff.1 hlater
    exact ⟨.ok (), rfl, rfl⟩

theorem runs_delay_bind {millis : UInt32} {x : Action ε α} {r : Except (Error ε) α}
    (h : Program.Runs
      ((liftM (call (.wait millis) : Routine ε Unit) : Action ε Unit) >>= fun _ => x).run es r) :
    ∃ later, es = waited millis :: later ∧ Program.Runs x.run later r := by
  obtain ⟨⟨⟩, later, rfl, hlater⟩ := Program.runs_call_iff.1 h
  exact ⟨later, rfl, hlater⟩

/-- A sample that fails is followed by taking the power away. -/
theorem runs_sample {r : Except (Error ε) UInt16}
    (h : Program.Runs (takeSample : Action ε UInt16).run es r) :
    (∃ sample, es = [sampled (.ok sample)] ∧ r = .ok sample) ∨
      ∃ e reply, es = [sampled (.error e), powered false reply] ∧ r = .error (.source e) := by
  obtain ⟨e | sample, later, rfl, hlater⟩ := Program.runs_call_iff.1 h
  · obtain ⟨reply, last, rfl, hlast⟩ := Program.runs_call_iff.1 hlater
    obtain ⟨rfl, rfl⟩ := Program.runs_done_iff.1 hlast
    exact .inr ⟨e, reply, rfl, rfl⟩
  · obtain ⟨rfl, rfl⟩ := Program.runs_done_iff.1 hlater
    exact .inl ⟨sample, rfl, rfl⟩

end Runs

/-! ## Rows of samples -/

/-- The calls for samples that are taken one after another, each followed by a delay. -/
def rowCalls (interval : UInt32) (taken : List UInt16) : List (Event (interface ε)) :=
  taken.flatMap fun sample => [sampled (.ok sample), waited interval]

/-- Samples added up to a sum. -/
def accumulate (sum : UInt32) (taken : List UInt16) : UInt32 :=
  taken.foldl (fun sum sample => sum + sample.toUInt32) sum

/-- What a row of `count` samples comes to: either all of them are taken and added up, or one fails, and
then the power is taken away and no more are taken. -/
inductive Row (interval : UInt32) (count : Nat) (sum : UInt32) :
    List (Event (interface ε)) → Except (Error ε) UInt32 → Prop where
  | all (taken : List UInt16) (hlength : taken.length = count) :
      Row interval count sum (rowCalls interval taken) (.ok (accumulate sum taken))
  | stopped (taken : List UInt16) (e : ε) (reply : Except Unit Unit)
      (hlength : taken.length < count) :
      Row interval count sum
        (rowCalls interval taken ++ [sampled (.error e), powered false reply]) (.error (.source e))

theorem Row.cons {interval : UInt32} {count : Nat} {sum : UInt32} {sample : UInt16}
    {es : List (Event (interface ε))} {r : Except (Error ε) UInt32}
    (h : Row interval count (sum + sample.toUInt32) es r) :
    Row interval (count + 1) sum (sampled (.ok sample) :: waited interval :: es) r := by
  cases h with
  | all taken hlength => exact .all (sample :: taken) (congrArg Nat.succ hlength)
  | stopped taken e reply hlength =>
    exact .stopped (sample :: taken) e reply (Nat.succ_lt_succ hlength)

/-- The induction is on the samples that are still to be taken. -/
theorem row_of_runs {interval : UInt32} {count : Nat} {sum : UInt32}
    {es : List (Event (interface ε))} {r : Except (Error ε) UInt32}
    (h : Program.Runs (takeSamples interval count sum).run es r) : Row interval count sum es r := by
  induction count generalizing sum es with
  | zero =>
    obtain ⟨rfl, rfl⟩ := Program.runs_done_iff.1 h
    exact .all [] rfl
  | succ count ih =>
    obtain ⟨es₁, v, es₂, rfl, hsample, hrest⟩ | ⟨e, rfl, hsample⟩ := runs_action_bind h
    · obtain ⟨sample, rfl, hv⟩ | ⟨e, reply, -, hv⟩ := runs_sample hsample
      · obtain rfl := Except.ok.inj hv
        obtain ⟨later, rfl, hlater⟩ := runs_delay_bind hrest
        exact (ih hlater).cons
      · cases hv
    · obtain ⟨sample, -, hv⟩ | ⟨e, reply, rfl, hv⟩ := runs_sample hsample
      · cases hv
      · obtain rfl := Except.error.inj hv
        exact .stopped [] e reply (Nat.succ_pos count)

/-! ## Readings -/

/-- The calls until some samples are taken: the power is turned on, the circuit settles, and the samples
follow. -/
def sampling (c : Config) (taken : List UInt16) : List (Event (interface ε)) :=
  powered true (.ok ()) :: waited c.settleMillis :: rowCalls c.intervalMillis taken

/-- What a reading comes to. -/
inductive Reading [Binary32.Logarithm] (c : Config) :
    List (Event (interface ε)) → Except (Error ε) Int16 → Prop where
  /-- The power cannot be turned on, and nothing else is done. -/
  | unpowered : Reading c [powered true (.error ())] (.error .pin)
  /-- A sample fails, and its error is the answer even if the power cannot be taken away. -/
  | stopped (taken : List UInt16) (e : ε) (reply : Except Unit Unit)
      (hlength : taken.length < c.sampleCount) :
      Reading c (sampling c taken ++ [sampled (.error e), powered false reply]) (.error (.source e))
  /-- All samples are taken, but the power cannot be taken away. -/
  | stuck (taken : List UInt16) (hlength : taken.length = c.sampleCount) :
      Reading c (sampling c taken ++ [powered false (.error ())]) (.error .pin)
  /-- All samples are taken, and there is a temperature or a fault of the circuit. -/
  | completed (taken : List UInt16) (hlength : taken.length = c.sampleCount) :
      Reading c (sampling c taken ++ [powered false (.ok ())])
        ((c.interpret (c.average (accumulate 0 taken))).mapError .circuit)

section Readings

variable [Binary32.Logarithm] {c : Config} {es : List (Event (interface ε))}
  {answer : Except (Error ε) Int16}

/-- What follows the samples. -/
def conclude (c : Config) (sum : UInt32) : Action ε Int16 := do
  drive false
  match c.interpret (c.average sum) with
  | .ok tenths => pure tenths
  | .error fault => throw (.circuit fault)

theorem runs_conclusion {sum : UInt32} (h : Program.Runs (conclude c sum).run es answer) :
    (es = [powered false (.error ())] ∧ answer = .error .pin) ∨
      (es = [powered false (.ok ())] ∧
        answer = (c.interpret (c.average sum)).mapError .circuit) := by
  obtain ⟨es₁, ⟨⟩, es₂, rfl, hdrive, hend⟩ | ⟨e, rfl, hdrive⟩ := runs_action_bind h
  · obtain ⟨⟨⟨⟩⟩ | ⟨⟨⟩⟩, rfl, hreply⟩ := runs_power hdrive
    · cases hreply
    · right
      cases hverdict : c.interpret (c.average sum) with
      | ok tenths =>
        rw [hverdict] at hend
        obtain ⟨rfl, rfl⟩ := Program.runs_done_iff.1 hend
        exact ⟨rfl, rfl⟩
      | error fault =>
        rw [hverdict] at hend
        obtain ⟨rfl, rfl⟩ := Program.runs_done_iff.1 hend
        exact ⟨rfl, rfl⟩
  · obtain ⟨⟨⟨⟩⟩ | ⟨⟨⟩⟩, rfl, hreply⟩ := runs_power hdrive
    · obtain rfl := Except.error.inj hreply
      exact .inl ⟨rfl, rfl⟩
    · cases hreply

theorem reading_of_runs (h : Program.Runs (read c : Action ε Int16).run es answer) :
    Reading c es answer := by
  obtain ⟨es₁, ⟨⟩, es₂, rfl, hpower, hrest⟩ | ⟨e, rfl, hpower⟩ := runs_action_bind h
  · obtain ⟨⟨⟨⟩⟩ | ⟨⟨⟩⟩, rfl, hreply⟩ := runs_power hpower
    · cases hreply
    obtain ⟨es₃, rfl, hsettled⟩ := runs_delay_bind hrest
    -- the power is on and the circuit has settled
    obtain ⟨es₄, sum, es₅, rfl, hsamples, hend⟩ | ⟨e, rfl, hsamples⟩ :=
      runs_action_bind (f := conclude c) hsettled
    · cases row_of_runs hsamples with
      | all taken hlength =>
        obtain ⟨rfl, rfl⟩ | ⟨rfl, rfl⟩ := runs_conclusion hend
        · exact .stuck taken hlength
        · exact .completed taken hlength
    · cases row_of_runs hsamples with
      | stopped taken e reply hlength => exact .stopped taken e reply hlength
  · obtain ⟨⟨⟨⟩⟩ | ⟨⟨⟩⟩, rfl, hreply⟩ := runs_power hpower
    · obtain rfl := Except.error.inj hreply
      exact .unpowered
    · cases hreply

end Readings

/-! ## Runs of commands -/

/-- A turn of the thermometer in surroundings with a state of their own. -/
abbrev ThermometerTurn (ε ω : Type) : Type := Turn (commands ε) (interface ε) (Thermometer × ω)

/-- What a turn comes to.  Only new settings change the thermometer. -/
def Proceeds [Binary32.Logarithm] : ThermometerTurn ε ω → Prop
  | ⟨.powerDown, before, answer, calls, after⟩ =>
    after.1 = before.1 ∧
      ∃ reply, calls = [powered false reply] ∧ answer = reply.mapError fun _ => .pin
  | ⟨.read, before, answer, calls, after⟩ =>
    after.1 = before.1 ∧ Reading before.1.config calls answer
  | ⟨.withConfig config, _, _, calls, after⟩ => after.1 = ⟨config⟩ ∧ calls = []

/-- What the power pin was driven to, if that has worked. -/
def driven? : Event (interface ε) → Option Bool
  | ⟨.power on, .ok ()⟩ => some on
  | _ => none

/-- What the power pin was last driven to, as far as that has worked. -/
def lastDrive (es : List (Event (interface ε))) : Option Bool := (es.filterMap driven?).getLast?

/-- The power cannot be taken away. -/
def holdsPower : Event (interface ε) → Bool
  | ⟨.power false, .error ()⟩ => true
  | _ => false

section Drives

variable {es es₁ es₂ : List (Event (interface ε))}

theorem lastDrive_append : lastDrive (es₁ ++ es₂) = (lastDrive es₂).or (lastDrive es₁) := by
  rw [lastDrive, List.filterMap_append, List.getLast?_append]
  rfl

/-- If the last call takes the power away, and that works whenever it is tried, it has worked. -/
theorem lastDrive_low {reply : Except Unit Unit}
    (h : ∀ e ∈ es ++ [powered false reply], holdsPower e = false) :
    lastDrive (es ++ [powered false reply]) = some false := by
  rw [lastDrive_append]
  rcases reply with ⟨⟨⟩⟩ | ⟨⟨⟩⟩
  · cases h _ (List.mem_append_right es List.mem_cons_self)
  · rfl

/-- A reading drives the pin low last, unless it does not drive it at all. -/
theorem Reading.lastDrive_eq [Binary32.Logarithm] {c : Config} {answer : Except (Error ε) Int16}
    (h : Reading c es answer)
    (hlow : ∀ e ∈ es, holdsPower e = false) : lastDrive es = none ∨ lastDrive es = some false := by
  cases h with
  | unpowered => exact .inl rfl
  | stopped taken e reply hlength =>
    rw [List.append_cons] at hlow ⊢
    exact .inr (lastDrive_low hlow)
  | stuck taken hlength => exact .inr (lastDrive_low hlow)
  | completed taken hlength => exact .inr (lastDrive_low hlow)

theorem Proceeds.lastDrive_eq [Binary32.Logarithm] {turn : ThermometerTurn ε ω} (h : Proceeds turn)
    (hlow : ∀ e ∈ turn.calls, holdsPower e = false) :
    lastDrive turn.calls = none ∨ lastDrive turn.calls = some false := by
  obtain ⟨c, before, answer, calls, after⟩ := turn
  cases c with
  | powerDown =>
    obtain ⟨-, reply, hcalls, -⟩ := h
    obtain rfl : calls = [] ++ [powered false reply] := hcalls
    exact .inr (lastDrive_low hlow)
  | read => exact h.2.lastDrive_eq hlow
  | withConfig config =>
    obtain ⟨-, rfl⟩ := h
    exact .inl rfl

end Drives

section Plays

variable [Binary32.Logarithm] (k : Surroundings (interface ε) ω)

omit [Binary32.Logarithm] in
theorem runs_kept {p : Program (interface ε) α} {s t : Thermometer} {es : List (Event (interface ε))}
    {a : α} (h : Program.Runs (p >>= fun a => .done (a, s)) es (a, t)) :
    t = s ∧ Program.Runs p es a := by
  obtain ⟨es₁, b, es₂, rfl, hp, hend⟩ := Program.runs_bind_iff.1 h
  obtain ⟨rfl, heq⟩ := Program.runs_done_iff.1 hend
  obtain ⟨rfl, rfl⟩ := Prod.mk.inj heq
  rw [List.append_nil]
  exact ⟨rfl, hp⟩

theorem proceeds_turn (c : Command) (s : Thermometer × ω) :
    Proceeds ((Performer.ofDriver k perform).turn c s) := by
  have h := Performer.runs_turn_ofDriver k perform c s
  cases c with
  | powerDown =>
    obtain ⟨hsame, hdrive⟩ := runs_kept h
    exact ⟨hsame, runs_power hdrive⟩
  | read =>
    obtain ⟨hsame, hread⟩ := runs_kept h
    exact ⟨hsame, reading_of_runs hread⟩
  | withConfig config =>
    obtain ⟨hnone, hset⟩ := Program.runs_done_iff.1 h
    exact ⟨congrArg Prod.snd hset, hnone⟩

/-- What every command keeps: as long as the power could be taken away, it is not on. -/
theorem unpowered_step (history : List (ThermometerTurn ε ω)) (c : Command) (s : Thermometer × ω)
    (h : (∀ e ∈ Turn.log history, holdsPower e = false) → lastDrive (Turn.log history) ≠ some true)
    (hlow : ∀ e ∈ Turn.log (history ++ [(Performer.ofDriver k perform).turn c s]),
      holdsPower e = false) :
    lastDrive (Turn.log (history ++ [(Performer.ofDriver k perform).turn c s])) ≠ some true := by
  rw [Turn.log_concat] at hlow ⊢
  obtain ⟨hhistory, hturn⟩ := List.forall_mem_append.1 hlow
  rw [lastDrive_append]
  rcases (proceeds_turn k c s).lastDrive_eq hturn with hnone | hlast
  · rw [hnone]
    exact h hhistory
  · rw [hlast]
    exact nofun

end Plays

end BoardSupport.Thermometer
