import BoardSupport.Binary32.Log
import BoardSupport.Proofs.Converter.Readings
import BoardSupport.Proofs.DebugOutput.Drivers
import BoardSupport.Proofs.Thermometer.Reading

/-!
# Reading the temperature through the converter

The thermometer asks for samples, and a converter bound to a pin makes each of them a complete reading
of its own.  The calls of a reading are known, whoever answers them; here it is found out what becomes of
each call if the converter is put in.

- `carries_row`: what becomes of a row of samples, by induction over the row.
- `Measured`: what a measurement comes to, the power pin included; `runs_read` finds it for each of the
  ways in which a reading can go.
- `samples_complete`, `samples_released`: what the converter does for a row of samples.
- `read_converts`: the two together, for all that may answer the calls.
-/

namespace BoardSupport

variable {I J : Interface} {α : Type}

/-- The event of a call of the right of two interfaces. -/
def Event.right (e : Event J) : Event (I.sum J) := ⟨.inr e.call, e.reply⟩

theorem Program.runs_right {p : Program J α} {es : List (Event (I.sum J))} {a : α}
    (h : Runs (p.right : Program (I.sum J) α) es a) :
    ∃ es', es = es'.map Event.right ∧ Runs p es' a := by
  induction p generalizing es with
  | done b =>
    obtain ⟨rfl, rfl⟩ := runs_done_iff.1 h
    exact ⟨[], rfl, .done _⟩
  | call c next ih =>
    obtain ⟨r, later, rfl, hlater⟩ := runs_call_iff.1 h
    obtain ⟨es', rfl, hrest⟩ := ih r hlater
    exact ⟨⟨c, r⟩ :: es', rfl, .call hrest⟩

namespace Thermometer

open ChipSupport (Granted libraryCalls runs_end_iff)

/-! ## Calls of the power pin and of the converter -/

/-- The power pin is driven. -/
def driven (on : Bool) (reply : Except Unit Unit) : Event converterRig := ⟨.inl (.power on), reply⟩

/-- The call drives the power pin. -/
def drives : Event converterRig → Bool
  | ⟨.inl (.power _), _⟩ => true
  | _ => false

/-- The calls of the converter. -/
def converterCalls (es : List (Event converterRig)) : List (Event Converter.library.interface) :=
  es.filterMap fun
    | ⟨.inr c, reply⟩ => some ⟨c, reply⟩
    | ⟨.inl _, _⟩ => none

theorem converterCalls_append (es₁ es₂ : List (Event converterRig)) :
    converterCalls (es₁ ++ es₂) = converterCalls es₁ ++ converterCalls es₂ :=
  List.filterMap_append

theorem converterCalls_right (es : List (Event Converter.library.interface)) :
    converterCalls (es.map Event.right) = es := by
  induction es with
  | nil => rfl
  | cons e es ih => exact congrArg (e :: ·) ih

theorem drives_right (es : List (Event Converter.library.interface)) :
    ∀ e ∈ es.map (Event.right (I := pins)), drives e = false := by
  intro e he
  obtain ⟨e', -, rfl⟩ := List.mem_map.1 he
  rfl

/-! ## Calls with the converter put in -/

/-- A computation of the thermometer whose samples are readings of `pin`. -/
abbrev through [ChipSupport.Build] (budget : Nat) (pin : Converter.Pin) (x : Action Converter.Error α) :
    StateT Converter (Program converterRig) (Except (Error Converter.Error) α) :=
  x.run.interpret (overConverter budget pin)

section Calls

variable [ChipSupport.Build] {budget : Nat} {pin : Converter.Pin} {s t : Converter}
  {es : List (Event converterRig)} {later : List (Event (interface Converter.Error))}

omit [ChipSupport.Build] in
/-- The converter has no part in the calls of the pin and of the delays. -/
theorem runs_pins {c : PinCall} {reply : c.Reply}
    (h : Program.Runs ((StateT.lift (Program.left (.send (I := pins) c))).run s) es (reply, t)) :
    es = [⟨.inl c, reply⟩] ∧ t = s := by
  obtain ⟨r, last, rfl, hlast⟩ := Program.runs_call_iff.1 h
  obtain ⟨rfl, rfl, rfl⟩ := runs_end_iff.1 hlast
  exact ⟨rfl, rfl⟩

theorem carries_power {on : Bool} {reply : Except Unit Unit}
    (h : Carries (overConverter budget pin) s (powered on reply :: later) es t) :
    ∃ es', es = driven on reply :: es' ∧ Carries (overConverter budget pin) s later es' t := by
  obtain ⟨es₁, u, es', rfl, hpower, hlater⟩ := carries_cons h
  obtain ⟨rfl, rfl⟩ := runs_pins (c := .power on) hpower
  exact ⟨es', rfl, hlater⟩

theorem carries_wait {millis : UInt32}
    (h : Carries (overConverter budget pin) s (waited millis :: later) es t) :
    ∃ es', es = ⟨.inl (.wait millis), ()⟩ :: es' ∧
      Carries (overConverter budget pin) s later es' t := by
  obtain ⟨es₁, u, es', rfl, hwait, hlater⟩ := carries_cons h
  obtain ⟨rfl, rfl⟩ := runs_pins (c := .wait millis) hwait
  exact ⟨es', rfl, hlater⟩

/-- A sample is one reading. -/
theorem carries_sample {answer : Except Converter.Error UInt16}
    (h : Carries (overConverter budget pin) s (sampled answer :: later) es t) :
    ∃ calls u es', es = calls.map Event.right ++ es' ∧
      (Converter.readPin budget pin).Runs s calls answer u ∧
      Carries (overConverter budget pin) u later es' t := by
  obtain ⟨es₁, u, es', rfl, hsample, hlater⟩ := carries_cons h
  obtain ⟨calls, rfl, hreading⟩ := Program.runs_right hsample
  exact ⟨calls, u, es', rfl, hreading, hlater⟩

end Calls

/-! ## Rows of samples -/

/-- What the converter does for one sample. -/
structure Sampling where
  answer : Except Converter.Error UInt16
  /-- Reports to the console are among the calls. -/
  calls : List (Event Converter.library.interface)

/-- The sampling as a step of the converter's driver. -/
def Sampling.step (pin : Converter.Pin) (x : Sampling) :
    Step Converter.commands Converter.library.interface :=
  ⟨.sample pin, x.answer, x.calls⟩

/-- The sampling has yielded a sample. -/
def Sampling.Succeeds (x : Sampling) : Prop := ∃ sample, x.answer = .ok sample

/-- From state `s` the converter makes some samplings of `pin`, one after another, and is left in
state `t`. -/
abbrev Samples [ChipSupport.Build] (budget : Nat) (pin : Converter.Pin) (s : Converter)
    (samplings : List Sampling) (t : Converter) : Prop :=
  Steps (Converter.perform budget) s (samplings.map (Sampling.step pin)) t

/-- The last of some samplings begins where those before it have ended. -/
theorem samples_concat_iff [ChipSupport.Build] {budget : Nat} {pin : Converter.Pin} {s t : Converter}
    {before : List Sampling} {last : Sampling} :
    Samples budget pin s (before ++ [last]) t ↔ ∃ u, Samples budget pin s before u ∧
      (Converter.readPin budget pin).Runs u last.calls last.answer t := by
  induction before generalizing s with
  | nil =>
    constructor
    · intro h
      obtain ⟨u, hlast, hnone⟩ := steps_cons_iff.1 h
      cases hnone
      exact ⟨s, .none s, hlast⟩
    · rintro ⟨u, hnone, hlast⟩
      cases hnone
      exact .step hlast (.none t)
  | cons x before ih =>
    constructor
    · intro h
      obtain ⟨v, hfirst, hlater⟩ := steps_cons_iff.1 h
      obtain ⟨u, hbefore, hlast⟩ := ih.1 hlater
      exact ⟨u, .step hfirst hbefore, hlast⟩
    · rintro ⟨u, hbefore, hlast⟩
      obtain ⟨v, hfirst, hlater⟩ := steps_cons_iff.1 hbefore
      exact .step hfirst (ih.2 ⟨u, hlater, hlast⟩)

/-- The induction is on the samples; each of them is a reading that has succeeded. -/
theorem carries_row [ChipSupport.Build] {budget : Nat} {pin : Converter.Pin} {s t : Converter}
    {es : List (Event converterRig)} {interval : UInt32} {taken : List UInt16}
    (h : Carries (overConverter budget pin) s (rowCalls interval taken) es t) :
    ∃ samplings, Samples budget pin s samplings t ∧
      converterCalls es = samplings.flatMap Sampling.calls ∧ samplings.length = taken.length ∧
      (∀ x ∈ samplings, x.Succeeds) ∧ ∀ e ∈ es, drives e = false := by
  induction taken generalizing s es with
  | nil =>
    cases h
    exact ⟨[], .none t, rfl, rfl, List.forall_mem_nil _, List.forall_mem_nil _⟩
  | cons sample taken ih =>
    obtain ⟨calls, u, es', rfl, hreading, hrest⟩ := carries_sample h
    obtain ⟨es', rfl, hlater⟩ := carries_wait hrest
    obtain ⟨samplings, hsamples, hcalls, hlength, hsucceed, hes⟩ := ih hlater
    refine ⟨⟨.ok sample, calls⟩ :: samplings, .step hreading hsamples, ?_,
      congrArg Nat.succ hlength, List.forall_mem_cons.2 ⟨⟨sample, rfl⟩, hsucceed⟩, ?_⟩
    · rw [converterCalls_append, converterCalls_right, List.flatMap_cons, ← hcalls]
      rfl
    · exact List.forall_mem_append.2 ⟨drives_right calls, List.forall_mem_cons.2 ⟨rfl, hes⟩⟩

/-! ## Measurements -/

/-- What a measurement comes to.  Unless powering up fails, the power pin is driven twice, before and
after all else; in between all samplings are made, or all up to the first that fails. -/
inductive Measured (c : Config) : List Sampling → List (Event converterRig) →
    Except (Error Converter.Error) Int16 → Prop where
  | unpowered : Measured c [] [driven true (.error ())] (.error .pin)
  | sampled {samplings : List Sampling} {es : List (Event converterRig)}
      {answer : Except (Error Converter.Error) Int16} (reply : Except Unit Unit)
      (hlength : samplings.length = c.sampleCount) (hsucceed : ∀ x ∈ samplings, x.Succeeds)
      (hes : ∀ e ∈ es, drives e = false) (hanswer : ∀ e, answer ≠ .error (.source e)) :
      Measured c samplings (driven true (.ok ()) :: es ++ [driven false reply]) answer
  | stopped {before : List Sampling} {last : Sampling} {es : List (Event converterRig)}
      {e : Converter.Error} (reply : Except Unit Unit) (hlength : before.length < c.sampleCount)
      (hsucceed : ∀ x ∈ before, x.Succeeds) (hlast : last.answer = .error e)
      (hes : ∀ e ∈ es, drives e = false) :
      Measured c (before ++ [last]) (driven true (.ok ()) :: es ++ [driven false reply])
        (.error (.source e))

section Runs

variable [ChipSupport.Build] {budget : Nat} {pin : Converter.Pin} {s t : Converter}
  {es : List (Event converterRig)}

/-- The power is on, the circuit has settled, and all samples so far have succeeded. -/
theorem carries_sampling {c : Config} {taken : List UInt16}
    (h : Carries (overConverter budget pin) s (sampling c taken) es t) :
    ∃ samplings middle, es = driven true (.ok ()) :: middle ∧ Samples budget pin s samplings t ∧
      converterCalls middle = samplings.flatMap Sampling.calls ∧ samplings.length = taken.length ∧
      (∀ x ∈ samplings, x.Succeeds) ∧ ∀ e ∈ middle, drives e = false := by
  obtain ⟨es', rfl, hpowered⟩ := carries_power h
  obtain ⟨row, rfl, hrow⟩ := carries_wait hpowered
  obtain ⟨samplings, hsamples, hcalls, hlength, hsucceed, hes⟩ := carries_row hrow
  exact ⟨samplings, _, rfl, hsamples, hcalls, hlength, hsucceed, List.forall_mem_cons.2 ⟨rfl, hes⟩⟩

/-- If all samples are taken, only the power remains to be taken away. -/
theorem carries_all {c : Config} {taken : List UInt16} {reply : Except Unit Unit}
    {answer : Except (Error Converter.Error) Int16} (hlength : taken.length = c.sampleCount)
    (hanswer : ∀ e, answer ≠ .error (.source e))
    (h : Carries (overConverter budget pin) s (sampling c taken ++ [powered false reply]) es t) :
    ∃ samplings, Samples budget pin s samplings t ∧
      converterCalls es = samplings.flatMap Sampling.calls ∧ Measured c samplings es answer := by
  obtain ⟨es₁, u, es₂, rfl, hsampling, hend⟩ := carries_append h
  obtain ⟨samplings, middle, rfl, hsamples, hcalls, hcount, hsucceed, hes⟩ :=
    carries_sampling hsampling
  obtain ⟨es', rfl, hnone⟩ := carries_power hend
  cases hnone
  refine ⟨samplings, hsamples, ?_, .sampled reply (hcount.trans hlength) hsucceed hes hanswer⟩
  rw [converterCalls_append, ← hcalls]
  exact List.append_nil _

/-- A reading goes one of four ways, and its samples are made one by one. -/
theorem runs_read [Binary32.Logarithm] {c : Config} {answer : Except (Error Converter.Error) Int16}
    (h : Program.Runs ((through budget pin (read c)).run s) es (answer, t)) :
    ∃ samplings, Samples budget pin s samplings t ∧
      converterCalls es = samplings.flatMap Sampling.calls ∧ Measured c samplings es answer := by
  obtain ⟨calls, hread, hcarries⟩ := Program.runs_interpret h
  cases reading_of_runs hread with
  | unpowered =>
    obtain ⟨es', rfl, hnone⟩ := carries_power hcarries
    cases hnone
    exact ⟨[], .none _, rfl, .unpowered⟩
  | stopped taken e reply hlength =>
    obtain ⟨es₁, u, es₂, rfl, hsampling, hend⟩ := carries_append hcarries
    obtain ⟨samplings, middle, rfl, hsamples, hcalls, hcount, hsucceed, hes⟩ :=
      carries_sampling hsampling
    obtain ⟨last, v, es', rfl, hreading, hpower⟩ := carries_sample hend
    obtain ⟨es', rfl, hnone⟩ := carries_power hpower
    cases hnone
    refine ⟨samplings ++ [⟨.error e, last⟩], samples_concat_iff.2 ⟨u, hsamples, hreading⟩, ?_, ?_⟩
    · rw [converterCalls_append, converterCalls_append, converterCalls_right, List.flatMap_append,
        ← hcalls]
      rfl
    · rw [List.cons_append, ← List.append_assoc, ← List.cons_append]
      exact .stopped reply (hcount ▸ hlength) hsucceed rfl
        (List.forall_mem_append.2 ⟨hes, drives_right last⟩)
  | stuck taken hlength => exact carries_all hlength nofun hcarries
  | completed taken hlength =>
    refine carries_all hlength (fun e => ?_) hcarries
    cases c.interpret (c.average (accumulate 0 taken)) <;> exact nofun

/-- The thermometer's own state stays, and the converter's is that of the measurement. -/
theorem runs_perform_read [Binary32.Logarithm] {c : Config} {answer : Except (Error Converter.Error) Int16}
    {thermometer : Thermometer}
    (h : Program.Runs ((performRig budget pin (.inl .read)).run (⟨c⟩, s)) es
      (answer, (thermometer, t))) :
    Program.Runs ((through budget pin (read c)).run s) es (answer, t) := by
  have hread : (performRig budget pin (.inl .read)).run (⟨c⟩, s) =
      (through budget pin (read c)).run s >>= fun x => .done (x.1, (⟨c⟩, x.2)) := by
    show (Program.interpret (overConverter budget pin) ((read c).run >>= fun answer =>
      pure (answer, (⟨c⟩ : Thermometer)))).run s >>= _ = _
    rw [Program.interpret_bind, StateT.run_bind, Program.bind_assoc]
    rfl
  rw [hread] at h
  obtain ⟨es₁, x, es₂, rfl, hx, hend⟩ := Program.runs_bind_iff.1 h
  obtain ⟨rfl, hanswer⟩ := Program.runs_done_iff.1 hend
  obtain ⟨rfl, hstates⟩ := Prod.mk.inj hanswer
  obtain ⟨-, rfl⟩ := Prod.mk.inj hstates
  rw [List.append_nil]
  exact hx

end Runs

/-! ## The converter under a measurement -/

/-- The sampling is a complete conversion: the channel is prepared as the settings say, polled until
there is a result, read and shut down, and no call fails. -/
def Sampling.Complete (config : Converter.Config) (pin : Converter.Pin) (limit : Nat) (x : Sampling) :
    Prop :=
  x.Succeeds ∧ ∃ k, 1 ≤ k ∧ k ≤ limit ∧ Granted (libraryCalls x.calls)
    (Converter.preparation config pin.channel ++ Converter.polling k ++ Converter.completing)

/-- The settings stay, so every sampling polls no more often than they allow, and what succeeds is
complete. -/
theorem samples_complete [ChipSupport.Build] {budget : Nat} {pin : Converter.Pin} {s t : Converter}
    {samplings : List Sampling} (h : Samples budget pin s samplings t) :
    t.config = s.config ∧
      Converter.pollCount (samplings.flatMap Sampling.calls) ≤
        samplings.length * s.config.pollLimit.bound budget ∧
      ∀ x ∈ samplings, x.Succeeds → x.Complete s.config pin (s.config.pollLimit.bound budget) := by
  induction samplings generalizing s with
  | nil =>
    cases h
    exact ⟨rfl, Nat.zero_le _, List.forall_mem_nil _⟩
  | cons x samplings ih =>
    obtain ⟨u, hfirst, hlater⟩ := steps_cons_iff.1 h
    obtain ⟨hu, hcount, hok⟩ := Converter.runs_readPin hfirst
    obtain ⟨ht, hcounts, hcomplete⟩ := ih hlater
    rw [hu] at ht hcounts hcomplete
    refine ⟨ht, ?_, List.forall_mem_cons.2 ⟨?_, hcomplete⟩⟩
    · rw [List.flatMap_cons, Converter.pollCount_append, List.length_cons, Nat.succ_mul,
        Nat.add_comm (samplings.length * _)]
      exact Nat.add_le_add hcount hcounts
    · rintro ⟨sample, hsample⟩
      exact ⟨⟨sample, hsample⟩, (hok sample hsample).2⟩

/-- If there are samplings and all of them succeed, the last one leaves no channel open. -/
theorem samples_released [ChipSupport.Build] {budget : Nat} {pin : Converter.Pin} {s t : Converter}
    {samplings : List Sampling} (h : Samples budget pin s samplings t) (hsome : 0 < samplings.length)
    (hsucceed : ∀ x ∈ samplings, x.Succeeds) : t.handle = .unmapped := by
  induction samplings generalizing s with
  | nil => exact absurd hsome (Nat.lt_irrefl 0)
  | cons x samplings ih =>
    obtain ⟨u, hfirst, hlater⟩ := steps_cons_iff.1 h
    obtain ⟨⟨sample, hsample⟩, hothers⟩ := List.forall_mem_cons.1 hsucceed
    cases samplings with
    | nil =>
      cases hlater
      exact ((Converter.runs_readPin hfirst).2.2 sample hsample).1
    | cons y samplings => exact ih hlater (Nat.succ_pos _) hothers

/-! ## Reading the temperature -/

/-- Unless powering up fails, and then nothing else is done, the power pin is driven twice: the power is
on before any other call, and after the last one it is taken away. -/
def Bracketed (es : List (Event converterRig)) : Prop :=
  es = [driven true (.error ())] ∨ ∃ middle reply,
    es = driven true (.ok ()) :: middle ++ [driven false reply] ∧ ∀ e ∈ middle, drives e = false

/-- What an answer says about the samplings that the converter has made from state `s`, and about the
state `t` in which it is left. -/
def Answered [ChipSupport.Build] (budget : Nat) (pin : Converter.Pin) (c : Config) (limit : Nat)
    (s t : Converter) (samplings : List Sampling) : Except (Error Converter.Error) Int16 → Prop
  | .ok _ | .error (.circuit _) =>
    samplings.length = c.sampleCount ∧ (∀ x ∈ samplings, x.Complete s.config pin limit) ∧
      t.handle = .unmapped
  | .error (.source e) => ∃ before last u, samplings = before ++ [last] ∧
    (∀ x ∈ before, x.Complete s.config pin limit) ∧ Samples budget pin s before u ∧
      (Converter.readPin budget pin).Runs u last.calls (.error e) t
  | .error .pin => ∀ x ∈ samplings, x.Complete s.config pin limit

namespace Measured

variable {c : Config} {samplings : List Sampling} {es : List (Event converterRig)}
  {answer : Except (Error Converter.Error) Int16}

theorem bracketed (h : Measured c samplings es answer) : Bracketed es := by
  cases h with
  | unpowered => exact .inl rfl
  | sampled reply hlength hsucceed hes hanswer => exact .inr ⟨_, reply, rfl, hes⟩
  | stopped reply hlength hsucceed hlast hes => exact .inr ⟨_, reply, rfl, hes⟩

theorem length_le (h : Measured c samplings es answer) : samplings.length ≤ c.sampleCount := by
  cases h with
  | unpowered => exact Nat.zero_le _
  | sampled reply hlength hsucceed hes hanswer => exact Nat.le_of_eq hlength
  | stopped reply hlength hsucceed hlast hes =>
    rw [List.length_append]
    exact hlength

/-- Only the last sampling may fail. -/
theorem succeeds_of_dropLast (h : Measured c samplings es answer) :
    ∀ x ∈ samplings.dropLast, x.Succeeds := by
  cases h with
  | unpowered => exact List.forall_mem_nil _
  | sampled reply hlength hsucceed hes hanswer =>
    exact fun x hx => hsucceed x (List.dropLast_subset _ hx)
  | stopped reply hlength hsucceed hlast hes =>
    rw [List.dropLast_concat]
    exact hsucceed

theorem answered [ChipSupport.Build] {budget : Nat} {pin : Converter.Pin} {s t : Converter}
    (h : Measured c samplings es answer) (hsamples : Samples budget pin s samplings t) :
    Answered budget pin c (s.config.pollLimit.bound budget) s t samplings answer := by
  have hcomplete := (samples_complete hsamples).2.2
  cases h with
  | unpowered => exact List.forall_mem_nil _
  | sampled reply hlength hsucceed hes hanswer =>
    have hall : ∀ x ∈ samplings, x.Complete s.config pin (s.config.pollLimit.bound budget) :=
      fun x hx => hcomplete x hx (hsucceed x hx)
    -- a configuration without samples counts as one sample, so there is a last one
    have hsome : 0 < samplings.length := by
      rw [hlength]
      exact Nat.lt_of_lt_of_le Nat.zero_lt_one (Nat.le_max_right _ _)
    have hreleased : t.handle = .unmapped := samples_released hsamples hsome hsucceed
    rcases answer with ⟨e⟩ | tenths
    · cases e with
      | source e => exact absurd rfl (hanswer e)
      | pin => exact hall
      | circuit fault => exact ⟨hlength, hall, hreleased⟩
    · exact ⟨hlength, hall, hreleased⟩
  | stopped reply hlength hsucceed hlast hes =>
    obtain ⟨u, hbefore, hreading⟩ := samples_concat_iff.1 hsamples
    rw [hlast] at hreading
    refine ⟨_, _, u, rfl, fun x hx => ?_, hbefore, hreading⟩
    exact hcomplete x (List.mem_append_left _ hx) (hsucceed x hx)

end Measured

/-- Two samples are taken. -/
def twice : Config := { samples := 2 }

/-- The converter polls at most three times. -/
def patient : Converter := { config := { pollLimit := .polls 3 } }

/-- The second conversion cannot be started, and the power cannot be taken away. -/
def interruption : PinScript × StandIn × ChipSupport.Console :=
  ({ failures := [1] }, {
    busyPolls := 1
    faults := [{ entry := "SAR_startConversion", error := some .fail, skip := 1 }] }, {})

end Thermometer

end BoardSupport
