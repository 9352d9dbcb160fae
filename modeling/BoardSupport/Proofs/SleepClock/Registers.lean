import BoardSupport.Proofs.SleepClock.Wakeup

/-!
# What the sleep clock leaves in the registers

Control register 0 is shared: besides the two flags of the counter's event it holds the flags and the
interrupt enables of others, so it is only ever read, changed in one bit and written back.  All other
registers belong to the sleep clock, and the last command that wrote them decides what they hold.

- `Command.effect`: the registers after a command, and `executes_perform_effect`: that it is so.
- `Update`: what a single write to control register 0 may change, whatever happens during a wait.
- `sleeps_held`: what a sleep leaves behind that is ended by the overflow's interrupt.
- `Framed`: what commands in a row leave in the registers, told from the commands alone, and
  `registers_framed`: that they do.
-/

namespace BoardSupport.SleepClock

open Program (Executes)

variable {κ : Type}

/-! ## Single writes -/

/-- The flags of control register 0 that belong to the sleep clock. -/
def ownFlags : BitVec 8 := RtcControl0.eventEnable ||| RtcControl0.eventFlag

/-- A write to control register 0 keeps the flags of others, never disables the event's interrupt and
never raises the event's flag. -/
structure Update (before after : BitVec 8) : Prop where
  others : after &&& ~~~ownFlags = before &&& ~~~ownFlags
  enable : contains before RtcControl0.eventEnable = true →
    contains after RtcControl0.eventEnable = true
  flag : contains after RtcControl0.eventFlag = true → contains before RtcControl0.eventFlag = true

/-- Bit by bit: bit 6 may be set and bit 2 may be cleared, and nothing else happens. -/
theorem Update.getLsbD {before after : BitVec 8} (h : Update before after) :
    (∀ i, i ≠ 2 → i ≠ 6 → after.getLsbD i = before.getLsbD i) ∧
      (before.getLsbD 6 = true → after.getLsbD 6 = true) ∧
      (after.getLsbD 2 = true → before.getLsbD 2 = true) := by
  have henable (value : BitVec 8) : contains value RtcControl0.eventEnable = value.getLsbD 6 :=
    contains_of_bits (by decide) value
  have hflag (value : BitVec 8) : contains value RtcControl0.eventFlag = value.getLsbD 2 :=
    contains_of_bits (by decide) value
  have hown : bits ownFlags = [2, 6] := by decide
  refine ⟨fun i h2 h6 => ?_, ?_, ?_⟩
  · by_cases hi : i < 8
    · have hnot : ownFlags.getLsbD i = false := by
        rw [Bool.eq_false_iff, ne_eq, ← mem_bits, hown]
        simp [h2, h6]
      have hbit : (after &&& ~~~ownFlags).getLsbD i = (before &&& ~~~ownFlags).getLsbD i :=
        congrArg (BitVec.getLsbD · i) h.others
      rw [BitVec.getLsbD_and, BitVec.getLsbD_and, BitVec.getLsbD_not, hnot, decide_eq_true hi] at hbit
      simpa using hbit
    · rw [BitVec.getLsbD_of_ge after i (Nat.le_of_not_lt hi),
        BitVec.getLsbD_of_ge before i (Nat.le_of_not_lt hi)]
  · rw [← henable, ← henable]
    exact h.enable
  · rw [← hflag, ← hflag]
    exact h.flag

theorem others_or_enable (value : BitVec 8) :
    (value ||| RtcControl0.eventEnable) &&& ~~~ownFlags = value &&& ~~~ownFlags := by
  rw [BitVec.and_or_distrib_right]
  exact BitVec.or_zero

theorem others_and_not_flag (value : BitVec 8) :
    value &&& ~~~RtcControl0.eventFlag &&& ~~~ownFlags = value &&& ~~~ownFlags := by
  rw [BitVec.and_assoc]
  rfl

theorem update_enable (value : BitVec 8) : Update value (value ||| RtcControl0.eventEnable) where
  others := others_or_enable value
  enable _ := contains_or_right value _
  flag h := (contains_or rfl).symm.trans h

theorem update_flag (value : BitVec 8) : Update value (value &&& ~~~RtcControl0.eventFlag) where
  others := others_and_not_flag value
  enable h := (contains_and_not rfl).trans h
  flag h := by
    rw [contains_and_not_self (by decide)] at h
    cases h

/-- All writes of a command to control register 0 are updates of what it holds. -/
def Careful (d : Performed) : Prop :=
  ∀ x ∈ d.calls, ∀ value, x.1.call = .setControl0 value → Update x.2.readControl0 value

/-! ## Single commands -/

/-- The registers after a command, if `wait` is what happens to them during a wait. -/
def Command.effect (wait : RegisterFile → RegisterFile) : Command → RegisterFile → RegisterFile
  | sleep seconds source, s =>
    if seconds = 0 then
      s
    else
      wait { s with
        clocks := some source.selection
        control0 := some (s.readControl0 ||| RtcControl0.eventEnable)
        control1 := some RtcControl1.event32Bit
        counter := some (startCount seconds source)
        writes := s.writes + 4
        sleeps := s.sleeps + 1 }
  | onInterrupt, s =>
    { s with
      control0 := some (s.readControl0 &&& ~~~RtcControl0.eventFlag)
      control1 := some RtcControl1.hold
      counter := some 0
      writes := s.writes + 3 }

theorem executes_perform_effect (wait : RegisterFile → RegisterFile) (c : Command)
    (s : RegisterFile) :
    ∃ r es t, Executes (machine wait) s (perform c) es r t ∧
      t = c.effect wait s ∧ Careful ⟨c, s, r, es, t⟩ := by
  cases c with
  | sleep seconds source =>
    by_cases hseconds : seconds = 0
    · have hsleep : perform (.sleep seconds source) = .done () := if_pos hseconds
      rw [hsleep, Command.effect, if_pos hseconds]
      exact ⟨(), [], s, .done s (), rfl, fun x hx => nomatch hx⟩
    · rw [perform, sleep, if_neg hseconds, Command.effect, if_neg hseconds]
      refine ⟨(), _, _,
        .call rfl (.call rfl (.call rfl (.call rfl (.call rfl (.call rfl (.done _ _)))))), rfl, ?_⟩
      -- of the six calls only the fourth writes the register
      intro x hx value hwrite
      simp only [List.mem_cons, List.not_mem_nil, or_false] at hx
      rcases hx with rfl | rfl | rfl | rfl | rfl | rfl <;> cases hwrite
      exact update_enable _
  | onInterrupt =>
    refine ⟨(), _, _, .call rfl (.call rfl (.call rfl (.call rfl (.done _ _)))), rfl, ?_⟩
    intro x hx value hwrite
    simp only [List.mem_cons, List.not_mem_nil, or_false] at hx
    rcases hx with rfl | rfl | rfl | rfl <;> cases hwrite
    exact update_flag _

/-! ## Sleeps that are ended by the overflow -/

/-- What happens during a wait that the overflow's interrupt ends. -/
def served (s : RegisterFile) : RegisterFile :=
  (onInterrupt.interpret RegisterFile.handler (RegisterFile.overflow s).2).2

/-- The interrupt is acknowledged, and the counter is held at zero. -/
structure Held (s : RegisterFile) : Prop where
  flag : contains s.readControl0 RtcControl0.eventFlag = false
  control1 : s.control1 = some RtcControl1.hold
  counter : s.counter = some 0

theorem held_served (s : RegisterFile) : Held (served s) :=
  ⟨contains_and_not_self (by decide), rfl, rfl⟩

/-- On registers on which the overflow's interrupt ends every wait, the counter is held at zero after
each sleep, and a sleep that is over leaves no event behind. -/
theorem sleeps_held (cs : List Command) (s : RegisterFile) :
    ∃ ds t, (unfailing (waking RegisterFile.handler RegisterFile.overflow)).session perform cs s =
        .ok (ds, t) ∧ ds.map Transition.command = cs ∧
      ∀ d ∈ ds, Command.waits d.command = true → Held d.after := by
  obtain ⟨ds, t, hsession, hcommands, hall⟩ := Machine.session_ok
    (P := fun d : Performed => d.after = d.command.effect served d.before ∧ Careful d)
    (executes_perform_effect served) cs s (m := machine served)
  refine ⟨ds, t, machine_waking ▸ hsession, hcommands, fun d hd hwaits => ?_⟩
  rw [(hall d hd).1]
  rcases hcommand : d.command with ⟨seconds, source⟩ | _
  · rw [hcommand] at hwaits
    rw [Command.effect, if_neg (bne_iff_ne.1 hwaits)]
    exact held_served _
  · rw [hcommand] at hwaits
    cases hwaits

/-! ## Commands in a row -/

/-- The clock that a command has to sleep on, if it has to sleep at all. -/
def Command.source? : Command → Option Source
  | sleep seconds source => if seconds = 0 then none else some source
  | onInterrupt => none

/-- What a command writes to the counter and to control register 1.  The counter of a sleep counts all
of its 32 bits and is not held. -/
def Command.counting? : Command → Option (UInt32 × BitVec 8)
  | sleep seconds source => if seconds = 0 then none else some (startCount seconds source, 0x03)
  | onInterrupt => some (0, RtcControl1.hold)

/-- What is told by the last command that tells anything. -/
def latest (tell : Command → Option κ) (cs : List Command) : Option κ :=
  (cs.filterMap tell).getLast?

theorem latest_append (tell : Command → Option κ) (cs ds : List Command) :
    latest tell (cs ++ ds) = (latest tell ds).or (latest tell cs) := by
  rw [latest, List.filterMap_append, List.getLast?_append]
  rfl

theorem latest_singleton (tell : Command → Option κ) (c : Command) : latest tell [c] = tell c := by
  rw [latest, List.filterMap_cons]
  cases tell c <;> rfl

/-- The main and the subsystem clock come from the divided oscillator, and the auxiliary clock from
`source`. -/
structure Selects (source : Source) (selection : BitVec 16) : Prop where
  main : contains selection ClockControl4.mainFromDivided = true
  subsystem : contains selection ClockControl4.subsystemFromDivided = true
  auxiliary : contains selection ClockControl4.auxiliaryFromLowPower = true ↔ source = .lowPower

theorem selects_selection (source : Source) : Selects source source.selection := by
  cases source <;> exact ⟨by decide, by decide, by decide⟩

/-- The bits of the selection: 2 and 6 for the divided oscillator, and 8 for the low power one. -/
theorem Selects.getLsbD {source : Source} {selection : BitVec 16} (h : Selects source selection) :
    selection.getLsbD 2 = true ∧ selection.getLsbD 6 = true ∧
      (selection.getLsbD 8 = true ↔ source = .lowPower) := by
  have hmain : bits ClockControl4.mainFromDivided = [2] := by decide
  have hsubsystem : bits ClockControl4.subsystemFromDivided = [6] := by decide
  have hauxiliary : bits ClockControl4.auxiliaryFromLowPower = [8] := by decide
  rw [← contains_of_bits hmain, ← contains_of_bits hsubsystem, ← contains_of_bits hauxiliary]
  exact ⟨h.main, h.subsystem, h.auxiliary⟩

/-- What commands leave in the registers. -/
structure Framed (s : RegisterFile) (cs : List Command) (t : RegisterFile) : Prop where
  /-- The flags of others are as they were. -/
  others : t.readControl0 &&& ~~~ownFlags = s.readControl0 &&& ~~~ownFlags
  enable : contains t.readControl0 RtcControl0.eventEnable = true ↔
    contains s.readControl0 RtcControl0.eventEnable = true ∨ ∃ c ∈ cs, Command.waits c = true
  flag : contains t.readControl0 RtcControl0.eventFlag = false ↔
    contains s.readControl0 RtcControl0.eventFlag = false ∨ .onInterrupt ∈ cs
  /-- The clocks are selected for the last sleep, and without a sleep they are left alone. -/
  clocks : t.clocks = ((latest Command.source? cs).map Source.selection).or s.clocks
  counter : t.counter = ((latest Command.counting? cs).map Prod.fst).or s.counter
  control1 : t.control1 = ((latest Command.counting? cs).map Prod.snd).or s.control1

namespace Framed

variable {s u t : RegisterFile} {cs ds : List Command}

theorem nil (s : RegisterFile) : Framed s [] s where
  others := rfl
  enable := by simp
  flag := by simp
  clocks := rfl
  counter := rfl
  control1 := rfl

theorem effect (c : Command) (s : RegisterFile) : Framed s [c] (c.effect id s) := by
  cases c with
  | sleep seconds source =>
    by_cases hseconds : seconds = 0
    · subst hseconds
      exact ⟨rfl, by simp [Command.effect, Command.waits], by simp [Command.effect], rfl, rfl, rfl⟩
    · have hwaits : Command.waits (.sleep seconds source) = true := bne_iff_ne.2 hseconds
      have hsource : Command.source? (.sleep seconds source) = some source := if_neg hseconds
      have hcounting : Command.counting? (.sleep seconds source) =
          some (startCount seconds source, 0x03) := if_neg hseconds
      rw [Command.effect, if_neg hseconds]
      refine ⟨others_or_enable _, ?_, ?_, ?_, ?_, ?_⟩
      · exact iff_of_true (contains_or_right _ _) (.inr ⟨_, List.mem_singleton_self _, hwaits⟩)
      · show contains (s.readControl0 ||| RtcControl0.eventEnable) RtcControl0.eventFlag = false ↔ _
        rw [contains_or rfl]
        simp
      · rw [latest_singleton, hsource]
        rfl
      · rw [latest_singleton, hcounting]
        rfl
      · rw [latest_singleton, hcounting]
        rfl
  | onInterrupt =>
    refine ⟨others_and_not_flag _, ?_, ?_, rfl, rfl, rfl⟩
    · show contains (s.readControl0 &&& ~~~RtcControl0.eventFlag) RtcControl0.eventEnable = true ↔ _
      rw [contains_and_not rfl]
      simp [Command.waits]
    · exact iff_of_true (contains_and_not_self (by decide)) (.inr (List.mem_singleton_self _))

/-- What some commands leave is what those that follow them find. -/
theorem append (first : Framed s cs u) (later : Framed u ds t) : Framed s (cs ++ ds) t where
  others := later.others.trans first.others
  enable := by
    rw [later.enable, first.enable, or_assoc]
    simp only [List.mem_append, or_and_right, exists_or]
  flag := by rw [later.flag, first.flag, or_assoc, List.mem_append]
  clocks := by
    rw [later.clocks, first.clocks, latest_append, Option.map_or, Option.or_assoc]
  counter := by
    rw [later.counter, first.counter, latest_append, Option.map_or, Option.or_assoc]
  control1 := by
    rw [later.control1, first.control1, latest_append, Option.map_or, Option.or_assoc]

/-- If every command has its effect, then commands in a row leave what they should. -/
theorem of_session {ds : List Performed} (h : (machine id).session perform cs s = .ok (ds, t))
    (heffect : ∀ d ∈ ds, d.after = Command.effect id d.command d.before) :
    Framed s (ds.map Transition.command) t := by
  revert heffect
  refine Machine.session_induction
    (motive := fun s ds t => (∀ d ∈ ds, d.after = Command.effect id d.command d.before) →
      Framed s (ds.map Transition.command) t) (fun s _ => nil s) ?_ h
  intro d ds t ih heffect
  obtain ⟨hd, hds⟩ := List.forall_mem_cons.1 heffect
  have hfirst : Framed d.before [d.command] d.after := hd ▸ effect d.command d.before
  exact hfirst.append (ih hds)

end Framed

/-- On registers that remember, any commands in a row leave the flags of others in control register 0
alone and the other registers as the last commands that wrote them say.  And whatever happens to the
registers during a wait, no single write to control register 0 changes more than it may. -/
theorem registers_framed (cs : List Command) (s : RegisterFile) :
    (∃ ds t, (unfailing RegisterFile.handler).session perform cs s = .ok (ds, t) ∧
        ds.map Transition.command = cs ∧ Framed s cs t) ∧
      (∀ source, Selects source source.selection) ∧
      ∀ wait : RegisterFile → RegisterFile, ∃ ds t,
        (machine wait).session perform cs s = .ok (ds, t) ∧ ds.map Transition.command = cs ∧
          ∀ d ∈ ds, Careful d := by
  have hsession (wait : RegisterFile → RegisterFile) := Machine.session_ok
    (P := fun d : Performed => d.after = d.command.effect wait d.before ∧ Careful d)
    (executes_perform_effect wait) cs s (m := machine wait)
  refine ⟨?_, selects_selection, fun wait => ?_⟩
  · obtain ⟨ds, t, hrun, hcommands, hall⟩ := hsession id
    rw [← machine_id]
    refine ⟨ds, t, hrun, hcommands, ?_⟩
    rw [← hcommands]
    exact .of_session hrun fun d hd => (hall d hd).1
  · obtain ⟨ds, t, hrun, hcommands, hall⟩ := hsession wait
    exact ⟨ds, t, hrun, hcommands, fun d hd => (hall d hd).2⟩

end BoardSupport.SleepClock
