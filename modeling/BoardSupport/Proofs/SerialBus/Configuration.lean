import BoardSupport.Proofs.ChipSupport.Session
import BoardSupport.Proofs.SerialBus.Management
import BoardSupport.StandIn.Devices
import Mathlib.Data.List.DropRight

/-!
# The serial bus's configuration

The driver keeps the configuration in a record, edits the record and then writes all of it.  It keeps
the edit even if the module refuses the record, so what it reports is what it has tried last, and the
next writing tries the same again.

- `writings`: the configurations that went out in a run, each with whether the module took it.
  `lastWritten` and `held` are read off them, the one from all and the other from those that were taken.
- `settings`: the configuration by the commands alone, from the settings made since the driver last
  started over.
- `configuration_follows_history`: over any commands and on any device the driver reports what was
  written last, and everything that is written is made of the settings.
- `config_held_unless_refused`: once the bus is up, what the driver reports is what the module holds,
  unless the module has refused it (`refused_divider_reported`).
-/

namespace BoardSupport.SerialBus

open ChipSupport (Console Device Session)

variable {τ α : Type}

/-- A turn of the serial bus on a device. -/
abbrev BusTurn (τ : Type) : Type := Turn commands library.interface (Session SerialBus τ)

/-! ## The history of the configuration -/

/-- A configuration that was written, and whether the module took it. -/
structure Writing where
  config : Config
  accepted : Bool
  deriving DecidableEq, Repr

/-- The writing that a call makes. -/
def writing? : Event library.interface → Option Writing
  | ⟨.request (.configure config), .ok _⟩ => some ⟨config, true⟩
  | ⟨.request (.configure config), .error _⟩ => some ⟨config, false⟩
  | _ => none

/-- The event is the module being opened. -/
def opens : Event library.interface → Bool
  | ⟨.request (.openOn _ _), .ok _⟩ => true
  | _ => false

/-- The event is a failure before the module is open. -/
def stops : Event library.interface → Bool
  | ⟨.request .init, .error _⟩ => true
  | ⟨.request (.routePins _), .error _⟩ => true
  | ⟨.request (.openOn _ _), .error _⟩ => true
  | _ => false

/-- The setting of the clock divider that a command makes. -/
def Command.divider? : Command → Option Divider
  | setDivider divider => some divider
  | _ => none

/-- The setting of clock polarity and phase that a command makes. -/
def Command.mode? : Command → Option Mode
  | setMode mode => some mode
  | _ => none

section Histories

/-- The turn brings the bus up at least as far as opening the module. -/
def startsOver (turn : BusTurn τ) : Bool :=
  turn.command == .bringUp && turn.calls.any opens

variable (turns : List (BusTurn τ))

/-- The configurations that were written, in their order. -/
def writings : List Writing :=
  turns.flatMap fun turn => turn.calls.filterMap writing?

/-- The configuration that was written last, whether or not the module took it, or `start` if none
was. -/
def lastWritten (start : Config) : Config :=
  ((writings turns).getLast?.map Writing.config).getD start

/-- The configuration that the module took last, if it took any. -/
def held : Option Config := ((writings turns).filter Writing.accepted).getLast?.map Writing.config

/-- The last setting of a kind since the driver started over, or since the beginning. -/
def lastSetting (setting? : Command → Option α) : Option α :=
  ((turns.rtakeWhile fun turn => !startsOver turn).filterMap fun turn =>
    setting? turn.command).getLast?

/-- The clock divider by the commands: the one that was set last, and 128 without one. -/
def settledDivider : UInt16 :=
  match lastSetting turns Command.divider? with
  | some .div2 => 2
  | some .div4 => 4
  | some .div8 => 8
  | some .div16 => 16
  | some .div32 => 32
  | some .div64 => 64
  | some .div128 | none => 128

/-- Clock polarity and phase by the commands: those of the mode that was set last, and of mode 0
without one. -/
def settledMode : Polarity × Phase :=
  match lastSetting turns Command.mode? with
  | some .mode0 | none => (.lowAtIdle, .fallEdge)
  | some .mode1 => (.lowAtIdle, .riseEdge)
  | some .mode2 => (.highAtIdle, .fallEdge)
  | some .mode3 => (.highAtIdle, .riseEdge)

/-- The configuration by the commands: divider and mode as they were set last, and for all else one
8-bit word a frame, the word interrupt only, chip select 0 active low, and no delay. -/
def settings : Config where
  clockDivider := settledDivider turns
  wordLength := .bits8
  frameLength := 1
  wordInterrupt := true
  frameInterrupt := false
  chipSelect := .cs0
  dataDelay := 0
  selectActiveHigh := false
  polarity := (settledMode turns).1
  phase := (settledMode turns).2

/-- After every turn the driver reports the configuration that the module holds. -/
def ReportsHeld : Prop :=
  ∀ before turn later, turns = before ++ turn :: later →
    held (before ++ [turn]) = some turn.after.driver.config

end Histories

section Turns

variable {history : List (BusTurn τ)} {turn : BusTurn τ}

theorem writings_concat :
    writings (history ++ [turn]) = writings history ++ turn.calls.filterMap writing? := by
  rw [writings, List.flatMap_append, List.flatMap_singleton]
  rfl

theorem lastWritten_concat (start : Config) :
    lastWritten (history ++ [turn]) start =
      ((turn.calls.filterMap writing?).getLast?.map Writing.config).getD
        (lastWritten history start) := by
  rw [lastWritten, writings_concat, List.getLast?_append]
  cases (turn.calls.filterMap writing?).getLast? <;> rfl

theorem lastSetting_concat (setting? : Command → Option α) :
    lastSetting (history ++ [turn]) setting? =
      if startsOver turn then none
      else (setting? turn.command).or (lastSetting history setting?) := by
  by_cases h : startsOver turn = true
  · rw [lastSetting, if_pos h, List.rtakeWhile_concat_neg _ _ _ (by simp [h])]
    rfl
  · rw [lastSetting, if_neg h, List.rtakeWhile_concat_pos _ _ _ (by simp [h]), List.filterMap_append,
      List.getLast?_append, lastSetting]
    cases hs : setting? turn.command <;> simp [hs]

/-- The settings after one more turn: the driver starts over, or the command edits them. -/
theorem settings_concat :
    settings (history ++ [turn]) =
      if startsOver turn then {} else turn.command.edit?.getD id (settings history) := by
  rw [settings, settledDivider, settledMode, lastSetting_concat, lastSetting_concat]
  by_cases h : startsOver turn = true
  · simp only [if_pos h]
    rfl
  · simp only [if_neg h]
    cases turn.command with
    | setDivider divider => cases divider <;> rfl
    | setMode mode => cases mode <;> rfl
    | _ => rfl

/-- If the module took what was written last, it holds that. -/
theorem held_of_accepted {w : Writing} (hlast : (writings history).getLast? = some w)
    (hw : w.accepted = true) : held history = some w.config := by
  obtain ⟨earlier, hwritings⟩ := List.getLast?_eq_some_iff.1 hlast
  have hfilter : (writings history).filter Writing.accepted =
      earlier.filter Writing.accepted ++ [w] := by
    rw [hwritings, List.filter_append, List.filter_singleton, hw]
    rfl
  rw [held, hfilter, List.getLast?_concat]
  rfl

end Turns

/-! ## What one command can do -/

namespace Fate

variable {s t : SerialBus} {c : Command} {es : List (Event library.interface)}

/-- The driver reports what was written last. -/
theorem config_eq (h : Fate s c es t) :
    t.config = ((es.filterMap writing?).getLast?.map Writing.config).getD s.config := by
  cases h with
  | exchange hc hhandle hconfig => exact hconfig
  | opened bank reply => cases reply <;> rfl
  | edited hc reply => cases reply <;> rfl
  | _ => rfl

/-- What is written is what the driver reports afterwards. -/
theorem written_eq (h : Fate s c es t) {config : Config} {reply : Except ChipSupport.Error Unit}
    (hmem : event (.configure config) reply ∈ es) : config = t.config := by
  cases h with
  | exchange hc hhandle hconfig => cases hmem
  | opened bank reply' =>
    obtain ⟨hconfig, -⟩ : config = {} ∧ HEq reply reply' := by simpa using hmem
    exact hconfig
  | @edited c edit hc reply' =>
    obtain ⟨hconfig, -⟩ : config = edit s.config ∧ HEq reply reply' := by simpa using hmem
    exact hconfig
  | _ => simp at hmem

/-- The driver starts over, or the command edits what it reported before. -/
theorem config_edited (h : Fate s c es t) :
    t.config = if c == .bringUp && es.any opens then {} else c.edit?.getD id s.config := by
  cases h with
  | exchange hc hhandle hconfig =>
    rw [hconfig]
    cases c <;> first | rfl | cases hc
  | opened bank reply => rfl
  | edited hc reply =>
    rw [hc]
    cases c <;> rfl
  | _ => rfl

/-- A bring-up that is stopped before the module is open changes nothing. -/
theorem of_stopped (h : Fate s .bringUp es t) (hstops : es.any stops = true) : t = s := by
  cases h with
  | exchange hc hhandle hconfig => cases hc
  | opened bank reply => cases hstops
  | edited hc reply => cases hc
  | _ => rfl

/-- Only a bring-up and the setters touch the configuration. -/
theorem of_kept (h : Fate s c es t) (hc : c ≠ .bringUp) (hedit : c.edit? = none) :
    t.config = s.config := by
  have hstart : (c == .bringUp) = false := beq_false_of_ne hc
  rw [h.config_edited, hstart, hedit]
  rfl

end Fate

/-! ## Plays -/

theorem writing?_idle : ∀ e, manages e.call = false → writing? e = none :=
  forall_not_manages (fun _ _ => rfl) (fun _ _ => rfl) (fun _ _ => rfl) (fun _ => rfl) fun _ _ => rfl

theorem opens_idle : ∀ e, manages e.call = false → opens e = false :=
  forall_not_manages (fun _ _ => rfl) (fun _ _ => rfl) (fun _ _ => rfl) (fun _ => rfl) fun _ _ => rfl

theorem stops_idle : ∀ e, manages e.call = false → stops e = false :=
  forall_not_manages (fun _ _ => rfl) (fun _ _ => rfl) (fun _ _ => rfl) (fun _ => rfl) fun _ _ => rfl

/-- What a turn does about the configuration. -/
structure ConfigPolicy (turn : BusTurn τ) : Prop where
  /-- What is written is what the driver reports afterwards. -/
  written : ∀ config reply, event (.configure config) reply ∈ turn.calls →
    config = turn.after.driver.config
  /-- A bring-up that is stopped before the module is open keeps configuration and handle. -/
  stopped : turn.command = .bringUp → turn.calls.any stops = true →
    turn.after.driver.config = turn.before.driver.config ∧
      turn.after.driver.handle = turn.before.driver.handle
  /-- No command but a bring-up and the setters changes the configuration. -/
  kept : turn.command ≠ .bringUp → turn.command.edit? = none →
    turn.after.driver.config = turn.before.driver.config

section Plays

variable [ChipSupport.Build] (d : Device library τ)

theorem lastWritten_turn (history : List (BusTurn τ))
    (start : Config) (c : Command) (s : Session SerialBus τ)
    (hs : s.driver.config = lastWritten history start) :
    let turn := (Session.performer d perform).turn c s
    turn.after.driver.config = lastWritten (history ++ [turn]) start := by
  intro turn
  have hconfig := (fate_turn d c s).config_eq
  rw [filterMap_managing writing?_idle] at hconfig
  rw [lastWritten_concat, ← hs]
  exact hconfig

theorem settings_turn (history : List (BusTurn τ))
    (c : Command) (s : Session SerialBus τ) (hs : s.driver.config = settings history) :
    let turn := (Session.performer d perform).turn c s
    turn.after.driver.config = settings (history ++ [turn]) := by
  intro turn
  have hconfig := (fate_turn d c s).config_edited
  rw [any_managing opens_idle] at hconfig
  rw [settings_concat, ← hs]
  exact hconfig

theorem policy_turn (c : Command) (s : Session SerialBus τ) :
    ConfigPolicy ((Session.performer d perform).turn c s) := by
  have hfate := fate_turn d c s
  constructor
  · intro config reply hmem
    exact hfate.written_eq ((mem_managing rfl).2 hmem)
  · intro hc hstops
    obtain rfl : c = .bringUp := hc
    rw [← any_managing stops_idle] at hstops
    have hsame := hfate.of_stopped hstops
    exact ⟨congrArg SerialBus.config hsame, congrArg SerialBus.handle hsame⟩
  · intro hc hedit
    exact hfate.of_kept hc hedit

/-- Over any commands and on any device, the driver reports after each turn what was written last,
which is made of the settings since the driver last started over, this turn included; and so is what
is written in the turn.  Every turn keeps to the policy. -/
theorem configuration_follows_history (t : τ) (k : Console) (cs : List Command) :
    let turns := ((Session.performer d perform).play cs ⟨{}, t, k⟩).1
    (∀ before turn later, turns = before ++ turn :: later →
        turn.after.driver.config = lastWritten (before ++ [turn]) {} ∧
          turn.after.driver.config = settings (before ++ [turn]) ∧
          ∀ config reply, event (.configure config) reply ∈ turn.calls →
            config = settings (before ++ [turn])) ∧
      ∀ turn ∈ turns, ConfigPolicy turn := by
  intro turns
  have hpolicy : ∀ turn ∈ turns, ConfigPolicy turn :=
    Performer.forall_turns (P := ConfigPolicy) (policy_turn d) cs _
  refine ⟨fun before turn later hsplit => ?_, hpolicy⟩
  obtain ⟨hlast, hsettled⟩ : turn.after.driver.config = lastWritten (before ++ [turn]) {} ∧
      turn.after.driver.config = settings (before ++ [turn]) := by
    refine Performer.play_induction (P := fun history s =>
      s.driver.config = lastWritten history {} ∧ s.driver.config = settings history)
      ?_ cs [] ⟨rfl, rfl⟩ hsplit
    intro history c s hs
    exact ⟨lastWritten_turn d history {} c s hs.1, settings_turn d history c s hs.2⟩
  refine ⟨hlast, hsettled, fun config reply hmem => ?_⟩
  have hturn : turn ∈ turns := hsplit ▸ List.mem_append_right before List.mem_cons_self
  rw [(hpolicy turn hturn).written config reply hmem, hsettled]

/-- A bring-up that succeeds leaves a writing that the module has taken. -/
theorem writing_of_bringUp (s : Session SerialBus τ)
    (hstart : ((Session.performer d perform).turn .bringUp s).answer = .ok ()) :
    ⟨{}, true⟩ ∈ ((Session.performer d perform).turn .bringUp s).calls.filterMap writing? := by
  have htaken := (fate_bringUp (Session.runs_turn d perform .bringUp s)).2 hstart
  exact List.mem_filterMap.2 ⟨_, (mem_managing rfl).1 htaken, rfl⟩

/-- In a run that starts with a successful bring-up, on any device, the driver reports after each turn
what was written last, and that is what the module holds unless the module has refused it. -/
theorem config_held_unless_refused (s : Session SerialBus τ) (cs : List Command)
    (hstart : ((Session.performer d perform).turn .bringUp s).answer = .ok ()) :
    let turns := ((Session.performer d perform).play (.bringUp :: cs) s).1
    ∀ before turn later, turns = before ++ turn :: later →
      ∃ w, (writings (before ++ [turn])).getLast? = some w ∧ turn.after.driver.config = w.config ∧
        (w.accepted = true → held (before ++ [turn]) = some turn.after.driver.config) := by
  intro turns before turn later hsplit
  have hreported : turn.after.driver.config = lastWritten (before ++ [turn]) s.driver.config := by
    refine Performer.play_induction (P := fun history u =>
      u.driver.config = lastWritten history s.driver.config) ?_ (.bringUp :: cs) [] rfl hsplit
    intro history c u hu
    exact lastWritten_turn d history s.driver.config c u hu
  -- the first of the turns is the bring-up, whose writing stays among the writings
  have hfirst : (Session.performer d perform).turn .bringUp s ∈ before ++ [turn] := by
    cases before with
    | nil =>
      obtain ⟨rfl, -⟩ := List.cons.inj hsplit
      exact List.mem_singleton_self _
    | cons first before =>
      obtain ⟨rfl, -⟩ := List.cons.inj hsplit
      exact List.mem_cons_self
  have hwriting : ⟨{}, true⟩ ∈ writings (before ++ [turn]) :=
    List.mem_flatMap.2 ⟨_, hfirst, writing_of_bringUp d s hstart⟩
  obtain ⟨w, hlast⟩ := Option.ne_none_iff_exists'.1 fun hnone =>
    List.ne_nil_of_mem hwriting (List.getLast?_eq_none_iff.1 hnone)
  have hw : turn.after.driver.config = w.config := by
    rw [hreported, lastWritten, hlast]
    rfl
  refine ⟨w, hlast, hw, fun haccepted => ?_⟩
  rw [held_of_accepted hlast haccepted, hw]

end Plays

/-- The stand-in refuses the second configuration that is written. -/
def refusesSecond : StandIn where
  faults := [{ entry := "SPI_config", error := some .fail, skip := 1, times := some 1 }]

/-- The first writing is taken, the second refused, and the third taken again. -/
theorem refused_then_held :
    let bus := Session.performer StandIn.serialBus (@perform {})
    let start : Session SerialBus StandIn := ⟨{}, refusesSecond, {}⟩
    (bus.turn .bringUp start).answer = .ok () ∧
      ∀ before turn later,
        (bus.play [.bringUp, .setDivider .div2, .setMode .mode3] start).1 = before ++ turn :: later →
        ∃ w, (writings (before ++ [turn])).getLast? = some w ∧ turn.after.driver.config = w.config ∧
          (w.accepted = true → held (before ++ [turn]) = some turn.after.driver.config) := by
  intro bus start
  have hstart : (bus.turn .bringUp start).answer = .ok () := rfl
  exact ⟨hstart, @config_held_unless_refused _ {} StandIn.serialBus start _ hstart⟩

/-- The module refuses a divider, the driver reports it all the same, and the next setter that
succeeds writes it. -/
theorem refused_divider_reported :
    let bus := Session.performer StandIn.serialBus (@perform {})
    let first := bus.turn .bringUp ⟨{}, refusesSecond, {}⟩
    let second := bus.turn (.setDivider .div2) first.after
    let third := bus.turn (.setMode .mode3) second.after
    first.answer = .ok () ∧ second.answer = .error (.library .fail) ∧
      second.after.driver.config ≠ second.before.driver.config ∧
      third.answer = .ok () ∧ third.after.driver.config.clockDivider = 2 ∧
      ¬ ReportsHeld [first, second, third] := by
  intro bus first second third
  refine ⟨rfl, rfl, by decide, rfl, rfl, fun h => ?_⟩
  have hsecond := h [first] second [third] rfl
  exact absurd hsecond (by decide)

end BoardSupport.SerialBus
