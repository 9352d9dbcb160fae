import BoardSupport.Proofs.ChipSupport.Twins

/-!
# Debug output is without influence

Where the reports of a driver go, whether they can be written there, and whether any are sent at all,
is nothing to it.  This is a statement about two plays: the same commands are performed by two builds
of the driver, from states that may differ in all that belongs to the console, and with other sinks
attached at other places.

- `Seen`: what is seen of a play by those who do not look at the console.
- `Inert`: the statement, for anybody who performs commands.
- `seen_filter`: a play looks the same without the commands that attach sinks.
- `Driven.inert`: what a driver performs is inert, if its operations do the same in every build but
  for what they tell the console.
-/

namespace BoardSupport.ChipSupport

variable {C I : Interface} {S V σ τ ω Ω : Type}

/-- A turn as it is seen by those who do not look at the console. -/
structure Sight (C I : Interface) (V : Type) where
  command : C.Call
  answer : C.Reply command
  /-- The calls with their replies, those of the console left out. -/
  calls : List (Event I)
  after : V

/-- A play as it is seen by those who do not look at the console. -/
structure Seen (C I : Interface) (V : Type) where
  /-- The turns of the commands that are for the driver. -/
  turns : List (Sight C I V)
  /-- The calls of all turns with their replies, those of the console left out. -/
  calls : List (Event I)
  /-- The end. -/
  final : V

/-- The calls that are not of the console. -/
abbrev inEarnest (debug? : I.Call → Option DebugCall) : List (Event I) → List (Event I) :=
  Program.inEarnest fun c => (debug? c).isSome

/-- The sight of a turn. -/
def sight (debug? : I.Call → Option DebugCall) (view : S → V) (turn : Turn C I S) : Sight C I V :=
  ⟨turn.command, turn.answer, inEarnest debug? turn.calls, view turn.after⟩

/-- What is seen of the play of some commands; those that are not for the driver are for the console. -/
def seen (p : Performer C I S) (debug? : I.Call → Option DebugCall) (view : S → V)
    (forDriver : C.Call → Bool) (cs : List C.Call) (s : S) : Seen C I V where
  turns := ((p.play cs s).1.filter fun turn => forDriver turn.command).map (sight debug? view)
  calls := inEarnest debug? (Turn.log (p.play cs s).1)
  final := view (p.play cs s).2

/-- Debug output is without influence on what is performed by the builds of a driver. -/
structure Inert (p : Build → Performer C I S) (debug? : I.Call → Option DebugCall) (view : S → V)
    (console : S → Console) (forDriver : C.Call → Bool) : Prop where
  /-- Any two builds, performing the same commands for the driver from states that differ in the
  console only, look the same. -/
  same : ∀ build build' cs cs' s s', view s = view s' → cs.filter forDriver = cs'.filter forDriver →
    seen (p build) debug? view forDriver cs s = seen (p build') debug? view forDriver cs' s'
  /-- A build without messages sends no line, and no console receives one. -/
  mute : ∀ build cs s, build.debugMessages = false → ∀ turn ∈ ((p build).play cs s).1,
    (∀ e ∈ turn.calls, ∀ text, debug? e.call ≠ some (.line text)) ∧
      (console turn.after).text = (console s).text

/-! ## From turns to plays -/

section Turns

variable {p p' : Performer C I S} {debug? : I.Call → Option DebugCall} {view : S → V}
  {forDriver : C.Call → Bool}

theorem seen_cons_of_pos {c : C.Call} (hc : forDriver c = true) (cs : List C.Call) (s : S) :
    seen p debug? view forDriver (c :: cs) s =
      let later := seen p debug? view forDriver cs (p.turn c s).after
      ⟨sight debug? view (p.turn c s) :: later.turns,
        inEarnest debug? (p.turn c s).calls ++ later.calls, later.final⟩ := by
  show Seen.mk _ (inEarnest debug? (_ ++ _)) _ = _
  rw [inEarnest, Program.inEarnest_append]
  congr 1
  exact congrArg (List.map _) (List.filter_cons_of_pos (a := p.turn c s) hc)

theorem seen_cons_of_neg {c : C.Call} (hc : ¬ forDriver c = true) (cs : List C.Call) (s : S) :
    seen p debug? view forDriver (c :: cs) s =
      let later := seen p debug? view forDriver cs (p.turn c s).after
      { later with calls := inEarnest debug? (p.turn c s).calls ++ later.calls } := by
  show Seen.mk _ (inEarnest debug? (_ ++ _)) _ = _
  rw [inEarnest, Program.inEarnest_append]
  congr 1
  exact congrArg (List.map _) (List.filter_cons_of_neg (a := p.turn c s) hc)

/-- A play looks as if no other sink had been attached, as if it had started from any state that looks
the same, and as if it had been performed by anybody whose turns look the same. -/
theorem seen_filter
    (hconsole : ∀ c s, ¬ forDriver c = true →
      inEarnest debug? (p.turn c s).calls = [] ∧ view (p.turn c s).after = view s)
    (hdriver : ∀ c s s', view s = view s' →
      sight debug? view (p.turn c s) = sight debug? view (p'.turn c s'))
    (cs : List C.Call) {s s' : S} (hs : view s = view s') :
    seen p debug? view forDriver cs s = seen p' debug? view forDriver (cs.filter forDriver) s' := by
  induction cs generalizing s s' with
  | nil => exact congrArg (Seen.mk [] []) hs
  | cons c cs ih =>
    by_cases hc : forDriver c = true
    · have hturn := hdriver c s s' hs
      have hcalls : inEarnest debug? (p.turn c s).calls = inEarnest debug? (p'.turn c s').calls :=
        congrArg Sight.calls hturn
      rw [List.filter_cons_of_pos hc, seen_cons_of_pos hc, seen_cons_of_pos hc, hturn, hcalls,
        ih (congrArg Sight.after hturn)]
    · obtain ⟨hcalls, hafter⟩ := hconsole c s hc
      rw [List.filter_cons_of_neg hc, seen_cons_of_neg hc, hcalls]
      exact ih (hafter.trans hs)

end Turns

/-! ## Drivers -/

theorem Console.text_told (k : Console) {call : Option DebugCall}
    (h : ∀ text, call ≠ some (.line text)) : (k.told call).text = k.text := by
  rcases call with _ | text | sink
  · rfl
  · exact absurd rfl (h text)
  · rfl

/-- A console that is told no line keeps its text. -/
theorem Console.text_foldl_told {debug? : I.Call → Option DebugCall} (k : Console)
    {es : List (Event I)} (h : ∀ e ∈ es, ∀ text, debug? e.call ≠ some (.line text)) :
    ((es.map Event.call).foldl (fun k c => k.told (debug? c)) k).text = k.text := by
  induction es generalizing k with
  | nil => rfl
  | cons e es ih =>
    obtain ⟨he, hes⟩ := List.forall_mem_cons.1 h
    exact (ih (k.told (debug? e.call)) hes).trans (k.text_told he)

/-- A performer whose turns are the courses of a driver's operations: its state is made up of the
state of the driver and of that of the surroundings. -/
structure Driven (p : Performer C I S) (driver : Handler C (StateT σ (Program I)))
    (k : Surroundings I Ω) (inner : S → σ) (outer : S → Ω) : Prop where
  turn_eq : ∀ c s, let x := ((driver c).run (inner s)).course k (outer s)
    p.turn c s = ⟨c, s, x.result.1, x.calls, (p.turn c s).after⟩
  inner_after : ∀ c s, inner (p.turn c s).after =
    (((driver c).run (inner s)).course k (outer s)).result.2
  outer_after : ∀ c s, outer (p.turn c s).after =
    (((driver c).run (inner s)).course k (outer s)).state

namespace Driven

variable {p : Performer C I S} {driver : Handler C (StateT σ (Program I))} {k : Surroundings I Ω}
  {inner : S → σ} {outer : S → Ω} {debug? : I.Call → Option DebugCall}

theorem sight_turn {part : Ω → ω} (hp : Driven p driver k inner outer) (c : C.Call) (s : S) :
    let x := ((driver c).run (inner s)).course k (outer s)
    sight debug? (fun s => (inner s, part (outer s))) (p.turn c s) =
      ⟨c, x.result.1, inEarnest debug? x.calls, (x.result.2, part x.state)⟩ := by
  intro x
  have hturn := congrArg (sight debug? fun s => (inner s, part (outer s))) (hp.turn_eq c s)
  rw [hturn]
  simp only [sight, hp.inner_after, hp.outer_after]
  rfl

/-- A turn tells the console of its calls. -/
theorem console_after {console : Ω → Console} (hp : Driven p driver k inner outer)
    (hconsole : ∀ c w, console (k c w).2 = (console w).told (debug? c)) (c : C.Call) (s : S) :
    console (outer (p.turn c s).after) =
      ((p.turn c s).calls.map Event.call).foldl (fun k c => k.told (debug? c))
        (console (outer s)) := by
  have hcalls : (p.turn c s).calls = _ := congrArg Turn.calls (hp.turn_eq c s)
  rw [hp.outer_after, hcalls]
  exact Program.course_account hconsole _ _

end Driven

section Inert

variable {p : Build → Performer C I S} {driver : Build → Handler C (StateT σ (Program I))}
  {k : Surroundings I Ω} {h : Surroundings I ω} {inner : S → σ} {outer : S → Ω} {part : Ω → ω}
  {debug? : I.Call → Option DebugCall} {console : Ω → Console} {forDriver : C.Call → Bool}

/-- The builds of a driver are inert if each of its operations does the same in every build but for
what it tells the console, if its surroundings have the console beside all else, and if commands for the
console leave the driver and all else alone. -/
theorem Driven.inert (hp : ∀ build, Driven (p build) (driver build) k inner outer)
    (hk : Program.Beside (fun c => (debug? c).isSome) k h part)
    (hconsole : ∀ c w, console (k c w).2 = (console w).told (debug? c))
    (hdriver : ∀ build build' c s,
      AlikeBuilt debug? build build' ((driver build c).run s) ((driver build' c).run s))
    (hattach : ∀ build c s, ¬ forDriver c = true → ∃ answer,
      AlikeBuilt debug? build build ((driver build c).run s) (.done (answer, s))) :
    Inert p debug? (fun s => (inner s, part (outer s))) (fun s => console (outer s)) forDriver := by
  let view : S → σ × ω := fun s => (inner s, part (outer s))
  have hsight : ∀ build build' c s s', view s = view s' →
      sight debug? view ((p build).turn c s) = sight debug? view ((p build').turn c s') := by
    intro build build' c s s' hs
    obtain ⟨hinner, houter⟩ := Prod.mk.inj hs
    obtain ⟨hcalls, hresult, hstate, -⟩ := (hdriver build build' c (inner s)).course hk hk houter
    rw [(hp build).sight_turn, (hp build').sight_turn, ← hinner]
    show Sight.mk c _ _ (_, _) = Sight.mk c _ _ (_, _)
    rw [hresult, hstate]
    exact congrArg (Sight.mk c _ · _) hcalls
  have hquiet : ∀ build c s, ¬ forDriver c = true →
      inEarnest debug? ((p build).turn c s).calls = [] ∧ view ((p build).turn c s).after = view s := by
    intro build c s hc
    obtain ⟨answer, halike⟩ := hattach build c (inner s) hc
    obtain ⟨hcalls, hresult, hstate, -⟩ := halike.course hk hk (w := outer s) rfl
    have hturn : sight debug? view ((p build).turn c s) = _ := (hp build).sight_turn c s
    refine ⟨(congrArg Sight.calls hturn).trans hcalls, (congrArg Sight.after hturn).trans ?_⟩
    exact Prod.ext (congrArg Prod.snd hresult) hstate
  constructor
  · intro build build' cs cs' s s' hs hcs
    -- both plays look like the one of the second build in which no sink is attached at all
    rw [seen_filter (hquiet build) (hsight build build') cs hs, hcs]
    exact (seen_filter (hquiet build') (hsight build' build') cs' rfl).symm
  · intro build cs s hbuild turn hturn
    have hsilent : ∀ c t, ∀ e ∈ ((p build).turn c t).calls, ∀ text,
        debug? e.call ≠ some (.line text) := by
      intro c t e he text hline
      have hcalls : ((p build).turn c t).calls = _ := congrArg Turn.calls ((hp build).turn_eq c t)
      rw [hcalls] at he
      obtain ⟨-, -, -, hleft⟩ :=
        (hdriver build build c (inner t)).course hk hk (w := outer t) rfl
      have hmay := hleft e he (by rw [hline]; rfl) text hline
      exact Bool.false_ne_true (hbuild.symm.trans hmay)
    obtain ⟨before, later, hplay⟩ := List.append_of_mem hturn
    have hstep : ∀ (_ : List (Turn C I S)) c t,
        (console (outer t)).text = (console (outer s)).text →
        (console (outer ((p build).turn c t).after)).text = (console (outer s)).text := by
      intro _ c t htext
      rw [(hp build).console_after hconsole c t, Console.text_foldl_told _ (hsilent c t), htext]
    refine ⟨Performer.forall_turns (P := fun turn => ∀ e ∈ turn.calls, ∀ text,
      debug? e.call ≠ some (.line text)) hsilent cs s turn hturn, ?_⟩
    exact Performer.play_induction (P := fun _ t =>
      (console (outer t)).text = (console (outer s)).text) hstep cs [] rfl hplay

end Inert

theorem driven_ofDriver (k : Surroundings I Ω) (driver : Handler C (StateT σ (Program I))) :
    Driven (Performer.ofDriver k driver) driver k Prod.fst Prod.snd where
  turn_eq c s := by rw [Performer.turn_ofDriver]
  inner_after c s := by rw [Performer.turn_ofDriver]
  outer_after c s := by rw [Performer.turn_ofDriver]

theorem Session.driven {L : Library} (d : Device L τ) (driver : Handler C (StateT σ L.Task)) :
    Driven (performer d driver) driver d.handler Session.driver fun s => (s.device, s.console) where
  turn_eq c s := by
    rw [Session.turn_eq]
    rfl
  inner_after c s := by
    rw [Session.turn_eq]
    rfl
  outer_after c s := by
    rw [Session.turn_eq]
    rfl

/-- Sessions of a driver over the chip support library are inert if each of its operations does the
same in every build but for what it tells the console, and if commands for the console do nothing
else. -/
theorem Session.inert {L : Library} (d : Device L τ) {driver : Build → Handler C (StateT σ L.Task)}
    {forDriver : C.Call → Bool}
    (hdriver : ∀ build build' c, Twins build build' (driver build c) (driver build' c))
    (hattach : ∀ build c, ¬ forDriver c = true → ∃ answer,
      Twins build build (driver build c) (pure answer)) :
    Inert (fun build => performer d (driver build)) Library.Call.debug?
      (fun s => (s.driver, s.device)) Session.console forDriver := by
  have hbeside : Program.Beside (fun c => (Library.Call.debug? c).isSome) d.handler d.alone
      Prod.fst := d.beside_handler
  have hconsole : ∀ c w, Prod.snd (d.handler c w).2 = Console.told (Prod.snd w) c.debug? :=
    d.hear_handler
  have hinert := Driven.inert (fun build => Session.driven d (driver build)) hbeside hconsole hdriver
    fun build c s hc => (hattach build c hc).imp fun _ h => h s
  exact hinert

end BoardSupport.ChipSupport
