import BoardSupport.Program.Runs

/-!
# The course of a program

Surroundings that answer every call from a state of their own leave a program no choice: it makes
one list of calls, ends in one result and leaves one state behind.  That is its *course*, and what
interpretation with a record of the calls computes (`Program.interpret_recorded_eq`).

Commands that are performed one after another make up a play.  How a command is performed is left
open (`Performer`): the turns of a play only have to follow one another.

- `Program.course_bind`: the course of a composition is put together from those of its parts.
- `Program.runs_course`: a course is a run, so what holds of all runs holds of it.
- `Program.course_account`: what surroundings note down of every call is made up of the calls.
- `Performer.play`, `Performer.forall_turns` and `Performer.play_induction`: from single commands to
  whole plays, their turns (`Performer.exists_turn`) and their ends (`Performer.play_end`).
-/

namespace BoardSupport

variable {C I : Interface} {S σ ω κ α β : Type}

/-- Answers every call of `I` from a state in `ω`. -/
abbrev Surroundings (I : Interface) (ω : Type) : Type := Handler I (StateM ω)

/-- What a program does in its surroundings: the calls that it makes, with their replies, what it
ends in, and the state in which it leaves the surroundings. -/
structure Course (I : Interface) (α ω : Type) where
  calls : List (Event I)
  result : α
  state : ω

namespace Course

/-- The course with other calls made before it. -/
def behind (front : List (Event I)) (x : Course I α ω) : Course I α ω :=
  { x with calls := front ++ x.calls }

/-- What makes no more calls adds nothing to those before it. -/
theorem behind_end (front : List (Event I)) (a : α) (w : ω) :
    (⟨[], a, w⟩ : Course I α ω).behind front = ⟨front, a, w⟩ :=
  congrArg (Course.mk · a w) (List.append_nil front)

@[simp] theorem behind_behind (front middle : List (Event I)) (x : Course I α ω) :
    (x.behind middle).behind front = x.behind (front ++ middle) := by
  simp [behind]

end Course

namespace Program

/-- The course of a program from a state of its surroundings. -/
def course (h : Surroundings I ω) : Program I α → ω → Course I α ω
  | .done a, w => ⟨[], a, w⟩
  | .call c next, w => ((next (h c w).1).course h (h c w).2).behind [⟨c, (h c w).1⟩]

variable {h : Surroundings I ω}

@[simp] theorem course_done (a : α) (w : ω) : (done a : Program I α).course h w = ⟨[], a, w⟩ := rfl

theorem course_call (c : I.Call) (next : I.Reply c → Program I α) (w : ω) :
    (call c next).course h w =
      ((next (h c w).1).course h (h c w).2).behind [⟨c, (h c w).1⟩] := rfl

theorem course_bind (p : Program I α) (f : α → Program I β) (w : ω) :
    (p >>= f).course h w =
      ((f (p.course h w).result).course h (p.course h w).state).behind (p.course h w).calls := by
  induction p generalizing w with
  | done a => rfl
  | call c next ih =>
    rw [call_bind, course_call, course_call, ih, Course.behind_behind]
    rfl

theorem course_run_bind {x : StateT σ (Program I) α} {f : α → StateT σ (Program I) β} {s u : σ}
    {w v : ω} {es : List (Event I)} {a : α} (hx : (x.run s).course h w = ⟨es, (a, u), v⟩) :
    ((x >>= f).run s).course h w = (((f a).run u).course h v).behind es := by
  rw [StateT.run_bind, course_bind, hx]

/-- Interpretation with a record of the calls computes the course. -/
theorem interpret_recorded_eq (p : Program I α) (trace : Trace I) (w : ω) :
    p.interpret h.recorded trace w =
      (((p.course h w).result, trace ++ (p.course h w).calls), (p.course h w).state) := by
  induction p generalizing trace w with
  | done a =>
    rw [course_done, Array.appendList_nil]
    rfl
  | call c next ih =>
    have noted : (call c next).interpret h.recorded trace w =
        (next (h c w).1).interpret h.recorded (trace.push ⟨c, (h c w).1⟩) (h c w).2 := rfl
    rw [noted, ih, course_call]
    simp [Course.behind]

theorem runs_course (p : Program I α) (w : ω) :
    Runs p (p.course h w).calls (p.course h w).result := by
  induction p generalizing w with
  | done a => exact .done a
  | call c next ih => exact .call (ih _ _)

/-- What no call that is made changes stays as it is. -/
theorem course_keeps (part : ω → κ) {Allowed : I.Call → Prop}
    (hkeeps : ∀ c w, Allowed c → part (h c w).2 = part w) (p : Program I α) (w : ω)
    (hcalls : ∀ e ∈ (p.course h w).calls, Allowed e.call) :
    part (p.course h w).state = part w := by
  induction p generalizing w with
  | done a => rfl
  | call c next ih =>
    obtain ⟨hc, hlater⟩ := List.forall_mem_cons.1 hcalls
    exact (ih _ _ hlater).trans (hkeeps c w hc)

/-- What every call keeps holds at the end as it held at the beginning. -/
theorem course_maintains {P : ω → Prop} (hstep : ∀ c w, P w → P (h c w).2) (p : Program I α) {w : ω}
    (hw : P w) : P (p.course h w).state := by
  induction p generalizing w with
  | done a => exact hw
  | call c next ih => exact ih _ (hstep c w hw)

/-- An account that the surroundings keep of every call is made up of the calls in the end. -/
theorem course_account {account : ω → κ} {note : κ → I.Call → κ}
    (hnote : ∀ c w, account (h c w).2 = note (account w) c) (p : Program I α) (w : ω) :
    account (p.course h w).state =
      ((p.course h w).calls.map Event.call).foldl note (account w) := by
  induction p generalizing w with
  | done a => rfl
  | call c next ih =>
    rw [course_call]
    show account ((next (h c w).1).course h (h c w).2).state = _
    rw [ih, hnote]
    rfl

end Program

/-! ## Plays -/

/-- Performs a command: the answer and the calls made for it, and the state afterwards. -/
abbrev Performer (C I : Interface) (S : Type) : Type := (c : C.Call) → S → (C.Reply c × Trace I) × S

/-- A command that was performed, with its answer, the calls made for it, and the states before and
after it. -/
structure Turn (C I : Interface) (S : Type) where
  command : C.Call
  before : S
  answer : C.Reply command
  calls : List (Event I)
  after : S

namespace Turn

/-- The turn as one among others. -/
def inl {D : Interface} (t : Turn C I S) : Turn (C.sum D) I S :=
  ⟨.inl t.command, t.before, t.answer, t.calls, t.after⟩

/-- All calls of some turns. -/
def log (turns : List (Turn C I S)) : List (Event I) := turns.flatMap Turn.calls

theorem log_concat (turns : List (Turn C I S)) (turn : Turn C I S) :
    log (turns ++ [turn]) = log turns ++ turn.calls := by
  simp [log]

/-- What is told by the last turn that tells anything. -/
def latest (tell : Turn C I S → Option κ) (turns : List (Turn C I S)) : Option κ :=
  (turns.filterMap tell).getLast?

theorem latest_concat (tell : Turn C I S → Option κ) (turns : List (Turn C I S))
    (turn : Turn C I S) : latest tell (turns ++ [turn]) = (tell turn).or (latest tell turns) := by
  rw [latest, List.filterMap_append, List.getLast?_append]
  congr 1
  cases h : tell turn <;> simp [h]

end Turn

namespace Performer

/-- The turn in which a command is performed. -/
def turn (p : Performer C I S) (c : C.Call) (s : S) : Turn C I S :=
  ⟨c, s, (p c s).1.1, (p c s).1.2.toList, (p c s).2⟩

/-- Performs commands one after another. -/
def play (p : Performer C I S) : List C.Call → S → List (Turn C I S) × S
  | [], s => ([], s)
  | c :: cs, s => (p.turn c s :: (p.play cs (p.turn c s).after).1, (p.play cs (p.turn c s).after).2)

/-- A driver in some surroundings performs its commands; the state is the driver's beside that of the
surroundings. -/
def ofDriver (k : Surroundings I ω) (driver : Handler C (StateT σ (Program I))) :
    Performer C I (σ × ω) := fun c (s, w) =>
  let (((answer, s), trace), w) := ((driver c).run s).interpret k.recorded #[] w
  ((answer, trace), (s, w))

/-- A driver performs a command in the course of the command's operation. -/
theorem ofDriver_eq (k : Surroundings I ω) (driver : Handler C (StateT σ (Program I))) (c : C.Call)
    (s : σ × ω) :
    ofDriver k driver c s =
      let course := ((driver c).run s.1).course k s.2
      ((course.result.1, course.calls.toArray), (course.result.2, course.state)) := by
  rw [ofDriver, Program.interpret_recorded_eq]
  simp

theorem turn_ofDriver (k : Surroundings I ω) (driver : Handler C (StateT σ (Program I)))
    (c : C.Call) (s : σ × ω) :
    (ofDriver k driver).turn c s =
      ⟨c, s, (((driver c).run s.1).course k s.2).result.1, (((driver c).run s.1).course k s.2).calls,
        ((((driver c).run s.1).course k s.2).result.2, (((driver c).run s.1).course k s.2).state)⟩ := by
  rw [turn, ofDriver_eq]

theorem runs_turn_ofDriver (k : Surroundings I ω) (driver : Handler C (StateT σ (Program I)))
    (c : C.Call) (s : σ × ω) :
    let turn := (ofDriver k driver).turn c s
    Program.Runs ((driver c).run s.1) turn.calls (turn.answer, turn.after.1) := by
  show Program.Runs _ (ofDriver k driver c s).1.2.toList
    ((ofDriver k driver c s).1.1, (ofDriver k driver c s).2.1)
  rw [ofDriver_eq]
  exact Program.runs_course _ _

/-- What holds of every single turn holds of all turns of a play. -/
theorem forall_turns {p : Performer C I S} {P : Turn C I S → Prop} (each : ∀ c s, P (p.turn c s))
    (cs : List C.Call) (s : S) : ∀ turn ∈ (p.play cs s).1, P turn := by
  induction cs generalizing s with
  | nil => exact List.forall_mem_nil _
  | cons c cs ih => exact List.forall_mem_cons.2 ⟨each c s, ih _⟩

/-- Each turn of a play is the turn of a command, in a state for which there holds what every command
keeps of the turns so far and the state. -/
theorem exists_turn {p : Performer C I S} {P : List (Turn C I S) → S → Prop}
    (step : ∀ history c s, P history s → P (history ++ [p.turn c s]) (p.turn c s).after)
    (cs : List C.Call) (history : List (Turn C I S)) {before later : List (Turn C I S)}
    {turn : Turn C I S} {s : S} (start : P history s) (h : (p.play cs s).1 = before ++ turn :: later) :
    ∃ c u, turn = p.turn c u ∧ P (history ++ before) u := by
  -- every command that is performed moves from the play to the history
  induction cs generalizing history before s with
  | nil =>
    have hne := List.append_ne_nil_of_right_ne_nil before (List.cons_ne_nil turn later)
    exact absurd h.symm hne
  | cons c cs ih =>
    cases before with
    | nil =>
      obtain ⟨rfl, -⟩ := List.cons.inj h
      rw [List.append_nil]
      exact ⟨c, s, rfl, start⟩
    | cons first before =>
      obtain ⟨rfl, hlater⟩ := List.cons.inj h
      rw [List.append_cons history]
      exact ih _ (step history c s start) hlater

/-- What every command keeps of the turns so far and the state holds after each turn of a play. -/
theorem play_induction {p : Performer C I S} {P : List (Turn C I S) → S → Prop}
    (step : ∀ history c s, P history s → P (history ++ [p.turn c s]) (p.turn c s).after)
    (cs : List C.Call) (history : List (Turn C I S)) {before later : List (Turn C I S)}
    {turn : Turn C I S} {s : S} (start : P history s) (h : (p.play cs s).1 = before ++ turn :: later) :
    P (history ++ before ++ [turn]) turn.after := by
  obtain ⟨c, u, rfl, hu⟩ := exists_turn step cs history start h
  exact step _ c u hu

/-- What every command keeps of the turns so far and the state holds at the end of a play. -/
theorem play_end {p : Performer C I S} {P : List (Turn C I S) → S → Prop}
    (step : ∀ history c s, P history s → P (history ++ [p.turn c s]) (p.turn c s).after)
    (cs : List C.Call) (history : List (Turn C I S)) {s : S} (start : P history s) :
    P (history ++ (p.play cs s).1) (p.play cs s).2 := by
  induction cs generalizing history s with
  | nil =>
    show P (history ++ []) s
    rw [List.append_nil]
    exact start
  | cons c cs ih =>
    show P (history ++ p.turn c s :: (p.play cs (p.turn c s).after).1) _
    rw [List.append_cons]
    exact ih _ (step history c s start)

/-- After a turn a play goes on from the state that the turn has left. -/
theorem play_later {p : Performer C I S} {cs : List C.Call} {s : S}
    {before later : List (Turn C I S)} {turn : Turn C I S} (h : (p.play cs s).1 = before ++ turn :: later) :
    ∃ cs', later = (p.play cs' turn.after).1 := by
  induction cs generalizing before s with
  | nil =>
    have hne := List.append_ne_nil_of_right_ne_nil before (List.cons_ne_nil turn later)
    exact absurd h.symm hne
  | cons c cs ih =>
    cases before with
    | nil =>
      obtain ⟨rfl, hlater⟩ := List.cons.inj h
      exact ⟨cs, hlater.symm⟩
    | cons first before =>
      obtain ⟨-, hlater⟩ := List.cons.inj h
      exact ih hlater

/-- What the turns before a turn keep, that turn finds as it was at the start. -/
theorem kept_before {p : Performer C I S} (part : S → κ) {cs : List C.Call} {s : S}
    {before later : List (Turn C I S)} {turn : Turn C I S}
    (h : (p.play cs s).1 = before ++ turn :: later)
    (hkept : ∀ x ∈ before, part x.after = part x.before) : part turn.before = part s := by
  induction cs generalizing before s with
  | nil =>
    have hne := List.append_ne_nil_of_right_ne_nil before (List.cons_ne_nil turn later)
    exact absurd h.symm hne
  | cons c cs ih =>
    cases before with
    | nil =>
      obtain ⟨rfl, -⟩ := List.cons.inj h
      rfl
    | cons first before =>
      obtain ⟨rfl, hlater⟩ := List.cons.inj h
      obtain ⟨hfirst, hothers⟩ := List.forall_mem_cons.1 hkept
      exact (ih hlater hothers).trans hfirst

/-- What the turns between two turns keep, the second finds as the first has left it. -/
theorem kept_between {p : Performer C I S} (part : S → κ) {cs : List C.Call} {s : S}
    {before between later : List (Turn C I S)} {first turn : Turn C I S}
    (h : (p.play cs s).1 = before ++ first :: (between ++ turn :: later))
    (hkept : ∀ x ∈ between, part x.after = part x.before) :
    part turn.before = part first.after := by
  obtain ⟨cs', hlater⟩ := play_later h
  exact kept_before part hlater.symm hkept

end Performer

end BoardSupport
