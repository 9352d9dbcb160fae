import BoardSupport.Proofs.ChipSupport.DebugOutput
import BoardSupport.Proofs.ChipSupport.Exchange
import BoardSupport.Proofs.ChipSupport.Frame

/-!
# Reports of failed calls

A driver that is built with messages writes one line for every failed call of the library, at once and
before it goes on.  A few lines have no failed call before them: what they say concerns the arguments
of a command, or that a wait has run out.  These are the *remarks* of the command.

- `Reported`: some calls are reported in this way, with the given remarks.
- `Reports`: built with messages, and whatever is answered, a computation reports its failures, and
  makes the remarks that go with its result.  `Plain` computations make none.  There is one rule for
  each way of building computations.
- `Reporting` and `Reporting.holds`: what the commands of a driver report, and what therefore gets to
  the sink in a run of the driver.
-/

namespace BoardSupport.ChipSupport

variable {L : Library} {C : Interface} {σ τ ε ε' α β : Type}

/-! ## Lines -/

/-- The line that a call reports. -/
def line? : Event L.interface → Option String
  | ⟨.debug (.line text), _⟩ => some text
  | _ => none

/-- The lines that are reported by some calls. -/
def lines (es : List (Event L.interface)) : List String := es.filterMap line?

/-- How many calls fail. -/
def failures (es : List (Event L.interface)) : Nat := es.countP fun e => !succeeded e

/-- The line has no end inside, so a sink that gets it gets one line. -/
def OneLine (line : String) : Prop := '\n' ∉ line.toList

theorem oneLine_ofList {cs : List Char} (h : cs.contains '\n' = false) :
    OneLine (String.ofList cs) := by
  rw [OneLine, String.toList_ofList]
  simpa using h

/-- The text of some lines, each with its end. -/
def written (lines : List String) : String := String.join (lines.map (· ++ "\n"))

theorem written_append (first later : List String) :
    written (first ++ later) = written first ++ written later := by
  rw [written, List.map_append, String.join_append]
  rfl

theorem lines_append (es₁ es₂ : List (Event L.interface)) :
    lines (es₁ ++ es₂) = lines es₁ ++ lines es₂ :=
  List.filterMap_append

/-! ## Failures with their reports -/

/-- A call after which there is nothing to report, and which leaves the console with a sink that keeps
what it gets. -/
def Uneventful : Event L.interface → Prop
  | ⟨.request _, reply⟩ => ∃ v, reply = .ok v
  | ⟨.access _, _⟩ | ⟨.leftover, _⟩ => True
  | ⟨.debug call, _⟩ => call = .attach .capture

/-- Each failed call is followed at once by one line that reports it, whatever the sink says to that;
the lines that follow no failed call are `remarks`. -/
inductive Reported : List (Event L.interface) → (remarks : List String) → Prop where
  | nil : Reported [] []
  | uneventful {e : Event L.interface} {es : List (Event L.interface)} {remarks : List String}
      (he : Uneventful e) (later : Reported es remarks) : Reported (e :: es) remarks
  | failure {r : L.Request} {e : Error} {line : String} {said : Except WriteError Unit}
      {es : List (Event L.interface)} {remarks : List String} (hline : OneLine line)
      (later : Reported es remarks) :
      Reported (⟨.request r, .error e⟩ :: ⟨.debug (.line line), said⟩ :: es) remarks
  | remark {line : String} {said : Except WriteError Unit} {es : List (Event L.interface)}
      {remarks : List String} (hline : OneLine line) (later : Reported es remarks) :
      Reported (⟨.debug (.line line), said⟩ :: es) (line :: remarks)

theorem Uneventful.succeeded {e : Event L.interface} (he : Uneventful e) : succeeded e = true := by
  obtain ⟨r | a | _ | call, reply⟩ := e
  · obtain ⟨v, rfl⟩ := he
    rfl
  · rfl
  · rfl
  · rfl

theorem Uneventful.line? {e : Event L.interface} (he : Uneventful e) : line? e = none := by
  obtain ⟨r | a | _ | call, reply⟩ := e
  · rfl
  · rfl
  · rfl
  · obtain rfl : call = .attach .capture := he
    rfl

/-- The call leaves the console with a sink that keeps what it gets. -/
def KeepsSink : L.Call → Prop
  | .debug (.attach sink) => sink = .capture
  | _ => True

theorem Uneventful.keepsSink {e : Event L.interface} (he : Uneventful e) : KeepsSink e.call := by
  obtain ⟨r | a | _ | call, reply⟩ := e
  · trivial
  · trivial
  · trivial
  · obtain rfl : call = .attach .capture := he
    rfl

namespace Reported

variable {es es₁ es₂ : List (Event L.interface)} {remarks remarks₁ remarks₂ : List String}

theorem append (h₁ : Reported es₁ remarks₁) (h₂ : Reported es₂ remarks₂) :
    Reported (es₁ ++ es₂) (remarks₁ ++ remarks₂) := by
  induction h₁ with
  | nil => exact h₂
  | uneventful he _ ih => exact .uneventful he ih
  | failure hline _ ih => exact .failure hline ih
  | remark hline _ ih => exact .remark hline ih

/-- There is one line for each failure, and one for each remark. -/
theorem length_lines (h : Reported es remarks) :
    (lines es).length = failures es + remarks.length := by
  induction h with
  | nil => rfl
  | uneventful he _ ih =>
    rw [lines, List.filterMap_cons_none he.line?, failures, List.countP_cons_of_neg]
    · exact ih
    · rw [he.succeeded]
      exact Bool.false_ne_true
  | @failure r e line said es remarks _ _ ih =>
    have hfailures : failures (⟨.request r, .error e⟩ :: ⟨.debug (.line line), said⟩ :: es) =
        failures es + 1 := by
      rw [failures, List.countP_cons_of_pos rfl, List.countP_cons_of_neg Bool.false_ne_true, failures]
    rw [hfailures]
    show (lines es).length + 1 = failures es + 1 + remarks.length
    omega
  | @remark line said es remarks _ _ ih =>
    have hfailures : failures (⟨.debug (.line line), said⟩ :: es) = failures es := by
      rw [failures, List.countP_cons_of_neg Bool.false_ne_true, failures]
    rw [hfailures]
    show (lines es).length + 1 = failures es + (remarks.length + 1)
    omega

theorem oneLine (h : Reported es remarks) : ∀ line ∈ lines es, OneLine line := by
  induction h with
  | nil => exact List.forall_mem_nil _
  | uneventful he _ ih =>
    rw [lines, List.filterMap_cons_none he.line?]
    exact ih
  | failure hline _ ih => exact List.forall_mem_cons.2 ⟨hline, ih⟩
  | remark hline _ ih => exact List.forall_mem_cons.2 ⟨hline, ih⟩

theorem keepsSink (h : Reported es remarks) : ∀ e ∈ es, KeepsSink e.call := by
  induction h with
  | nil => exact List.forall_mem_nil _
  | uneventful he _ ih => exact List.forall_mem_cons.2 ⟨he.keepsSink, ih⟩
  | failure _ _ ih => exact List.forall_mem_cons.2 ⟨trivial, List.forall_mem_cons.2 ⟨trivial, ih⟩⟩
  | remark _ _ ih => exact List.forall_mem_cons.2 ⟨trivial, ih⟩

end Reported

/-! ## Computations that report their failures -/

/-- If it is built with messages, the computation reports its failures, whatever is answered, and makes
the remarks that go with its result. -/
def Reports [Build] (told : α → List String) (x : StateT σ L.Task α) : Prop :=
  Build.debugMessages = true →
    ∀ s es a t, Program.Runs (x.run s) es (a, t) → Reported es (told a)

/-- The computation reports its failures and makes no remarks. -/
abbrev Plain [Build] (x : StateT σ L.Task α) : Prop := Reports (fun _ => []) x

section Rules

variable [Build] {told : α → List String} {told' : β → List String} {x : StateT σ L.Task α}
  {f : α → StateT σ L.Task β}

theorem Reports.pure {a : α} (ha : told a = []) : Reports told (pure a : StateT σ L.Task α) := by
  intro _ s es b t h
  obtain ⟨rfl, rfl, -⟩ := runs_end_iff.1 h
  rw [ha]
  exact .nil

theorem Reports.bind (hx : Plain x) (hf : ∀ a, Reports told' (f a)) : Reports told' (x >>= f) := by
  intro hbuild s es b t h
  obtain ⟨es₁, a, u, es₂, rfl, h₁, h₂⟩ := runs_run_bind_iff.1 h
  exact (hx hbuild s es₁ a u h₁).append (hf a hbuild u es₂ b t h₂)

/-- What is made of the result afterwards goes with the same remarks. -/
theorem Reports.map {g : α → β} (hx : Reports told x) (hg : ∀ a, told' (g a) = told a) :
    Reports told' (x >>= fun a => Pure.pure (g a)) := by
  intro hbuild s es b t h
  obtain ⟨es₁, a, u, es₂, rfl, h₁, h₂⟩ := runs_run_bind_iff.1 h
  obtain ⟨rfl, rfl, -⟩ := runs_end_iff.1 h₂
  rw [List.append_nil, hg]
  exact hx hbuild s es₁ a u h₁

/-- A call that is never a failure and never reported. -/
theorem plain_send {c : L.interface.Call} (hc : ∀ reply, Uneventful ⟨c, reply⟩) :
    Plain (StateT.lift (.send (I := L.interface) c) : StateT σ L.Task (L.interface.Reply c)) := by
  intro _ s es a t h
  obtain ⟨reply, later, rfl, hend⟩ := Program.runs_call_iff.1 h
  obtain ⟨rfl, -, -⟩ := runs_end_iff.1 hend
  exact .uneventful (hc reply) .nil

theorem plain_access (a : L.Access) :
    Plain (StateT.lift (access a) : StateT σ L.Task (L.Answer a)) :=
  plain_send fun _ => trivial

theorem plain_leftover : Plain (StateT.lift leftover : StateT σ L.Task (List UInt16)) :=
  plain_send fun _ => trivial

theorem plain_modify (g : σ → σ) : Plain (modify g : StateT σ L.Task PUnit) := by
  intro _ s es a t h
  obtain ⟨rfl, -, -⟩ := runs_end_iff.1 h
  exact .nil

/-- A driver that is made anew around a sink which keeps what it gets. -/
theorem plain_attach {sink : Sink} (hsink : sink = .capture) (g : σ → σ) :
    Plain (do StateT.lift (debug (.attach sink)); modify g : StateT σ L.Task PUnit) := by
  rw [hsink]
  exact Reports.bind (plain_send fun _ => rfl) fun _ => plain_modify g

end Rules

namespace Action

/-- The remarks that go with an error; success goes without. -/
def toldOf (remarks : ε → List String) : Except ε α → List String
  | .ok _ => []
  | .error e => remarks e

variable [Build] {remarks : ε → List String} {x : Action L σ ε α} {f : α → Action L σ ε β}

theorem reports_bind (hx : Reports (toldOf remarks) x.run)
    (hf : ∀ a, Reports (toldOf remarks) (f a).run) : Reports (toldOf remarks) (x >>= f).run := by
  intro hbuild s es r t h
  obtain ⟨es₁, a, u, es₂, rfl, h₁, h₂⟩ | ⟨e, rfl, h₁⟩ := runs_bind_iff.1 h
  · exact (hx hbuild s es₁ _ u h₁).append (hf a hbuild u es₂ r t h₂)
  · exact hx hbuild s es _ t h₁

theorem plain_bind (hx : Plain x.run) (hf : ∀ a, Plain (f a).run) : Plain (x >>= f).run := by
  rw [run_bind]
  refine Reports.bind hx fun r => ?_
  cases r with
  | ok a => exact hf a
  | error e => exact .pure rfl

theorem reports_adapt {g : ε' → ε} {y : Action L σ ε' α} (hy : Plain y.run)
    (hg : ∀ e, remarks (g e) = []) : Reports (toldOf remarks) (y.adapt g).run := by
  intro hbuild s es r t h
  obtain ⟨r', hrun, rfl⟩ := runs_adapt_iff.1 h
  have htold : toldOf remarks (r'.mapError g) = [] := by
    cases r' with
    | ok a => rfl
    | error e => exact hg e
  rw [htold]
  exact hy hbuild s es r' t hrun

theorem plain_adapt {g : ε' → ε} {y : Action L σ ε' α} (hy : Plain y.run) :
    Plain (y.adapt g).run := by
  intro hbuild s es r t h
  obtain ⟨r', hrun, -⟩ := runs_adapt_iff.1 h
  exact hy hbuild s es r' t hrun

theorem plain_get : Plain (get : Action L σ ε σ).run := by
  intro _ s es r t h
  obtain ⟨rfl, -, -⟩ := runs_get_iff.1 h
  exact .nil

theorem plain_modify (g : σ → σ) : Plain (modify g : Action L σ ε PUnit).run := by
  intro _ s es r t h
  obtain ⟨rfl, -, -⟩ := runs_modify_iff.1 h
  exact .nil

theorem plain_attempt {line : String} (hline : OneLine line) (r : L.Request) :
    Plain (attempt line r : Action L σ Error (L.Value r)).run := by
  intro hbuild s es result t h
  obtain ⟨⟨said, rfl⟩, -⟩ := runs_attempt_iff.1 h
  cases result with
  | ok v => exact .uneventful ⟨v, rfl⟩ .nil
  | error e =>
    rw [attemptCalls, messageCalls_of_messages hbuild]
    exact .failure hline .nil

theorem reports_report {line : String} (hline : OneLine line) (e : ε) :
    Reports (fun _ => [line]) (report line e : Action L σ ε α).run := by
  intro hbuild s es r t h
  obtain ⟨⟨said, rfl⟩, -, -⟩ := runs_report_iff.1 h
  rw [messageCalls_of_messages hbuild]
  exact .remark hline .nil

theorem plain_thenAlways {after : StateT σ L.Task Unit} (hx : Plain x.run) (hafter : Plain after) :
    Plain (thenAlways x after).run :=
  Reports.bind hx fun _ => Reports.bind hafter fun _ => .pure rfl

theorem plain_regardless (hx : Plain x.run) : Plain (regardless x) := by
  intro hbuild s es a t h
  obtain ⟨r, hr⟩ := runs_regardless_iff.1 h
  exact hx hbuild s es r t hr

end Action

/-! ## What gets to the sink -/

/-- What is written to the console is kept. -/
def Console.Keeps (k : Console) : Prop := k.sink = .capture

theorem Console.hear_of_keeps {k : Console} (hk : k.Keeps) {e : Event L.interface}
    (he : KeepsSink e.call) : k.hear e.call = { k with text := k.text ++ written (lines [e]) } := by
  obtain ⟨sink, text⟩ := k
  obtain rfl : sink = .capture := hk
  have hnothing : (text ++ written []) = text := String.append_empty
  obtain ⟨r | a | _ | line | sink, reply⟩ := e
  · exact congrArg (Console.mk .capture) hnothing.symm
  · exact congrArg (Console.mk .capture) hnothing.symm
  · exact congrArg (Console.mk .capture) hnothing.symm
  · show Console.mk .capture (text ++ line ++ "\n") =
      ⟨.capture, text ++ String.join [line ++ "\n"]⟩
    rw [String.append_assoc, String.join_cons, String.join_nil, String.append_empty]
  · obtain rfl : sink = .capture := he
    exact congrArg (Console.mk .capture) hnothing.symm

/-- A sink that keeps what it gets has all lines in the end. -/
theorem Console.hear_all {k : Console} (hk : k.Keeps) {es : List (Event L.interface)}
    (hes : ∀ e ∈ es, KeepsSink e.call) :
    (es.map Event.call).foldl Console.hear k = { k with text := k.text ++ written (lines es) } := by
  induction es generalizing k with
  | nil =>
    have hnothing : k.text ++ written [] = k.text := String.append_empty
    show k = { k with text := k.text ++ written [] }
    rw [hnothing]
  | cons e es ih =>
    obtain ⟨he, hlater⟩ := List.forall_mem_cons.1 hes
    have hlines : lines (e :: es) = lines [e] ++ lines es := lines_append [e] es
    have hkeeps : Keeps { k with text := k.text ++ written (lines [e]) } := hk
    rw [List.map_cons, List.foldl_cons, Console.hear_of_keeps hk he, ih hkeeps hlater, hlines,
      written_append, ← String.append_assoc]

/-! ## Drivers -/

/-- What the commands of a driver report. -/
structure Reporting (C : Interface) where
  /-- The remarks that a command makes if it has a given answer. -/
  remarks : (c : C.Call) → C.Reply c → List String
  /-- The command reports nothing at all, not even calls that fail. -/
  silent : C.Call → Bool := fun _ => false
  /-- The command leaves the console with a sink that keeps what it gets. -/
  keepsSink : C.Call → Bool

/-- In a turn of a driver everything is reported that should be, and it gets to the sink. -/
structure Reporting.Told (p : Reporting C) (turn : Turn C L.interface (Session σ τ)) : Prop where
  reported : p.silent turn.command = false →
    Reported turn.calls (p.remarks turn.command turn.answer) ∧
      (lines turn.calls).length =
        failures turn.calls + (p.remarks turn.command turn.answer).length
  silent : p.silent turn.command = true → lines turn.calls = []
  oneLine : ∀ line ∈ lines turn.calls, OneLine line
  text : turn.after.console.text = turn.before.console.text ++ written (lines turn.calls)

/-- In runs of a driver that begin with a console that keeps what it gets, and do not redirect it to a
sink that would not, all is told turn by turn, and in the end the sink has all lines of the run in their
order. -/
def Reporting.Holds (p : Reporting C) (d : Device L τ) (driver : Handler C (StateT σ L.Task)) : Prop :=
  ∀ (cs : List C.Call) (s : Session σ τ), s.console.Keeps → (∀ c ∈ cs, p.keepsSink c = true) →
    let play := (Session.performer d driver).play cs s
    (∀ turn ∈ play.1, p.Told turn) ∧
      play.2.console.text = s.console.text ++ written (lines (Turn.log play.1))

/-- The call is none of the console. -/
def NotDebug : L.Call → Prop
  | .debug _ => False
  | _ => True

/-- A computation that has nothing to do with the console. -/
abbrev Mute (x : StateT σ L.Task α) : Prop := Leaves NotDebug (fun _ => ()) x

theorem lines_of_mute {es : List (Event L.interface)} (hes : ∀ e ∈ es, NotDebug e.call) :
    lines es = [] := by
  refine List.filterMap_eq_nil_iff.2 fun e he => ?_
  have hnot := hes e he
  obtain ⟨r | a | _ | call, reply⟩ := e
  · rfl
  · rfl
  · rfl
  · exact hnot.elim

theorem keepsSink_of_notDebug {c : L.Call} (hc : NotDebug c) : KeepsSink c := by
  cases c with
  | debug call => exact hc.elim
  | _ => trivial

section Turns

variable [Build] (hbuild : Build.debugMessages = true) {p : Reporting C}
  {driver : Handler C (StateT σ L.Task)}
  (hreports : ∀ c, p.keepsSink c = true → p.silent c = false → Reports (p.remarks c) (driver c))
  (hmute : ∀ c, p.silent c = true → Mute (driver c))
include hbuild hreports hmute

theorem Reporting.told_turn (d : Device L τ) {c : C.Call} (hc : p.keepsSink c = true)
    {s : Session σ τ} (hs : s.console.Keeps) :
    let turn := (Session.performer d driver).turn c s
    p.Told turn ∧ turn.after.console =
      { s.console with text := s.console.text ++ written (lines turn.calls) } := by
  intro turn
  have hrun := Session.runs_turn d driver c s
  have hconsole : turn.after.console = (turn.calls.map Event.call).foldl Console.hear s.console :=
    (Session.driven d driver).console_after d.hear_handler c s
  have hreported : p.silent c = false → Reported turn.calls (p.remarks c turn.answer) :=
    fun hsilent => hreports c hc hsilent hbuild _ _ _ _ hrun
  have hmuted : p.silent c = true → ∀ e ∈ turn.calls, NotDebug e.call :=
    fun hsilent => (hmute c hsilent _ _ _ _ hrun).1
  -- a silent command has nothing to do with the console, and every other one reports
  rw [Bool.eq_false_iff] at hreported
  have hkeeps : ∀ e ∈ turn.calls, KeepsSink e.call := by
    intro e he
    by_cases hsilent : p.silent c = true
    · exact keepsSink_of_notDebug (hmuted hsilent e he)
    · exact (hreported hsilent).keepsSink e he
  have hlines : ∀ line ∈ lines turn.calls, OneLine line := by
    by_cases hsilent : p.silent c = true
    · rw [lines_of_mute (hmuted hsilent)]
      exact List.forall_mem_nil _
    · exact (hreported hsilent).oneLine
  rw [Console.hear_all hs hkeeps] at hconsole
  refine ⟨⟨fun hsilent => ?_, fun hsilent => lines_of_mute (hmuted hsilent), hlines, ?_⟩, hconsole⟩
  · have htold := hreported (Bool.eq_false_iff.1 hsilent)
    exact ⟨htold, htold.length_lines⟩
  · rw [hconsole]
    rfl

theorem Reporting.holds (d : Device L τ) : p.Holds d driver := by
  intro cs s hs hcs
  induction cs generalizing s with
  | nil => exact ⟨List.forall_mem_nil _, String.append_empty.symm⟩
  | cons c cs ih =>
    obtain ⟨hc, hlater⟩ := List.forall_mem_cons.1 hcs
    obtain ⟨htold, hconsole⟩ := Reporting.told_turn hbuild hreports hmute d hc hs
    have hkeeps : ((Session.performer d driver).turn c s).after.console.Keeps := by
      rw [hconsole]
      exact hs
    obtain ⟨hturns, htext⟩ := ih _ hkeeps hlater
    refine ⟨List.forall_mem_cons.2 ⟨htold, hturns⟩, ?_⟩
    have hlog : Turn.log ((Session.performer d driver).play (c :: cs) s).1 =
        ((Session.performer d driver).turn c s).calls ++
          Turn.log ((Session.performer d driver).play cs
            ((Session.performer d driver).turn c s).after).1 := rfl
    rw [hlog, lines_append, written_append, ← String.append_assoc]
    refine htext.trans ?_
    rw [hconsole]

end Turns

end BoardSupport.ChipSupport
