import BoardSupport.ChipSupport.Action

/-!
# The library by its raw statuses

The chip support library answers every call that may fail with a 16-bit status, and a driver gets to
see the result that `check` makes of it.  Here a run is told by the statuses themselves.

- `LibraryCall`: a call of the library with what came back; looks into buffers and lines for the
  console are left out.
- `RawLibrary`: any library at all, as a state machine that answers with statuses.
- `Calls`: what a program can call, whatever statuses come back, with one iff for each way in which
  programs are built.
- `RawLibrary.calls_perform`: a run on any library is one of these.
-/

namespace BoardSupport.ChipSupport

variable {L : Library} {σ α β τ : Type}

/-- A call of the library that was made, with what came back. -/
inductive LibraryCall (L : Library) where
  /-- A call that may fail: its status, and the value that counts if the status is success. -/
  | request (r : L.Request) (code : Int16) (value : L.Value r)
  /-- A call that cannot fail. -/
  | access (a : L.Access) (answer : L.Answer a)

/-- The status of a call; one that cannot fail has always succeeded. -/
def LibraryCall.status : LibraryCall L → Int16
  | request _ code _ => code
  | access _ _ => success

/-- What a driver gets to see of a status and a value. -/
def reply (code : Int16) (value : α) : Except Error α := (check code).map fun _ => value

theorem reply_success (value : α) : reply success value = .ok value := rfl

theorem reply_eq_ok_iff {code : Int16} {value seen : α} :
    reply code value = .ok seen ↔ code = success ∧ value = seen := by
  constructor
  · intro h
    have hcode : code = success := by
      rw [reply, check] at h
      cases hread : Error.ofCode? code with
      | none => exact Error.ofCode?_eq_none_iff.1 hread
      | some e =>
        rw [hread] at h
        cases h
    rw [hcode, reply_success] at h
    exact ⟨hcode, Except.ok.inj h⟩
  · rintro ⟨rfl, rfl⟩
    exact reply_success value

/-- A status other than success is an error that has it as its code. -/
theorem reply_failure {code : Int16} (h : code ≠ success) (value : α) :
    ∃ e : Error, reply code value = .error e ∧ e.code = code := by
  cases hread : Error.ofCode? code with
  | none => exact absurd (Error.ofCode?_eq_none_iff.1 hread) h
  | some e =>
    refine ⟨e, ?_, Error.code_of_ofCode? hread⟩
    rw [reply, check, hread]
    rfl

/-! ## Any library -/

/-- A library, by how it answers in each of its states. -/
structure RawLibrary (L : Library) (τ : Type) where
  /-- The status and the value of a call that may fail. -/
  request : (r : L.Request) → StateM τ (Int16 × L.Value r)
  /-- The answer to a call that cannot fail. -/
  access : (a : L.Access) → StateM τ (L.Answer a)
  /-- The words that the last call that failed has stored before it did. -/
  leftover : StateM τ (List UInt16)
  /-- What the console says to a call. -/
  console : (d : DebugCall) → StateM τ d.Reply

namespace RawLibrary

/-- Answers a driver's calls, and notes down those of the library. -/
def handler (lib : RawLibrary L τ) :
    Handler L.interface (StateT (List (LibraryCall L)) (StateM τ))
  | .request r => fun noted t =>
    let ((code, value), t') := lib.request r t
    ((reply code value, noted ++ [.request r code value]), t')
  | .access a => fun noted t =>
    let (answer, t') := lib.access a t
    ((answer, noted ++ [.access a answer]), t')
  | .leftover => fun noted t =>
    let (stored, t') := lib.leftover t
    ((stored, noted), t')
  | .debug d => fun noted t =>
    let (said, t') := lib.console d t
    ((said, noted), t')

/-- Runs a program on the library from one of its states: the result, and the calls it makes. -/
def perform (lib : RawLibrary L τ) (t : τ) (p : L.Task α) : α × List (LibraryCall L) :=
  ((p.interpret lib.handler).run [] |>.run t).1

end RawLibrary

/-! ## Any calls -/

/-- The program makes these calls of the library, if it gets what came back with them, and ends in a
result. -/
inductive Calls : L.Task α → List (LibraryCall L) → α → Prop
  /-- A program that has ended makes no calls. -/
  | done (a : α) : Calls (.done a) [] a
  /-- The program goes on with what it gets to see of a status. -/
  | request {r : L.Request} {next : Except Error (L.Value r) → L.Task α} {cs : List (LibraryCall L)}
      {a : α} (code : Int16) (value : L.Value r) (later : Calls (next (reply code value)) cs a) :
      Calls (.call (I := L.interface) (.request r) next) (.request r code value :: cs) a
  /-- The program goes on with an answer. -/
  | access {b : L.Access} {next : L.Answer b → L.Task α} {cs : List (LibraryCall L)} {a : α}
      (answer : L.Answer b) (later : Calls (next answer) cs a) :
      Calls (.call (I := L.interface) (.access b) next) (.access b answer :: cs) a
  /-- A look into a buffer is no call of the library. -/
  | leftover {next : List UInt16 → L.Task α} {cs : List (LibraryCall L)} {a : α}
      (stored : List UInt16) (later : Calls (next stored) cs a) :
      Calls (.call (I := L.interface) .leftover next) cs a
  /-- The console is no part of the library. -/
  | debug {d : DebugCall} {next : d.Reply → L.Task α} {cs : List (LibraryCall L)} {a : α}
      (said : d.Reply) (later : Calls (next said) cs a) :
      Calls (.call (I := L.interface) (.debug d) next) cs a

section Inversion

variable {cs : List (LibraryCall L)} {a : α} {b : β}

@[simp] theorem calls_done_iff {a' : α} :
    Calls (.done a' : L.Task α) cs a ↔ cs = [] ∧ a = a' := by
  constructor
  · rintro ⟨⟩
    exact ⟨rfl, rfl⟩
  · rintro ⟨rfl, rfl⟩
    exact .done a

theorem calls_end_iff {a' : α} {s t : σ} :
    Calls (.done (a', s) : L.Task (α × σ)) cs (a, t) ↔ cs = [] ∧ a = a' ∧ t = s := by
  rw [calls_done_iff, Prod.mk.injEq]

theorem calls_request_iff {r : L.Request} {next : Except Error (L.Value r) → L.Task α} :
    Calls (.call (I := L.interface) (.request r) next) cs a ↔ ∃ code value cs',
      cs = .request r code value :: cs' ∧ Calls (next (reply code value)) cs' a := by
  constructor
  · rintro ⟨⟩
    exact ⟨_, _, _, rfl, ‹_›⟩
  · rintro ⟨code, value, cs', rfl, h⟩
    exact .request code value h

theorem calls_access_iff {c : L.Access} {next : L.Answer c → L.Task α} :
    Calls (.call (I := L.interface) (.access c) next) cs a ↔
      ∃ answer cs', cs = .access c answer :: cs' ∧ Calls (next answer) cs' a := by
  constructor
  · rintro ⟨⟩
    exact ⟨_, _, rfl, ‹_›⟩
  · rintro ⟨answer, cs', rfl, h⟩
    exact .access answer h

theorem calls_leftover_iff {next : List UInt16 → L.Task α} :
    Calls (.call (I := L.interface) .leftover next) cs a ↔ ∃ stored, Calls (next stored) cs a := by
  constructor
  · rintro ⟨⟩
    exact ⟨_, ‹_›⟩
  · rintro ⟨stored, h⟩
    exact .leftover stored h

theorem calls_debug_iff {d : DebugCall} {next : d.Reply → L.Task α} :
    Calls (.call (I := L.interface) (.debug d) next) cs a ↔ ∃ said, Calls (next said) cs a := by
  constructor
  · rintro ⟨⟩
    exact ⟨_, ‹_›⟩
  · rintro ⟨said, h⟩
    exact .debug said h

theorem calls_bind_iff {p : L.Task α} {f : α → L.Task β} :
    Calls (p >>= f) cs b ↔
      ∃ cs₁ a cs₂, cs = cs₁ ++ cs₂ ∧ Calls p cs₁ a ∧ Calls (f a) cs₂ b := by
  induction p generalizing cs with
  | done a =>
    constructor
    · intro h
      exact ⟨[], a, cs, rfl, .done a, h⟩
    · rintro ⟨_, _, cs₂, rfl, ⟨⟩, h⟩
      exact h
  | call c next ih =>
    rw [Program.call_bind]
    cases c with
    | request r =>
      constructor
      · intro h
        obtain ⟨code, value, _, rfl, later⟩ := calls_request_iff.1 h
        obtain ⟨cs₁, a, cs₂, rfl, h₁, h₂⟩ := (ih _).1 later
        exact ⟨_ :: cs₁, a, cs₂, rfl, .request code value h₁, h₂⟩
      · rintro ⟨_, a, cs₂, rfl, h₁, h₂⟩
        obtain ⟨code, value, cs₁, rfl, later⟩ := calls_request_iff.1 h₁
        exact .request code value ((ih _).2 ⟨cs₁, a, cs₂, rfl, later, h₂⟩)
    | access d =>
      constructor
      · intro h
        obtain ⟨answer, _, rfl, later⟩ := calls_access_iff.1 h
        obtain ⟨cs₁, a, cs₂, rfl, h₁, h₂⟩ := (ih _).1 later
        exact ⟨_ :: cs₁, a, cs₂, rfl, .access answer h₁, h₂⟩
      · rintro ⟨_, a, cs₂, rfl, h₁, h₂⟩
        obtain ⟨answer, cs₁, rfl, later⟩ := calls_access_iff.1 h₁
        exact .access answer ((ih _).2 ⟨cs₁, a, cs₂, rfl, later, h₂⟩)
    | leftover =>
      constructor
      · intro h
        obtain ⟨stored, later⟩ := calls_leftover_iff.1 h
        obtain ⟨cs₁, a, cs₂, rfl, h₁, h₂⟩ := (ih stored).1 later
        exact ⟨cs₁, a, cs₂, rfl, .leftover stored h₁, h₂⟩
      · rintro ⟨cs₁, a, cs₂, rfl, h₁, h₂⟩
        obtain ⟨stored, later⟩ := calls_leftover_iff.1 h₁
        exact .leftover stored ((ih stored).2 ⟨cs₁, a, cs₂, rfl, later, h₂⟩)
    | debug d =>
      constructor
      · intro h
        obtain ⟨said, later⟩ := calls_debug_iff.1 h
        obtain ⟨cs₁, a, cs₂, rfl, h₁, h₂⟩ := (ih said).1 later
        exact ⟨cs₁, a, cs₂, rfl, .debug said h₁, h₂⟩
      · rintro ⟨cs₁, a, cs₂, rfl, h₁, h₂⟩
        obtain ⟨said, later⟩ := calls_debug_iff.1 h₁
        exact .debug said ((ih said).2 ⟨cs₁, a, cs₂, rfl, later, h₂⟩)

theorem calls_run_bind_iff {x : StateT σ L.Task α} {f : α → StateT σ L.Task β} {s t : σ} :
    Calls ((x >>= f).run s) cs (b, t) ↔ ∃ cs₁ a u cs₂, cs = cs₁ ++ cs₂ ∧
      Calls (x.run s) cs₁ (a, u) ∧ Calls ((f a).run u) cs₂ (b, t) := by
  rw [StateT.run_bind, calls_bind_iff]
  constructor
  · rintro ⟨cs₁, ⟨a, u⟩, cs₂, hcs, h₁, h₂⟩
    exact ⟨cs₁, a, u, cs₂, hcs, h₁, h₂⟩
  · rintro ⟨cs₁, a, u, cs₂, hcs, h₁, h₂⟩
    exact ⟨cs₁, (a, u), cs₂, hcs, h₁, h₂⟩

/-- A message is no call of the library, whether it is written or not. -/
theorem calls_debugMessage_bind_iff [Build] {line : String} {f : Unit → L.Task α} :
    Calls (debugMessage line >>= f) cs a ↔ Calls (f ()) cs a := by
  unfold debugMessage
  cases Build.debugMessages with
  | false => exact Iff.rfl
  | true => exact calls_debug_iff.trans ⟨fun ⟨_, h⟩ => h, fun h => ⟨.ok (), h⟩⟩

end Inversion

/-- A run on any library is one of the runs that there can be. -/
theorem RawLibrary.calls_perform (lib : RawLibrary L τ) (t : τ) (p : L.Task α) :
    Calls p (lib.perform t p).2 (lib.perform t p).1 := by
  have noted : ∀ (p : L.Task α) (trace : List (LibraryCall L)) (t : τ), ∃ cs,
      (((p.interpret lib.handler).run trace).run t).1.2 = trace ++ cs ∧
        Calls p cs (((p.interpret lib.handler).run trace).run t).1.1 := by
    intro p
    induction p with
    | done a =>
      intro trace t
      exact ⟨[], (List.append_nil trace).symm, .done a⟩
    | call c next ih =>
      intro trace t
      cases c with
      | request r =>
        obtain ⟨cs, hcs, h⟩ := ih (reply (lib.request r t).1.1 (lib.request r t).1.2)
          (trace ++ [.request r (lib.request r t).1.1 (lib.request r t).1.2]) (lib.request r t).2
        refine ⟨_ :: cs, ?_, .request _ _ h⟩
        rw [List.append_cons]
        exact hcs
      | access d =>
        obtain ⟨cs, hcs, h⟩ := ih (lib.access d t).1 (trace ++ [.access d (lib.access d t).1])
          (lib.access d t).2
        refine ⟨_ :: cs, ?_, .access _ h⟩
        rw [List.append_cons]
        exact hcs
      | leftover =>
        obtain ⟨cs, hcs, h⟩ := ih (lib.leftover t).1 trace (lib.leftover t).2
        exact ⟨cs, hcs, .leftover _ h⟩
      | debug d =>
        obtain ⟨cs, hcs, h⟩ := ih (lib.console d t).1 trace (lib.console d t).2
        exact ⟨cs, hcs, .debug _ h⟩
  obtain ⟨cs, hcs, h⟩ := noted p [] t
  rw [List.nil_append] at hcs
  rw [← hcs] at h
  exact h

end BoardSupport.ChipSupport
