import BoardSupport.Program.Basic

/-!
# Handlers: who answers the calls

A handler answers each call of an interface in some monad; `Program.interpret` runs a program
against it.  A driver is itself a handler, of its own operations, into programs over the hardware
it uses, and so are the backends that turn register accesses into bus accesses.

- `Handler I m` and `Program.interpret`: answering one call, and a whole program.
- `Handler.recorded`, `Handler.observed`: the same answers, with every call written down.
- `Interface.sum`: two interfaces side by side.
- `Program.interpret_bind`, `Program.interpret_interpret`: a composition is answered part by part,
  and answering in two stages is answering once by the composite handler.
- `Program.interpret_recorded`: writing calls down changes no answer.
-/

namespace BoardSupport

/-- Answers every call of `I` with an effect of `m`. -/
abbrev Handler (I : Interface) (m : Type → Type) : Type := (c : I.Call) → m (I.Reply c)

/-- Runs a program, leaving each call to the handler. -/
def Program.interpret {I : Interface} {m : Type → Type} [Monad m] {α : Type} (h : Handler I m) :
    Program I α → m α
  | .done a => pure a
  | .call c next => h c >>= fun r => (next r).interpret h

/-- A call that was made, with the reply it got. -/
structure Event (I : Interface) where
  /-- The call. -/
  call : I.Call
  /-- Its reply. -/
  reply : I.Reply call

/-- A list of calls in the order in which they were made. -/
abbrev Trace (I : Interface) : Type := Array (Event I)

/-- Answers like `h` and appends every call, once answered, to a trace. -/
def Handler.recorded {I : Interface} {m : Type → Type} [Monad m] (h : Handler I m) :
    Handler I (StateT (Trace I) m) := fun c => do
  let r ← h c
  modify (·.push ⟨c, r⟩)
  pure r

/-- Answers like `h` and appends every call, once answered, to a trace, together with what
`observe` finds just before the call is made. -/
def Handler.observed {I : Interface} {m : Type → Type} {ω : Type} [Monad m] (h : Handler I m)
    (observe : m ω) : Handler I (StateT (Array (Event I × ω)) m) := fun c => do
  let seen ← observe
  let r ← h c
  modify (·.push (⟨c, r⟩, seen))
  pure r

namespace Interface

/-- Two interfaces side by side: a call is a call of either. -/
def sum (I J : Interface) : Interface where
  Call := I.Call ⊕ J.Call
  Reply
    | .inl c => I.Reply c
    | .inr c => J.Reply c

end Interface

/-- Answers the calls of two interfaces, each by its own handler. -/
def Handler.sum {I J : Interface} {m : Type → Type} (h : Handler I m) (k : Handler J m) :
    Handler (I.sum J) m
  | .inl c => h c
  | .inr c => k c

/-- The program with each of its calls passed on to the left of two interfaces. -/
def Program.left {I J : Interface} {α : Type} (p : Program I α) : Program (I.sum J) α :=
  p.interpret fun c => .send (I := I.sum J) (.inl c)

/-- The program with each of its calls passed on to the right of two interfaces. -/
def Program.right {I J : Interface} {α : Type} (p : Program J α) : Program (I.sum J) α :=
  p.interpret fun c => .send (I := I.sum J) (.inr c)

/-! ## Laws of interpretation -/

namespace Program

variable {I J : Interface} {m : Type → Type} [Monad m] {α β : Type}

@[simp] theorem interpret_done (h : Handler I m) (a : α) :
    (done a : Program I α).interpret h = pure a := rfl

@[simp] theorem interpret_call (h : Handler I m) (c : I.Call) (next : I.Reply c → Program I α) :
    (call c next).interpret h = h c >>= fun r => (next r).interpret h := rfl

variable [LawfulMonad m]

@[simp] theorem interpret_send (h : Handler I m) (c : I.Call) : (send c).interpret h = h c := by
  simp [send]

theorem interpret_bind (h : Handler I m) (p : Program I α) (f : α → Program I β) :
    (p >>= f).interpret h = p.interpret h >>= fun a => (f a).interpret h := by
  induction p with
  | done a => simp
  | call c next ih => simp [ih]

theorem interpret_interpret (h : Handler I (Program J)) (k : Handler J m) (p : Program I α) :
    (p.interpret h).interpret k = p.interpret fun c => (h c).interpret k := by
  induction p with
  | done a => rfl
  | call c next ih => simp [interpret_bind, ih]

theorem interpret_recorded (h : Handler I m) (p : Program I α) (t : Trace I) :
    Prod.fst <$> (p.interpret h.recorded).run t = p.interpret h := by
  induction p generalizing t with
  | done a => simp
  | call c next ih => simp [Handler.recorded, ih]

end Program

end BoardSupport
