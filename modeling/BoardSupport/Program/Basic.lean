/-!
# Programs over an interface

A driver never touches hardware by itself: it is a *program*, a tree of calls of an interface
together with what is to happen for every reply.  Who answers the calls is decided afterwards
(`Program.interpret` in `BoardSupport.Program.Handler`), so one driver runs on a scripted stand-in,
on a traced bus or inside a proof that quantifies over all replies.

- `Interface`: the calls that may be made, and the type of the reply to each.
- `Program I α`: a finite tree of calls of `I` that ends in an `α`.
- `Program` is a lawful monad, so drivers are written with `do`.
-/

namespace BoardSupport

/-- The calls of a piece of hardware or of a library, and the type of the reply to each. -/
structure Interface where
  /-- The calls that may be made. -/
  Call : Type
  /-- The type of the reply to a call. -/
  Reply : Call → Type

/-- A finite computation that makes calls of `I` and ends in an `α`. -/
inductive Program (I : Interface) (α : Type) : Type where
  /-- The computation has ended. -/
  | done (a : α)
  /-- A call is made, and `next` goes on with its reply. -/
  | call (c : I.Call) (next : I.Reply c → Program I α)

namespace Program

variable {I : Interface} {α β γ : Type}

/-- The program that makes one call and hands back the reply. -/
def send (c : I.Call) : Program I (I.Reply c) := .call c .done

/-- Runs `p`, then goes on with `f` from where `p` ended. -/
protected def bind : Program I α → (α → Program I β) → Program I β
  | .done a, f => f a
  | .call c next, f => .call c fun r => (next r).bind f

instance : Monad (Program I) where
  pure := .done
  bind := Program.bind

@[simp] theorem pure_eq (a : α) : (pure a : Program I α) = .done a := rfl

@[simp] theorem done_bind (a : α) (f : α → Program I β) : (done a >>= f) = f a := rfl

@[simp] theorem call_bind (c : I.Call) (next : I.Reply c → Program I α) (f : α → Program I β) :
    (call c next >>= f) = .call c fun r => next r >>= f := rfl

theorem send_bind (c : I.Call) (f : I.Reply c → Program I β) :
    (send c >>= f) = .call c f := rfl

theorem bind_done (p : Program I α) : (p >>= done) = p := by
  induction p with
  | done a => rfl
  | call c next ih => simp only [call_bind, ih]

theorem bind_assoc (p : Program I α) (f : α → Program I β) (g : β → Program I γ) :
    (p >>= f >>= g) = p >>= fun a => f a >>= g := by
  induction p with
  | done a => rfl
  | call c next ih => simp only [call_bind, ih]

instance : LawfulMonad (Program I) :=
  LawfulMonad.mk' (Program I) bind_done (fun _ _ => rfl) bind_assoc

end Program

end BoardSupport
