import BoardSupport.StandIn.Basic

/-!
# Calls of the stand-in

Every call that is counted goes the same way: the faults say whether it fails, and only if it does
not, it does what it has to do (`answer_cases`).
-/

namespace BoardSupport.StandIn

variable {α : Type}

/-- The stand-in after a call of `entry`, what the call does when it succeeds apart. -/
def struck (entry : String) (s : StandIn) : StandIn :=
  { s with calls := s.calls + 1, faults := (Fault.onAll entry s.faults).2 }

/-- What a call comes to, once the faults have said whether it fails. -/
def settle (act : StateM StandIn α) :
    Option ChipSupport.Error → StateM StandIn (Except ChipSupport.Error α)
  | some e => pure (.error e)
  | none => Except.ok <$> act

theorem answer_eq (entry : String) (act : StateM StandIn α) (s : StandIn) :
    answer entry act s = settle act (Fault.onAll entry s.faults).1 (s.struck entry) := rfl

/-- A call fails and does nothing, or succeeds and does what it has to. -/
theorem answer_cases (entry : String) (act : StateM StandIn α) (s : StandIn) :
    (∃ e, answer entry act s = (.error e, s.struck entry)) ∨
      answer entry act s = (.ok (act (s.struck entry)).1, (act (s.struck entry)).2) := by
  rw [answer_eq]
  cases (Fault.onAll entry s.faults).1 with
  | some e => exact .inl ⟨e, rfl⟩
  | none => exact .inr rfl

end BoardSupport.StandIn
