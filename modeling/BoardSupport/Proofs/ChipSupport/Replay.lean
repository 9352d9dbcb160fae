import BoardSupport.Proofs.ChipSupport.Exchange
import BoardSupport.Proofs.ChipSupport.Frame

/-!
# Runs as what is done on a device

A run names the replies that an operation gets and leaves open who gives them.  A device that answers
as it has been answered once (`replay`) gives the same replies again, so the operation does on it what
it has done in the run (`doing_replay`), and what is known of every device is known of every run.
-/

namespace BoardSupport.ChipSupport

variable {L : Library} {σ ε α : Type}

/-- The calls are requests for `rs`, and none of them fails. -/
def Granted (calls : List (Event L.interface)) (rs : List L.Request) : Prop :=
  calls.map Event.call = rs.map .request ∧ ∀ e ∈ calls, succeeded e = true

theorem Granted.append {es₁ es₂ : List (Event L.interface)} {rs₁ rs₂ : List L.Request}
    (h₁ : Granted es₁ rs₁) (h₂ : Granted es₂ rs₂) : Granted (es₁ ++ es₂) (rs₁ ++ rs₂) := by
  refine ⟨?_, List.forall_mem_append.2 ⟨h₁.2, h₂.2⟩⟩
  rw [List.map_append, List.map_append, h₁.1, h₂.1]

variable [DecidableEq L.Request] [DecidableEq L.Access] [∀ a, Inhabited (L.Answer a)]

/-- Answers with the replies of a list of events, one after another.  What is asked out of turn fails. -/
def replay : Device L (List (Event L.interface)) where
  request r
    | ⟨.request q, reply⟩ :: es => if h : q = r then (h ▸ reply, es) else (.error .fail, es)
    | es => (.error .fail, es)
  access a
    | ⟨.access b, reply⟩ :: es => if h : b = a then (h ▸ reply, es) else (default, es)
    | es => (default, es)
  leftover
    | ⟨.leftover, stored⟩ :: es => (stored, es)
    | es => ([], es)

/-- A program that is alike does the same again, but for what it is told by the console. -/
theorem course_replay {left right : L.Call → Prop} {p q : L.Task α} {es : List (Event L.interface)}
    {a : α} (hpq : Program.Alike Library.Call.isDebug left right p q) (h : Program.Runs p es a) :
    libraryCalls (q.course replay.alone (libraryCalls es)).calls = libraryCalls es ∧
      (q.course replay.alone (libraryCalls es)).result = a ∧
      (q.course replay.alone (libraryCalls es)).state = [] := by
  induction hpq generalizing es with
  | done b =>
    obtain ⟨rfl, rfl⟩ := Program.runs_done_iff.1 h
    exact ⟨rfl, rfl, rfl⟩
  | @call c next next' hc _ ih =>
    obtain ⟨reply, later, rfl, hlater⟩ := Program.runs_call_iff.1 h
    -- the first of the events is the reply, and the device is left with the others
    have hreply : replay.alone c (libraryCalls (⟨c, reply⟩ :: later)) =
        (reply, libraryCalls later) := by
      cases c with
      | request r => exact dif_pos rfl
      | access b => exact dif_pos rfl
      | leftover => rfl
      | debug call => cases hc
    obtain ⟨hcalls, hend⟩ := ih reply hlater
    rw [Program.course_call, hreply]
    refine ⟨?_, hend⟩
    have hkept : libraryCalls [(⟨c, reply⟩ : Event L.interface)] = [⟨c, reply⟩] :=
      Program.inEarnest_cons hc []
    show libraryCalls ([_] ++ _) = libraryCalls ([_] ++ _)
    rw [libraryCalls_append, libraryCalls_append, hcalls]
  | @left c next q hc _ _ ih =>
    obtain ⟨reply, later, rfl, hlater⟩ := Program.runs_call_iff.1 h
    have hdropped : libraryCalls (⟨c, reply⟩ :: later) = libraryCalls later :=
      Program.inEarnest_cons_of_aside hc later
    rw [hdropped]
    exact ih reply hlater
  | @right c next p hc _ _ ih =>
    cases c with
    | debug call => exact ih call.nothing h
    | _ => cases hc

theorem doing_replay {build build' : Build} {x : Action L σ ε α} {s t : σ}
    {es : List (Event L.interface)} {r : Except ε α} (hx : x.Twins build build' x)
    (h : x.Runs s es r t) :
    doing replay x.run s (libraryCalls es) = ⟨libraryCalls es, (r, t), []⟩ := by
  obtain ⟨hcalls, hresult, hstate⟩ := course_replay (hx s) h
  rw [doing, hcalls, hresult, hstate]

/-- A run that succeeds has made all requests of the sequence. -/
theorem Performs.granted {build build' : Build} {x : Action L σ ε α} {s t : σ} {rs : List L.Request}
    {post : α → σ → Prop} (hx : Performs replay x s rs post) (htwins : x.Twins build build' x)
    {es : List (Event L.interface)} {a : α} (h : x.Runs s es (.ok a) t) :
    Granted (libraryCalls es) rs ∧ post a t := by
  have hdoing := doing_replay htwins h
  rcases hx (libraryCalls es) with ⟨hserves, b, u, hpost, hdone⟩ | ⟨-, e, u, v, hfailed⟩
  · obtain ⟨hcalls, hresult, -⟩ := Course.mk.inj (hdoing.symm.trans hdone)
    obtain ⟨ha, rfl⟩ := Prod.mk.inj hresult
    obtain rfl := Except.ok.inj ha
    rw [hcalls]
    exact ⟨⟨Device.map_call_exchange _ rs, hserves⟩, hpost⟩
  · obtain ⟨-, hresult, -⟩ := Course.mk.inj (hdoing.symm.trans hfailed)
    cases (Prod.mk.inj hresult).1

end BoardSupport.ChipSupport
