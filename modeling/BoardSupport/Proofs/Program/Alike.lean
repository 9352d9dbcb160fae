import BoardSupport.Proofs.Program.Course

/-!
# Programs that are alike but for calls on the side

Some calls are made on the side: a program tells something to somebody, and what it is answered makes
no difference to it.  Two programs are alike if they make the same calls and end in the same result but
for what they do on the side, where each may do as it likes.

- `Alike`: the relation, with the calls that either program may make on the side.  It goes through
  composition (`Alike.bind`) and through drivers that carry calls out (`Alike.interpret`).
- `Beside`: surroundings that answer as others do, but for calls on the side.
- `Alike.course`: in such surroundings programs that are alike have the same course, on the side
  whatever may happen.
-/

namespace BoardSupport

variable {C I J : Interface} {σ ω Ω Ω' α β : Type}

namespace Program

/-- The programs make the same calls and end in the same result, but for calls on the side: there the
one may make those of `left` and the other those of `right`, and neither heeds the replies. -/
inductive Alike (aside : I.Call → Bool) (left right : I.Call → Prop) :
    Program I α → Program I α → Prop
  /-- Both have ended. -/
  | done (a : α) : Alike aside left right (.done a) (.done a)
  /-- Both make a call, and go on alike with every reply. -/
  | call {c : I.Call} {next next' : I.Reply c → Program I α} (hc : aside c = false)
      (h : ∀ r, Alike aside left right (next r) (next' r)) :
      Alike aside left right (.call c next) (.call c next')
  /-- The one makes a call on the side, and goes on with any reply as if it had not. -/
  | left {c : I.Call} {next : I.Reply c → Program I α} {q : Program I α} (hc : aside c = true)
      (hleft : left c) (h : ∀ r, Alike aside left right (next r) q) :
      Alike aside left right (.call c next) q
  /-- The other makes a call on the side, and goes on with any reply as if it had not. -/
  | right {c : I.Call} {next : I.Reply c → Program I α} {p : Program I α} (hc : aside c = true)
      (hright : right c) (h : ∀ r, Alike aside left right p (next r)) :
      Alike aside left right p (.call c next)

/-- Surroundings `k` answer like `h`, which is part of them, but for calls on the side: to these they
may say anything, as long as they leave that part of them alone. -/
structure Beside (aside : I.Call → Bool) (k : Surroundings I Ω) (h : Surroundings I ω)
    (part : Ω → ω) : Prop where
  reply : ∀ c w, aside c = false → (k c w).1 = (h c (part w)).1
  state : ∀ c w, aside c = false → part (k c w).2 = (h c (part w)).2
  aside : ∀ c w, aside c = true → part (k c w).2 = part w

/-- The calls that are not made on the side. -/
def inEarnest (aside : I.Call → Bool) (es : List (Event I)) : List (Event I) :=
  es.filter fun e => !aside e.call

section Events

variable {aside : I.Call → Bool} {e : Event I}

theorem inEarnest_append (es₁ es₂ : List (Event I)) :
    inEarnest aside (es₁ ++ es₂) = inEarnest aside es₁ ++ inEarnest aside es₂ :=
  List.filter_append ..

theorem inEarnest_cons_of_aside (he : aside e.call = true) (es : List (Event I)) :
    inEarnest aside (e :: es) = inEarnest aside es :=
  List.filter_cons_of_neg (by rw [he]; exact Bool.false_ne_true)

theorem inEarnest_cons (he : aside e.call = false) (es : List (Event I)) :
    inEarnest aside (e :: es) = e :: inEarnest aside es :=
  List.filter_cons_of_pos (by rw [he]; rfl)

end Events

namespace Alike

variable {aside : I.Call → Bool} {left right : I.Call → Prop} {p q : Program I α}

theorem send {c : I.Call} (hc : aside c = false) :
    Alike aside left right (Program.send c) (Program.send c) :=
  .call hc fun r => .done r

theorem bind {f g : α → Program I β} (h : Alike aside left right p q)
    (hfg : ∀ a, Alike aside left right (f a) (g a)) :
    Alike aside left right (p >>= f) (q >>= g) := by
  induction h with
  | done a => exact hfg a
  | call hc _ ih => exact .call hc ih
  | left hc hleft _ ih => exact .left hc hleft ih
  | right hc hright _ ih => exact .right hc hright ih

/-- Drivers that carry out every call alike carry out every program alike. -/
theorem interpret {driver driver' : Handler C (StateT σ (Program I))}
    (h : ∀ c s, Alike aside left right ((driver c).run s) ((driver' c).run s)) (p : Program C α)
    (s : σ) :
    Alike aside left right ((p.interpret driver).run s) ((p.interpret driver').run s) := by
  induction p generalizing s with
  | done a => exact .done _
  | call c next ih =>
    rw [interpret_call, interpret_call, StateT.run_bind, StateT.run_bind]
    exact (h c s).bind fun r => ih r.1 r.2

/-- Programs that are alike stay so if their calls are passed on to the right of two interfaces. -/
theorem toRight {aside : (I.sum J).Call → Bool} {left right : (I.sum J).Call → Prop}
    {p q : Program J α}
    (h : Alike (fun c => aside (.inr c)) (fun c => left (.inr c)) (fun c => right (.inr c)) p q) :
    Alike aside left right (Program.right p) (Program.right q) := by
  induction h with
  | done a => exact .done a
  | call hc _ ih => exact .call (I := I.sum J) hc ih
  | left hc hleft _ ih => exact .left (I := I.sum J) hc hleft ih
  | right hc hright _ ih => exact .right (I := I.sum J) hc hright ih

section Courses

variable {k : Surroundings I Ω} {k' : Surroundings I Ω'} {h : Surroundings I ω} {part : Ω → ω}
  {part' : Ω' → ω}

/-- Programs that are alike make the same calls in earnest, get the same replies to them, end in the
same result, and leave the surroundings in the same state; on the side either makes the calls that it
may. -/
theorem course (hk : Beside aside k h part) (hk' : Beside aside k' h part')
    (hpq : Alike aside left right p q) {w : Ω} {w' : Ω'} (hw : part w = part' w') :
    inEarnest aside (p.course k w).calls = inEarnest aside (q.course k' w').calls ∧
      (p.course k w).result = (q.course k' w').result ∧
      part (p.course k w).state = part' (q.course k' w').state ∧
      (∀ e ∈ (p.course k w).calls, aside e.call = true → left e.call) := by
  induction hpq generalizing w w' with
  | done a => exact ⟨rfl, rfl, hw, List.forall_mem_nil _⟩
  | @call c next next' hc _ ih =>
    -- the replies are the same, and so are the states that go with them
    have hreply : (k c w).1 = (k' c w').1 := by rw [hk.reply c w hc, hk'.reply c w' hc, hw]
    have hstate : part (k c w).2 = part' (k' c w').2 := by
      rw [hk.state c w hc, hk'.state c w' hc, hw]
    obtain ⟨hcalls, hresult, hafter, hleft⟩ := ih (k' c w').1 hstate
    rw [course_call, course_call, hreply]
    refine ⟨?_, hresult, hafter, List.forall_mem_cons.2 ⟨fun h => ?_, hleft⟩⟩
    · exact (inEarnest_cons hc _).trans ((congrArg _ hcalls).trans (inEarnest_cons hc _).symm)
    · exact absurd (hc.symm.trans h) Bool.false_ne_true
  | @left c next q hc hleft _ ih =>
    obtain ⟨hcalls, hresult, hafter, hlater⟩ := ih (k c w).1 ((hk.aside c w hc).trans hw)
    refine ⟨?_, hresult, hafter, List.forall_mem_cons.2 ⟨fun _ => hleft, hlater⟩⟩
    exact (inEarnest_cons_of_aside hc _).trans hcalls
  | @right c next p hc hright _ ih =>
    obtain ⟨hcalls, hresult, hafter, hlater⟩ := ih (k' c w').1 (hw.trans (hk'.aside c w' hc).symm)
    refine ⟨?_, hresult, hafter, hlater⟩
    exact hcalls.trans (inEarnest_cons_of_aside hc _).symm

end Courses

end Alike

end Program

end BoardSupport
