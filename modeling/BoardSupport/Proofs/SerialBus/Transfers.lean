import BoardSupport.Proofs.SerialBus.Management

/-!
# Transfers on the serial bus

A transfer exchanges words one by one until a call fails.  `Ended` is the account of such a row of
exchanges: which words were received, which calls were made for them, and how it ended.

- `runs_transfer`: every run of a transfer has such an account, and the buffer holds what was received
  in front of what it held before.
- `Stateless`: transfers neither read nor change the driver's state.
- `transferInPlace_eq` and `transferInPlace_append`: a transfer in place is the transfer of a copy, and
  may be cut in two anywhere.
-/

namespace BoardSupport.SerialBus

open ChipSupport (Device Session Stateless libraryCalls runs_end_iff runs_run_bind_iff)

/-! ## One exchange -/

/-- The calls of an exchange that sends `word` and receives `x`. -/
def round (word x : UInt16) : List (Event library.interface) :=
  [event (.write [word]) (.ok ()), event (.read 1) (.ok #v[x])]

/-- The calls of an exchange, and how it ends. -/
inductive Exchanged (word : UInt16) : List (Event library.interface) → Except Error UInt16 → Prop where
  | writeFailed (e : ChipSupport.Error) :
      Exchanged word [event (.write [word]) (.error e)] (.error (.library e))
  | readFailed (e : ChipSupport.Error) :
      Exchanged word [event (.write [word]) (.ok ()), event (.read 1) (.error e)] (.error (.library e))
  | made (x : UInt16) : Exchanged word (round word x) (.ok x)

theorem Exchanged.of_ok {word x : UInt16} {calls : List (Event library.interface)}
    (h : Exchanged word calls (.ok x)) : calls = round word x := by
  cases h
  rfl

theorem eq_singleton (v : Vector UInt16 1) : v = #v[v.get ⟨0, Nat.one_pos⟩] := by
  ext i hi
  obtain rfl : i = 0 := by omega
  rfl

theorem runs_exchange [ChipSupport.Build] {word : UInt16} {s t : SerialBus}
    {es : List (Event library.interface)}
    {r : Except Error UInt16} (h : (exchange word).Runs s es r t) :
    Exchanged word (libraryCalls es) r := by
  obtain ⟨e, hes, rfl, -⟩ | ⟨⟨⟩, later, hes, h⟩ := (asks _ (.write [word])).runs_bind h
  · rw [hes]
    exact .writeFailed e
  obtain ⟨e, hlater, rfl, -⟩ | ⟨v, later', hlater, h⟩ := (asks _ (.read 1)).runs_bind h
  · rw [hes, hlater]
    exact .readFailed e
  obtain ⟨rfl, rfl, -⟩ := ChipSupport.Action.runs_pure_iff.1 h
  rw [hes, hlater, eq_singleton v]
  exact .made _

/-! ## Exchanges in a row -/

/-- The calls of exchanges that are made, each sending the next of `words`, and zero once there are no
more; `received` are the words received. -/
def rounds (words received : List UInt16) : List (Event library.interface) :=
  received.zipIdx.flatMap fun (x, i) => round (words.getD i 0) x

theorem rounds_cons (words : List UInt16) (x : UInt16) (received : List UInt16) :
    rounds words (x :: received) = round (words.headD 0) x ++ rounds words.tail received := by
  have hhead : words.getD 0 0 = words.headD 0 := by cases words <;> rfl
  have htail (i : Nat) : words.getD (i + 1) 0 = words.tail.getD i 0 := by cases words <;> rfl
  rw [rounds, rounds, List.zipIdx_cons, List.flatMap_cons, Nat.zero_add, List.zipIdx_succ,
    List.flatMap_map]
  simp only [hhead, htail]

theorem length_rounds (words received : List UInt16) :
    (rounds words received).length = 2 * received.length := by
  induction received generalizing words with
  | nil => rfl
  | cons x received ih =>
    rw [rounds_cons, List.length_append, ih, List.length_cons]
    show 2 + 2 * received.length = 2 * (received.length + 1)
    omega

/-- Of `total` exchanges in a row, those that received `received` are made; then either there are no
more, or a call of the next one fails and ends the row. -/
inductive Ended (words : List UInt16) (total : Nat) (received : List UInt16) :
    List (Event library.interface) → Except Error Unit → Prop where
  | complete (h : received.length = total) :
      Ended words total received (rounds words received) (.ok ())
  | writeFailed (e : ChipSupport.Error) (h : received.length < total) :
      Ended words total received
        (rounds words received ++ [event (.write [words.getD received.length 0]) (.error e)])
        (.error (.library e))
  | readFailed (e : ChipSupport.Error) (h : received.length < total) :
      Ended words total received
        (rounds words received ++
          [event (.write [words.getD received.length 0]) (.ok ()), event (.read 1) (.error e)])
        (.error (.library e))

namespace Ended

variable {words received : List UInt16} {total : Nat} {calls : List (Event library.interface)}
  {r : Except Error Unit}

/-- One exchange before the others of a row. -/
theorem cons (x : UInt16) (h : Ended words.tail total received calls r) :
    Ended words (total + 1) (x :: received) (round (words.headD 0) x ++ calls) r := by
  have hword : words.tail.getD received.length 0 = words.getD (x :: received).length 0 := by
    cases words <;> rfl
  cases h with
  | complete h =>
    rw [← rounds_cons]
    exact .complete (congrArg Nat.succ h)
  | writeFailed e h =>
    rw [← List.append_assoc, ← rounds_cons, hword]
    exact .writeFailed e (Nat.succ_lt_succ h)
  | readFailed e h =>
    rw [← List.append_assoc, ← rounds_cons, hword]
    exact .readFailed e (Nat.succ_lt_succ h)

/-- An exchange that fails ends the row before a word is received. -/
theorem of_failed {e : Error} (h : Exchanged (words.headD 0) calls (.error e)) :
    Ended words (total + 1) [] calls (.error e) := by
  have hword : words.headD 0 = words.getD ([] : List UInt16).length 0 := by cases words <;> rfl
  rw [hword] at h
  cases h with
  | writeFailed e => exact .writeFailed e (Nat.succ_pos total)
  | readFailed e => exact .readFailed e (Nat.succ_pos total)

theorem length_calls (h : Ended words total received calls r) :
    (r = .ok () ∧ received.length = total ∧ calls.length = 2 * total) ∨
      ∃ e, r = .error (.library e) ∧ received.length < total ∧
        (calls.length = 2 * received.length + 1 ∨ calls.length = 2 * received.length + 2) := by
  cases h with
  | complete h => exact .inl ⟨rfl, h, by rw [length_rounds, h]⟩
  | writeFailed e h =>
    refine .inr ⟨e, rfl, h, .inl ?_⟩
    rw [List.length_append, length_rounds]
    rfl
  | readFailed e h =>
    refine .inr ⟨e, rfl, h, .inr ?_⟩
    rw [List.length_append, length_rounds]
    rfl

end Ended

section Runs

variable [ChipSupport.Build] {s t : SerialBus} {es : List (Event library.interface)}
  {r : Except Error Unit}

theorem runs_sendOnly {words : List UInt16} (h : (sendOnly words).Runs s es r t) :
    ∃ received, Ended words words.length received (libraryCalls es) r := by
  induction words generalizing s es with
  | nil =>
    obtain ⟨rfl, rfl, -⟩ := ChipSupport.Action.runs_pure_iff.1 h
    exact ⟨[], .complete rfl⟩
  | cons word words ih =>
    obtain ⟨es₁, x, u, es₂, rfl, hfirst, hlater⟩ | ⟨e, rfl, hfirst⟩ :=
      ChipSupport.Action.runs_bind_iff.1 h
    · obtain ⟨received, hended⟩ := ih hlater
      have hended : Ended (word :: words).tail words.length received (libraryCalls es₂) r := hended
      rw [ChipSupport.libraryCalls_append, (runs_exchange hfirst).of_ok]
      exact ⟨x :: received, hended.cons x⟩
    · exact ⟨[], .of_failed (runs_exchange hfirst)⟩

/-- What is received fills the buffer from its first word on; what is received after the buffer is full
is dropped, and what lies behind the words received stays. -/
theorem runs_transfer {words buffer left : List UInt16}
    (h : Program.Runs ((transfer words buffer).run s) es ((r, left), t)) :
    ∃ received, Ended words (max buffer.length words.length) received (libraryCalls es) r ∧
      left = received.take buffer.length ++ buffer.drop received.length := by
  induction buffer generalizing words s t es left with
  | nil =>
    -- without a buffer all that is left to do is to send
    rw [transfer_nil] at h
    obtain ⟨es₁, result, u, es₂, rfl, hsend, hend⟩ := runs_run_bind_iff.1 h
    obtain ⟨rfl, houtcome, -⟩ := runs_end_iff.1 hend
    obtain ⟨rfl, rfl⟩ := Prod.mk.inj houtcome
    obtain ⟨received, hended⟩ := runs_sendOnly hsend
    rw [List.append_nil, List.length_nil, Nat.zero_max]
    exact ⟨received, hended, by simp⟩
  | cons slot buffer ih =>
    rw [transfer_cons] at h
    obtain ⟨es₁, answer, u, es₂, rfl, hfirst, hlater⟩ := runs_run_bind_iff.1 h
    have htotal : max (slot :: buffer).length words.length =
        max buffer.length words.tail.length + 1 := by
      rw [List.length_cons, List.length_tail]
      omega
    have hexchange := runs_exchange hfirst
    rw [htotal]
    cases answer with
    | ok x =>
      have hlater : Program.Runs ((behind [x] <$> transfer words.tail buffer).run u) es₂
          ((r, left), t) := hlater
      rw [map_eq_pure_bind] at hlater
      obtain ⟨es₃, ⟨r', left'⟩, v, es₄, rfl, hrest, hend⟩ := runs_run_bind_iff.1 hlater
      obtain ⟨rfl, houtcome, -⟩ := runs_end_iff.1 hend
      obtain ⟨rfl, rfl⟩ := Prod.mk.inj houtcome
      obtain ⟨received, hended, rfl⟩ := ih hrest
      rw [List.append_nil, ChipSupport.libraryCalls_append, hexchange.of_ok]
      exact ⟨x :: received, hended.cons x, rfl⟩
    | error e =>
      obtain ⟨rfl, houtcome, -⟩ := runs_end_iff.1 hlater
      obtain ⟨rfl, rfl⟩ := Prod.mk.inj houtcome
      rw [List.append_nil]
      exact ⟨[], .of_failed hexchange, rfl⟩

end Runs

theorem getElem?_refilled (received buffer : List UInt16) (j : Nat) :
    (received.take buffer.length ++ buffer.drop received.length)[j]? =
      if j < min received.length buffer.length then received[j]? else buffer[j]? := by
  have hlength : (received.take buffer.length).length = min received.length buffer.length := by
    rw [List.length_take, Nat.min_comm]
  by_cases hj : j < min received.length buffer.length
  · rw [if_pos hj, List.getElem?_append_left (by omega), List.getElem?_take, if_pos (by omega)]
  · rw [if_neg hj, List.getElem?_append_right (by omega), hlength, List.getElem?_drop]
    by_cases hfull : buffer.length ≤ received.length
    · rw [List.getElem?_eq_none (by omega), List.getElem?_eq_none (by omega)]
    · congr 1
      omega

/-! ## Transfers and the driver's state -/

variable [ChipSupport.Build]

theorem stateless_attempt (line : String) (r : Request) : Stateless (attempt line r).run :=
  ChipSupport.Action.stateless_adapt (ChipSupport.Action.stateless_attempt (L := library) line r)

theorem stateless_exchange (word : UInt16) : Stateless (exchange word).run := by
  refine ChipSupport.Action.stateless_bind (stateless_attempt _ (.write [word])) fun _ => ?_
  exact ChipSupport.Action.stateless_bind (stateless_attempt _ (.read 1)) fun _ => .pure _

theorem stateless_sendOnly (words : List UInt16) : Stateless (sendOnly words).run := by
  induction words with
  | nil => exact .pure _
  | cons word words ih => exact ChipSupport.Action.stateless_bind (stateless_exchange word) fun _ => ih

theorem stateless_transfer (words buffer : List UInt16) : Stateless (transfer words buffer) := by
  induction buffer generalizing words with
  | nil =>
    rw [transfer_nil]
    exact (stateless_sendOnly words).bind fun _ => .pure _
  | cons slot buffer ih =>
    rw [transfer_cons]
    refine (stateless_exchange _).bind fun answer => ?_
    cases answer with
    | ok x => exact (ih words.tail).map
    | error e => exact .pure _

/-- What is stateless answers alike from every state of the driver, and keeps it. -/
theorem turn_of_stateless {τ : Type} (d : Device library τ) {c : Command}
    (hc : Stateless (perform c)) (s : Session SerialBus τ) (driver : SerialBus) :
    (Session.performer d perform).turn c { s with driver } =
      { (Session.performer d perform).turn c s with
        before := { s with driver }
        after := { ((Session.performer d perform).turn c s).after with driver } } := by
  have hcourse : Session.course d perform c { s with driver } = _ :=
    hc.course_eq d.handler (s.device, s.console) driver s.driver
  rw [Session.turn_eq, Session.turn_eq, hcourse]
  rfl

/-- A transfer exchanges word by word until all are exchanged or a call fails.  The buffer holds what
was received, as far as it reaches, and otherwise what it held before.  Nothing of this depends on the
driver's state, which stays as it is. -/
theorem transfer_ends_at_failure {τ : Type} (d : Device library τ) (words buffer : List UInt16)
    (s : Session SerialBus τ) :
    let turn := (Session.performer d perform).turn (.transfer words buffer) s
    let calls := libraryCalls turn.calls
    let total := max buffer.length words.length
    (∃ received, Ended words total received calls turn.answer.1 ∧
      (∀ j : Nat, turn.answer.2[j]? =
        if j < min received.length buffer.length then received[j]? else buffer[j]?) ∧
      ((turn.answer.1 = .ok () ∧ received.length = total ∧ calls.length = 2 * total) ∨
        ∃ e, turn.answer.1 = .error (.library e) ∧ received.length < total ∧
          (calls.length = 2 * received.length + 1 ∨ calls.length = 2 * received.length + 2))) ∧
      turn.after.driver = s.driver ∧
      ∀ driver : SerialBus,
        (Session.performer d perform).turn (.transfer words buffer) { s with driver } =
          { turn with before := { s with driver }, after := { turn.after with driver } } := by
  intro turn calls total
  have hstateless : Stateless (perform (.transfer words buffer)) := stateless_transfer words buffer
  refine ⟨?_, ?_, turn_of_stateless d hstateless s⟩
  · have hrun := Session.runs_turn d perform (.transfer words buffer) s
    obtain ⟨received, hended, hleft⟩ := runs_transfer hrun
    refine ⟨received, hended, fun j => ?_, hended.length_calls⟩
    rw [show turn.answer.2 = _ from hleft, getElem?_refilled]
  · have hsame := turn_of_stateless d hstateless s s.driver
    exact congrArg (fun turn => turn.after.driver) hsame

/-! ## Transfers in place -/

/-- A word is sent before the one received takes its place, so the buffer serves as its own copy. -/
theorem transferInPlace_eq (buffer : List UInt16) :
    transferInPlace buffer = transfer buffer buffer := by
  induction buffer with
  | nil => rfl
  | cons word buffer ih =>
    rw [transferInPlace_cons, transfer_cons, ih]
    rfl

/-- What becomes of a transfer in place that has got through the front of a buffer: if it has succeeded
there, `back` is transferred too, and otherwise `back` stays. -/
def thenBack (back : List UInt16) : Except Error Unit × List UInt16 →
    StateT SerialBus library.Task (Except Error Unit × List UInt16)
  | (.ok (), received) => behind received <$> transferInPlace back
  | (.error e, left) => pure (.error e, left ++ back)

theorem thenBack_behind (back front : List UInt16) (outcome : Except Error Unit × List UInt16) :
    thenBack back (behind front outcome) = behind front <$> thenBack back outcome := by
  obtain ⟨e | ⟨⟨⟩⟩, words⟩ := outcome
  · show pure (.error e, front ++ words ++ back) = behind front <$> pure (.error e, words ++ back)
    rw [map_pure, behind, List.append_assoc]
  · have hbehind : behind front ∘ behind words = behind (front ++ words) :=
      funext fun outcome => behind_behind front words outcome
    rw [thenBack, ← comp_map, hbehind]
    rfl

theorem transferInPlace_append (front back : List UInt16) :
    transferInPlace (front ++ back) = transferInPlace front >>= thenBack back := by
  induction front with
  | nil =>
    have hbehind : behind [] = id := rfl
    rw [List.nil_append, transferInPlace_nil, pure_bind, thenBack, hbehind, id_map]
  | cons word front ih =>
    rw [List.cons_append, transferInPlace_cons, ih, transferInPlace_cons, bind_assoc]
    congr 1
    funext answer
    cases answer with
    | ok x =>
      show behind [x] <$> (transferInPlace front >>= thenBack back) =
        behind [x] <$> transferInPlace front >>= thenBack back
      rw [map_bind, bind_map_left]
      congr 1
      funext outcome
      exact (thenBack_behind back [x] outcome).symm
    | error e => rfl

/-- Two transfers in place by a session, the second of which is made if the first succeeds. -/
def transferInTurn {τ : Type} (d : Device library τ) (front back : List UInt16)
    (s : Session SerialBus τ) :
    ((Except Error Unit × List UInt16) × Trace library.interface) × Session SerialBus τ :=
  match s.perform d perform (.transferInPlace front) with
  | (((.ok (), received), calls), s') =>
    let ((outcome, calls'), s'') := s'.perform d perform (.transferInPlace back)
    ((behind received outcome, calls ++ calls'), s'')
  | (((.error e, left), calls), s') => (((.error e, left ++ back), calls), s')

theorem perform_transferInPlace_append {τ : Type} (d : Device library τ) (front back : List UInt16)
    (s : Session SerialBus τ) :
    s.perform d perform (.transferInPlace (front ++ back)) = transferInTurn d front back s := by
  have hwhole : perform (.transferInPlace (front ++ back)) = transferInPlace front >>= thenBack back :=
    transferInPlace_append front back
  rcases hfirst : s.course d perform (.transferInPlace front) with ⟨calls, ⟨outcome, u⟩, t, k⟩
  have hcourse : s.course d perform (.transferInPlace (front ++ back)) =
      (((thenBack back outcome).run u).course d.handler (t, k)).behind calls := by
    rw [Session.course, hwhole]
    exact Program.course_run_bind hfirst
  rw [transferInTurn, Session.perform_of_course hfirst]
  -- how the front has ended decides what is made of the rest
  obtain ⟨e | ⟨⟨⟩⟩, words⟩ := outcome
  · refine Session.perform_of_course ?_
    rw [hcourse]
    exact Course.behind_end calls _ _
  · rcases hsecond : Session.course d perform (.transferInPlace back) ⟨u, t, k⟩ with
      ⟨calls', ⟨outcome, u'⟩, t', k'⟩
    have hrest : ((behind words <$> transferInPlace back).run u).course d.handler (t, k) =
        ⟨calls', (behind words outcome, u'), (t', k')⟩ := by
      rw [map_eq_pure_bind]
      exact (Program.course_run_bind hsecond).trans (Course.behind_end calls' _ _)
    show _ = (match Session.perform ⟨u, t, k⟩ d perform (.transferInPlace back) with
      | ((outcome, calls'), s'') => ((behind words outcome, calls.toArray ++ calls'), s''))
    rw [Session.perform_of_course hsecond]
    show _ = ((behind words outcome, calls.toArray ++ calls'.toArray), _)
    rw [List.append_toArray]
    refine Session.perform_of_course ?_
    rw [hcourse, thenBack, hrest]
    rfl

/-- A transfer in place is the transfer of a copy of the buffer, in what it answers and calls, in what
it leaves in the buffer, and in the driver, the device and the console.  It may be cut in two anywhere. -/
theorem transferInPlace_agrees {τ : Type} (d : Device library τ) (front back : List UInt16)
    (s : Session SerialBus τ) :
    let buffer := front ++ back
    s.perform d perform (.transferInPlace buffer) = s.perform d perform (.transfer buffer buffer) ∧
      s.perform d perform (.transferInPlace buffer) = transferInTurn d front back s := by
  intro buffer
  have hcourse : s.course d perform (.transferInPlace buffer) =
      s.course d perform (.transfer buffer buffer) := by
    show ((transferInPlace buffer).run s.driver).course d.handler (s.device, s.console) = _
    rw [transferInPlace_eq]
    rfl
  refine ⟨?_, perform_transferInPlace_append d front back s⟩
  rw [Session.perform_eq, hcourse]
  exact (Session.perform_eq d perform (.transfer buffer buffer) s).symm

end BoardSupport.SerialBus
