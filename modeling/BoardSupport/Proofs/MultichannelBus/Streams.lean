import BoardSupport.MultichannelBus.Command
import BoardSupport.Proofs.ChipSupport.Inversion
import BoardSupport.Proofs.DebugOutput.Operations
import BoardSupport.Proofs.StandIn.MultichannelBus

/-!
# The multichannel bus's streams

Words go out by two ways and come in by two, in blocks or one by one, and both ways share the log and
the queue of the stand-in.  The flags and the faults may change between commands at any time.

- `disturbed`: the bus on the stand-in, with disturbances between the commands.
- `written` and `delivered`: the words that a turn has sent and received, by its answer alone.
- `Moves`: what one command does to log and queue, whatever fails; `moves_turn` says it of a turn.
- `Retries`: a caller who sends words one by one, each until it is taken.
- `streams_lossless`: over any commands and disturbances nothing is lost and nothing comes twice.
-/

namespace BoardSupport.MultichannelBus

open ChipSupport (Leaves Session asks_attempt doing doing_adapt doing_bind doing_report)
open SerialBus (Error)
open StandIn (moves)

/-! ## Commands and disturbances -/

/-- What may happen to the stand-in between commands: any change but that of the words still to be
received. -/
abbrev Disturbance : Type := { e : StandIn.Edit // e.received = none }

/-- Disturbances as an interface; they give no answer. -/
abbrev disturbances : Interface := ⟨Disturbance, fun _ => Unit⟩

/-- Commands and disturbances. -/
abbrev stimuli : Interface := commands.sum disturbances

/-- The bus on the stand-in, with disturbances between the commands. -/
def disturbed [ChipSupport.Build] : Performer stimuli library.interface (Session MultichannelBus StandIn)
  | .inl c, s => Session.performer StandIn.multichannelBus perform c s
  | .inr e, s => (((), #[]), { s with device := e.val.apply s.device })

/-- A turn of the bus, or a disturbance. -/
abbrev BusTurn : Type := Turn stimuli library.interface (Session MultichannelBus StandIn)

/-- The words that a command has sent, by its answer. -/
def sentBy : (c : Command) → c.Answer → List UInt16
  | .write words, .ok _ => words
  | .writeWord word, .ok _ => [word]
  | _, _ => []

/-- The words that a command has received, by its answer. -/
def receivedBy : (c : Command) → c.Answer → List UInt16
  | .read _, (.ok _, words) => words
  | .readWord, .ok word => [word]
  | _, _ => []

/-- How many words a command had to receive, if it has succeeded. -/
def wantedBy : (c : Command) → c.Answer → Nat
  | .read buffer, (.ok _, _) => buffer.length
  | .readWord, .ok _ => 1
  | _, _ => 0

/-- The words that a turn has sent. -/
def written : BusTurn → List UInt16
  | ⟨.inl c, _, answer, _, _⟩ => sentBy c answer
  | ⟨.inr _, _, _, _, _⟩ => []

/-- The words that a turn has received. -/
def delivered : BusTurn → List UInt16
  | ⟨.inl c, _, answer, _, _⟩ => receivedBy c answer
  | ⟨.inr _, _, _, _, _⟩ => []

/-- How many words a turn had to receive. -/
def wanted : BusTurn → Nat
  | ⟨.inl c, _, answer, _, _⟩ => wantedBy c answer
  | ⟨.inr _, _, _, _, _⟩ => 0

/-- The command sends words if it succeeds. -/
def sends : stimuli.Call → Bool
  | .inl (.write _) | .inl (.writeWord _) => true
  | _ => false

/-- The turns are those of a caller who sends words one by one, each again and again until it is
taken.  What happens in between sends nothing. -/
inductive Retries : List UInt16 → List BusTurn → Prop
  | done : Retries [] []
  | meanwhile {words : List UInt16} {turn : BusTurn} {turns : List BusTurn}
      (hturn : sends turn.command = false) (later : Retries words turns) :
      Retries words (turn :: turns)
  | again {word : UInt16} {words : List UInt16} {turns : List BusTurn}
      {before after : Session MultichannelBus StandIn} {e : NonBlocking Error}
      {calls : List (Event library.interface)} (later : Retries (word :: words) turns) :
      Retries (word :: words) (⟨.inl (.writeWord word), before, .error e, calls, after⟩ :: turns)
  | taken {word : UInt16} {words : List UInt16} {turns : List BusTurn}
      {before after : Session MultichannelBus StandIn} {calls : List (Event library.interface)}
      (later : Retries words turns) :
      Retries (word :: words) (⟨.inl (.writeWord word), before, .ok (), calls, after⟩ :: turns)

/-- A caller who retries until each word is taken has written each word once. -/
theorem Retries.written_eq {words : List UInt16} {turns : List BusTurn} (h : Retries words turns) :
    turns.flatMap written = words := by
  induction h with
  | done => rfl
  | @meanwhile words turn turns hturn later ih =>
    have hnone : written turn = [] := by
      obtain ⟨c | e, before, answer, calls, after⟩ := turn
      · cases c <;> first | rfl | cases hturn
      · rfl
    rw [List.flatMap_cons, hnone, ih]
    rfl
  | again later ih => exact ih
  | taken later ih => exact congrArg _ ih

/-- A word is tried again once the transmit register is empty. -/
example [ChipSupport.Build] : Retries [7] (disturbed.play
    [.inl (.writeWord 7), .inr ⟨{ transmitEmpty := some true }, rfl⟩, .inl (.writeWord 7)]
    ⟨{}, {}, {}⟩).1 :=
  .again (.meanwhile rfl (.taken .done))

/-! ## What one command does -/

/-- What a command does to log and queue, if it tells of so many words sent, received and wanted. -/
structure Moves (sent received : List UInt16) (wanted : Nat) (t u : StandIn) : Prop where
  /-- The log grows by the words that were sent. -/
  log : u.sent.toList = t.sent.toList ++ sent
  /-- The words that were upcoming are delivered. -/
  delivered : received = (List.range wanted).map t.upcoming
  /-- The queue gets shorter by the words that were delivered. -/
  queue : u.received = t.received.drop wanted

/-- What moves nothing tells of nothing. -/
theorem moves_nothing (t : StandIn) : Moves [] [] 0 t t where
  log := (List.append_nil _).symm
  delivered := rfl
  queue := rfl

/-- Operations that make no call to move words. -/
abbrev Still {α : Type} (x : StateT MultichannelBus library.Task α) : Prop :=
  Leaves (fun c => moves c = false) (fun _ => ()) x

section Operations

variable [ChipSupport.Build]

theorem still_attempt (line : String) {r : Request} (hr : moves (.request r) = false) :
    Still (attempt line r).run :=
  ((asks_attempt (L := library) line r).adapt Error.library).leaves hr fun _ => rfl

theorem still_bringUp (mode : TransferMode) : Still (bringUp mode).run := by
  refine ChipSupport.Action.leaves_bind (still_attempt _ rfl) fun _ => ?_
  refine ChipSupport.Action.leaves_bind (still_attempt _ rfl) fun _ => ?_
  refine ChipSupport.Action.leaves_bind (ChipSupport.Action.leaves_modify fun _ => rfl) fun _ => ?_
  exact still_attempt _ rfl

theorem still_shutDown : Still shutDown.run :=
  ChipSupport.Action.leaves_thenAlways (still_attempt _ rfl) (.modify fun _ => rfl)

theorem still_configure (index : UInt8) : Still (configure index).run := by
  rw [configure]
  split
  · exact still_attempt _ rfl
  · exact ChipSupport.Action.leaves_report rfl

end Operations

/-- The event of a look at a flag. -/
abbrev look (a : Access) (flag : Bool) : Event library.interface := ⟨.access a, flag⟩

section Doing

variable {s : MultichannelBus} {t : StandIn}

theorem moves_of_still {α : Type} {x : StateT MultichannelBus library.Task α} (hx : Still x) :
    Moves [] [] 0 t (doing StandIn.multichannelBus x s t).state := by
  obtain ⟨hcalls, -⟩ := hx s _ _ _
    (Program.runs_course (h := StandIn.multichannelBus.alone) (x.run s) t)
  have hkept := Program.course_keeps (fun u : StandIn => (u.received, u.sent))
    (fun c w hc => StandIn.alone_still c w hc) (x.run s) t hcalls
  obtain ⟨hqueue, hlog⟩ := Prod.mk.inj hkept
  constructor
  · rw [List.append_nil]
    exact congrArg Array.toList hlog
  · rfl
  · exact hqueue

theorem doing_attempt [ChipSupport.Build] (line : String) (r : Request) :
    doing StandIn.multichannelBus (attempt line r).run s t =
      ⟨[StandIn.multichannelBus.reply t r],
        ((StandIn.multichannelBus.request r t).1.mapError Error.library, s),
        (StandIn.multichannelBus.request r t).2⟩ :=
  doing_adapt (ChipSupport.doing_attempt (L := library) line r)

theorem doing_request (r : Request) :
    doing StandIn.multichannelBus (request r).run s t =
      ⟨[StandIn.multichannelBus.reply t r],
        ((StandIn.multichannelBus.request r t).1.mapError fun e => .failed (.library e), s),
        (StandIn.multichannelBus.request r t).2⟩ :=
  doing_adapt (ChipSupport.doing_request (L := library) r)

/-- A writing, if it is told whether it has failed. -/
theorem moves_of_write {words sent : List UInt16}
    (herror : ∀ e, (StandIn.multichannelBus.request (.write words) t).1 = .error e → sent = [])
    (hok : (StandIn.multichannelBus.request (.write words) t).1 = .ok () → sent = words) :
    Moves sent [] 0 t (StandIn.multichannelBus.request (.write words) t).2 := by
  obtain ⟨hqueue, houtcome⟩ := StandIn.request_write words t
  refine ⟨?_, rfl, hqueue⟩
  obtain ⟨e, hreply, hlog⟩ | ⟨hreply, hlog⟩ := houtcome
  · rw [herror e hreply, hlog, List.append_nil]
  · rw [hok hreply, hlog]

theorem moves_write [ChipSupport.Build] (words : List UInt16) :
    let x := doing StandIn.multichannelBus (write words).run s t
    Moves (sentBy (.write words) x.result.1) [] 0 t x.state := by
  rw [write]
  split
  · rw [refuse, doing_report]
    exact moves_nothing t
  · rw [doing_attempt]
    refine moves_of_write (fun e hreply => ?_) fun hreply => ?_
    · rw [hreply]
      rfl
    · rw [hreply]
      rfl

/-- A look at the flag, and a writing if the word can be taken. -/
theorem doing_writeWord (word : UInt16) :
    doing StandIn.multichannelBus (writeWord word).run s t =
      (if t.transmitEmpty then doing StandIn.multichannelBus (request (.write [word])).run s t
        else ⟨[], (.error .wouldBlock, s), t⟩).behind [look .transmitEmpty t.transmitEmpty] := by
  have hlook : doing StandIn.multichannelBus
      (liftM isTransmitEmpty : Action (NonBlocking Error) Bool).run s t =
        ⟨[look .transmitEmpty t.transmitEmpty], (.ok t.transmitEmpty, s), t⟩ := rfl
  have hrun : (writeWord word).run = _ := ChipSupport.Action.run_bind _
  rw [hrun, doing_bind hlook]
  cases t.transmitEmpty <;> rfl

theorem moves_writeWord (word : UInt16) :
    let x := doing StandIn.multichannelBus (writeWord word).run s t
    Moves (sentBy (.writeWord word) x.result.1) [] 0 t x.state := by
  rw [doing_writeWord]
  split
  · rw [doing_request]
    refine moves_of_write (fun e hreply => ?_) fun hreply => ?_
    · rw [Course.behind, hreply]
      rfl
    · rw [Course.behind, hreply]
      rfl
  · exact moves_nothing t

/-- A reading, if it is told what was read. -/
theorem moves_of_read {count wanted : Nat} {received : List UInt16}
    (herror : ∀ e, (StandIn.multichannelBus.request (.read count) t).1 = .error e →
      received = [] ∧ wanted = 0)
    (hok : ∀ words : Vector UInt16 count,
      (StandIn.multichannelBus.request (.read count) t).1 = .ok words →
        received = words.toList ∧ wanted = count) :
    Moves [] received wanted t (StandIn.multichannelBus.request (.read count) t).2 := by
  obtain ⟨hlog, houtcome⟩ := StandIn.request_read count t
  obtain ⟨e, hreply, hqueue⟩ | ⟨words, hreply, hwords, hqueue⟩ := houtcome
  · obtain ⟨rfl, rfl⟩ := herror e hreply
    exact ⟨by rw [hlog, List.append_nil], rfl, hqueue⟩
  · obtain ⟨rfl, rfl⟩ := hok words hreply
    exact ⟨by rw [hlog, List.append_nil], hwords, hqueue⟩

theorem moves_read [ChipSupport.Build] (buffer : List UInt16) :
    let x := doing StandIn.multichannelBus (read buffer) s t
    Moves [] (receivedBy (.read buffer) x.result.1) (wantedBy (.read buffer) x.result.1) t
      x.state := by
  rw [read]
  split
  · rw [refuse, doing_bind (doing_report _ _)]
    exact moves_nothing t
  · rw [doing_bind (doing_attempt _ _)]
    cases hreply : (StandIn.multichannelBus.request (.read buffer.length) t).1 with
    | error e =>
      refine moves_of_read (fun _ _ => ⟨rfl, rfl⟩) fun words hwords => ?_
      exact absurd (hreply.symm.trans hwords) nofun
    | ok words =>
      refine moves_of_read (fun e he => absurd (hreply.symm.trans he) nofun) fun words' hwords => ?_
      obtain rfl := Except.ok.inj (hreply.symm.trans hwords)
      exact ⟨rfl, rfl⟩

theorem toList_of_one (words : Vector UInt16 1) : words.toList = [words.get ⟨0, Nat.one_pos⟩] := by
  obtain ⟨⟨list⟩, hlength⟩ := words
  obtain ⟨word, rfl⟩ := List.length_eq_one_iff.1 hlength
  rfl

/-- A look at the flag, and a reading if there is something to be read. -/
theorem doing_readWord :
    doing StandIn.multichannelBus readWord.run s t =
      (if t.receiveFull then doing StandIn.multichannelBus
          (request (.read 1) >>= fun received => pure (received.get ⟨0, Nat.one_pos⟩)).run s t
        else ⟨[], (.error .wouldBlock, s), t⟩).behind [look .receiveFull t.receiveFull] := by
  have hlook : doing StandIn.multichannelBus
      (liftM isReceiveFull : Action (NonBlocking Error) Bool).run s t =
        ⟨[look .receiveFull t.receiveFull], (.ok t.receiveFull, s), t⟩ := rfl
  have hrun : readWord.run = _ := ChipSupport.Action.run_bind _
  rw [hrun, doing_bind hlook]
  cases t.receiveFull <;> rfl

theorem moves_readWord :
    let x := doing StandIn.multichannelBus readWord.run s t
    Moves [] (receivedBy .readWord x.result.1) (wantedBy .readWord x.result.1) t x.state := by
  rw [doing_readWord]
  split
  · rw [ChipSupport.Action.run_bind, doing_bind (doing_request _)]
    cases hreply : (StandIn.multichannelBus.request (.read 1) t).1 with
    | error e =>
      refine moves_of_read (fun _ _ => ⟨rfl, rfl⟩) fun words hwords => ?_
      exact absurd (hreply.symm.trans hwords) nofun
    | ok words =>
      refine moves_of_read (fun e he => absurd (hreply.symm.trans he) nofun) fun words' hwords => ?_
      obtain rfl := Except.ok.inj (hreply.symm.trans hwords)
      exact ⟨(toList_of_one words).symm, rfl⟩
  · exact moves_nothing t

/-- Whatever fails, a command moves the words that its answer tells of. -/
theorem moves_doing [ChipSupport.Build] (c : Command) :
    let x := doing StandIn.multichannelBus (perform c) s t
    Moves (sentBy c x.result.1) (receivedBy c x.result.1) (wantedBy c x.result.1) t x.state := by
  cases c with
  | bringUp mode => exact moves_of_still (still_bringUp mode)
  | shutDown => exact moves_of_still still_shutDown
  | configure index => exact moves_of_still (still_configure index)
  | read buffer => exact moves_read buffer
  | write words => exact moves_write words
  | isReceiveFull => exact moves_of_still (.access rfl)
  | isTransmitEmpty => exact moves_of_still (.access rfl)
  | readWord => exact moves_readWord
  | writeWord word => exact moves_writeWord word
  | withDebug sink =>
    have hattach : Still (withDebug sink) := Leaves.bind (.debug rfl) fun _ => .modify fun _ => rfl
    exact moves_of_still hattach

end Doing

/-! ## Plays -/

/-- The `i`-th word that is received in a run, if the queue was `queue` at its start and the log is
`log` when the word is read: the queue's, or once the queue is used up, the last of the log or
zero. -/
def wordAt (queue log : List UInt16) (i : Nat) : UInt16 := queue[i]?.getD (log.getLast?.getD 0)

/-- What comes from the queue comes in its order, and from its front on. -/
theorem take_append_wordAt {front queue log : List UInt16} (n : Nat)
    (hfront : front.take queue.length = queue.take front.length) :
    let next := (List.range' front.length n).map (wordAt queue log)
    (front ++ next).take queue.length = queue.take (front ++ next).length := by
  intro next
  have hlength : next.length = n := by
    rw [List.length_map, List.length_range']
  refine List.ext_getElem? fun i => ?_
  rw [List.length_append, hlength, List.getElem?_take, List.getElem?_take]
  by_cases hi : i < front.length
  · have hold := congrArg (fun words : List UInt16 => words[i]?) hfront
    simp only [List.getElem?_take, if_pos hi] at hold
    rw [List.getElem?_append_left hi, if_pos (Nat.lt_add_right n hi), hold]
  · rw [List.getElem?_append_right (Nat.le_of_not_lt hi)]
    by_cases hn : i < front.length + n
    · -- a new word is the queue's own as long as there is one
      have hnext : next[i - front.length]? = some (wordAt queue log i) := by
        rw [List.getElem?_map, List.getElem?_range' (by omega), Option.map_some]
        congr 2
        omega
      rw [hnext, wordAt, if_pos hn]
      grind
    · rw [if_neg hn, List.getElem?_eq_none (by omega), ite_self]

section Turns

variable [ChipSupport.Build] {queue log : List UInt16} {history : List BusTurn} {t : StandIn}
  (c : stimuli.Call) (s : Session MultichannelBus StandIn)

theorem moves_turn :
    let turn := disturbed.turn c s
    Moves (written turn) (delivered turn) (wanted turn) s.device turn.after.device := by
  cases c with
  | inl c =>
    obtain ⟨calls, k, hperform, -⟩ :=
      s.perform_doing StandIn.multichannelBus perform c (twins_perform c)
    have hturn : disturbed.turn (.inl c) s =
        ⟨.inl c, s, (doing StandIn.multichannelBus (perform c) s.driver s.device).result.1, calls,
          ⟨(doing StandIn.multichannelBus (perform c) s.driver s.device).result.2,
            (doing StandIn.multichannelBus (perform c) s.driver s.device).state, k⟩⟩ := by
      show Turn.mk (C := stimuli) (.inl c) s (s.perform StandIn.multichannelBus perform c).1.1
        (s.perform StandIn.multichannelBus perform c).1.2.toList
        (s.perform StandIn.multichannelBus perform c).2 = _
      rw [hperform]
    rw [hturn]
    exact moves_doing c
  | inr e =>
    refine ⟨(List.append_nil _).symm, rfl, ?_⟩
    show e.val.received.getD s.device.received = s.device.received
    rw [e.property]
    rfl

/-- The stand-in after some turns, if queue and log were so at the start. -/
structure Account (queue log : List UInt16) (turns : List BusTurn) (t : StandIn) : Prop where
  sent : t.sent.toList = log ++ turns.flatMap written
  received : t.received = queue.drop (turns.flatMap delivered).length
  inOrder :
    (turns.flatMap delivered).take queue.length = queue.take (turns.flatMap delivered).length

omit [ChipSupport.Build] in
theorem account_start (t : StandIn) : Account t.received t.sent.toList [] t where
  sent := (List.append_nil _).symm
  received := rfl
  inOrder := List.take_nil

variable {c s}

/-- The next turn delivers the words that are next in the queue. -/
theorem Account.delivered_eq (h : Account queue log history s.device) :
    let turn := disturbed.turn c s
    delivered turn = (List.range' (history.flatMap delivered).length (wanted turn)).map
      (wordAt queue (log ++ history.flatMap written)) := by
  intro turn
  rw [(moves_turn c s).delivered, List.range'_eq_map_range, List.map_map]
  refine List.map_congr_left fun i _ => ?_
  show s.device.received[i]?.getD (s.device.sent.toList.getLast?.getD 0) = _
  rw [h.received, h.sent, List.getElem?_drop]
  rfl

theorem Account.concat (h : Account queue log history s.device) :
    let turn := disturbed.turn c s
    Account queue log (history ++ [turn]) turn.after.device := by
  intro turn
  have hmoves := moves_turn c s
  have hdelivered : (history ++ [turn]).flatMap delivered =
      history.flatMap delivered ++ delivered turn := by
    rw [List.flatMap_append, List.flatMap_singleton]
  have hlength : (delivered turn).length = wanted turn := by
    rw [hmoves.delivered, List.length_map, List.length_range]
  constructor
  · rw [hmoves.log, h.sent, List.flatMap_append, List.flatMap_singleton, List.append_assoc]
  · rw [hmoves.queue, h.received, List.drop_drop, hdelivered, List.length_append, hlength]
  · rw [hdelivered, h.delivered_eq]
    exact take_append_wordAt (wanted turn) h.inOrder

/-- Without a received word nothing is read, and nothing changes. -/
theorem turn_readWord (hflag : s.device.receiveFull = false) :
    disturbed.turn (.inl .readWord) s =
      ⟨.inl .readWord, s, .error .wouldBlock, [look .receiveFull false], s⟩ := by
  obtain ⟨driver, ⟨_, _, _, _, _, _, _, receiveFull, _, _, _, _, _, _, _⟩, console⟩ := s
  obtain rfl : receiveFull = false := hflag
  rfl

/-- Without room for a word nothing is written, and nothing changes. -/
theorem turn_writeWord (word : UInt16) (hflag : s.device.transmitEmpty = false) :
    disturbed.turn (.inl (.writeWord word)) s =
      ⟨.inl (.writeWord word), s, .error .wouldBlock, [look .transmitEmpty false], s⟩ := by
  obtain ⟨driver, ⟨_, _, _, _, _, _, _, _, transmitEmpty, _, _, _, _, _, _⟩, console⟩ := s
  obtain rfl : transmitEmpty = false := hflag
  rfl

end Turns

/-- Over any commands and disturbances, from any queue and log, and whatever fails:

- the log has grown by what was sent by the writings that have succeeded, in their order;
- every reading that succeeds delivers as many words as it had to, those that follow in the queue, or
  the last of the log once the queue is used up; in all, words from the queue are delivered in order
  and once, and the others are still there;
- without a flag a word is neither received nor sent, and nothing changes at all;
- so a caller who sends each word again until it is taken sends each word once. -/
theorem streams_lossless [ChipSupport.Build] (start : Session MultichannelBus StandIn)
    (steps : List stimuli.Call) :
    let turns := (disturbed.play steps start).1
    let final := (disturbed.play steps start).2.device
    let queue := start.device.received
    let log := start.device.sent.toList
    final.sent.toList = log ++ turns.flatMap written ∧
      (∀ before turn later, turns = before ++ turn :: later →
        delivered turn = (List.range' (before.flatMap delivered).length (wanted turn)).map
          (wordAt queue (log ++ before.flatMap written))) ∧
      (turns.flatMap delivered).take queue.length = queue.take (turns.flatMap delivered).length ∧
      final.received = queue.drop (turns.flatMap delivered).length ∧
      (∀ s : Session MultichannelBus StandIn, s.device.receiveFull = false →
        disturbed.turn (.inl .readWord) s =
          ⟨.inl .readWord, s, .error .wouldBlock, [look .receiveFull false], s⟩) ∧
      (∀ (s : Session MultichannelBus StandIn) word, s.device.transmitEmpty = false →
        disturbed.turn (.inl (.writeWord word)) s =
          ⟨.inl (.writeWord word), s, .error .wouldBlock, [look .transmitEmpty false], s⟩) ∧
      ∀ words, Retries words turns → final.sent.toList = log ++ words := by
  intro turns final queue log
  have hstep : ∀ history c (s : Session MultichannelBus StandIn),
      Account queue log history s.device →
        Account queue log (history ++ [disturbed.turn c s]) (disturbed.turn c s).after.device :=
    fun history c s h => h.concat
  have hstart : Account queue log [] start.device := account_start start.device
  have hend : Account queue log turns final :=
    Performer.play_end (P := fun history s => Account queue log history s.device) hstep steps []
      hstart
  refine ⟨hend.sent, fun before turn later hsplit => ?_, hend.inOrder, hend.received,
    fun s => turn_readWord, fun s => turn_writeWord, fun words hretries => ?_⟩
  · obtain ⟨c, s, rfl, hbefore⟩ := Performer.exists_turn
      (P := fun history s => Account queue log history s.device) hstep steps [] hstart hsplit
    exact Account.delivered_eq hbefore
  · rw [hend.sent, hretries.written_eq]

end BoardSupport.MultichannelBus
