import BoardSupport.Proofs.ChipSupport.Exchange
import BoardSupport.Proofs.StandIn.Calls
import BoardSupport.StandIn.Devices

/-!
# The stand-in as the multichannel bus

The stand-in keeps the words still to be received in a queue and the words sent in a log.  A call that
fails touches neither.  A reading takes as many words from the queue as it delivers, and once the queue
is empty it delivers the last word of the log.

- `upcoming`: the words that readings would deliver, one after another.
- `request_write` and `request_read`: the two calls that touch queue and log.
- `alone_still`: all other calls touch neither.
-/

namespace BoardSupport.StandIn

open MultichannelBus (Request)

/-! ## Receiving -/

/-- The word that is received when the queue is empty: the last of the log, or zero. -/
def lastSent (s : StandIn) : UInt16 := s.sent.toList.getLast?.getD 0

/-- The word that is received after `i` others. -/
def upcoming (s : StandIn) (i : Nat) : UInt16 := s.received[i]?.getD s.lastSent

/-- The stand-in without the first `n` words of its queue. -/
def dequeued (s : StandIn) (n : Nat) : StandIn := { s with received := s.received.drop n }

theorem upcoming_dequeued (s : StandIn) (m i : Nat) :
    (s.dequeued m).upcoming i = s.upcoming (m + i) := by
  show (s.received.drop m)[i]?.getD s.lastSent = s.upcoming (m + i)
  rw [List.getElem?_drop]
  rfl

theorem dequeued_dequeued (s : StandIn) (m n : Nat) :
    (s.dequeued m).dequeued n = s.dequeued (m + n) := by
  show { s with received := (s.received.drop m).drop n } = s.dequeued (m + n)
  rw [List.drop_drop]
  rfl

theorem receiveWord_eq (s : StandIn) : receiveWord s = (s.upcoming 0, s.dequeued 1) := by
  obtain ⟨_, _, _, _, _, received, sent, _, _, _, _, _, _, _, _⟩ := s
  cases received with
  | nil =>
    rw [upcoming, lastSent, Array.getLast?_toList]
    rfl
  | cons word received => rfl

theorem ofFnM_receiveWord (n : Nat) (s : StandIn) :
    List.ofFnM (fun _ : Fin n => receiveWord) s =
      ((List.range n).map s.upcoming, s.dequeued n) := by
  induction n generalizing s with
  | zero =>
    rw [List.ofFnM_zero]
    rfl
  | succ n ih =>
    have hfirst : List.ofFnM (fun _ : Fin (n + 1) => receiveWord) s =
        ((receiveWord s).1 :: (List.ofFnM (fun _ : Fin n => receiveWord) (receiveWord s).2).1,
          (List.ofFnM (fun _ : Fin n => receiveWord) (receiveWord s).2).2) := by
      rw [List.ofFnM_succ]
      rfl
    -- the words after the first are those that are upcoming once it is gone
    have hlater : (List.range n).map (s.dequeued 1).upcoming =
        (List.range n).map (s.upcoming ∘ Nat.succ) := by
      refine List.map_congr_left fun i _ => ?_
      rw [upcoming_dequeued, Nat.add_comm]
      rfl
    rw [hfirst, receiveWord_eq, ih, dequeued_dequeued, Nat.add_comm 1 n, List.range_succ_eq_map,
      List.map_cons, List.map_map, ← hlater]

theorem receive_eq (n : Nat) (s : StandIn) :
    (receive n s).1.toList = (List.range n).map s.upcoming ∧ (receive n s).2 = s.dequeued n := by
  have hwords : (Vector.toList <$> receive n) s = ((List.range n).map s.upcoming, s.dequeued n) := by
    rw [receive, Vector.toList_ofFnM, ofFnM_receiveWord]
  exact Prod.mk.inj hwords

/-! ## The two calls that move words -/

/-- Writing fails and moves nothing, or it appends to the log. -/
theorem request_write (words : List UInt16) (s : StandIn) :
    let after := (multichannelBus.request (.write words) s).2
    after.received = s.received ∧
      ((∃ e, (multichannelBus.request (.write words) s).1 = .error e ∧ after.sent = s.sent) ∨
        (multichannelBus.request (.write words) s).1 = .ok () ∧
          after.sent.toList = s.sent.toList ++ words) := by
  obtain ⟨e, h⟩ | h := answer_cases (Request.write words).entry (send words) s
  · have hrequest : multichannelBus.request (.write words) s = _ := h
    rw [hrequest]
    exact ⟨rfl, .inl ⟨e, rfl, rfl⟩⟩
  · have hrequest : multichannelBus.request (.write words) s = _ := h
    rw [hrequest]
    exact ⟨rfl, .inr ⟨rfl, Array.toList_appendList⟩⟩

/-- Reading fails and moves nothing, or it delivers the upcoming words and takes them from the
queue. -/
theorem request_read (count : Nat) (s : StandIn) :
    let after := (multichannelBus.request (.read count) s).2
    after.sent = s.sent ∧
      ((∃ e, (multichannelBus.request (.read count) s).1 = .error e ∧
          after.received = s.received) ∨
        ∃ words : Vector UInt16 count, (multichannelBus.request (.read count) s).1 = .ok words ∧
          words.toList = (List.range count).map s.upcoming ∧
          after.received = s.received.drop count) := by
  obtain ⟨e, h⟩ | h := answer_cases (Request.read count).entry (receive count) s
  · have hrequest : multichannelBus.request (.read count) s = _ := h
    rw [hrequest]
    exact ⟨rfl, .inl ⟨e, rfl, rfl⟩⟩
  · obtain ⟨hwords, hstate⟩ := receive_eq count (s.struck (Request.read count).entry)
    have hrequest : multichannelBus.request (.read count) s = _ := h
    rw [hrequest]
    exact ⟨by rw [hstate]; rfl, .inr ⟨_, rfl, hwords, by rw [hstate]; rfl⟩⟩

/-- The call may move words. -/
def moves : MultichannelBus.library.Call → Bool
  | .request (.read _) | .request (.write _) => true
  | _ => false

/-- No other call moves words. -/
theorem alone_still (c : MultichannelBus.library.Call) (s : StandIn) (hc : moves c = false) :
    ((multichannelBus.alone c s).2.received, (multichannelBus.alone c s).2.sent) =
      (s.received, s.sent) := by
  cases c with
  | request r =>
    have hact : ∀ s, ((onMultichannelBus r s).2.received, (onMultichannelBus r s).2.sent) =
        (s.received, s.sent) := by
      intro s
      cases r <;> first | rfl | cases hc
    obtain ⟨e, h⟩ | h := answer_cases r.entry (onMultichannelBus r) s
    · have hrequest : multichannelBus.alone (.request r) s = _ := h
      rw [hrequest]
      rfl
    · have hrequest : multichannelBus.alone (.request r) s = _ := h
      rw [hrequest]
      exact hact (s.struck r.entry)
  | access a => cases a <;> rfl
  | leftover => rfl
  | debug call => rfl

end BoardSupport.StandIn
