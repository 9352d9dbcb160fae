import BoardSupport.Proofs.SerialBus.Transfers
import BoardSupport.Proofs.StandIn.MultichannelBus

/-!
# The stand-in as a serial bus without faults

Without faults, and with nothing in the queue of words to be received, the stand-in stays that way
whatever is called (`quiet_alone`), and what is received is what was sent last: an exchange gets its own
word back (`exchange_echoed`).
-/

namespace BoardSupport.StandIn

open ChipSupport (doing doing_adapt doing_bind_ok)
open SerialBus (exchange)

/-- No call fails, and no word is waiting to be received. -/
structure Quiet (s : StandIn) : Prop where
  faults : s.faults = []
  received : s.received = []

namespace Quiet

variable {s : StandIn}

theorem struck (h : Quiet s) (entry : String) : Quiet (s.struck entry) := by
  refine ⟨?_, h.received⟩
  show (Fault.onAll entry s.faults).2 = []
  rw [h.faults]
  rfl

/-- A call of the serial bus does what it has to. -/
theorem request_eq (h : Quiet s) (r : SerialBus.Request) :
    serialBus.request r s =
      (.ok (onSerialBus r (s.struck r.entry)).1, (onSerialBus r (s.struck r.entry)).2) := by
  have hrequest : serialBus.request r s =
    settle (onSerialBus r) (Fault.onAll r.entry s.faults).1 (s.struck r.entry) := rfl
  rw [hrequest, h.faults]
  rfl

/-- What is done on the bus puts no word into the queue. -/
theorem onSerialBus (h : Quiet s) (r : SerialBus.Request) : Quiet (onSerialBus r s).2 := by
  cases r with
  | read count =>
    have hstate : (StandIn.onSerialBus (.read count) s).2 = s.dequeued count := (receive_eq count s).2
    rw [hstate]
    refine ⟨h.faults, ?_⟩
    show s.received.drop count = []
    rw [h.received, List.drop_nil]
  | _ => exact ⟨h.faults, h.received⟩

theorem alone (h : Quiet s) (c : SerialBus.library.Call) : Quiet (serialBus.alone c s).2 := by
  cases c with
  | request r =>
    have hstate : (serialBus.alone (.request r) s).2 = (serialBus.request r s).2 := rfl
    rw [hstate, h.request_eq]
    exact (h.struck r.entry).onSerialBus r
  | access a => exact ⟨h.faults, h.received⟩
  | leftover => exact h
  | debug call => exact h

end Quiet

/-- A request that is served. -/
theorem doing_attempt [ChipSupport.Build] {s t : StandIn} {r : SerialBus.Request} {v : r.Value}
    (h : serialBus.request r s = (.ok v, t)) (line : String) (bus : SerialBus) :
    doing serialBus (SerialBus.attempt line r).run bus s = ⟨[serialBus.reply s r], (.ok v, bus), t⟩ := by
  have hattempt := doing_adapt (f := SerialBus.Error.library)
    (ChipSupport.doing_attempt (d := serialBus) (s := bus) (t := s) line r)
  rw [h] at hattempt
  exact hattempt

/-- With an empty queue the word sent last is received. -/
theorem receive_one {s : StandIn} (h : Quiet s) {earlier : List UInt16} {word : UInt16}
    (hsent : s.sent.toList = earlier ++ [word]) : (receive 1 s).1 = #v[word] := by
  have hupcoming : s.upcoming 0 = word := by
    rw [upcoming, h.received, lastSent, hsent, List.getLast?_concat]
    rfl
  have hlist : (receive 1 s).1.toList = [word] := by
    rw [(receive_eq 1 s).1, ← hupcoming]
    rfl
  exact Vector.toList_inj.1 hlist

/-- What is sent is received. -/
theorem exchange_echoed [ChipSupport.Build] {s : StandIn} (h : Quiet s) (word : UInt16) (bus : SerialBus) :
    (doing serialBus (exchange word).run bus s).result.1 = .ok word := by
  let sent : StandIn := (onSerialBus (.write [word]) (s.struck "SPI_write")).2
  have hwrite : serialBus.request (.write [word]) s = (.ok (), sent) := h.request_eq (.write [word])
  have hquiet : Quiet sent := (h.struck "SPI_write").onSerialBus (.write [word])
  have hlog : (sent.struck "SPI_read").sent.toList = s.sent.toList ++ [word] := Array.toList_appendList
  have hread : serialBus.request (.read 1) sent =
      (.ok #v[word], (receive 1 (sent.struck "SPI_read")).2) := by
    rw [hquiet.request_eq (.read 1), ← receive_one (hquiet.struck "SPI_read") hlog]
    rfl
  rw [exchange, doing_bind_ok (doing_attempt hwrite _ bus), Course.behind,
    doing_bind_ok (doing_attempt hread _ bus)]
  rfl

end BoardSupport.StandIn
