import BoardSupport.Proofs.Converter.Conversion

/-!
# The stand-in as a converter without faults

Without faults the stand-in serves every request, and a poll finds a result as soon as there have been
more polls than the converter is busy for (`readyAt`).  The counter of polls is a word, so
this holds as long as it does not wrap around.
-/

namespace BoardSupport.StandIn

open Converter (Request ReadyAt pollReply polling)

/-- The stand-in after `n` more polls. -/
def polled (s : StandIn) (n : Nat) : StandIn := { s with polls := s.polls + .ofNat n }

theorem polled_zero (s : StandIn) : s.polled 0 = s := by
  show { s with polls := s.polls + 0 } = s
  rw [UInt32.add_zero]

theorem polled_polled (s : StandIn) (m n : Nat) : (s.polled m).polled n = s.polled (m + n) := by
  rw [polled, polled, polled, UInt32.ofNat_add, UInt32.add_assoc]

theorem faults_polled (s : StandIn) (n : Nat) : (s.polled n).faults = s.faults := rfl

theorem request_status {s : StandIn} (hs : s.faults = []) :
    StandIn.converter.request .status s = (.ok (s.polled 1).isReady, s.polled 1) := by
  obtain ⟨_, _, _, _, _, _, _, _, _, _, _, _, _, faults, _⟩ := s
  obtain rfl : faults = [] := hs
  rfl

/-- The stand-in has no faults still, and the polls stand as they did. -/
structure PollsAs (s t : StandIn) : Prop where
  faults : t.faults = []
  neverReady : t.neverReady = s.neverReady
  busyPolls : t.busyPolls = s.busyPolls
  polls : t.polls = s.polls

theorem PollsAs.trans {s t u : StandIn} (hst : PollsAs s t) (htu : PollsAs t u) : PollsAs s u :=
  ⟨htu.faults, htu.neverReady.trans hst.neverReady, htu.busyPolls.trans hst.busyPolls,
    htu.polls.trans hst.polls⟩

/-- A request that is no poll is served, and is nothing to the polls. -/
theorem request_other {s : StandIn} (hs : s.faults = []) {r : Request} (hr : r ≠ .status) :
    (∃ v, (StandIn.converter.request r s).1 = .ok v) ∧
      PollsAs s (StandIn.converter.request r s).2 := by
  obtain ⟨_, samples, _, _, _, _, _, _, _, _, _, _, _, faults, _⟩ := s
  obtain rfl : faults = [] := hs
  cases r with
  | status => exact absurd rfl hr
  | read => cases samples <;> exact ⟨⟨_, rfl⟩, rfl, rfl, rfl, rfl⟩
  | _ => exact ⟨⟨_, rfl⟩, rfl, rfl, rfl, rfl⟩

/-- All requests are served. -/
theorem serves {s : StandIn} (hs : s.faults = []) (rs : List Request) :
    StandIn.converter.Serves s rs := by
  induction rs generalizing s with
  | nil => exact ChipSupport.Device.serves_nil
  | cons r rs ih =>
    have hone : (∃ v, (StandIn.converter.request r s).1 = .ok v) ∧
        (StandIn.converter.request r s).2.faults = [] := by
      by_cases hr : r = .status
      · subst hr
        rw [request_status hs]
        exact ⟨⟨_, rfl⟩, hs⟩
      · exact ⟨(request_other hs hr).1, (request_other hs hr).2.faults⟩
    have hfirst := ChipSupport.Device.serves_singleton.2 hone.1
    exact ChipSupport.Device.serves_cons.2
      ⟨(ChipSupport.Device.serves_cons.1 hfirst).1, ih hone.2⟩

theorem afterAll_other {s : StandIn} (hs : s.faults = []) {rs : List Request}
    (hrs : ∀ r ∈ rs, r ≠ .status) : PollsAs s (StandIn.converter.afterAll s rs) := by
  induction rs generalizing s with
  | nil => exact ⟨hs, rfl, rfl, rfl⟩
  | cons r rs ih =>
    obtain ⟨hr, hrs⟩ := List.forall_mem_cons.1 hrs
    obtain ⟨-, hfirst⟩ := request_other hs hr
    exact hfirst.trans (ih hfirst.faults hrs)

theorem afterAll_polling {s : StandIn} (hs : s.faults = []) (n : Nat) :
    StandIn.converter.afterAll s (polling n) = s.polled n := by
  induction n generalizing s with
  | zero => exact (polled_zero s).symm
  | succ n ih =>
    show StandIn.converter.afterAll (StandIn.converter.request .status s).2 (polling n) = _
    rw [request_status hs, ih ((faults_polled s 1).trans hs), polled_polled, Nat.add_comm]

theorem pollReply_eq {s : StandIn} (hs : s.faults = []) (n : Nat) :
    pollReply StandIn.converter s n = .ok (s.polled (n + 1)).isReady := by
  rw [pollReply, afterAll_polling hs, request_status ((faults_polled s n).trans hs),
    polled_polled]

/-- As long as the counter does not wrap around, the converter is ready once it has been polled more
often than it is busy for. -/
theorem isReady_polled {s : StandIn} (hready : s.neverReady = false) {n : Nat}
    (hn : s.polls.toNat + n < UInt32.size) :
    (s.polled n).isReady = decide (s.busyPolls.toNat < s.polls.toNat + n) := by
  have hcount : (s.polls + .ofNat n).toNat = s.polls.toNat + n := by
    rw [UInt32.toNat_add, UInt32.toNat_ofNat', Nat.add_mod_mod, Nat.mod_eq_of_lt hn]
  show (!s.neverReady && decide (s.busyPolls < s.polls + .ofNat n)) = _
  rw [hready, Bool.not_false, Bool.true_and]
  exact decide_eq_decide.2 (by rw [UInt32.lt_iff_toNat_lt, hcount])

/-- The first poll to find a result is the first of all that the converter is not busy for. -/
theorem readyAt {s : StandIn} (hs : s.faults = []) (hready : s.neverReady = false)
    (hpolls : s.polls < 0xFFFFFFFF) (hbusy : s.busyPolls < 0xFFFFFFFF) :
    ReadyAt StandIn.converter s (max 1 (s.busyPolls.toNat + 1 - s.polls.toNat)) := by
  have hpolls : s.polls.toNat < 0xFFFFFFFF := UInt32.lt_iff_toNat_lt.1 hpolls
  have hbusy : s.busyPolls.toNat < 0xFFFFFFFF := UInt32.lt_iff_toNat_lt.1 hbusy
  have hsize : UInt32.size = 0xFFFFFFFF + 1 := rfl
  -- as many polls find nothing as the converter is still busy for
  refine ⟨s.busyPolls.toNat - s.polls.toNat, by omega, fun i hi => ?_, ?_⟩
  · rw [pollReply_eq hs, isReady_polled hready (by omega)]
    exact congrArg _ (decide_eq_false (by omega))
  · rw [pollReply_eq hs, isReady_polled hready (by omega)]
    exact congrArg _ (decide_eq_true (by omega))

end BoardSupport.StandIn
