import BoardSupport.Proofs.ChipSupport.Replay
import BoardSupport.Proofs.Converter.Handle
import BoardSupport.Proofs.Converter.Polling
import BoardSupport.Proofs.DebugOutput.Operations

/-!
# Runs of a reading

What can be said of a reading whoever answers it.  A reading keeps the settings and polls no more often
than they allow, and if it yields a sample it is complete: the channel is prepared, polled until there
is a result, read and shut down, and no call fails (`runs_readPin`).
-/

namespace BoardSupport.Converter

open ChipSupport (Granted Leaves libraryCalls libraryCalls_append runs_end_iff
  runs_run_bind_iff)

variable {s t : Converter} {es : List (Event library.interface)}

instance (a : library.Access) : Inhabited (library.Answer a) := nomatch a

/-- No stage but the wait polls, and all of them keep the settings. -/
theorem unwaiting_config : Unwaiting (fun c => c ≠ .request Request.status) config :=
  unwaiting_status fun _ _ => rfl

theorem runs_unpolled {α : Type} {x : StateT Converter library.Task α} {a : α}
    (hx : Leaves (fun c => c ≠ .request Request.status) config x)
    (h : Program.Runs (x.run s) es (a, t)) : pollCount es = 0 ∧ t.config = s.config := by
  obtain ⟨hes, ht⟩ := hx s es a t h
  exact ⟨pollCount_eq_zero hes, ht⟩

/-- What is said about a failure is no poll. -/
theorem pollCount_messageCalls [ChipSupport.Build] (line : String)
    (said : Except ChipSupport.WriteError Unit) :
    pollCount (ChipSupport.Action.messageCalls line said) = 0 := by
  unfold ChipSupport.Action.messageCalls
  cases ChipSupport.Build.debugMessages with
  | true => rfl
  | false => rfl

section Built

variable [build : ChipSupport.Build]

/-! ## The wait -/

/-- Polling makes at most so many polls, and if it finds a result, then none of them has failed. -/
theorem runs_pollUntilReady {n : Nat} {r : Except ChipSupport.Error Bool}
    (h : (pollUntilReady n).Runs s es r t) :
    t = s ∧ pollCount es ≤ n ∧
      (r = .ok true → ∃ k, 1 ≤ k ∧ k ≤ n ∧ Granted (libraryCalls es) (polling k)) := by
  induction n generalizing es with
  | zero =>
    obtain ⟨rfl, rfl, rfl⟩ := ChipSupport.Action.runs_pure_iff.1 h
    exact ⟨rfl, Nat.le_refl 0, nofun⟩
  | succ n ih =>
    have hrun : Program.Runs ((pollUntilReady (n + 1)).run.run s) es (r, t) := h
    rw [run_pollUntilReady_succ] at hrun
    obtain ⟨es₁, first, u, es₂, rfl, hfirst, hlater⟩ := runs_run_bind_iff.1 hrun
    obtain ⟨⟨said, rfl⟩, rfl⟩ := ChipSupport.Action.runs_attempt_iff.1 hfirst
    rcases first with e | ready
    · obtain ⟨rfl, rfl, rfl⟩ := runs_end_iff.1 hlater
      refine ⟨rfl, ?_, nofun⟩
      show pollCount ([_] ++ ChipSupport.Action.messageCalls _ said ++ []) ≤ n + 1
      rw [List.append_nil, pollCount_append, pollCount_messageCalls]
      exact Nat.succ_le_succ n.zero_le
    · cases ready with
      | true =>
        obtain ⟨rfl, rfl, rfl⟩ := runs_end_iff.1 hlater
        refine ⟨rfl, Nat.succ_le_succ n.zero_le, fun _ => ?_⟩
        exact ⟨1, Nat.le_refl 1, Nat.succ_le_succ n.zero_le, rfl, List.forall_mem_singleton.2 rfl⟩
      | false =>
        obtain ⟨rfl, hcount, hready⟩ := ih hlater
        refine ⟨rfl, ?_, fun hr => ?_⟩
        · rw [pollCount_append]
          show 1 + pollCount es₂ ≤ n + 1
          omega
        · obtain ⟨k, hpos, hk, hgranted⟩ := hready hr
          have hpoll : Granted [event .status (.ok false)] (polling 1) :=
            ⟨rfl, List.forall_mem_singleton.2 rfl⟩
          have hpolls : polling 1 ++ polling k = polling (k + 1) := rfl
          refine ⟨k + 1, Nat.succ_pos k, Nat.succ_le_succ hk, ?_⟩
          rw [libraryCalls_append, ← hpolls]
          exact hpoll.append hgranted

theorem runs_runOut {limit : PollLimit} {r : Except Error Unit} (h : (runOut limit).Runs s es r t) :
    pollCount es = 0 ∧ t = s ∧ r ≠ .ok () := by
  cases limit with
  | unbounded =>
    obtain ⟨rfl, rfl, rfl⟩ := ChipSupport.Action.runs_throw_iff.1 h
    exact ⟨rfl, rfl, nofun⟩
  | polls limit =>
    obtain ⟨⟨said, rfl⟩, rfl, rfl⟩ := ChipSupport.Action.runs_report_iff.1 h
    exact ⟨pollCount_messageCalls _ said, rfl, nofun⟩

theorem runs_awaitReady {budget : Nat} {r : Except Error Unit}
    (h : (awaitReady budget).Runs s es r t) :
    t = s ∧ pollCount es ≤ s.config.pollLimit.bound budget ∧ (r = .ok () →
      ∃ k, 1 ≤ k ∧ k ≤ s.config.pollLimit.bound budget ∧ Granted (libraryCalls es) (polling k)) := by
  have hrun : Program.Runs ((awaitReady budget).run.run s) es (r, t) := h
  rw [run_awaitReady_eq, run_pollOr] at hrun
  obtain ⟨es₁, answer, u, es₂, rfl, hpolls, hlater⟩ := runs_run_bind_iff.1 hrun
  obtain ⟨rfl, hcount, hready⟩ := runs_pollUntilReady hpolls
  rw [pollCount_append, libraryCalls_append]
  rcases answer with e | ready
  · obtain ⟨rfl, rfl, rfl⟩ := runs_end_iff.1 hlater
    exact ⟨rfl, hcount, nofun⟩
  · cases ready with
    | true =>
      obtain ⟨rfl, rfl, rfl⟩ := runs_end_iff.1 hlater
      refine ⟨rfl, hcount, fun _ => ?_⟩
      rw [show libraryCalls ([] : List (Event library.interface)) = [] from rfl, List.append_nil]
      exact hready rfl
    | false =>
      obtain ⟨hnone, rfl, hr⟩ := runs_runOut hlater
      rw [hnone]
      exact ⟨rfl, hcount, fun h => absurd h hr⟩

/-- Settling an error polls no more and keeps the settings. -/
theorem runs_settle_polls {e : Error} {r : Except Error Unit} (h : (settle e).Runs s es r t) :
    pollCount es = 0 ∧ t.config = s.config ∧ r = .error e := by
  have hrun : Program.Runs ((settle e).run.run s) es (r, t) := h
  by_cases he : e = .timeout
  · subst he
    rw [run_settle_timeout] at hrun
    obtain ⟨es₁, ⟨⟩, u, es₂, rfl, habandon, hend⟩ := runs_run_bind_iff.1 hrun
    obtain ⟨rfl, rfl, rfl⟩ := runs_end_iff.1 hend
    obtain ⟨hcount, ht⟩ := runs_unpolled unwaiting_config.leaves_abandon habandon
    rw [List.append_nil]
    exact ⟨hcount, ht, rfl⟩
  · rw [run_settle he] at hrun
    obtain ⟨rfl, rfl, rfl⟩ := runs_end_iff.1 hrun
    exact ⟨rfl, rfl, rfl⟩

theorem runs_wait_polls {budget : Nat} {r : Except Error Unit} (h : (wait budget).Runs s es r t) :
    t.config = s.config ∧ pollCount es ≤ s.config.pollLimit.bound budget ∧ (r = .ok () →
      ∃ k, 1 ≤ k ∧ k ≤ s.config.pollLimit.bound budget ∧ Granted (libraryCalls es) (polling k)) := by
  obtain ⟨⟨⟩, rfl, hawait⟩ | ⟨es₁, e, u, es₂, rfl, hawait, hsettle⟩ :=
    ChipSupport.Action.runs_tryCatch_iff.1 h
  · obtain ⟨rfl, hpolls⟩ := runs_awaitReady hawait
    exact ⟨rfl, hpolls⟩
  · obtain ⟨rfl, hcount, -⟩ := runs_awaitReady hawait
    obtain ⟨hnone, ht, rfl⟩ := runs_settle_polls hsettle
    rw [pollCount_append, hnone]
    exact ⟨ht, hcount, nofun⟩

/-! ## The reading -/

theorem twins_prepare (pin : Pin) : (prepare pin).Twins build build (prepare pin) := by
  refine ((ChipSupport.Action.Twins.attempt _ _).adapt _).bind fun _ => ?_
  refine ((twins_configureChannel _ _ _).adapt _).bind fun _ => ?_
  exact (ChipSupport.Action.Twins.attempt _ _).adapt _

theorem twins_finish : finish.Twins build build finish := by
  refine ((ChipSupport.Action.Twins.attempt _ _).adapt _).bind fun sample => ?_
  refine (twins_shutDown.adapt _).bind fun _ => ?_
  exact ChipSupport.Action.Twins.pure sample

theorem runs_readPin {budget : Nat} {pin : Pin} {r : Except Error UInt16}
    (h : (readPin budget pin).Runs s es r t) :
    t.config = s.config ∧ pollCount es ≤ s.config.pollLimit.bound budget ∧
      ∀ sample, r = .ok sample → t.handle = .unmapped ∧
        ∃ k, 1 ≤ k ∧ k ≤ s.config.pollLimit.bound budget ∧
          Granted (libraryCalls es) (preparation s.config pin.channel ++ polling k ++ completing) := by
  have hhandle := fate_readPin h
  rw [readPin_eq] at h
  obtain ⟨es₁, ⟨⟩, u, es', rfl, hprepare, h⟩ | ⟨e, rfl, hprepare⟩ :=
    ChipSupport.Action.runs_bind_iff.1 h
  · obtain ⟨hnone, hu⟩ := runs_unpolled (unwaiting_config.leaves_prepare pin) hprepare
    obtain ⟨es₂, ⟨⟩, v, es₃, rfl, hwait, hfinish⟩ | ⟨e, rfl, hwait⟩ :=
      ChipSupport.Action.runs_bind_iff.1 h
    · obtain ⟨hv, hcount, hpolls⟩ := runs_wait_polls hwait
      obtain ⟨hnone', ht⟩ := runs_unpolled unwaiting_config.leaves_finish hfinish
      rw [hu] at hcount hpolls
      refine ⟨ht.trans (hv.trans hu), ?_, ?_⟩
      · rw [pollCount_append, pollCount_append, hnone, hnone']
        omega
      · -- before and after the polls the requests are those of the two sequences
        rintro sample rfl
        obtain ⟨k, hpos, hk, hgranted⟩ := hpolls rfl
        refine ⟨hhandle.of_released nofun, k, hpos, hk, ?_⟩
        have hfirst := ((performs_prepare s pin).granted (twins_prepare pin) hprepare).1
        have hlast := ((performs_finish v).granted twins_finish hfinish).1
        rw [libraryCalls_append, libraryCalls_append, List.append_assoc]
        exact hfirst.append (hgranted.append hlast)
    · -- the wait has failed, and nothing follows it
      obtain ⟨hv, hcount, -⟩ := runs_wait_polls hwait
      rw [hu] at hv hcount
      refine ⟨hv, ?_, nofun⟩
      rw [pollCount_append, hnone, Nat.zero_add]
      exact hcount
  · obtain ⟨hnone, ht⟩ := runs_unpolled (unwaiting_config.leaves_prepare pin) hprepare
    refine ⟨ht, ?_, nofun⟩
    rw [hnone]
    exact Nat.zero_le _

end Built

end BoardSupport.Converter
