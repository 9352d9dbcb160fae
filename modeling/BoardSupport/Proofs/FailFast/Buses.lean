import BoardSupport.HostInterface.Basic
import BoardSupport.MultichannelBus.Command
import BoardSupport.Proofs.ChipSupport.FailFast
import BoardSupport.SerialBus.Command

/-!
# The buses are fail-fast

All commands of the two serial buses and of the host interface follow the rule without an exception.
Those that repeat an exchange are
proved by induction on what is still to be exchanged: a transfer is its first exchange and, if that
succeeds, the transfer of the rest.
-/

namespace BoardSupport

open ChipSupport (Contract Rules Silent calls_debug_iff calls_done_iff calls_run_refusal
  calls_run_report_iff nonBlockingVerdict outcome)
open ChipSupport.Action (Obeys)

variable [ChipSupport.Build]

namespace SerialBus

/-- The library's failures are all there are. -/
def Error.verdict : Error → ChipSupport.Verdict
  | library e => e.verdict

/-- What the serial bus's commands are held to: an empty block is refused by `read` and `write`. -/
def contract : Contract commands SerialBus library where
  refusal _
    | .read buffer =>
      if buffer.isEmpty then some (.error (.library .invalidParams), buffer) else none
    | .write words => if words.isEmpty then some (.error (.library .invalidParams)) else none
    | _ => none
  verdict
    | .bringUp, answer | .shutDown, answer | .setDivider _, answer | .setMode _, answer
    | .write _, answer | .send _, answer | .flush, answer => outcome Error.verdict answer
    | .exchangeByte _, answer => outcome Error.verdict answer
    | .read _, (answer, _) | .fill _, (answer, _) | .transfer .., (answer, _)
    | .transferInPlace _, (answer, _) => outcome Error.verdict answer
    | .setLoopback _, _ | .setOrder _, _ | .withDebug _, _ => .success
  allowed _ := []
  Exception _ _ _ _ := False

section Pieces

variable {R : Rules library SerialBus}

/-- The operation on a buffer keeps to the rule. -/
abbrev FillingObeys (R : Rules library SerialBus)
    (x : StateT SerialBus library.Task (Except Error Unit × List UInt16)) : Prop :=
  ChipSupport.Obeys R (fun answer => outcome Error.verdict answer.1) x

theorem obeys_attempt (line : String) (r : Request) :
    (attempt line r).Obeys R Error.verdict :=
  Obeys.adapt (ChipSupport.obeys_attempt (L := library) line r) fun _ => rfl

theorem obeys_bringUp (hR : ∀ s, R.Kept s) : bringUp.Obeys R Error.verdict := by
  refine (obeys_attempt _ _).bind fun _ => ?_
  refine (obeys_attempt _ _).bind fun _ => ?_
  refine (obeys_attempt _ _).bind fun bank => ?_
  refine (Obeys.modify fun _ _ => hR _).bind fun _ => ?_
  refine Obeys.get.bind fun _ => ?_
  exact obeys_attempt _ _

theorem obeys_shutDown (hR : ∀ s, R.Kept s) : shutDown.Obeys R Error.verdict := by
  refine (obeys_attempt _ _).bind fun _ => ?_
  exact (obeys_attempt _ _).thenAlways (Silent.modify fun _ _ => hR _)

theorem obeys_reconfigure (hR : ∀ s, R.Kept s) (line : String) (edit : Config → Config) :
    (reconfigure line edit).Obeys R Error.verdict := by
  refine (Obeys.modify fun _ _ => hR _).bind fun _ => ?_
  refine Obeys.get.bind fun _ => ?_
  exact obeys_attempt _ _

theorem obeys_exchange (word : UInt16) : (exchange word).Obeys R Error.verdict := by
  refine (obeys_attempt _ _).bind fun _ => ?_
  refine (obeys_attempt _ _).bind fun received => ?_
  exact Obeys.pure _

theorem obeys_exchangeByte (byte : UInt8) : (exchangeByte byte).Obeys R Error.verdict := by
  refine Obeys.get.bind fun _ => ?_
  refine (obeys_exchange _).bind fun word => ?_
  exact Obeys.pure _

theorem obeys_write {words : List UInt16} (h : words.isEmpty = false) :
    (write words).Obeys R Error.verdict := by
  rw [write, h]
  exact obeys_attempt _ _

theorem obeys_read {buffer : List UInt16} (h : buffer.isEmpty = false) :
    FillingObeys R (read buffer) := by
  rw [read, h]
  refine (obeys_attempt _ _).andThen ?_ ?_
  · intro words
    exact ChipSupport.Obeys.pure (.inl rfl)
  · intro e
    exact Silent.leftover.bind fun _ _ => Silent.pure rfl

theorem obeys_send (words : List UInt16) : (send words).Obeys R Error.verdict := by
  rw [send]
  cases hwords : words.isEmpty with
  | true => exact Obeys.pure ()
  | false => exact obeys_write hwords

theorem obeys_fill (buffer : List UInt16) : FillingObeys R (fill buffer) := by
  rw [fill]
  cases hbuffer : buffer.isEmpty with
  | true => exact ChipSupport.Obeys.pure (.inl rfl)
  | false => exact obeys_read hbuffer

theorem obeys_sendOnly (words : List UInt16) : (sendOnly words).Obeys R Error.verdict := by
  induction words with
  | nil => exact Obeys.pure ()
  | cons word words ih => exact (obeys_exchange word).bind fun _ => ih

theorem obeys_transfer (words buffer : List UInt16) : FillingObeys R (transfer words buffer) := by
  induction buffer generalizing words with
  | nil =>
    rw [transfer_nil]
    refine (obeys_sendOnly words).andThen ?_ ?_
    · intro _
      exact ChipSupport.Obeys.pure (.inl rfl)
    · intro e
      exact Silent.pure rfl
  | cons slot buffer ih =>
    rw [transfer_cons]
    refine (obeys_exchange _).andThen ?_ ?_
    · intro word
      exact (ih words.tail).map fun _ => rfl
    · intro e
      exact Silent.pure rfl

theorem obeys_transferInPlace (buffer : List UInt16) : FillingObeys R (transferInPlace buffer) := by
  induction buffer with
  | nil => exact ChipSupport.Obeys.pure (.inl rfl)
  | cons word buffer ih =>
    rw [transferInPlace_cons]
    refine (obeys_exchange word).andThen ?_ ?_
    · intro received
      exact ih.map fun _ => rfl
    · intro e
      exact Silent.pure rfl

end Pieces

theorem contract_holds : contract.Holds perform := by
  refine Contract.holds_of_calls fun s c cs answer t hrun => ?_
  have hkept : ∀ s, (Rules.plain library SerialBus []).Kept s := fun _ => trivial
  cases c with
  | bringUp => exact Contract.met_of_obeys rfl (obeys_bringUp hkept) hrun
  | shutDown => exact Contract.met_of_obeys rfl (obeys_shutDown hkept) hrun
  | setDivider divider => exact Contract.met_of_obeys rfl (obeys_reconfigure hkept _ _) hrun
  | setMode mode => exact Contract.met_of_obeys rfl (obeys_reconfigure hkept _ _) hrun
  | setLoopback enable =>
    exact Contract.met_of_obeys rfl (ChipSupport.Obeys.access (L := library) _) hrun
  | setOrder order =>
    obtain ⟨rfl, -⟩ := calls_done_iff.1 hrun
    exact Contract.met_of_silent rfl rfl
  | exchangeByte byte => exact Contract.met_of_obeys rfl (obeys_exchangeByte byte) hrun
  | write words =>
    refine Contract.met_of_guard rfl ?_ ?_
    · intro hwords
      have hrefuse : write words = refuse "write(): invalid parameter" := if_pos hwords
      simp only [perform, hrefuse] at hrun
      exact calls_run_report_iff.1 hrun
    · intro hwords
      have hends := obeys_write (Bool.not_eq_true _ ▸ hwords) s cs answer t (hkept s) hrun
      exact .inl hends.2.failFast
  | read buffer =>
    refine Contract.met_of_guard rfl ?_ ?_
    · intro hbuffer
      have hrefuse : read buffer = (refuse "read(): invalid parameter").run >>= fun refusal =>
          pure (refusal, buffer) := if_pos hbuffer
      simp only [perform, hrefuse] at hrun
      exact calls_run_refusal hrun
    · intro hbuffer
      have hends := obeys_read (Bool.not_eq_true _ ▸ hbuffer) s cs answer t (hkept s) hrun
      exact .inl hends.2.failFast
  | send words => exact Contract.met_of_obeys rfl (obeys_send words) hrun
  | fill buffer => exact Contract.met_of_obeys rfl (obeys_fill buffer) hrun
  | transfer words buffer => exact Contract.met_of_obeys rfl (obeys_transfer words buffer) hrun
  | transferInPlace buffer => exact Contract.met_of_obeys rfl (obeys_transferInPlace buffer) hrun
  | flush => exact Contract.met_of_obeys rfl (Obeys.pure ()) hrun
  | withDebug sink =>
    obtain ⟨_, later⟩ := calls_debug_iff.1 hrun
    obtain ⟨rfl, -⟩ := calls_done_iff.1 later
    exact Contract.met_of_silent rfl rfl

end SerialBus

namespace MultichannelBus

/-- What the multichannel bus's commands are held to: empty blocks are refused, and so is the number
of a channel that there is not. -/
def contract : Contract commands MultichannelBus library where
  refusal _
    | .configure index => if 3 < index then some (.error (.library .invalidParams)) else none
    | .read buffer =>
      if buffer.isEmpty then some (.error (.library .invalidParams), buffer) else none
    | .write words => if words.isEmpty then some (.error (.library .invalidParams)) else none
    | _ => none
  verdict
    | .bringUp _, answer | .shutDown, answer | .configure _, answer | .write _, answer =>
      outcome SerialBus.Error.verdict answer
    | .read _, (answer, _) => outcome SerialBus.Error.verdict answer
    | .readWord, answer => outcome (nonBlockingVerdict SerialBus.Error.verdict) answer
    | .writeWord _, answer => outcome (nonBlockingVerdict SerialBus.Error.verdict) answer
    | .isReceiveFull, _ | .isTransmitEmpty, _ | .withDebug _, _ => .success
  allowed
    | .readWord | .writeWord _ => [.wouldBlock]
    | _ => []
  Exception _ _ _ _ := False

omit [ChipSupport.Build] in
/-- The numbers from 4 on name no channel, and only they. -/
theorem ofIndex?_eq_none_iff {i : UInt8} : Channel.ofIndex? i = none ↔ 3 < i := by
  simp [Channel.ofIndex?, Channel.all, UInt8.lt_iff_toNat_lt, Nat.succ_le_iff]

section Pieces

variable {R : Rules library MultichannelBus}

theorem obeys_attempt (line : String) (r : Request) :
    (attempt line r).Obeys R SerialBus.Error.verdict :=
  Obeys.adapt (ChipSupport.obeys_attempt (L := library) line r) fun _ => rfl

omit [ChipSupport.Build] in
theorem obeys_request (r : Request) :
    (request r).Obeys R (nonBlockingVerdict SerialBus.Error.verdict) :=
  Obeys.adapt (ChipSupport.obeys_request (L := library) r) fun _ => rfl

theorem obeys_bringUp (hR : ∀ s, R.Kept s) (mode : TransferMode) :
    (bringUp mode).Obeys R SerialBus.Error.verdict := by
  refine (obeys_attempt _ _).bind fun _ => ?_
  refine (obeys_attempt _ _).bind fun bank => ?_
  refine (Obeys.modify fun _ _ => hR _).bind fun _ => ?_
  exact obeys_attempt _ _

theorem obeys_shutDown (hR : ∀ s, R.Kept s) : shutDown.Obeys R SerialBus.Error.verdict :=
  (obeys_attempt _ _).thenAlways (Silent.modify fun _ _ => hR _)

theorem obeys_write {words : List UInt16} (h : words.isEmpty = false) :
    (write words).Obeys R SerialBus.Error.verdict := by
  rw [write, h]
  exact obeys_attempt _ _

theorem obeys_read {buffer : List UInt16} (h : buffer.isEmpty = false) :
    ChipSupport.Obeys R (fun answer => outcome SerialBus.Error.verdict answer.1) (read buffer) := by
  rw [read, h]
  refine (obeys_attempt _ _).andThen ?_ ?_
  · intro words
    exact ChipSupport.Obeys.pure (.inl rfl)
  · intro e
    exact Silent.leftover.bind fun _ _ => Silent.pure rfl

omit [ChipSupport.Build] in
theorem obeys_readWord (hR : .wouldBlock ∈ R.allowed) :
    readWord.Obeys R (nonBlockingVerdict SerialBus.Error.verdict) := by
  refine (Obeys.lift (ChipSupport.Obeys.access (L := library) _)).bind fun full => ?_
  cases full with
  | true => exact (obeys_request _).bind fun _ => Obeys.pure _
  | false => exact Obeys.throw hR

omit [ChipSupport.Build] in
theorem obeys_writeWord (hR : .wouldBlock ∈ R.allowed) (word : UInt16) :
    (writeWord word).Obeys R (nonBlockingVerdict SerialBus.Error.verdict) := by
  refine (Obeys.lift (ChipSupport.Obeys.access (L := library) _)).bind fun empty => ?_
  cases empty with
  | true => exact obeys_request _
  | false => exact Obeys.throw hR

end Pieces

theorem contract_holds : contract.Holds perform := by
  refine Contract.holds_of_calls fun s c cs answer t hrun => ?_
  have hkept : ∀ s, (Rules.plain library MultichannelBus []).Kept s := fun _ => trivial
  cases c with
  | bringUp mode => exact Contract.met_of_obeys rfl (obeys_bringUp hkept mode) hrun
  | shutDown => exact Contract.met_of_obeys rfl (obeys_shutDown hkept) hrun
  | configure index =>
    refine Contract.met_of_guard rfl ?_ ?_
    · intro hindex
      have hrefuse : configure index = refuse "config(): invalid chip select" := by
        rw [configure, ofIndex?_eq_none_iff.2 hindex]
      simp only [perform, hrefuse] at hrun
      exact calls_run_report_iff.1 hrun
    · intro hindex
      obtain ⟨channel, hchannel⟩ :=
        Option.ne_none_iff_exists'.1 (hindex ∘ ofIndex?_eq_none_iff.1)
      have hconfigure : configure index =
          attempt "config(): McSPI_config failed" (.configure { channel }) := by
        rw [configure, hchannel]
      simp only [perform, hconfigure] at hrun
      have hends := obeys_attempt "config(): McSPI_config failed" (.configure { channel })
        s cs answer t (hkept s) hrun
      exact .inl hends.2.failFast
  | write words =>
    refine Contract.met_of_guard rfl ?_ ?_
    · intro hwords
      have hrefuse : write words = refuse "write(): McSPI_write failed" := if_pos hwords
      simp only [perform, hrefuse] at hrun
      exact calls_run_report_iff.1 hrun
    · intro hwords
      have hends := obeys_write (Bool.not_eq_true _ ▸ hwords) s cs answer t (hkept s) hrun
      exact .inl hends.2.failFast
  | read buffer =>
    refine Contract.met_of_guard rfl ?_ ?_
    · intro hbuffer
      have hrefuse : read buffer = (refuse "read(): McSPI_read failed").run >>= fun refusal =>
          pure (refusal, buffer) := if_pos hbuffer
      simp only [perform, hrefuse] at hrun
      exact calls_run_refusal hrun
    · intro hbuffer
      have hends := obeys_read (Bool.not_eq_true _ ▸ hbuffer) s cs answer t (hkept s) hrun
      exact .inl hends.2.failFast
  | isReceiveFull =>
    exact Contract.met_of_obeys rfl (ChipSupport.Obeys.access (L := library) _) hrun
  | isTransmitEmpty =>
    exact Contract.met_of_obeys rfl (ChipSupport.Obeys.access (L := library) _) hrun
  | readWord => exact Contract.met_of_obeys rfl (obeys_readWord List.mem_cons_self) hrun
  | writeWord word =>
    exact Contract.met_of_obeys rfl (obeys_writeWord List.mem_cons_self word) hrun
  | withDebug sink =>
    obtain ⟨_, later⟩ := calls_debug_iff.1 hrun
    obtain ⟨rfl, -⟩ := calls_done_iff.1 later
    exact Contract.met_of_silent rfl rfl

end MultichannelBus

namespace HostInterface

/-- What the host interface's commands are held to. -/
def contract : Contract commands HostInterface library where
  refusal _ _ := none
  verdict
    | .bringUp, answer | .shutDown, answer | .configure _, answer =>
      outcome ChipSupport.Error.verdict answer
    | .withDebug _, _ => .success
  allowed _ := []
  Exception _ _ _ _ := False

section Pieces

variable {R : Rules library HostInterface}

theorem obeys_bringUp (hR : ∀ s, R.Kept s) :
    bringUp.Obeys R ChipSupport.Error.verdict := by
  refine (ChipSupport.obeys_attempt _ _).bind fun bank => ?_
  refine (Obeys.modify fun _ _ => hR _).bind fun _ => ?_
  exact ChipSupport.obeys_attempt _ _

theorem obeys_shutDown (hR : ∀ s, R.Kept s) :
    shutDown.Obeys R ChipSupport.Error.verdict := by
  refine (ChipSupport.obeys_attempt _ _).bind fun _ => ?_
  exact Obeys.modify fun _ _ => hR _

theorem obeys_configure (interruptOnAccess : Bool) :
    (configure interruptOnAccess).Obeys R ChipSupport.Error.verdict :=
  ChipSupport.obeys_attempt _ _

end Pieces

theorem contract_holds : contract.Holds perform := by
  refine Contract.holds_of_calls fun s c cs answer t hrun => ?_
  have hkept : ∀ s, (Rules.plain library HostInterface []).Kept s := fun _ => trivial
  cases c with
  | bringUp => exact Contract.met_of_obeys rfl (obeys_bringUp hkept) hrun
  | shutDown => exact Contract.met_of_obeys rfl (obeys_shutDown hkept) hrun
  | configure interruptOnAccess =>
    exact Contract.met_of_obeys rfl (obeys_configure interruptOnAccess) hrun
  | withDebug sink =>
    obtain ⟨_, later⟩ := calls_debug_iff.1 hrun
    obtain ⟨rfl, -⟩ := calls_done_iff.1 later
    exact Contract.met_of_silent rfl rfl

end HostInterface

end BoardSupport
