import BoardSupport.Proofs.FailFast.Buses
import BoardSupport.Proofs.FailFast.Converter
import BoardSupport.Proofs.FailFast.Timers

/-!
# All drivers are fail-fast

The contracts of the seven drivers over the chip support library, in one statement.  A library is
any state machine that answers with raw statuses, so each contract holds wherever a call may fail,
and with whatever status.
-/

namespace BoardSupport

open ChipSupport (LibraryCall RawLibrary)

/-- Whatever the chip support library does, every command of every driver is refused without a call,
or stops at the first failing call and hands back its status as the code of its error, or succeeds;
the exceptions are those the contracts name. -/
theorem drivers_fail_fast [ChipSupport.Build] :
    (∀ budget, (Converter.contract budget).Holds (Converter.perform budget)) ∧
      SerialBus.contract.Holds SerialBus.perform ∧
      MultichannelBus.contract.Holds MultichannelBus.perform ∧
      HostInterface.contract.Holds HostInterface.perform ∧
      ClockGenerator.contract.Holds ClockGenerator.perform ∧
      CountdownTimer.contract.Holds CountdownTimer.perform ∧
      Watchdog.contract.Holds Watchdog.perform := by
  refine ⟨fun budget => ?_, ?_, ?_, ?_, ?_, ?_, ?_⟩
  · exact Converter.contract_holds budget
  · exact SerialBus.contract_holds
  · exact MultichannelBus.contract_holds
  · exact HostInterface.contract_holds
  · exact ClockGenerator.contract_holds
  · exact CountdownTimer.contract_holds
  · exact Watchdog.contract_holds

/-- A converter that never has a result, and whose shutdown fails at every step. -/
def stuckConverter : RawLibrary Converter.library Unit where
  request
    | .openChannel _ => fun t => ((0, ⟨1, 2⟩), t)
    | .status => fun t => ((0, false), t)
    | .read => fun t => ((0, 0), t)
    | .stop => fun t => ((-3, ()), t)
    | .closeChannel => fun t => ((-5, ()), t)
    | .deinit => fun t => ((17, ()), t)
    | .init | .resetChannel | .setUp _ | .setCycle _ | .route _ | .start => fun t => ((0, ()), t)
  access := nofun
  leftover := pure []
  console
    | .line _ => pure (.error {})
    | .attach _ => pure ()

/-- After two polls the reading is given up, and the shutdown goes on over its failures, although none
of them can be reported. -/
example :
    let result := stuckConverter.perform ()
      ((@Converter.perform { debugMessages := true } 0 (.readPin .a0)).run
        { config := { pollLimit := .polls 2 } })
    (result.1.1, result.2.map LibraryCall.status) =
      (.error .timeout, [0, 0, 0, 0, 0, 0, 0, 0, 0, -3, -5, 17]) := by
  rfl

end BoardSupport
