import BoardSupport.Proofs.ChipSupport.DebugOutput
import BoardSupport.Proofs.DebugOutput.Operations
import BoardSupport.Thermometer.Script

/-!
# Debug output does not influence the drivers

The converter, the two buses, the host interface, and the thermometer that samples through the
converter.  The thermometer's surroundings are the power pin and delays, anything that may be, and a
device beside the console; between its own commands its converter may be given commands as well, so
that another sink can be attached at any time.
-/

namespace BoardSupport

open ChipSupport (AlikeBuilt Build Console DebugCall Device Inert Library Session)

variable {π τ : Type}

/-! ## Which commands are for the driver -/

/-- All commands but the one that attaches another sink. -/
def Converter.Command.isForDriver : Converter.Command → Bool
  | withDebug _ => false
  | _ => true

@[inherit_doc Converter.Command.isForDriver]
def SerialBus.Command.isForDriver : SerialBus.Command → Bool
  | withDebug _ => false
  | _ => true

@[inherit_doc Converter.Command.isForDriver]
def MultichannelBus.Command.isForDriver : MultichannelBus.Command → Bool
  | withDebug _ => false
  | _ => true

@[inherit_doc Converter.Command.isForDriver]
def HostInterface.Command.isForDriver : HostInterface.Command → Bool
  | withDebug _ => false
  | _ => true

/-! ## The thermometer and its converter -/

namespace Thermometer

/-- The commands of the thermometer and those of its converter. -/
abbrev rigCommands : Interface := (commands Converter.Error).sum Converter.commands

/-- Performs the commands of the thermometer, which samples `pin`, and those of its converter. -/
def performRig [Binary32.Logarithm] [Build] (budget : Nat) (pin : Converter.Pin) :
    Handler rigCommands (StateT (Thermometer × Converter) (Program converterRig))
  | .inl c => fun (thermometer, converter) => do
    let ((answer, thermometer), converter) ←
      (((perform c).run thermometer).interpret (overConverter budget pin)).run converter
    pure (answer, (thermometer, converter))
  | .inr c => fun (thermometer, converter) => do
    let (answer, converter) ← Program.right ((Converter.perform budget c).run converter)
    pure (answer, (thermometer, converter))

/-- What a call asks of the console, if it is one of it. -/
def debug? : converterRig.Call → Option DebugCall
  | .inl _ => none
  | .inr c => c.debug?

/-- All commands but the one that attaches another sink. -/
def isForDriver : rigCommands.Call → Bool
  | .inl _ => true
  | .inr c => c.isForDriver

theorem beside_rig (h : Surroundings pins π) (d : Device Converter.library τ) :
    Program.Beside (fun c => (debug? c).isSome) (rig h d.handler) (rig h d.alone)
      fun w => (w.1, w.2.1) where
  reply c w hc := by
    cases c with
    | inl c => rfl
    | inr c => exact d.beside_handler.reply c w.2 hc
  state c w hc := by
    cases c with
    | inl c => rfl
    | inr c => exact congrArg (Prod.mk w.1) (d.beside_handler.state c w.2 hc)
  aside c w hc := by
    cases c with
    | inl c => cases hc
    | inr c => exact congrArg (Prod.mk w.1) (d.beside_handler.aside c w.2 hc)

theorem told_rig (h : Surroundings pins π) (d : Device Converter.library τ)
    (c : converterRig.Call) (w : π × τ × Console) :
    (rig h d.handler c w).2.2.2 = w.2.2.told (debug? c) := by
  cases c with
  | inl c => rfl
  | inr c => exact d.hear_handler c w.2

/-- The converter as the analog source does the same in every build. -/
theorem alike_overConverter (build build' : Build) (budget : Nat) (pin : Converter.Pin) (c : Call)
    (s : Converter) :
    AlikeBuilt debug? build build' ((@overConverter build budget pin c).run s)
      ((@overConverter build' budget pin c).run s) := by
  cases c with
  | power on => exact .call rfl fun _ => .done _
  | wait millis => exact .call rfl fun _ => .done _
  | sample => exact Program.Alike.toRight (Converter.twins_readPin budget pin s)

theorem alike_performRig [log : Binary32.Logarithm] (build build' : Build) (budget : Nat)
    (pin : Converter.Pin) (c : rigCommands.Call) (s : Thermometer × Converter) :
    AlikeBuilt debug? build build' ((@performRig log build budget pin c).run s)
      ((@performRig log build' budget pin c).run s) := by
  obtain ⟨thermometer, converter⟩ := s
  cases c with
  | inl c =>
    have hcarried := Program.Alike.interpret (alike_overConverter build build' budget pin)
      ((perform c).run thermometer) converter
    exact hcarried.bind fun r => .done _
  | inr c =>
    have hpassed : AlikeBuilt debug? build build' (Program.right _) (Program.right _) :=
      Program.Alike.toRight (Converter.twins_perform budget c converter)
    exact hpassed.bind fun r => .done _

/-- The thermometer is inert, and the converter that it samples is with it. -/
theorem inert_rig [log : Binary32.Logarithm] (budget : Nat) (pin : Converter.Pin)
    (h : Surroundings pins π) (d : Device Converter.library τ) :
    Inert (fun build => Performer.ofDriver (rig h d.handler) (@performRig log build budget pin)) debug?
      (fun s => (s.1, s.2.1, s.2.2.1)) (fun s => s.2.2.2) isForDriver := by
  let console : π × τ × Console → Console := fun w => w.2.2
  have htold : ∀ c w, console (rig h d.handler c w).2 = (console w).told (debug? c) := told_rig h d
  have hattach : ∀ build c s, ¬ isForDriver c = true → ∃ answer,
      AlikeBuilt debug? build build ((@performRig log build budget pin c).run s)
        (.done (answer, s)) := by
    rintro build (c | c) ⟨thermometer, converter⟩ hc
    · exact absurd rfl hc
    · cases c with
      | withDebug sink =>
        have hpassed : AlikeBuilt debug? build build (Program.right _) (Program.right _) :=
          Program.Alike.toRight (Converter.twins_withDebug sink converter)
        exact ⟨(), hpassed.bind fun r => .done _⟩
      | _ => exact absurd rfl hc
  have hinert := ChipSupport.Driven.inert
    (fun build => ChipSupport.driven_ofDriver (rig h d.handler) (@performRig log build budget pin))
    (beside_rig h d) htold (fun build build' => alike_performRig build build' budget pin) hattach
  exact hinert

end Thermometer

/-! ## All drivers -/

/-- Debug output is without influence on the converter, the buses, the host interface, and a
thermometer that samples through the converter.  Whatever the devices do, with messages or without, with
any sink and whatever it says, and with other sinks attached at any time, the answers, the calls of the
library, and the states of the drivers and of the devices are the same; and built without messages the
drivers send no line to any sink. -/
theorem debug_output_inert [log : Binary32.Logarithm] :
    (∀ {τ : Type} (budget : Nat) (d : Device Converter.library τ),
      Inert (fun build => Session.performer d (@Converter.perform build budget)) Library.Call.debug?
        (fun s => (s.driver, s.device)) Session.console Converter.Command.isForDriver) ∧
    (∀ {τ : Type} (d : Device SerialBus.library τ),
      Inert (fun build => Session.performer d (@SerialBus.perform build)) Library.Call.debug?
        (fun s => (s.driver, s.device)) Session.console SerialBus.Command.isForDriver) ∧
    (∀ {τ : Type} (d : Device MultichannelBus.library τ),
      Inert (fun build => Session.performer d (@MultichannelBus.perform build)) Library.Call.debug?
        (fun s => (s.driver, s.device)) Session.console MultichannelBus.Command.isForDriver) ∧
    (∀ {τ : Type} (d : Device HostInterface.library τ),
      Inert (fun build => Session.performer d (@HostInterface.perform build)) Library.Call.debug?
        (fun s => (s.driver, s.device)) Session.console HostInterface.Command.isForDriver) ∧
    ∀ {π τ : Type} (budget : Nat) (pin : Converter.Pin) (h : Surroundings Thermometer.pins π)
      (d : Device Converter.library τ),
      Inert (fun build => Performer.ofDriver (Thermometer.rig h d.handler)
          (@Thermometer.performRig log build budget pin)) Thermometer.debug?
        (fun s => (s.1, s.2.1, s.2.2.1)) (fun s => s.2.2.2) Thermometer.isForDriver := by
  -- attaching a sink is the one command that is not for the driver
  refine ⟨fun budget d => ?_, fun d => ?_, fun d => ?_, fun d => ?_, Thermometer.inert_rig⟩
  · refine Session.inert d (fun _ _ => Converter.twins_perform budget) fun build c hc => ?_
    cases c with
    | withDebug sink => exact ⟨(), Converter.twins_withDebug sink⟩
    | _ => exact absurd rfl hc
  · refine Session.inert d (fun _ _ => SerialBus.twins_perform) fun build c hc => ?_
    cases c with
    | withDebug sink => exact ⟨(), SerialBus.twins_withDebug sink⟩
    | _ => exact absurd rfl hc
  · refine Session.inert d (fun _ _ => MultichannelBus.twins_perform) fun build c hc => ?_
    cases c with
    | withDebug sink => exact ⟨(), MultichannelBus.twins_withDebug sink⟩
    | _ => exact absurd rfl hc
  · refine Session.inert d (fun _ _ => HostInterface.twins_perform) fun build c hc => ?_
    cases c with
    | withDebug sink => exact ⟨(), HostInterface.twins_withDebug sink⟩
    | _ => exact absurd rfl hc

end BoardSupport
