import BoardSupport.Thermometer.Basic

/-!
# Scripted surroundings for the thermometer

A power pin and an analog source that follow a script: which drives of the pin fail and which
samples fail, by their numbers, and what the other samples are, over and over again.
-/

namespace BoardSupport.Thermometer

/-- A power pin some of whose drives fail. -/
structure PinScript where
  /-- The numbers of the drives that fail, counted from zero. -/
  failures : List Nat := []
  /-- The number of drives so far. -/
  drives : Nat := 0
  deriving DecidableEq, Repr, Inhabited

/-- An analog source that repeats its samples. -/
structure SourceScript where
  /-- The samples, taken in turn. -/
  samples : List UInt16
  /-- The numbers of the samples that fail, counted from zero. -/
  failures : List Nat := []
  /-- The number of samples so far. -/
  taken : Nat := 0
  deriving DecidableEq, Repr

/-- Drives the scripted pin. -/
def PinScript.drive : StateM PinScript (Except Unit Unit) := do
  let s ← get
  set { s with drives := s.drives + 1 }
  pure (if s.drives ∈ s.failures then .error () else .ok ())

/-- Takes a sample of the scripted source; a failure is its number. -/
def SourceScript.take : StateM SourceScript (Except Nat UInt16) := do
  let s ← get
  set { s with taken := s.taken + 1 }
  pure (if s.taken ∈ s.failures then .error s.taken
    else .ok (s.samples.getD (s.taken % s.samples.length) 0))

/-- The scripted pin, with delays that pass at once. -/
def PinScript.handler : Handler pins (StateM PinScript)
  | .power _ => PinScript.drive
  | .wait _ => pure ()

/-- The scripted surroundings. -/
def scripted : Handler (interface Nat) (StateM (PinScript × SourceScript))
  | .power _ => fun (p, s) => let (r, p') := PinScript.drive p; (r, (p', s))
  | .wait _ => pure ()
  | .sample => fun (p, s) => let (r, s') := SourceScript.take s; (r, (p, s'))

/-- Surroundings of the power pin and of delays, beside surroundings of the converter. -/
def rig {π ω : Type} (h : Handler pins (StateM π))
    (k : Handler Converter.library.interface (StateM ω)) : Handler converterRig (StateM (π × ω)) :=
  Handler.sum (fun c (p, w) => let (r, p') := h c p; (r, (p', w)))
    (fun c (p, w) => let (r, w') := k c w; (r, (p, w')))

/-- The scripted pin beside a device that plays the converter's library. -/
def converterRigHandler {τ : Type} (d : ChipSupport.Device Converter.library τ) :
    Handler converterRig (StateM (PinScript × τ × ChipSupport.Console)) :=
  rig PinScript.handler d.handler

end BoardSupport.Thermometer
