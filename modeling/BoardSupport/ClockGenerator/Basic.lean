import BoardSupport.ChipSupport.Bank
import BoardSupport.ChipSupport.Action
import BoardSupport.ClockGenerator.Frequency

/-!
# The clock generator

The generator is initialised and reset when its driver is made; if that fails, the handle stays
unmapped and every later operation is refused without touching the hardware.
-/

namespace BoardSupport

namespace ClockGenerator

/-- The entry points of the generator's module that may fail. -/
inductive Request where
  /-- Bring the generator up. -/
  | init
  /-- Reset the generator. -/
  | reset
  /-- Write the four registers. -/
  | configure (config : Config)
  /-- Read the four registers. -/
  | readConfig
  /-- Switch the processor to the generator's output. -/
  | enable
  deriving DecidableEq, Repr

namespace Request

/-- Bringing up yields a register bank, reading the registers. -/
abbrev Value : Request → Type
  | init => ChipSupport.Bank
  | readConfig => Config
  | _ => Unit

/-- The vendor's name of each entry point. -/
def entry : Request → String
  | init => "PLL_init"
  | reset => "PLL_reset"
  | configure _ => "PLL_config"
  | readConfig => "PLL_getConfig"
  | enable => "PLL_enable"

end Request

/-- The entry points that cannot fail. -/
inductive Access where
  /-- Ask which input clock is selected. -/
  | input
  deriving DecidableEq, Repr

/-- The generator's part of the chip support library. -/
abbrev library : ChipSupport.Library where
  Request := Request
  Value := Request.Value
  entry := Request.entry
  Access := Access
  Answer _ := Input

end ClockGenerator

/-- The clock generator's driver. -/
structure ClockGenerator where
  /-- The bank of the generator, unmapped if it could not be brought up. -/
  handle : ChipSupport.Bank := .unmapped
  deriving DecidableEq, Repr, Inhabited

namespace ClockGenerator

/-- Operations of the clock generator. -/
abbrev Action (α : Type) : Type := ChipSupport.Action library ClockGenerator ChipSupport.Error α

/-- Makes a call that may fail. -/
def request (r : Request) : Action r.Value :=
  ChipSupport.request (L := library) r

/-- Brings the generator up and resets it. -/
def bringUp : Action ChipSupport.Bank := do
  let bank ← request .init
  request .reset
  pure bank

/-- Makes the driver: the handle is the generator's bank if bringing it up and resetting it both
succeed, and unmapped otherwise. -/
def create : StateT ClockGenerator library.Task Unit := do
  match ← bringUp.run with
  | .ok bank => set (ClockGenerator.mk bank)
  | .error _ => set (ClockGenerator.mk .unmapped)

/-- Refuses to go on with an unmapped handle. -/
def requireMapped : Action Unit := do
  unless (← get).handle.isMapped do
    throw .badHandle

/-- Asks which input clock is selected. -/
def input : StateT ClockGenerator library.Task Input :=
  StateT.lift (ChipSupport.access (L := library) .input)

/-- Writes the registers. -/
def configure (config : Config) : Action Unit := do
  requireMapped
  request (.configure config)

/-- Reads the registers. -/
def readConfig : Action Config := do
  requireMapped
  request .readConfig

/-- The system clock in kilohertz. -/
def systemKilohertz : Action UInt32 := do
  let config ← readConfig
  let clock ← input
  pure (config.outputKilohertz clock)

/-- Runs the processor at `speed`: resets the generator, writes the stored setting for the
selected input clock and enables the output.  The answer is the resulting system clock in
kilohertz. -/
def setUp (speed : Speed) : Action UInt32 := do
  requireMapped
  let clock ← input
  let preset := speed.preset clock
  request .reset
  request (.configure preset)
  request .enable
  pure (preset.outputKilohertz clock)

/-- What an application can ask of the clock generator. -/
inductive Command where
  /-- Make the driver anew. -/
  | create
  /-- Write the registers. -/
  | configure (config : Config)
  /-- Read the registers. -/
  | readConfig
  /-- Ask for the system clock. -/
  | systemKilohertz
  /-- Run the processor at a stored speed. -/
  | setUp (speed : Speed)
  deriving DecidableEq, Repr

/-- The answer to each command. -/
abbrev Command.Answer : Command → Type
  | create => Unit
  | configure _ => Except ChipSupport.Error Unit
  | readConfig => Except ChipSupport.Error Config
  | systemKilohertz | setUp _ => Except ChipSupport.Error UInt32

/-- The clock generator's operations. -/
abbrev commands : Interface := ⟨Command, Command.Answer⟩

/-- Performs a command. -/
def perform : Handler commands (StateT ClockGenerator library.Task)
  | .create => create
  | .configure config => (configure config).run
  | .readConfig => readConfig.run
  | .systemKilohertz => systemKilohertz.run
  | .setUp speed => (setUp speed).run

end ClockGenerator

end BoardSupport
