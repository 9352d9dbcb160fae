import BoardSupport.ChipSupport.Bank
import BoardSupport.ChipSupport.Action
import BoardSupport.Converter.Pin

/-!
# The converter's part of the chip support library

The calls behind a conversion: the module is initialised, a channel opened and set up, a
conversion started, its status polled, the result read, the channel closed and the module shut
down.
-/

namespace BoardSupport.Converter

/-- How a finished conversion makes itself known. -/
inductive Completion where
  /-- The processor polls the status. -/
  | polling
  /-- An interrupt is raised. -/
  | interrupt
  /-- The result is moved by direct memory access. -/
  | dma
  deriving DecidableEq, Repr

instance : Inhabited Completion := ⟨.polling⟩

/-- The voltage that full scale stands for. -/
inductive Reference where
  /-- The analog supply. -/
  | supply
  /-- The internal bandgap at 0.8 V. -/
  | bandgap800mV
  /-- The internal bandgap at 1.0 V. -/
  | bandgap1000mV
  deriving DecidableEq, Repr

instance : Inhabited Reference := ⟨.supply⟩

/-- How often a start converts. -/
inductive Conversion where
  /-- Back to back, until stopped. -/
  | continuous
  /-- Once. -/
  | single
  deriving DecidableEq, Repr

instance : Inhabited Conversion := ⟨.single⟩

/-- What a channel is set up with. -/
structure ChannelSetup where
  /-- How completion makes itself known. -/
  completion : Completion
  /-- The sample capacitor is discharged between channels. -/
  multiChannelDischarge : Bool
  /-- The reference voltage. -/
  reference : Reference
  /-- The divider from the system clock to the converter's clock. -/
  clockDivider : UInt16
  deriving DecidableEq, Repr

/-- The entry points of the converter's module. -/
inductive Request where
  /-- Bring the module up. -/
  | init
  /-- Shut the module down. -/
  | deinit
  /-- Open a channel. -/
  | openChannel (channel : Channel)
  /-- Put the open channel into its reset state. -/
  | resetChannel
  /-- Set the open channel up. -/
  | setUp (setup : ChannelSetup)
  /-- Choose how often a start converts. -/
  | setCycle (conversion : Conversion)
  /-- Route a channel to the converter. -/
  | route (channel : Channel)
  /-- Start converting. -/
  | start
  /-- Stop converting. -/
  | stop
  /-- Ask whether a result is waiting. -/
  | status
  /-- Read the result. -/
  | read
  /-- Close the open channel. -/
  | closeChannel
  deriving DecidableEq, Repr

namespace Request

/-- Opening yields a register bank, the status a flag, reading a sample. -/
abbrev Value : Request → Type
  | openChannel _ => ChipSupport.Bank
  | status => Bool
  | read => UInt16
  | _ => Unit

/-- The vendor's name of each entry point. -/
def entry : Request → String
  | init => "SAR_init"
  | deinit => "SAR_deInit"
  | openChannel _ => "SAR_chanOpen"
  | resetChannel => "SAR_chanInit"
  | setUp _ => "SAR_chanSetup"
  | setCycle _ => "SAR_chanCycSet"
  | route _ => "SAR_A2DMeasParamSet"
  | start => "SAR_startConversion"
  | stop => "SAR_stopConversion"
  | status => "SAR_getStatus"
  | read => "SAR_readData"
  | closeChannel => "SAR_chanClose"

end Request

/-- The converter's part of the chip support library; every entry point may fail. -/
abbrev library : ChipSupport.Library where
  Request := Request
  Value := Request.Value
  entry := Request.entry
  Access := Empty
  Answer := nofun

end BoardSupport.Converter
