import BoardSupport.ChipSupport.Bank
import BoardSupport.ChipSupport.Action
import BoardSupport.ChipSupport.PinRouting
import BoardSupport.SerialBus.Config

/-!
# The serial bus's part of the chip support library
-/

namespace BoardSupport.SerialBus

/-- The entry points of the serial bus's module that may fail. -/
inductive Request where
  /-- Bring the module up. -/
  | init
  /-- Shut the module down. -/
  | deinit
  /-- Route the external pins. -/
  | routePins (routing : ChipSupport.PinRouting)
  /-- Open the module on a chip select line. -/
  | openOn (select : ChipSelect) (mode : TransferMode)
  /-- Close the module. -/
  | close
  /-- Write the configuration. -/
  | configure (config : Config)
  /-- Send words. -/
  | write (words : List UInt16)
  /-- Receive words. -/
  | read (count : Nat)
  deriving DecidableEq, Repr

namespace Request

/-- Opening yields a register bank, reading the words that were asked for. -/
abbrev Value : Request → Type
  | openOn .. => ChipSupport.Bank
  | read count => Vector UInt16 count
  | _ => Unit

/-- The vendor's name of each entry point. -/
def entry : Request → String
  | init => "SPI_init"
  | deinit => "SPI_deInit"
  | routePins _ => ChipSupport.PinRouting.entry
  | openOn .. => "SPI_open"
  | close => "SPI_close"
  | configure _ => "SPI_config"
  | write _ => "SPI_write"
  | read _ => "SPI_read"

end Request

/-- The entry points that cannot fail. -/
inductive Access where
  /-- Connect transmit to receive inside the module, or not. -/
  | setLoopback (enable : Bool)
  deriving DecidableEq, Repr

/-- The serial bus's part of the chip support library. -/
abbrev library : ChipSupport.Library where
  Request := Request
  Value := Request.Value
  entry := Request.entry
  Access := Access
  Answer _ := Unit

end BoardSupport.SerialBus
