import BoardSupport.ChipSupport.Bank
import BoardSupport.ChipSupport.Action
import BoardSupport.ChipSupport.PinRouting

/-!
# The multichannel bus's part of the chip support library

Four chip select channels share one serial bus module.
-/

namespace BoardSupport.MultichannelBus

/-- How transfers are driven. -/
inductive TransferMode where
  /-- By polling. -/
  | polling
  /-- By interrupts. -/
  | interrupt
  /-- By direct memory access. -/
  | dma
  deriving DecidableEq, Repr

instance : Inhabited TransferMode := ⟨.polling⟩

/-- A chip select channel. -/
inductive Channel where
  /-- Channel 0. -/
  | ch0
  /-- Channel 1. -/
  | ch1
  /-- Channel 2. -/
  | ch2
  /-- Channel 3. -/
  | ch3
  deriving DecidableEq, Repr

instance : Inhabited Channel := ⟨.ch0⟩

namespace Channel

/-- The channels in the order of their numbers. -/
def all : List Channel := [ch0, ch1, ch2, ch3]

/-- The number of a channel. -/
def index : Channel → UInt8
  | ch0 => 0
  | ch1 => 1
  | ch2 => 2
  | ch3 => 3

/-- The channel of a number, if there is one. -/
def ofIndex? (i : UInt8) : Option Channel := all[i.toNat]?

end Channel

/-- The clock edges on which data is latched. -/
inductive ClockPhase where
  /-- The odd-numbered edges. -/
  | odd
  /-- The even-numbered edges. -/
  | even
  deriving DecidableEq, Repr

instance : Inhabited ClockPhase := ⟨.even⟩

/-- A data line. -/
inductive DataLine where
  /-- Line 0. -/
  | dat0
  /-- Line 1. -/
  | dat1
  deriving DecidableEq, Repr

instance : Inhabited DataLine := ⟨.dat0⟩

/-- The configuration of a channel.  By default: 8-bit full duplex master, undivided clock that
idles low and latches on even edges, both directions on line 0. -/
structure Config where
  /-- The module drives the clock. -/
  master : Bool := true
  /-- Both directions at once. -/
  fullDuplex : Bool := true
  /-- The number of bits in a word. -/
  wordLength : UInt8 := 8
  /-- The delay of the data, in clock cycles. -/
  dataDelay : UInt8 := 0
  /-- The field of the clock divider; 0 divides by 1. -/
  clockDivider : UInt8 := 0
  /-- The edges on which data is latched. -/
  clockPhase : ClockPhase := .even
  /-- The clock idles high. -/
  clockIdlesHigh : Bool := false
  /-- The chip select line is asserted high. -/
  selectActiveHigh : Bool := false
  /-- The line on which data is received. -/
  receiveLine : DataLine := .dat0
  /-- The line on which data is sent. -/
  transmitLine : DataLine := .dat0
  /-- The channel that is configured. -/
  channel : Channel
  deriving DecidableEq, Repr

/-- The entry points of the module that may fail. -/
inductive Request where
  /-- Bring the module up. -/
  | init
  /-- Open the module. -/
  | openIn (mode : TransferMode)
  /-- Close the module. -/
  | close
  /-- Route the external pins. -/
  | routePins (routing : ChipSupport.PinRouting)
  /-- Configure a channel. -/
  | configure (config : Config)
  /-- Receive words. -/
  | read (count : Nat)
  /-- Send words. -/
  | write (words : List UInt16)
  deriving DecidableEq, Repr

namespace Request

/-- Opening yields a register bank, reading the words that were asked for. -/
abbrev Value : Request → Type
  | openIn _ => ChipSupport.Bank
  | read count => Vector UInt16 count
  | _ => Unit

/-- The vendor's name of each entry point. -/
def entry : Request → String
  | init => "McSPI_init"
  | openIn _ => "McSPI_open"
  | close => "McSPI_close"
  | routePins _ => ChipSupport.PinRouting.entry
  | configure _ => "McSPI_config"
  | read _ => "McSPI_read"
  | write _ => "McSPI_write"

end Request

/-- The entry points that cannot fail; each yields a flag. -/
inductive Access where
  /-- Whether the receive register holds a word. -/
  | receiveFull
  /-- Whether the transmit register can take a word. -/
  | transmitEmpty
  deriving DecidableEq, Repr

/-- The multichannel bus's part of the chip support library. -/
abbrev library : ChipSupport.Library where
  Request := Request
  Value := Request.Value
  entry := Request.entry
  Access := Access
  Answer _ := Bool

end BoardSupport.MultichannelBus
