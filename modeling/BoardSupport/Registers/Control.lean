import BoardSupport.Registers.Flag

/-!
# The control registers of the radio microcontroller

The flags of the flash controller, the clock system, the real time clock and timer A1, by the names
of the device's documentation.
-/

namespace BoardSupport

/-! ## Flash control register 1, without its password -/

namespace FlashControl1

/-- The next write erases a segment. -/
def erase : BitVec 16 := 0x0002

/-- The next write erases all segments. -/
def massErase : BitVec 16 := 0x0004

/-- Writes program bytes or words. -/
def write : BitVec 16 := 0x0040

/-- Writes program blocks. -/
def blockWrite : BitVec 16 := 0x0080

/-- The register. -/
def register : Register where
  width := 16
  flags := [⟨"ERASE", erase⟩, ⟨"MERAS", massErase⟩, ⟨"WRT", write⟩, ⟨"BLKWRT", blockWrite⟩]

end FlashControl1

/-! ## Flash control register 3, without its password -/

namespace FlashControl3

/-- The flash is busy. -/
def busy : BitVec 16 := 0x0001

/-- A register was written with a wrong password. -/
def keyViolation : BitVec 16 := 0x0002

/-- The flash was accessed at a wrong time. -/
def accessViolation : BitVec 16 := 0x0004

/-- The flash is ready for the next byte or word. -/
def wait : BitVec 16 := 0x0008

/-- Writing and erasing are locked. -/
def lock : BitVec 16 := 0x0010

/-- Emergency exit. -/
def emergencyExit : BitVec 16 := 0x0020

/-- Segment A is locked. -/
def lockA : BitVec 16 := 0x0040

/-- The register. -/
def register : Register where
  width := 16
  flags :=
    [⟨"BUSY", busy⟩, ⟨"KEYV", keyViolation⟩, ⟨"ACCVIFG", accessViolation⟩, ⟨"WAIT", wait⟩,
      ⟨"LOCK", lock⟩, ⟨"EMEX", emergencyExit⟩, ⟨"LOCKA", lockA⟩]

end FlashControl3

/-! ## Clock system control register 4: sources of the clocks -/

namespace ClockControl4

/-- The main clock comes from the divided oscillator. -/
def mainFromDivided : BitVec 16 := 0x0004

/-- The subsystem clock comes from the divided oscillator. -/
def subsystemFromDivided : BitVec 16 := 0x0040

/-- The auxiliary clock comes from the low power oscillator, otherwise from the crystal. -/
def auxiliaryFromLowPower : BitVec 16 := 0x0100

/-- The register. -/
def register : Register where
  width := 16
  flags :=
    [⟨"SELM_DCOCLKDIV", mainFromDivided⟩, ⟨"SELS_DCOCLKDIV", subsystemFromDivided⟩,
      ⟨"SELA_VLOCLK", auxiliaryFromLowPower⟩]

end ClockControl4

/-! ## Real time clock control register 0: flags and interrupt enables -/

namespace RtcControl0

/-- The clock is ready. -/
def readyFlag : BitVec 8 := 0x01

/-- An alarm has gone off. -/
def alarmFlag : BitVec 8 := 0x02

/-- The counter has had an event. -/
def eventFlag : BitVec 8 := 0x04

/-- The oscillator has failed. -/
def faultFlag : BitVec 8 := 0x08

/-- Readiness raises an interrupt. -/
def readyEnable : BitVec 8 := 0x10

/-- Alarms raise an interrupt. -/
def alarmEnable : BitVec 8 := 0x20

/-- Counter events raise an interrupt. -/
def eventEnable : BitVec 8 := 0x40

/-- Oscillator faults raise an interrupt. -/
def faultEnable : BitVec 8 := 0x80

/-- The register. -/
def register : Register where
  width := 8
  flags :=
    [⟨"RTCRDYIFG", readyFlag⟩, ⟨"RTCAIFG", alarmFlag⟩, ⟨"RTCTEVIFG", eventFlag⟩,
      ⟨"RTCOFIFG", faultFlag⟩, ⟨"RTCRDYIE", readyEnable⟩, ⟨"RTCAIE", alarmEnable⟩,
      ⟨"RTCTEVIE", eventEnable⟩, ⟨"RTCOFIE", faultEnable⟩]

end RtcControl0

/-! ## Real time clock control register 1: mode of the counter -/

namespace RtcControl1

/-- The low bit of the choice of counter event. -/
def event0 : BitVec 8 := 0x01

/-- The high bit of the choice of counter event. -/
def event1 : BitVec 8 := 0x02

/-- The counter event is the overflow of all 32 bits. -/
def event32Bit : BitVec 8 := event0 ||| event1

/-- The low bit of the choice of clock. -/
def source0 : BitVec 8 := 0x04

/-- The high bit of the choice of clock. -/
def source1 : BitVec 8 := 0x08

/-- The clock is ready. -/
def ready : BitVec 8 := 0x10

/-- Calendar mode. -/
def calendar : BitVec 8 := 0x20

/-- The counter is held. -/
def hold : BitVec 8 := 0x40

/-- The calendar is binary coded decimal. -/
def decimal : BitVec 8 := 0x80

/-- The register. -/
def register : Register where
  width := 8
  flags :=
    [⟨"RTCTEV0", event0⟩, ⟨"RTCTEV1", event1⟩, ⟨"RTCTEV_32BIT", event32Bit⟩,
      ⟨"RTCSSEL0", source0⟩, ⟨"RTCSSEL1", source1⟩, ⟨"RTCRDY", ready⟩, ⟨"RTCMODE", calendar⟩,
      ⟨"RTCHOLD", hold⟩, ⟨"RTCBCD", decimal⟩]

end RtcControl1

/-! ## Timer control register -/

namespace TimerControl

/-- The counter has overflowed. -/
def overflowFlag : BitVec 16 := 0x0001

/-- Overflows raise an interrupt. -/
def overflowEnable : BitVec 16 := 0x0002

/-- Clear the counter, its divider and its direction. -/
def clear : BitVec 16 := 0x0004

/-- Count up to the compare register. -/
def up : BitVec 16 := 0x0010

/-- Count continuously. -/
def continuous : BitVec 16 := 0x0020

/-- Count the auxiliary clock. -/
def auxiliaryClock : BitVec 16 := 0x0100

/-- Count the subsystem clock. -/
def subsystemClock : BitVec 16 := 0x0200

/-- The register. -/
def register : Register where
  width := 16
  flags :=
    [⟨"TAIFG", overflowFlag⟩, ⟨"TAIE", overflowEnable⟩, ⟨"TACLR", clear⟩, ⟨"MC_UP", up⟩,
      ⟨"MC_CONTINUOUS", continuous⟩, ⟨"TASSEL_ACLK", auxiliaryClock⟩,
      ⟨"TASSEL_SMCLK", subsystemClock⟩]

end TimerControl

/-! ## Capture and compare control register of a timer -/

namespace CompareControl

/-- The counter has reached the compare register. -/
def compareFlag : BitVec 16 := 0x0001

/-- A capture was lost. -/
def captureOverflow : BitVec 16 := 0x0002

/-- Reaching the compare register raises an interrupt. -/
def compareEnable : BitVec 16 := 0x0010

/-- Capture mode. -/
def capture : BitVec 16 := 0x0100

/-- The register. -/
def register : Register where
  width := 16
  flags :=
    [⟨"CCIFG", compareFlag⟩, ⟨"COV", captureOverflow⟩, ⟨"CCIE", compareEnable⟩, ⟨"CAP", capture⟩]

end CompareControl

end BoardSupport
