import BoardSupport.ClockGenerator.Basic
import BoardSupport.Converter.Library
import BoardSupport.CountdownTimer.Basic
import BoardSupport.HostInterface.Basic
import BoardSupport.MultichannelBus.Library
import BoardSupport.SerialBus.Library
import BoardSupport.StandIn.Basic
import BoardSupport.Watchdog.Basic

/-!
# The stand-in as each module of the library

One `Device` for each part of the chip support library, all on the one state of the stand-in.
-/

namespace BoardSupport.StandIn

open ChipSupport (Device)

/-- What happens at a call of the converter whether or not it fails. -/
def beforeConverter : Converter.Request → StateM StandIn Unit
  | .status => poll
  | .read => takeSample
  | _ => pure ()

/-- What a call of the converter does when it succeeds. -/
def onConverter : (r : Converter.Request) → StateM StandIn r.Value
  | .openChannel _ => openBank
  | .status => isReady <$> get
  | .read => sample <$> get
  | .init | .deinit | .resetChannel | .setUp _ | .setCycle _ | .route _ | .start | .stop
  | .closeChannel => pure ()

/-- The stand-in as the converter; status queries are not counted as calls. -/
def converter : Device Converter.library StandIn where
  request r := do
    beforeConverter r
    if r = .status then
      serve r.entry (onConverter r)
    else
      answer r.entry (onConverter r)
  access := nofun

/-- What a call of the serial bus does when it succeeds. -/
def onSerialBus : (r : SerialBus.Request) → StateM StandIn r.Value
  | .openOn .. => openBank
  | .write words => send words
  | .read count => receive count
  | .init | .deinit | .routePins _ | .close | .configure _ => pure ()

/-- The stand-in as the serial bus. -/
def serialBus : Device SerialBus.library StandIn where
  request r := answer r.entry (onSerialBus r)
  access _ := countCall

/-- What a call of the multichannel bus does when it succeeds. -/
def onMultichannelBus : (r : MultichannelBus.Request) → StateM StandIn r.Value
  | .openIn _ => openBank
  | .write words => send words
  | .read count => receive count
  | .init | .close | .routePins _ | .configure _ => pure ()

/-- The stand-in as the multichannel bus; looking at a flag is not counted as a call. -/
def multichannelBus : Device MultichannelBus.library StandIn where
  request r := answer r.entry (onMultichannelBus r)
  access
    | .receiveFull => receiveFull <$> get
    | .transmitEmpty => transmitEmpty <$> get

/-- What a call of the host interface does when it succeeds. -/
def onHostInterface : (r : HostInterface.Request) → StateM StandIn r.Value
  | .openModule => openBank
  | .close | .configure _ | .routePins _ => pure ()

/-- The stand-in as the host interface. -/
def hostInterface : Device HostInterface.library StandIn where
  request r := answer r.entry (onHostInterface r)
  access := nofun

/-- What a call of the clock generator does when it succeeds. -/
def onClockGenerator : (r : ClockGenerator.Request) → StateM StandIn r.Value
  | .init => openBank
  | .configure config => modify fun s => { s with clock := config }
  | .readConfig => clock <$> get
  | .reset | .enable => pure ()

/-- The stand-in as the clock generator; asking for the input clock is not counted as a call. -/
def clockGenerator : Device ClockGenerator.library StandIn where
  request r := answer r.entry (onClockGenerator r)
  access _ := inputClock <$> get

/-- What a call of a countdown timer does when it succeeds. -/
def onTimer : (op : CountdownTimer.Operation) → StateM StandIn op.Value
  | .openTimer => openBank
  | .count => count <$> get
  | .reset | .configure _ | .start | .stop | .close => pure ()

/-- The stand-in as the countdown timers; clearing interrupts is not counted as a call. -/
def countdownTimers : Device CountdownTimer.library StandIn where
  request r := answer r.operation.entry (onTimer r.operation)
  access _ := pure ()

/-- What a call of the watchdog does when it succeeds. -/
def onWatchdog : (r : Watchdog.Request) → StateM StandIn r.Value
  | .openTimer => openBank
  | .configure _ | .service | .start | .stop | .close => pure ()

/-- The stand-in as the watchdog. -/
def watchdog : Device Watchdog.library StandIn where
  request r := answer r.entry (onWatchdog r)
  access := nofun

end BoardSupport.StandIn
