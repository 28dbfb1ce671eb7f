import VoodooPS2.Controller.Interrupt
import VoodooPS2.Keyboard.Dispatch
import VoodooPS2.Touchpad.Framer

open Controller.Interrupt

namespace Keyboard

-- What the keyboard driver installs, without macros.
def actions (cfg : Config) : Controller.Interrupt.Driver State Effect where
  interruptAction s data :=
    let i := interruptOccurred cfg.ps2flags s.receiver data
    ({ s with receiver := i.1 }, i.2)
  packetAction s :=
    if s.receiver.ringBuffer.count ≥ kPacketLength then some (s.pass cfg) else none
  timerAction s :=
    if s.dispatcher.sleepEjectTimer then
      some ({ s with dispatcher := { s.dispatcher with sleepEjectTimer := false } },
        s.dispatcher.onSleepEjectTimer)
    else
      none

-- What the controller makes the driver do.
def Act.ofDriver : Driver.Act → Act
  | .byte data => .byte data
  | .pass      => .packet
  | .timer     => .timer

end Keyboard

namespace Touchpad

-- A pass of the loop of `packetReady`, with the packet that it hands to `process_packet`, if any.
def Framer.pass (priv : AlpsData) (s : Framer) : Framer × List (List UInt8) :=
  let packet := s.ringBuffer.tailPacket priv.pktsize
  let handed := if s.badData = false then [packet] else []
  ({ s with packetByteCount := 0, ringBuffer := s.ringBuffer.advanceTail priv.pktsize }, handed)

-- What the touchpad driver installs.
def actions (priv : AlpsData) : Driver Framer (List UInt8) where
  interruptAction s data :=
    let d := interruptOccurred priv s data
    (d.framer, d.result)
  packetAction s :=
    if s.ringBuffer.count ≥ priv.pktsize then some (s.pass priv) else none

end Touchpad

namespace Controller.Interrupt

abbrev DriverState : PS2DeviceType → Type
  | .keyboard => Keyboard.State
  | .mouse    => Touchpad.Framer

abbrev DriverEffect : PS2DeviceType → Type
  | .keyboard => Keyboard.Effect
  | .mouse    => List UInt8

-- Both drivers have been started.
def drivers (cfg : Keyboard.Config) (priv : Touchpad.AlpsData) : Drivers DriverState DriverEffect where
  driver
    | .keyboard => Keyboard.actions cfg
    | .mouse    => Touchpad.actions priv
  installed _ := true

-- Their initialisation resets the buffers.
def driversInit (s : Keyboard.State) (t : Touchpad.Framer) : (d : PS2DeviceType) → DriverState d
  | .keyboard => { s with receiver := { s.receiver with ringBuffer := s.receiver.ringBuffer.reset } }
  | .mouse    => Touchpad.initTouchPad t

end Controller.Interrupt
