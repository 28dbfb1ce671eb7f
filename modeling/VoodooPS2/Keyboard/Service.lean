import VoodooPS2.Keyboard.Settings

namespace Keyboard

open Touchpad (Swipe)

-- The driver, without macros, as the other parts of the system see it.
structure Service where
  settings : Settings
  state    : State

inductive ServiceAct
  | act (a : Act)
  | setParamProperties (dict : Options)
  -- from the touchpad
  | receiveMessage (message : Swipe)
  -- the notification of an ACPI device
  | message (arg : UInt32)

-- The packets that are dispatched for a notification. The codes 3 and 4 stand for both make and break.
def notificationPackets (arg : UInt32) : List (List UInt8) :=
  if arg &&& 0xffff0000 = 0 then
    let byte₀ := (arg >>> 8).toUInt8
    let byte₁ := arg.toUInt8
    if byte₀ = 1 ∨ byte₀ = 2 then [[byte₀, byte₁]]
    else if byte₀ = 3 ∨ byte₀ = 4 then [[byte₀ - 2, byte₁], [byte₀ - 2, byte₁ ||| kSCUpBit]]
    else []
  else
    []

def dispatchPackets (cfg : Config) (v : KeyBits) : Dispatcher → List (List UInt8) → Dispatcher × List Effect
  | d, []                => (d, [])
  | d, packet :: packets =>
    let r := dispatchKeyboardEventWithPacket cfg v d packet
    let t := dispatchPackets cfg v r.1 packets
    (t.1, r.2 ++ t.2)

namespace Service

variable (hw : Config)

abbrev config (s : Service) : Config :=
  s.settings.config hw

def step (s : Service) : ServiceAct → Service × List Effect
  | .act a                   =>
    let r := (keyboard (s.config hw)).step s.state a
    ({ s with state := r.1 }, r.2)
  | .setParamProperties dict => ({ s with settings := s.settings.setParamPropertiesGated dict }, [])
  | .receiveMessage message  => (s, sendKeySequence (s.settings.action message))
  | .message arg             =>
    let v := s.state.receiver.scanner.keyBitVector
    let r := dispatchPackets (s.config hw) v s.state.dispatcher (notificationPackets arg)
    ({ s with state := { s.state with dispatcher := r.1 } }, r.2)

end Service

def service (hw : Config) : Mealy Service ServiceAct Effect where
  step := Service.step hw

end Keyboard
