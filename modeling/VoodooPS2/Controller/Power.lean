import VoodooPS2.Controller.Request

namespace Controller

open Scripted

abbrev kCB_EnableKeyboardIRQ : UInt8 := 0x01
abbrev kCB_EnableMouseIRQ : UInt8 := 0x02
abbrev kCB_SystemFlag : UInt8 := 0x04
abbrev kCB_DisableKeyboardClock : UInt8 := 0x10
abbrev kCB_DisableMouseClock : UInt8 := 0x20
abbrev kCB_TranslateMode : UInt8 := 0x40

abbrev kCP_DisableMouseClock : UInt8 := 0xA7
abbrev kCP_EnableMouseClock : UInt8 := 0xA8
abbrev kCP_TestMousePort : UInt8 := 0xA9
abbrev kCP_TestController : UInt8 := 0xAA
abbrev kCP_TestKeyboardPort : UInt8 := 0xAB
abbrev kCP_DisableKeyboardClock : UInt8 := 0xAD
abbrev kCP_EnableKeyboardClock : UInt8 := 0xAE

abbrev kDP_SetDefaultsAndDisable : UInt8 := 0xF5

-- `setCommandByte` with its gated part: the state it leaves, and the old command byte.
def setCommandByte (s : State) (setBits clearBits : UInt8) : Hardware (State × UInt8) := do
  let s := { s with ignoreInterrupts := s.ignoreInterrupts + 1 }
  writeCommandPort kCP_GetCommandByte
  let oldCommandByte ← readDataPort s .keyboard
  let s := { s with ignoreInterrupts := s.ignoreInterrupts - 1 }
  let newCommandByte := (oldCommandByte ||| setBits) &&& ~~~clearBits
  if oldCommandByte ≠ newCommandByte then
    writeCommandPort kCP_SetCommandByte
    writeDataPort newCommandByte
  pure (s, oldCommandByte)

def resetController (s : State) : Hardware State := do
  let s := { s with suppressTimeout := true }
  writeCommandPort kCP_DisableKeyboardClock
  writeCommandPort kCP_DisableMouseClock
  let _ ← flushDataPort
  writeCommandPort kCP_EnableMouseClock
  writeCommandPort kCP_EnableKeyboardClock
  writeCommandPort kCP_GetCommandByte
  let commandByte ← readDataPort s .keyboard
  writeCommandPort kCP_TestController
  let _ ← readDataPort s .keyboard
  let _ ← readDataPort s .mouse
  writeCommandPort kCP_TestKeyboardPort
  let _ ← readDataPort s .keyboard
  writeCommandPort kCP_TestMousePort
  let _ ← readDataPort s .mouse
  let s := { s with suppressTimeout := false }
  let commandByte := commandByte &&&
    ~~~(kCB_EnableKeyboardIRQ ||| kCB_EnableMouseIRQ ||| kCB_DisableMouseClock)
  let commandByte := commandByte ||| kCB_TranslateMode
  writeCommandPort kCP_SetCommandByte
  writeDataPort commandByte
  writeDataPort kDP_SetDefaultsAndDisable
  let _ ← readDataPort s .keyboard
  writeCommandPort kCP_TransmitToMouse
  writeDataPort kDP_SetDefaultsAndDisable
  let _ ← readDataPort s .mouse
  let _ ← flushDataPort
  pure s

inductive PowerControl
  | disableDevice
  | enableDevice

-- What a driver does when it is told about a change of the power state. It may use the services of the
-- controller, and go on in any way that depends on their results. Whatever requests have been queued
-- by the time of a blocking request are processed ahead of it.
inductive PowerAction
  | done
  | submitRequestAndBlock (queued : List PS2Request) (request : PS2Request)
    (next : PS2Request → PowerAction)
  | setCommandByte (setBits clearBits : UInt8) (next : UInt8 → PowerAction)
  | sleep (ms : UInt32) (next : PowerAction)

def processRequests (s : State) : List PS2Request → Hardware State
  | []      => pure s
  | r :: rs => do
    let p ← label Prod.snd (processRequest s r)
    processRequests p.state rs

def PowerAction.run (s : State) : PowerAction → Hardware State
  | done => pure s
  | submitRequestAndBlock queued request next => do
    let s ← processRequests s queued
    let p ← label Prod.snd (processRequest s request)
    (next p.request).run p.state
  | setCommandByte setBits clearBits next => do
    let (s, oldBits) ← Controller.setCommandByte s setBits clearBits
    (next oldBits).run s
  | sleep ms next => do
    emit (.sleep ms)
    next.run s

-- The actions that the drivers have installed.
structure Drivers where
  keyboard : Option (PowerControl → PowerAction) := none
  mouse    : Option (PowerControl → PowerAction) := none

def dispatchDriverPowerControl (s : State) (drivers : Drivers) (whatToDo : PowerControl)
    (deviceType : PS2DeviceType) : Hardware State :=
  match deviceType with
  | .mouse    => drivers.mouse.elim (pure s) fun action => (action whatToDo).run s
  | .keyboard => drivers.keyboard.elim (pure s) fun action => (action whatToDo).run s

def sleepTransition (s : State) (drivers : Drivers) : Hardware State := do
  let s := { s with ignoreInterrupts := s.ignoreInterrupts + 1 }
  let (s, _) ← setCommandByte s 0 (kCB_EnableKeyboardIRQ ||| kCB_EnableMouseIRQ)
  let s ← dispatchDriverPowerControl s drivers .disableDevice .mouse
  let s ← dispatchDriverPowerControl s drivers .disableDevice .keyboard
  let s := { s with hardwareOffline := true }
  let (s, _) ← setCommandByte s (kCB_DisableKeyboardClock ||| kCB_DisableMouseClock) 0
  pure s

def wakeTransition (s : State) (drivers : Drivers) : Hardware State := do
  if s.wakedelay ≠ 0 then emit (.sleep s.wakedelay)
  let s ← resetController s
  let (s, _) ← setCommandByte s 0 (kCB_DisableKeyboardClock ||| kCB_DisableMouseClock |||
    kCB_EnableKeyboardIRQ ||| kCB_EnableMouseIRQ)
  let s := { s with hardwareOffline := false }
  let first : PS2DeviceType := if s.mouseWakeFirst then .mouse else .keyboard
  let s ← dispatchDriverPowerControl s drivers .enableDevice first
  let s ← dispatchDriverPowerControl s drivers .enableDevice first.other
  let (s, _) ← setCommandByte s (kCB_EnableKeyboardIRQ ||| kCB_EnableMouseIRQ ||| kCB_SystemFlag) 0
  pure { s with ignoreInterrupts := s.ignoreInterrupts - 1 }

def setPowerStateGated (s : State) (drivers : Drivers) (powerState : UInt32) : Hardware State :=
  if s.currentPowerState ≠ powerState then do
    let s ←
      if powerState = kPS2PowerStateSleep then
        sleepTransition s drivers
      else if powerState = kPS2PowerStateDoze ∨ powerState = kPS2PowerStateNormal then
        -- Transitions between the two working states require no action.
        if s.currentPowerState ≠ kPS2PowerStateSleep then pure s else wakeTransition s drivers
      else
        -- "bad power state"
        pure s
    pure { s with currentPowerState := powerState }
  else
    pure s

structure PowerCall where
  drivers    : Drivers := {}
  powerState : UInt32

-- A sequence of calls, with the state that each of them leaves.
def setPowerStates (s : State) : List PowerCall → Hardware (List State)
  | []      => pure []
  | c :: cs => do
    let s ← setPowerStateGated s c.drivers c.powerState
    let ss ← setPowerStates s cs
    pure (s :: ss)

end Controller
