import VoodooPS2.Controller.Port
import VoodooPS2.Machine.Mealy
import VoodooPS2.Machine.Steps

namespace Controller.Interrupt

-- What a driver gives to `installInterruptAction`: the interrupt action, and one pass of the loop of the
-- packet action, which is left when there is no such pass. The timer of a driver fires only if it is set.
structure Driver (σ ω : Type) where
  interruptAction : σ → UInt8 → σ × PS2InterruptResult
  packetAction    : σ → Option (σ × List ω)
  timerAction     : σ → Option (σ × List ω) := fun _ => none

namespace Driver

variable {σ ω : Type}

inductive Act
  | byte (data : UInt8)
  | pass
  | timer
  deriving DecidableEq

-- The driver by itself.
def machine (driver : Driver σ ω) : Mealy σ Act ω where
  step
    | s, .byte data => ((driver.interruptAction s data).1, [])
    | s, .pass      => (driver.packetAction s).getD (s, [])
    | s, .timer     => (driver.timerAction s).getD (s, [])

def Act.byte? : Act → Option UInt8
  | byte data => some data
  | _         => none

-- There is a packet that the packet action has not dealt with.
def Pending (driver : Driver σ ω) (s : σ) : Prop :=
  (driver.packetAction s).isSome

-- What the controller relies on, in the states with `Valid`: a driver that has got a new packet says so,
-- and the packet action comes to an end. The packets are counted by `backlog`.
structure Lawful (driver : Driver σ ω) (Valid : σ → Prop) (backlog : σ → Nat) : Prop where
  interrupt : ∀ {s data}, Valid s →
    Valid (driver.interruptAction s data).1 ∧ backlog (driver.interruptAction s data).1 ≤ backlog s + 1
  packet    : ∀ {s r}, Valid s → driver.packetAction s = some r → Valid r.1 ∧ backlog r.1 < backlog s
  timer     : ∀ {s r}, Valid s → driver.timerAction s = some r →
    Valid r.1 ∧ (driver.Pending r.1 → driver.Pending s)
  buffering : ∀ {s data}, Valid s → (driver.interruptAction s data).2 = .packetBuffering →
    driver.Pending (driver.interruptAction s data).1 → driver.Pending s

end Driver

-- Where a call of `handleInterrupt` is: in its loop, with or without a byte that it has taken from the
-- data port, or behind the loop.
inductive Phase
  | polling
  | holding (deviceType : PS2DeviceType) (data : UInt8)
  | wakingMouse
  | wakingKeyboard
  deriving DecidableEq

-- The variables of `handleInterrupt`, where `wake` is `wakeMouse` and `wakeKeyboard`.
structure Handler where
  phase : Phase := .polling
  wake  : PS2DeviceType → Bool := fun _ => false

-- The bytes that have been taken from the data port and wait for their dispatch.
def Phase.held : Phase → List (PS2DeviceType × UInt8)
  | holding d data => [(d, data)]
  | _              => []

-- The work loop is a single thread. While it deals with a request, `readDataPort` takes bytes as well.
-- Once one of them has completed a packet, `dispatchDriverInterrupt` wakes the source of the device.
inductive WorkLoop
  | idle
  | packetAction (deviceType : PS2DeviceType)
  | request (held : List (PS2DeviceType × UInt8))
  | waking (deviceType : PS2DeviceType) (held : List (PS2DeviceType × UInt8))

def WorkLoop.held : WorkLoop → List (PS2DeviceType × UInt8)
  | request l  => l
  | waking _ l => l
  | _          => []

-- An interrupt source is pending from the call of its `interruptOccurred` until the work loop calls its
-- action.
structure System (σ : PS2DeviceType → Type) where
  ignoreInterrupts : Int
  handlers         : List Handler
  workLoop         : WorkLoop
  interruptSource  : PS2DeviceType → Bool
  driver           : (d : PS2DeviceType) → σ d

inductive Action
  | interruptHandler
  | take (status data : UInt8)
  | dispatchDriverInterrupt (deviceType : PS2DeviceType) (data : UInt8)
  | consume (deviceType : PS2DeviceType) (data : UInt8)
  | breakLoop (status : UInt8)
  | interruptOccurred (deviceType : PS2DeviceType)
  | packetReady (deviceType : PS2DeviceType)
  | packetAction (deviceType : PS2DeviceType)
  | packetActionDone
  | timerAction (deviceType : PS2DeviceType)
  | processRequest
  | requestDone
  deriving DecidableEq

variable {σ ω : PS2DeviceType → Type}

-- The drivers of the two devices, and `_interruptInstalledKeyboard` and `_interruptInstalledMouse`.
structure Drivers (σ ω : PS2DeviceType → Type) where
  driver    : (d : PS2DeviceType) → Driver (σ d) (ω d)
  installed : PS2DeviceType → Bool

-- `_dispatchDriverInterrupt(deviceType, data)`
def Drivers._dispatchDriverInterrupt (ds : Drivers σ ω) (x : (d : PS2DeviceType) → σ d) (d : PS2DeviceType)
    (data : UInt8) : ((d : PS2DeviceType) → σ d) × PS2InterruptResult :=
  if ds.installed d then
    let r := (ds.driver d).interruptAction (x d) data
    (Function.update x d r.1, r.2)
  else
    (x, .packetBuffering)

namespace Action

def taken? : Action → Option (PS2DeviceType × UInt8)
  | take status data => some (stream status, data)
  | _                => none

def dispatched? : Action → Option (PS2DeviceType × UInt8)
  | dispatchDriverInterrupt d data => some (d, data)
  | _                              => none

def consumed? : Action → Option (PS2DeviceType × UInt8)
  | consume d data => some (d, data)
  | _              => none

-- The byte, if any, that the action is the last one to deal with.
def left? (a : Action) : Option (PS2DeviceType × UInt8) :=
  a.dispatched? <|> a.consumed?

-- What the action is to the driver of the device.
def act? (ds : Drivers σ ω) (d : PS2DeviceType) : Action → Option Driver.Act
  | dispatchDriverInterrupt d' data => if d' = d ∧ ds.installed d then some (.byte data) else none
  | packetAction d'                 => if d' = d then some .pass else none
  | timerAction d'                  => if d' = d then some .timer else none
  | _                               => none

-- What comes from outside: interrupts, bytes, timers and requests.
def External : Action → Prop
  | interruptHandler => True
  | take _ _         => True
  | timerAction _    => True
  | processRequest   => True
  | _                => False

end Action

open Scripted

-- What `handleInterrupt` has done so far: the states of the drivers, and whom to wake.
structure Handling (σ : PS2DeviceType → Type) where
  driver : (d : PS2DeviceType) → σ d
  wake   : PS2DeviceType → Bool

def handleInterrupt.pass (ds : Drivers σ ω) (h : Handling σ) : Hardware (Handling σ ⊕ Handling σ) := do
  let status ← inbCommandPort
  if status &&& kOutputReady = 0 then
    pure (.inr h)
  else do
    let data ← inbDataPort status
    dispatchDriverInterrupt (stream status) data
    let r := ds._dispatchDriverInterrupt h.driver (stream status) data
    pure (.inl ⟨r.1, if r.2 = .packetReady then Function.update h.wake (stream status) true else h.wake⟩)

-- The function `handleInterrupt` by itself, up to the wake-ups behind its loop.
def handleInterrupt (ds : Drivers σ ω) (x : (d : PS2DeviceType) → σ d) : Hardware (Handling σ) :=
  loop (handleInterrupt.pass ds) ⟨x, fun _ => false⟩

namespace System

-- `if (wakeMouse) _interruptSourceMouse->interruptOccurred(0, 0, 0)`, and the same for the keyboard.
def signalIf (wake : Bool) (q : PS2DeviceType → Bool) (d : PS2DeviceType) : PS2DeviceType → Bool :=
  if wake then Function.update q d true else q

-- The handlers run at interrupt time, on any processor. Between the reads of the two ports there are no
-- interrupts, so a byte is taken together with its status; everything else is open to interleavings.
inductive Step (ds : Drivers σ ω) : System σ → Action → System σ → Prop
  | ignored :
    i ≠ 0 → Step ds ⟨i, hs, w, q, x⟩ .interruptHandler ⟨i, hs, w, q, x⟩
  | interruptHandler :
    i = 0 → Step ds ⟨i, hs, w, q, x⟩ .interruptHandler ⟨i, {} :: hs, w, q, x⟩
  | take (hs₁ : List Handler) :
    status &&& kOutputReady ≠ 0 →
      Step ds ⟨i, hs₁ ++ ⟨.polling, f⟩ :: hs₂, w, q, x⟩ (.take status data)
        ⟨i, hs₁ ++ ⟨.holding (stream status) data, f⟩ :: hs₂, w, q, x⟩
  | dispatch (hs₁ : List Handler) :
    Step ds ⟨i, hs₁ ++ ⟨.holding d data, f⟩ :: hs₂, w, q, x⟩ (.dispatchDriverInterrupt d data)
      (let r := ds._dispatchDriverInterrupt x d data
       ⟨i, hs₁ ++ ⟨.polling, if r.2 = .packetReady then Function.update f d true else f⟩ :: hs₂, w, q, r.1⟩)
  | breakLoop (hs₁ : List Handler) :
    status &&& kOutputReady = 0 →
      Step ds ⟨i, hs₁ ++ ⟨.polling, f⟩ :: hs₂, w, q, x⟩ (.breakLoop status)
        ⟨i, hs₁ ++ ⟨.wakingMouse, f⟩ :: hs₂, w, q, x⟩
  | wakeMouse (hs₁ : List Handler) :
    Step ds ⟨i, hs₁ ++ ⟨.wakingMouse, f⟩ :: hs₂, w, q, x⟩ (.interruptOccurred .mouse)
      ⟨i, hs₁ ++ ⟨.wakingKeyboard, f⟩ :: hs₂, w, signalIf (f .mouse) q .mouse, x⟩
  | wakeKeyboard (hs₁ : List Handler) :
    Step ds ⟨i, hs₁ ++ ⟨.wakingKeyboard, f⟩ :: hs₂, w, q, x⟩ (.interruptOccurred .keyboard)
      ⟨i, hs₁ ++ hs₂, w, signalIf (f .keyboard) q .keyboard, x⟩
  | packetReady :
    q d = true → Step ds ⟨i, hs, .idle, q, x⟩ (.packetReady d)
      ⟨i, hs, if ds.installed d then .packetAction d else .idle, Function.update q d false, x⟩
  | packetAction :
    (ds.driver d).packetAction (x d) = some r →
      Step ds ⟨i, hs, .packetAction d, q, x⟩ (.packetAction d)
        ⟨i, hs, .packetAction d, q, Function.update x d r.1⟩
  | packetActionDone :
    (ds.driver d).packetAction (x d) = none →
      Step ds ⟨i, hs, .packetAction d, q, x⟩ .packetActionDone ⟨i, hs, .idle, q, x⟩
  | timerAction :
    (ds.driver d).timerAction (x d) = some r →
      Step ds ⟨i, hs, .idle, q, x⟩ (.timerAction d) ⟨i, hs, .idle, q, Function.update x d r.1⟩
  | processRequest :
    Step ds ⟨i, hs, .idle, q, x⟩ .processRequest ⟨i + 1, hs, .request [], q, x⟩
  | takeRequest :
    status &&& kOutputReady ≠ 0 →
      Step ds ⟨i, hs, .request l, q, x⟩ (.take status data)
        ⟨i, hs, .request (l ++ [(stream status, data)]), q, x⟩
  -- an answer, or a byte that is thrown away
  | consume (l₁ : List (PS2DeviceType × UInt8)) :
    Step ds ⟨i, hs, .request (l₁ ++ (d, data) :: l₂), q, x⟩ (.consume d data)
      ⟨i, hs, .request (l₁ ++ l₂), q, x⟩
  | dispatchRequest :
    Step ds ⟨i, hs, .request (l₁ ++ (d, data) :: l₂), q, x⟩ (.dispatchDriverInterrupt d data)
      (let r := ds._dispatchDriverInterrupt x d data
       ⟨i, hs, if r.2 = .packetReady then .waking d (l₁ ++ l₂) else .request (l₁ ++ l₂), q, r.1⟩)
  | wakeRequest :
    Step ds ⟨i, hs, .waking d l, q, x⟩ (.interruptOccurred d)
      ⟨i, hs, .request l, Function.update q d true, x⟩
  | requestDone :
    Step ds ⟨i, hs, .request [], q, x⟩ .requestDone ⟨i - 1, hs, .idle, q, x⟩

-- Nothing has arrived yet.
def init (x : (d : PS2DeviceType) → σ d) : System σ where
  ignoreInterrupts := 0
  handlers         := []
  workLoop         := .idle
  interruptSource  := fun _ => false
  driver           := x

-- All that has been taken and neither dispatched nor consumed.
def held (s : System σ) : List (PS2DeviceType × UInt8) :=
  s.handlers.flatMap (·.phase.held) ++ s.workLoop.held

-- No handler is active, the work loop has nothing to do, and no source is pending.
structure Quiescent (s : System σ) : Prop where
  handlers : s.handlers = []
  workLoop : s.workLoop = .idle
  source   : ∀ d, s.interruptSource d = false

end System

end Controller.Interrupt
