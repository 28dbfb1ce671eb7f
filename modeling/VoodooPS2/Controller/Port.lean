import Mathlib.Data.UInt
import VoodooPS2.Machine.Scripted

inductive PS2DeviceType
  | keyboard
  | mouse
  deriving DecidableEq

namespace PS2DeviceType

def other : PS2DeviceType → PS2DeviceType
  | keyboard => mouse
  | mouse    => keyboard

variable {d d' : PS2DeviceType}

@[simp]
theorem other_ne : d.other ≠ d := by
  cases d <;> simp [other]

theorem eq_other (h : d' ≠ d) : d' = d.other := by
  cases d <;> cases d' <;> simp_all [other]

end PS2DeviceType

-- What the interrupt action of a device driver asks of the controller.
inductive PS2InterruptResult
  | packetReady
  | packetBuffering
  deriving DecidableEq

namespace Controller

inductive Port
  | data
  | command
  deriving DecidableEq

abbrev kOutputReady : UInt8 := 0x01
abbrev kInputBusy : UInt8 := 0x02
abbrev kMouseData : UInt8 := 0x20

abbrev kSC_Acknowledge : UInt8 := 0xFA

abbrev kCP_GetCommandByte : UInt8 := 0x20
abbrev kCP_SetCommandByte : UInt8 := 0x60
abbrev kCP_TransmitToMouse : UInt8 := 0xD4

abbrev kPS2PowerStateSleep : UInt32 := 0
abbrev kPS2PowerStateDoze : UInt32 := 1
abbrev kPS2PowerStateNormal : UInt32 := 2

-- The registers of the controller driver, and what `init` sets them to.
structure State where
  currentPowerState : UInt32 := kPS2PowerStateNormal
  hardwareOffline   : Bool   := false
  ignoreInterrupts  : Int    := 0
  ignoreOutOfOrder  : Int    := 0
  suppressTimeout   : Bool   := false
  wakedelay         : UInt32 := 10
  mouseWakeFirst    : Bool   := false
  deriving DecidableEq

-- The accesses to the hardware and to the drivers that are observed. A byte that is taken from the data
-- port belongs to the device which the status named that announced it.
inductive Access
  | poll (status : UInt8)
  | take (deviceType : PS2DeviceType) (byte : UInt8)
  | outb (port : Port) (byte : UInt8)
  | dispatchDriverInterrupt (deviceType : PS2DeviceType) (data : UInt8)
  | sleep (ms : UInt32)
  deriving DecidableEq

-- The inputs are the bytes with which the hardware answers the reads of its two ports, in the order of
-- the reads.
abbrev Hardware (α : Type) : Type :=
  Scripted UInt8 Access α

open Scripted

def stream (status : UInt8) : PS2DeviceType :=
  if status &&& kMouseData ≠ 0 then .mouse else .keyboard

-- `inb(kCommandPort)`
def inbCommandPort : Hardware UInt8 := do
  let status ← input
  emit (.poll status)
  pure status

-- `inb(kDataPort)`, after the command port has answered `status`.
def inbDataPort (status : UInt8) : Hardware UInt8 := do
  let byte ← input
  emit (.take (stream status) byte)
  pure byte

def dispatchDriverInterrupt (deviceType : PS2DeviceType) (data : UInt8) : Hardware Unit :=
  emit (.dispatchDriverInterrupt deviceType data)

-- `if (!_ignoreOutOfOrder) dispatchDriverInterrupt(deviceType, data)`
def dispatchUnlessIgnored (s : State) (deviceType : PS2DeviceType) (data : UInt8) : Hardware Unit :=
  if s.ignoreOutOfOrder = 0 then dispatchDriverInterrupt deviceType data else pure ()

def waitInput.pass (_ : Unit) : Hardware (Unit ⊕ Unit) := do
  let status ← inbCommandPort
  pure (if status &&& kInputBusy ≠ 0 then .inl () else .inr ())

-- `while (inb(kCommandPort) & kInputBusy)`
def waitInput : Hardware Unit :=
  loop waitInput.pass ()

def writeDataPort (byte : UInt8) : Hardware Unit := do
  waitInput
  emit (.outb .data byte)

def writeCommandPort (byte : UInt8) : Hardware Unit := do
  waitInput
  emit (.outb .command byte)

-- `while (timeoutCounter && !((status = inb(kCommandPort)) & kOutputReady))`, with the status that ended
-- the loop, if any, and the counter that it has left.
def waitOutput : Nat → Hardware (Option UInt8 × Nat)
  | 0                  => pure (none, 0)
  | timeoutCounter + 1 => do
    let status ← inbCommandPort
    if status &&& kOutputReady ≠ 0 then pure (some status, timeoutCounter + 1)
    else waitOutput timeoutCounter

-- (timeoutCounter * kDataDelay = 70 ms)
abbrev timeout : Nat := 10000

def readDataPort.pass (s : State) (deviceType : PS2DeviceType) (timeoutCounter : Nat) :
    Hardware (Nat ⊕ UInt8) := do
  let (status?, timeoutCounter) ← waitOutput timeoutCounter
  match status? with
  | none        => pure (.inr 0)
  | some status => do
    let readByte ← inbDataPort status
    if s.suppressTimeout then
      pure (.inr readByte)
    else if stream status = deviceType then
      pure (.inr readByte)
    else do
      dispatchDriverInterrupt deviceType.other readByte
      pure (.inl timeoutCounter)

-- `readDataPort(deviceType)`
def readDataPort (s : State) (deviceType : PS2DeviceType) : Hardware UInt8 :=
  loop (readDataPort.pass s deviceType) timeout

-- The variables of the loop of `readDataPort(deviceType, expectedByte)`. There is a first byte if
-- `firstByteHeld` is set.
structure Reading where
  timeoutCounter : Nat
  firstByte      : Option UInt8

def readDataPortExpecting.pass (s : State) (deviceType : PS2DeviceType) (expectedByte : UInt8)
    (r : Reading) : Hardware (Reading ⊕ UInt8) := do
  let (status?, timeoutCounter) ← waitOutput r.timeoutCounter
  match status? with
  | none        => pure (.inr (r.firstByte.getD 0))
  | some status => do
    let readByte ← inbDataPort status
    if stream status = deviceType then
      if readByte = expectedByte then
        match r.firstByte with
        | none           => pure (.inr readByte)
        | some firstByte => do
          dispatchUnlessIgnored s deviceType firstByte
          pure (.inr readByte)
      else
        match r.firstByte with
        | none           => pure (.inl ⟨timeoutCounter, some readByte⟩)
        | some firstByte => do
          dispatchUnlessIgnored s deviceType readByte
          pure (.inr firstByte)
    else do
      dispatchUnlessIgnored s deviceType.other readByte
      pure (.inl ⟨timeoutCounter, r.firstByte⟩)

-- `readDataPort(deviceType, expectedByte)`
def readDataPortExpecting (s : State) (deviceType : PS2DeviceType) (expectedByte : UInt8) :
    Hardware UInt8 :=
  loop (readDataPortExpecting.pass s deviceType expectedByte) ⟨timeout, none⟩

def flushDataPort.pass (n : UInt32) : Hardware (UInt32 ⊕ UInt32) := do
  let status ← inbCommandPort
  if status &&& kOutputReady ≠ 0 then do
    let _ ← inbDataPort status
    pure (.inl (n + 1))
  else
    pure (.inr n)

-- `while (inb(kCommandPort) & kOutputReady)`, with the number of bytes that were thrown away.
def flushDataPort : Hardware UInt32 :=
  loop flushDataPort.pass 0

end Controller
