import Mathlib.Data.Nat.Digits.Defs
import VoodooPS2.Keyboard.Macro

namespace Keyboard

abbrev kbvNumKeycodes : Nat := 512
abbrev kPacketTimeOffset : Nat := 8

-- The `k` lowest bytes of a number, as they are in memory.
def littleEndian : Nat → Nat → List UInt8
  | 0, _     => []
  | k + 1, n => UInt8.ofNat n :: littleEndian k (n / 256)

def ofLittleEndian (bytes : List UInt8) : Nat :=
  .ofDigits 256 (bytes.map UInt8.toNat)

-- The packet in a slot of the ring buffer.
def Packet.ofCells (cells : List UInt8) : Packet where
  byte₀ := cells.getD 0 0
  byte₁ := cells.getD 1 0
  time  := .ofNat (ofLittleEndian (cells.drop kPacketTimeOffset))

-- A packet is marked with a timestamp before the head is advanced.
def Receiver.bufferAt (r : Receiver) (now : UInt64) (packet : UInt8 × UInt8) : Receiver :=
  let ringBuffer := (r.ringBuffer.setHeadCell 0 packet.1).setHeadCell 1 packet.2
  let ringBuffer := ringBuffer.setHeadCells kPacketTimeOffset (littleEndian 8 now.toNat)
  { r with ringBuffer := ringBuffer.advanceHead kPacketLength }

-- The function `interruptOccurred` at the time `now`.
def interruptOccurredAt (ps2flags : Nat → UInt16) (r : Receiver) (now : UInt64) (data : UInt8) : Receiver :=
  let scanned := r.scanner.scan ps2flags data
  let r := { r with scanner := scanned.1 }
  match scanned.2 with
  | none        => r
  | some packet => r.bufferAt now packet

structure Driver where
  receiver : Receiver
  inverter : Inverter

namespace Driver

variable (cfg : Config) (c : Inversion)

-- The state after `init`, with what is in the memory of the two buffers.
def init (cells : Nat → UInt8) (macroBuffer : Nat → Packet) : Driver where
  receiver := { scanner := {}, ringBuffer := { buffer := cells, head := 0, tail := 0 } }
  inverter := { dispatcher := {}, macroBuffer := macroBuffer, macroCurrent := 0 }

-- A pass of the loop of `packetReady`.
def pass (s : Driver) : Option (Driver × List Event) :=
  let packet := Packet.ofCells (s.receiver.ringBuffer.tailPacket kPacketLength)
  let ringBuffer := s.receiver.ringBuffer.advanceTail kPacketLength
  match s.inverter.handle cfg c s.receiver.scanner.keyBitVector packet with
  | none   => none
  | some r => some (⟨{ s.receiver with ringBuffer := ringBuffer }, r.1⟩, r.2)

-- The timer for the sleep and eject keys, which fires only if it has been set.
def onSleepEjectTimer (s : Driver) : Driver × List Event :=
  let d := s.inverter.dispatcher
  if d.sleepEjectTimer then
    ({ s with inverter := { s.inverter with dispatcher := { d with sleepEjectTimer := false } } },
      d.onSleepEjectTimer.map .effect)
  else
    (s, [])

-- The packet of a key that is still down. It has no timestamp, but whatever is in the memory.
def keyUpPacket (time : UInt64) (scanCode : Nat) : Packet where
  byte₀ := if scanCode < kbvNumScancodes then 1 else 2
  byte₁ := .ofNat scanCode ||| kSCUpBit
  time  := time

-- What happens to the registers, with the key up events that are dispatched.
def initKeyboard (time : UInt64) (s : Driver) : Driver × List Event :=
  let v := s.receiver.scanner.keyBitVector
  let scanCodes := (List.range kbvNumKeycodes).filter fun scanCode => v.isKeyDown scanCode
  let r := Inverter.dispatchAll cfg v s.inverter.dispatcher (scanCodes.map (keyUpPacket time))
  let scanner := { s.receiver.scanner with extendCount := 0, keyBitVector := fun _ => 0 }
  ({ receiver := { scanner := scanner, ringBuffer := s.receiver.ringBuffer.reset }
     inverter := { s.inverter with dispatcher := { r.1 with ps2modifierState := 0 } } }, r.2)

end Driver

-- The rest of `onMacroTimer`, which calls `packetReady` first, is an act of its own.
inductive DriverAct
  | byte (now : UInt64) (data : UInt8)
  | packet
  | macroTimer (now : UInt64)
  | sleepEjectTimer
  deriving DecidableEq

def Driver.step (cfg : Config) (c : Inversion) (s : Driver) : DriverAct → Option (Driver × List Event)
  | .byte now data   => some ({ s with receiver := interruptOccurredAt cfg.ps2flags s.receiver now data }, [])
  | .packet          => if s.receiver.ringBuffer.count ≥ kPacketLength then s.pass cfg c else some (s, [])
  | .macroTimer now  =>
    let r := s.inverter.dispatchExpired cfg c s.receiver.scanner.keyBitVector now
    some ({ s with inverter := r.1 }, r.2)
  | .sleepEjectTimer => some s.onSleepEjectTimer

def driver (cfg : Config) (c : Inversion) : Mealy (Option Driver) DriverAct Event :=
  .halting (Driver.step cfg c) .overrun

-- When power comes back, the keyboard is initialised again.
inductive SessionAct
  | act (a : DriverAct)
  | initKeyboard (time : UInt64)
  deriving DecidableEq

def Driver.sessionStep (cfg : Config) (c : Inversion) (s : Driver) :
    SessionAct → Option (Driver × List Event)
  | .act a             => s.step cfg c a
  | .initKeyboard time => some (s.initKeyboard cfg time)

def session (cfg : Config) (c : Inversion) : Mealy (Option Driver) SessionAct Event :=
  .halting (Driver.sessionStep cfg c) .overrun

end Keyboard
