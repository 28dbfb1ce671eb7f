import Mathlib.Data.UInt
import VoodooPS2.Controller.Port
import VoodooPS2.Machine.Mealy
import VoodooPS2.RingBuffer.Queue

namespace Touchpad

abbrev alpsProtoV5 : UInt16 := 0x500
abbrev alpsProtoV7 : UInt16 := 0x700
abbrev alpsProtoV8 : UInt16 := 0x800

abbrev alpsPS2Interleaved : UInt32 := 0x80

-- The part of `alps_data` that describes the device and that the framer reads.
structure AlpsData where
  protoVersion : UInt16
  byte0        : UInt8
  mask0        : UInt8
  flags        : UInt32
  pktsize      : Nat
  -- `deviceSpecificInit` chooses between these two.
  pktsize_eq   : pktsize = 6 ∨ pktsize = 8

-- The registers that `interruptOccurred` and `packetReady` share. The ring buffer is the one of the
-- base class, with `kPacketLength * 32` cells.
structure Framer where
  packetByteCount : Nat
  ringBuffer      : RingBuffer UInt8 192
  badData         : Bool

-- The values that `set_protocol` installs for the Pinnacle touchpads of version 3.
def privV3 : AlpsData where
  protoVersion := 0x300
  byte0        := 0x8f
  mask0        := 0x8f
  flags        := 0x02
  pktsize      := 6
  pktsize_eq   := .inl rfl

namespace Framer

-- Objects are allocated with all bytes zero.
def zero : Framer where
  packetByteCount := 0
  ringBuffer      := ⟨fun _ => 0, 0, 0⟩
  badData         := false

def packet (s : Framer) (k : Nat) : UInt8 :=
  s.ringBuffer.headCell k

def setPacket (s : Framer) (k : Nat) (data : UInt8) : Framer :=
  { s with ringBuffer := s.ringBuffer.setHeadCell k data }

def advanceHead (s : Framer) (priv : AlpsData) : Framer :=
  { s with ringBuffer := s.ringBuffer.advanceHead priv.pktsize }

-- The first byte of a packet is put in place ahead of the checks.
def saveFirst (s : Framer) (data : UInt8) : Framer :=
  if s.packetByteCount = 0 then s.setPacket 0 data else s

-- `packet[_packetByteCount++] = data`
def store (s : Framer) (data : UInt8) : Framer :=
  { s.setPacket s.packetByteCount data with packetByteCount := s.packetByteCount + 1 }

end Framer

section Checks

-- The checks look at the packet under construction, of which `n` bytes have been stored.
variable (priv : AlpsData) (n : Nat) (packet : Nat → UInt8)

def IsBare : Prop :=
  priv.protoVersion ≠ alpsProtoV8 ∧ packet 0 &&& 0xc8 = 0x08

-- A PS/2 packet stuffed in the middle of an ALPS packet.
def IsStuffed : Prop :=
  priv.flags &&& alpsPS2Interleaved ≠ 0 ∧ n ≥ 4 ∧ packet 3 &&& 0x0f = 0x0f

def IsInvalidFirstByte : Prop :=
  packet 0 &&& priv.mask0 ≠ priv.byte0

def HasHighBit : Prop :=
  priv.protoVersion < alpsProtoV5 ∧ n ≥ 2 ∧ n ≤ priv.pktsize ∧ packet (n - 1) &&& 0x80 ≠ 0

def IsInvalidPackageV7 : Prop :=
  priv.protoVersion = alpsProtoV7 ∧
    (n = 3 ∧ packet 2 &&& 0x40 ≠ 0x40 ∨
     n = 4 ∧ packet 3 &&& 0x48 ≠ 0x48 ∨
     n = 6 ∧ packet 5 &&& 0x40 ≠ 0x0)

def IsInvalidPackageSS4V2 : Prop :=
  priv.protoVersion = alpsProtoV8 ∧
    (n = 4 ∧ packet 3 &&& 0x08 ≠ 0x08 ∨
     n = 6 ∧ packet 5 &&& 0x10 ≠ 0x0)

instance : Decidable (IsBare priv packet) := by unfold IsBare; infer_instance
instance : Decidable (IsStuffed priv n packet) := by unfold IsStuffed; infer_instance
instance : Decidable (IsInvalidFirstByte priv packet) := by unfold IsInvalidFirstByte; infer_instance
instance : Decidable (HasHighBit priv n packet) := by unfold HasHighBit; infer_instance
instance : Decidable (IsInvalidPackageV7 priv n packet) := by unfold IsInvalidPackageV7; infer_instance
instance : Decidable (IsInvalidPackageSS4V2 priv n packet) := by
  unfold IsInvalidPackageSS4V2; infer_instance

end Checks

-- What a call of `interruptOccurred` does: the registers it leaves, the value it returns, and the
-- indices `k` of the assignments `packet[k] = data` it makes.
structure Delivery where
  framer : Framer
  result : PS2InterruptResult
  stores : List Nat

def interruptOccurred (priv : AlpsData) (s : Framer) (data : UInt8) : Delivery :=
  let n := s.packetByteCount
  let first := if n = 0 then [0] else []
  let packet := (s.saveFirst data).packet
  let s := { s.saveFirst data with badData := false }
  let reject : Delivery := ⟨{ s.advanceHead priv with badData := true }, .packetReady, first⟩
  if IsBare priv packet then
    if n = 3 then reject
    else ⟨s.store data, .packetBuffering, first ++ [n]⟩
  else if IsStuffed priv n packet then reject
  else if IsInvalidFirstByte priv packet then reject
  else if HasHighBit priv n packet then reject
  else if IsInvalidPackageV7 priv n packet then reject
  else if IsInvalidPackageSS4V2 priv n packet then reject
  else
    let s := s.store data
    if s.packetByteCount = priv.pktsize then
      ⟨s.advanceHead priv, .packetReady, first ++ [n]⟩
    else
      ⟨s, .packetBuffering, first ++ [n]⟩

-- The loop of `packetReady`, with the packets that it hands to `process_packet`.
def drain (priv : AlpsData) : Nat → Framer → Framer × List (List UInt8)
  | 0, s        => (s, [])
  | fuel + 1, s =>
    if s.ringBuffer.count ≥ priv.pktsize then
      let packet := s.ringBuffer.tailPacket priv.pktsize
      let handed := if s.badData = false then [packet] else []
      let r := drain priv fuel
        { s with packetByteCount := 0, ringBuffer := s.ringBuffer.advanceTail priv.pktsize }
      (r.1, handed ++ r.2)
    else
      (s, [])

-- Each pass takes at least one cell off the count, see `packetReady_emptied`.
def packetReady (priv : AlpsData) (s : Framer) : Framer × List (List UInt8) :=
  drain priv s.ringBuffer.count s

-- `initTouchPad` clears the framer; the flag is whatever the last byte has left.
def initTouchPad (s : Framer) : Framer :=
  { s with packetByteCount := 0, ringBuffer := s.ringBuffer.reset }

-- `handleInterrupt` delivers bytes in a loop and only signals the work loop, which calls
-- `packetReady` at some later point. So the two contexts may alternate in any order.
inductive Event
  | byte (data : UInt8)
  | packetReady

-- What is observed of a run: the slots that are closed by `interruptOccurred`, with or without
-- PSMOUSE_BAD_DATA, and the packets that are handed to `process_packet`.
inductive Effect
  | completed (packet : List UInt8)
  | rejected (packet : List UInt8)
  | handed (packet : List UInt8)
  deriving DecidableEq

def framer (priv : AlpsData) : Mealy Framer Event Effect where
  step
    | s, .byte data =>
      let d := interruptOccurred priv s data
      let packet := d.framer.ringBuffer.cells s.ringBuffer.head priv.pktsize
      match d.result with
      | .packetBuffering => (d.framer, [])
      | .packetReady     => (d.framer, [if d.framer.badData then .rejected packet else .completed packet])
    | s, .packetReady =>
      let r := packetReady priv s
      (r.1, r.2.map .handed)

-- The framer when the work loop is never late: `packetReady` is run between any call that asks for
-- it and the next byte.
def promptFramer (priv : AlpsData) : Mealy Framer UInt8 (List UInt8) where
  step s data :=
    let d := interruptOccurred priv s data
    match d.result with
    | .packetBuffering => (d.framer, [])
    | .packetReady     => packetReady priv d.framer

end Touchpad
