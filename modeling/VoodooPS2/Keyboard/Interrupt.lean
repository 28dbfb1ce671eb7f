import VoodooPS2.Controller.Port
import VoodooPS2.Keyboard.KeyBits
import VoodooPS2.Keyboard.Map
import VoodooPS2.Machine.Mealy
import VoodooPS2.Machine.Switch
import VoodooPS2.RingBuffer.Queue

namespace Keyboard

-- Two bytes of key data, six that are not used and eight for the timestamp.
abbrev kPacketLength : Nat := 2 + 6 + 8

abbrev kSCAcknowledge : UInt8 := 0xfa
abbrev kSCExtend : UInt8 := 0xe0
abbrev kSCPause : UInt8 := 0xe1
abbrev kSCResend : UInt8 := 0xfe
abbrev kSCReset : UInt8 := 0xaa

-- The index of a key in the tables.
def keyCodeRaw (extended data : UInt8) : Nat :=
  extended.toNat <<< 8 ||| (data &&& ~~~kSCUpBit).toNat

-- The registers with which `interruptOccurred` parses the scan codes.
structure Scanner where
  lastdata     : UInt8   := 0
  extendCount  : UInt8   := 0
  keyBitVector : KeyBits := fun _ => 0

namespace Scanner

-- A byte that belongs to a key, with the key data of the packet that has to be buffered for it.
def key (ps2flags : Nat → UInt16) (s : Scanner) (extended data : UInt8) :
    Scanner × Option (UInt8 × UInt8) :=
  -- the first byte is zero for a reset, so one is added
  let packet := (extended + 1, data)
  let n := keyCodeRaw extended data
  if Breakless ps2flags n then (s, some packet)
  else if data &&& kSCUpBit = 0 then
    if s.keyBitVector.isKeyDown n then (s, none)
    else ({ s with keyBitVector := s.keyBitVector.keyDown n }, some packet)
  else
    ({ s with keyBitVector := s.keyBitVector.keyUp n }, some packet)

def scan (ps2flags : Nat → UInt16) (s : Scanner) (data : UInt8) : Scanner × Option (UInt8 × UInt8) :=
  -- a spontaneous reset
  if s.lastdata = kSCReset ∧ data = 0x00 then
    ({ s with extendCount := 0 }, some (0x00, kSCReset))
  else
    let s := { s with lastdata := data }
    if data = kSCAcknowledge then (s, none)
    else if data = kSCResend then (s, none)
    else if data = kSCExtend then ({ s with extendCount := 1 }, none)
    else if data = kSCPause then ({ s with extendCount := 2 }, none)
    else
      let extended := s.extendCount
      let s := if s.extendCount = 0 then s else { s with extendCount := s.extendCount - 1 }
      if s.extendCount ≠ 0 then (s, none)
      else s.key ps2flags extended data

end Scanner

structure Receiver where
  scanner    : Scanner
  ringBuffer : RingBuffer UInt8 (kPacketLength * 32)

-- The timestamp of a packet is left out.
def Receiver.buffer (r : Receiver) (packet : UInt8 × UInt8) : Receiver :=
  let ringBuffer := (r.ringBuffer.setHeadCell 0 packet.1).setHeadCell 1 packet.2
  { r with ringBuffer := ringBuffer.advanceHead kPacketLength }

def interruptOccurred (ps2flags : Nat → UInt16) (r : Receiver) (data : UInt8) :
    Receiver × PS2InterruptResult :=
  let scanned := r.scanner.scan ps2flags data
  let r := { r with scanner := scanned.1 }
  match scanned.2 with
  | none        => (r, .packetBuffering)
  | some packet => (r.buffer packet, .packetReady)

-- What is observed of `interruptOccurred` is the key data of the packets it buffers.
def receiver (ps2flags : Nat → UInt16) : Mealy Receiver UInt8 (UInt8 × UInt8) where
  step r data :=
    let i := interruptOccurred ps2flags r data
    match i.2 with
    | .packetBuffering => (i.1, [])
    | .packetReady     =>
      let packet := i.1.ringBuffer.cells r.ringBuffer.head kPacketLength
      (i.1, [(packet.getD 0 0, packet.getD 1 0)])

-- The keys of the keyboard, as scan code set 1 names them.
inductive Key
  | normal (scanCode : UInt8)
  | extended (scanCode : UInt8)
  | pause
  deriving DecidableEq

namespace Key

def keyCodeRaw : Key → Nat
  | normal scanCode   => scanCode.toNat
  | extended scanCode => kbvNumScancodes + scanCode.toNat
  | pause             => kbvNumScancodes + 0x45

-- What a key with the given scan code sends when it is pressed, and when it is released.
def byte (scanCode : UInt8) (on : Bool) : UInt8 :=
  if on then scanCode else scanCode ||| kSCUpBit

def bytes : Key → Bool → List UInt8
  | normal scanCode,   on => [byte scanCode on]
  | extended scanCode, on => [kSCExtend, byte scanCode on]
  | pause,             on => [kSCPause, byte 0x1d on, byte 0x45 on]

-- The key data of the packet for an event of the key.
def packet : Key → Bool → UInt8 × UInt8
  | normal scanCode,   on => (1, byte scanCode on)
  | extended scanCode, on => (2, byte scanCode on)
  | pause,             on => (2, byte 0x45 on)

-- The bytes that a scan code must not be taken for.
def Reserved (data : UInt8) : Prop :=
  data = kSCExtend ∨ data = kSCPause ∨ data = kSCAcknowledge ∨ data = kSCResend

instance (data : UInt8) : Decidable (Reserved data) :=
  inferInstanceAs (Decidable (_ ∨ _))

-- The scan code is that of a key, and what the key sends for the event is no reserved byte.
def Sends : Key → Bool → Prop
  | normal scanCode,   on => scanCode < kSCUpBit ∧ ¬Reserved (byte scanCode on)
  | extended scanCode, on => scanCode < kSCUpBit ∧ ¬Reserved (byte scanCode on)
  | pause,             _  => True

instance : (k : Key) → (on : Bool) → Decidable (k.Sends on)
  | normal _,   _ => inferInstanceAs (Decidable (_ ∧ _))
  | extended _, _ => inferInstanceAs (Decidable (_ ∧ _))
  | pause,      _ => inferInstanceAs (Decidable True)

end Key

abbrev KeyEvent :=
  SwitchEvent Key

-- The bytes that the keyboard sends for a sequence of events.
def bytesOf (es : List KeyEvent) : List UInt8 :=
  es.flatMap fun e => e.switch.bytes e.on

end Keyboard
