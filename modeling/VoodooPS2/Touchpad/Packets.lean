import VoodooPS2.Machine.Halting
import VoodooPS2.Touchpad.Bitmap

namespace Touchpad

abbrev alpsProtoV1 : UInt16 := 0x100

abbrev alpsWheel : UInt32 := 0x08
abbrev alpsFwBk2 : UInt32 := 0x20

abbrev alpsQuirkTrackstickButtons : UInt8 := 1

structure EventInfo where
  x       : Int
  y       : Int
  z       : Int
  fingers : Int
  buttons : UInt32
  deriving DecidableEq

-- What the processing of a packet asks the rest of the driver for.
inductive Call
  | dispatchEventsWithInfo (e : EventInfo)
  | dispatchRelativePointerEvent (dx dy : Int) (buttons : UInt32)
  | dispatchScrollWheelEvent (deltaAxis1 deltaAxis2 : Int)
  -- `touchmode = MODE_DRAG`
  | startDrag
  -- The machine is halted by a division by zero.
  | divideByZero
  deriving DecidableEq

-- The array `multi_data`.
structure MultiData where
  bytes        : List UInt8
  length_bytes : bytes.length = 6
  deriving DecidableEq

namespace MultiData

def zero : MultiData :=
  ⟨[0, 0, 0, 0, 0, 0], rfl⟩

-- `memcpy(multi_data, packet, sizeof(multi_data))`
def copy (p : List UInt8) : MultiData :=
  ⟨(List.range 6).map fun k => p.getD k 0, by simp⟩

def set (m : MultiData) (k : Nat) (data : UInt8) : MultiData :=
  ⟨m.bytes.set k data, by simp [m.length_bytes]⟩

end MultiData

-- The variables of `alps_data` and of the base class that are kept from one packet to the next.
structure Decoder where
  prevFin               : UInt32    := 0
  multiPacket           : Nat       := 0
  multiData             : MultiData := .zero
  secondTouch           : Int       := 0
  quirks                : UInt8     := 0
  lastbuttons           : UInt32    := 0
  lastTrackStickButtons : UInt32    := 0
  lastTouchpadButtons   : UInt32    := 0
  deriving DecidableEq

-- `dispatchEventsWithInfo` stores the buttons ahead of everything else.
def Decoder.dispatch (s : Decoder) (e : EventInfo) : Decoder × List Call :=
  ({ s with lastbuttons := e.buttons }, [.dispatchEventsWithInfo e])

def Call.event? : Call → Option EventInfo
  | .dispatchEventsWithInfo e => some e
  | _                         => none

-- The events among the calls.
def events (calls : List Call) : List EventInfo :=
  calls.filterMap Call.event?

-- A byte that is read as an `SInt8`.
def toSInt8 (n : UInt32) : Int :=
  n.toUInt8.toInt8.toInt

-- The mask of the buttons that are given by the bits 0 to 2 of `n`.
def buttonMask (n : UInt32) : UInt32 :=
  (if n &&& 0x01 ≠ 0 then 0x01 else 0) ||| (if n &&& 0x02 ≠ 0 then 0x02 else 0) |||
    (if n &&& 0x04 ≠ 0 then 0x04 else 0)

-- If the middle button is pressed the trackstick scrolls.
def reportTrackstick (x y : Int) (buttons : UInt32) : Call :=
  if buttons &&& 0x04 = 0 then .dispatchRelativePointerEvent x y buttons
  else .dispatchScrollWheelEvent (-y) (-x)

section Packets

variable (dev : AlpsDevice) (s : Decoder) (p : List UInt8)

def buttonsV1V2 : UInt32 :=
  if dev.protoVersion = alpsProtoV1 then
    (if byte p 2 &&& 0x10 ≠ 0 then 0x01 else 0) ||| (if byte p 2 &&& 0x08 ≠ 0 then 0x02 else 0) |||
      middle 0
  else
    (if byte p 3 &&& 1 ≠ 0 then 0x01 else 0) ||| (if byte p 3 &&& 2 ≠ 0 then 0x02 else 0) |||
      middle (byte p 3 &&& 4)
where
  -- both of the front and back buttons make a middle one
  middle (n : UInt32) : UInt32 :=
    if dev.flags &&& alpsFwBk2 ≠ 0 then
      if byte p 2 &&& 4 ≠ 0 ∧ byte p 3 &&& 4 ≠ 0 then 0x04 else 0
    else
      if n ≠ 0 then 0x04 else 0

def positionV1V2 : Int × Int :=
  if dev.protoVersion = alpsProtoV1 then
    (toInt (byte p 1 ||| (byte p 0 &&& 0x07).shiftLeft 7),
      toInt (byte p 4 ||| (byte p 3 &&& 0x07).shiftLeft 7))
  else
    (toInt (byte p 1 ||| (byte p 2 &&& 0x78).shiftLeft 4),
      toInt (byte p 4 ||| (byte p 3 &&& 0x70).shiftLeft 3))

-- The separate buttons of the stick are only merged after the buttons have been computed.
def alpsProcessPacketV1V2 : Decoder × List Call :=
  let buttons := buttonsV1V2 dev p
  let (x, y) := positionV1V2 dev p
  let z := toInt (byte p 5)
  let ges := byte p 2 &&& 1
  let fin := byte p 2 &&& 2
  if dev.flags &&& alpsDualpoint ≠ 0 ∧ z = 127 then
    let dx := if x > 383 then x - 768 else x
    let dy := -(if y > 255 then y - 512 else y)
    (s, [.dispatchRelativePointerEvent dx dy buttons])
  else
    let z := if ges ≠ 0 ∧ fin = 0 then 40 else z
    let drag := if ges ≠ 0 ∧ fin ≠ 0 ∧ s.prevFin = 0 then [.startDrag] else []
    let fingers : Int := if z > 30 then 1 else 0
    let r := { s with prevFin := fin }.dispatch ⟨x, y, z, fingers, buttons⟩
    let scrollAmount :=
      toInt ((byte p 2).shiftLeft 1 &&& 0x08) - toInt ((byte p 0).shiftRight 4 &&& 0x07)
    let wheel :=
      if dev.flags &&& alpsWheel ≠ 0 ∧ scrollAmount ≠ 0 then
        [.dispatchScrollWheelEvent scrollAmount 0]
      else
        []
    (r.1, drag ++ r.2 ++ wheel)

def alpsProcessTrackstickPacketV3 : Decoder × List Call :=
  -- no trackstick, a bad packet, or the end of a stream
  if dev.flags &&& alpsDualpoint = 0 ∨ byte p 0 &&& 0x40 = 0 ∨
    byte p 1 = 0x7f ∧ byte p 2 = 0x7f ∧ byte p 3 = 0x7f
  then (s, [])
  else
    let x := toSInt8 ((byte p 0 &&& 0x20).shiftLeft 2 ||| byte p 1 &&& 0x7f)
    let y := toSInt8 ((byte p 0 &&& 0x10).shiftLeft 3 ||| byte p 2 &&& 0x7f)
    let (x, y) := if x.natAbs ≥ 0x7f ∧ y.natAbs ≥ 0x7f then (0, 0) else (x, y)
    let (x, y) := (x.tdiv 3, -(y.tdiv 3))
    -- the buttons are either reported here or in the packets of the touchpad
    let quirks :=
      if s.quirks &&& alpsQuirkTrackstickButtons = 0 ∧ buttonMask (byte p 3) ≠ 0 then
        s.quirks ||| alpsQuirkTrackstickButtons
      else
        s.quirks
    let rawButtons := if quirks &&& alpsQuirkTrackstickButtons ≠ 0 then buttonMask (byte p 3) else 0
    let buttons := if rawButtons = 0 then s.lastbuttons else rawButtons
    ({ s with quirks := quirks, lastbuttons := buttons }, [reportTrackstick x y buttons])

def decodeFields (d : DecodeFields) (f : AlpsFields) : AlpsFields :=
  match d with
  | .pinnacle => alpsDecodePinnacle f p
  | .rushmore => alpsDecodeRushmore f p
  | .dolphin  => alpsDecodeDolphin f p dev.xBits dev.yBits

-- What is known of the touches when a packet has been decoded, possibly together with a saved one.
structure Touches where
  decoder : Decoder
  fields  : AlpsFields
  fingers : Int

-- The fields of a bitmap packet are overwritten by those of the position packet that came before.
def mergeV3V5 (d : DecodeFields) (f : AlpsFields) : Option Touches :=
  (alpsProcessBitmap dev s.secondTouch (decodeFields dev s.multiData.bytes d f)).map fun (b : ProcessedBitmap) => {
    decoder := { s with secondTouch := b.secondTouch }
    fields  := b.fields
    fingers := if b.fingers = 0 then 0 else toInt f.fingers
  }

def touchesV3V5 (d : DecodeFields) : Option Touches :=
  let f := decodeFields dev p d {}
  if s.multiPacket ≠ 0 then
    if f.isMp then mergeV3V5 dev s d f
    else some ⟨{ s with multiPacket := 0 }, f, 0⟩
  else
    some ⟨s, f, 0⟩

-- The y coordinate, with 0 at the bottom.
def reverseY (y : UInt32) : Int :=
  toInt (UInt32.ofInt dev.yMax - y)

-- The first packet of two is saved.
def Decoder.save : Decoder :=
  { s with multiPacket := 1, multiData := .copy p }

-- The buttons of a trackstick are reported with the ones of the touchpad, unless it has shown that it
-- reports them itself.
def buttonsV3V5 (quirks : UInt8) (f : AlpsFields) : UInt32 :=
  if dev.flags &&& alpsDualpoint ≠ 0 ∧ quirks &&& alpsQuirkTrackstickButtons = 0 then
    f.buttons ||| f.tsButtons
  else
    f.buttons

def reportV3V5 (t : Touches) : Decoder × List Call :=
  let s := { t.decoder with multiPacket := 0 }
  let f := t.fields
  let buttons := buttonsV3V5 dev s.quirks f
  let report (s : Decoder) (pos : InputMtPos) (fingers : Int) :=
    s.dispatch ⟨toInt pos.x, reverseY dev pos.y, f.pressure, fingers, buttons⟩
  if t.fingers < 2 then
    report { s with secondTouch := -1 } f.st (if f.pressure > 0 then 1 else 0)
  else
    report s f.mt₀ t.fingers

def alpsProcessTouchpadPacketV3V5 (d : DecodeFields) : Option (Decoder × List Call) :=
  (touchesV3V5 dev s p d).map fun t =>
    if t.fields.isMp then (t.decoder, [])
    else if t.decoder.multiPacket = 0 ∧ t.fields.firstMp then (t.decoder.save p, [])
    else reportV3V5 dev t

def alpsProcessPacketV3 (d : DecodeFields) : Option (Decoder × List Call) :=
  if byte p 5 = 0x3f then some (alpsProcessTrackstickPacketV3 dev s p)
  else alpsProcessTouchpadPacketV3V5 dev s p d

-- The fields that a packet of version 4 has of its own. A bit field keeps the lowest bit.
def fieldsV4 : AlpsFields where
  left     := byte p 4 &&& 0x01 ≠ 0
  right    := byte p 4 &&& 0x02 &&& 1 ≠ 0
  st.x     := (byte p 1 &&& 0x7f).shiftLeft 4 ||| (byte p 3 &&& 0x30).shiftRight 2 |||
    (byte p 0 &&& 0x30).shiftRight 4
  st.y     := (byte p 2 &&& 0x7f).shiftLeft 4 ||| byte p 3 &&& 0x0f
  pressure := toInt (byte p 5 &&& 0x7f)

-- The bitmaps that have been collected from three packets.
def bitmapV4 (f : AlpsFields) (m : MultiData) : AlpsFields :=
  { f with
    xMap := (byte m.bytes 2 &&& 0x1f).shiftLeft 10 ||| (byte m.bytes 3 &&& 0x60).shiftLeft 3 |||
      (byte m.bytes 0 &&& 0x3f).shiftLeft 2 ||| (byte m.bytes 1 &&& 0x60).shiftRight 5
    yMap := (byte m.bytes 5 &&& 0x01).shiftLeft 10 ||| (byte m.bytes 3 &&& 0x1f).shiftLeft 5 |||
      byte m.bytes 1 &&& 0x1f }

def reportV4 (t : Touches) : Decoder × List Call :=
  let f := t.fields
  t.decoder.dispatch ⟨toInt f.st.x, toInt f.st.y, f.pressure, t.fingers, f.buttons⟩

-- A group of packets starts over.
def Decoder.syncV4 : Decoder :=
  if byte p 6 &&& 0x40 ≠ 0 then { s with multiPacket := 0 } else s

-- The bytes of a packet that belong to the bitmaps.
def Decoder.collectV4 : Decoder :=
  let offset := 2 * s.multiPacket
  { s with
    multiPacket := s.multiPacket + 1
    multiData   := (s.multiData.set offset (p.getD 6 0)).set (offset + 1) (p.getD 7 0) }

def alpsProcessPacketV4 : Option (Decoder × List Call) :=
  let s := s.syncV4 p
  if s.multiPacket > 2 then some (s, [])
  else
    let s := s.collectV4 p
    if s.multiPacket > 2 then
      (alpsProcessBitmap dev s.secondTouch (bitmapV4 (fieldsV4 p) s.multiData)).map fun b =>
        reportV4 ⟨{ s with multiPacket := 0, secondTouch := b.secondTouch }, b.fields, b.fingers⟩
    else
      some (reportV4 ⟨s, fieldsV4 p, 0⟩)

def alpsProcessTrackstickPacketV7 : Decoder × List Call :=
  if dev.flags &&& alpsDualpoint = 0 then (s, [])
  else
    let x := toSInt8 (byte p 2 &&& 0xbf ||| (byte p 3 &&& 0x10).shiftLeft 2)
    let y := toSInt8 (byte p 3 &&& 0x07 ||| byte p 4 &&& 0xb8 ||| (byte p 3 &&& 0x20).shiftLeft 1)
    let buttons := buttonMask (byte p 1)
    ({ s with lastTrackStickButtons := buttons },
      [reportTrackstick x (-y) (buttons ||| s.lastTouchpadButtons)])

-- There is no pressure in these packets.
def alpsProcessTouchpadPacketV7 : Decoder × List Call :=
  match alpsDecodePacketV7 {} p dev.flags with
  | none   => (s, [])
  | some f =>
    let fingers := toInt f.fingers
    let pressure : Int := if fingers > 0 then 40 else 0
    let buttons := f.buttons ||| s.lastTrackStickButtons
    { s with lastTouchpadButtons := f.buttons }.dispatch
      ⟨toInt f.mt₀.x, reverseY dev f.mt₀.y, pressure, fingers, buttons⟩

def alpsProcessPacketV7 : Decoder × List Call :=
  if byte p 0 = 0x48 ∧ byte p 4 &&& 0x47 = 0x06 then alpsProcessTrackstickPacketV7 dev s p
  else alpsProcessTouchpadPacketV7 dev s p

def touchesSS4V2 : Touches :=
  let f := alpsDecodeSS4V2 {} p dev.flags
  if s.multiPacket ≠ 0 then
    if f.isMp then
      let f := alpsDecodeSS4V2 f s.multiData.bytes dev.flags
      ⟨s, f, toInt f.fingers⟩
    else
      ⟨{ s with multiPacket := 0 }, f, toInt f.fingers⟩
  else
    ⟨s, f, toInt f.fingers⟩

def reportSS4V2 (t : Touches) : Decoder × List Call :=
  let f := t.fields
  { t.decoder with multiPacket := 0 }.dispatch
    ⟨toInt f.mt₀.x, reverseY dev f.mt₀.y, f.pressure, t.fingers, f.buttons⟩

-- The movement of a trackstick is decoded, but not reported.
def alpsProcessPacketSS4V2 : Decoder × List Call :=
  let t := touchesSS4V2 dev s p
  if t.fields.isMp then (t.decoder, [])
  else if t.decoder.multiPacket = 0 ∧ t.fields.firstMp then (t.decoder.save p, [])
  else if alpsGetPktIDSS4V2 p = .stick then ({ t.decoder with multiPacket := 0 }, [])
  else reportSS4V2 dev t

def processPacket : Option (Decoder × List Call) :=
  match dev.processPacket with
  | .v1V2           => some (alpsProcessPacketV1V2 dev s p)
  | .v3 d           => alpsProcessPacketV3 dev s p d
  | .v4             => alpsProcessPacketV4 dev s p
  | .touchpadV3V5 d => alpsProcessTouchpadPacketV3V5 dev s p d
  | .v7             => some (alpsProcessPacketV7 dev s p)
  | .ss4V2          => some (alpsProcessPacketSS4V2 dev s p)

end Packets

-- The decoder, which is halted by a division by zero.
def decoder (dev : AlpsDevice) : Mealy (Option Decoder) (List UInt8) Call :=
  .halting (processPacket dev) .divideByZero

-- The framer, with a work loop that is never late, and the decoder that it hands the packets to.
def driver (dev : AlpsDevice) : Mealy (Framer × Option Decoder) UInt8 Call :=
  (promptFramer dev.toAlpsData).comp (decoder dev)

-- `initTouchPad` clears the framer, and talks to the device.
def initDriver (s : Framer × Option Decoder) : Framer × Option Decoder :=
  (initTouchPad s.1, s.2)

end Touchpad
