import VoodooPS2.Touchpad.Fields

namespace Touchpad

abbrev alpsProtoV3 : UInt16 := 0x300
abbrev alpsProtoV4 : UInt16 := 0x400

-- The decoder functions that `set_protocol` chooses from for the versions 3 and 5.
inductive DecodeFields
  | pinnacle
  | rushmore
  | dolphin
  deriving DecidableEq

inductive ProcessPacket
  | v1V2
  | v3 (decodeFields : DecodeFields)
  | v4
  | touchpadV3V5 (decodeFields : DecodeFields)
  | v7
  | ss4V2
  deriving DecidableEq

-- What the decoders read of `alps_data`.
structure AlpsDevice extends AlpsData where
  xMax          : Int
  yMax          : Int
  xBits         : Int
  yBits         : Int
  processPacket : ProcessPacket

structure AlpsBitmapPoint where
  startBit : Int := 0
  numBits  : Int := 0
  deriving DecidableEq

-- The variables of the loop over a bitmap. The pointer `point` is `low` until the first gap that comes
-- after a contact.
structure BitmapPoints where
  low     : AlpsBitmapPoint := {}
  high    : AlpsBitmapPoint := {}
  fingers : Int             := 0
  atHigh  : Bool            := false
  prevBit : Bool            := false

namespace BitmapPoints

def modifyPoint (b : BitmapPoints) (f : AlpsBitmapPoint → AlpsBitmapPoint) : BitmapPoints :=
  if b.atHigh then { b with high := f b.high } else { b with low := f b.low }

def visit (b : BitmapPoints) (i : Int) (bit : Bool) : BitmapPoints :=
  let b :=
    if bit then
      let b :=
        if b.prevBit then b
        else { b.modifyPoint fun _ => ⟨i, 0⟩ with fingers := b.fingers + 1 }
      b.modifyPoint fun p => { p with numBits := p.numBits + 1 }
    else
      if b.prevBit then { b with atHigh := true } else b
  { b with prevBit := bit }

-- One pass for each of the 32 bits suffices, as the map is shifted in every pass.
def scan : Nat → Int → UInt32 → BitmapPoints → BitmapPoints
  | 0, _, _, b          => b
  | passes + 1, i, map, b =>
    if map = 0 then b else scan passes (i + 1) (map >>> 1) (b.visit i (map &&& 1 = 1))

-- The same loop without the bound. There is no result if the passes are used up before it ends.
def loop : Nat → Int → UInt32 → BitmapPoints → Option BitmapPoints
  | 0, _, map, b          => if map = 0 then some b else none
  | passes + 1, i, map, b =>
    if map = 0 then some b else loop passes (i + 1) (map >>> 1) (b.visit i (map &&& 1 = 1))

end BitmapPoints

def alpsGetBitmapPoints (map : UInt32) : BitmapPoints :=
  .scan 32 0 map {}

-- A single contact is divided between the two points.
def BitmapPoints.divide (b : BitmapPoints) : AlpsBitmapPoint × AlpsBitmapPoint :=
  if b.fingers = 1 then
    let i := b.low.numBits.tdiv 2
    (⟨b.low.startBit, b.low.numBits - i⟩, ⟨b.low.startBit + i, max i 1⟩)
  else
    (b.low, b.high)

-- A division by zero halts the machine.
def quotient (n d : Int) : Option Int :=
  if d = 0 then none else some (n.tdiv d)

-- The coordinate of a contact, along an axis with the given extent and number of electrodes.
def electrodePos (axisMax axisBits : Int) (p : AlpsBitmapPoint) : Option UInt32 :=
  (quotient (axisMax * (2 * p.startBit + p.numBits - 1)) (2 * (axisBits - 1))).map UInt32.ofInt

section Bitmap

variable (dev : AlpsDevice)

-- The order of the bits is reversed on some touchpads.
def reverseCorner (pos : InputMtPos) : InputMtPos where
  x := if dev.protoVersion = alpsProtoV5 then .ofInt dev.xMax - pos.x else pos.x
  y := if dev.protoVersion = alpsProtoV3 ∨ dev.protoVersion = alpsProtoV4 then
      .ofInt dev.yMax - pos.y
    else
      pos.y

-- The corners of the bounding box, clockwise from the one at the top left.
def corners (x y : AlpsBitmapPoint × AlpsBitmapPoint) : Option (List InputMtPos) := do
  let xLow  ← electrodePos dev.xMax dev.xBits x.1
  let yLow  ← electrodePos dev.yMax dev.yBits y.1
  let xHigh ← electrodePos dev.xMax dev.xBits x.2
  let yHigh ← electrodePos dev.yMax dev.yBits y.2
  return [⟨xLow, yLow⟩, ⟨xHigh, yLow⟩, ⟨xHigh, yHigh⟩, ⟨xLow, yHigh⟩].map (reverseCorner dev)

def distance (st corner : InputMtPos) : Int :=
  let dx := toInt (st.x - corner.x)
  let dy := toInt (st.y - corner.y)
  dx * dx + dy * dy

-- The index of the corner closest to the coordinates of the first touch, and how far away it is. The
-- index stays -1 if every corner is too far away.
def closestCorner (st : InputMtPos) (corner : List InputMtPos) : Int × Int :=
  corner.zipIdx.foldl
    (fun best c => if distance st c.1 < best.2 then (c.2, distance st c.1) else best)
    (-1, 0x7fffffff)

structure ProcessedBitmap where
  fingers     : Int
  fields      : AlpsFields
  secondTouch : Int

-- The number of fingers is 0 if one of the bitmaps is empty. There is no result if the machine is
-- halted.
def alpsProcessBitmap (secondTouch : Int) (f : AlpsFields) : Option ProcessedBitmap :=
  if f.xMap = 0 ∨ f.yMap = 0 then
    some ⟨0, f, secondTouch⟩
  else
    let x := alpsGetBitmapPoints f.xMap
    let y := alpsGetBitmapPoints f.yMap
    (corners dev x.divide y.divide).map fun corner =>
      -- the second touch is at the opposite corner, and stays there
      let secondTouch :=
        if secondTouch = -1 then ((closestCorner f.st corner).1 + 2).tmod 4 else secondTouch
      {
        fingers     := max x.fingers y.fingers
        fields      := { f with mt₀ := f.st, mt₁ := corner.getD secondTouch.toNat {} }
        secondTouch := secondTouch
      }

end Bitmap

end Touchpad
