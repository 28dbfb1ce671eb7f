import VoodooPS2.Touchpad.Framer

namespace Touchpad

abbrev alpsDualpoint : UInt32 := 0x02
abbrev alpsButtonpad : UInt32 := 0x200

structure InputMtPos where
  x : UInt32 := 0
  y : UInt32 := 0
  deriving DecidableEq

-- The decoded version of a packet.
structure AlpsFields where
  xMap     : UInt32     := 0
  yMap     : UInt32     := 0
  fingers  : UInt32     := 0
  pressure : Int        := 0
  st       : InputMtPos := {}
  mt₀      : InputMtPos := {}
  mt₁      : InputMtPos := {}
  mt₂      : InputMtPos := {}
  mt₃      : InputMtPos := {}
  firstMp  : Bool       := false
  isMp     : Bool       := false
  left     : Bool       := false
  right    : Bool       := false
  middle   : Bool       := false
  tsLeft   : Bool       := false
  tsRight  : Bool       := false
  tsMiddle : Bool       := false
  deriving DecidableEq

-- The fields that the buttons are reported by.
def AlpsFields.buttons (f : AlpsFields) : UInt32 :=
  (if f.left then 0x01 else 0) ||| (if f.right then 0x02 else 0) ||| (if f.middle then 0x04 else 0)

def AlpsFields.tsButtons (f : AlpsFields) : UInt32 :=
  (if f.tsLeft then 0x01 else 0) ||| (if f.tsRight then 0x02 else 0) |||
    (if f.tsMiddle then 0x04 else 0)

-- A byte of a packet, as it enters into an expression.
def byte (p : List UInt8) (k : Nat) : UInt32 :=
  (p.getD k 0).toUInt32

-- An unsigned number that is passed as an `int`.
def toInt (n : UInt32) : Int :=
  n.toInt32.toInt

section Decoders

variable (f : AlpsFields) (p : List UInt8)

def alpsDecodeButtonsV3 : AlpsFields :=
  { f with
    left     := byte p 3 &&& 0x01 ≠ 0
    right    := byte p 3 &&& 0x02 ≠ 0
    middle   := byte p 3 &&& 0x04 ≠ 0
    tsLeft   := byte p 3 &&& 0x10 ≠ 0
    tsRight  := byte p 3 &&& 0x20 ≠ 0
    tsMiddle := byte p 3 &&& 0x40 ≠ 0 }

def alpsDecodePinnacle : AlpsFields :=
  let f := { f with firstMp := byte p 4 &&& 0x40 ≠ 0, isMp := byte p 0 &&& 0x40 ≠ 0 }
  if f.isMp then
    { f with
      fingers := (byte p 5 &&& 0x3) + 1
      xMap    := (byte p 4 &&& 0x7e).shiftLeft 8 ||| (byte p 1 &&& 0x7f).shiftLeft 2 |||
        (byte p 0 &&& 0x30).shiftRight 4
      yMap    := (byte p 3 &&& 0x70).shiftLeft 4 ||| (byte p 2 &&& 0x7f).shiftLeft 1 |||
        byte p 4 &&& 0x01 }
  else
    alpsDecodeButtonsV3
      { f with
        st.x     := (byte p 1 &&& 0x7f).shiftLeft 4 ||| (byte p 4 &&& 0x30).shiftRight 2 |||
          (byte p 0 &&& 0x30).shiftRight 4
        st.y     := (byte p 2 &&& 0x7f).shiftLeft 4 ||| byte p 4 &&& 0x0f
        pressure := toInt (byte p 5 &&& 0x7f) } p

def alpsDecodeRushmore : AlpsFields :=
  let f := { f with firstMp := byte p 4 &&& 0x40 ≠ 0, isMp := byte p 5 &&& 0x40 ≠ 0 }
  if f.isMp then
    { f with
      fingers := max (byte p 5 &&& 0x3) ((byte p 5).shiftRight 2 &&& 0x3) + 1
      xMap    := (byte p 5 &&& 0x10).shiftLeft 11 ||| (byte p 4 &&& 0x7e).shiftLeft 8 |||
        (byte p 1 &&& 0x7f).shiftLeft 2 ||| (byte p 0 &&& 0x30).shiftRight 4
      yMap    := (byte p 5 &&& 0x20).shiftLeft 6 ||| (byte p 3 &&& 0x70).shiftLeft 4 |||
        (byte p 2 &&& 0x7f).shiftLeft 1 ||| byte p 4 &&& 0x01 }
  else
    alpsDecodeButtonsV3
      { f with
        st.x     := (byte p 1 &&& 0x7f).shiftLeft 4 ||| (byte p 4 &&& 0x30).shiftRight 2 |||
          (byte p 0 &&& 0x30).shiftRight 4
        st.y     := (byte p 2 &&& 0x7f).shiftLeft 4 ||| byte p 4 &&& 0x0f
        pressure := toInt (byte p 5 &&& 0x7f) } p

def bit (n : Int) : UInt64 :=
  1 <<< UInt64.ofInt n

-- The profile of a Dolphin touchpad: the bits of the y axis, followed by the bits of the x axis.
def palmData : UInt64 :=
  let b (k : Nat) : UInt64 := (p.getD k 0).toUInt64
  b 1 &&& 0x7f ||| (b 2 &&& 0x7f).shiftLeft 7 ||| (b 4 &&& 0x7f).shiftLeft 14 |||
    (b 5 &&& 0x7f).shiftLeft 21 ||| (b 3 &&& 0x07).shiftLeft 28 ||| (b 3 &&& 0x70).shiftLeft 27 |||
    (b 0 &&& 0x01).shiftLeft 34

def alpsDecodeDolphin (xBits yBits : Int) : AlpsFields :=
  let f := { f with firstMp := byte p 0 &&& 0x02 ≠ 0, isMp := byte p 0 &&& 0x20 ≠ 0 }
  let profile (start n : Int) : UInt64 :=
    (palmData p).shiftRight (UInt64.ofInt start) &&& (bit n - 1)
  if f.isMp then
    { f with
      fingers := (byte p 0 &&& 0x6).shiftRight 1 ||| (byte p 0 &&& 0x10).shiftRight 2
      yMap    := (profile 0 yBits).toUInt32
      xMap    := (profile yBits xBits).toUInt32 }
  else
    alpsDecodeButtonsV3
      { f with
        st.x     := byte p 1 &&& 0x7f ||| (byte p 4 &&& 0x0f).shiftLeft 7
        st.y     := byte p 2 &&& 0x7f ||| (byte p 4 &&& 0xf0).shiftLeft 3
        pressure := if byte p 0 &&& 4 ≠ 0 then 0 else toInt (byte p 5 &&& 0x7f) } p

inductive V7PacketID
  | idle
  | two
  | multi
  | new
  | unknown
  deriving DecidableEq

def alpsGetPacketIDV7 : V7PacketID :=
  if byte p 4 &&& 0x40 ≠ 0 then .two
  else if byte p 4 &&& 0x01 ≠ 0 then .multi
  else if byte p 0 &&& 0x10 ≠ 0 ∧ byte p 4 &&& 0x43 = 0 then .new
  else if byte p 1 = 0x00 ∧ byte p 4 = 0x00 then .idle
  else .unknown

-- What `alps_get_finger_coordinate_v7` stores in `mt[0]` and `mt[1]`.
def alpsGetFingerCoordinateV7 (id : V7PacketID) : InputMtPos × InputMtPos :=
  let mt₀ : InputMtPos := {
    x := (byte p 2 &&& 0x80).shiftLeft 4 ||| (byte p 2 &&& 0x3f).shiftLeft 5 |||
      (byte p 3 &&& 0x30).shiftRight 1 ||| byte p 3 &&& 0x07
    y := (byte p 1).shiftLeft 3 ||| byte p 0 &&& 0x07
  }
  let mt₁ : InputMtPos := {
    x := (byte p 3 &&& 0x80).shiftLeft 4 ||| (byte p 4 &&& 0x80).shiftLeft 3 |||
      (byte p 4 &&& 0x3f).shiftLeft 4
    y := (byte p 5 &&& 0x80).shiftLeft 3 ||| (byte p 5 &&& 0x3f).shiftLeft 4
  }
  let mt₁ : InputMtPos :=
    match id with
    | .two =>
      let x := mt₁.x &&& ~~~(0x000f : UInt32)
      let y := mt₁.y ||| 0x000f
      -- a false positive: both coordinates have the largest value
      { x := if y = 0x7ff ∧ x = 0xff0 then 0 else x, y := y }
    | .multi => {
        x := mt₁.x &&& ~~~(0x003f : UInt32)
        y := mt₁.y &&& ~~~(0x0020 : UInt32) ||| (byte p 4 &&& 0x02).shiftLeft 4 ||| 0x001f
      }
    | .new => {
        x := mt₁.x &&& ~~~(0x003f : UInt32) ||| byte p 0 &&& 0x20
        y := mt₁.y ||| 0x000f
      }
    | _ => mt₁
  ({ mt₀ with y := 0x7ff - mt₀.y }, { mt₁ with y := 0x7ff - mt₁.y })

def alpsGetMtCount : UInt32 :=
  let touch (pos : InputMtPos) : UInt32 := if pos.x ≠ 0 ∨ pos.y ≠ 0 then 1 else 0
  touch f.mt₀ + touch f.mt₁ + touch f.mt₂ + touch f.mt₃

-- A packet of an unknown kind is not decoded.
def alpsDecodePacketV7 (flags : UInt32) : Option AlpsFields :=
  let id := alpsGetPacketIDV7 p
  if id = .idle then some f
  else if id = .unknown then none
  else if id = .new then some f
  else
    let pos := alpsGetFingerCoordinateV7 p id
    let f := { f with mt₀ := pos.1, mt₁ := pos.2 }
    let fingers := if id = .two then alpsGetMtCount f else 3 + (byte p 5 &&& 0x03)
    let f := { f with fingers := fingers }
    let f := { f with left := byte p 0 &&& 0x80 ≠ 0 }
    let f : AlpsFields :=
      if flags &&& alpsButtonpad ≠ 0 then
        let f := if byte p 0 &&& 0x20 ≠ 0 then { f with fingers := f.fingers + 1 } else f
        if byte p 0 &&& 0x10 ≠ 0 then { f with fingers := f.fingers + 1 } else f
      else
        { f with right := byte p 0 &&& 0x20 ≠ 0, middle := byte p 0 &&& 0x10 ≠ 0 }
    -- a single touch may be reported as the second one
    if f.fingers = 1 ∧ f.mt₀.x = 0 ∧ f.mt₀.y = 0 then some { f with mt₀ := f.mt₁, mt₁ := {} }
    else some f

inductive SS4PacketID
  | idle
  | one
  | two
  | multi
  | stick
  deriving DecidableEq

def alpsGetPktIDSS4V2 : SS4PacketID :=
  let kind := byte p 3 &&& 0x30
  if kind = 0x00 then
    if byte p 0 = 0x18 ∧ byte p 1 = 0x10 ∧ byte p 2 = 0x00 ∧ byte p 3 &&& 0x88 = 0x08 ∧
      byte p 4 = 0x10 ∧ byte p 5 = 0x00
    then .idle
    else .one
  else if kind = 0x10 then .two
  else if kind = 0x20 then .stick
  else .multi

def ss4OneFingerX : UInt32 :=
  byte p 0 &&& 0x0007 ||| (byte p 1).shiftLeft 3 &&& 0x0078 ||| (byte p 1).shiftLeft 2 &&& 0x0380 |||
    (byte p 2).shiftLeft 5 &&& 0x1c00

def ss4OneFingerY : UInt32 :=
  byte p 2 &&& 0x000f ||| (byte p 3).shiftRight 2 &&& 0x0030 ||| (byte p 4).shiftLeft 6 &&& 0x03c0 |||
    (byte p 4).shiftLeft 5 &&& 0x0c00

def ss4OneFingerZ : UInt32 :=
  byte p 5 &&& 0x0f ||| (byte p 5).shiftRight 1 &&& 0x70 ||| byte p 4 &&& 0x80

def ss4Btn : UInt32 :=
  (byte p 0).shiftRight 5 &&& 0x07

def ss4StdMultiFingerX (i : Nat) : UInt32 :=
  (byte p (0 + i * 3)).shiftLeft 5 &&& 0x00e0 ||| (byte p (1 + i * 3)).shiftLeft 5 &&& 0x1f00

def ss4StdMultiFingerY (i : Nat) : UInt32 :=
  (byte p (1 + i * 3)).shiftLeft 3 &&& 0x0010 ||| (byte p (2 + i * 3)).shiftLeft 5 &&& 0x01e0 |||
    (byte p (2 + i * 3)).shiftLeft 4 &&& 0x0e00

def ss4BtlMultiFingerX (i : Nat) : UInt32 :=
  ss4StdMultiFingerX p i ||| (byte p (0 + i * 3)).shiftRight 3 &&& 0x0010

def ss4BtlMultiFingerY (i : Nat) : UInt32 :=
  ss4StdMultiFingerY p i ||| (byte p (0 + i * 3)).shiftRight 3 &&& 0x0008

def ss4MultiFingerZ (i : Nat) : UInt32 :=
  byte p (1 + i * 3) &&& 0x0001 ||| (byte p (1 + i * 3)).shiftRight 1 &&& 0x0002

-- In a packet with two fingers this bit says that another packet follows, in that one it says that there
-- are five fingers.
def ss4Continues : Bool :=
  byte p 2 &&& 0x10 = 0x10

def ss4MultiFinger (flags : UInt32) (i : Nat) : InputMtPos :=
  if flags &&& alpsButtonpad ≠ 0 then { x := ss4BtlMultiFingerX p i, y := ss4BtlMultiFingerY p i }
  else { x := ss4StdMultiFingerX p i, y := ss4StdMultiFingerY p i }

-- The position that stands for no finger.
def ss4NoData (flags : UInt32) : InputMtPos :=
  if flags &&& alpsButtonpad ≠ 0 then { x := 8176, y := 4088 } else { x := 8160, y := 4080 }

-- The cases of the `switch` in `alps_decode_ss4_v2`.
def ss4DecodeOne : AlpsFields :=
  let pressure := toInt (ss4OneFingerZ p * 2 &&& 0x7f)
  { f with
    mt₀      := { x := ss4OneFingerX p, y := ss4OneFingerY p }
    pressure := pressure
    fingers  := if pressure > 0 then 1 else 0
    firstMp  := false
    isMp     := false }

def ss4DecodeTwo (flags : UInt32) : AlpsFields :=
  { f with
    mt₀      := ss4MultiFinger p flags 0
    mt₁      := ss4MultiFinger p flags 1
    pressure := if ss4MultiFingerZ p 0 ≠ 0 then 0x30 else 0
    fingers  := if ss4Continues p then f.fingers else 2
    firstMp  := ss4Continues p
    isMp     := false }

def ss4DecodeMulti (flags : UInt32) : AlpsFields :=
  let fourth := ss4MultiFinger p flags 1
  let absent := ¬ss4Continues p ∧ fourth = ss4NoData flags
  { f with
    mt₂     := ss4MultiFinger p flags 0
    mt₃     := if absent then {} else fourth
    fingers := if ss4Continues p then 5 else if absent then 3 else 4
    firstMp := false
    isMp    := true }

def ss4DecodeStick : AlpsFields :=
  { f with firstMp := false, isMp := false }

-- The devices without buttons have a single one below the pad.
def alpsDecodeSS4V2Buttons (flags : UInt32) : AlpsFields :=
  let right  : Bool := ss4Btn p &&& 0x02 ≠ 0
  let middle : Bool := ss4Btn p &&& 0x04 ≠ 0
  if alpsGetPktIDSS4V2 p = .stick then
    { f with
      tsLeft   := ss4Btn p &&& 0x01 ≠ 0
      tsRight  := if flags &&& alpsButtonpad ≠ 0 then f.tsRight else right
      tsMiddle := if flags &&& alpsButtonpad ≠ 0 then f.tsMiddle else middle }
  else
    { f with
      left   := ss4Btn p &&& 0x01 ≠ 0
      right  := if flags &&& alpsButtonpad ≠ 0 then f.right else right
      middle := if flags &&& alpsButtonpad ≠ 0 then f.middle else middle }

def ss4DecodeTouches (flags : UInt32) : AlpsFields :=
  match alpsGetPktIDSS4V2 p with
  | .one   => ss4DecodeOne f p
  | .two   => ss4DecodeTwo f p flags
  | .multi => ss4DecodeMulti f p flags
  | .stick => ss4DecodeStick f
  | .idle  => {}

def alpsDecodeSS4V2 (flags : UInt32) : AlpsFields :=
  alpsDecodeSS4V2Buttons (ss4DecodeTouches f p flags) p flags

end Decoders

end Touchpad
