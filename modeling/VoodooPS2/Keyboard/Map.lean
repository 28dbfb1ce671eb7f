import Mathlib.Data.UInt

-- The converter tables. Index 0 to 0xff is for normal keys, 0x100 to 0x1ff is for extended keys.
namespace Keyboard

abbrev kSCUpBit : UInt8 := 0x80
abbrev kbvNumScancodes : Nat := 256
abbrev kBreaklessKey : UInt16 := 0x01

-- Unknown keys are mapped to this code.
abbrev deadkey : UInt8 := 0x80

-- F14 and F15, which take the place of the NX keys for the brightness.
abbrev brightnessDown : UInt8 := 0x6b
abbrev brightnessUp : UInt8 := 0x71

-- The table `PS2ToADBMapStock` as it is for `PROBOOK`.
def stock : List UInt8 := [
  -- 0x000
  deadkey, 0x35, 0x12, 0x13, 0x14, 0x15, 0x17, 0x16,
  0x1a, 0x1c, 0x19, 0x1d, 0x1b, 0x18, 0x33, 0x30,
  0x0c, 0x0d, 0x0e, 0x0f, 0x11, 0x10, 0x20, 0x22,
  0x1f, 0x23, 0x21, 0x1e, 0x24, 0x3b, 0x00, 0x01,
  0x02, 0x03, 0x05, 0x04, 0x26, 0x28, 0x25, 0x29,
  0x27, 0x32, 0x38, 0x2a, 0x06, 0x07, 0x08, 0x09,
  0x0b, 0x2d, 0x2e, 0x2b, 0x2f, 0x2c, 0x3c, 0x43,
  0x3a, 0x31, 0x39, 0x7a, 0x78, 0x63, 0x76, 0x60,
  0x61, 0x62, 0x64, 0x65, 0x6d, 0x47, 0x6b, 0x59,
  0x5b, 0x5c, 0x4e, 0x56, 0x57, 0x58, 0x45, 0x53,
  0x54, 0x55, 0x52, 0x41, 0x44, 0x46, 0x0a, 0x67,
  0x6f, 0x51, deadkey, deadkey, 0x5f, deadkey, deadkey, deadkey,
  deadkey, deadkey, deadkey, deadkey, 0x69, 0x6b, 0x71, 0x6a,
  0x40, 0x4f, 0x50, 0x5a, deadkey, deadkey, deadkey, deadkey,
  0x68, deadkey, deadkey, 0x5e, deadkey, deadkey, deadkey, 0x68,
  0x68, 0x68, deadkey, 0x66, deadkey, 0x5d, 0x5f, deadkey,
  -- 0x080
  deadkey, deadkey, deadkey, deadkey, deadkey, deadkey, deadkey, deadkey,
  deadkey, deadkey, deadkey, deadkey, deadkey, deadkey, deadkey, deadkey,
  deadkey, deadkey, deadkey, deadkey, deadkey, deadkey, deadkey, deadkey,
  deadkey, deadkey, deadkey, deadkey, deadkey, deadkey, deadkey, deadkey,
  deadkey, deadkey, deadkey, deadkey, deadkey, deadkey, deadkey, deadkey,
  deadkey, deadkey, deadkey, deadkey, deadkey, deadkey, deadkey, deadkey,
  deadkey, deadkey, deadkey, deadkey, deadkey, deadkey, deadkey, deadkey,
  deadkey, deadkey, deadkey, deadkey, deadkey, deadkey, deadkey, deadkey,
  deadkey, deadkey, deadkey, deadkey, deadkey, deadkey, deadkey, deadkey,
  deadkey, deadkey, deadkey, deadkey, deadkey, deadkey, deadkey, deadkey,
  deadkey, deadkey, deadkey, deadkey, deadkey, deadkey, deadkey, deadkey,
  deadkey, deadkey, deadkey, deadkey, deadkey, deadkey, deadkey, deadkey,
  deadkey, deadkey, deadkey, deadkey, deadkey, deadkey, deadkey, deadkey,
  deadkey, deadkey, deadkey, deadkey, deadkey, deadkey, deadkey, deadkey,
  deadkey, 0x66, 0x68, deadkey, deadkey, deadkey, deadkey, deadkey,
  deadkey, deadkey, deadkey, deadkey, deadkey, deadkey, deadkey, deadkey,
  -- 0x100
  deadkey, deadkey, deadkey, deadkey, deadkey, brightnessDown, brightnessUp, deadkey,
  deadkey, 0x83, 0xa0, deadkey, deadkey, deadkey, deadkey, deadkey,
  0x4d, deadkey, brightnessDown, deadkey, deadkey, deadkey, deadkey, brightnessUp,
  deadkey, 0x42, deadkey, deadkey, 0x4c, 0x3e, deadkey, deadkey,
  0x4a, deadkey, 0x34, deadkey, deadkey, deadkey, deadkey, deadkey,
  deadkey, deadkey, deadkey, deadkey, deadkey, deadkey, 0x49, deadkey,
  0x48, deadkey, deadkey, deadkey, deadkey, 0x4b, deadkey, 0x69,
  0x3d, deadkey, deadkey, deadkey, deadkey, deadkey, deadkey, deadkey,
  deadkey, deadkey, deadkey, deadkey, deadkey, 0x71, deadkey, 0x73,
  0x7e, 0x74, deadkey, 0x7b, deadkey, 0x7c, brightnessUp, 0x77,
  0x7d, 0x79, 0x92, 0x75, deadkey, deadkey, deadkey, deadkey,
  deadkey, brightnessUp, deadkey, 0x37, 0x36, 0x6e, 0x7f, deadkey,
  deadkey, deadkey, deadkey, deadkey, deadkey, deadkey, deadkey, deadkey,
  deadkey, deadkey, deadkey, deadkey, deadkey, deadkey, 0x70, deadkey,
  deadkey, deadkey, deadkey, deadkey, deadkey, deadkey, deadkey, deadkey,
  deadkey, deadkey, deadkey, deadkey, deadkey, deadkey, deadkey, deadkey,
  -- 0x180
  deadkey, deadkey, deadkey, deadkey, deadkey, deadkey, deadkey, deadkey,
  deadkey, deadkey, deadkey, deadkey, deadkey, deadkey, deadkey, deadkey,
  deadkey, deadkey, deadkey, deadkey, deadkey, deadkey, deadkey, deadkey,
  deadkey, deadkey, deadkey, deadkey, deadkey, deadkey, deadkey, deadkey,
  deadkey, deadkey, deadkey, deadkey, deadkey, deadkey, deadkey, deadkey,
  deadkey, deadkey, deadkey, deadkey, deadkey, deadkey, deadkey, deadkey,
  deadkey, deadkey, deadkey, deadkey, deadkey, deadkey, deadkey, deadkey,
  deadkey, deadkey, deadkey, deadkey, deadkey, deadkey, deadkey, deadkey,
  deadkey, deadkey, deadkey, deadkey, deadkey, deadkey, deadkey, deadkey,
  deadkey, deadkey, deadkey, deadkey, deadkey, deadkey, deadkey, deadkey,
  deadkey, deadkey, deadkey, deadkey, deadkey, deadkey, deadkey, deadkey,
  deadkey, deadkey, deadkey, deadkey, deadkey, deadkey, deadkey, deadkey,
  deadkey, deadkey, deadkey, deadkey, deadkey, deadkey, deadkey, deadkey,
  deadkey, deadkey, deadkey, deadkey, deadkey, deadkey, deadkey, deadkey,
  deadkey, deadkey, deadkey, deadkey, deadkey, deadkey, deadkey, deadkey,
  deadkey, deadkey, deadkey, deadkey, deadkey, deadkey, deadkey, deadkey
]

def ps2ToADBMapStock (keyCode : Nat) : UInt8 :=
  stock.getD keyCode deadkey

abbrev kMaskLeftControl : UInt16 := 0x0001
abbrev kMaskLeftShift : UInt16 := 0x0004
abbrev kMaskLeftAlt : UInt16 := 0x0010
abbrev kMaskLeftWindows : UInt16 := 0x0040

-- The high byte of the flags is, for a modifier key, the number of its mask's bit, counted from one.
def ps2flagsStock : Nat → UInt16
  | 0x01d => 0x0100
  | 0x02a => 0x0300
  | 0x036 => 0x0400
  | 0x038 => 0x0500
  | 0x11d => 0x0200
  | 0x138 => 0x0600
  | 0x15b => 0x0700
  | 0x15c => 0x0800
  | 0x15d => 0x0a00
  | 0x163 => 0x0900
  | _     => 0x0000

-- The key sends no break code.
def Breakless (ps2flags : Nat → UInt16) (keyCodeRaw : Nat) : Prop :=
  ps2flags keyCodeRaw &&& kBreaklessKey ≠ 0

instance (ps2flags : Nat → UInt16) (keyCodeRaw : Nat) : Decidable (Breakless ps2flags keyCodeRaw) :=
  inferInstanceAs (Decidable (_ ≠ _))

end Keyboard
