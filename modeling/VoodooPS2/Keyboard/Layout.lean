import VoodooPS2.Keyboard.Map
import VoodooPS2.Machine.LastValue

namespace Keyboard

open LastValue

-- The working copy of the table, with what is remembered of an option that others depend on.
structure Layout where
  ps2ToADBMap       : Nat → UInt8
  swapcommandoption : Bool := false

-- The options of a call that are about the layout. The others leave the table alone.
structure LayoutOptions where
  swapCapsLockLeftControl        : Option Bool := none
  swapCommandOption              : Option Bool := none
  makeApplicationKeyRightWindows : Option Bool := none
  makeApplicationKeyAppleFN      : Option Bool := none
  makeRightModsHangulHanja       : Option Bool := none
  useISOLayoutKeyboard           : Option Bool := none

namespace Layout

variable (base : Nat → UInt8) (l : Layout)

def map (keyCode : Nat) (adbKeyCode : UInt8) : Layout :=
  { l with ps2ToADBMap := Function.update l.ps2ToADBMap keyCode adbKeyCode }

def setSwapCapsLockLeftControl : Option Bool → Layout
  | some true  => (l.map 0x3a (base 0x1d)).map 0x1d (base 0x3a)
  | some false => (l.map 0x3a (base 0x3a)).map 0x1d (base 0x1d)
  | none       => l

def setSwapCommandOption : Option Bool → Layout
  | some true  =>
    let l := { l with swapcommandoption := true }
    (((l.map 0x38 (base 0x15b)).map 0x15b (base 0x38)).map 0x138 (base 0x15c)).map 0x15c (base 0x138)
  | some false =>
    let l := { l with swapcommandoption := false }
    (((l.map 0x38 (base 0x38)).map 0x15b (base 0x15b)).map 0x138 (base 0x138)).map 0x15c (base 0x15c)
  | none       => l

-- The codes are those of the right option and of the right command key.
def setMakeApplicationKeyRightWindows : Option Bool → Layout
  | some true  => l.map 0x15d (if l.swapcommandoption then 0x3d else 0x36)
  | some false => l.map 0x15d (base 0x15d)
  | none       => l

-- The option is ignored if the other one has been set by the same call.
def setMakeApplicationKeyAppleFN (temp : Bool) : Option Bool → Layout
  | some fn => if temp then l else if fn then l.map 0x15d 0x3f else l.map 0x15d (base 0x15d)
  | none    => l

def setMakeRightModsHangulHanja : Option Bool → Layout
  | some true  => (l.map 0x138 (base 0xf2)).map 0x11d (base 0xf1)
  | some false =>
    (l.map 0x138 (if l.swapcommandoption then base 0x15c else base 0x138)).map 0x11d (base 0x11d)
  | none       => l

def setUseISOLayoutKeyboard : Option Bool → Layout
  | some true  => (l.map 0x29 (base 0x56)).map 0x56 (base 0x29)
  | some false => (l.map 0x29 (base 0x29)).map 0x56 (base 0x56)
  | none       => l

def setParamPropertiesGated (o : LayoutOptions) : Layout :=
  let l := l.setSwapCapsLockLeftControl base o.swapCapsLockLeftControl
  let l := l.setSwapCommandOption base o.swapCommandOption
  let l := l.setMakeApplicationKeyRightWindows base o.makeApplicationKeyRightWindows
  let temp := o.makeApplicationKeyRightWindows = some true
  let l := l.setMakeApplicationKeyAppleFN base temp o.makeApplicationKeyAppleFN
  let l := l.setMakeRightModsHangulHanja base o.makeRightModsHangulHanja
  l.setUseISOLayoutKeyboard base o.useISOLayoutKeyboard

-- The layout after a sequence of calls.
def setParams (calls : List LayoutOptions) : Layout :=
  calls.foldl (setParamPropertiesGated base) l

end Layout

-- Each option has the last value that it is given in a sequence of calls.
def LayoutOptions.last (calls : List LayoutOptions) : LayoutOptions where
  swapCapsLockLeftControl        := lastValue swapCapsLockLeftControl calls
  swapCommandOption              := lastValue swapCommandOption calls
  makeApplicationKeyRightWindows := lastValue makeApplicationKeyRightWindows calls
  makeApplicationKeyAppleFN      := lastValue makeApplicationKeyAppleFN calls
  makeRightModsHangulHanja       := lastValue makeRightModsHangulHanja calls
  useISOLayoutKeyboard           := lastValue useISOLayoutKeyboard calls

end Keyboard
