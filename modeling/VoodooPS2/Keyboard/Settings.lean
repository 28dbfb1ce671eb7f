import VoodooPS2.Keyboard.Access
import VoodooPS2.Keyboard.Layout
import VoodooPS2.Touchpad.MiddleButton

namespace Keyboard

open Touchpad (Swipe)

-- The remaps of the function keys, one list for each mode.
structure FunctionKeys where
  keysStandard : List (Option CString)
  keysSpecial  : List (Option CString)

def FunctionKeys.keys (k : FunctionKeys) (fkeymode : UInt32) : List (Option CString) :=
  if fkeymode ≠ 0 then k.keysStandard else k.keysSpecial

-- What `setParamPropertiesGated` looks for in a dictionary. The level of logging is left out.
structure Options where
  sleepPressTime   : Option UInt32  := none
  hidF12EjectDelay : Option UInt32  := none
  maxMacroTime     : Option UInt64  := none
  hidFKeyMode      : Option UInt32  := none
  layout           : LayoutOptions  := {}
  brightnessHack   : Option Bool    := none
  actionSwipeUp    : Option CString := none
  actionSwipeDown  : Option CString := none
  actionSwipeLeft  : Option CString := none
  actionSwipeRight : Option CString := none

-- What the profile of the platform contains. The macros are left out.
structure Profile where
  disableDevice        : Option Bool                    := none
  customPS2Map         : List (Option CString)          := []
  breaklessPS2         : List (Option CString)          := []
  customADBMap         : List (Option CString)          := []
  functionKeysStandard : Option (List (Option CString)) := none
  functionKeysSpecial  : Option (List (Option CString)) := none
  options              : Options                        := {}

-- Both lists have to be there for `_fkeymodesupported`.
def Profile.functionKeys (p : Profile) : Option FunctionKeys :=
  match p.functionKeysStandard, p.functionKeysSpecial with
  | some keysStandard, some keysSpecial => some ⟨keysStandard, keysSpecial⟩
  | _, _                                => none

abbrev actionSize : Nat := 16

def defaultAction : Swipe → CString
  | .swipeUp     => "3b d, 37 d, 7e d, 7e u, 37 u, 3b u".toList
  | .swipeDown   => "3b d, 37 d, 7d d, 7d u, 37 u, 3b u".toList
  | .swipeLeft   => "3b d, 37 d, 7b d, 7b u, 37 u, 3b u".toList
  | .swipeRight  => "3b d, 37 d, 7c d, 7c u, 37 u, 3b u".toList
  | .swipe4Up    => "3b d, 3a d, 7e d, 7e u, 3a u, 3b u".toList
  | .swipe4Down  => "3b d, 3a d, 7d d, 7d u, 3a u, 3b u".toList
  | .swipe4Left  => "3b d, 3a d, 7b d, 7b u, 3a u, 3b u".toList
  | .swipe4Right => "3b d, 3a d, 7c d, 7c u, 3a u, 3b u".toList

structure Settings where
  maxsleeppresstime : UInt32              := 0
  f12ejectdelay     : UInt32              := 250
  macroMaxTime      : UInt64              := 25000000
  fkeymode          : UInt32              := 0
  -- `_keysStandard` and `_keysSpecial`, if `_fkeymodesupported`
  functionKeys      : Option FunctionKeys := none
  ps2ToPS2Map       : Nat → Nat           := id
  ps2flags          : Nat → UInt16        := ps2flagsStock
  ps2ToADBMapMapped : Nat → UInt8         := ps2ToADBMapStock
  layout            : Layout              := { ps2ToADBMap := ps2ToADBMapStock }
  brightnessHack    : Bool                := false
  action            : Swipe → List UInt16 :=
    fun swipe => (parseAction (defaultAction swipe) (.replicate actionSize 0)).2

namespace Settings

variable (s : Settings)

def setFKeyMode (num : Option UInt32) : Settings :=
  match s.functionKeys with
  | none      => s
  | some keys =>
    let fkeymode := num.getD s.fkeymode
    if s.fkeymode ≠ fkeymode then
      { s with
        fkeymode    := fkeymode
        ps2ToPS2Map := loadCustomPS2Map (keys.keys fkeymode) s.ps2ToPS2Map }
    else
      s

def setAction (swipe : Swipe) : Option CString → Settings
  | some str => { s with action := Function.update s.action swipe (parseAction str (s.action swipe)).2 }
  | none     => s

def setParamPropertiesGated (dict : Options) : Settings :=
  let s :=
    { s with
      maxsleeppresstime := dict.sleepPressTime.getD s.maxsleeppresstime
      f12ejectdelay     := dict.hidF12EjectDelay.getD s.f12ejectdelay
      macroMaxTime      := dict.maxMacroTime.getD s.macroMaxTime }
  let s := s.setFKeyMode dict.hidFKeyMode
  let s :=
    { s with
      layout         := s.layout.setParamPropertiesGated s.ps2ToADBMapMapped dict.layout
      -- the hack is never switched off again
      brightnessHack := s.brightnessHack || dict.brightnessHack = some true }
  let s := s.setAction .swipeUp dict.actionSwipeUp
  let s := s.setAction .swipeDown dict.actionSwipeDown
  let s := s.setAction .swipeLeft dict.actionSwipeLeft
  s.setAction .swipeRight dict.actionSwipeRight

-- The settings after a sequence of calls.
def setParams (calls : List Options) : Settings :=
  calls.foldl setParamPropertiesGated s

-- The tables of `init`, before the options of the profile are set.
def load (p : Profile) : Settings :=
  let ps2ToPS2Map := loadCustomPS2Map p.customPS2Map id
  let ps2ToADBMapMapped := loadCustomADBMap p.customADBMap ps2ToADBMapStock
  { functionKeys      := p.functionKeys
    ps2ToPS2Map       :=
      match p.functionKeys with
      | none      => ps2ToPS2Map
      | some keys => loadCustomPS2Map keys.keysSpecial ps2ToPS2Map
    ps2flags          := loadBreaklessPS2 p.breaklessPS2 ps2flagsStock
    ps2ToADBMapMapped := ps2ToADBMapMapped
    layout            := { ps2ToADBMap := ps2ToADBMapMapped } }

-- The function `init`, which fails if the device is disabled.
def init (p : Profile) : Option Settings :=
  if p.disableDevice = some true then none else some ((load p).setParamPropertiesGated p.options)

-- What the driver reads while it handles packets. The rest is what `start` has found.
def config (hw : Config) : Config :=
  { hw with
    ps2ToPS2Map       := s.ps2ToPS2Map
    ps2flags          := s.ps2flags
    ps2ToADBMap       := s.layout.ps2ToADBMap
    brightnessHack    := s.brightnessHack
    maxsleeppresstime := s.maxsleeppresstime
    f12ejectdelay     := s.f12ejectdelay
    fkeymode          := s.fkeymode
    fkeymodesupported := s.functionKeys.isSome }

end Settings
end Keyboard
