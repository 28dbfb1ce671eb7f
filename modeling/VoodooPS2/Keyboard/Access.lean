import VoodooPS2.Keyboard.Driver
import VoodooPS2.Keyboard.Parse

namespace Keyboard

abbrev kbvBitsPerUnit : Nat := 32
abbrev kbvNUnits : Nat := (kbvNumKeycodes + (kbvBitsPerUnit - 1)) / kbvBitsPerUnit
abbrev adbConverterLen : Nat := 256 * 2

-- An access to an element of one of the arrays that are indexed by scan codes.
inductive TableAccess
  | ps2flags (index : Nat)
  | ps2ToPS2Map (index : Nat)
  | ps2ToADBMap (index : Nat)
  | ps2ToADBMapMapped (index : Nat)
  | keyBitVector (unit : Nat)
  deriving DecidableEq

-- The element exists.
def TableAccess.InBounds : TableAccess → Prop
  | ps2flags index          => index < kbvNumScancodes * 2
  | ps2ToPS2Map index       => index < kbvNumScancodes * 2
  | ps2ToADBMap index       => index < adbConverterLen
  | ps2ToADBMapMapped index => index < adbConverterLen
  | keyBitVector unit       => unit < kbvNUnits

-- The access of the macros that look at a key, or change it.
def TableAccess.key (n : Nat) : TableAccess :=
  .keyBitVector (n >>> 5)

namespace Scanner

-- The accesses of `key`.
def keyAccesses (ps2flags : Nat → UInt16) (s : Scanner) (extended data : UInt8) : List TableAccess :=
  let n := keyCodeRaw extended data
  .ps2flags n ::
    if Breakless ps2flags n then []
    else if data &&& kSCUpBit = 0 then
      if s.keyBitVector.isKeyDown n then [.key n]
      else [.key n, .key n]
    else
      [.key n]

-- The accesses of `scan`.
def accesses (ps2flags : Nat → UInt16) (s : Scanner) (data : UInt8) : List TableAccess :=
  if s.lastdata = kSCReset ∧ data = 0x00 then []
  else if Key.Reserved data then []
  else if s.extendCount = 0 ∨ s.extendCount - 1 = 0 then s.keyAccesses ps2flags s.extendCount data
  else []

end Scanner

section Dispatch

variable (cfg : Config) (v : KeyBits)

-- One of the two loops of the brightness hack.
def liftedAccesses (ps2modifierState : UInt16) : List TableAccess :=
  let keys := if checkModifierState ps2modifierState kMaskLeftWindows then [0x1d] else [0x2a, 0x1d]
  keys.flatMap fun key => .key key :: if v.isKeyDown key then [.ps2ToADBMap key] else []

-- The accesses of `switchKeyCode`.
def switchKeyCodeAccesses (ps2modifierState : UInt16) (keyCode : Nat) : List TableAccess :=
  if keyCode = 0x4e ∨ keyCode = 0x4a then
    if cfg.backlightLevels ∧ checkModifierState ps2modifierState (kMaskLeftControl ||| kMaskLeftAlt) then
      []
    else if cfg.brightnessHack ∧
        checkModifierState ps2modifierState (kMaskLeftControl ||| kMaskLeftShift) then
      liftedAccesses v ps2modifierState ++ liftedAccesses v ps2modifierState
    else
      []
  else
    []

-- The accesses of `sendKey`, which looks at the flags once, whether or not the key is going down.
def sendKeyAccesses (keyCodeRaw keyCode : Nat) (adbKeyCode : UInt8) (eatKey : Bool) : List TableAccess :=
  if adbKeyCode = 0x39 ∧ cfg.versionMajor ≥ 16 then []
  else if keyCode ≠ 0 ∧ eatKey = false then [.ps2flags keyCodeRaw]
  else []

-- The accesses of `dispatchKey`.
def dispatchKeyAccesses (d : Dispatcher) (keyCodeRaw : Nat) (goingDown : Bool) : List TableAccess :=
  let d := d.trackModifier cfg keyCodeRaw goingDown
  let keyCode := cfg.ps2ToPS2Map keyCodeRaw
  let accesses := switchKeyCodeAccesses cfg v d.ps2modifierState keyCode
  let (d, keyCode, _) := switchKeyCode cfg v d keyCode goingDown
  let (_, adbKeyCode, eatKey, _) := switchADBKeyCode cfg d (cfg.ps2ToADBMap keyCode) goingDown
  .ps2ToPS2Map keyCodeRaw :: .ps2flags keyCodeRaw :: accesses ++
    .ps2ToADBMap keyCode :: sendKeyAccesses cfg keyCodeRaw keyCode adbKeyCode eatKey

-- The accesses of `dispatchKeyboardEventWithPacket`.
def dispatchAccesses (d : Dispatcher) (packet : List UInt8) : List TableAccess :=
  let extended := packet.getD 0 0 - 1
  let scanCode := packet.getD 1 0
  let key := packetKey packet
  if extended = 0 ∧ (scanCode = 0xf2 ∨ scanCode = 0xf1) then
    [.ps2ToADBMap scanCode.toNat, .ps2ToADBMap scanCode.toNat]
  else if extended ≠ 0 ∧ key.switch = 0x012a then
    [.ps2ToPS2Map key.switch]
  else
    dispatchKeyAccesses cfg v d key.switch key.on

-- The accesses of the loop of `initKeyboard`.
def initKeyboardAccesses : Dispatcher → List Nat → List TableAccess
  | _, []                    => []
  | d, scanCode :: scanCodes =>
    .key scanCode ::
      if v.isKeyDown scanCode then
        let packet := (Driver.keyUpPacket 0 scanCode).keyData
        dispatchAccesses cfg v d packet ++
          initKeyboardAccesses (dispatchKeyboardEventWithPacket cfg v d packet).1 scanCodes
      else
        initKeyboardAccesses d scanCodes

end Dispatch

-- An entry is for a byte of the ADB map.
def customADBMapEntry (ps2ToADBMapMapped : Nat → UInt8) (psz : CString) : Nat → UInt8 :=
  match parseRemap psz with
  | none                  => ps2ToADBMapMapped
  | some (scanIn, adbOut) =>
    let exIn := (scanIn >>> 8).toUInt8
    if (exIn ≠ 0 ∧ exIn ≠ 0xe0) ∨ adbOut > 0xff then
      ps2ToADBMapMapped
    else
      Function.update ps2ToADBMapMapped (tableIndex exIn scanIn.toUInt8) adbOut.toUInt8

def loadCustomADBMap : List (Option CString) → (Nat → UInt8) → Nat → UInt8 :=
  loadEntries customADBMapEntry

def customPS2MapAccesses (psz : CString) : List TableAccess :=
  match parseRemap psz with
  | none                   => []
  | some (scanIn, scanOut) =>
    let exIn := (scanIn >>> 8).toUInt8
    let exOut := (scanOut >>> 8).toUInt8
    if (exIn ≠ 0 ∧ exIn ≠ 0xe0) ∨ (exOut ≠ 0 ∧ exOut ≠ 0xe0) then []
    else [.ps2ToPS2Map (tableIndex exIn scanIn.toUInt8)]

def breaklessPS2Accesses (psz : CString) : List TableAccess :=
  match parseHex psz '\n' ';' with
  | none             => []
  | some (scanIn, _) =>
    let exIn := (scanIn >>> 8).toUInt8
    if exIn ≠ 0 ∧ exIn ≠ 0xe0 then [] else [.ps2flags (tableIndex exIn scanIn.toUInt8)]

def customADBMapAccesses (psz : CString) : List TableAccess :=
  match parseRemap psz with
  | none                  => []
  | some (scanIn, adbOut) =>
    let exIn := (scanIn >>> 8).toUInt8
    if (exIn ≠ 0 ∧ exIn ≠ 0xe0) ∨ adbOut > 0xff then []
    else [.ps2ToADBMapMapped (tableIndex exIn scanIn.toUInt8)]

-- The accesses of the loop over an array.
def loadAccesses (entry : CString → List TableAccess) (pArray : List (Option CString)) : List TableAccess :=
  loadEntries (fun accesses psz => accesses ++ entry psz) pArray []

-- A driver with the tables that it has been configured with.
structure Configured where
  cfg               : Config
  ps2ToADBMapMapped : Nat → UInt8
  driver            : Driver

-- The tables after the first part of `init`, with any settings.
def Configured.init (cfg : Config) (cells : Nat → UInt8) (macroBuffer : Nat → Packet) : Configured where
  cfg               := { cfg with ps2ToPS2Map := id, ps2flags := ps2flagsStock }
  ps2ToADBMapMapped := ps2ToADBMapStock
  driver            := .init cells macroBuffer

-- What can happen to the tables. A packet may come from anywhere.
inductive TableAct
  | loadCustomPS2Map (pArray : List (Option CString))
  | loadBreaklessPS2 (pArray : List (Option CString))
  | loadCustomADBMap (pArray : List (Option CString))
  | settings (cfg : Config)
  | byte (now : UInt64) (data : UInt8)
  | dispatch (packet : List UInt8)
  | initKeyboard (time : UInt64)

-- The settings, and the bytes in the working copy of the ADB map, can become anything.
def Configured.step (s : Configured) : TableAct → Configured × List TableAccess
  | .loadCustomPS2Map pArray =>
    ({ s with cfg := { s.cfg with ps2ToPS2Map := Keyboard.loadCustomPS2Map pArray s.cfg.ps2ToPS2Map } },
      loadAccesses customPS2MapAccesses pArray)
  | .loadBreaklessPS2 pArray =>
    ({ s with cfg := { s.cfg with ps2flags := Keyboard.loadBreaklessPS2 pArray s.cfg.ps2flags } },
      loadAccesses breaklessPS2Accesses pArray)
  | .loadCustomADBMap pArray =>
    ({ s with ps2ToADBMapMapped := Keyboard.loadCustomADBMap pArray s.ps2ToADBMapMapped },
      loadAccesses customADBMapAccesses pArray)
  | .settings cfg            =>
    ({ s with cfg := { cfg with ps2ToPS2Map := s.cfg.ps2ToPS2Map, ps2flags := s.cfg.ps2flags } }, [])
  | .byte now data           =>
    let receiver := interruptOccurredAt s.cfg.ps2flags s.driver.receiver now data
    ({ s with driver := { s.driver with receiver := receiver } },
      s.driver.receiver.scanner.accesses s.cfg.ps2flags data)
  | .dispatch packet         =>
    let v := s.driver.receiver.scanner.keyBitVector
    let i := s.driver.inverter
    let r := dispatchKeyboardEventWithPacket s.cfg v i.dispatcher packet
    ({ s with driver := { s.driver with inverter := { i with dispatcher := r.1 } } },
      dispatchAccesses s.cfg v i.dispatcher packet)
  | .initKeyboard time       =>
    let v := s.driver.receiver.scanner.keyBitVector
    ({ s with driver := (s.driver.initKeyboard s.cfg time).1 },
      initKeyboardAccesses s.cfg v s.driver.inverter.dispatcher (List.range kbvNumKeycodes))

-- What is observed are the accesses to the tables.
def tables : Mealy Configured TableAct TableAccess where
  step := Configured.step

end Keyboard
