import VoodooPS2.Keyboard.Interrupt

namespace Keyboard

inductive TimerFunc
  | sleep
  | eject
  deriving DecidableEq

-- What `dispatchKeyboardEventWithPacket` reads and never changes.
structure Config where
  ps2ToPS2Map       : Nat → Nat    := id
  ps2flags          : Nat → UInt16 := ps2flagsStock
  ps2ToADBMap       : Nat → UInt8  := ps2ToADBMapStock
  -- whether `_provider`, `_brightnessLevels` and `_backlightLevels` are there
  provider          : Bool         := false
  brightnessLevels  : Bool         := false
  backlightLevels   : Bool         := false
  brightnessHack    : Bool         := false
  maxsleeppresstime : UInt32       := 0
  f12ejectdelay     : UInt32       := 250
  fkeymode          : UInt32       := 0
  fkeymodesupported : Bool         := false
  versionMajor      : Nat          := 16

structure Dispatcher where
  ps2modifierState : UInt16    := 0
  timerFunc        : TimerFunc := .sleep
  -- whether the timer has been set and has neither fired nor been cancelled
  sleepEjectTimer  : Bool      := false
  firsttime        : Bool      := true
  deriving DecidableEq

-- What happens outside of the registers. The event of a key goes to the HID system, the notification
-- goes to the mouse or trackpad.
inductive Effect
  | dispatchKeyboardEvent (adbKeyCode : UInt8) (goingDown : Bool)
  | notifyKeyPressed (adbKeyCode : UInt8) (goingDown eatKey : Bool)
  | sleepNow
  | evaluateRKA (index : Nat) (goingDown : Bool)
  | modifyKeyboardBacklight (keyCode : Nat) (goingDown : Bool)
  | modifyScreenBrightness (adbKeyCode : UInt8) (goingDown : Bool)
  | toggleTouchpad
  | toggleFKeyMode
  deriving DecidableEq

def checkModifierState (ps2modifierState mask : UInt16) : Prop :=
  mask = ps2modifierState &&& mask

instance (ps2modifierState mask : UInt16) : Decidable (checkModifierState ps2modifierState mask) :=
  inferInstanceAs (Decidable (_ = _))

def Dispatcher.onSleepEjectTimer (d : Dispatcher) : List Effect :=
  match d.timerFunc with
  | .sleep => [.sleepNow]
  | .eject => [.dispatchKeyboardEvent 0x92 true]

def Dispatcher.trackModifier (cfg : Config) (d : Dispatcher) (keyCodeRaw : Nat) (goingDown : Bool) :
    Dispatcher :=
  let bit := (cfg.ps2flags keyCodeRaw >>> 8).toNat
  if bit ≠ 0 then
    let mask := UInt16.ofNat (1 <<< (bit - 1))
    let state := if goingDown then d.ps2modifierState ||| mask else d.ps2modifierState &&& ~~~mask
    { d with ps2modifierState := state }
  else
    d

-- Codes e0f0 through e0ff call back into ACPI methods.
def evaluateRKA (cfg : Config) (keyCode : Nat) (goingDown : Bool) : List Effect :=
  if 0x01f0 ≤ keyCode ∧ keyCode ≤ 0x01ff ∧ cfg.provider then [.evaluateRKA (keyCode - 0x01f0) goingDown]
  else []

def toggleFKeyMode (cfg : Config) : List Effect :=
  if cfg.fkeymodesupported then [.toggleFKeyMode] else []

-- The keys that the brightness hack lifts while it sends its own key.
def liftedKeys (v : KeyBits) (ps2modifierState : UInt16) : List Nat :=
  let keys := if checkModifierState ps2modifierState kMaskLeftWindows then [0x1d] else [0x2a, 0x1d]
  keys.filter fun key => v.isKeyDown key

-- The ADB code that the brightness hack sends.
def hackedADBKeyCode (keyCode : Nat) : UInt8 :=
  if keyCode = 0x4e then 0x90 else 0x91

-- The special cases of key codes. The key code that is left is zero if the key has been dealt with.
def switchKeyCode (cfg : Config) (v : KeyBits) (d : Dispatcher) (keyCode : Nat) (goingDown : Bool) :
    Dispatcher × Nat × List Effect :=
  let state := d.ps2modifierState
  if keyCode = 0x4e ∨ keyCode = 0x4a then
    if cfg.backlightLevels ∧ checkModifierState state (kMaskLeftControl ||| kMaskLeftAlt) then
      (d, 0, [.modifyKeyboardBacklight keyCode goingDown])
    else if cfg.brightnessHack ∧ checkModifierState state (kMaskLeftControl ||| kMaskLeftShift) then
      let keys := liftedKeys v state
      (d, 0, keys.map (fun key => .dispatchKeyboardEvent (cfg.ps2ToADBMap key) false) ++
        .dispatchKeyboardEvent (hackedADBKeyCode keyCode) goingDown ::
        keys.map fun key => .dispatchKeyboardEvent (cfg.ps2ToADBMap key) true)
    else
      (d, keyCode, [])
  else if keyCode = 0x0153 then
    if checkModifierState state (kMaskLeftControl ||| kMaskLeftAlt) then
      if goingDown then (d, 0, [])
      else (d, 0, [.dispatchKeyboardEvent 0x37 false, .dispatchKeyboardEvent 0x3b false,
        .dispatchKeyboardEvent 0x7f true, .dispatchKeyboardEvent 0x7f false])
    else
      (d, keyCode, [])
  else if keyCode = 0x015f then
    if goingDown then
      let d := { d with timerFunc := .sleep }
      if cfg.fkeymode ≠ 0 ∨ cfg.maxsleeppresstime = 0 then (d, 0, d.onSleepEjectTimer)
      else ({ d with sleepEjectTimer := true }, 0, [])
    else
      ({ d with sleepEjectTimer := false }, 0, [])
  else if keyCode = 0x0128 ∨ keyCode = 0x0137 then
    if goingDown = false then (d, 0, [])
    else if ¬checkModifierState state kMaskLeftControl then (d, 0, [.toggleTouchpad])
    else if keyCode ≠ 0x0137 then (d, 0, [])
    else (d, 0, toggleFKeyMode cfg)
  else if keyCode = 0x0127 then
    if goingDown = false then (d, 0, [])
    else (d, 0, toggleFKeyMode cfg)
  else
    (d, keyCode, [])

-- The special cases of ADB codes, with the code that is left and `eatKey`.
def switchADBKeyCode (cfg : Config) (d : Dispatcher) (adbKeyCode : UInt8) (goingDown : Bool) :
    Dispatcher × UInt8 × Bool × List Effect :=
  if adbKeyCode = 0x90 ∨ adbKeyCode = 0x91 then
    if cfg.brightnessLevels then (d, deadkey, false, [.modifyScreenBrightness adbKeyCode goingDown])
    else (d, adbKeyCode, false, [])
  else if adbKeyCode = 0x92 then
    if d.ps2modifierState = 0 then
      if goingDown then
        let d := { d with timerFunc := .eject }
        if cfg.f12ejectdelay = 0 then (d, adbKeyCode, true, d.onSleepEjectTimer)
        else ({ d with sleepEjectTimer := true }, adbKeyCode, true, [])
      else
        ({ d with sleepEjectTimer := false }, adbKeyCode, false, [])
    else
      (d, adbKeyCode, false, [])
  else
    (d, adbKeyCode, false, [])

-- What goes to the HID system for a key that has not been dealt with.
def sendKey (cfg : Config) (d : Dispatcher) (keyCodeRaw keyCode : Nat) (adbKeyCode : UInt8)
    (goingDown eatKey : Bool) : Dispatcher × List Effect :=
  if adbKeyCode = 0x39 ∧ cfg.versionMajor ≥ 16 then
    if goingDown then
      let pair := [.dispatchKeyboardEvent adbKeyCode true, .dispatchKeyboardEvent adbKeyCode false]
      ({ d with firsttime := false }, if d.firsttime then pair else pair ++ pair)
    else
      (d, [])
  else if keyCode ≠ 0 ∧ eatKey = false then
    let breakless := Breakless cfg.ps2flags keyCodeRaw
    (d, (if goingDown ∨ ¬breakless then [.dispatchKeyboardEvent adbKeyCode goingDown] else []) ++
      if goingDown ∧ breakless then [.dispatchKeyboardEvent adbKeyCode false] else [])
  else
    (d, [])

-- The index of the key and whether it is going down.
def packetKey (packet : List UInt8) : SwitchEvent Nat where
  switch :=
    (packet.getD 1 0 &&& ~~~kSCUpBit).toNat + if packet.getD 0 0 - 1 = 0 then 0 else kbvNumScancodes
  on     := packet.getD 1 0 &&& kSCUpBit = 0

-- What is done for a key once it is known which one it is.
def dispatchKey (cfg : Config) (v : KeyBits) (d : Dispatcher) (keyCodeRaw : Nat) (goingDown : Bool) :
    Dispatcher × List Effect :=
  let d := d.trackModifier cfg keyCodeRaw goingDown
  let keyCode := cfg.ps2ToPS2Map keyCodeRaw
  let effects₀ := evaluateRKA cfg keyCode goingDown
  let (d, keyCode, effects₁) := switchKeyCode cfg v d keyCode goingDown
  let (d, adbKeyCode, eatKey, effects₂) := switchADBKeyCode cfg d (cfg.ps2ToADBMap keyCode) goingDown
  let (d, effects₃) := sendKey cfg d keyCodeRaw keyCode adbKeyCode goingDown eatKey
  (d, effects₀ ++ effects₁ ++ effects₂ ++ .notifyKeyPressed adbKeyCode goingDown eatKey :: effects₃)

def dispatchKeyboardEventWithPacket (cfg : Config) (v : KeyBits) (d : Dispatcher) (packet : List UInt8) :
    Dispatcher × List Effect :=
  let extended := packet.getD 0 0 - 1
  let scanCode := packet.getD 1 0
  let key := packetKey packet
  -- LANG1 and LANG2
  if extended = 0 ∧ (scanCode = 0xf2 ∨ scanCode = 0xf1) then
    let adbKeyCode := cfg.ps2ToADBMap scanCode.toNat
    (d, [.dispatchKeyboardEvent adbKeyCode true, .dispatchKeyboardEvent adbKeyCode false])
  -- header or trailer for PrintScreen
  else if extended ≠ 0 ∧ key.switch = 0x012a then
    (d, [])
  else
    dispatchKey cfg v d key.switch key.on

structure State where
  receiver   : Receiver
  dispatcher : Dispatcher

-- A pass of the loop of `packetReady`, without macros.
def State.pass (cfg : Config) (s : State) : State × List Effect :=
  let packet := s.receiver.ringBuffer.tailPacket kPacketLength
  let ringBuffer := s.receiver.ringBuffer.advanceTail kPacketLength
  let r :=
    if packet.getD 0 0 ≠ 0 then
      dispatchKeyboardEventWithPacket cfg s.receiver.scanner.keyBitVector s.dispatcher packet
    else
      (s.dispatcher, [])
  (⟨{ s.receiver with ringBuffer := ringBuffer }, r.1⟩, r.2)

def State.drain (cfg : Config) : Nat → State → State × List Effect
  | 0, s        => (s, [])
  | fuel + 1, s =>
    if s.receiver.ringBuffer.count ≥ kPacketLength then
      let r := s.pass cfg
      let t := drain cfg fuel r.1
      (t.1, r.2 ++ t.2)
    else
      (s, [])

-- Each pass takes at least one cell off the count, see `packetReady_emptied`.
def State.packetReady (cfg : Config) (s : State) : State × List Effect :=
  s.drain cfg s.receiver.ringBuffer.count

-- The bytes arrive at interrupt time, so between any two passes of the loop of `packetReady`. The timer
-- fires only if it has been set.
inductive Act
  | byte (data : UInt8)
  | packet
  | timer
  deriving DecidableEq

def keyboard (cfg : Config) : Mealy State Act Effect where
  step
    | s, .byte data => ({ s with receiver := (interruptOccurred cfg.ps2flags s.receiver data).1 }, [])
    | s, .packet    => if s.receiver.ringBuffer.count ≥ kPacketLength then s.pass cfg else (s, [])
    | s, .timer     =>
      if s.dispatcher.sleepEjectTimer then
        ({ s with dispatcher := { s.dispatcher with sleepEjectTimer := false } },
          s.dispatcher.onSleepEjectTimer)
      else
        (s, [])

def sendKeySequence (pKeys : List UInt16) : List Effect :=
  (pKeys.takeWhile (· ≠ 0)).map fun key =>
    .dispatchKeyboardEvent (key &&& 0xff).toUInt8 (key &&& 0x1000 = 0)

-- The loop over the table, from the entry at `index` on. It stops at an entry that is not below the
-- current level.
def findLevel (current : Int) : Nat → List Int → Nat
  | index, []            => index
  | index, level :: rest => if level ≥ current then index else findLevel current (index + 1) rest

-- The index of the level that is set. The entries in front of the first one that is usable are left out.
def levelIndex (first : Nat) (levels : List Int) (current : Int) (up : Bool) : Int :=
  let count : Int := levels.length
  -- move to next or previous
  let index : Int := findLevel current first (levels.drop first) + if up then 1 else -1
  let index := if index ≥ count then count - 1 else index
  if index < first then first else index

-- What is passed to the ACPI method that sets the level. The current one may not be reported, and is kept
-- in an `int` if it is.
def modifyLevel (first : Nat) (levels : List Int) (reported : Option UInt32) (up goingDown : Bool) :
    Option UInt32 :=
  match reported with
  | none        => none
  | some result =>
    let index := levelIndex first levels result.toInt32.toInt up
    let num := (levels[index.toNat]?).map UInt32.ofInt
    if goingDown then num else none

-- The first two entries of this table are for when the machine runs on AC power and on battery.
def modifyScreenBrightness (brightnessLevels : List Int) (bqc : Option UInt32) (adbKeyCode : UInt8)
    (goingDown : Bool) : Option UInt32 :=
  modifyLevel 2 brightnessLevels bqc (adbKeyCode = 0x90) goingDown

def modifyKeyboardBacklight (backlightLevels : List Int) (kkqc : Option UInt32) (keyCode : Nat)
    (goingDown : Bool) : Option UInt32 :=
  modifyLevel 0 backlightLevels kkqc (keyCode = 0x4e) goingDown

end Keyboard
