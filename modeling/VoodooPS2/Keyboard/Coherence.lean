import VoodooPS2.Keyboard.Dispatch

namespace Keyboard

variable (cfg : Config)

-- The branches that depend on the modifiers, for a key code that has gone through `_PS2ToPS2Map`.

def HacksBrightness (state : UInt16) (keyCode : Nat) : Prop :=
  (keyCode = 0x4e ∨ keyCode = 0x4a) ∧
  ¬(cfg.backlightLevels ∧ checkModifierState state (kMaskLeftControl ||| kMaskLeftAlt)) ∧
  cfg.brightnessHack ∧ checkModifierState state (kMaskLeftControl ||| kMaskLeftShift)

instance (state : UInt16) (keyCode : Nat) : Decidable (HacksBrightness cfg state keyCode) := by
  unfold HacksBrightness; infer_instance

-- The key code is dealt with before it gets an ADB code.
def DealtWith (state : UInt16) (keyCode : Nat) : Prop :=
  HacksBrightness cfg state keyCode ∨
  (keyCode = 0x4e ∨ keyCode = 0x4a) ∧ cfg.backlightLevels ∧
    checkModifierState state (kMaskLeftControl ||| kMaskLeftAlt) ∨
  keyCode = 0x0153 ∧ checkModifierState state (kMaskLeftControl ||| kMaskLeftAlt) ∨
  keyCode ∈ [0x0, 0x015f, 0x0128, 0x0137, 0x0127]

instance (state : UInt16) (keyCode : Nat) : Decidable (DealtWith cfg state keyCode) := by
  unfold DealtWith; infer_instance

-- The key code and the ADB code that are left by the special cases.

def leftKeyCode (state : UInt16) (keyCode : Nat) : Nat :=
  if DealtWith cfg state keyCode then 0 else keyCode

def leftADBKeyCode (adbKeyCode : UInt8) : UInt8 :=
  if (adbKeyCode = 0x90 ∨ adbKeyCode = 0x91) ∧ cfg.brightnessLevels then deadkey else adbKeyCode

-- Caps lock is sent as a pair of events when it is pressed.
def IsCapsLock (adbKeyCode : UInt8) : Prop :=
  adbKeyCode = 0x39 ∧ cfg.versionMajor ≥ 16

instance (adbKeyCode : UInt8) : Decidable (IsCapsLock cfg adbKeyCode) := by
  unfold IsCapsLock; infer_instance

-- A release of LANG1 or LANG2.
def IsLangRelease (e : SwitchEvent Nat) : Prop :=
  e.on = false ∧ (e.switch = 0x72 ∨ e.switch = 0x71)

instance (e : SwitchEvent Nat) : Decidable (IsLangRelease e) := by
  unfold IsLangRelease; infer_instance

-- The event gets as far as the special cases.
def Reaches (e : SwitchEvent Nat) : Prop :=
  ¬IsLangRelease e ∧ e.switch ≠ 0x012a

instance (e : SwitchEvent Nat) : Decidable (Reaches e) := by
  unfold Reaches; infer_instance

-- The ADB code, if any, by which a key is said to go down or up if it does so with the modifiers `state`.
def sent (e : SwitchEvent Nat) (state : UInt16) : Option UInt8 :=
  let keyCode := cfg.ps2ToPS2Map e.switch
  let adbKeyCode := leftADBKeyCode cfg (cfg.ps2ToADBMap keyCode)
  if IsLangRelease e then some (cfg.ps2ToADBMap (e.switch + 0x80))
  else if e.switch = 0x012a then none
  else if HacksBrightness cfg state keyCode then some (hackedADBKeyCode keyCode)
  else if DealtWith cfg state keyCode ∨ IsCapsLock cfg adbKeyCode then none
  else some adbKeyCode

-- A key that the brightness hack may lift and press again: its own events have the code of its index.
def SentAsIs (key : Nat) : Prop :=
  cfg.ps2ToPS2Map key = key ∧ leftADBKeyCode cfg (cfg.ps2ToADBMap key) = cfg.ps2ToADBMap key ∧
  ¬IsCapsLock cfg (cfg.ps2ToADBMap key)

instance (key : Nat) : Decidable (SentAsIs cfg key) := by
  unfold SentAsIs; infer_instance

-- The eject key is sent when the timer fires.
def Dispatcher.Ejects (d : Dispatcher) : Prop :=
  d.sleepEjectTimer = true ∧ d.timerFunc = .eject

instance (d : Dispatcher) : Decidable d.Ejects := by
  unfold Dispatcher.Ejects; infer_instance

-- The event of a packet, unless it is the one for a reset.
def packetKey? (packet : List UInt8) : Option (SwitchEvent Nat) :=
  if packet.getD 0 0 = 0 then none else some (packetKey packet)

-- The event that the next pass of `packetReady` handles.
def State.pending? (s : State) : Option (SwitchEvent Nat) :=
  if s.receiver.ringBuffer.count ≥ kPacketLength then
    packetKey? (s.receiver.ringBuffer.tailPacket kPacketLength)
  else
    none

-- The modifiers with which an event is handled.
def Dispatcher.modifiersFor (d : Dispatcher) (e : SwitchEvent Nat) : UInt16 :=
  (d.trackModifier cfg e.switch e.on).ps2modifierState

-- For each key whose last event was a press, the modifiers with which that press was handled.
abbrev Made :=
  Nat → Option UInt16

section

variable (state : UInt16) (e : SwitchEvent Nat)

-- No key is lifted by the brightness hack that is not sent as it is, and the hack is not used with a key
-- that sends no break code.
def HackCoherent (v : KeyBits) : Prop :=
  Reaches e → HacksBrightness cfg state (cfg.ps2ToPS2Map e.switch) →
    (∀ key ∈ liftedKeys v state, SentAsIs cfg key) ∧ (e.on = true → ¬Breakless cfg.ps2flags e.switch)

-- The delay of the eject key is not used with a key that sends no break code or has been dealt with.
def EjectCoherent : Prop :=
  Reaches e → e.on = true → state = 0 →
    cfg.ps2ToADBMap (leftKeyCode cfg state (cfg.ps2ToPS2Map e.switch)) = 0x92 →
    ¬DealtWith cfg state (cfg.ps2ToPS2Map e.switch) ∧ ¬Breakless cfg.ps2flags e.switch

-- A release is sent with the code of the press, and it cancels the delay of the eject key.
def ReleaseCoherent (d : Dispatcher) (made : Made) : Prop :=
  e.on = false → ¬Breakless cfg.ps2flags e.switch →
    (∀ m ∈ made e.switch, ∀ c ∈ sent cfg ⟨e.switch, true⟩ m, sent cfg e state = some c) ∧
    (sent cfg e state = some 0x92 → Reaches e ∧ state = 0 ∨ ¬d.Ejects)

instance (v : KeyBits) : Decidable (HackCoherent cfg state e v) := by
  unfold HackCoherent; infer_instance

instance : Decidable (EjectCoherent cfg state e) := by
  unfold EjectCoherent; infer_instance

-- What an option contains is checked, not every value of its type.
instance (d : Dispatcher) (made : Made) : Decidable (ReleaseCoherent cfg state e d made) :=
  have (m : UInt16) : Decidable (∀ c ∈ sent cfg ⟨e.switch, true⟩ m, sent cfg e state = some c) :=
    Option.decidableForallMem _
  have : Decidable (∀ m ∈ made e.switch, ∀ c ∈ sent cfg ⟨e.switch, true⟩ m, sent cfg e state = some c) :=
    Option.decidableForallMem _
  inferInstanceAs (Decidable (_ → _ → _ ∧ (_ → _ ∨ _)))

end

-- The modifiers do not lead the two events of a key into different branches.
def Coherent (s : State × Made) (a : Act) : Prop :=
  a = .packet → ∀ e ∈ s.1.pending?,
    let state := s.1.dispatcher.modifiersFor cfg e
    HackCoherent cfg state e s.1.receiver.scanner.keyBitVector ∧ EjectCoherent cfg state e ∧
      ReleaseCoherent cfg state e s.1.dispatcher s.2

instance (s : State × Made) (a : Act) : Decidable (Coherent cfg s a) :=
  inferInstanceAs (Decidable
    (_ → ∀ e ∈ _, HackCoherent _ _ e _ ∧ EjectCoherent _ _ e ∧ ReleaseCoherent _ _ e _ _))

-- The presses to be remembered after an event has been handled with the given modifiers. A key that
-- sends no break code is not remembered.
def remember (made : Made) (e : SwitchEvent Nat) (state : UInt16) : Made :=
  Function.update made e.switch <|
    if e.on = true ∧ ¬Breakless cfg.ps2flags e.switch then some state else none

-- The keyboard together with the memory of the presses, which it does not have.
def monitored : Mealy (State × Made) Act Effect where
  step s a :=
    let r := (keyboard cfg).step s.1 a
    let made :=
      match a, s.1.pending? with
      | .packet, some e => remember cfg s.2 e (s.1.dispatcher.modifiersFor cfg e)
      | _, _            => s.2
    ((r.1, made), r.2)

end Keyboard
