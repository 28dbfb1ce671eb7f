import VoodooPS2.Keyboard.Coherence
import VoodooPS2.Keyboard.Theorems.Interrupt

open SwitchEvent

namespace Keyboard

def Effect.event? : Effect → Option (SwitchEvent UInt8)
  | .dispatchKeyboardEvent adbKeyCode goingDown => some ⟨adbKeyCode, goingDown⟩
  | _                                           => none

-- The events that the HID system gets.
def events (effects : List Effect) : List (SwitchEvent UInt8) :=
  effects.filterMap Effect.event?

@[simp]
theorem events_nil : events [] = [] :=
  rfl

@[simp]
theorem events_append {l₁ l₂ : List Effect} : events (l₁ ++ l₂) = events l₁ ++ events l₂ := by
  simp [events]

@[simp]
theorem events_dispatch {c : UInt8} {on : Bool} {l : List Effect} :
    events (.dispatchKeyboardEvent c on :: l) = ⟨c, on⟩ :: events l :=
  rfl

theorem events_cons_none {x : Effect} {l : List Effect} (h : x.event? = none) :
    events (x :: l) = events l := by
  simp [events, h]

theorem events_map_dispatch {f : Nat → UInt8} {on : Bool} {keys : List Nat} :
    events (keys.map fun key => .dispatchKeyboardEvent (f key) on) =
      keys.map fun key => ⟨f key, on⟩ := by
  simp [events, Effect.event?, List.filterMap_map, Function.comp_def]

variable {cfg : Config} {v : KeyBits} {d : Dispatcher} {n keyCode : Nat} {c : UInt8} {on : Bool}

theorem events_evaluateRKA : events (evaluateRKA cfg n on) = [] := by
  unfold evaluateRKA
  split
  all_goals rfl

theorem events_toggleFKeyMode : events (toggleFKeyMode cfg) = [] := by
  unfold toggleFKeyMode
  split
  all_goals rfl

theorem leftKeyCode_of_dealtWith {state : UInt16} (h : DealtWith cfg state keyCode) :
    leftKeyCode cfg state keyCode = 0 :=
  if_pos h

theorem leftKeyCode_of_not {state : UInt16} (h : ¬DealtWith cfg state keyCode) :
    leftKeyCode cfg state keyCode = keyCode :=
  if_neg h

-- What the special cases of key codes can do.
structure SwitchedKeyCode (cfg : Config) (v : KeyBits) (d : Dispatcher) (keyCode : Nat) (on : Bool)
    (r : Dispatcher × Nat × List Effect) : Prop where
  state  : r.1.ps2modifierState = d.ps2modifierState
  code   : r.2.1 = leftKeyCode cfg d.ps2modifierState keyCode
  ejects : r.1.Ejects → d.Ejects
  hacked : HacksBrightness cfg d.ps2modifierState keyCode →
    let keys := liftedKeys v d.ps2modifierState
    events r.2.2 = keys.map (fun key => ⟨cfg.ps2ToADBMap key, false⟩) ++
      ⟨hackedADBKeyCode keyCode, on⟩ :: keys.map fun key => ⟨cfg.ps2ToADBMap key, true⟩
  quiet  : ¬HacksBrightness cfg d.ps2modifierState keyCode → ∀ c, ¬IsOn (events r.2.2) c

namespace SwitchedKeyCode

variable {d' : Dispatcher} {effects : List Effect}

theorem left (h : ¬DealtWith cfg d.ps2modifierState keyCode) :
    SwitchedKeyCode cfg v d keyCode on (d, keyCode, []) where
  state     := rfl
  code      := (leftKeyCode_of_not h).symm
  ejects    := id
  hacked h' := absurd (.inl h') h
  quiet _ _ := not_isOn_nil

theorem dealtWith (h : DealtWith cfg d.ps2modifierState keyCode)
    (hn : ¬HacksBrightness cfg d.ps2modifierState keyCode)
    (hs : d'.ps2modifierState = d.ps2modifierState) (he : d'.Ejects → d.Ejects)
    (ho : ∀ c, ¬IsOn (events effects) c) : SwitchedKeyCode cfg v d keyCode on (d', 0, effects) where
  state     := hs
  code      := (leftKeyCode_of_dealtWith h).symm
  ejects    := he
  hacked h' := absurd h' hn
  quiet _   := ho

end SwitchedKeyCode

theorem switchKeyCode_spec (cfg : Config) (v : KeyBits) (d : Dispatcher) (keyCode : Nat) (on : Bool) :
    SwitchedKeyCode cfg v d keyCode on (switchKeyCode cfg v d keyCode on) := by
  dsimp only [switchKeyCode]
  split
  case isTrue hk =>
    split
    case isTrue hb =>
      exact .dealtWith (.inr <| .inl ⟨hk, hb⟩) (fun h => h.right.left hb) rfl id fun _ => not_isOn_nil
    case isFalse hb =>
      split
      case isTrue hh =>
        have h : HacksBrightness cfg d.ps2modifierState keyCode := ⟨hk, hb, hh⟩
        refine ⟨rfl, (leftKeyCode_of_dealtWith (.inl h)).symm, id, fun _ => ?_, fun hn => absurd h hn⟩
        simp [events_map_dispatch]
      case isFalse hh =>
        apply SwitchedKeyCode.left
        rintro (h | h | h | h)
        · exact hh h.right.right
        · exact hb h.right
        · omega
        · simp at h; omega
  case isFalse hk =>
    have hn : ¬HacksBrightness cfg d.ps2modifierState keyCode := fun h => hk h.left
    split
    case isTrue hd =>
      split
      case isTrue hc =>
        have h : DealtWith cfg d.ps2modifierState keyCode := .inr <| .inr <| .inl ⟨hd, hc⟩
        split
        case isTrue => exact .dealtWith h hn rfl id fun _ => not_isOn_nil
        case isFalse =>
          refine .dealtWith h hn rfl id fun c ho => ?_
          exact not_isOn_nil (IsOn.of_off (IsOn.of_off (IsOn.of_pair ho)))
      case isFalse hc =>
        apply SwitchedKeyCode.left
        rintro (h | h | h | h)
        · exact hn h
        · exact hk h.left
        · exact hc h.right
        · simp [hd] at h
    case isFalse hd =>
      split
      case isTrue hs =>
        have h : DealtWith cfg d.ps2modifierState keyCode := .inr <| .inr <| .inr <| by simp [hs]
        split
        case isTrue =>
          split
          case isTrue  => exact .dealtWith h hn rfl (fun he => nomatch he.right) fun _ => not_isOn_nil
          case isFalse => exact .dealtWith h hn rfl (fun he => nomatch he.right) fun _ => not_isOn_nil
        case isFalse => exact .dealtWith h hn rfl (fun he => nomatch he.left) fun _ => not_isOn_nil
      case isFalse hs =>
        have ht : ∀ c, ¬IsOn (events (toggleFKeyMode cfg)) c := by simp [events_toggleFKeyMode]
        split
        case isTrue ht' =>
          have h : DealtWith cfg d.ps2modifierState keyCode := .inr <| .inr <| .inr <| by
            rcases ht' with rfl | rfl
            all_goals simp
          split
          case isTrue => exact .dealtWith h hn rfl id fun _ => not_isOn_nil
          case isFalse =>
            split
            case isTrue => exact .dealtWith h hn rfl id fun _ => not_isOn_nil
            case isFalse =>
              split
              case isTrue  => exact .dealtWith h hn rfl id fun _ => not_isOn_nil
              case isFalse => exact .dealtWith h hn rfl id ht
        case isFalse ht' =>
          split
          case isTrue hf =>
            have h : DealtWith cfg d.ps2modifierState keyCode := .inr <| .inr <| .inr <| by simp [hf]
            split
            case isTrue  => exact .dealtWith h hn rfl id fun _ => not_isOn_nil
            case isFalse => exact .dealtWith h hn rfl id ht
          case isFalse hf =>
            by_cases hz : keyCode = 0
            case pos =>
              have h : DealtWith cfg d.ps2modifierState keyCode := .inr <| .inr <| .inr <| by simp [hz]
              subst hz
              exact .dealtWith h hn rfl id fun _ => not_isOn_nil
            case neg =>
              apply SwitchedKeyCode.left
              rintro (h | h | h | h)
              · exact hn h
              · exact hk h.left
              · exact hd h.left
              · simp at h; omega

-- What the special cases of ADB codes can do.
structure SwitchedADBKeyCode (cfg : Config) (d : Dispatcher) (adbKeyCode : UInt8) (on : Bool)
    (r : Dispatcher × UInt8 × Bool × List Effect) : Prop where
  code   : r.2.1 = leftADBKeyCode cfg adbKeyCode
  eatKey : r.2.2.1 = true ↔ adbKeyCode = 0x92 ∧ d.ps2modifierState = 0 ∧ on = true
  ejects : r.1.Ejects → if adbKeyCode = 0x92 ∧ d.ps2modifierState = 0 then on = true else d.Ejects
  isOn   : ∀ c, IsOn (events r.2.2.2) c →
    c = 0x92 ∧ adbKeyCode = 0x92 ∧ d.ps2modifierState = 0 ∧ on = true

theorem leftADBKeyCode_eq_eject (cfg : Config) {adbKeyCode : UInt8} :
    leftADBKeyCode cfg adbKeyCode = 0x92 ↔ adbKeyCode = 0x92 := by
  unfold leftADBKeyCode
  split
  case isTrue h  => rcases h.left with rfl | rfl <;> decide
  case isFalse h => rfl

theorem switchADBKeyCode_spec (cfg : Config) (d : Dispatcher) (adbKeyCode : UInt8) (on : Bool) :
    SwitchedADBKeyCode cfg d adbKeyCode on (switchADBKeyCode cfg d adbKeyCode on) := by
  dsimp only [switchADBKeyCode]
  split
  case isTrue hb =>
    have hn : adbKeyCode ≠ 0x92 := by rcases hb with rfl | rfl <;> decide
    split
    case isTrue h =>
      have hl : leftADBKeyCode cfg adbKeyCode = deadkey := if_pos ⟨hb, h⟩
      exact ⟨hl.symm, by simp [hn], by simp [hn], fun _ h => absurd h not_isOn_nil⟩
    case isFalse h =>
      exact ⟨by simp [leftADBKeyCode, h], by simp [hn], by simp [hn], by simp⟩
  case isFalse hb =>
    have hl : leftADBKeyCode cfg adbKeyCode = adbKeyCode := if_neg fun h => hb h.left
    split
    case isFalse hn => exact ⟨hl.symm, by simp [hn], by simp [hn], by simp⟩
    case isTrue he =>
      split
      case isFalse hs => exact ⟨hl.symm, by simp [hs], by simp [hs], by simp⟩
      case isTrue hs =>
        split
        case isFalse ho => exact ⟨hl.symm, by simp [ho], fun h => absurd h.left Bool.false_ne_true, by simp⟩
        case isTrue ho =>
          split
          case isTrue  =>
            refine ⟨hl.symm, by simp [he, hs, ho], by simp [he, hs, ho], fun c h => ?_⟩
            exact ⟨(isOn_singleton.mp h).left.symm, he, hs, ho⟩
          case isFalse => exact ⟨hl.symm, by simp [he, hs, ho], by simp [he, hs, ho], by simp⟩

-- What is sent for a key that has not been dealt with.
structure Sent (cfg : Config) (d : Dispatcher) (n keyCode : Nat) (adbKeyCode : UInt8) (on eatKey : Bool)
    (r : Dispatcher × List Effect) : Prop where
  ejects : r.1.Ejects ↔ d.Ejects
  isOn   : ∀ c, IsOn (events r.2) c → c = adbKeyCode ∧ on = true ∧ keyCode ≠ 0 ∧
    ¬IsCapsLock cfg adbKeyCode ∧ ¬Breakless cfg.ps2flags n
  off    : on = false → keyCode ≠ 0 → eatKey = false → ¬IsCapsLock cfg adbKeyCode →
    ¬Breakless cfg.ps2flags n → events r.2 = [⟨adbKeyCode, false⟩]

theorem sendKey_spec (cfg : Config) (d : Dispatcher) (n keyCode : Nat) (adbKeyCode : UInt8)
    (on eatKey : Bool) :
    Sent cfg d n keyCode adbKeyCode on eatKey (sendKey cfg d n keyCode adbKeyCode on eatKey) := by
  dsimp only [sendKey]
  split
  case isTrue hl =>
    have hc : IsCapsLock cfg adbKeyCode := hl
    split
    case isFalse ho => exact ⟨.rfl, fun c h => absurd h not_isOn_nil, by simp [hc]⟩
    case isTrue ho =>
      refine ⟨.rfl, fun c h => ?_, by simp [ho]⟩
      split at h
      case isTrue  => exact absurd (IsOn.of_pair h) not_isOn_nil
      case isFalse => exact absurd (IsOn.of_pair (IsOn.of_pair h)) not_isOn_nil
  case isFalse hl =>
    have hc : ¬IsCapsLock cfg adbKeyCode := hl
    split
    case isFalse hk => exact ⟨.rfl, fun c h => absurd h not_isOn_nil, by simp_all⟩
    case isTrue hk =>
      by_cases hb : Breakless cfg.ps2flags n
      case pos =>
        cases on
        case false => exact ⟨.rfl, by simp [hb], by simp [hb]⟩
        case true =>
          refine ⟨.rfl, fun c h => ?_, by simp⟩
          exact absurd (IsOn.of_pair (by simpa [hb] using h)) not_isOn_nil
      case neg =>
        refine ⟨.rfl, fun c h => ?_, by simp +contextual [hb]⟩
        have h : IsOn [⟨adbKeyCode, on⟩] c := by simpa [hb] using h
        obtain ⟨ha, ho⟩ := isOn_singleton.mp h
        exact ⟨ha.symm, ho, hk.left, hc, hb⟩

section

variable {e : SwitchEvent Nat} {state : UInt16}

theorem sent_of_hacks (hr : Reaches e) (h : HacksBrightness cfg state (cfg.ps2ToPS2Map e.switch)) :
    sent cfg e state = some (hackedADBKeyCode (cfg.ps2ToPS2Map e.switch)) := by
  simp [sent, hr.left, hr.right, h]

theorem sent_of_dealtWith (hr : Reaches e) (hn : ¬HacksBrightness cfg state (cfg.ps2ToPS2Map e.switch))
    (h : DealtWith cfg state (cfg.ps2ToPS2Map e.switch)) : sent cfg e state = none := by
  simp [sent, hr.left, hr.right, hn, h]

theorem sent_of_left (hr : Reaches e) (h : ¬DealtWith cfg state (cfg.ps2ToPS2Map e.switch)) :
    sent cfg e state =
      if IsCapsLock cfg (leftADBKeyCode cfg (cfg.ps2ToADBMap (cfg.ps2ToPS2Map e.switch))) then none
      else some (leftADBKeyCode cfg (cfg.ps2ToADBMap (cfg.ps2ToPS2Map e.switch))) := by
  have hn : ¬HacksBrightness cfg state (cfg.ps2ToPS2Map e.switch) := fun hn => h (.inl hn)
  simp [sent, hr.left, hr.right, hn, h]

end

-- The code is that of a key which the brightness hack has lifted and pressed again.
def Lifted (cfg : Config) (v : KeyBits) (state : UInt16) (e : SwitchEvent Nat) (c : UInt8) : Prop :=
  Reaches e ∧ HacksBrightness cfg state (cfg.ps2ToPS2Map e.switch) ∧
    ∃ key ∈ liftedKeys v state, cfg.ps2ToADBMap key = c

-- What comes of an event: what may be left down, what is certain to be heard of, and when the eject key
-- may be due.
structure Dispatched (cfg : Config) (v : KeyBits) (d : Dispatcher) (e : SwitchEvent Nat)
    (r : Dispatcher × List Effect) : Prop where
  isOn   : ∀ c, IsOn (events r.2) c →
    e.on = true ∧ ¬Breakless cfg.ps2flags e.switch ∧ sent cfg e (d.modifiersFor cfg e) = some c ∨
    Lifted cfg v (d.modifiersFor cfg e) e c
  off    : e.on = false → ¬Breakless cfg.ps2flags e.switch →
    ∀ c, sent cfg e (d.modifiersFor cfg e) = some c → ofSwitch c (events r.2) ≠ []
  ejects : r.1.Ejects →
    e.on = true ∧ ¬Breakless cfg.ps2flags e.switch ∧ sent cfg e (d.modifiersFor cfg e) = some 0x92 ∨
    d.Ejects ∧ ¬(e.on = false ∧ Reaches e ∧ d.modifiersFor cfg e = 0 ∧
      sent cfg e (d.modifiersFor cfg e) = some 0x92)

theorem trackModifier_ejects : (d.trackModifier cfg n on).Ejects ↔ d.Ejects := by
  simp only [Dispatcher.trackModifier]
  split
  all_goals rfl

-- The three parts of `dispatchKey` and what each of them does.
structure Parts (cfg : Config) (v : KeyBits) (d : Dispatcher) (e : SwitchEvent Nat)
    (r : Dispatcher × Nat × List Effect) (s : Dispatcher × UInt8 × Bool × List Effect)
    (t : Dispatcher × List Effect) : Prop where
  keyCode    : SwitchedKeyCode cfg v (d.trackModifier cfg e.switch e.on) (cfg.ps2ToPS2Map e.switch) e.on r
  adbKeyCode : SwitchedADBKeyCode cfg r.1 (cfg.ps2ToADBMap r.2.1) e.on s
  key        : Sent cfg s.1 e.switch r.2.1 s.2.1 e.on s.2.2.1 t
  dispatcher : (dispatchKey cfg v d e.switch e.on).1 = t.1
  events     : events (dispatchKey cfg v d e.switch e.on).2 = events r.2.2 ++ events s.2.2.2 ++ events t.2

theorem dispatchKey_parts (cfg : Config) (v : KeyBits) (d : Dispatcher) (e : SwitchEvent Nat) :
    ∃ r s t, Parts cfg v d e r s t := by
  refine ⟨_, _, _, switchKeyCode_spec .., switchADBKeyCode_spec .., sendKey_spec .., rfl, ?_⟩
  simp only [dispatchKey, events_append, events_evaluateRKA]
  rfl

namespace Parts

variable {e : SwitchEvent Nat} {r : Dispatcher × Nat × List Effect}
variable {s : Dispatcher × UInt8 × Bool × List Effect} {t : Dispatcher × List Effect}

theorem state (p : Parts cfg v d e r s t) : r.1.ps2modifierState = d.modifiersFor cfg e :=
  p.keyCode.state

theorem code (p : Parts cfg v d e r s t) :
    r.2.1 = leftKeyCode cfg (d.modifiersFor cfg e) (cfg.ps2ToPS2Map e.switch) :=
  p.keyCode.code

-- The eject key is due by this very event, or it was due before.
theorem ejects (p : Parts cfg v d e r s t) (h : (dispatchKey cfg v d e.switch e.on).1.Ejects) :
    if cfg.ps2ToADBMap r.2.1 = 0x92 ∧ d.modifiersFor cfg e = 0 then e.on = true else d.Ejects := by
  rw [p.dispatcher, p.key.ejects] at h
  have hs := p.adbKeyCode.ejects h
  rw [p.state] at hs
  split
  case isTrue hi  => simpa [hi] using hs
  case isFalse hi => exact trackModifier_ejects.mp (p.keyCode.ejects (by simpa [hi] using hs))

theorem isOn (p : Parts cfg v d e r s t) {c : UInt8}
    (h : IsOn (Keyboard.events (dispatchKey cfg v d e.switch e.on).2) c) :
    IsOn (Keyboard.events r.2.2) c ∨
    (c = 0x92 ∧ cfg.ps2ToADBMap r.2.1 = 0x92 ∧ d.modifiersFor cfg e = 0 ∧ e.on = true) ∨
    (c = s.2.1 ∧ e.on = true ∧ r.2.1 ≠ 0 ∧ ¬IsCapsLock cfg s.2.1 ∧
      ¬Breakless cfg.ps2flags e.switch) := by
  rw [p.events, isOn_append, isOn_append] at h
  rcases h with h | ⟨-, h | ⟨-, h⟩⟩
  · exact .inr (.inr (p.key.isOn c h))
  · exact .inr (.inl (p.state ▸ p.adbKeyCode.isOn c h))
  · exact .inl h

-- A key that has been dealt with is not sent, and the eject key neither.
theorem of_dealtWith (p : Parts cfg v d e r s t) (hr : Reaches e)
    (he : EjectCoherent cfg (d.modifiersFor cfg e) e)
    (hd : DealtWith cfg (d.modifiersFor cfg e) (cfg.ps2ToPS2Map e.switch)) :
    (∀ c, IsOn (Keyboard.events (dispatchKey cfg v d e.switch e.on).2) c →
      IsOn (Keyboard.events r.2.2) c) ∧
    ((dispatchKey cfg v d e.switch e.on).1.Ejects → d.Ejects) := by
  have hn : ¬(cfg.ps2ToADBMap r.2.1 = 0x92 ∧ d.modifiersFor cfg e = 0 ∧ e.on = true) :=
    fun ⟨ha, hm, ho⟩ => (he hr ho hm (p.code ▸ ha)).left hd
  have hz : r.2.1 = 0 := p.code.trans (leftKeyCode_of_dealtWith hd)
  constructor
  case left =>
    intro c h
    rcases p.isOn h with h | h | h
    · exact h
    · exact absurd h.right hn
    · exact absurd hz h.right.right.left
  case right =>
    intro h
    have hj := p.ejects h
    split at hj
    case isTrue hi  => exact absurd ⟨hi.left, hi.right, hj⟩ hn
    case isFalse hi => exact hj

theorem hacked (p : Parts cfg v d e r s t) (hr : Reaches e)
    (hh : HackCoherent cfg (d.modifiersFor cfg e) e v) (he : EjectCoherent cfg (d.modifiersFor cfg e) e)
    (hk : HacksBrightness cfg (d.modifiersFor cfg e) (cfg.ps2ToPS2Map e.switch)) :
    Dispatched cfg v d e (dispatchKey cfg v d e.switch e.on) := by
  have hb := sent_of_hacks hr hk
  have hl := p.keyCode.hacked hk
  have ⟨ho, hj⟩ := p.of_dealtWith hr he (.inl hk)
  refine ⟨fun c h => ?isOn, fun _ _ c h => ?off, fun h => .inr ⟨hj h, ?ejects⟩⟩
  case isOn =>
    have h := ho c h
    rw [hl, isOn_append, ← List.singleton_append, isOn_append, isOn_singleton] at h
    rcases h with (h | ⟨-, rfl, ho⟩) | ⟨-, h⟩
    · have ⟨key, hk', hc⟩ := List.mem_map.mp h.mem
      exact .inr ⟨hr, hk, key, hk', congrArg SwitchEvent.switch hc⟩
    · exact .inl ⟨ho, (hh hr hk).right ho, hb⟩
    · simpa using h.mem
  case off =>
    obtain rfl : hackedADBKeyCode _ = c := by simpa [hb] using h
    have hm : ⟨hackedADBKeyCode (cfg.ps2ToPS2Map e.switch), e.on⟩ ∈ Keyboard.events r.2.2 := by
      rw [hl]
      exact List.mem_append_right _ (List.mem_cons_self ..)
    rw [p.events]
    exact ofSwitch_ne_nil (List.mem_append_left _ (List.mem_append_left _ hm))
  case ejects =>
    rintro ⟨-, -, -, h⟩
    rw [hb, Option.some_inj, hackedADBKeyCode] at h
    split at h
    all_goals exact absurd h (by decide)

theorem dealtWith (p : Parts cfg v d e r s t) (hr : Reaches e)
    (he : EjectCoherent cfg (d.modifiersFor cfg e) e)
    (hd : DealtWith cfg (d.modifiersFor cfg e) (cfg.ps2ToPS2Map e.switch))
    (hk : ¬HacksBrightness cfg (d.modifiersFor cfg e) (cfg.ps2ToPS2Map e.switch)) :
    Dispatched cfg v d e (dispatchKey cfg v d e.switch e.on) := by
  have hb := sent_of_dealtWith hr hk hd
  have ⟨ho, hj⟩ := p.of_dealtWith hr he hd
  refine ⟨fun c h => ?isOn, fun _ _ c h => ?off, fun h => .inr ⟨hj h, ?ejects⟩⟩
  case isOn   => exact absurd (ho c h) (p.keyCode.quiet hk c)
  case off    => simp [hb] at h
  case ejects => simp [hb]

-- A key that is left alone has the ADB code that is left for it.
theorem left (p : Parts cfg v d e r s t) (hr : Reaches e)
    (he : EjectCoherent cfg (d.modifiersFor cfg e) e)
    (hd : ¬DealtWith cfg (d.modifiersFor cfg e) (cfg.ps2ToPS2Map e.switch)) :
    Dispatched cfg v d e (dispatchKey cfg v d e.switch e.on) := by
  have hk : ¬HacksBrightness cfg (d.modifiersFor cfg e) (cfg.ps2ToPS2Map e.switch) :=
    fun h => hd (.inl h)
  have hb := sent_of_left hr hd
  have hz : r.2.1 = cfg.ps2ToPS2Map e.switch := p.code.trans (leftKeyCode_of_not hd)
  have hz' : r.2.1 ≠ 0 := fun h => hd <| .inr <| .inr <| .inr <| by simp [← hz, h]
  have ha : s.2.1 = leftADBKeyCode cfg (cfg.ps2ToADBMap (cfg.ps2ToPS2Map e.switch)) :=
    hz ▸ p.adbKeyCode.code
  rw [← ha] at hb
  have hs : sent cfg e (d.modifiersFor cfg e) = some 0x92 ↔ cfg.ps2ToADBMap r.2.1 = 0x92 := by
    rw [← leftADBKeyCode_eq_eject cfg, ← p.adbKeyCode.code, hb]
    by_cases hl : IsCapsLock cfg s.2.1
    case pos => simp [hl.left]
    case neg => simp [hl]
  refine ⟨fun c h => ?isOn, fun ho hbl c h => ?off, fun h => ?ejects⟩
  case isOn =>
    rcases p.isOn h with h | ⟨rfl, h, hm, ho⟩ | ⟨rfl, ho, -, hl, hbl⟩
    · exact absurd h (p.keyCode.quiet hk c)
    · exact .inl ⟨ho, (he hr ho hm (p.code ▸ h)).right, hs.mpr h⟩
    · exact .inl ⟨ho, hbl, hb.trans (if_neg hl)⟩
  case off =>
    rw [hb] at h
    split at h
    case isTrue => nomatch h
    case isFalse hl =>
      obtain rfl := Option.some_inj.mp h
      have hn : s.2.2.1 = false := by
        cases hn : s.2.2.1
        case false => rfl
        case true  => exact absurd (p.adbKeyCode.eatKey.mp hn).right.right (by simp [ho])
      have hm : ⟨s.2.1, false⟩ ∈ Keyboard.events t.2 := by simp [p.key.off ho hz' hn hl hbl]
      rw [p.events]
      exact ofSwitch_ne_nil (List.mem_append_right _ hm)
  case ejects =>
    have hj := p.ejects h
    split at hj
    case isTrue hi  => exact .inl ⟨hj, (he hr hj hi.right (p.code ▸ hi.left)).right, hs.mpr hi.left⟩
    case isFalse hi => exact .inr ⟨hj, fun ⟨_, _, hm, h⟩ => hi ⟨hs.mp h, hm⟩⟩

end Parts

theorem dispatchKey_spec {e : SwitchEvent Nat} (hr : Reaches e)
    (hh : HackCoherent cfg (d.modifiersFor cfg e) e v) (he : EjectCoherent cfg (d.modifiersFor cfg e) e) :
    Dispatched cfg v d e (dispatchKey cfg v d e.switch e.on) := by
  have ⟨r, s, t, p⟩ := dispatchKey_parts cfg v d e
  by_cases hd : DealtWith cfg (d.modifiersFor cfg e) (cfg.ps2ToPS2Map e.switch)
  case neg => exact p.left hr he hd
  by_cases hk : HacksBrightness cfg (d.modifiersFor cfg e) (cfg.ps2ToPS2Map e.switch)
  case pos => exact p.hacked hr hh he hk
  case neg => exact p.dealtWith hr he hd hk

variable {packet : List UInt8}

theorem packetKey_lang : IsLangRelease (packetKey packet) ↔
    packet.getD 0 0 - 1 = 0 ∧ (packet.getD 1 0 = 0xf2 ∨ packet.getD 1 0 = 0xf1) := by
  have hb : ∀ b : UInt8, (b = 0xf2 ↔ b &&& kSCUpBit ≠ 0 ∧ (b &&& ~~~kSCUpBit).toNat = 0x72) ∧
      (b = 0xf1 ↔ b &&& kSCUpBit ≠ 0 ∧ (b &&& ~~~kSCUpBit).toNat = 0x71) ∧
      (b &&& ~~~kSCUpBit).toNat < 0x80 := by
    decide +kernel
  have ⟨h₂, h₁, hlt⟩ := hb (packet.getD 1 0)
  rw [h₂, h₁]
  simp only [IsLangRelease, packetKey, kbvNumScancodes, decide_eq_false_iff_not]
  generalize (packet.getD 1 0 &&& ~~~kSCUpBit).toNat = n at hlt
  split
  case isTrue hx  => simp only [hx, true_and, and_or_left, Nat.add_zero, ne_eq]
  case isFalse hx =>
    simp only [hx, false_and, iff_false]
    omega

theorem packetKey_of_lang (hx : packet.getD 0 0 - 1 = 0)
    (hb : packet.getD 1 0 = 0xf2 ∨ packet.getD 1 0 = 0xf1) :
    (packetKey packet).switch + 0x80 = (packet.getD 1 0).toNat := by
  simp only [packetKey, hx]
  rcases hb with hb | hb
  all_goals
    rw [hb]
    decide

theorem packetKey_printScreen (h : (packetKey packet).switch = 0x012a) : packet.getD 0 0 - 1 ≠ 0 := by
  have hb : ∀ b : UInt8, (b &&& ~~~kSCUpBit).toNat < 0x80 := by decide +kernel
  have hlt := hb (packet.getD 1 0)
  intro hx
  simp only [packetKey, hx, if_true] at h
  omega

theorem dispatch_spec (hh : HackCoherent cfg (d.modifiersFor cfg (packetKey packet)) (packetKey packet) v)
    (he : EjectCoherent cfg (d.modifiersFor cfg (packetKey packet)) (packetKey packet)) :
    Dispatched cfg v d (packetKey packet) (dispatchKeyboardEventWithPacket cfg v d packet) := by
  dsimp only [dispatchKeyboardEventWithPacket]
  split
  case isTrue hl' =>
    have hl := packetKey_lang.mpr hl'
    have hs := packetKey_of_lang hl'.left hl'.right
    refine ⟨fun c h => absurd (IsOn.of_pair h) not_isOn_nil, fun _ _ c h => ?_, fun h => .inr ⟨h, ?_⟩⟩
    · simp only [sent, hl, if_true, Option.some_inj, hs] at h
      subst h
      exact ofSwitch_ne_nil (List.mem_cons_self ..)
    · exact fun h => h.right.left.left hl
  case isFalse hl' =>
    have hl := packetKey_lang.not.mpr hl'
    split
    case isTrue hp =>
      refine ⟨fun c h => absurd h not_isOn_nil, fun _ _ c h => ?_, fun h => .inr ⟨h, ?_⟩⟩
      · simp [sent, hl, hp.right] at h
      · exact fun h => h.right.left.right hp.right
    case isFalse hp => exact dispatchKey_spec ⟨hl, fun h => hp ⟨packetKey_printScreen h, h⟩⟩ hh he

section

variable {s : State}

-- The loop of `packetReady` takes the keyboard through some of the passes that `Act.packet` stands for.
theorem drain_eq_run (fuel : Nat) :
    ∃ n, s.drain cfg fuel = (keyboard cfg).run s (List.replicate n .packet) := by
  induction fuel generalizing s
  case zero => exact ⟨0, rfl⟩
  case succ fuel hi =>
    unfold State.drain
    split
    case isFalse => exact ⟨0, rfl⟩
    case isTrue hc =>
      have ⟨n, h⟩ := hi (s := (s.pass cfg).1)
      have hs : (keyboard cfg).step s .packet = s.pass cfg := if_pos hc
      exact ⟨n + 1, by simp only [List.replicate_succ, Mealy.run, hs, ← h]⟩

theorem packetReady_eq_run : ∃ n, s.packetReady cfg = (keyboard cfg).run s (List.replicate n .packet) :=
  drain_eq_run _

theorem drain_emptied {q : List (List UInt8)} {fuel : Nat}
    (h : s.receiver.ringBuffer.Holds kPacketLength q) (hf : q.length ≤ fuel) :
    (s.drain cfg fuel).1.receiver.ringBuffer.Holds kPacketLength [] := by
  induction fuel generalizing s q
  case zero =>
    obtain rfl := List.eq_nil_of_length_eq_zero (Nat.le_zero.mp hf)
    exact h
  case succ fuel hi =>
    unfold State.drain
    cases q
    case nil => rwa [if_neg fun hc => h.size_le_count_iff.mp hc rfl]
    case cons p q =>
      rw [if_pos (h.size_le_count_iff.mpr (List.cons_ne_nil p q))]
      exact hi (s := (s.pass cfg).1) h.advanceTail (Nat.le_of_succ_le_succ hf)

-- The fuel is enough: `packetReady` leaves no packet behind.
theorem packetReady_emptied {q : List (List UInt8)} (h : s.receiver.ringBuffer.Holds kPacketLength q) :
    (s.packetReady cfg).1.receiver.ringBuffer.Holds kPacketLength [] := by
  apply drain_emptied h
  rw [h.count]
  exact Nat.le_mul_of_pos_left _ h.pos

end

end Keyboard
