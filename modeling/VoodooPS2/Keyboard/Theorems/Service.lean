import VoodooPS2.Keyboard.Service
import VoodooPS2.Keyboard.Theorems.Settings
import VoodooPS2.Keyboard.Theorems.Stuck

open SwitchEvent

namespace Keyboard

def ServiceAct.byte? : ServiceAct → Option UInt8
  | act (.byte data) => some data
  | _                => none

-- A change of the settings does not concern the keys that are down: a press that has been handled would be
-- sent with the same code, and so would a key that the brightness hack may have lifted.
structure Steady (cfg cfg' : Config) (s : State) (made : Made) : Prop where
  sent   : ∀ n, ∀ m ∈ made n, ∀ c ∈ Keyboard.sent cfg ⟨n, true⟩ m, Keyboard.sent cfg' ⟨n, true⟩ m = some c
  lifted : ∀ n, n = 0x2a ∨ n = 0x1d →
    (s.receiver.scanner.keyBitVector.isKeyDown n = false ∧ s.receiver.ringBuffer.count = 0) ∨
    (SentAsIs cfg n → SentAsIs cfg' n ∧ cfg'.ps2ToADBMap n = cfg.ps2ToADBMap n)

section

variable (cfg : Config) (v : KeyBits) (d : Dispatcher)

-- The modifiers do not lead the two events of a notification into different branches.
def PairCoherent (p p' : List UInt8) : Prop :=
  let e := packetKey p
  let state := d.modifiersFor cfg e
  let d' := (dispatchKeyboardEventWithPacket cfg v d p).1
  let e' := packetKey p'
  let state' := d'.modifiersFor cfg e'
  (HackCoherent cfg state e v ∧ EjectCoherent cfg state e) ∧
    HackCoherent cfg state' e' v ∧ EjectCoherent cfg state' e' ∧
    ReleaseCoherent cfg state' e' d' (remember cfg (fun _ => none) e state)

-- A notification is for both make and break, or for nothing.
def NotificationCoherent : List (List UInt8) → Prop
  | []      => True
  | [p, p'] => PairCoherent cfg v d p p'
  | _       => False

instance (p p' : List UInt8) : Decidable (PairCoherent cfg v d p p') := by
  unfold PairCoherent; infer_instance

instance : (packets : List (List UInt8)) → Decidable (NotificationCoherent cfg v d packets)
  | []               => .isTrue trivial
  | [_]              => .isFalse id
  | [p, p']          => inferInstanceAs (Decidable (PairCoherent cfg v d p p'))
  | _ :: _ :: _ :: _ => .isFalse id

end

namespace Service

variable (hw : Config)

-- The service together with the memory of the presses.
def monitored : Mealy (Service × Made) ServiceAct Effect where
  step s a :=
    let r := (service hw).step s.1 a
    let made :=
      match a with
      | .act a => ((Keyboard.monitored (s.1.config hw)).step (s.1.state, s.2) a).1.2
      | _      => s.2
    ((r.1, made), r.2)

-- What is asked of the steps of a run.
def Allowed (s : Service × Made) : ServiceAct → Prop
  | .act a                   => Roomy s.1.state a ∧ Coherent (s.1.config hw) (s.1.state, s.2) a
  | .setParamProperties dict =>
    Steady (s.1.config hw) ((s.1.settings.setParamPropertiesGated dict).config hw) s.1.state s.2
  | .receiveMessage message  => ∀ c, ¬IsOn (events (sendKeySequence (s.1.settings.action message))) c
  | .message arg             =>
    NotificationCoherent (s.1.config hw) s.1.state.receiver.scanner.keyBitVector s.1.state.dispatcher
      (notificationPackets arg)

end Service

section Settings

variable {s : Settings} {o : Options} {calls : List Options}

theorem setAction_ps2flags {swipe : Touchpad.Swipe} {str : Option CString} :
    (s.setAction swipe str).ps2flags = s.ps2flags := by
  cases str <;> rfl

theorem setFKeyMode_ps2flags {num : Option UInt32} : (s.setFKeyMode num).ps2flags = s.ps2flags := by
  unfold Settings.setFKeyMode
  split
  case h_1 => rfl
  case h_2 =>
    dsimp only
    split
    all_goals rfl

-- The flags are those of the profile.
theorem setParamPropertiesGated_ps2flags : (s.setParamPropertiesGated o).ps2flags = s.ps2flags := by
  simp only [Settings.setParamPropertiesGated, setAction_ps2flags]
  exact setFKeyMode_ps2flags

end Settings

variable {cfg cfg' : Config} {s : State} {q : List (List UInt8)} {made : Made} {t : List Effect}
variable {v : KeyBits} {es : List (SwitchEvent Nat)} {c : UInt8}

theorem Linked.of_ps2flags (l : Linked cfg v es made) (hf : cfg'.ps2flags = cfg.ps2flags) :
    Linked cfg' v es made where
  bits       := hf ▸ l.bits
  pressed    := hf ▸ l.pressed
  alternates := hf ▸ l.alternates

theorem Pressed.steady (h : Pressed cfg made c) (hs : Steady cfg cfg' s made) : Pressed cfg' made c := by
  obtain ⟨n, m, hm, hc⟩ := h
  exact ⟨n, m, hm, hs.sent n m hm c hc⟩

namespace Sound

theorem steady (h : Sound cfg s q made t) (hs : Steady cfg cfg' s made)
    (hf : cfg'.ps2flags = cfg.ps2flags) : Sound cfg' s q made t where
  holds       := h.holds
  extendCount := h.extendCount
  linked      := h.linked.of_ps2flags hf
  ejects he   := (h.ejects he).steady hs
  owed c hc   := by
    cases h.owed c hc
    case pressed hp => exact .pressed (hp.steady hs)
    case lifted n hn ha hb ho hc =>
      rcases hs.lifted n hn with ⟨hz, hq⟩ | hl
      · obtain rfl := h.holds.count_eq_zero_iff.mp hq
        simp [Outstanding, hz] at ho
      · obtain ⟨ha', he⟩ := hl ha
        exact .lifted n hn ha' (hf ▸ hb) ho (he.trans hc)

-- What leaves no key down does not matter.
theorem quiet {effects : List Effect} (h : Sound cfg s q made t)
    (hq : ∀ c, ¬IsOn (events effects) c) : Sound cfg s q made (t ++ effects) where
  holds       := h.holds
  extendCount := h.extendCount
  linked      := h.linked
  ejects      := h.ejects
  owed c hc   := by
    rw [events_append, isOn_append] at hc
    rcases hc with hc | ⟨-, hc⟩
    · exact absurd hc (hq c)
    · exact h.owed c hc

end Sound

section Notification

variable {d : Dispatcher} {p p' : List UInt8} {arg : UInt32}

-- The second packet releases the key of the first one.
theorem packetKey_break {byte₀ byte₁ : UInt8} :
    packetKey [byte₀, byte₁ ||| kSCUpBit] = ⟨(packetKey [byte₀, byte₁]).switch, false⟩ := by
  have hb : ∀ b : UInt8, (b ||| kSCUpBit) &&& ~~~kSCUpBit = b &&& ~~~kSCUpBit ∧
      (b ||| kSCUpBit) &&& kSCUpBit ≠ 0 := by
    decide +kernel
  have ⟨h, h'⟩ := hb byte₁
  simp only [packetKey, List.getD_cons_succ, List.getD_cons_zero, h, h', decide_false]

theorem notificationPackets_eq : notificationPackets arg = [] ∨ (∃ p, notificationPackets arg = [p]) ∨
    ∃ byte₀ byte₁, notificationPackets arg = [[byte₀, byte₁], [byte₀, byte₁ ||| kSCUpBit]] := by
  unfold notificationPackets
  split
  case isFalse => exact .inl rfl
  case isTrue =>
    dsimp only
    split
    case isTrue => exact .inr (.inl ⟨_, rfl⟩)
    case isFalse =>
      split
      case isTrue  => exact .inr (.inr ⟨_, _, rfl⟩)
      case isFalse => exact .inl rfl

theorem Lifted.owed {m : UInt16} {e : SwitchEvent Nat} (h : Lifted cfg v m e c)
    (hh : HackCoherent cfg m e v) (l : Linked cfg v es made) : Owed cfg v es made c := by
  obtain ⟨hr, hk, key, hm, rfl⟩ := h
  have ⟨hv, hn⟩ := mem_liftedKeys hm
  exact .lifted key hn ((hh hr hk).left key hm) (l.bits key hv) (.inl hv) rfl

-- What is dispatched for a make and a break code leaves nothing down that was not down before.
theorem Sound.pair (h : Sound cfg s q made t) (he : packetKey p' = ⟨(packetKey p).switch, false⟩)
    (hc : PairCoherent cfg s.receiver.scanner.keyBitVector s.dispatcher p p') :
    let r := dispatchPackets cfg s.receiver.scanner.keyBitVector s.dispatcher [p, p']
    Sound cfg { s with dispatcher := r.1 } q made (t ++ r.2) := by
  obtain ⟨⟨hh, hj⟩, hh', hj', hr⟩ := hc
  have hd := dispatch_spec hh hj
  have hd' := dispatch_spec hh' hj'
  simp only [dispatchPackets, List.append_nil]
  generalize dispatchKeyboardEventWithPacket cfg s.receiver.scanner.keyBitVector s.dispatcher p = r
    at hd hd' hh' hr ⊢
  rw [he] at hd' hh' hr
  generalize packetKey p = e at hd hd' hh hh' hr
  generalize hr' : dispatchKeyboardEventWithPacket cfg s.receiver.scanner.keyBitVector r.1 p' = r' at hd' ⊢
  -- a code that the make code is sent with is sent with the break code as well
  have hs : ∀ c, e.on = true → ¬Breakless cfg.ps2flags e.switch →
      sent cfg e (s.dispatcher.modifiersFor cfg e) = some c →
      sent cfg ⟨e.switch, false⟩ (r.1.modifiersFor cfg ⟨e.switch, false⟩) = some c := by
    intro c ho hb hs
    refine (hr rfl hb).left (s.dispatcher.modifiersFor cfg e) (by simp [remember, ho, hb]) c ?_
    obtain ⟨n, on⟩ := e
    obtain rfl : on = true := ho
    exact hs
  refine ⟨h.holds, h.extendCount, h.linked, fun c hi => ?owed, fun hi => ?ejects⟩
  case owed =>
    rw [events_append, events_append, ← List.append_assoc, isOn_append] at hi
    rcases hi with hi | ⟨hn, hi⟩
    · rcases hd'.isOn c hi with ⟨ho, -, -⟩ | hl
      · exact absurd ho Bool.false_ne_true
      · exact hl.owed hh' h.linked
    rw [isOn_append] at hi
    rcases hi with hi | ⟨-, hi⟩
    · rcases hd.isOn c hi with ⟨ho, hb, hc⟩ | hl
      · exact absurd hn (hd'.off rfl hb c (hs c ho hb hc))
      · exact hl.owed hh h.linked
    · exact h.owed c hi
  case ejects =>
    rcases hd'.ejects hi with ⟨ho, -, -⟩ | ⟨hi, hn⟩
    · exact absurd ho Bool.false_ne_true
    rcases hd.ejects hi with ⟨ho, hb, hc⟩ | ⟨hi', -⟩
    · have hc := hs _ ho hb hc
      rcases (hr rfl hb).right hc with ⟨hre, hz⟩ | hni
      · exact absurd ⟨rfl, hre, hz, hc⟩ hn
      · exact absurd hi hni
    · exact h.ejects hi'

end Notification

namespace Service

variable {hw : Config} {k : Service × Made} {a : ServiceAct} {acts : List ServiceAct}

-- Every step that is allowed keeps the account of the keys that are to be released.
theorem sound_step (h : ∃ q, Sound (k.1.config hw) k.1.state q k.2 t) (ha : Allowed hw k a) :
    let r := (monitored hw).step k a
    ∃ q, Sound (r.1.1.config hw) r.1.1.state q r.1.2 (t ++ r.2) := by
  obtain ⟨k, made⟩ := k
  cases a
  case act a => exact Sound.step (s := (k.state, made)) h ha.left ha.right
  case setParamProperties dict =>
    have ⟨q, h⟩ := h
    refine ⟨q, ?_⟩
    simp only [monitored, service, step, List.append_nil]
    exact h.steady ha setParamPropertiesGated_ps2flags
  case receiveMessage message =>
    have ⟨q, h⟩ := h
    exact ⟨q, h.quiet ha⟩
  case message arg =>
    have ⟨q, h⟩ := h
    refine ⟨q, ?_⟩
    dsimp only [Allowed] at ha
    simp only [monitored, service, step]
    rcases @notificationPackets_eq arg with hp | ⟨p, hp⟩ | ⟨byte₀, byte₁, hp⟩
    all_goals rw [hp] at ha ⊢
    · exact h.quiet fun c => not_isOn_nil
    · exact ha.elim
    · exact h.pair packetKey_break ha

theorem step_ps2flags {k : Service} : (k.step hw a).1.settings.ps2flags = k.settings.ps2flags := by
  cases a
  case setParamProperties => exact setParamPropertiesGated_ps2flags
  all_goals rfl

theorem step_scanner {k : Service} : (k.step hw a).1.state.receiver.scanner =
    (scanner k.settings.ps2flags).state k.state.receiver.scanner a.byte?.toList := by
  cases a
  case act a =>
    have h := @keyboard_scanner (k.config hw) k.state [a]
    cases a
    all_goals exact h
  all_goals rfl

-- The bytes are parsed as if nothing else happened in between.
theorem service_scanner {k : Service} : ((service hw).state k acts).state.receiver.scanner =
    (scanner k.settings.ps2flags).state k.state.receiver.scanner (acts.filterMap ServiceAct.byte?) := by
  induction acts generalizing k
  case nil => rfl
  case cons a acts hi =>
    rw [Mealy.state_cons, hi, show ((service hw).step k a).1 = (k.step hw a).1 from rfl, step_ps2flags,
      step_scanner, ← Mealy.state_append]
    congr 1
    cases h : a.byte?
    case none   => rw [List.filterMap_cons_none h, Option.toList_none, List.nil_append]
    case some b => rw [List.filterMap_cons_some h, Option.toList_some, List.singleton_append]

theorem monitored_simulates :
    (monitored hw).Simulates (service hw) (fun _ _ => True) (fun k k' => k.1 = k') where
  step := by
    rintro k _ a rfl -
    rfl
  out := by
    rintro k _ a rfl -
    rfl

-- A sequence of key events that starts and ends with all keys released, and a run that handles the bytes of
-- these events. Whatever else comes to the driver, it comes at any time.
structure Typed (hw : Config) (k : Service) (es : List KeyEvent) (acts : List ServiceAct) : Prop where
  atRest   : k.state.AtRest
  sends    : ∀ e ∈ es, e.switch.Sends false
  released : ∀ e ∈ es, ¬Breakless k.settings.ps2flags e.switch.keyCodeRaw → ¬IsOn es e.switch
  bytes    : acts.filterMap ServiceAct.byte? = bytesOf es
  handled  : ((service hw).state k acts).state.receiver.ringBuffer.count = 0

theorem Typed.isKeyDown {k : Service} {es : List KeyEvent} (h : Typed hw k es acts) (n : Nat) :
    ((service hw).state k acts).state.receiver.scanner.keyBitVector.isKeyDown n = false := by
  rw [service_scanner, h.bytes, Bool.eq_false_iff]
  intro hn
  have ⟨hb, ho⟩ := (Marked.run h.atRest.extendCount h.atRest.isKeyDown h.sends).isKeyDown n hn
  obtain ⟨k, rfl, hk⟩ := ho.of_map
  exact h.released _ hk.mem hb hk

-- While the key A is held, the mode of the function keys and the layout change, there is a swipe, and a
-- notification for the key Q arrives.
def interruptedA : List ServiceAct := [
  .act (.byte 0x1e), .act .packet,
  .setParamProperties { hidFKeyMode := some 1, layout := { swapCommandOption := some true } },
  .receiveMessage .swipeUp, .message 0x0310,
  .act (.byte 0x9e), .act .packet]

def proBook : Service where
  settings := .load Settings.proBook102
  state    := .init

-- The mode of the function keys changes while F2 is held.
def heldF2 : List ServiceAct := [
  .act (.byte 0x3c), .act .packet,
  .setParamProperties { hidFKeyMode := some 1 },
  .act (.byte 0xbc), .act .packet]

-- The key for the brightness is stuck, since the release is that of F2.
theorem not_service_noStuckKeys : ¬∀ (hw : Config) (k : Service) (es : List KeyEvent) (acts : List ServiceAct),
    Typed hw k es acts →
    (monitored hw).Along (fun k a => (∃ dict, a = .setParamProperties dict) ∨ Allowed hw k a)
      (k, fun _ => none) acts →
    ∀ c, ¬IsOn (events ((service hw).out k acts)) c := by
  intro h
  have ht : Typed {} proBook [⟨.normal 0x3c, true⟩, ⟨.normal 0x3c, false⟩] heldF2 := {
    atRest   := State.init_atRest
    sends    := by decide +kernel
    released := by decide +kernel
    bytes    := by decide +kernel
    handled  := by decide +kernel
  }
  have hn := h {} proBook _ heldF2 ht ⟨.inr ⟨by decide +kernel, by decide +kernel⟩,
    .inr ⟨by decide +kernel, by decide +kernel⟩, .inl ⟨_, rfl⟩,
    .inr ⟨by decide +kernel, by decide +kernel⟩, .inr ⟨by decide +kernel, by decide +kernel⟩, trivial⟩ 0x6b
  revert hn
  decide +kernel

end Service
end Keyboard
