import VoodooPS2.Keyboard.Theorems.Dispatch

open SwitchEvent

namespace Keyboard

variable {cfg : Config} {v v' : KeyBits} {es : List (SwitchEvent Nat)} {e : SwitchEvent Nat}
variable {made : Made} {n : Nat} {c : UInt8} {m : UInt16}

-- How the bits of the keys, the events in the ring buffer and the presses that have been handled hang
-- together: no key is pressed twice in a row, and a key whose last event is a press has its bit set.
structure Linked (cfg : Config) (v : KeyBits) (es : List (SwitchEvent Nat)) (made : Made) : Prop where
  bits       : ∀ n, v.isKeyDown n = true → ¬Breakless cfg.ps2flags n
  pressed    : ∀ n m, made n = some m → ¬Breakless cfg.ps2flags n
  alternates : ∀ n, ¬Breakless cfg.ps2flags n →
    Alternates (made n).isSome (ofSwitch n es) (v.isKeyDown n)

namespace Linked

theorem push_breakless (l : Linked cfg v es made) (hb : Breakless cfg.ps2flags e.switch) :
    Linked cfg v (es ++ [e]) made where
  bits    := l.bits
  pressed := l.pressed
  alternates n hn := by
    have h : e.switch ≠ n := fun h => hn (h ▸ hb)
    rw [ofSwitch_append, ofSwitch_cons_ne h, ofSwitch_nil, List.append_nil]
    exact l.alternates n hn

theorem push (l : Linked cfg v es made) (hb : ¬Breakless cfg.ps2flags e.switch)
    (hd : e.on = true → v.isKeyDown e.switch = false)
    (hv : ∀ n, v'.isKeyDown n = if e.switch = n then e.on else v.isKeyDown n) :
    Linked cfg v' (es ++ [e]) made where
  bits n h := by
    rw [hv] at h
    split at h
    case isTrue hn  => exact hn ▸ hb
    case isFalse hn => exact l.bits n h
  pressed := l.pressed
  alternates n hn := by
    rw [ofSwitch_append, hv]
    split
    case isTrue h =>
      subst h
      rw [show [e] = [⟨e.switch, e.on⟩] from rfl, ofSwitch_cons_self]
      exact (l.alternates _ hn).concat hd
    case isFalse h =>
      rw [ofSwitch_cons_ne h, ofSwitch_nil, List.append_nil]
      exact l.alternates n hn

-- The event that is handled is the next one of its key.
theorem handles (l : Linked cfg v (e :: es) made) (hb : ¬Breakless cfg.ps2flags e.switch) :
    ¬((made e.switch).isSome = true ∧ e.on = true) ∧
    Alternates e.on (ofSwitch e.switch es) (v.isKeyDown e.switch) := by
  have h := l.alternates _ hb
  rwa [show e :: es = ⟨e.switch, e.on⟩ :: es from rfl, ofSwitch_cons_self] at h

theorem pop (l : Linked cfg v (e :: es) made) : Linked cfg v es (remember cfg made e m) where
  bits := l.bits
  pressed n m h := by
    rw [remember, Function.update_apply] at h
    split at h
    case isFalse => exact l.pressed n m h
    case isTrue hn =>
      subst hn
      split at h
      case isTrue hb => exact hb.right
      case isFalse   => nomatch h
  alternates n hn := by
    rw [remember, Function.update_apply]
    split
    case isTrue h =>
      subst h
      have h := (l.handles hn).right
      cases ho : e.on
      all_goals simpa [ho, hn] using h
    case isFalse h =>
      have ha := l.alternates n hn
      rwa [ofSwitch_cons_ne (Ne.symm h)] at ha

end Linked

-- A release of the key is yet to be handled.
def Outstanding (v : KeyBits) (es : List (SwitchEvent Nat)) (n : Nat) : Prop :=
  v.isKeyDown n = true ∨ false ∈ ofSwitch n es

-- A press that has been handled was sent with the given code.
def Pressed (cfg : Config) (made : Made) (c : UInt8) : Prop :=
  ∃ n m, made n = some m ∧ sent cfg ⟨n, true⟩ m = some c

-- There is a key that is yet to be released with the given code: it has been pressed with it, or it has
-- been lifted and pressed again by the brightness hack.
inductive Owed (cfg : Config) (v : KeyBits) (es : List (SwitchEvent Nat)) (made : Made) (c : UInt8) :
    Prop
  | pressed : Pressed cfg made c → Owed cfg v es made c
  | lifted (n : Nat) : n = 0x2a ∨ n = 0x1d → SentAsIs cfg n → ¬Breakless cfg.ps2flags n →
    Outstanding v es n → cfg.ps2ToADBMap n = c → Owed cfg v es made c

theorem mem_liftedKeys {state : UInt16} (h : n ∈ liftedKeys v state) :
    v.isKeyDown n = true ∧ (n = 0x2a ∨ n = 0x1d) := by
  simp only [liftedKeys, List.mem_filter] at h
  refine ⟨h.right, ?_⟩
  have h := h.left
  split at h
  all_goals simp_all

-- A key that the brightness hack may lift is released with its own code, whatever the modifiers are.
theorem sent_of_sentAsIs (hn : n = 0x2a ∨ n = 0x1d) (h : SentAsIs cfg n) (state : UInt16) :
    sent cfg ⟨n, false⟩ state = some (cfg.ps2ToADBMap n) := by
  have ⟨hp, ha, hc⟩ := h
  have hr : Reaches ⟨n, false⟩ := by
    rcases hn with rfl | rfl <;> decide
  have hd : ¬DealtWith cfg state n := by
    rcases hn with rfl | rfl <;> simp [DealtWith, HacksBrightness]
  rw [sent_of_left hr (hp.symm ▸ hd)]
  simp [hp, ha, hc]

theorem Owed.push (o : Owed cfg v es made c)
    (hv : ∀ n, v.isKeyDown n = true → v'.isKeyDown n = true ∨ e = ⟨n, false⟩) :
    Owed cfg v' (es ++ [e]) made c := by
  cases o
  case pressed hp => exact .pressed hp
  case lifted n hn hs hb ho hc =>
    refine .lifted n hn hs hb ?_ hc
    rcases ho with ho | ho
    · rcases hv n ho with h | rfl
      · exact .inl h
      · exact .inr (by simp)
    · exact .inr (by simp [ho])

-- The event releases its key, and it is sent with the given code.
def Releases (cfg : Config) (e : SwitchEvent Nat) (state : UInt16) (c : UInt8) : Prop :=
  e.on = false ∧ ¬Breakless cfg.ps2flags e.switch ∧ sent cfg e state = some c

theorem Pressed.of_event (ho : e.on = true) (hb : ¬Breakless cfg.ps2flags e.switch)
    (hs : sent cfg e m = some c) : Pressed cfg (remember cfg made e m) c := by
  refine ⟨e.switch, m, by simp [remember, ho, hb], ?_⟩
  rwa [show e = ⟨e.switch, true⟩ from ho ▸ rfl] at hs

-- The code of a press is kept in mind until an event releases it.
theorem Pressed.pop {d : Dispatcher} (hp : Pressed cfg made c) (l : Linked cfg v (e :: es) made)
    (hr : ReleaseCoherent cfg m e d made) :
    Pressed cfg (remember cfg made e m) c ∨ Releases cfg e m c := by
  obtain ⟨n, m', hm, hs⟩ := hp
  by_cases hn : n = e.switch
  case pos =>
    subst hn
    have hb := l.pressed _ _ hm
    have ho : e.on = false := by simpa [hm] using (l.handles hb).left
    exact .inr ⟨ho, hb, (hr ho hb).left m' hm c hs⟩
  case neg => exact .inl ⟨n, m', by rw [remember, Function.update_of_ne hn, hm], hs⟩

theorem Owed.pop {d : Dispatcher} (o : Owed cfg v (e :: es) made c) (l : Linked cfg v (e :: es) made)
    (hr : ReleaseCoherent cfg m e d made) :
    Owed cfg v es (remember cfg made e m) c ∨ Releases cfg e m c := by
  cases o
  case pressed hp =>
    rcases hp.pop l hr with h | h
    · exact .inl (.pressed h)
    · exact .inr h
  case lifted n hn hs hb ho hc =>
    rcases ho with ho | ho
    case inl => exact .inl (.lifted n hn hs hb (.inl ho) hc)
    case inr =>
      by_cases h : e.switch = n
      case neg =>
        rw [ofSwitch_cons_ne h] at ho
        exact .inl (.lifted n hn hs hb (.inr ho) hc)
      case pos =>
        subst h
        rw [show e :: es = ⟨e.switch, e.on⟩ :: es from rfl, ofSwitch_cons_self] at ho
        rcases List.mem_cons.mp ho with ho | ho
        case inl =>
          have hs := sent_of_sentAsIs hn hs m
          rw [ho, hc] at hs
          exact .inr ⟨ho.symm, hb, hs⟩
        case inr => exact .inl (.lifted _ hn hs hb (.inr ho) hc)

section Receiver

variable {ps2flags : Nat → UInt16} {r : Receiver} {data : UInt8} {q : List (List UInt8)}

theorem Receiver.buffer_holds (packet : UInt8 × UInt8) (h : r.ringBuffer.Holds kPacketLength q)
    (hf : r.ringBuffer.count + kPacketLength < kPacketLength * 32) :
    ∃ slot, (r.buffer packet).ringBuffer.Holds kPacketLength (q ++ [slot]) ∧
      slot.getD 0 0 = packet.1 ∧ slot.getD 1 0 = packet.2 := by
  have hs := (h.setHeadCell (by decide : 0 < kPacketLength) packet.1).setHeadCell
    (by decide : 1 < kPacketLength) packet.2
  have hc := @Receiver.cells_buffer r packet
  simp only [Receiver.buffer, RingBuffer.cells_advanceHead] at hc
  exact ⟨_, hs.advanceHead hf, hc⟩

theorem packetKey_of_some {packet : List UInt8} (h : packetKey? packet = some e) :
    packetKey packet = e := by
  unfold packetKey? at h
  split at h
  case isTrue  => nomatch h
  case isFalse => exact Option.some_inj.mp h

-- The event of the packet that is buffered for a key.
theorem packetKey?_of_key {extended : UInt8} {slot : List UInt8} (hx : extended = 0 ∨ extended = 1)
    (h₀ : slot.getD 0 0 = extended + 1) (h₁ : slot.getD 1 0 = data) :
    packetKey? slot = some ⟨keyCodeRaw extended data, decide (data &&& kSCUpBit = 0)⟩ := by
  have hb : ∀ b : UInt8, keyCodeRaw 0 b = (b &&& ~~~kSCUpBit).toNat ∧
      keyCodeRaw 1 b = (b &&& ~~~kSCUpBit).toNat + kbvNumScancodes := by
    decide +kernel
  have ⟨h, h'⟩ := hb data
  unfold packetKey? packetKey
  rw [h₀, h₁]
  rcases hx with rfl | rfl
  · rw [h]
    simp
  · rw [h']
    simp

end Receiver

theorem Scanned.eq_of_none {ps2flags : Nat → UInt16} {data : UInt8}
    (h : Scanned ps2flags v data v' none) : v' = v := by
  cases h
  rfl

-- What is buffered keeps the bits, the ring buffer and the presses together, and no release is lost.
theorem Scanned.buffered {data : UInt8} {packet : UInt8 × UInt8} {slot : List UInt8}
    (h : Scanned cfg.ps2flags v data v' (some packet)) (h₀ : slot.getD 0 0 = packet.1)
    (h₁ : slot.getD 1 0 = packet.2) (l : Linked cfg v es made) :
    Linked cfg v' (es ++ (packetKey? slot).toList) made ∧
    ∀ c, Owed cfg v es made c → Owed cfg v' (es ++ (packetKey? slot).toList) made c := by
  cases h
  case reset =>
    simp only [packetKey?, h₀, if_true, Option.toList_none, List.append_nil]
    exact ⟨l, fun _ => id⟩
  case breakless x hx hb =>
    rw [packetKey?_of_key hx h₀ h₁]
    exact ⟨l.push_breakless hb, fun c o => o.push fun _ => .inl⟩
  case down x hx hb hd hk =>
    rw [packetKey?_of_key hx h₀ h₁]
    refine ⟨l.push hb (fun _ => hk) fun n => ?_, fun c o => o.push fun n hn => .inl ?_⟩
    · simp only [KeyBits.isKeyDown_keyDown, hd]
      split
      all_goals simp_all
    · simp [hn]
  case up x hx hb hd =>
    rw [packetKey?_of_key hx h₀ h₁]
    have ho : decide (data &&& kSCUpBit = 0) ≠ true := by simpa using hd
    refine ⟨l.push hb (absurd · ho) fun n => ?_, fun c o => o.push fun n hn => ?_⟩
    · simp only [KeyBits.isKeyDown_keyUp, hd]
      split
      all_goals simp_all
    · by_cases h : keyCodeRaw x data = n
      case pos => exact .inr (by simp [h, hd])
      case neg => exact .inl (by simp [h, hn])

-- The state of the keyboard, with the presses to be remembered, after the effects `t`.
structure Sound (cfg : Config) (s : State) (q : List (List UInt8)) (made : Made) (t : List Effect) :
    Prop where
  holds       : s.receiver.ringBuffer.Holds kPacketLength q
  extendCount : s.receiver.scanner.extendCount ≤ 2
  linked      : Linked cfg s.receiver.scanner.keyBitVector (q.filterMap packetKey?) made
  owed        : ∀ c, IsOn (events t) c →
    Owed cfg s.receiver.scanner.keyBitVector (q.filterMap packetKey?) made c
  ejects      : s.dispatcher.Ejects → Pressed cfg made 0x92

namespace Sound

variable {s : State} {p : List UInt8} {q : List (List UInt8)} {t : List Effect}

theorem byte (h : Sound cfg s q made t) (data : UInt8)
    (hf : s.receiver.ringBuffer.count + kPacketLength < kPacketLength * 32) :
    ∃ q', Sound cfg { s with receiver := (interruptOccurred cfg.ps2flags s.receiver data).1 } q' made t := by
  obtain ⟨hx, hs⟩ := scanned cfg.ps2flags data h.extendCount
  cases ho : (s.receiver.scanner.scan cfg.ps2flags data).2
  case none =>
    rw [ho] at hs
    rw [interruptOccurred_of_none ho]
    have hv := hs.eq_of_none
    exact ⟨q, h.holds, hx, by simpa [hv] using h.linked, by simpa [hv] using h.owed, h.ejects⟩
  case some packet =>
    rw [ho] at hs
    rw [interruptOccurred_of_some ho]
    obtain ⟨slot, hb, h₀, h₁⟩ := Receiver.buffer_holds packet h.holds hf
    obtain ⟨hl, ho⟩ := hs.buffered h₀ h₁ h.linked
    have hq : (q ++ [slot]).filterMap packetKey? =
        q.filterMap packetKey? ++ (packetKey? slot).toList := by
      cases h : packetKey? slot
      all_goals simp [h]
    exact ⟨q ++ [slot], hb, hx, hq ▸ hl, fun c hc => hq ▸ ho c (h.owed c hc), h.ejects⟩

theorem pending (h : Sound cfg s (p :: q) made t) : s.pending? = packetKey? p := by
  unfold State.pending?
  rw [if_pos (h.holds.size_le_count_iff.mpr (List.cons_ne_nil p q)), h.holds.tailPacket_eq]

theorem pass_eq (h : Sound cfg s (p :: q) made t) :
    let ringBuffer := s.receiver.ringBuffer.advanceTail kPacketLength
    let r := match packetKey? p with
      | some _ => dispatchKeyboardEventWithPacket cfg s.receiver.scanner.keyBitVector s.dispatcher p
      | none   => (s.dispatcher, [])
    s.pass cfg = (⟨{ s.receiver with ringBuffer := ringBuffer }, r.1⟩, r.2) := by
  simp only [State.pass, h.holds.tailPacket_eq, packetKey?]
  by_cases hz : p.getD 0 0 = 0
  case pos => rw [if_pos hz, if_neg (not_not.mpr hz)]
  case neg => rw [if_neg hz, if_pos hz]

theorem skip (h : Sound cfg s (p :: q) made t) (hp : packetKey? p = none) :
    Sound cfg (s.pass cfg).1 q made (t ++ (s.pass cfg).2) := by
  have hq : (p :: q).filterMap packetKey? = q.filterMap packetKey? := List.filterMap_cons_none hp
  rw [h.pass_eq, hp]
  exact ⟨h.holds.advanceTail, h.extendCount, hq ▸ h.linked, by simpa [hq] using h.owed, h.ejects⟩

-- The key of the event is taken from what is owed if it is released, and added if it is pressed.
theorem handle (h : Sound cfg s (p :: q) made t) (hp : packetKey? p = some e)
    (hc : Coherent cfg (s, made) .packet) :
    Sound cfg (s.pass cfg).1 q (remember cfg made e (s.dispatcher.modifiersFor cfg e))
      (t ++ (s.pass cfg).2) := by
  have ⟨hh, hj, hr⟩ := hc rfl e (h.pending.trans hp)
  have hq : (p :: q).filterMap packetKey? = e :: q.filterMap packetKey? := List.filterMap_cons_some hp
  have hl := h.linked
  have ho := h.owed
  rw [hq] at hl ho
  rw [h.pass_eq, hp]
  obtain rfl := packetKey_of_some hp
  have hd := dispatch_spec hh hj
  refine ⟨h.holds.advanceTail, h.extendCount, hl.pop, fun c hi => ?owed, fun hi => ?ejects⟩
  case owed =>
    rw [events_append, isOn_append] at hi
    rcases hi with hi | ⟨hn, hi⟩
    · rcases hd.isOn c hi with ⟨hon, hb, hs⟩ | ⟨hre, hk, key, hm, rfl⟩
      · exact .pressed (.of_event hon hb hs)
      · have ⟨hv, hn⟩ := mem_liftedKeys hm
        exact .lifted key hn ((hh hre hk).left key hm) (hl.bits key hv) (.inl hv) rfl
    · rcases (ho c hi).pop hl hr with h' | ⟨hoff, hb, hs⟩
      · exact h'
      · exact absurd hn (hd.off hoff hb c hs)
  case ejects =>
    rcases hd.ejects hi with ⟨hon, hb, hs⟩ | ⟨hi, hn⟩
    · exact .of_event hon hb hs
    · rcases (h.ejects hi).pop hl hr with h' | ⟨hoff, hb, hs⟩
      · exact h'
      · rcases (hr hoff hb).right hs with ⟨hre, hz⟩ | hni
        · exact absurd ⟨hoff, hre, hz, hs⟩ hn
        · exact absurd hi hni

theorem timer (h : Sound cfg s q made t) : Sound cfg ((keyboard cfg).step s .timer).1 q made
    (t ++ ((keyboard cfg).step s .timer).2) := by
  simp only [keyboard]
  split
  case isFalse => simpa using h
  case isTrue ht =>
    refine ⟨h.holds, h.extendCount, h.linked, fun c hi => ?_, nofun⟩
    unfold Dispatcher.onSleepEjectTimer at hi
    split at hi
    case h_1 =>
      rw [events_append, events_cons_none rfl, events_nil, List.append_nil] at hi
      exact h.owed c hi
    case h_2 hf =>
      rw [events_append, events_dispatch, events_nil, isOn_concat] at hi
      split at hi
      case isTrue hc  => exact hc ▸ .pressed (h.ejects ⟨ht, hf⟩)
      case isFalse hc => exact h.owed c hi

end Sound
end Keyboard
