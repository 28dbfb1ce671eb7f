import VoodooPS2.Keyboard.Theorems.Alike

namespace Keyboard

section Receiver

variable {ps2flags : Nat → UInt16} {s t : Scanner} {r u : Receiver} {data : UInt8} {now : UInt64}

-- The last bytes may differ, as long as none of them is the first half of a reset.
structure Scanner.Alike (s t : Scanner) : Prop where
  lastdata     : s.lastdata = t.lastdata ∨ s.lastdata ≠ kSCReset ∧ t.lastdata ≠ kSCReset
  extendCount  : s.extendCount = t.extendCount
  keyBitVector : s.keyBitVector = t.keyBitVector

-- What the last byte was is forgotten with the next one.
theorem Scanner.Alike.scan (h : s.Alike t) : s.scan ps2flags data = t.scan ps2flags data := by
  obtain ⟨l, _, _⟩ := s
  obtain ⟨l', _, _⟩ := t
  obtain ⟨hl, rfl, rfl⟩ := h
  rcases hl with rfl | ⟨hs, ht⟩
  case inl => rfl
  case inr =>
    have hs : ¬(l = kSCReset ∧ data = 0x00) := fun hz => hs hz.left
    have ht : ¬(l' = kSCReset ∧ data = 0x00) := fun hz => ht hz.left
    simp only [Scanner.scan, if_neg hs, if_neg ht]

theorem Scanner.Alike.refl : s.Alike s :=
  ⟨.inl rfl, rfl, rfl⟩

-- The same packets are pending.
structure Receiver.Alike (r u : Receiver) : Prop where
  scanner : r.scanner.Alike u.scanner
  pending : ∃ ps, r.Pending ps ∧ u.Pending ps

namespace Receiver.Alike

theorem interruptOccurredAt (h : r.Alike u) :
    (interruptOccurredAt ps2flags r now data).Alike (interruptOccurredAt ps2flags u now data) := by
  have ⟨ps, hr, hu⟩ := h.pending
  simp only [Keyboard.interruptOccurredAt, h.scanner.scan]
  split
  case h_1        => exact ⟨.refl, ps, hr, hu⟩
  case h_2 packet => exact ⟨.refl, _, Pending.bufferAt hr, Pending.bufferAt hu⟩

theorem size_le_count_iff (h : r.Alike u) :
    kPacketLength ≤ r.ringBuffer.count ↔ kPacketLength ≤ u.ringBuffer.count := by
  have ⟨ps, hr, hu⟩ := h.pending
  rw [hr.size_le_count_iff, hu.size_le_count_iff]

-- The oldest packet is the same one.
theorem tailPacket (h : r.Alike u) (hc : kPacketLength ≤ r.ringBuffer.count) :
    Packet.ofCells (r.ringBuffer.tailPacket kPacketLength) =
        Packet.ofCells (u.ringBuffer.tailPacket kPacketLength) ∧
      { r with ringBuffer := r.ringBuffer.advanceTail kPacketLength }.Alike
        { u with ringBuffer := u.ringBuffer.advanceTail kPacketLength } := by
  have ⟨ps, hr, hu⟩ := h.pending
  cases ps
  case nil       => exact absurd rfl (hr.size_le_count_iff.mp hc)
  case cons p ps =>
    have ⟨hp, hr⟩ := hr.tailPacket
    have ⟨hp', hu⟩ := hu.tailPacket
    exact ⟨hp.trans hp'.symm, h.scanner, ps, hr, hu⟩

end Receiver.Alike

end Receiver

structure Driver.Alike (cfg : Config) (timed : Prop) (s t : Driver) : Prop where
  receiver : s.receiver.Alike t.receiver
  inverter : s.inverter.Alike cfg timed t.inverter

namespace Driver.Alike

variable {cfg : Config} {c : Inversion} {timed : Prop} {s t : Driver} {a : DriverAct}

theorem onSleepEjectTimer (h : s.Alike cfg timed t) (ht : timed) :
    s.onSleepEjectTimer.1.Alike cfg timed t.onSleepEjectTimer.1 ∧
      s.onSleepEjectTimer.2 = t.onSleepEjectTimer.2 := by
  have hd := h.inverter.dispatcher
  simp only [Driver.onSleepEjectTimer, ← hd.timer ht]
  split
  case isFalse  => exact ⟨h, rfl⟩
  case isTrue hs =>
    refine ⟨⟨h.receiver, hd.cancelled, h.inverter.buffered⟩, ?_⟩
    rw [Dispatcher.onSleepEjectTimer, Dispatcher.onSleepEjectTimer, hd.func ht hs]

theorem pass (h : s.Alike cfg timed t) (hc : kPacketLength ≤ s.receiver.ringBuffer.count) :
    Option.Rel (fun r u => r.1.Alike cfg timed u.1 ∧ r.2 = u.2) (s.pass cfg c) (t.pass cfg c) := by
  have ⟨hp, hr⟩ := h.receiver.tailPacket hc
  have hi := @Inverter.Alike.handle cfg c timed t.receiver.scanner.keyBitVector _ _
    (Packet.ofCells (t.receiver.ringBuffer.tailPacket kPacketLength)) h.inverter
  simp only [Driver.pass, hp, h.receiver.scanner.keyBitVector]
  revert hi
  generalize s.inverter.handle _ _ _ _ = r
  generalize t.inverter.handle _ _ _ _ = u
  intro hi
  cases hi
  case none        => exact .none
  case some r u hi => exact .some ⟨⟨hr, hi.left⟩, hi.right⟩

-- An act of the driver. The last of them is only for states that are alike in the timer, too.
theorem step (h : s.Alike cfg timed t) (ht : a = .sleepEjectTimer → timed) :
    Option.Rel (fun r u => r.1.Alike cfg timed u.1 ∧ r.2 = u.2) (s.step cfg c a) (t.step cfg c a) := by
  cases a
  case byte now data   => exact .some ⟨⟨h.receiver.interruptOccurredAt, h.inverter⟩, rfl⟩
  case sleepEjectTimer => exact .some (h.onSleepEjectTimer (ht rfl))
  case macroTimer now  =>
    have ⟨hi, he⟩ :=
      @Inverter.Alike.dispatchExpired _ c _ t.receiver.scanner.keyBitVector _ _ now h.inverter
    simp only [Driver.step, h.receiver.scanner.keyBitVector]
    exact .some ⟨⟨h.receiver, hi⟩, he⟩
  case packet          =>
    simp only [Driver.step, ge_iff_le, ← h.receiver.size_le_count_iff]
    split
    case isTrue hc => exact h.pass hc
    case isFalse   => exact .some ⟨h, rfl⟩

theorem out {acts : List DriverAct} (h : s.Alike cfg timed t) (ht : .sleepEjectTimer ∈ acts → timed) :
    (driver cfg c).out (some s) acts = (driver cfg c).out (some t) acts := by
  refine Mealy.halting_alike (f := id) (R := Driver.Alike cfg timed) (fun _ _ => rfl)
    (fun s t a ha h => ?_) h
  have hr := @Driver.Alike.step cfg c timed s t a h fun he => ht (he ▸ ha)
  generalize s.step cfg c a = r at hr ⊢
  generalize t.step cfg c a = u at hr ⊢
  cases hr
  case none        => exact .inl ⟨rfl, rfl⟩
  case some r u hr => exact .inr ⟨r, u, rfl, rfl, hr.left, hr.right⟩

end Driver.Alike

section KeyUp

variable {cfg : Config} {d e : Dispatcher} {v : KeyBits} {n keyCode : Nat} {adbKeyCode : UInt8}
variable {eatKey : Bool} {time : UInt64}

-- A key that goes up does not count for caps lock, and it sets no timer.
structure Dispatcher.Lifts (d e : Dispatcher) : Prop where
  firsttime       : e.firsttime = d.firsttime
  sleepEjectTimer : d.sleepEjectTimer = false → e.sleepEjectTimer = false

namespace Dispatcher.Lifts

theorem refl : d.Lifts d :=
  ⟨rfl, id⟩

theorem trans {d' : Dispatcher} (h : d.Lifts d') (h' : d'.Lifts e) : d.Lifts e :=
  ⟨h'.firsttime.trans h.firsttime, h'.sleepEjectTimer ∘ h.sleepEjectTimer⟩

theorem trackModifier {on : Bool} : d.Lifts (d.trackModifier cfg n on) := by
  simp only [Dispatcher.trackModifier]
  split
  case isTrue  => exact ⟨rfl, id⟩
  case isFalse => exact refl

theorem switchKeyCode : d.Lifts (switchKeyCode cfg v d keyCode false).1 := by
  simp only [Keyboard.switchKeyCode, Bool.false_eq_true, if_false, if_true]
  split_ifs
  all_goals first | exact refl | exact ⟨rfl, fun _ => rfl⟩

theorem switchADBKeyCode : d.Lifts (switchADBKeyCode cfg d adbKeyCode false).1 := by
  simp only [Keyboard.switchADBKeyCode, Bool.false_eq_true, if_false]
  split_ifs
  all_goals first | exact refl | exact ⟨rfl, fun _ => rfl⟩

theorem sendKey : d.Lifts (sendKey cfg d n keyCode adbKeyCode false eatKey).1 := by
  simp only [Keyboard.sendKey, Bool.false_eq_true, if_false]
  split_ifs
  all_goals exact refl

theorem dispatchKey : d.Lifts (dispatchKey cfg v d n false).1 :=
  trackModifier.trans (switchKeyCode.trans (switchADBKeyCode.trans sendKey))

theorem dispatch {packet : List UInt8} (h : (packetKey packet).on = false) :
    d.Lifts (dispatchKeyboardEventWithPacket cfg v d packet).1 := by
  simp only [dispatchKeyboardEventWithPacket, h]
  split_ifs
  case pos => exact refl
  case pos => exact refl
  case neg => exact dispatchKey

theorem dispatchAll {ps : List Packet} (h : ∀ p ∈ ps, (packetKey p.keyData).on = false) :
    d.Lifts (Inverter.dispatchAll cfg v d ps).1 := by
  induction ps generalizing d
  case nil          => exact refl
  case cons p ps hi =>
    exact (dispatch (h p List.mem_cons_self)).trans (hi fun p hp => h p (List.mem_cons_of_mem _ hp))

end Dispatcher.Lifts

theorem upBit_ne : ∀ b : UInt8, (b ||| kSCUpBit) &&& kSCUpBit ≠ 0 := by
  decide +kernel

theorem keyUpPacket_on {scanCode : Nat} :
    (packetKey (Driver.keyUpPacket time scanCode).keyData).on = false := by
  simp [packetKey, Driver.keyUpPacket, Packet.keyData, upBit_ne]

end KeyUp

section Reset

variable {cfg : Config} {c : Inversion} {time : UInt64} {s : Driver} {cells : Nat → UInt8}
variable {macroBuffer : Nat → Packet} {timed : Prop}

theorem Driver.initKeyboard_lifts :
    s.inverter.dispatcher.Lifts (s.initKeyboard cfg time).1.inverter.dispatcher := by
  have h (scanCodes : List Nat) : s.inverter.dispatcher.Lifts (Inverter.dispatchAll cfg
      s.receiver.scanner.keyBitVector s.inverter.dispatcher (scanCodes.map (keyUpPacket time))).1 := by
    refine .dispatchAll fun p hp => ?_
    have ⟨_, _, he⟩ := List.mem_map.mp hp
    exact he ▸ keyUpPacket_on
  simp only [Driver.initKeyboard]
  generalize (List.range kbvNumKeycodes).filter _ = scanCodes
  exact ⟨(h scanCodes).firsttime, (h scanCodes).sleepEjectTimer⟩

theorem Receiver.Pending.reset {r : Receiver} (hr : r.ringBuffer = r.ringBuffer.reset) :
    r.Pending [] :=
  ⟨[], hr ▸ .reset (by decide) (by decide) (by decide), rfl⟩

-- What `initKeyboard` does not reset are the last byte, the macro buffer, the first time of caps lock, and
-- the timer for the sleep and eject keys, which is no part of what is observed unless it fires. The
-- registers of a keyboard that has just been initialised are alike if these are.
theorem initKeyboard_resets (cfg : Config) (c : Inversion) (s : Driver) (time : UInt64)
    (cells : Nat → UInt8) (macroBuffer : Nat → Packet) (acts : List DriverAct)
    (hl : s.receiver.scanner.lastdata ≠ kSCReset) (hm : s.inverter.macroCurrent = 0)
    (hc : SendsCapsLock cfg → s.inverter.dispatcher.firsttime = true)
    (ht : .sleepEjectTimer ∈ acts → s.inverter.dispatcher.sleepEjectTimer = false) :
    (driver cfg c).out (some (s.initKeyboard cfg time).1) acts =
      (driver cfg c).out (some (.init cells macroBuffer)) acts := by
  have hi := @Driver.initKeyboard_lifts cfg time s
  refine @Driver.Alike.out cfg c (.sleepEjectTimer ∈ acts) _ _ acts ⟨⟨?_, [], ?_, ?_⟩, ⟨?_, ?_⟩⟩ id
  case refine_1 => exact ⟨.inr ⟨hl, (by decide : (0 : UInt8) ≠ kSCReset)⟩, rfl, rfl⟩
  case refine_2 => exact .reset rfl
  case refine_3 => exact .reset rfl
  case refine_4 =>
    refine ⟨rfl, fun h => hi.firsttime.trans (hc h), fun h => hi.sleepEjectTimer (ht h), fun h ho => ?_⟩
    exact absurd (hi.sleepEjectTimer (ht h)) (Bool.not_eq_false _ ▸ ho)
  case refine_5 => exact (Inverter.buffered_eq_nil hm).trans (Inverter.buffered_eq_nil rfl).symm

def Driver.zeroed : Driver :=
  .init (fun _ => 0) fun _ => ⟨0, 0, 0⟩

-- A key that is held, and whose packet is still in the ring buffer.
def Driver.heldA : Driver :=
  { zeroed with receiver := interruptOccurredAt ps2flagsStock zeroed.receiver 5 0x1e }

theorem initKeyboard_resets_heldA :
    (driver {} {}).out (some (Driver.heldA.initKeyboard {} 0).1) [.byte 9 0x9e, .packet] =
      (driver {} {}).out (some .zeroed) [.byte 9 0x9e, .packet] :=
  initKeyboard_resets {} {} .heldA 0 (fun _ => 0) (fun _ => ⟨0, 0, 0⟩) [.byte 9 0x9e, .packet]
    (by decide +kernel) rfl (fun _ => rfl) (fun _ => rfl)

-- The macro for Fn+F1 that the configuration of some laptops has.
def fnF1 : Inversion where
  array := some [some [0xff, 0xff, 0x02, 0x6e, 0x00, 0x00, 0x00, 0x00, 0x02, 0x5b, 0x01, 0x19]]
  macroMaxTime := 35000000

-- The first packet of a macro is dispatched when the time for the second one is over.
theorem not_initKeyboard_resets : ¬ ∀ (cfg : Config) (c : Inversion) (cells : Nat → UInt8)
    (macroBuffer : Nat → Packet) (before acts : List DriverAct) (s : Driver) (time : UInt64),
    (driver cfg c).state (some (.init cells macroBuffer)) before = some s → .sleepEjectTimer ∉ acts →
      (driver cfg c).out (some (s.initKeyboard cfg time).1) acts =
        (driver cfg c).out (some (.init cells macroBuffer)) acts := by
  intro h
  have := h {} fnF1 (fun _ => 0) (fun _ => ⟨0, 0, 0⟩) [.byte 0 0xe0, .byte 1000000 0x5b, .packet]
    [.macroTimer 50000000] _ 0 rfl (by decide)
  exact absurd this (by decide +kernel)

-- Packets in the macro buffer are dispatched as soon as enough time has passed.
theorem macroCurrent_of_resets (hr : ∀ acts, .sleepEjectTimer ∉ acts →
      (driver cfg c).out (some (s.initKeyboard cfg time).1) acts =
        (driver cfg c).out (some (.init cells macroBuffer)) acts)
    (he : ∀ prev, ∃ now, c.Expired now prev) : s.inverter.macroCurrent = 0 := by
  by_contra hm
  have ⟨now, hn⟩ := he (s.inverter.macroBuffer (s.inverter.macroCurrent - 1)).time
  let s' := (s.initKeyboard cfg time).1
  -- the timer finds nothing in a buffer that is empty
  have hd : packets (s'.inverter.dispatchExpired cfg c s'.receiver.scanner.keyBitVector now).2 = [] := by
    have hd := congrArg packets (hr [.macroTimer now] (by simp))
    simpa [driver, Mealy.halting, Driver.step, Driver.init, Inverter.dispatchExpired] using hd
  rw [Inverter.dispatchExpired, if_pos ⟨Nat.pos_of_ne_zero hm, hn⟩, Inverter.dispatchInvertBuffer,
    Inverter.packets_dispatchAll] at hd
  exact hm (Inverter.buffered_length.symm.trans (congrArg List.length hd))

end Reset

end Keyboard
