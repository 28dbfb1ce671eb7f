import VoodooPS2.Keyboard.Interrupt

namespace Keyboard

theorem forall_byte_iff {P : UInt8 → Prop} : (∀ b, P b) ↔ ∀ n < 256, P (UInt8.ofNat n) where
  mp h _ _ := h _
  mpr h b  := by simpa using h b.toNat b.toNat_lt

-- A fact about bytes can be checked for each of them.
instance (priority := low) decidableForallByte {P : UInt8 → Prop} [DecidablePred P] : Decidable (∀ b, P b) :=
  decidable_of_iff _ forall_byte_iff.symm

-- The parser on its own, without the ring buffer.
def scanner (ps2flags : Nat → UInt16) : Mealy Scanner UInt8 (UInt8 × UInt8) where
  step s data :=
    let scanned := s.scan ps2flags data
    (scanned.1, scanned.2.toList)

variable {ps2flags : Nat → UInt16} {r : Receiver} {s : Scanner} {k : Key} {on : Bool} {data : UInt8}

-- The key data of the slot in which a packet is buffered.
theorem Receiver.cells_buffer {packet : UInt8 × UInt8} :
    let slot := (r.buffer packet).ringBuffer.cells r.ringBuffer.head kPacketLength
    slot.getD 0 0 = packet.1 ∧ slot.getD 1 0 = packet.2 := by
  simp only [Receiver.buffer, RingBuffer.cells_advanceHead]
  simp [RingBuffer.cells, RingBuffer.setHeadCell, kPacketLength]

theorem interruptOccurred_of_none (h : (r.scanner.scan ps2flags data).2 = none) :
    (interruptOccurred ps2flags r data).1 = { r with scanner := (r.scanner.scan ps2flags data).1 } := by
  simp [interruptOccurred, h]

theorem interruptOccurred_of_some {packet : UInt8 × UInt8}
    (h : (r.scanner.scan ps2flags data).2 = some packet) : (interruptOccurred ps2flags r data).1 =
      Receiver.buffer { r with scanner := (r.scanner.scan ps2flags data).1 } packet := by
  simp [interruptOccurred, h]

theorem receiver_step : (receiver ps2flags).step r data =
    (match (r.scanner.scan ps2flags data).2 with
      | none        => { r with scanner := (r.scanner.scan ps2flags data).1 }
      | some packet => Receiver.buffer { r with scanner := (r.scanner.scan ps2flags data).1 } packet,
    (r.scanner.scan ps2flags data).2.toList) := by
  cases h : (r.scanner.scan ps2flags data).2
  case none        => simp [receiver, interruptOccurred, h]
  case some packet =>
    have hc := @Receiver.cells_buffer { r with scanner := (r.scanner.scan ps2flags data).1 } packet
    simp only [receiver, interruptOccurred, h]
    simp only at hc
    rw [hc.left, hc.right]
    rfl

theorem receiver_simulates : (receiver ps2flags).Simulates (scanner ps2flags) (fun _ _ => True)
    (fun r s => r.scanner = s) where
  step := by
    rintro r _ data rfl -
    rw [receiver_step]
    cases h : (r.scanner.scan ps2flags data).2
    case none => rfl
    case some => rfl
  out := by
    rintro r _ data rfl -
    rw [receiver_step]
    rfl

theorem receiver_state {l : List UInt8} :
    ((receiver ps2flags).state r l).scanner = (scanner ps2flags).state r.scanner l :=
  receiver_simulates.run_state (.of_forall fun _ _ => trivial) rfl

theorem receiver_out {l : List UInt8} :
    (receiver ps2flags).out r l = (scanner ps2flags).out r.scanner l :=
  receiver_simulates.run_out (.of_forall fun _ _ => trivial) rfl

theorem keyCodeRaw_byte : ∀ c on, c < kSCUpBit →
    keyCodeRaw 0 (Key.byte c on) = c.toNat ∧
    keyCodeRaw 1 (Key.byte c on) = kbvNumScancodes + c.toNat := by
  decide +kernel

theorem byte_and_upBit : ∀ c on, c < kSCUpBit → (Key.byte c on &&& kSCUpBit = 0 ↔ on = true) := by
  decide +kernel

-- How a key event with the given index changes the registers, if the bits of the keys are `v` before,
-- and what is buffered for it.
structure Struck (ps2flags : Nat → UInt16) (v : KeyBits) (n : Nat) (on : Bool) (packet : UInt8 × UInt8)
    (s : Scanner) (packets : List (UInt8 × UInt8)) : Prop where
  extendCount : s.extendCount = 0
  isKeyDown   : ∀ m, s.keyBitVector.isKeyDown m =
    if n = m ∧ ¬Breakless ps2flags n then on else v.isKeyDown m
  packets     : packets =
    if ¬Breakless ps2flags n ∧ on = true ∧ v.isKeyDown n = true then [] else [packet]

theorem scan_eq_key (hr : ¬Key.Reserved data) (hz : ¬(s.lastdata = kSCReset ∧ data = 0))
    (hx : s.extendCount = 0 ∨ s.extendCount = 1) : s.scan ps2flags data =
      { s with lastdata := data, extendCount := 0 }.key ps2flags s.extendCount data := by
  simp only [Key.Reserved, not_or] at hr
  rcases hx with hx | hx
  all_goals simp [Scanner.scan, hz, hr, hx]

-- The last byte of a key event.
theorem struck_of_scan (ps2flags : Nat → UInt16) {c : UInt8} (hc : c < kSCUpBit)
    (hr : ¬Key.Reserved (Key.byte c on)) (hz : ¬(s.lastdata = kSCReset ∧ Key.byte c on = 0))
    (hx : s.extendCount = 0 ∨ s.extendCount = 1) :
    Struck ps2flags s.keyBitVector (keyCodeRaw s.extendCount (Key.byte c on)) on
      (s.extendCount + 1, Key.byte c on)
      (s.scan ps2flags (Key.byte c on)).1 (s.scan ps2flags (Key.byte c on)).2.toList := by
  rw [scan_eq_key hr hz hx]
  simp only [Scanner.key, byte_and_upBit c on hc]
  generalize keyCodeRaw s.extendCount (Key.byte c on) = n
  by_cases hb : Breakless ps2flags n
  case pos => exact ⟨by simp [hb], by simp [hb], by simp [hb]⟩
  cases on
  case false =>
    refine ⟨by simp [hb], fun m => ?_, by simp [hb]⟩
    by_cases hm : n = m
    case pos => subst hm; simp [hb]
    case neg => simp [hb, hm]
  case true =>
    by_cases hk : s.keyBitVector.isKeyDown n = true
    case pos =>
      refine ⟨by simp [hb, hk], fun m => ?_, by simp [hb, hk]⟩
      by_cases hm : n = m
      case pos => subst hm; simp [hb, hk]
      case neg => simp [hb, hk, hm]
    case neg =>
      refine ⟨by simp [hb, hk], fun m => ?_, by simp [hb, hk]⟩
      by_cases hm : n = m
      case pos => subst hm; simp [hb, hk]
      case neg => simp [hb, hk, hm]

-- The prefixes announce that one or two more bytes belong to the event.
theorem scan_extend (s : Scanner) : s.scan ps2flags kSCExtend =
    ({ s with lastdata := kSCExtend, extendCount := 1 }, none) := by
  simp [Scanner.scan, kSCExtend, kSCAcknowledge, kSCResend]

theorem scan_pause (s : Scanner) : s.scan ps2flags kSCPause =
    ({ s with lastdata := kSCPause, extendCount := 2 }, none) := by
  simp [Scanner.scan, kSCPause, kSCExtend, kSCAcknowledge, kSCResend]

theorem scan_ignored (s : Scanner) (hd : data = kSCAcknowledge ∨ data = kSCResend) :
    s.scan ps2flags data = ({ s with lastdata := data }, none) := by
  rcases hd with rfl | rfl
  all_goals simp [Scanner.scan, kSCAcknowledge, kSCResend]

theorem scan_useless (hx : s.extendCount = 2) (hl : s.lastdata = kSCPause) :
    s.scan ps2flags (Key.byte 0x1d on) =
      ({ s with lastdata := Key.byte 0x1d on, extendCount := 1 }, none) := by
  have hr : ∀ on, ¬Key.Reserved (Key.byte 0x1d on) := by decide
  simp only [Key.Reserved, not_or] at hr
  simp [Scanner.scan, hx, hl, hr, kSCReset, kSCPause]

-- The whole of a key event.
theorem struck (ps2flags : Nat → UInt16) (hk : k.Sends on) (hx : s.extendCount = 0)
    (hz : s.lastdata = kSCReset → k.bytes on ≠ [0]) :
    Struck ps2flags s.keyBitVector k.keyCodeRaw on (k.packet on)
      ((scanner ps2flags).state s (k.bytes on)) ((scanner ps2flags).out s (k.bytes on)) := by
  cases k
  case normal c =>
    have h := struck_of_scan ps2flags hk.left hk.right (by simpa [Key.bytes] using hz) (.inl hx)
    rw [hx, (keyCodeRaw_byte c on hk.left).left] at h
    simpa [Key.bytes, Key.packet, Key.keyCodeRaw, scanner] using h
  case extended c =>
    let s' : Scanner := { s with lastdata := kSCExtend, extendCount := 1 }
    have hl : s'.lastdata ≠ kSCReset := by simp [s', kSCExtend, kSCReset]
    have h := struck_of_scan (s := s') ps2flags hk.left hk.right (fun h => hl h.left) (.inr rfl)
    rw [show s'.extendCount = 1 from rfl, (keyCodeRaw_byte c on hk.left).right] at h
    simpa [Key.bytes, Key.packet, Key.keyCodeRaw, scanner, scan_extend] using h
  case pause =>
    let s' : Scanner := { s with lastdata := Key.byte 0x1d on, extendCount := 1 }
    have hc : (0x45 : UInt8) < kSCUpBit := by decide
    have hr : ∀ on, ¬Key.Reserved (Key.byte 0x45 on) := by decide
    have hn : ∀ on, Key.byte 0x45 on ≠ 0 := by decide
    have h := struck_of_scan (s := s') ps2flags hc (hr on) (fun h => hn on h.right) (.inr rfl)
    rw [show s'.extendCount = 1 from rfl, (keyCodeRaw_byte _ on hc).right] at h
    simpa [Key.bytes, Key.packet, Key.keyCodeRaw, scanner, scan_pause, scan_useless] using h

-- What any byte can do: it buffers the packet of a key, or it leaves the bits of the keys alone.
inductive Scanned (ps2flags : Nat → UInt16) (v : KeyBits) (data : UInt8) :
    KeyBits → Option (UInt8 × UInt8) → Prop
  | silent : Scanned ps2flags v data v none
  | reset : Scanned ps2flags v data v (some (0x00, kSCReset))
  | breakless (extended : UInt8) : extended = 0 ∨ extended = 1 →
    Breakless ps2flags (keyCodeRaw extended data) →
    Scanned ps2flags v data v (some (extended + 1, data))
  | down (extended : UInt8) : extended = 0 ∨ extended = 1 →
    ¬Breakless ps2flags (keyCodeRaw extended data) → data &&& kSCUpBit = 0 →
    v.isKeyDown (keyCodeRaw extended data) = false →
    Scanned ps2flags v data (v.keyDown (keyCodeRaw extended data)) (some (extended + 1, data))
  | up (extended : UInt8) : extended = 0 ∨ extended = 1 →
    ¬Breakless ps2flags (keyCodeRaw extended data) → data &&& kSCUpBit ≠ 0 →
    Scanned ps2flags v data (v.keyUp (keyCodeRaw extended data)) (some (extended + 1, data))

theorem le_two {x : UInt8} (h : x ≤ 2) : x = 0 ∨ x = 1 ∨ x = 2 := by
  revert x
  decide +kernel

theorem scanned_of_key (ps2flags : Nat → UInt16) (data : UInt8) (s : Scanner) {extended : UInt8}
    (hx : extended = 0 ∨ extended = 1) :
    (s.key ps2flags extended data).1.extendCount = s.extendCount ∧
    Scanned ps2flags s.keyBitVector data (s.key ps2flags extended data).1.keyBitVector
      (s.key ps2flags extended data).2 := by
  dsimp only [Scanner.key]
  split
  case isTrue hb => exact ⟨rfl, .breakless extended hx hb⟩
  case isFalse hb =>
    split
    case isFalse hu => exact ⟨rfl, .up extended hx hb hu⟩
    case isTrue hu =>
      split
      case isTrue     => exact ⟨rfl, .silent⟩
      case isFalse hk => exact ⟨rfl, .down extended hx hb hu (by simpa using hk)⟩

theorem scanned (ps2flags : Nat → UInt16) (data : UInt8) (hx : s.extendCount ≤ 2) :
    (s.scan ps2flags data).1.extendCount ≤ 2 ∧
    Scanned ps2flags s.keyBitVector data (s.scan ps2flags data).1.keyBitVector
      (s.scan ps2flags data).2 := by
  by_cases hz : s.lastdata = kSCReset ∧ data = 0
  case pos =>
    rw [Scanner.scan, if_pos hz]
    exact ⟨UInt8.zero_le, .reset⟩
  by_cases hr : Key.Reserved data
  case pos =>
    rcases hr with rfl | rfl | hi
    · rw [scan_extend]
      exact ⟨(by decide : (1 : UInt8) ≤ 2), .silent⟩
    · rw [scan_pause]
      exact ⟨UInt8.le_refl 2, .silent⟩
    · rw [scan_ignored s hi]
      exact ⟨hx, .silent⟩
  rcases le_two hx with hx | hx | hx
  case inr.inr =>
    simp only [Key.Reserved, not_or] at hr
    simp [Scanner.scan, hz, hr, hx, Scanned.silent]
  all_goals
    rw [scan_eq_key hr hz (by simp [hx])]
    have ⟨he, h⟩ := scanned_of_key ps2flags data { s with lastdata := data, extendCount := 0 }
      (show s.extendCount = 0 ∨ s.extendCount = 1 by simp [hx])
    exact ⟨he ▸ UInt8.zero_le, h⟩

end Keyboard
