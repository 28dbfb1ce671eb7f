import VoodooPS2.Keyboard.Parse
import VoodooPS2.Keyboard.Theorems.Dispatch
import VoodooPS2.Keyboard.Theorems.Driver
import VoodooPS2.Keyboard.Theorems.Sound
import VoodooPS2.Machine.Fifo

namespace Keyboard

open Lag

-- The keys that have a bit of `_PS2modifierState`.
abbrev modifierKeys : List Nat :=
  [0x1d, 0x2a, 0x36, 0x38, 0x11d, 0x138, 0x15b, 0x15c, 0x15d, 0x163]

-- The key at index `n` has bit `i`, which the high byte of its flags counts from one.
def Owns (n i : Nat) : Prop :=
  (ps2flagsStock n >>> 8).toNat = i + 1

instance (n i : Nat) : Decidable (Owns n i) :=
  inferInstanceAs (Decidable (_ = _))

section Owns

variable {n m i : Nat}

theorem mem_modifierKeys (h : ps2flagsStock n >>> 8 ≠ 0) : n ∈ modifierKeys := by
  unfold ps2flagsStock at h
  split at h
  case h_11 => exact absurd rfl h
  all_goals decide

theorem Owns.mem (h : Owns n i) : n ∈ modifierKeys :=
  mem_modifierKeys fun hz => by simp [Owns, hz] at h

theorem Owns.lt (h : Owns n i) : i < 16 := by
  have hk : ∀ n ∈ modifierKeys, (ps2flagsStock n >>> 8).toNat ≤ 16 := by decide
  have := hk n h.mem
  rw [Owns] at h
  omega

-- No two keys have the same bit.
theorem Owns.unique (h : Owns n i) (h' : Owns m i) : n = m := by
  have hk : ∀ n ∈ modifierKeys, ∀ m ∈ modifierKeys, ps2flagsStock n >>> 8 = ps2flagsStock m >>> 8 → n = m := by
    decide
  exact hk n h.mem m h'.mem (UInt16.toNat_inj.mp (Eq.trans h h'.symm))

end Owns

-- The flags differ from those of the stock table in the low byte only.
def SameOwners (ps2flags : Nat → UInt16) : Prop :=
  ∀ n, ps2flags n >>> 8 = ps2flagsStock n >>> 8

theorem or_breakless_shiftRight (x : UInt16) : (x ||| kBreaklessKey) >>> 8 = x >>> 8 := by
  have h : kBreaklessKey >>> 8 = 0 := by decide
  rw [UInt16.shiftRight_or, h, UInt16.or_zero]

theorem breaklessPS2Entry_sameOwners {ps2flags : Nat → UInt16} {psz : CString} (h : SameOwners ps2flags) :
    SameOwners (breaklessPS2Entry ps2flags psz) := by
  unfold breaklessPS2Entry
  split
  case h_1 => exact h
  case h_2 =>
    dsimp only
    split
    case isTrue  => exact h
    case isFalse =>
      intro n
      rw [Function.update_apply]
      split
      case isTrue hn => rw [or_breakless_shiftRight, hn, h]
      case isFalse   => exact h n

theorem loadBreaklessPS2_sameOwners (entries : List (Option CString)) :
    SameOwners (loadBreaklessPS2 entries ps2flagsStock) :=
  loadEntries_induct (P := SameOwners) (fun _ _ => breaklessPS2Entry_sameOwners) (fun _ => rfl) entries

-- Bit `i` of `_PS2modifierState`.
def Dispatcher.bit (d : Dispatcher) (i : Nat) : Bool :=
  d.ps2modifierState.toBitVec.getLsbD i

-- What an event of a key does to the bits.
def press (bits : Nat → Bool) (e : SwitchEvent Nat) : Nat → Bool :=
  fun i => if Owns e.switch i then e.on else bits i

section Dispatch

variable {cfg : Config} {d : Dispatcher} {e : SwitchEvent Nat} {v : KeyBits} {n keyCode i : Nat}
variable {adbKeyCode : UInt8} {on eatKey : Bool} {packet : List UInt8}

theorem getLsbD_mask {k : Nat} (hk : k < 16) :
    (UInt16.ofNat (1 <<< k)).toBitVec.getLsbD i = decide (k = i) := by
  have h : (UInt16.ofNat (1 <<< k)).toBitVec = BitVec.twoPow 16 k := by
    apply BitVec.eq_of_toNat_eq
    simp [BitVec.toNat_twoPow, Nat.shiftLeft_eq]
  rw [h, BitVec.getLsbD_twoPow]
  simp [hk]

theorem trackModifier_bit (hf : SameOwners cfg.ps2flags) :
    (d.trackModifier cfg e.switch e.on).bit = press d.bit e := by
  funext i
  simp only [Dispatcher.trackModifier, hf e.switch, press, Owns]
  split
  case isFalse h =>
    have h : (ps2flagsStock e.switch >>> 8).toNat = 0 := not_not.mp h
    simp [h]
  case isTrue h =>
    obtain ⟨k, hk⟩ := Nat.exists_eq_succ_of_ne_zero h
    have hlt : k < 16 := Owns.lt hk
    simp only [hk, Nat.succ_sub_one, Nat.succ_inj, Dispatcher.bit]
    by_cases hki : k = i
    case pos =>
      subst hki
      cases e.on
      all_goals simp [getLsbD_mask hlt]
    case neg =>
      have hi : d.ps2modifierState.toBitVec.getLsbD i = true → i < 16 := BitVec.lt_of_getLsbD
      cases e.on
      case false => simpa [getLsbD_mask hlt, hki] using hi
      case true  => simp [getLsbD_mask hlt, hki]

theorem switchADBKeyCode_state :
    (switchADBKeyCode cfg d adbKeyCode on).1.ps2modifierState = d.ps2modifierState := by
  simp only [switchADBKeyCode]
  split_ifs
  all_goals rfl

theorem sendKey_state :
    (sendKey cfg d n keyCode adbKeyCode on eatKey).1.ps2modifierState = d.ps2modifierState := by
  simp only [sendKey]
  split_ifs
  all_goals rfl

theorem dispatchKey_state : (dispatchKey cfg v d n on).1.ps2modifierState =
    (d.trackModifier cfg n on).ps2modifierState := by
  simp only [dispatchKey, sendKey_state, switchADBKeyCode_state, (switchKeyCode_spec ..).state]

theorem dispatchKey_bit (hf : SameOwners cfg.ps2flags) :
    (dispatchKey cfg v d e.switch e.on).1.bit = press d.bit e := by
  rw [← trackModifier_bit hf]
  funext i
  rw [Dispatcher.bit, dispatchKey_state, Dispatcher.bit]

-- The keys that are left out when the modifiers are tracked have no bit.
theorem press_of_not_owner (h : ∀ i, ¬Owns e.switch i) (bits : Nat → Bool) : press bits e = bits :=
  funext fun i => if_neg (h i)

theorem dispatch_bit (hf : SameOwners cfg.ps2flags) :
    (dispatchKeyboardEventWithPacket cfg v d packet).1.bit = press d.bit (packetKey packet) := by
  have hn {n : Nat} (hm : n ∉ modifierKeys) (i : Nat) : ¬Owns n i := fun h => hm h.mem
  simp only [dispatchKeyboardEventWithPacket]
  split
  case isTrue hl =>
    refine (press_of_not_owner (hn ?_) _).symm
    rcases (packetKey_lang.mpr hl).right with h | h
    all_goals
      rw [h]
      decide
  case isFalse =>
    split
    case isFalse   => exact dispatchKey_bit hf
    case isTrue hp => exact (press_of_not_owner (hn (hp.right ▸ by decide)) _).symm

end Dispatch

-- Each bit is set if and only if its key is down.
def BitsAgree (bits : Nat → Bool) (v : KeyBits) : Prop :=
  ∀ i, bits i = true ↔ ∃ n, Owns n i ∧ v.isKeyDown n = true

section Agree

variable {bits : Nat → Bool} {v v' : KeyBits} {e : SwitchEvent Nat}

theorem BitsAgree.zero : BitsAgree (fun _ => false) fun _ => 0 := by
  intro i
  simp only [KeyBits.isKeyDown_zero, Bool.false_eq_true, and_false, exists_false]

theorem BitsAgree.press (h : BitsAgree bits v)
    (hv : ∀ m, v'.isKeyDown m = if e.switch = m then e.on else v.isKeyDown m) :
    BitsAgree (press bits e) v' := by
  intro i
  unfold Keyboard.press
  split
  case isTrue hi =>
    constructor
    case mp => exact fun ho => ⟨e.switch, hi, by rw [hv, if_pos rfl, ho]⟩
    case mpr =>
      rintro ⟨n, hn, hd⟩
      rwa [hv, if_pos (hi.unique hn)] at hd
  case isFalse hi =>
    rw [h i]
    refine exists_congr fun n => and_congr_right fun hn => ?_
    have hne : e.switch ≠ n := fun he => hi (he ▸ hn)
    rw [hv, if_neg hne]

-- A key without a bit does not matter.
theorem BitsAgree.press_other (h : BitsAgree bits v) (he : ∀ i, ¬Owns e.switch i) :
    BitsAgree (Keyboard.press bits e) v := by
  rwa [press_of_not_owner he]

end Agree

-- The events of the packets that wait in the ring buffer.
def keyEvents (ps : List Packet) : List (SwitchEvent Nat) :=
  ps.filterMap fun p => packetKey? p.keyData

-- The bits of the modifiers are behind those of the keys by the packets that wait.
structure InStep (s : Driver) (ps : List Packet) : Prop where
  extendCount  : s.receiver.scanner.extendCount ≤ 2
  pending      : s.receiver.Pending ps
  macroCurrent : s.inverter.macroCurrent = 0
  lags         : Lags press BitsAgree s.inverter.dispatcher.bit (keyEvents ps) s.receiver.scanner.keyBitVector

-- A packet that arrives for a key finds less than 31 packets waiting.
def Driver.KeysFit (cfg : Config) (s : Driver) : SessionAct → Prop
  | .act (.byte _ data) => ∀ packet ∈ (s.receiver.scanner.scan cfg.ps2flags data).2,
    packet.1 ≠ 0 → s.receiver.ringBuffer.count < kPacketLength * 31
  | _                   => True

instance (cfg : Config) (s : Driver) : (a : SessionAct) → Decidable (s.KeysFit cfg a)
  | .act (.byte _ _)      => Option.decidableForallMem _
  | .act .packet          => .isTrue trivial
  | .act (.macroTimer _)  => .isTrue trivial
  | .act .sleepEjectTimer => .isTrue trivial
  | .initKeyboard _       => .isTrue trivial

section Step

variable {cfg : Config} {c : Inversion} {s : Driver} {ps : List Packet} {p : Packet} {data : UInt8}
variable {now : UInt64} {v v' : KeyBits} {packet : UInt8 × UInt8} {bits : Nat → Bool}
variable {events : List (SwitchEvent Nat)}

theorem keyEvents_concat : keyEvents (ps ++ [p]) = keyEvents ps ++ (packetKey? p.keyData).toList := by
  rw [keyEvents, List.filterMap_append]
  cases h : packetKey? p.keyData
  all_goals simp [keyEvents, h]

-- All bits are cleared together.
theorem lags_cleared {d : Dispatcher} (h : d.ps2modifierState = 0) :
    Lags press BitsAgree d.bit (keyEvents []) fun _ => 0 := by
  have hb : d.bit = fun _ => false := by
    funext i
    simp [Dispatcher.bit, h]
  exact lags_nil.mpr (hb ▸ BitsAgree.zero)

theorem packetKey?_keyData {x : UInt8} (hx : x = 0 ∨ x = 1) :
    packetKey? (⟨x + 1, data, now⟩ : Packet).keyData =
      some ⟨keyCodeRaw x data, decide (data &&& kSCUpBit = 0)⟩ :=
  packetKey?_of_key hx rfl rfl

theorem keyEvents_cons : keyEvents (p :: ps) = (packetKey? p.keyData).toList ++ keyEvents ps := by
  cases h : packetKey? p.keyData
  all_goals simp [keyEvents, h]

-- What is buffered for a byte says what happens to the bits of the keys.
theorem Scanned.lags (h : Scanned cfg.ps2flags v data v' (some packet)) (now : UInt64)
    (hb : ∀ n ∈ modifierKeys, ¬Breakless cfg.ps2flags n) (hl : Lags press BitsAgree bits events v) :
    Lags press BitsAgree bits (events ++ (packetKey? (⟨packet.1, packet.2, now⟩ : Packet).keyData).toList) v' := by
  cases h
  case reset => simpa [packetKey?, Packet.keyData] using hl
  case breakless x hx hbr =>
    rw [packetKey?_keyData hx]
    exact hl.push fun _ h => h.press_other fun _ ho => hb _ ho.mem hbr
  case down x hx _ hd _ =>
    rw [packetKey?_keyData hx]
    refine hl.push fun _ h => h.press fun m => ?_
    by_cases hm : keyCodeRaw x data = m
    all_goals simp [hm, hd]
  case up x hx _ hd =>
    rw [packetKey?_keyData hx]
    refine hl.push fun _ h => h.press fun m => ?_
    by_cases hm : keyCodeRaw x data = m
    all_goals simp [hm, hd]

-- A packet is handled by itself where no macros are to be found.
theorem Inverter.handle_bit {i : Inverter} (hf : SameOwners cfg.ps2flags) (hm : c.macroInversion = none) :
    ∃ r, i.handle cfg c v p = some r ∧ r.1.macroCurrent = i.macroCurrent ∧
      r.1.dispatcher.bit = (packetKey? p.keyData).toList.foldl press i.dispatcher.bit := by
  unfold Inverter.handle Inverter.invert packetKey?
  by_cases hz : p.byte₀ = 0
  case pos => exact ⟨_, if_neg (not_not.mpr hz), rfl, by simp [Packet.keyData, hz]⟩
  case neg =>
    refine ⟨i.dispatchPacket cfg v p, by simp [hz, hm], rfl, ?_⟩
    have hd : (i.dispatchPacket cfg v p).1.dispatcher.bit = press i.dispatcher.bit (packetKey p.keyData) :=
      dispatch_bit hf
    simpa [Packet.keyData, hz] using hd

namespace InStep

theorem init (cells : Nat → UInt8) (macroBuffer : Nat → Packet) : InStep (.init cells macroBuffer) [] where
  extendCount  := UInt8.zero_le
  pending      := ⟨[], .reset (r := { buffer := cells, head := 0, tail := 0 }) (by decide) (by decide) (by decide),
    rfl⟩
  macroCurrent := rfl
  lags         := lags_cleared rfl

theorem initKeyboard (h : InStep s ps) (time : UInt64) : InStep (s.initKeyboard cfg time).1 [] where
  extendCount  := UInt8.zero_le
  pending      := ⟨[], .reset (by decide) (by decide) (by decide), rfl⟩
  macroCurrent := h.macroCurrent
  lags         := lags_cleared rfl

theorem byte (h : InStep s ps) (hb : ∀ n ∈ modifierKeys, ¬Breakless cfg.ps2flags n)
    (hf : s.KeysFit cfg (.act (.byte now data))) :
    ∃ ps', InStep { s with receiver := interruptOccurredAt cfg.ps2flags s.receiver now data } ps' := by
  have ⟨hx, hs⟩ := scanned cfg.ps2flags data h.extendCount
  simp only [Driver.KeysFit] at hf
  cases ho : (s.receiver.scanner.scan cfg.ps2flags data).2
  case none =>
    rw [ho] at hs
    rw [interruptOccurredAt_of_none ho]
    exact ⟨ps, hx, h.pending, h.macroCurrent, by simpa only [hs.eq_of_none] using h.lags⟩
  case some packet =>
    rw [ho] at hs hf
    rw [interruptOccurredAt_of_some ho]
    have hl := hs.lags now hb h.lags
    let r : Receiver := { s.receiver with scanner := (s.receiver.scanner.scan cfg.ps2flags data).1 }
    have hp : (r.bufferAt now packet).Pending _ := Receiver.Pending.bufferAt h.pending
    refine ⟨_, hx, hp, h.macroCurrent, ?_⟩
    split
    case isTrue => exact keyEvents_concat ▸ hl
    case isFalse hfull =>
      -- only the packet for a reset is lost
      have hz : packet.1 = 0 := by
        by_contra hn
        have := hf packet rfl hn
        rw [h.pending.count] at this
        omega
      simpa [packetKey?, Packet.keyData, hz] using hl

theorem pass (h : InStep s (p :: ps)) (hf : SameOwners cfg.ps2flags) (hm : c.macroInversion = none) :
    ∃ r, s.pass cfg c = some r ∧ InStep r.1 ps := by
  have ⟨ht, hp⟩ := h.pending.tailPacket
  obtain ⟨r, hr, hc, hd⟩ := @Inverter.handle_bit cfg c p s.receiver.scanner.keyBitVector s.inverter hf hm
  let ringBuffer := s.receiver.ringBuffer.advanceTail kPacketLength
  have hs : s.pass cfg c = some (⟨{ s.receiver with ringBuffer := ringBuffer }, r.1⟩, r.2) := by
    simp only [Driver.pass, ht, hr]
    rfl
  have hl := h.lags
  rw [keyEvents_cons, lags_append, ← hd] at hl
  exact ⟨_, hs, h.extendCount, hp, hc.trans h.macroCurrent, hl⟩

theorem act {a : DriverAct} (h : InStep s ps) (hf : SameOwners cfg.ps2flags) (hm : c.macroInversion = none)
    (hb : ∀ n ∈ modifierKeys, ¬Breakless cfg.ps2flags n) (hk : s.KeysFit cfg (.act a)) :
    ∃ r ps', s.step cfg c a = some r ∧ InStep r.1 ps' := by
  cases a
  case byte now data =>
    have ⟨ps', h'⟩ := h.byte hb hk
    exact ⟨_, ps', rfl, h'⟩
  case macroTimer now =>
    have he : s.inverter.dispatchExpired cfg c s.receiver.scanner.keyBitVector now = (s.inverter, []) :=
      if_neg fun hn => hn.left.ne' h.macroCurrent
    exact ⟨_, ps, rfl, he ▸ h⟩
  case sleepEjectTimer =>
    refine ⟨_, ps, rfl, ?_⟩
    unfold Driver.onSleepEjectTimer
    dsimp only
    split
    case isTrue  => exact ⟨h.extendCount, h.pending, h.macroCurrent, h.lags⟩
    case isFalse => exact h
  case packet =>
    cases ps
    case nil =>
      have hc : ¬s.receiver.ringBuffer.count ≥ kPacketLength := fun hc =>
        h.pending.size_le_count_iff.mp hc rfl
      exact ⟨(s, []), [], if_neg hc, h⟩
    case cons p ps =>
      have hc : s.receiver.ringBuffer.count ≥ kPacketLength :=
        h.pending.size_le_count_iff.mpr (List.cons_ne_nil p ps)
      have ⟨r, hr, h'⟩ := h.pass hf hm
      exact ⟨r, ps, (if_pos hc).trans hr, h'⟩

-- A step of a session, which cannot halt it.
theorem sessionStep {a : SessionAct} (h : InStep s ps) (hf : SameOwners cfg.ps2flags)
    (hm : c.macroInversion = none) (hb : ∀ n ∈ modifierKeys, ¬Breakless cfg.ps2flags n)
    (hk : s.KeysFit cfg a) : ∃ r ps', s.sessionStep cfg c a = some r ∧ InStep r.1 ps' := by
  cases a
  case act a             => exact h.act hf hm hb hk
  case initKeyboard time => exact ⟨_, [], rfl, h.initKeyboard time⟩

end InStep

theorem session_invariant (hf : SameOwners cfg.ps2flags) (hm : c.macroInversion = none)
    (hb : ∀ n ∈ modifierKeys, ¬Breakless cfg.ps2flags n) :
    (session cfg c).Invariant (fun s a => ∀ s' ∈ s, s'.KeysFit cfg a)
      fun s => ∃ s' ps, s = some s' ∧ InStep s' ps where
  step := by
    rintro _ a ⟨s, ps, rfl, h⟩ hk
    have ⟨r, ps', hr, h'⟩ := h.sessionStep hf hm hb (hk s rfl)
    exact ⟨r.1, ps', congrArg Prod.fst (Mealy.halting_step_some hr), h'⟩

end Step

-- The two records of the modifiers say the same.
structure ModifiersAgree (ps2modifierState : UInt16) (v : KeyBits) : Prop where
  keys   : ∀ n ∈ modifierKeys, ∀ i, Owns n i → (ps2modifierState.toBitVec.getLsbD i = true ↔ v.isKeyDown n = true)
  others : ∀ i, (∀ n ∈ modifierKeys, ¬Owns n i) → ps2modifierState.toBitVec.getLsbD i = false

theorem BitsAgree.modifiersAgree {d : Dispatcher} {v : KeyBits} (h : BitsAgree d.bit v) :
    ModifiersAgree d.ps2modifierState v where
  keys n _ i hi := by
    refine (h i).trans ⟨?_, fun hd => ⟨n, hi, hd⟩⟩
    rintro ⟨m, hm, hd⟩
    exact hm.unique hi ▸ hd
  others i hi := by
    by_contra hn
    have ⟨n, hn, _⟩ := (h i).mp (Bool.eq_true_of_not_eq_false hn)
    exact hi n hn.mem hn

-- Whenever no packet waits, the state of the modifiers is what the bits of their keys say it is.
theorem session_modifiersAgree (cfg : Config) (c : Inversion) (entries : List (Option CString))
    (cells : Nat → UInt8) (macroBuffer : Nat → Packet) (acts : List SessionAct)
    (hf : cfg.ps2flags = loadBreaklessPS2 entries ps2flagsStock) (hm : c.macroInversion = none)
    (hb : ∀ n ∈ modifierKeys, ¬Breakless cfg.ps2flags n)
    (hk : (session cfg c).Along (fun s a => ∀ s' ∈ s, s'.KeysFit cfg a) (some (.init cells macroBuffer)) acts) :
    ∃ s, (session cfg c).state (some (.init cells macroBuffer)) acts = some s ∧
      (s.receiver.ringBuffer.count = 0 →
        ModifiersAgree s.inverter.dispatcher.ps2modifierState s.receiver.scanner.keyBitVector) := by
  have hf : SameOwners cfg.ps2flags := hf ▸ loadBreaklessPS2_sameOwners entries
  have ⟨s, ps, hs, h⟩ := (session_invariant hf hm hb).run hk ⟨_, [], rfl, .init cells macroBuffer⟩
  refine ⟨s, hs, fun hc => BitsAgree.modifiersAgree ?_⟩
  have hps : ps = [] := by
    rw [h.pending.count] at hc
    simpa using hc
  exact lags_nil.mp (hps ▸ h.lags)

-- The left shift key is pressed and released again, while the right control key is held down.
theorem session_modifiersAgree_rightControl :
    let acts : List SessionAct := [.act (.byte 0 0x2a), .act (.byte 1 0xe0), .act (.byte 2 0x1d), .act .packet,
      .act (.byte 3 0xaa), .act .packet, .act .packet]
    ∃ s, (session {} {}).state (some (.init (fun _ => 0) fun _ => ⟨0, 0, 0⟩)) acts = some s ∧
      (s.receiver.ringBuffer.count = 0 →
        ModifiersAgree s.inverter.dispatcher.ps2modifierState s.receiver.scanner.keyBitVector) :=
  session_modifiersAgree {} {} [] _ _ _ rfl rfl (by decide) (by decide +kernel)

end Keyboard
