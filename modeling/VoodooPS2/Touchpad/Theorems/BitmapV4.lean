import VoodooPS2.Touchpad.Protocol
import VoodooPS2.Touchpad.Theorems.Wires

namespace Touchpad

open Wiring Wire

-- What the processing of a packet of version 4 does on its way to the event.
inductive AccessV4
  | write (index : Nat) (data : UInt8)
  | alpsProcessBitmap (f : AlpsFields)

-- The processing of a packet, with these accesses noted down.
def tracedPacketV4 (dev : AlpsDevice) (s : Decoder) (p : List UInt8) :
    List AccessV4 × Option (Decoder × List Call) :=
  let s := s.syncV4 p
  if s.multiPacket > 2 then ([], some (s, []))
  else
    let offset := 2 * s.multiPacket
    let writes := [.write offset (p.getD 6 0), .write (offset + 1) (p.getD 7 0)]
    let s := s.collectV4 p
    if s.multiPacket > 2 then
      let f := bitmapV4 (fieldsV4 p) s.multiData
      (writes ++ [.alpsProcessBitmap f], (alpsProcessBitmap dev s.secondTouch f).map fun b =>
        reportV4 ⟨{ s with multiPacket := 0, secondTouch := b.secondTouch }, b.fields, b.fingers⟩)
    else
      (writes, some (reportV4 ⟨s, fieldsV4 p, 0⟩))

def decoderV4 (dev : AlpsDevice) : Mealy (Option Decoder) (List UInt8) Call :=
  .halting (alpsProcessPacketV4 dev) .divideByZero

def IsSyncV4 (p : List UInt8) : Prop :=
  byte p 6 &&& 0x40 ≠ 0
  deriving Decidable

-- What is left of a group when another packet is received: nothing if that is a sync mark, or if the
-- bitmap has been completed.
def kept (group : List (List UInt8)) (p : List UInt8) : List (List UInt8) :=
  if IsSyncV4 p ∨ group.length = 3 then [] else group

-- The packets from the last restart on.
def sinceRestart (ps : List (List UInt8)) : List (List UInt8) :=
  ps.foldl (fun group p => kept group p ++ [p]) []

-- The bytes 6 and 7 of the packets of a group.
def bitmapBytes (group : List (List UInt8)) : List UInt8 :=
  group.flatMap fun p => [p.getD 6 0, p.getD 7 0]

-- Where the bits of the bitmaps are found in these.
def xMapV4 : List Wire :=
  span 1 5 2 ++ span 0 0 6 ++ span 3 5 2 ++ span 2 0 5

def yMapV4 : List Wire :=
  span 1 0 5 ++ span 3 0 5 ++ [(5, 0)]

section Group

variable {group ps : List (List UInt8)} {p : List UInt8}

theorem kept_length (h : group.length ≤ 3) : (kept group p).length ≤ 2 := by
  unfold kept
  split
  case isTrue    => simp
  case isFalse h' =>
    have : group.length ≠ 3 := fun h => h' (.inr h)
    omega

theorem sinceRestart_concat : sinceRestart (ps ++ [p]) = kept (sinceRestart ps) p ++ [p] :=
  List.foldl_concat ..

-- The packets of a group are consecutive, and the last ones.
theorem sinceRestart_suffix : sinceRestart ps <:+ ps := by
  induction ps using List.reverseRecOn
  case nil => exact List.suffix_refl []
  case append_singleton ps p hi =>
    rw [sinceRestart_concat, kept]
    split
    case isTrue  => exact List.suffix_append ps [p]
    case isFalse =>
      have ⟨pre, h⟩ := hi
      exact ⟨pre, by rw [← List.append_assoc, h]⟩

-- None of them is a sync mark, except for the first one.
theorem sinceRestart_tail : ∀ q ∈ (sinceRestart ps).tail, ¬IsSyncV4 q := by
  induction ps using List.reverseRecOn
  case nil => simp [sinceRestart]
  case append_singleton ps p hi =>
    rw [sinceRestart_concat, kept]
    split
    case isTrue    => simp
    case isFalse h =>
      intro q hq
      cases hg : sinceRestart ps
      case nil => simp [hg] at hq
      case cons r rs =>
        rw [hg] at hi hq
        rcases List.mem_append.mp hq with hq | hq
        · exact hi q hq
        · exact List.mem_singleton.mp hq ▸ fun hs => h (.inl hs)

theorem bitmapBytes_concat : bitmapBytes (group ++ [p]) = bitmapBytes group ++ [p.getD 6 0, p.getD 7 0] := by
  simp [bitmapBytes]

theorem bitmapBytes_length : (bitmapBytes group).length = 2 * group.length := by
  induction group
  case nil            => rfl
  case cons p group hi =>
    rw [List.length_cons, Nat.mul_add, ← hi]
    simp [bitmapBytes]

end Group

variable {dev : AlpsDevice} {s : Decoder} {p : List UInt8}

theorem tracedPacketV4_snd : (tracedPacketV4 dev s p).2 = alpsProcessPacketV4 dev s p := by
  unfold tracedPacketV4 alpsProcessPacketV4
  dsimp only
  split
  case isTrue  => rfl
  case isFalse =>
    split
    case isTrue  => rfl
    case isFalse => rfl

-- The buffer starts with the bytes of the packets since the last restart.
structure Collected (group : List (List UInt8)) (s : Decoder) : Prop where
  length : group.length ≤ 3
  count  : s.multiPacket = group.length % 3
  bytes  : ∀ k < 2 * s.multiPacket, s.multiData.bytes.getD k 0 = (bitmapBytes group).getD k 0

variable {group : List (List UInt8)}

-- What the packet finds is what is kept of the group.
structure Kept (group : List (List UInt8)) (s : Decoder) : Prop where
  length : group.length ≤ 2
  count  : s.multiPacket = group.length
  bytes  : ∀ k < 2 * group.length, s.multiData.bytes.getD k 0 = (bitmapBytes group).getD k 0

theorem Collected.sync (h : Collected group s) (p : List UInt8) : Kept (kept group p) (s.syncV4 p) := by
  have hl := @kept_length group p h.length
  by_cases hs : IsSyncV4 p
  case pos =>
    have hk : kept group p = [] := if_pos (.inl hs)
    have hm : s.syncV4 p = { s with multiPacket := 0 } := if_pos hs
    exact ⟨hl, by rw [hk, hm]; rfl, by simp [hk]⟩
  case neg =>
    have hm : s.syncV4 p = s := if_neg hs
    by_cases h₃ : group.length = 3
    case pos =>
      have hk : kept group p = [] := if_pos (.inr h₃)
      have hc := h.count
      exact ⟨hl, by rw [hk, hm, hc, h₃]; rfl, by simp [hk]⟩
    case neg =>
      have hk : kept group p = group := if_neg (by tauto)
      have hc : s.multiPacket = group.length := by
        have := h.count
        have := h.length
        omega
      rw [hk, hm]
      exact ⟨by have := h.length; omega, hc, fun k hlt => h.bytes k (by omega)⟩

-- The packet is added to the buffer.
theorem Kept.collect (h : Kept group s) (p : List UInt8) :
    (s.collectV4 p).multiPacket = (group ++ [p]).length ∧
    ∀ k < 2 * (group ++ [p]).length,
      (s.collectV4 p).multiData.bytes.getD k 0 = (bitmapBytes (group ++ [p])).getD k 0 := by
  have hl := h.length
  have hb := @bitmapBytes_length group
  have h₆ := s.multiData.length_bytes
  constructor
  case left => simp [Decoder.collectV4, h.count]
  case right =>
    intro k hk
    simp only [Decoder.collectV4, MultiData.set, h.count, bitmapBytes_concat]
    simp only [List.length_append, List.length_singleton] at hk
    rcases lt_trichotomy k (2 * group.length) with hlt | heq | hgt
    · rw [List.getD_append _ _ _ _ (hb ▸ hlt), ← h.bytes k hlt]
      simp only [List.getD_eq_getElem?_getD]
      rw [List.getElem?_set_ne (by omega), List.getElem?_set_ne (by omega)]
    · rw [List.getD_append_right _ _ _ _ (by omega), hb, heq]
      simp only [List.getD_eq_getElem?_getD]
      rw [List.getElem?_set_ne (by omega), List.getElem?_set_self (by omega)]
      simp
    · obtain rfl : k = 2 * group.length + 1 := by omega
      rw [List.getD_append_right _ _ _ _ (by omega), hb]
      simp only [List.getD_eq_getElem?_getD]
      rw [List.getElem?_set_self (by simp; omega)]
      simp

-- A buffer that is full.
theorem bytes_eq {m : MultiData} {bytes : List UInt8} (hl : bytes.length = 6)
    (h : ∀ k < 6, m.bytes.getD k 0 = bytes.getD k 0) : m.bytes = bytes := by
  apply List.ext_getElem (m.length_bytes.trans hl.symm)
  intro k hm hb
  have := h k (by omega)
  rwa [List.getD_eq_getElem _ _ hm, List.getD_eq_getElem _ _ hb] at this

theorem bitmapV4_xMap {f : AlpsFields} {m : MultiData} :
    (bitmapV4 f m).xMap.toNat = gather m.bytes xMapV4 := by
  apply toNat_eq_gather [⟨2, 0x1f, 10, 0⟩, ⟨3, 0x60, 3, 0⟩, ⟨0, 0x3f, 2, 0⟩, ⟨1, 0x60, 0, 5⟩]
  · simp (disch := decide) only [bitmapV4, UInt32.toNat_or, toNat_shiftLeft, toNat_shiftRight, Chunk.join,
      Nat.or_zero, Nat.or_assoc]
    rfl
  · decide +kernel

theorem bitmapV4_yMap {f : AlpsFields} {m : MultiData} :
    (bitmapV4 f m).yMap.toNat = gather m.bytes yMapV4 := by
  apply toNat_eq_gather [⟨5, 0x01, 10, 0⟩, ⟨3, 0x1f, 5, 0⟩, ⟨1, 0x1f, 0, 0⟩]
  · simp (disch := decide) only [bitmapV4, UInt32.toNat_or, toNat_shiftLeft, toNat_and, Chunk.join,
      Nat.or_zero, Nat.or_assoc]
    rfl
  · decide +kernel

-- The calls of `alps_process_bitmap`.
def bitmaps (accesses : List AccessV4) : List AlpsFields :=
  accesses.filterMap fun
    | .alpsProcessBitmap f => some f
    | .write ..            => none

-- A packet is assembled with those before it, in the state that these have left.
structure Assembled (dev : AlpsDevice) (s : Decoder) (ps : List (List UInt8)) (p : List UInt8) : Prop where
  entry  : s.multiPacket ≤ 2
  writes : ∀ k data, .write k data ∈ (tracedPacketV4 dev s p).1 → k < 6
  -- a bitmap is processed if this is the third packet since the last restart
  called : (bitmaps (tracedPacketV4 dev s p).1).length = if (sinceRestart (ps ++ [p])).length = 3 then 1 else 0
  fields : ∀ f ∈ bitmaps (tracedPacketV4 dev s p).1,
    f.xMap.toNat = gather (bitmapBytes (sinceRestart (ps ++ [p]))) xMapV4 ∧
    f.yMap.toNat = gather (bitmapBytes (sinceRestart (ps ++ [p]))) yMapV4
  -- these are consecutive packets, without a sync mark between them
  recent : sinceRestart (ps ++ [p]) <:+ ps ++ [p]
  synced : ∀ q ∈ (sinceRestart (ps ++ [p])).tail, ¬IsSyncV4 q

theorem Kept.traced (h : Kept group (s.syncV4 p)) : ∃ offset ≤ 4,
    (tracedPacketV4 dev s p).1 = [.write offset (p.getD 6 0), .write (offset + 1) (p.getD 7 0)] ++
      if group.length = 2 then
        [.alpsProcessBitmap (bitmapV4 (fieldsV4 p) ((s.syncV4 p).collectV4 p).multiData)]
      else [] := by
  have hl := h.length
  have hc := h.count
  refine ⟨2 * (s.syncV4 p).multiPacket, by omega, ?_⟩
  have hn : ¬(s.syncV4 p).multiPacket > 2 := by omega
  simp only [tracedPacketV4, if_neg hn, (h.collect p).left, List.length_append, List.length_singleton]
  by_cases h₂ : group.length = 2
  case pos => simp [h₂]
  case neg => rw [if_neg (by omega), if_neg h₂, List.append_nil]

theorem Collected.assembled {ps : List (List UInt8)} (h : Collected (sinceRestart ps) s) :
    Assembled dev s ps p := by
  have hk := h.sync p
  have hc := h.count
  have ⟨offset, ho, ht⟩ := @Kept.traced dev s p _ hk
  refine ⟨by omega, ?writes, ?called, ?fields, sinceRestart_suffix, sinceRestart_tail⟩
  case writes =>
    intro k data hm
    rw [ht] at hm
    rcases List.mem_append.mp hm with hm | hm
    · simp only [List.mem_cons, AccessV4.write.injEq, List.not_mem_nil, or_false] at hm
      omega
    · split at hm <;> simp at hm
  case called =>
    rw [ht, sinceRestart_concat, List.length_append, List.length_singleton]
    by_cases h₂ : (kept (sinceRestart ps) p).length = 2 <;> simp [h₂, bitmaps]
  case fields =>
    intro f hf
    rw [ht] at hf
    by_cases h₂ : (kept (sinceRestart ps) p).length = 2
    case neg => simp [h₂, bitmaps] at hf
    case pos =>
      have hl : (kept (sinceRestart ps) p ++ [p]).length = 3 := by simp [h₂]
      have hb := bytes_eq (bitmapBytes_length.trans (by rw [hl])) fun k hlt =>
        (hk.collect p).right k (by rw [hl]; exact hlt)
      simp only [h₂, if_true, bitmaps, List.cons_append, List.nil_append, List.filterMap_cons,
        List.filterMap_nil, List.mem_singleton] at hf
      rw [hf, sinceRestart_concat, ← hb]
      exact ⟨bitmapV4_xMap, bitmapV4_yMap⟩

theorem Collected.step (h : Collected group s) {r : Decoder × List Call}
    (hr : alpsProcessPacketV4 dev s p = some r) : Collected (kept group p ++ [p]) r.1 := by
  have hk := h.sync p
  have hl := hk.length
  have hc := hk.count
  have ⟨hm, hb⟩ := hk.collect p
  have hn : ¬(s.syncV4 p).multiPacket > 2 := by omega
  have hg : (kept group p ++ [p]).length = (kept group p).length + 1 := List.length_append
  simp only [alpsProcessPacketV4, if_neg hn, hm] at hr
  split at hr
  case isTrue h₃ =>
    have ⟨b, _, hr⟩ := Option.map_eq_some_iff.mp hr
    rw [← hr]
    exact ⟨by omega, (by omega : 0 = _), fun k hk => absurd hk (Nat.not_lt_zero k)⟩
  case isFalse h₃ =>
    rw [← Option.some.inj hr]
    exact ⟨by omega, hm.trans (by omega), fun k hlt => hb k (hm ▸ hlt)⟩

-- The bitmaps are assembled from the packets since the last restart, however many there have been.
theorem decoderV4_assembled (dev : AlpsDevice) (s : Decoder) (ps : List (List UInt8)) (p : List UInt8)
    (hs : s.multiPacket = 0) : ∀ t ∈ (decoderV4 dev).state (some s) ps, Assembled dev t ps p := by
  have hc : ∀ t ∈ (decoderV4 dev).state (some s) ps, Collected (sinceRestart ps) t := by
    induction ps using List.reverseRecOn
    case nil =>
      intro t ht
      obtain rfl := Option.some.inj ht
      exact ⟨Nat.zero_le 3, hs, by simp [hs]⟩
    case append_singleton ps p hi =>
      intro t ht
      rw [Mealy.state_append] at ht
      cases hu : (decoderV4 dev).state (some s) ps
      case none =>
        rw [hu, decoderV4, Mealy.halting_state_none] at ht
        simp at ht
      case some u =>
        cases hr : alpsProcessPacketV4 dev u p
        case none =>
          rw [hu, Mealy.state_cons, decoderV4, Mealy.halting_step_none hr] at ht
          simp at ht
        case some r =>
          rw [hu, Mealy.state_cons, decoderV4, Mealy.halting_step_some hr] at ht
          rw [sinceRestart_concat, ← Option.some.inj ht]
          exact (hi u hu).step hr
  exact fun t ht => (hc t ht).assembled

-- The third of three packets, after one that has been dropped at a sync mark.
theorem decoderV4_assembled_third : ∃ s ∈ (decoderV4 (setProtocol .v4 0 false 0)).state (some {})
      [[0x8f, 0, 0, 0, 0, 0, 0x01, 0x02], [0x8f, 0, 0, 0, 0, 0, 0x45, 0x20], [0x8f, 0, 0, 0, 0, 0, 0x10, 0x03]],
    Assembled (setProtocol .v4 0 false 0) s
      [[0x8f, 0, 0, 0, 0, 0, 0x01, 0x02], [0x8f, 0, 0, 0, 0, 0, 0x45, 0x20], [0x8f, 0, 0, 0, 0, 0, 0x10, 0x03]]
      [0x8f, 0, 0, 0, 0, 0, 0x00, 0x01] :=
  ⟨_, rfl, decoderV4_assembled _ {} _ _ rfl _ rfl⟩

end Touchpad
