import VoodooPS2.Machine.Pairing
import VoodooPS2.Touchpad.Protocol
import VoodooPS2.Touchpad.Theorems.Fields

namespace Touchpad

-- The routines that pair packets.
inductive PairingRoutine
  | touchpadV3V5 (d : DecodeFields)
  | ss4V2

namespace PairingRoutine

variable (dev : AlpsDevice)

def decode (f : AlpsFields) (p : List UInt8) : PairingRoutine → AlpsFields
  | touchpadV3V5 d => decodeFields dev p d f
  | ss4V2          => alpsDecodeSS4V2 f p dev.flags

def process (s : Decoder) (p : List UInt8) : PairingRoutine → Option (Decoder × List Call)
  | touchpadV3V5 d => alpsProcessTouchpadPacketV3V5 dev s p d
  | ss4V2          => some (alpsProcessPacketSS4V2 dev s p)

def decoder (r : PairingRoutine) : Mealy (Option Decoder) (List UInt8) Call :=
  .halting (fun s p => r.process dev s p) .divideByZero

end PairingRoutine

section Protocol

variable (dev : AlpsDevice) (quirks : UInt8)

-- A count of less than two fingers is replaced by what the pressure says.
def eventV3V5 (f : AlpsFields) (fingers : Int) : EventInfo where
  x       := toInt f.st.x
  y       := reverseY dev f.st.y
  z       := f.pressure
  fingers := if fingers < 2 then if f.pressure > 0 then 1 else 0 else fingers
  buttons := buttonsV3V5 dev quirks f

def eventSS4V2 (f : AlpsFields) (fingers : UInt32) : EventInfo where
  x       := toInt f.mt₀.x
  y       := reverseY dev f.mt₀.y
  z       := f.pressure
  fingers := toInt fingers
  buttons := f.buttons

namespace PairingRoutine

def part (p : List UInt8) (r : PairingRoutine) : PairPart :=
  let f := r.decode dev {} p
  if f.isMp then .second else if f.firstMp then .first else .whole

def single (p : List UInt8) (r : PairingRoutine) : List EventInfo :=
  let f := r.decode dev {} p
  match r with
  | touchpadV3V5 _ => [eventV3V5 dev quirks f 0]
  | ss4V2          => if alpsGetPktIDSS4V2 p = .stick then [] else [eventSS4V2 dev f f.fingers]

-- Only the number of fingers is taken from the second packet.
def pair (p m : List UInt8) (r : PairingRoutine) : List EventInfo :=
  let f := r.decode dev {} p
  let g := r.decode dev {} m
  match r with
  | touchpadV3V5 _ => [eventV3V5 dev quirks f (if g.HasBitmaps then toInt g.fingers else 0)]
  | ss4V2          => [eventSS4V2 dev f g.fingers]

def Fails (m : List UInt8) (r : PairingRoutine) : Prop :=
  match r with
  | touchpadV3V5 _ => (r.decode dev {} m).HasBitmaps ∧ dev.SingleElectrode
  | ss4V2          => False

instance {m : List UInt8} : (r : PairingRoutine) → Decidable (r.Fails dev m)
  | touchpadV3V5 _ => inferInstanceAs (Decidable (_ ∧ _))
  | ss4V2          => inferInstanceAs (Decidable False)

-- The protocol that the routines are meant to implement.
def protocol (r : PairingRoutine) : Pairing (List UInt8) EventInfo where
  part p    := r.part dev p
  single p  := r.single dev quirks p
  pair p m  := r.pair dev quirks p m
  Fails _ m := r.Fails dev m

instance {r : PairingRoutine} (p m : List UInt8) :
    Decidable ((r.protocol dev quirks).Fails p m) :=
  inferInstanceAs (Decidable (r.Fails dev m))

end PairingRoutine

end Protocol

section V3V5

variable {dev : AlpsDevice} {s : Decoder} {p m : List UInt8} {d : DecodeFields}

theorem Decoder.eq_of_idle (h : s.multiPacket = 0) : { s with multiPacket := 0 } = s := by
  cases s
  cases h
  rfl

theorem touchesV3V5_of_idle (h : s.multiPacket = 0) :
    touchesV3V5 dev s p d = some ⟨s, decodeFields dev p d {}, 0⟩ := by
  simp [touchesV3V5, h]

theorem touchesV3V5_of_position (h : (decodeFields dev p d {}).isMp = false) :
    touchesV3V5 dev s p d = some ⟨{ s with multiPacket := 0 }, decodeFields dev p d {}, 0⟩ := by
  by_cases hs : s.multiPacket = 0
  case pos => rw [touchesV3V5_of_idle hs, Decoder.eq_of_idle hs]
  case neg => simp [touchesV3V5, hs, h]

theorem part_eq_whole {r : PairingRoutine} :
    r.part dev p = .whole ↔ (r.decode dev {} p).isMp = false ∧ (r.decode dev {} p).firstMp = false := by
  simp only [PairingRoutine.part]
  split <;> simp_all

theorem part_eq_first {r : PairingRoutine} :
    r.part dev p = .first ↔ (r.decode dev {} p).isMp = false ∧ (r.decode dev {} p).firstMp = true := by
  simp only [PairingRoutine.part]
  split <;> simp_all

theorem part_eq_second {r : PairingRoutine} :
    r.part dev p = .second ↔ (r.decode dev {} p).isMp = true := by
  simp only [PairingRoutine.part]
  split
  case isTrue  => simp_all
  case isFalse => split <;> simp_all

@[simp]
theorem eventV3V5_over {q : UInt8} {f g : AlpsFields} {n : Int} :
    eventV3V5 dev q (f.over g) n = eventV3V5 dev q f n :=
  rfl

@[simp]
theorem eventV3V5_touches {q : UInt8} {f : AlpsFields} {n : Int} {mt₀ mt₁ : InputMtPos} :
    eventV3V5 dev q { f with mt₀ := mt₀, mt₁ := mt₁ } n = eventV3V5 dev q f n :=
  rfl

-- The coordinates of the first touch are reported in any case.
theorem reportV3V5_eq {t : Touches} (h : 2 ≤ t.fingers → t.fields.mt₀ = t.fields.st) :
    ∃ s', reportV3V5 dev t =
        (s', [.dispatchEventsWithInfo (eventV3V5 dev t.decoder.quirks t.fields t.fingers)]) ∧
      s'.multiPacket = 0 ∧ s'.quirks = t.decoder.quirks := by
  simp only [reportV3V5, Decoder.dispatch]
  split
  case isTrue hf =>
    simp only [eventV3V5, hf, if_true]
    exact ⟨_, rfl, rfl, rfl⟩
  case isFalse hf =>
    simp only [eventV3V5, hf, if_false, h (by omega)]
    exact ⟨_, rfl, rfl, rfl⟩

theorem processV3V5_of_whole (h : (PairingRoutine.touchpadV3V5 d).part dev p = .whole) :
    ∃ s', alpsProcessTouchpadPacketV3V5 dev s p d =
        some (s', [.dispatchEventsWithInfo (eventV3V5 dev s.quirks (decodeFields dev p d {}) 0)]) ∧
      s'.multiPacket = 0 ∧ s'.quirks = s.quirks := by
  have ⟨hi, hf⟩ := part_eq_whole.mp h
  simp only [PairingRoutine.decode] at hi hf
  simp only [alpsProcessTouchpadPacketV3V5, touchesV3V5_of_position hi, Option.map_some, hi, hf,
    Bool.false_eq_true, and_false, if_false]
  obtain ⟨s', he, hm, hq⟩ := @reportV3V5_eq dev
    ⟨{ s with multiPacket := 0 }, decodeFields dev p d {}, 0⟩ (by simp)
  exact ⟨s', congrArg some he, hm, hq⟩

theorem processV3V5_of_first (h : (PairingRoutine.touchpadV3V5 d).part dev p = .first) :
    alpsProcessTouchpadPacketV3V5 dev s p d = some (s.save p, []) := by
  have ⟨hi, hf⟩ := part_eq_first.mp h
  simp only [PairingRoutine.decode] at hi hf
  simp only [alpsProcessTouchpadPacketV3V5, touchesV3V5_of_position hi, Option.map_some, hi, hf,
    Bool.false_eq_true, if_false, and_self, if_true]
  rfl

theorem processV3V5_of_second (h : (PairingRoutine.touchpadV3V5 d).part dev p = .second)
    (hs : s.multiPacket = 0) : alpsProcessTouchpadPacketV3V5 dev s p d = some (s, []) := by
  have hi := part_eq_second.mp h
  simp only [PairingRoutine.decode] at hi
  simp only [alpsProcessTouchpadPacketV3V5, touchesV3V5_of_idle hs, Option.map_some, hi, if_true]

theorem decodeFields_saved (hf : (PairingRoutine.touchpadV3V5 d).part dev p = .first) {f : AlpsFields} :
    decodeFields dev (MultiData.copy p).bytes d f = (decodeFields dev p d {}).over f := by
  rw [decodeFields_copy, decodeFields_of_position (part_eq_first.mp hf).left]

-- The two packets of a pair, when the bitmaps have been processed.
theorem processV3V5_of_bitmap {b : ProcessedBitmap}
    (hm : (PairingRoutine.touchpadV3V5 d).part dev m = .second)
    (hf : (PairingRoutine.touchpadV3V5 d).part dev p = .first) (hs : s.multiPacket = 1)
    (hd : s.multiData = .copy p)
    (hb : alpsProcessBitmap dev s.secondTouch
      ((decodeFields dev p d {}).over (decodeFields dev m d {})) = some b)
    (hi : b.fields.isMp = false) :
    alpsProcessTouchpadPacketV3V5 dev s m d =
      some (reportV3V5 dev ⟨{ s with secondTouch := b.secondTouch }, b.fields,
        if b.fingers = 0 then 0 else toInt (decodeFields dev m d {}).fingers⟩) := by
  have hm : (decodeFields dev m d {}).isMp = true := part_eq_second.mp hm
  simp only [alpsProcessTouchpadPacketV3V5, touchesV3V5, mergeV3V5, hs, hm, hd, decodeFields_saved hf, hb,
    ne_eq, one_ne_zero, not_false_eq_true, if_true, Option.map_some, hi, Bool.false_eq_true, if_false,
    false_and]

theorem fails_touchpadV3V5 : (PairingRoutine.touchpadV3V5 d).Fails dev m ↔
    (decodeFields dev m d {}).HasBitmaps ∧ dev.SingleElectrode :=
  Iff.rfl

theorem processV3V5_of_fails (hm : (PairingRoutine.touchpadV3V5 d).part dev m = .second)
    (hf : (PairingRoutine.touchpadV3V5 d).part dev p = .first) (hs : s.multiPacket = 1)
    (hd : s.multiData = .copy p) (h : (PairingRoutine.touchpadV3V5 d).Fails dev m) :
    alpsProcessTouchpadPacketV3V5 dev s m d = none := by
  have hi : (decodeFields dev m d {}).isMp = true := part_eq_second.mp hm
  have hb : alpsProcessBitmap dev s.secondTouch
      ((decodeFields dev p d {}).over (decodeFields dev m d {})) = none :=
    alpsProcessBitmap_eq_none.mpr (And.imp_left AlpsFields.over_hasBitmaps.mpr (fails_touchpadV3V5.mp h))
  simp [alpsProcessTouchpadPacketV3V5, touchesV3V5, mergeV3V5, hs, hi, hd, decodeFields_saved hf, hb]

-- The number of fingers of the second packet counts if both of its bitmaps show some.
theorem merged_fingers {f g : AlpsFields} {b : ProcessedBitmap} (hb : Bitmapped (f.over g) b) {n : Int} :
    (if b.fingers = 0 then 0 else n) = if g.HasBitmaps then n else 0 := by
  by_cases hg : g.HasBitmaps
  case pos =>
    have ⟨hn, _⟩ := hb.nonempty (AlpsFields.over_hasBitmaps.mpr hg)
    rw [if_pos hg, if_neg (by omega)]
  case neg => rw [if_neg hg, if_pos (hb.empty (mt AlpsFields.over_hasBitmaps.mp hg))]

theorem processV3V5_of_pair (hm : (PairingRoutine.touchpadV3V5 d).part dev m = .second)
    (hf : (PairingRoutine.touchpadV3V5 d).part dev p = .first) (hs : s.multiPacket = 1)
    (hd : s.multiData = .copy p) (h : ¬(PairingRoutine.touchpadV3V5 d).Fails dev m) :
    ∃ s', alpsProcessTouchpadPacketV3V5 dev s m d =
        some (s', ((PairingRoutine.touchpadV3V5 d).pair dev s.quirks p m).map .dispatchEventsWithInfo) ∧
      s'.multiPacket = 0 ∧ s'.quirks = s.quirks := by
  let f := decodeFields dev p d {}
  let g := decodeFields dev m d {}
  have hi : f.isMp = false := (part_eq_first.mp hf).left
  have ⟨b, he, hb⟩ := alpsProcessBitmap_of_ok (f := f.over g) s.secondTouch
    (mt (And.imp_left AlpsFields.over_hasBitmaps.mp) (mt fails_touchpadV3V5.mpr h))
  rw [processV3V5_of_bitmap hm hf hs hd he (hb.isMp.trans (AlpsFields.over_isMp.trans hi)),
    merged_fingers hb]
  have ⟨s', hr, hm', hq⟩ := @reportV3V5_eq dev
    ⟨{ s with secondTouch := b.secondTouch }, b.fields,
      if g.HasBitmaps then toInt g.fingers else 0⟩ (by
        intro hn
        by_cases hg : g.HasBitmaps
        case pos => exact (hb.nonempty (AlpsFields.over_hasBitmaps.mpr hg)).right
        case neg => simp [hg] at hn)
  refine ⟨s', ?_, hm', hq⟩
  have ⟨mt₀, mt₁, hfields⟩ := hb.fields
  rw [hr, hfields, eventV3V5_touches, eventV3V5_over]
  rfl

end V3V5

section ProcessSS4V2

variable {dev : AlpsDevice} {s : Decoder} {p m : List UInt8}

theorem touchesSS4V2_of_idle (h : s.multiPacket = 0) :
    touchesSS4V2 dev s p =
      ⟨s, alpsDecodeSS4V2 {} p dev.flags, toInt (alpsDecodeSS4V2 {} p dev.flags).fingers⟩ := by
  simp [touchesSS4V2, h]

theorem touchesSS4V2_of_position (h : (alpsDecodeSS4V2 {} p dev.flags).isMp = false) :
    touchesSS4V2 dev s p = ⟨{ s with multiPacket := 0 }, alpsDecodeSS4V2 {} p dev.flags,
      toInt (alpsDecodeSS4V2 {} p dev.flags).fingers⟩ := by
  by_cases hs : s.multiPacket = 0
  case pos => rw [touchesSS4V2_of_idle hs, Decoder.eq_of_idle hs]
  case neg => simp [touchesSS4V2, hs, h]

theorem processSS4V2_of_whole (h : PairingRoutine.ss4V2.part dev p = .whole) :
    ∃ s', alpsProcessPacketSS4V2 dev s p =
        (s', (PairingRoutine.ss4V2.single dev s.quirks p).map .dispatchEventsWithInfo) ∧
      s'.multiPacket = 0 ∧ s'.quirks = s.quirks := by
  have ⟨hi, hf⟩ := part_eq_whole.mp h
  simp only [PairingRoutine.decode] at hi hf
  simp only [alpsProcessPacketSS4V2, touchesSS4V2_of_position hi, hi, hf, Bool.false_eq_true, and_false,
    if_false, PairingRoutine.single]
  split
  case isTrue  => exact ⟨_, rfl, rfl, rfl⟩
  case isFalse => exact ⟨_, rfl, rfl, rfl⟩

theorem processSS4V2_of_first (h : PairingRoutine.ss4V2.part dev p = .first) :
    alpsProcessPacketSS4V2 dev s p = (s.save p, []) := by
  have ⟨hi, hf⟩ := part_eq_first.mp h
  simp only [PairingRoutine.decode] at hi hf
  simp only [alpsProcessPacketSS4V2, touchesSS4V2_of_position hi, hi, hf, Bool.false_eq_true, if_false,
    and_self, if_true]
  rfl

theorem processSS4V2_of_second (h : PairingRoutine.ss4V2.part dev p = .second)
    (hs : s.multiPacket = 0) : alpsProcessPacketSS4V2 dev s p = (s, []) := by
  have hi := part_eq_second.mp h
  simp only [PairingRoutine.decode] at hi
  simp only [alpsProcessPacketSS4V2, touchesSS4V2_of_idle hs, hi, if_true]

theorem processSS4V2_of_pair (hm : PairingRoutine.ss4V2.part dev m = .second)
    (hf : PairingRoutine.ss4V2.part dev p = .first) (hs : s.multiPacket = 1)
    (hd : s.multiData = .copy p) :
    ∃ s', alpsProcessPacketSS4V2 dev s m =
        (s', (PairingRoutine.ss4V2.pair dev s.quirks p m).map .dispatchEventsWithInfo) ∧
      s'.multiPacket = 0 ∧ s'.quirks = s.quirks := by
  have hi : (alpsDecodeSS4V2 {} m dev.flags).isMp = true := part_eq_second.mp hm
  have hk : alpsGetPktIDSS4V2 m = .multi := alpsDecodeSS4V2_isMp.mp hi
  have ⟨hk', hc⟩ := alpsDecodeSS4V2_firstMp.mp (part_eq_first.mp hf).right
  have hg := @alpsDecodeSS4V2_merged _ _ dev.flags hk' hc hk
  simp only [alpsProcessPacketSS4V2, touchesSS4V2, hs, hi, hd, hk, alpsDecodeSS4V2_copy, hg.isMp,
    ne_eq, one_ne_zero, not_false_eq_true, if_true, Bool.false_eq_true, if_false, false_and,
    reduceCtorEq, reportSS4V2, Decoder.dispatch, hg.mt₀, hg.pressure, hg.fingers, hg.buttons]
  exact ⟨_, rfl, rfl, rfl⟩

end ProcessSS4V2

section Process

variable {dev : AlpsDevice} {s : Decoder} {p m : List UInt8} {r : PairingRoutine}

theorem process_of_whole (h : r.part dev p = .whole) :
    ∃ s', r.process dev s p = some (s', (r.single dev s.quirks p).map .dispatchEventsWithInfo) ∧
      s'.multiPacket = 0 ∧ s'.quirks = s.quirks := by
  cases r
  case touchpadV3V5 => exact processV3V5_of_whole h
  case ss4V2        =>
    have ⟨s', hp, hs⟩ := processSS4V2_of_whole (s := s) h
    exact ⟨s', congrArg some hp, hs⟩

theorem process_of_first (h : r.part dev p = .first) : r.process dev s p = some (s.save p, []) := by
  cases r
  case touchpadV3V5 => exact processV3V5_of_first h
  case ss4V2        => exact congrArg some (processSS4V2_of_first h)

theorem process_of_second (h : r.part dev p = .second) (hs : s.multiPacket = 0) :
    r.process dev s p = some (s, []) := by
  cases r
  case touchpadV3V5 => exact processV3V5_of_second h hs
  case ss4V2        => exact congrArg some (processSS4V2_of_second h hs)

theorem process_of_fails (hm : r.part dev m = .second) (hf : r.part dev p = .first)
    (hs : s.multiPacket = 1) (hd : s.multiData = .copy p) (h : r.Fails dev m) :
    r.process dev s m = none := by
  cases r
  case touchpadV3V5 => exact processV3V5_of_fails hm hf hs hd h
  case ss4V2        => exact absurd h id

theorem process_of_pair (hm : r.part dev m = .second) (hf : r.part dev p = .first)
    (hs : s.multiPacket = 1) (hd : s.multiData = .copy p) (h : ¬r.Fails dev m) :
    ∃ s', r.process dev s m = some (s', (r.pair dev s.quirks p m).map .dispatchEventsWithInfo) ∧
      s'.multiPacket = 0 ∧ s'.quirks = s.quirks := by
  cases r
  case touchpadV3V5 => exact processV3V5_of_pair hm hf hs hd h
  case ss4V2        =>
    have ⟨s', hp, hs⟩ := processSS4V2_of_pair hm hf hs hd
    exact ⟨s', congrArg some hp, hs⟩

end Process

-- The registers of a routine, when its protocol has stored a packet or none.
inductive Pairs (dev : AlpsDevice) (quirks : UInt8) (r : PairingRoutine) :
    Option Decoder → Option (Option (List UInt8)) → Prop
  | halted  : Pairs dev quirks r none none
  | idle    : s.multiPacket = 0 → s.quirks = quirks → Pairs dev quirks r (some s) (some none)
  | storing : s.multiPacket = 1 → s.quirks = quirks → s.multiData = .copy p → r.part dev p = .first →
      Pairs dev quirks r (some s) (some (some p))

variable {dev : AlpsDevice} {quirks : UInt8} {r : PairingRoutine}

theorem Pairs.step_of_some {s s' : Decoder} {stored stored' : Option (List UInt8)} {p : List UInt8}
    {calls : List Call} (hp : r.process dev s p = some (s', calls))
    (hs : (r.protocol dev quirks).step Call.dispatchEventsWithInfo stored p = some (stored', calls))
    (h : Pairs dev quirks r (some s') (some stored')) :
    let a := (r.decoder dev).step (some s) p
    let b := ((r.protocol dev quirks).machine Call.dispatchEventsWithInfo .divideByZero).step (some stored) p
    Pairs dev quirks r a.1 b.1 ∧ a.2 = b.2 := by
  simp only [PairingRoutine.decoder, Pairing.machine, Mealy.halting, hp, hs]
  exact ⟨h, trivial⟩

-- A step of a routine is one of its protocol.
theorem Pairs.step {s : Option Decoder} {stored : Option (Option (List UInt8))} {p : List UInt8}
    (h : Pairs dev quirks r s stored) :
    let a := (r.decoder dev).step s p
    let b := ((r.protocol dev quirks).machine Call.dispatchEventsWithInfo .divideByZero).step stored p
    Pairs dev quirks r a.1 b.1 ∧ a.2 = b.2 := by
  cases h
  case halted => exact ⟨.halted, rfl⟩
  case idle s hs hq =>
    cases hp : r.part dev p
    case whole =>
      have ⟨s', hr, hm, hq'⟩ := process_of_whole (s := s) hp
      rw [hq] at hr hq'
      exact Pairs.step_of_some hr (Pairing.step_of_whole hp) (.idle hm hq')
    case first =>
      exact Pairs.step_of_some (process_of_first hp) (Pairing.step_of_first hp) (.storing rfl hq rfl hp)
    case second =>
      exact Pairs.step_of_some (process_of_second hp hs) (Pairing.step_of_second hp) (.idle hs hq)
  case storing f s hs hq hd hf =>
    cases hp : r.part dev p
    case whole =>
      have ⟨s', hr, hm, hq'⟩ := process_of_whole (s := s) hp
      rw [hq] at hr hq'
      exact Pairs.step_of_some hr (Pairing.step_of_whole hp) (.idle hm hq')
    case first =>
      exact Pairs.step_of_some (process_of_first hp) (Pairing.step_of_first hp) (.storing rfl hq rfl hp)
    case second =>
      by_cases hx : r.Fails dev p
      case neg =>
        have ⟨s', hr, hm, hq'⟩ := process_of_pair hp hf hs hd hx
        rw [hq] at hr hq'
        exact Pairs.step_of_some hr (Pairing.step_of_pair hp hx) (.idle hm hq')
      case pos =>
        have hn : (r.protocol dev quirks).step Call.dispatchEventsWithInfo (some f) p = none :=
          Pairing.step_of_fails hp hx
        simp only [PairingRoutine.decoder, Pairing.machine, Mealy.halting,
          process_of_fails hp hf hs hd hx, hn]
        exact ⟨.halted, trivial⟩

theorem simulates_protocol : (r.decoder dev).Simulates
    ((r.protocol dev quirks).machine Call.dispatchEventsWithInfo .divideByZero)
    (fun _ _ => True) (Pairs dev quirks r) where
  step h _ := h.step.left
  out h _  := h.step.right

theorem decoder_out_eq {s : Decoder} (hs : s.multiPacket = 0) (ps : List (List UInt8)) :
    (r.decoder dev).out (some s) ps =
      ((r.protocol dev s.quirks).machine Call.dispatchEventsWithInfo .divideByZero).out (some none) ps :=
  simulates_protocol.run_out (.of_forall fun _ _ => trivial) (.idle hs rfl)

@[simp]
theorem events_append {a b : List Call} : events (a ++ b) = events a ++ events b :=
  List.filterMap_append

@[simp]
theorem events_map {es : List EventInfo} : events (es.map .dispatchEventsWithInfo) = es := by
  rw [events, List.filterMap_map]
  exact List.filterMap_some

@[simp]
theorem events_divideByZero : events [.divideByZero] = [] :=
  rfl

theorem PairingRoutine.pair_ne_nil {p m : List UInt8} : r.pair dev quirks p m ≠ [] := by
  cases r <;> exact List.cons_ne_nil _ _

-- The packets are reported as the protocol says, as long as no pair halts the machine.
theorem pairing_events_iff (dev : AlpsDevice) (r : PairingRoutine) (s : Decoder)
    (hs : s.multiPacket = 0) (ps : List (List UInt8)) :
    events ((r.decoder dev).out (some s) ps) = (r.protocol dev s.quirks).reports ps ↔
      ps.IsChain (r.protocol dev s.quirks).Fits := by
  rw [decoder_out_eq hs]
  constructor
  case mpr =>
    intro h
    rw [Pairing.out_of_isChain h, events_map]
  case mp =>
    intro h
    by_contra hc
    have ⟨pre, f, m, post, _, _, _, hr, ho⟩ := @Pairing.out_of_not_isChain
      _ _ _ _ _ _ Call.dispatchEventsWithInfo .divideByZero hc
    have : (r.protocol dev s.quirks).pair f m ++ post = [] := by
      rw [ho, hr, events_append, events_map, events_divideByZero, List.append_assoc] at h
      exact (List.append_cancel_left h).symm
    exact PairingRoutine.pair_ne_nil (List.append_eq_nil_iff.mp this).left

theorem pairing_events_pinnacle :
    events (((PairingRoutine.touchpadV3V5 .pinnacle).decoder (setProtocol .v3 0 true 0)).out (some {})
      [[0x8f, 0x10, 0x20, 0x08, 0x40, 0x30], [0xcf, 0x7f, 0x7f, 0x0f, 0x00, 0x01]]) =
    [⟨256, 888, 48, 2, 0⟩] :=
  ((pairing_events_iff _ (.touchpadV3V5 .pinnacle) {} rfl _).mpr (by decide +kernel)).trans
    (by decide +kernel)

-- A Dolphin touchpad that has answered the query for its area with 0 has one row of electrodes.
theorem not_pairing_events : ¬∀ dev r s ps, s.multiPacket = 0 →
    events ((PairingRoutine.decoder dev r).out (some s) ps) = (r.protocol dev s.quirks).reports ps := by
  intro h
  have := h (setProtocol .v5 0 false 0x00) (.touchpadV3V5 .dolphin) {}
    [[0xca, 0x00, 0x00, 0x00, 0x00, 0x28], [0xe8, 0x03, 0x00, 0x00, 0x00, 0x00]] rfl
  revert this
  decide +kernel

end Touchpad
