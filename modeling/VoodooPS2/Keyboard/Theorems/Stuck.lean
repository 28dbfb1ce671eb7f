import VoodooPS2.Keyboard.Theorems.Sound
import VoodooPS2.Keyboard.Theorems.Tracking

open SwitchEvent

namespace Keyboard

variable {cfg : Config} {ps2flags : Nat → UInt16} {s : State} {a : Act} {acts : List Act}
variable {t : List Effect} {es : List KeyEvent} {k : Key} {on : Bool}

-- A byte arrives only while the ring buffer has room for its packet.
def Roomy (s : State) : Act → Prop
  | .byte _ => s.receiver.ringBuffer.count + kPacketLength < kPacketLength * 32
  | _       => True

instance (s : State) : (a : Act) → Decidable (Roomy s a)
  | .byte _ => inferInstanceAs (Decidable (_ < _))
  | .packet => .isTrue trivial
  | .timer  => .isTrue trivial

def Act.byte? : Act → Option UInt8
  | .byte data => some data
  | _          => none

-- No key is down, nothing is pending and the timer has not been set.
structure State.AtRest (s : State) : Prop where
  extendCount : s.receiver.scanner.extendCount = 0
  isKeyDown   : ∀ n, s.receiver.scanner.keyBitVector.isKeyDown n = false
  ringBuffer  : s.receiver.ringBuffer.Holds kPacketLength []
  timer       : s.dispatcher.sleepEjectTimer = false

-- A sequence of key events that starts and ends with all keys released, and a run of the keyboard that
-- handles the bytes of these events and nothing else.
structure Typed (cfg : Config) (s : State) (es : List KeyEvent) (acts : List Act) : Prop where
  atRest   : s.AtRest
  sends    : ∀ e ∈ es, e.switch.Sends false
  released : ∀ e ∈ es, ¬Breakless cfg.ps2flags e.switch.keyCodeRaw → ¬IsOn es e.switch
  bytes    : acts.filterMap Act.byte? = bytesOf es
  roomy    : (keyboard cfg).Along Roomy s acts
  handled  : ((keyboard cfg).state s acts).receiver.ringBuffer.count = 0
  timer    : ((keyboard cfg).state s acts).dispatcher.sleepEjectTimer = false

-- A make code is never taken for anything else.
theorem Key.Sends.either (h : k.Sends false) : k.Sends on := by
  have hc : ∀ c on, c < kSCUpBit ∧ ¬Reserved (byte c false) → c < kSCUpBit ∧ ¬Reserved (byte c on) := by
    decide +kernel
  cases k
  case normal c   => exact hc c on h
  case extended c => exact hc c on h
  case pause      => trivial

theorem Key.on_of_bytes (h : k.bytes on = [0]) : on = true := by
  have hc : ∀ c, byte c false ≠ 0 := by decide +kernel
  cases on
  case true => rfl
  case false =>
    cases k
    case normal c => exact absurd (List.singleton_inj.mp h) (hc c)
    all_goals nomatch h

-- A bit that is set is that of a key whose last event was a press.
structure Marked (ps2flags : Nat → UInt16) (es : List KeyEvent) (s : Scanner) : Prop where
  extendCount : s.extendCount = 0
  isKeyDown   : ∀ n, s.keyBitVector.isKeyDown n = true →
    ¬Breakless ps2flags n ∧ IsOn (es.map fun e => ⟨e.switch.keyCodeRaw, e.on⟩) n

namespace Marked

variable {s : Scanner}

-- A press of key 0 is taken for the end of a reset if it follows the release of left shift.
theorem scan_reset (hz : s.lastdata = kSCReset) :
    (scanner ps2flags).state s [0] = { s with extendCount := 0 } := by
  simp [scanner, Scanner.scan, hz]

theorem concat (h : Marked ps2flags es s) (hk : k.Sends on) :
    Marked ps2flags (es ++ [⟨k, on⟩]) ((scanner ps2flags).state s (k.bytes on)) := by
  by_cases hz : s.lastdata = kSCReset ∧ k.bytes on = [0]
  case pos =>
    rw [hz.right, scan_reset hz.left]
    refine ⟨rfl, fun n hn => ?_⟩
    have ⟨hb, ho⟩ := h.isKeyDown n hn
    rw [List.map_append, List.map_singleton, isOn_concat]
    refine ⟨hb, ?_⟩
    split
    case isTrue  => exact Key.on_of_bytes hz.right
    case isFalse => exact ho
  case neg =>
    have hs := struck ps2flags hk h.extendCount fun hr hb => hz ⟨hr, hb⟩
    refine ⟨hs.extendCount, fun n hn => ?_⟩
    rw [hs.isKeyDown] at hn
    rw [List.map_append, List.map_singleton, isOn_concat]
    split at hn
    case isTrue hc =>
      obtain ⟨rfl, hb⟩ := hc
      exact ⟨hb, by simpa using hn⟩
    case isFalse hc =>
      have ⟨hb, ho⟩ := h.isKeyDown n hn
      exact ⟨hb, by simpa [show k.keyCodeRaw ≠ n from fun he => hc ⟨he, he ▸ hb⟩] using ho⟩

theorem run (hx : s.extendCount = 0) (hz : ∀ n, s.keyBitVector.isKeyDown n = false)
    (hs : ∀ e ∈ es, e.switch.Sends false) :
    Marked ps2flags es ((scanner ps2flags).state s (bytesOf es)) := by
  induction es using List.reverseRecOn
  case nil => exact ⟨hx, fun n hn => by simp [bytesOf, hz] at hn⟩
  case append_singleton es e hi =>
    rw [show e = ⟨e.switch, e.on⟩ from rfl, bytesOf_concat, Mealy.state_append]
    exact (hi fun e he => hs e (by simp [he])).concat (hs e (by simp)).either

end Marked

-- The bytes are parsed as if nothing else happened in between.
theorem keyboard_scanner : ((keyboard cfg).state s acts).receiver.scanner =
    (scanner cfg.ps2flags).state s.receiver.scanner (acts.filterMap Act.byte?) := by
  induction acts generalizing s
  case nil => rfl
  case cons a acts hi =>
    rw [Mealy.state_cons, hi]
    cases a
    case byte data =>
      rw [List.filterMap_cons_some (show Act.byte? (.byte data) = some data from rfl), Mealy.state_cons]
      congr 1
      cases h : (s.receiver.scanner.scan cfg.ps2flags data).2
      case none   => exact congrArg Receiver.scanner (interruptOccurred_of_none h)
      case some p => exact congrArg Receiver.scanner (interruptOccurred_of_some h)
    case packet =>
      rw [List.filterMap_cons_none rfl]
      simp only [keyboard]
      split
      all_goals rfl
    case timer =>
      rw [List.filterMap_cons_none rfl]
      simp only [keyboard]
      split
      all_goals rfl

-- No bit is left once all keys are released.
theorem Typed.isKeyDown (h : Typed cfg s es acts) (n : Nat) :
    ((keyboard cfg).state s acts).receiver.scanner.keyBitVector.isKeyDown n = false := by
  rw [keyboard_scanner, h.bytes, Bool.eq_false_iff]
  intro hn
  have ⟨hb, ho⟩ := (Marked.run h.atRest.extendCount h.atRest.isKeyDown h.sends).isKeyDown n hn
  obtain ⟨k, rfl, hk⟩ := ho.of_map
  exact h.released _ hk.mem hb hk

theorem monitored_simulates :
    (monitored cfg).Simulates (keyboard cfg) (fun _ _ => True) (fun s t => s.1 = t) where
  step := by
    rintro s _ a rfl -
    rfl
  out := by
    rintro s _ a rfl -
    rfl

theorem Sound.step {s : State × Made} (h : ∃ q, Sound cfg s.1 q s.2 t) (hr : Roomy s.1 a)
    (hc : Coherent cfg s a) :
    let r := (monitored cfg).step s a
    ∃ q, Sound cfg r.1.1 q r.1.2 (t ++ r.2) := by
  obtain ⟨s, made⟩ := s
  have ⟨q, h⟩ := h
  cases a
  case byte data =>
    have ⟨q', h'⟩ := h.byte data hr
    exact ⟨q', by simpa [monitored, keyboard] using h'⟩
  case timer => exact ⟨q, h.timer⟩
  case packet =>
    cases q
    case nil =>
      have hn : ¬s.receiver.ringBuffer.count ≥ kPacketLength :=
        fun hn => h.holds.size_le_count_iff.mp hn rfl
      have hp : s.pending? = none := if_neg hn
      exact ⟨[], by simpa [monitored, keyboard, hn, hp] using h⟩
    case cons p q =>
      have hn : s.receiver.ringBuffer.count ≥ kPacketLength :=
        h.holds.size_le_count_iff.mpr (List.cons_ne_nil p q)
      refine ⟨q, ?_⟩
      simp only [monitored, keyboard, if_pos hn, h.pending]
      cases hp : packetKey? p
      case none   => exact h.skip hp
      case some e => exact h.handle hp hc

-- Nothing has been handled and nothing is pending.
theorem State.AtRest.sound (h : s.AtRest) : Sound cfg s [] (fun _ => none) [] where
  holds       := h.ringBuffer
  extendCount := h.extendCount ▸ UInt8.zero_le
  linked      := ⟨fun n hn => by simp [h.isKeyDown] at hn, nofun, by simp [Alternates]⟩
  owed _ ho   := absurd ho not_isOn_nil
  ejects he   := absurd (h.timer.symm.trans he.left) Bool.false_ne_true

-- Once every key is released and every packet is handled, nothing is owed.
theorem Sound.not_isOn {made : Made} {c : UInt8} {q : List (List UInt8)} (h : Sound cfg s q made t)
    (hz : ∀ n, s.receiver.scanner.keyBitVector.isKeyDown n = false)
    (hq : s.receiver.ringBuffer.count = 0) : ¬IsOn (events t) c := by
  intro ho
  obtain rfl := h.holds.count_eq_zero_iff.mp hq
  cases h.owed c ho
  case pressed hp =>
    obtain ⟨n, m, hm, -⟩ := hp
    have ha := h.linked.alternates n (h.linked.pressed n m hm)
    simp [Alternates, hm, hz] at ha
  case lifted n _ _ _ ho _ => simp [Outstanding, hz] at ho

-- No key is stuck unless the modifiers have led the two events of a key into different branches.
theorem keyboard_noStuckKeys (h : Typed cfg s es acts)
    (hc : (monitored cfg).Along (Coherent cfg) (s, fun _ => none) acts) :
    ∀ c, ¬IsOn (events ((keyboard cfg).out s acts)) c := by
  have ht : (monitored cfg).Along (fun _ _ => True) (s, fun _ => none) acts :=
    .of_forall fun _ _ => trivial
  have hr : (monitored cfg).Along (fun s a => Roomy s.1 a) (s, fun _ => none) acts :=
    monitored_simulates.along ht rfl h.roomy fun _ _ _ he hr => he ▸ hr
  have ⟨q, hs⟩ := Mealy.history (I := fun s t => ∃ q, Sound cfg s.1 q s.2 t)
    (fun h hg => Sound.step h hg.left hg.right) (hr.and hc) ⟨[], h.atRest.sound⟩
  rw [monitored_simulates.run_state ht rfl, List.nil_append, monitored_simulates.run_out ht rfl] at hs
  exact fun c => hs.not_isOn h.isKeyDown h.handled

def State.init : State where
  receiver   := .init
  dispatcher := {}

theorem State.init_atRest : State.init.AtRest where
  extendCount := rfl
  isKeyDown _ := KeyBits.isKeyDown_zero
  ringBuffer  := .reset (r := Receiver.init.ringBuffer) (by decide) (by decide) (by decide)
  timer       := rfl

-- Every byte is handled as soon as it has arrived.
def typing (es : List KeyEvent) : List Act :=
  (bytesOf es).flatMap fun data => [.byte data, .packet]

def shiftedA : List KeyEvent :=
  [⟨.normal 0x2a, true⟩, ⟨.normal 0x1e, true⟩, ⟨.normal 0x2a, false⟩, ⟨.normal 0x1e, false⟩]

theorem keyboard_noStuckKeys_shiftedA :
    ¬IsOn (events ((keyboard {}).out .init (typing shiftedA))) (ps2ToADBMapStock 0x1e) :=
  have h : Typed {} .init shiftedA (typing shiftedA) := {
    atRest   := State.init_atRest
    sends    := by decide +kernel
    released := by decide +kernel
    bytes    := by decide +kernel
    roomy    := by decide +kernel
    handled  := by decide +kernel
    timer    := by decide +kernel
  }
  keyboard_noStuckKeys h (by decide +kernel) _

def shiftBeforeEjectUp : List KeyEvent :=
  [⟨.extended 0x52, true⟩, ⟨.normal 0x2a, true⟩, ⟨.extended 0x52, false⟩, ⟨.normal 0x2a, false⟩]

-- The release of the eject key does not cancel the timer, since shift is held.
theorem not_keyboard_noStuckKeys : ¬∀ (cfg : Config) (s : State) (es : List KeyEvent) (acts : List Act),
    Typed cfg s es acts → ∀ c, ¬IsOn (events ((keyboard cfg).out s acts)) c := by
  intro h
  have ht : Typed {} .init shiftBeforeEjectUp (typing shiftBeforeEjectUp ++ [.timer]) := {
    atRest   := State.init_atRest
    sends    := by decide +kernel
    released := by decide +kernel
    bytes    := by decide +kernel
    roomy    := by decide +kernel
    handled  := by decide +kernel
    timer    := by decide +kernel
  }
  have hn := h {} .init shiftBeforeEjectUp (typing shiftBeforeEjectUp ++ [.timer]) ht 0x92
  revert hn
  decide +kernel

end Keyboard
