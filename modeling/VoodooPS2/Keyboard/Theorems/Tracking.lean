import VoodooPS2.Keyboard.Theorems.Interrupt

open SwitchEvent

namespace Keyboard

namespace Key

-- A key that the stock table gives a code.
def Mapped : Key → Prop
  | normal scanCode   => 0x01 ≤ scanCode ∧ scanCode ≤ 0x7f ∧ ps2ToADBMapStock scanCode.toNat ≠ deadkey
  | extended scanCode =>
    0x01 ≤ scanCode ∧ scanCode ≤ 0x7f ∧ ps2ToADBMapStock (kbvNumScancodes + scanCode.toNat) ≠ deadkey
  | pause             => False

instance : DecidablePred Mapped
  | normal _   => inferInstanceAs (Decidable (_ ∧ _))
  | extended _ => inferInstanceAs (Decidable (_ ∧ _))
  | pause      => inferInstanceAs (Decidable False)

-- The break code of this key is the byte with which a keyboard asks for a command to be resent.
abbrev resend : Key :=
  normal 0x7e

-- The break codes that have another meaning.
theorem reserved_byte : ∀ c on, c ≤ 0x7f → Reserved (byte c on) →
    on = false ∧ (c = 0x60 ∨ c = 0x61 ∨ c = 0x7a ∨ c = 0x7e) := by
  decide +kernel

theorem normal_sends (c : UInt8) (on : Bool) (hm : (normal c).Mapped) (h : normal c ≠ resend ∨ on = true) :
    (normal c).Sends on := by
  refine ⟨UInt8.lt_of_le_of_lt hm.right.left (by decide), fun hr => ?_⟩
  have ⟨ho, hc⟩ := reserved_byte c on hm.right.left hr
  rcases hc with rfl | rfl | rfl | rfl
  case inr.inr.inr => simp [resend, ho] at h
  all_goals exact absurd hm (by decide)

theorem extended_sends (c : UInt8) (on : Bool) (hm : (extended c).Mapped) : (extended c).Sends on := by
  refine ⟨UInt8.lt_of_le_of_lt hm.right.left (by decide), fun hr => ?_⟩
  have ⟨_, hc⟩ := reserved_byte c on hm.right.left hr
  rcases hc with rfl | rfl | rfl | rfl
  all_goals exact absurd hm (by decide +kernel)

variable {k k' : Key} {on : Bool}

-- Of the bytes that have another meaning, the break code of one key is the only one that a mapped key
-- sends.
theorem Mapped.sends (hk : k.Mapped) (h : k ≠ resend ∨ on = true) : k.Sends on := by
  cases k
  case normal c   => exact normal_sends c on hk h
  case extended c => exact extended_sends c on hk
  case pause      => exact hk.elim

theorem Mapped.bytes_ne (hk : k.Mapped) : k.bytes on ≠ [0] := by
  have hz : ∀ c on, 0x01 ≤ c → byte c on ≠ 0 := by decide +kernel
  cases k
  case normal c   => simpa [bytes] using hz c on hk.left
  case extended c => simp [bytes]
  case pause      => exact hk.elim

theorem Mapped.keyCodeRaw_ne (hk : k.Mapped) (hk' : k'.Mapped) (h : k ≠ k') :
    k.keyCodeRaw ≠ k'.keyCodeRaw := by
  intro he
  cases k
  case pause => exact hk.elim
  all_goals
    cases k'
    case pause => exact hk'.elim
    all_goals
      have := hk.right.left
      have := hk'.right.left
      simp only [keyCodeRaw, kbvNumScancodes, UInt8.le_iff_toNat_le, UInt8.reduceToNat] at *
      first
        | omega
        | simp [← UInt8.toNat_inj] at h; omega

end Key

variable {ps2flags : Nat → UInt16} {s : Scanner} {k k' : Key} {on : Bool} {es : List KeyEvent}

theorem bytesOf_concat : bytesOf (es ++ [⟨k, on⟩]) = bytesOf es ++ k.bytes on := by
  simp [bytesOf]

-- What the bit of a key says after a sequence of events: releases of one key go unnoticed.
def Noted (es : List KeyEvent) (k : Key) : Prop :=
  if k = .resend then ⟨k, true⟩ ∈ es else IsOn es k

theorem noted_concat_self : Noted (es ++ [⟨k, on⟩]) k ↔ on = true ∨ k = .resend ∧ Noted es k := by
  unfold Noted
  split
  case isTrue hr  => simp [← hr, or_comm, eq_comm]
  case isFalse hr => simp [isOn_concat_self, hr]

theorem noted_concat_ne (h : k ≠ k') : Noted (es ++ [⟨k, on⟩]) k' ↔ Noted es k' := by
  unfold Noted
  split
  case isTrue hr  => simp [show k' ≠ k from h.symm]
  case isFalse hr => exact isOn_concat_ne h

structure Tracks (es : List KeyEvent) (s : Scanner) : Prop where
  extendCount : s.extendCount = 0
  isKeyDown   : ∀ k : Key, k.Mapped → (s.keyBitVector.isKeyDown k.keyCodeRaw ↔ Noted es k)

namespace Tracks

theorem scan_resend :
    (scanner ps2flags).state s (Key.resend.bytes false) = { s with lastdata := kSCResend } := by
  have hb : Key.resend.bytes false = [kSCResend] := by decide
  simp [hb, scanner, scan_ignored s (.inr rfl)]

theorem resend (t : Tracks es s) : Tracks (es ++ [⟨.resend, false⟩])
    ((scanner ps2flags).state s (Key.resend.bytes false)) := by
  rw [scan_resend]
  refine ⟨t.extendCount, fun k hk => ?_⟩
  rw [t.isKeyDown k hk]
  by_cases h : .resend = k
  case pos => simp [← h, noted_concat_self]
  case neg => rw [noted_concat_ne h]

theorem concat (t : Tracks es s) (hk : k.Mapped) (hb : ¬Breakless ps2flags k.keyCodeRaw) :
    Tracks (es ++ [⟨k, on⟩]) ((scanner ps2flags).state s (k.bytes on)) := by
  by_cases h : k ≠ .resend ∨ on = true
  case neg =>
    obtain ⟨rfl, rfl⟩ : k = .resend ∧ on = false := by simpa using h
    exact t.resend
  case pos =>
    have hs := struck ps2flags (hk.sends h) t.extendCount fun _ => hk.bytes_ne
    refine ⟨hs.extendCount, fun k' hk' => ?_⟩
    rw [hs.isKeyDown]
    by_cases he : k = k'
    case pos =>
      subst he
      rw [if_pos ⟨rfl, hb⟩, noted_concat_self]
      grind
    case neg =>
      rw [if_neg fun h => hk.keyCodeRaw_ne hk' he h.left, noted_concat_ne he]
      exact t.isKeyDown k' hk'

-- A press is buffered unless the bit of the key says that it repeats.
theorem out_press (t : Tracks es s) (hk : k.Mapped) (hb : ¬Breakless ps2flags k.keyCodeRaw) :
    (Noted es k → (scanner ps2flags).out s (k.bytes true) = []) ∧
    (¬Noted es k → (scanner ps2flags).out s (k.bytes true) = [k.packet true]) := by
  have hs := struck ps2flags (hk.sends (.inr rfl)) t.extendCount fun _ => hk.bytes_ne
  rw [hs.packets, ← t.isKeyDown k hk]
  simp +contextual [hb]

theorem run (hx : s.extendCount = 0) (hz : ∀ n, s.keyBitVector.isKeyDown n = false)
    (hm : ∀ e ∈ es, e.switch.Mapped) (hb : ∀ k : Key, k.Mapped → ¬Breakless ps2flags k.keyCodeRaw) :
    Tracks es ((scanner ps2flags).state s (bytesOf es)) := by
  induction es using List.reverseRecOn
  case nil => exact ⟨hx, by simp [hz, Noted, bytesOf]⟩
  case append_singleton es e hi =>
    have hk := hm e (by simp)
    rw [show e = ⟨e.switch, e.on⟩ from rfl, bytesOf_concat, Mealy.state_append]
    exact (hi fun e he => hm e (by simp [he])).concat hk (hb _ hk)

end Tracks

-- The bits say what has happened unless a release went unnoticed.
theorem noted_iff_isOn :
    ((∀ k : Key, k.Mapped → (Noted es k ↔ IsOn es k)) ∧
      ∀ pre k post, es = pre ++ ⟨k, true⟩ :: post → (Noted pre k ↔ IsOn pre k)) ↔
    ¬∃ pre mid post, es = pre ++ ⟨.resend, true⟩ :: mid ++ ⟨.resend, false⟩ :: post := by
  constructor
  case mp =>
    rintro ⟨he, hp⟩ ⟨pre, mid, post, hs⟩
    let p := pre ++ ⟨.resend, true⟩ :: mid ++ [⟨.resend, false⟩]
    have hn : ∀ l, Noted (p ++ l) .resend := by simp [Noted, p]
    have ho : ¬IsOn p .resend := fun h => nomatch isOn_concat_self.mp h
    have hl : es = p ++ post := by simp [hs, p]
    have hf : ¬IsOn (p ++ post) .resend := stays_off ho fun pre' post' h =>
      (hp (p ++ pre') .resend post' (by simp [hl, h])).mp (hn pre')
    exact hf (hl ▸ (he .resend (by decide)).mp (hl ▸ hn post))
  case mpr =>
    intro h
    have hi {pre post : List KeyEvent} (hs : es = pre ++ post) (k : Key) : Noted pre k ↔ IsOn pre k := by
      unfold Noted
      split
      case isFalse => rfl
      case isTrue hk =>
        subst hk
        constructor
        case mp =>
          intro hn
          by_contra ho
          obtain ⟨pre', mid, post', hp⟩ := off_after_on hn ho
          exact h ⟨pre', mid, post' ++ post, by simp [hs, hp]⟩
        case mpr => exact IsOn.mem
    exact ⟨fun k _ => hi (List.append_nil es).symm k, fun pre k post hs => hi hs k⟩

-- After a sequence of events, the bit of each key tells whether its last event was a press; and on the
-- way, the presses that were buffered are those that do not repeat.
structure KeysTracked (ps2flags : Nat → UInt16) (r : Receiver) (es : List KeyEvent) : Prop where
  isKeyDown : ∀ k : Key, k.Mapped →
    (((receiver ps2flags).state r (bytesOf es)).scanner.keyBitVector.isKeyDown k.keyCodeRaw ↔ IsOn es k)
  packets   : ∀ pre k post, es = pre ++ ⟨k, true⟩ :: post →
    let packets := (receiver ps2flags).out ((receiver ps2flags).state r (bytesOf pre)) (k.bytes true)
    (IsOn pre k → packets = []) ∧ (¬IsOn pre k → packets = [k.packet true])

theorem keysTracked_iff_noted {r : Receiver} (hx : r.scanner.extendCount = 0)
    (hz : ∀ n, r.scanner.keyBitVector.isKeyDown n = false) (hm : ∀ e ∈ es, e.switch.Mapped)
    (hb : ∀ k : Key, k.Mapped → ¬Breakless ps2flags k.keyCodeRaw) :
    KeysTracked ps2flags r es ↔ (∀ k : Key, k.Mapped → (Noted es k ↔ IsOn es k)) ∧
      ∀ pre k post, es = pre ++ ⟨k, true⟩ :: post → (Noted pre k ↔ IsOn pre k) := by
  have ht := Tracks.run hx hz hm hb
  have hp {pre : List KeyEvent} {k : Key} {post} (hs : es = pre ++ ⟨k, true⟩ :: post) :=
    have hk : k.Mapped := hm ⟨k, true⟩ (by simp [hs])
    (Tracks.run hx hz (fun e (he : e ∈ pre) => hm e (by simp [hs, he])) hb).out_press hk (hb k hk)
  constructor
  case mp =>
    intro h
    refine ⟨fun k hk => ?_, fun pre k post hs => ?_⟩
    · rw [← ht.isKeyDown k hk, ← receiver_state]
      exact h.isKeyDown k hk
    · have ⟨hr, hn⟩ := h.packets pre k post hs
      have ⟨hr', hn'⟩ := hp hs
      rw [receiver_out, receiver_state] at hr hn
      by_cases h : Noted pre k
      all_goals by_cases h' : IsOn pre k
      all_goals simp_all
  case mpr =>
    rintro ⟨he, hn⟩
    refine ⟨fun k hk => ?_, fun pre k post hs => ?_⟩
    · rw [receiver_state, ht.isKeyDown k hk]
      exact he k hk
    · rw [receiver_out, receiver_state, ← hn pre k post hs]
      exact hp hs

-- The keys are tracked if and only if the one whose break code asks for a command to be resent is not
-- released after it was pressed.
theorem keysTracked_iff {r : Receiver} (hx : r.scanner.extendCount = 0)
    (hz : ∀ n, r.scanner.keyBitVector.isKeyDown n = false) (hm : ∀ e ∈ es, e.switch.Mapped)
    (hb : ∀ k : Key, k.Mapped → ¬Breakless ps2flags k.keyCodeRaw) :
    KeysTracked ps2flags r es ↔
      ¬∃ pre mid post, es = pre ++ ⟨.resend, true⟩ :: mid ++ ⟨.resend, false⟩ :: post := by
  rw [keysTracked_iff_noted hx hz hm hb, noted_iff_isOn]

theorem not_breakless_stock {n : Nat} : ¬Breakless ps2flagsStock n := by
  unfold Breakless ps2flagsStock
  split
  all_goals decide

def Receiver.init : Receiver where
  scanner    := {}
  ringBuffer := { buffer := fun _ => 0, head := 0, tail := 0 }

def repeatedA : List KeyEvent :=
  [⟨.normal 0x1e, true⟩, ⟨.normal 0x1e, true⟩]

theorem keysTracked_repeatedA :
    (receiver ps2flagsStock).out ((receiver ps2flagsStock).state .init (bytesOf [⟨.normal 0x1e, true⟩]))
      (Key.bytes (.normal 0x1e) true) = [] :=
  have hn : ¬∃ pre mid post, repeatedA = pre ++ ⟨.resend, true⟩ :: mid ++ ⟨.resend, false⟩ :: post := by
    rintro ⟨pre, mid, post, h⟩
    have hm : ⟨.resend, true⟩ ∈ repeatedA := by simp [h]
    exact absurd hm (by decide)
  have h := keysTracked_iff (r := .init) rfl (fun _ => KeyBits.isKeyDown_zero) (by decide)
    (fun _ _ => not_breakless_stock) |>.mpr hn
  (h.packets [⟨.normal 0x1e, true⟩] _ [] rfl).left (by decide)

-- The comma of the keypad is released, but its bit stays set.
theorem not_keysTracked : ¬∀ (ps2flags : Nat → UInt16) (r : Receiver) (es : List KeyEvent),
    r.scanner.extendCount = 0 → (∀ n, r.scanner.keyBitVector.isKeyDown n = false) →
    (∀ e ∈ es, e.switch.Mapped) → (∀ k : Key, k.Mapped → ¬Breakless ps2flags k.keyCodeRaw) →
    KeysTracked ps2flags r es := by
  intro h
  have ht := h ps2flagsStock .init [⟨.resend, true⟩, ⟨.resend, false⟩] rfl
    (fun _ => KeyBits.isKeyDown_zero) (by decide) (fun _ _ => not_breakless_stock)
  have := ht.isKeyDown .resend (by decide)
  revert this
  decide +kernel

end Keyboard
