import Mathlib.Data.List.TakeWhile
import VoodooPS2.Keyboard.Dispatch
import VoodooPS2.Keyboard.Theorems.Interrupt
import VoodooPS2.Keyboard.Theorems.Parse

namespace Keyboard

structure Stroke where
  adbKeyCode : UInt8
  goingDown  : Bool
  deriving DecidableEq

namespace Stroke

def pack (e : Stroke) : UInt16 :=
  e.adbKeyCode.toUInt16 ||| if e.goingDown then 0 else 0x1000

def effect (e : Stroke) : Effect :=
  .dispatchKeyboardEvent e.adbKeyCode e.goingDown

-- Two hexadecimal digits, a space and the direction.
def Written (e : Stroke) (s : CString) : Prop :=
  ∃ h l, Hex [h, l] ∧ hexValue [h, l] = e.adbKeyCode.toNat ∧
    s = [h, l, ' ', if e.goingDown then 'd' else 'u']

end Stroke

-- The strokes are separated by commas, each with any number of spaces after it.
inductive Action : List Stroke → CString → Prop
  | single {e s} (h : e.Written s) : Action [e] s
  | cons {e s es t} (n : Nat) (h : e.Written s) (ht : Action es t) :
    Action (e :: es) (s ++ ',' :: (List.replicate n ' ' ++ t))

section Pack

variable {e : Stroke} {es : List Stroke}

-- The packed stroke is unambiguous.
theorem unpack_pack : Effect.dispatchKeyboardEvent (e.pack &&& 0xff).toUInt8 (e.pack &&& 0x1000 = 0) =
    e.effect := by
  cases e
  case mk code goingDown =>
    revert code
    cases goingDown <;> decide +kernel

-- But one of them cannot be told from the end of the array.
theorem pack_eq_zero_iff : e.pack = 0 ↔ e = ⟨0x00, true⟩ := by
  constructor
  case mp =>
    intro h
    have hu := @unpack_pack e
    rw [h] at hu
    injection hu with hc hd
    cases e
    case mk code goingDown =>
      obtain rfl : 0x00 = code := hc
      obtain rfl : true = goingDown := hd
      rfl
  case mpr =>
    intro h
    rw [h]
    rfl

theorem takeWhile_pack {rest : List UInt16} :
    (es.map Stroke.pack ++ 0 :: rest).takeWhile (· ≠ 0) =
      (es.takeWhile (· ≠ ⟨0x00, true⟩)).map Stroke.pack := by
  induction es
  case nil => rfl
  case cons e es hi =>
    rw [List.map_cons, List.cons_append]
    by_cases h : e = ⟨0x00, true⟩
    case pos =>
      have hp : e.pack = 0 := pack_eq_zero_iff.mpr h
      rw [List.takeWhile_cons_of_neg (by simpa using hp), List.takeWhile_cons_of_neg (by simpa using h)]
      rfl
    case neg =>
      have hp : e.pack ≠ 0 := pack_eq_zero_iff.not.mpr h
      rw [List.takeWhile_cons_of_pos (by simpa using hp), List.takeWhile_cons_of_pos (by simpa using h),
        hi, List.map_cons]

theorem sendKeySequence_pack {rest : List UInt16} : sendKeySequence (es.map Stroke.pack ++ 0 :: rest) =
    (es.takeWhile (· ≠ ⟨0x00, true⟩)).map Stroke.effect := by
  rw [sendKeySequence, takeWhile_pack, List.map_map]
  exact List.map_congr_left fun e _ => unpack_pack

end Pack

section Parse

variable {e : Stroke} {es : List Stroke} {s t : CString} {left i : Nat} {dest : List UInt16}

theorem Stroke.Written.parseHex_eq (h : e.Written s) : parseHex (s ++ t) ' ' nul =
    some (.ofNat e.adbKeyCode.toNat, ' ' :: (if e.goingDown then 'd' else 'u') :: t) := by
  have ⟨h, l, hd, hv, hs⟩ := h
  apply (parseHex_eq_some_iff (by decide) (by decide)).mpr
  refine ⟨[h, l], by simp [hs], hd, by simp, ?_⟩
  rw [hv, UInt32.toNat_ofNat']

theorem pack_eq : (UInt32.ofNat e.adbKeyCode.toNat |||
    if (if e.goingDown then 'd' else 'u') = 'u' then 0x1000 else 0).toUInt16 = e.pack := by
  rw [Stroke.pack, UInt32.toUInt16_or]
  congr 1
  case e_a => simp
  case e_a => cases e.goingDown <;> rfl

-- One pass of the loop takes one stroke.
theorem Stroke.Written.loop_eq (h : e.Written s) : parseAction.loop (left + 1) (s ++ t) i dest =
    match t with
    | []       => (some (i + 1), dest.set i e.pack)
    | ',' :: t => parseAction.loop left (t.dropWhile (· = ' ')) (i + 1) (dest.set i e.pack)
    | _        => (none, dest.set i e.pack) := by
  have hp : parseHex (s ++ t) ' ' nul = _ := h.parseHex_eq
  have ⟨h, l, _, _, hs⟩ := h
  have hc : ¬((if e.goingDown then 'd' else 'u') ≠ 'd' ∧ (if e.goingDown then 'd' else 'u') ≠ 'u') := by
    cases e.goingDown <;> decide
  rw [hs] at hp ⊢
  simp only [List.cons_append, List.nil_append] at hp ⊢
  rw [parseAction.loop, hp]
  · refine (if_neg hc).trans ?_
    rw [pack_eq]
    rfl
  · nofun

theorem Stroke.Written.dropWhile_eq (h : e.Written s) (n : Nat) :
    (List.replicate n ' ' ++ (s ++ t)).dropWhile (· = ' ') = s ++ t := by
  have ⟨h, l, hd, _, hs⟩ := h
  have hh : h ≠ ' ' := by
    rintro rfl
    exact absurd (hd ' ' (List.mem_cons_self ..)) (by decide)
  rw [List.dropWhile_append_of_pos fun c hc => by simp [List.eq_of_mem_replicate hc], hs]
  simp [hh]

theorem Action.dropWhile_eq (ha : Action es t) (n : Nat) :
    (List.replicate n ' ' ++ t).dropWhile (· = ' ') = t := by
  cases ha
  case single h   => simpa using h.dropWhile_eq n (t := [])
  case cons h _ => exact h.dropWhile_eq n

theorem take_succ_set {x : UInt16} (h : i < dest.length) :
    (dest.set i x).take (i + 1) = dest.take i ++ [x] := by
  rw [List.set_eq_take_append_cons_drop, if_pos h]
  simp [List.take_append, Nat.min_eq_left h.le, List.take_take]

theorem Action.loop_eq (ha : Action es s) (hl : es.length ≤ left) (hd : i + left = dest.length) :
    parseAction.loop left s i dest =
      (some (i + es.length), dest.take i ++ es.map Stroke.pack ++ dest.drop (i + es.length)) := by
  induction ha generalizing left i dest
  case single e s h =>
    cases left
    case zero      => simp at hl
    case succ left =>
      have hs : parseAction.loop (left + 1) (s ++ []) i dest = _ := h.loop_eq
      rw [List.append_nil] at hs
      rw [hs, List.set_eq_take_append_cons_drop, if_pos (by omega)]
      simp
  case cons e s es t n h ht hi =>
    cases left
    case zero      => simp at hl
    case succ left =>
      have hlt : i < dest.length := by omega
      rw [h.loop_eq]
      show parseAction.loop left ((List.replicate n ' ' ++ t).dropWhile _) (i + 1) (dest.set i e.pack) = _
      rw [ht.dropWhile_eq, hi (by simpa using hl) (by simp; omega), take_succ_set hlt,
        List.drop_set_of_lt (by omega)]
      simp [Nat.add_assoc, Nat.add_comm 1]

theorem Action.parseAction_eq (ha : Action es s) (hl : es.length < dest.length) :
    parseAction s dest = (true, es.map Stroke.pack ++ 0 :: dest.drop (es.length + 1)) := by
  have h := ha.loop_eq (i := 0) hl.le (Nat.zero_add _)
  rw [Nat.zero_add, List.take_zero, List.nil_append] at h
  rw [parseAction, h]
  dsimp only
  rw [if_neg (by simp; omega)]
  congr 1
  rw [List.set_append_right _ _ (by simp), List.length_map, Nat.sub_self,
    List.drop_eq_getElem_cons hl, List.set_cons_zero]

theorem map_effect_takeWhile_eq_iff {p : Stroke → Bool} :
    (es.takeWhile p).map Stroke.effect = es.map Stroke.effect ↔ ∀ e ∈ es, p e := by
  rw [← List.takeWhile_eq_self_iff]
  constructor
  case mp =>
    intro h
    have hl : (es.takeWhile p).length = es.length := by simpa using congrArg List.length h
    exact (List.takeWhile_prefix p).eq_of_length hl
  case mpr => exact congrArg (List.map Stroke.effect)

-- The whole action is replayed unless one of its strokes is the key with the code zero going down.
theorem sendKeySequence_parseAction_iff {es : List Stroke} {s : CString} {dest : List UInt16}
    (ha : Action es s) (hl : es.length ≤ 15) (hd : dest.length = 16) :
    ((parseAction s dest).1 = true ∧
      sendKeySequence (parseAction s dest).2 = es.map Stroke.effect) ↔
    ⟨0x00, true⟩ ∉ es := by
  rw [ha.parseAction_eq (by omega), sendKeySequence_pack, and_iff_right rfl,
    map_effect_takeWhile_eq_iff]
  constructor
  case mp  => exact fun h he => absurd (h _ he) (by decide)
  case mpr => exact fun h e he => decide_eq_true fun hz => h (hz ▸ he)

-- The default action for a swipe upwards.
theorem sendKeySequence_parseAction_swipeUp :
    let parsed := parseAction "3b d, 37 d, 7e d, 7e u, 37 u, 3b u".toList (.replicate 16 0)
    parsed.1 = true ∧ sendKeySequence parsed.2 = [
      .dispatchKeyboardEvent 0x3b true, .dispatchKeyboardEvent 0x37 true,
      .dispatchKeyboardEvent 0x7e true, .dispatchKeyboardEvent 0x7e false,
      .dispatchKeyboardEvent 0x37 false, .dispatchKeyboardEvent 0x3b false] :=
  have ha : Action [⟨0x3b, true⟩, ⟨0x37, true⟩, ⟨0x7e, true⟩, ⟨0x7e, false⟩, ⟨0x37, false⟩,
      ⟨0x3b, false⟩] "3b d, 37 d, 7e d, 7e u, 37 u, 3b u".toList :=
    .cons 1 ⟨'3', 'b', by decide, by decide, rfl⟩ <|
    .cons 1 ⟨'3', '7', by decide, by decide, rfl⟩ <|
    .cons 1 ⟨'7', 'e', by decide, by decide, rfl⟩ <|
    .cons 1 ⟨'7', 'e', by decide, by decide, rfl⟩ <|
    .cons 1 ⟨'3', '7', by decide, by decide, rfl⟩ <|
    .single ⟨'3', 'b', by decide, by decide, rfl⟩
  (sendKeySequence_parseAction_iff ha (by decide) rfl).mpr (by decide)

-- The command key stays down, since the key with the letter A has the code zero.
theorem not_sendKeySequence_parseAction : ¬∀ (es : List Stroke) (s : CString) (dest : List UInt16),
    Action es s → es.length ≤ 15 → dest.length = 16 →
    (parseAction s dest).1 = true ∧
      sendKeySequence (parseAction s dest).2 = es.map Stroke.effect := by
  intro h
  have ha : Action [⟨0x37, true⟩, ⟨0x00, true⟩, ⟨0x00, false⟩, ⟨0x37, false⟩]
      "37 d, 00 d, 00 u, 37 u".toList :=
    .cons 1 ⟨'3', '7', by decide, by decide, rfl⟩ <|
    .cons 1 ⟨'0', '0', by decide, by decide, rfl⟩ <|
    .cons 1 ⟨'0', '0', by decide, by decide, rfl⟩ <|
    .single ⟨'3', '7', by decide, by decide, rfl⟩
  have hs := (h _ _ (.replicate 16 0) ha (by decide) rfl).right
  revert hs
  decide

end Parse

end Keyboard
