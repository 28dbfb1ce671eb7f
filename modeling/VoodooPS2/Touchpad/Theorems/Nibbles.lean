import VoodooPS2.Machine.PrefixFree
import VoodooPS2.Touchpad.Theorems.HwInit

namespace Touchpad

open Controller Dialogue

-- The bytes that a request sends to the mouse.
def mouseBytes (request : List PS2Command) : List UInt8 :=
  request.filterMap fun c => if c.command = .sendMouseCommandAndCompareAck then some c.byte₀ else none

-- The stream that is sent by several requests.
def sent (xs : List Exchange) : List UInt8 :=
  xs.flatMap fun x => mouseBytes x.request

-- A device that acknowledges every command.
def Acknowledges (answers : Nat → Response) : Prop :=
  ∀ n, (answers n).stoppedAt = none

-- With such a device the program succeeds, and the stream is always the same.
def Sends (p : Talk Bool) (bytes : List UInt8) : Prop :=
  ∀ answers, Acknowledges answers →
    (p answers).val = true ∧ sent (p answers).log = bytes ∧ Acknowledges (p answers).rest

namespace Sends

variable {p q : Talk Bool} {b c : List UInt8}

theorem submitted (request : List PS2Command) : Sends (submitted request) (mouseBytes request) := by
  intro answers h
  have hc : Exchange.Complete ⟨request, answers 0⟩ := by
    simp [Exchange.Complete, Exchange.commandsCount, h 0]
  refine ⟨decide_eq_true hc, ?_, fun n => h (n + 1)⟩
  exact List.flatMap_singleton (fun x : Exchange => mouseBytes x.request) _

theorem andThen (hp : Sends p b) (hq : Sends q c) : Sends (p.andThen q) (b ++ c) := by
  intro answers h
  have ⟨hv, hb, hr⟩ := hp answers h
  have ⟨hv', hb', hr'⟩ := hq _ hr
  have he : (p.andThen q) answers = ⟨(q (p answers).rest).val, (q (p answers).rest).rest,
      (p answers).log ++ (q (p answers).rest).log⟩ := by
    have hi : (if (p answers).val = true then q else pure false) = q := if_pos hv
    exact congrArg (fun r : Talk Bool =>
      (⟨(r (p answers).rest).val, (r (p answers).rest).rest,
        (p answers).log ++ (r (p answers).rest).log⟩ : Outcome Response Exchange Bool)) hi
  rw [he]
  exact ⟨hv', by simp [sent, ← hb, ← hb'], hr'⟩

theorem all {α : Type} {f : α → Talk Bool} {g : α → List UInt8} {l : List α}
    (h : ∀ a ∈ l, Sends (f a) (g a)) : Sends (.all (l.map f)) (l.flatMap g) := by
  induction l
  case nil         => exact fun _ h => ⟨rfl, rfl, h⟩
  case cons a l hi =>
    rw [List.forall_mem_cons] at h
    exact h.left.andThen (hi h.right)

end Sends

structure RegisterWrite where
  addr  : UInt32
  value : UInt8
  deriving DecidableEq

namespace RegisterWrite

-- The nibbles of the address and of the value, the highest one first.
def nibbles (w : RegisterWrite) : List UInt32 :=
  [12, 8, 4, 0].map (fun i => w.addr.shiftRight i &&& 0xf) ++
    [w.value.toUInt32.shiftRight 4 &&& 0xf, w.value.toUInt32 &&& 0xf]

end RegisterWrite

variable {m : CommandMode} {w : RegisterWrite} {ws : List RegisterWrite}

-- The bytes that stand for a nibble.
def CommandMode.nibbleBytes (m : CommandMode) (nibble : UInt32) : List UInt8 :=
  mouseBytes (m.nibbleCommands.getD nibble.toNat (noData 0)).request

def CommandMode.writeBytes (m : CommandMode) (w : RegisterWrite) : List UInt8 :=
  m.addrCommand :: w.nibbles.flatMap m.nibbleBytes

-- Several registers are written, one after the other.
def writeRegisters (m : CommandMode) (ws : List RegisterWrite) : Talk Bool :=
  .all (ws.map fun w => alpsCommandModeWriteRegAt m w.addr w.value)

theorem sendNibble_sends {nibble : UInt32} :
    Sends (alpsCommandModeSendNibble m nibble) (m.nibbleBytes nibble) :=
  sendNibble_eq ▸ Sends.submitted _

theorem writeRegAt_sends : Sends (alpsCommandModeWriteRegAt m w.addr w.value) (m.writeBytes w) := by
  have ha := (Sends.submitted [sendMouse m.addrCommand]).andThen <|
    Sends.all (f := fun i : UInt32 => alpsCommandModeSendNibble m (w.addr.shiftRight i &&& 0xf))
      (l := [12, 8, 4, 0]) fun _ _ => sendNibble_sends
  have hv := (@sendNibble_sends m (w.value.toUInt32.shiftRight 4 &&& 0xf)).andThen
    (@sendNibble_sends m (w.value.toUInt32 &&& 0xf))
  have hb : mouseBytes [sendMouse m.addrCommand] ++
      [12, 8, 4, 0].flatMap (fun i => m.nibbleBytes (w.addr.shiftRight i &&& 0xf)) ++
      (m.nibbleBytes (w.value.toUInt32.shiftRight 4 &&& 0xf) ++ m.nibbleBytes (w.value.toUInt32 &&& 0xf)) =
        m.writeBytes w := by
    simp [CommandMode.writeBytes, RegisterWrite.nibbles, mouseBytes, sendMouse]
  exact hb ▸ ha.andThen hv

theorem writeRegisters_sends : Sends (writeRegisters m ws) (ws.flatMap m.writeBytes) :=
  Sends.all fun _ _ => writeRegAt_sends

section Decoding

-- The nibbles and the register writes that there are.
def IsNibble (nibble : UInt32) : Prop :=
  nibble.toNat < 16

def RegisterWrite.InRange (w : RegisterWrite) : Prop :=
  w.addr.toNat < 2 ^ 16

theorem and_isNibble {n : UInt32} : IsNibble (n &&& 0xf) := by
  rw [IsNibble, UInt32.toNat_and]
  exact lt_of_le_of_lt Nat.and_le_right (by decide)

theorem RegisterWrite.nibbles_isNibble : ∀ n ∈ w.nibbles, IsNibble n := by
  simp only [nibbles, List.map_cons, List.map_nil, List.cons_append, List.nil_append, List.forall_mem_cons]
  exact ⟨and_isNibble, and_isNibble, and_isNibble, and_isNibble, and_isNibble, and_isNibble, by simp⟩

theorem toNat_lowNibble {n : UInt32} : (n &&& 0xf).toNat = n.toNat % 16 := by
  rw [UInt32.toNat_and]
  exact Nat.and_two_pow_sub_one_eq_mod _ 4

theorem toNat_nibble {n i : UInt32} (hi : i.toNat < 32) :
    (n.shiftRight i &&& 0xf).toNat = n.toNat / 2 ^ i.toNat % 16 := by
  have h : (n.shiftRight i).toNat = n.toNat >>> (i.toNat % 32) := UInt32.toNat_shiftRight n i
  rw [toNat_lowNibble, h, Nat.mod_eq_of_lt hi, Nat.shiftRight_eq_div_pow]

theorem RegisterWrite.toNat_nibbles : w.nibbles.map UInt32.toNat =
    [w.addr.toNat / 2 ^ 12 % 16, w.addr.toNat / 2 ^ 8 % 16, w.addr.toNat / 2 ^ 4 % 16, w.addr.toNat / 2 ^ 0 % 16,
      w.value.toNat / 2 ^ 4 % 16, w.value.toNat % 16] := by
  simp only [nibbles, List.map_cons, List.map_nil, List.cons_append, List.nil_append]
  rw [toNat_nibble (by decide), toNat_nibble (by decide), toNat_nibble (by decide), toNat_nibble (by decide),
    toNat_nibble (by decide), toNat_lowNibble, UInt8.toNat_toUInt32]
  rfl

-- The nibbles make up the address and the value.
theorem RegisterWrite.nibbles_injective {v : RegisterWrite} (hv : v.InRange) (hw : w.InRange)
    (h : v.nibbles = w.nibbles) : v = w := by
  have hn := congrArg (List.map UInt32.toNat) h
  rw [toNat_nibbles, toNat_nibbles] at hn
  simp only [List.cons.injEq, and_true] at hn
  simp only [InRange] at hv hw
  have hv' := v.value.toNat_lt
  have hw' := w.value.toNat_lt
  have ha : v.addr.toNat = w.addr.toNat := by omega
  have hb : v.value.toNat = w.value.toNat := by omega
  cases v
  cases w
  exact congr (congrArg mk (UInt32.toNat_inj.mp ha)) (UInt8.toNat_inj.mp hb)

theorem v3_prefixFree : PrefixFree IsNibble CommandMode.v3.nibbleBytes := by
  have h : ∀ a < 16, ∀ b < 16, mouseBytes (alpsV3NibbleCommands.getD a (noData 0)).request <+:
      mouseBytes (alpsV3NibbleCommands.getD b (noData 0)).request → a = b := by decide +kernel
  exact fun a b ha hb hp => UInt32.toNat_inj.mp (h _ ha _ hb hp)

theorem v4_prefixFree : PrefixFree IsNibble CommandMode.v4.nibbleBytes := by
  have h : ∀ a < 16, ∀ b < 16, mouseBytes (alpsV4NibbleCommands.getD a (noData 0)).request <+:
      mouseBytes (alpsV4NibbleCommands.getD b (noData 0)).request → a = b := by decide +kernel
  exact fun a b ha hb hp => UInt32.toNat_inj.mp (h _ ha _ hb hp)

-- A write can be told from what follows, since the number of its nibbles is known.
theorem writeBytes_prefixFree (h : PrefixFree IsNibble m.nibbleBytes) :
    PrefixFree RegisterWrite.InRange m.writeBytes := by
  intro v w hv hw ⟨s, hs⟩
  have he := (List.cons.inj hs).right
  have hn := h.split_flatMap v.nibbles_isNibble w.nibbles_isNibble rfl (he.trans (List.append_nil _).symm)
  exact RegisterWrite.nibbles_injective hv hw hn.left

-- What is written can be decoded, and every nibble can be sent.
structure CommandMode.Unambiguous (m : CommandMode) : Prop where
  -- the registers that are written, and their values, are known from the stream
  decodable : ∀ vs ws : List RegisterWrite, (∀ v ∈ vs, v.InRange) → (∀ w ∈ ws, w.InRange) →
    ∀ answers₁ answers₂, Acknowledges answers₁ → Acknowledges answers₂ →
      sent (writeRegisters m vs answers₁).log = sent (writeRegisters m ws answers₂).log → vs = ws
  -- a request is made for every nibble, with no more than two commands
  accepted  : ∀ nibble, IsNibble nibble → ∃ request, request.length ≤ 2 ∧
    alpsCommandModeSendNibble m nibble = submitted request
  -- the other requests of a write are no longer either
  fits      : ∀ ws : List RegisterWrite, (writeRegisters m ws).Logs Exchange.Short

theorem unambiguous_of_prefixFree (h : PrefixFree IsNibble m.nibbleBytes) : m.Unambiguous where
  decodable vs ws hv hw r₁ r₂ h₁ h₂ he := by
    apply (writeBytes_prefixFree h).flatMap_injective (fun _ _ => List.cons_ne_nil _ _) hv hw
    rwa [(writeRegisters_sends r₁ h₁).right.left, (writeRegisters_sends r₂ h₂).right.left] at he
  accepted nibble _ := ⟨_, fits_nibble.length_le, sendNibble_eq⟩
  fits ws := by
    apply Logs.all
    intro p hp
    have ⟨w, _, he⟩ := List.mem_map.mp hp
    exact he ▸ setAddr_logs.andThen (sendNibble_logs.andThen sendNibble_logs)

-- Both of the tables are free of ambiguities, with the commands that introduce an address.
theorem nibbles_unambiguous : CommandMode.v3.Unambiguous ∧ CommandMode.v4.Unambiguous :=
  ⟨unambiguous_of_prefixFree v3_prefixFree, unambiguous_of_prefixFree v4_prefixFree⟩

end Decoding

end Touchpad
