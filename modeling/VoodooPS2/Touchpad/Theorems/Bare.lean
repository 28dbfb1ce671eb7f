import VoodooPS2.Touchpad.Theorems.Validity

namespace Touchpad

-- What the touchpad sends: its own packets, and those of a device on the external PS/2 port.
inductive StreamItem
  | alps (packet : List UInt8)
  | bare (b₀ b₁ b₂ : UInt8)

namespace StreamItem

def bytes : StreamItem → List UInt8
  | alps packet   => packet
  | bare b₀ b₁ b₂ => [b₀, b₁, b₂]

def packet? : StreamItem → Option (List UInt8)
  | alps packet => some packet
  | bare ..     => none

def WellFormed (priv : AlpsData) : StreamItem → Prop
  | alps packet => ValidPacket priv packet
  | bare b₀ _ _ => b₀ &&& 0xc8 = 0x08

end StreamItem

-- Bare packets are looked for, and can be told from the packets of the touchpad by their first byte.
structure Distinguishable (priv : AlpsData) : Prop where
  protoVersion : priv.protoVersion ≠ alpsProtoV8
  interleaved  : priv.flags &&& alpsPS2Interleaved = 0
  firstByte    : ∀ b, b &&& priv.mask0 = priv.byte0 → b &&& 0xc8 ≠ 0x08

-- The framer is at the start of a packet, and no packet waits to be read.
structure Synchronised (priv : AlpsData) (s : Framer) : Prop where
  holds : s.ringBuffer.Holds priv.pktsize []
  count : s.packetByteCount = 0

theorem Synchronised.represents (h : Synchronised priv s) : Represents s (.empty : Frame priv) :=
  .empty_of h.holds h.count

variable {priv : AlpsData} {packet : List UInt8}

theorem ValidPacket.not_bare (v : ValidPacket priv packet) (hd : Distinguishable priv) :
    ¬IsBare priv (packetOf packet) :=
  fun hb => hd.firstByte _ v.firstByte hb.right

theorem ValidPacket.not_rejects (v : ValidPacket priv packet) (hd : Distinguishable priv) {k : Nat} :
    ¬Rejects priv k (packetOf packet) := by
  refine (not_rejects_iff (v.not_bare hd)).mpr ⟨?_, ?_, ?_, ?_, ?_⟩
  · simp [IsStuffed, hd.interleaved]
  · simp [IsInvalidFirstByte, v.firstByte]
  · rintro ⟨hv, h₂, hk, h⟩
    exact h (v.highBit hv (k - 1) (by omega) (by omega))
  · rintro ⟨hv, h⟩
    simp [v.v7 hv] at h
  · rintro ⟨hv, h⟩
    simp [v.ss4v2 hv] at h

namespace Frame

variable {f : Frame priv} {b : UInt8} {q : List UInt8}

-- Checks that a whole packet passes are passed by what has been stored of it.
theorem not_rejects_of_valid (hd : Distinguishable priv) (v : ValidPacket priv (f.bytes ++ b :: q)) :
    ¬Rejects priv f.bytes.length (packetOf (f.bytes ++ [b])) := by
  have he : f.bytes ++ b :: q = (f.bytes ++ [b]) ++ q := by simp
  have := v.not_rejects hd (k := f.bytes.length)
  rwa [he, Rejects.congr (packetOf_append (by simp)) fun j hj => packetOf_append (by simp; omega)]
    at this

theorem not_bare_of_valid (hd : Distinguishable priv) (v : ValidPacket priv (f.bytes ++ b :: q)) :
    ¬IsBare priv (packetOf (f.bytes ++ [b])) := by
  have he : f.bytes ++ b :: q = (f.bytes ++ [b]) ++ q := by simp
  have := v.not_bare hd
  rwa [he, IsBare, packetOf_append (by simp)] at this

-- The rest of a valid packet completes it.
theorem run_valid (hd : Distinguishable priv) (v : ValidPacket priv (f.bytes ++ b :: q)) :
    (framing priv).run f (b :: q) = (.empty, [f.bytes ++ b :: q]) := by
  induction q generalizing f b
  case nil =>
    have hc : f.Completes b := ⟨not_bare_of_valid hd v, by simpa using v.length⟩
    simp [Mealy.run, framing, step, not_rejects_of_valid hd v, hc]
  case cons b' q hi =>
    have hc : ¬f.Completes b := by
      intro hc
      have := v.length
      have := hc.right
      simp at *
      omega
    have hr := not_rejects_of_valid hd v
    let f' : Frame priv := ⟨f.bytes ++ [b], f.length_concat_lt hr hc, f.checked_concat hr⟩
    have hs : (framing priv).step f b = (f', []) := by simp [framing, step, hr, hc, f']
    have := hi (f := f') (b := b') (by simpa [f'] using v)
    simp [Mealy.run, hs] at this ⊢
    simpa [f'] using this

-- Every packet takes as many bytes as it has.
theorem out_length_le (f : Frame priv) (bytes : List UInt8) :
    priv.pktsize * ((framing priv).out f bytes).length ≤ f.bytes.length + bytes.length := by
  induction bytes generalizing f
  case nil => simp
  case cons b bytes hi =>
    simp only [Mealy.out_cons, framing, step, List.length_append, List.length_cons]
    split
    case isTrue => have := hi empty; simp [empty, framing] at this ⊢; omega
    case isFalse hr =>
      split
      case isTrue hc =>
        have := hi empty
        have := hc.right
        simp [empty, framing, Nat.mul_add] at *
        omega
      case isFalse hc =>
        have := hi ⟨f.bytes ++ [b], f.length_concat_lt hr hc, f.checked_concat hr⟩
        simp [framing] at this ⊢
        omega

-- Too few bytes for a packet make no packet.
theorem out_short {bytes : List UInt8} (h : f.bytes.length + bytes.length < priv.pktsize) :
    (framing priv).out f bytes = [] := by
  rw [← List.length_eq_zero_iff]
  by_contra hl
  have := f.out_length_le bytes
  have := Nat.le_mul_of_pos_right priv.pktsize (Nat.pos_of_ne_zero hl)
  omega

-- After three bytes of a bare packet, the next byte is given up whatever it is.
theorem step_bare (hb : IsBare priv (packetOf (f.bytes ++ [b]))) :
    ((framing priv).step f b).1.bytes = if f.bytes.length = 3 then [] else f.bytes ++ [b] := by
  have hr : Rejects priv f.bytes.length (packetOf (f.bytes ++ [b])) ↔ f.bytes.length = 3 := by
    rw [Rejects, if_pos hb]
  have hc : ¬f.Completes b := fun hc => hc.left hb
  simp only [framing, step, dif_neg hc]
  split
  case isTrue h  => rw [if_pos (hr.mp h), empty]
  case isFalse h => rw [if_neg (hr.not.mp h)]

theorem state_bare {b₀ b₁ b₂ b₃ : UInt8} (hv : priv.protoVersion ≠ alpsProtoV8)
    (hb : b₀ &&& 0xc8 = 0x08) : (framing priv).state empty [b₀, b₁, b₂, b₃] = empty := by
  have hb : ∀ l, IsBare priv (packetOf (b₀ :: l)) := fun _ => ⟨hv, by simpa [packetOf] using hb⟩
  let f₁ := ((framing priv).step empty b₀).1
  let f₂ := ((framing priv).step f₁ b₁).1
  let f₃ := ((framing priv).step f₂ b₂).1
  have h₁ : f₁.bytes = [b₀] := step_bare (hb [])
  have h₂ : f₂.bytes = [b₀, b₁] := by
    rw [step_bare] <;> simp [h₁, hb]
  have h₃ : f₃.bytes = [b₀, b₁, b₂] := by
    rw [step_bare] <;> simp [h₂, hb]
  ext1
  show ((framing priv).step f₃ b₃).1.bytes = []
  rw [step_bare] <;> simp [h₃, hb]

end Frame

namespace StreamItem

variable {s : Framer} {items : List StreamItem}

-- Bare packets only come last: none is followed by another packet.
def BareLast (items : List StreamItem) : Prop :=
  ∀ pre b₀ b₁ b₂ post, items = pre ++ bare b₀ b₁ b₂ :: post → post = []

theorem out_alps (hd : Distinguishable priv) (v : ValidPacket priv packet) (bytes : List UInt8) :
    (framing priv).out .empty (packet ++ bytes) = packet :: (framing priv).out .empty bytes := by
  cases packet
  case nil => exact absurd v.length (Nat.ne_of_lt priv.pktsize_pos)
  case cons b q =>
    have hr : (framing priv).run .empty (b :: q) = (.empty, [b :: q]) := Frame.run_valid hd v
    rw [Mealy.out_append, Mealy.state, Mealy.out, hr]
    rfl

theorem out_bareLast (hd : Distinguishable priv) (hw : ∀ i ∈ items, i.WellFormed priv)
    (hl : BareLast items) :
    (framing priv).out .empty (items.flatMap bytes) = items.filterMap packet? := by
  induction items
  case nil => rfl
  case cons i items hi =>
    have hi := hi (fun j hj => hw j (.tail _ hj)) fun pre b₀ b₁ b₂ post he =>
      hl (i :: pre) b₀ b₁ b₂ post (he ▸ rfl)
    cases i
    case alps packet =>
      have v : ValidPacket priv packet := hw (.alps packet) (.head _)
      simp [bytes, packet?, out_alps hd v, hi]
    case bare b₀ b₁ b₂ =>
      obtain rfl : items = [] := hl [] b₀ b₁ b₂ items rfl
      apply Frame.out_short
      have := priv.six_le_pktsize
      simp [bytes, Frame.empty]
      omega

theorem flatMap_alps_length {packets : List (List UInt8)} (hp : ∀ p ∈ packets, ValidPacket priv p) :
    ((packets.map alps).flatMap bytes).length = priv.pktsize * packets.length := by
  induction packets
  case nil => rfl
  case cons p packets hi =>
    have hi := hi fun p' h => hp p' (.tail _ h)
    simp only [List.map_cons, List.flatMap_cons, List.length_append, hi, List.length_cons, bytes,
      (hp p (.head _)).length, Nat.mul_add, Nat.mul_one, Nat.add_comm]

@[simp]
theorem filterMap_alps {packets : List (List UInt8)} :
    (packets.map alps).filterMap packet? = packets := by
  simp [List.filterMap_map, Function.comp_def, packet?]

theorem out_alps_append (hd : Distinguishable priv) {packets : List (List UInt8)}
    (hp : ∀ p ∈ packets, ValidPacket priv p) (rest : List UInt8) :
    (framing priv).out .empty ((packets.map alps).flatMap bytes ++ rest) =
      packets ++ (framing priv).out .empty rest := by
  induction packets
  case nil => rfl
  case cons p packets hi =>
    have hi := hi fun p' h => hp p' (.tail _ h)
    simp only [List.map_cons, List.flatMap_cons, bytes, List.append_assoc, List.cons_append]
    rw [out_alps hd (hp p (.head _)), hi]

-- Behind a bare packet the framer takes the first byte of the next packet for the fourth byte of the
-- bare packet, so the bytes of the packets that follow are one too few.
theorem out_bare_lt (hd : Distinguishable priv) {packets : List (List UInt8)}
    (hp : ∀ p ∈ packets, ValidPacket priv p) (hn : packets ≠ []) {b₀ b₁ b₂ : UInt8}
    (hb : b₀ &&& 0xc8 = 0x08) :
    ((framing priv).out .empty ([b₀, b₁, b₂] ++ (packets.map alps).flatMap bytes)).length <
      packets.length := by
  have hl := flatMap_alps_length hp
  have hpos : 0 < priv.pktsize * packets.length :=
    Nat.mul_pos priv.pktsize_pos (List.length_pos_iff.mpr hn)
  obtain ⟨b, q, hq⟩ := List.exists_cons_of_length_pos (hl ▸ hpos)
  have hs : [b₀, b₁, b₂] ++ (packets.map alps).flatMap bytes = [b₀, b₁, b₂, b] ++ q := by simp [hq]
  have ho : (framing priv).out .empty [b₀, b₁, b₂, b] = [] := by
    apply Frame.out_short
    have := priv.six_le_pktsize
    simp [Frame.empty]
    omega
  rw [hs, Mealy.out_append, Frame.state_bare hd.protoVersion hb, ho, List.nil_append]
  have hle := (Frame.empty : Frame priv).out_length_le q
  refine Nat.lt_of_mul_lt_mul_left (a := priv.pktsize) ?_
  simp only [hq, List.length_cons] at hl
  simp only [Frame.empty, List.length_nil] at hle ⊢
  omega

end StreamItem

open StreamItem

-- The touchpad's packets get through as long as no packet follows a bare one. If there is a single
-- bare packet, then they only get through if that one comes last.
theorem promptFramer_bare {s : Framer} {items : List StreamItem} (hd : Distinguishable priv)
    (hs : Synchronised priv s) (hw : ∀ i ∈ items, i.WellFormed priv) :
    (BareLast items →
      (promptFramer priv).out s (items.flatMap bytes) = items.filterMap packet?) ∧
    (∀ (pre post : List (List UInt8)) b₀ b₁ b₂,
      items = pre.map alps ++ bare b₀ b₁ b₂ :: post.map alps → post ≠ [] →
      (promptFramer priv).out s (items.flatMap bytes) ≠ items.filterMap packet?) := by
  rw [(promptFramer_simulates priv).run_out (.of_forall fun _ _ => trivial) hs.represents]
  constructor
  case left => exact out_bareLast hd hw
  case right =>
    rintro pre post b₀ b₁ b₂ rfl hn h
    have hp : ∀ p ∈ pre, ValidPacket priv p := fun p hp => hw (alps p) (by simp [hp])
    have hq : ∀ p ∈ post, ValidPacket priv p := fun p hp => hw (alps p) (by simp [hp])
    have hb : b₀ &&& 0xc8 = 0x08 := hw (bare b₀ b₁ b₂) (by simp)
    rw [List.flatMap_append, out_alps_append hd hp, List.filterMap_append, filterMap_alps,
      List.append_cancel_left_eq, List.filterMap_cons_none rfl, filterMap_alps] at h
    exact Nat.ne_of_lt (out_bare_lt hd hq hn hb) (congrArg List.length h)

theorem privV3_distinguishable : Distinguishable privV3 where
  protoVersion := by decide
  interleaved  := by decide
  firstByte b h hb := by
    have he : b &&& 0x8f &&& 0x80 = b &&& 0xc8 &&& 0x80 := by
      rw [UInt8.and_assoc, UInt8.and_assoc]
      rfl
    rw [hb, show b &&& 0x8f = 0x8f from h] at he
    exact absurd he (by decide)

theorem zero_synchronised : Synchronised privV3 .zero where
  holds := .reset (r := Framer.zero.ringBuffer) (by decide) (by decide) (by decide)
  count := rfl

-- A packet of a Pinnacle touchpad at rest.
def packetV3 : List UInt8 :=
  [0x8f, 0, 0, 0, 0, 0]

theorem packetV3_valid : ValidPacket privV3 packetV3 where
  length    := rfl
  firstByte := by decide
  highBit   := by decide
  v7        := by decide
  ss4v2     := by decide

theorem promptFramer_bare_packetV3 :
    (promptFramer privV3).out .zero ([alps packetV3, bare 0x08 1 2].flatMap bytes) = [packetV3] := by
  refine (promptFramer_bare privV3_distinguishable zero_synchronised ?_).left ?_
  · intro i hi
    simp only [List.mem_cons, List.not_mem_nil, or_false] at hi
    rcases hi with rfl | rfl
    · exact packetV3_valid
    · exact rfl
  · intro pre b₀ b₁ b₂ post h
    have := congrArg List.length h
    rcases pre with _ | ⟨_, _ | ⟨_, _⟩⟩ <;> simp_all

theorem not_promptFramer_bare : ¬∀ (priv : AlpsData) (s : Framer) (items : List StreamItem),
    Distinguishable priv → Synchronised priv s → (∀ i ∈ items, i.WellFormed priv) →
    (promptFramer priv).out s (items.flatMap bytes) = items.filterMap packet? := by
  intro h
  have := h privV3 .zero [bare 0x08 1 2, alps packetV3] privV3_distinguishable zero_synchronised
  refine absurd (this ?_) (by decide)
  intro i hi
  simp only [List.mem_cons, List.not_mem_nil, or_false] at hi
  rcases hi with rfl | rfl
  · exact rfl
  · exact packetV3_valid

end Touchpad
