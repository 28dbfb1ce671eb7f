import VoodooPS2.Keyboard.Macro
import VoodooPS2.Machine.Splicing

namespace Keyboard

section Events

def Event.packet? : Event → Option Packet
  | .packet p => some p
  | _         => none

-- The packets that are passed to `dispatchKeyboardEventWithPacket`.
def packets (es : List Event) : List Packet :=
  es.filterMap Event.packet?

@[simp]
theorem packets_nil : packets [] = [] :=
  rfl

@[simp]
theorem packets_append {es es' : List Event} : packets (es ++ es') = packets es ++ packets es' :=
  List.filterMap_append

@[simp]
theorem packets_effects {effects : List Effect} : packets (effects.map .effect) = [] := by
  simp [packets, Event.packet?]

end Events

section Macros

variable {c : Inversion} {macros : List Macro} {m : Macro}

theorem Macro.sequence_length_pos : 0 < m.sequence.length := by
  have : 10 ≤ m.data.length := m.long
  have : m.sequence.length = m.data.length - 8 := List.length_drop
  omega

theorem loadMacroData_ne_nil {array : Option (List (Option (List UInt8)))}
    (h : loadMacroData array = some macros) : macros ≠ [] := by
  cases array
  case none         => cases h
  case some objects =>
    simp only [loadMacroData] at h
    split at h
    case isTrue     => cases h
    case isFalse hn =>
      cases h
      exact fun he => hn (he ▸ rfl)

theorem le_foldl_max {n : Nat} :
    n ≤ macros.foldl (fun max m => if m.sequence.length > max then m.sequence.length else max) n := by
  induction macros generalizing n
  case nil         => exact le_rfl
  case cons m _ hi =>
    rw [List.foldl_cons]
    refine le_trans ?_ hi
    split <;> omega

theorem sequence_le_foldl_max {n : Nat} (hm : m ∈ macros) : m.sequence.length ≤
    macros.foldl (fun max m => if m.sequence.length > max then m.sequence.length else max) n := by
  induction macros generalizing n
  case nil          => simp at hm
  case cons m' _ hi =>
    cases hm
    case head =>
      rw [List.foldl_cons]
      refine le_trans ?_ le_foldl_max
      split <;> omega
    case tail hm => exact hi hm

theorem Inversion.sequence_le_macroMax (h : c.macroInversion = some macros) (hm : m ∈ macros) :
    m.sequence.length ≤ c.macroMax := by
  simp only [macroMax, h]
  exact sequence_le_foldl_max hm

-- There is room for a packet.
theorem Inversion.macroMax_pos (h : c.macroInversion = some macros) : 0 < c.macroMax := by
  have ⟨m, hm⟩ := List.exists_mem_of_ne_nil _ (loadMacroData_ne_nil h)
  exact Nat.lt_of_lt_of_le m.sequence_length_pos (sequence_le_macroMax h hm)

end Macros

namespace Inverter

section Find

variable {buffer : List Packet} {macros : List Macro} {ps2modifierState : UInt16}

theorem compareMacro_iff {data : List UInt8} :
    compareMacro buffer data ↔ buffer.flatMap Packet.keyData <+: data := by
  induction buffer, data using compareMacro.induct
  case case1 => simp [compareMacro]
  case case2 p buffer d₀ d₁ data hi =>
    simp [compareMacro, Packet.keyData, List.cons_prefix_cons, hi, and_assoc]
  case case3 p buffer data h =>
    simp only [compareMacro, Bool.false_eq_true, List.flatMap_cons, Packet.keyData, false_iff]
    rintro ⟨l, hl⟩
    exact h _ _ _ hl.symm

-- A macro that is found has the buffer for its sequence, or for the beginning of it.
def Found.Sound (macros : List Macro) (buffer : List Packet) : Found → Prop
  | .exact m => m ∈ macros ∧ buffer.flatMap Packet.keyData = m.sequence
  | .begun   => ∃ m ∈ macros, buffer.length * kPacketKeyDataLength < m.sequence.length
  | .nothing => True

theorem keyData_length : (buffer.flatMap Packet.keyData).length = buffer.length * kPacketKeyDataLength := by
  simp [List.length_flatMap, Packet.keyData]

theorem Found.Sound.cons {found : Found} {m : Macro} (h : found.Sound macros buffer) :
    found.Sound (m :: macros) buffer := by
  cases found
  case exact   => exact ⟨List.mem_cons_of_mem _ h.left, h.right⟩
  case begun   => exact h.imp fun _ ⟨hm, hl⟩ => ⟨List.mem_cons_of_mem _ hm, hl⟩
  case nothing => trivial

theorem find_sound : (find ps2modifierState buffer macros).Sound macros buffer := by
  induction macros
  case nil         => trivial
  case cons m _ hi =>
    simp only [find]
    split
    case isFalse => exact hi.cons
    case isTrue h =>
      split
      case isFalse hl => exact ⟨m, List.mem_cons_self, Nat.lt_of_le_of_ne h.left hl⟩
      case isTrue hl  =>
        split
        case isFalse => exact hi.cons
        case isTrue  =>
          exact ⟨List.mem_cons_self, (compareMacro_iff.mp h.right).eq_of_length (keyData_length.trans hl)⟩

end Find

section Dispatch

variable {cfg : Config} {v : KeyBits} {d : Dispatcher} {p : Packet} {s : Inverter}

theorem packets_dispatch : packets (dispatch cfg v d p).2 = [p] :=
  congrArg (p :: ·) packets_effects

theorem packets_dispatchAll {ps : List Packet} : packets (dispatchAll cfg v d ps).2 = ps := by
  induction ps generalizing d
  case nil         => rfl
  case cons p _ hi => simp [dispatchAll, packets_dispatch, hi]

theorem buffered_length : s.buffered.length = s.macroCurrent := by
  simp [buffered]

theorem buffered_eq_nil (h : s.macroCurrent = 0) : s.buffered = [] :=
  List.length_eq_zero_iff.mp (buffered_length.trans h)

-- A copied packet comes behind those that are in the buffer.
theorem compared_copied : { s with macroBuffer := Function.update s.macroBuffer s.macroCurrent p }.compared =
    s.buffered ++ [p] := by
  simp only [compared, buffered, List.range_succ, List.map_append, List.map_cons, List.map_nil,
    Function.update_self]
  congr 1
  refine List.map_congr_left fun i hi => ?_
  exact Function.update_of_ne (List.mem_range.mp hi).ne _ _

theorem buffered_copied : { s with macroBuffer := Function.update s.macroBuffer s.macroCurrent p }.buffered =
    s.buffered := by
  refine List.map_congr_left fun i hi => ?_
  exact Function.update_of_ne (List.mem_range.mp hi).ne _ _

end Dispatch

end Inverter

-- The packets of a segment are the sequence of a macro, and the packet in their place is its output.
def Inversion.Inverts (c : Inversion) (seg : List Packet) (p : Packet) : Prop :=
  ∃ macros ∈ c.macroInversion, ∃ m ∈ macros,
    seg.flatMap Packet.keyData = m.sequence ∧ p.keyData = m.output

namespace Inverter

variable {cfg : Config} {c : Inversion} {v : KeyBits} {s : Inverter} {ps ps' : List Packet} {p : Packet}
variable {r t : Inverter × List Event} {now : UInt64}

-- Packets are only kept for macros, and there is room for one more.
def Fits (c : Inversion) (s : Inverter) : Prop :=
  s.macroCurrent > 0 → c.macroInversion ≠ none ∧ c.macroTimer = true ∧ s.macroCurrent < c.macroMax

-- The packets that were in the buffer, and those that are new, are dispatched, up to the splicing, or they
-- are in the buffer afterwards.
def Splices (c : Inversion) (s : Inverter) (ps : List Packet) (r : Inverter × List Event) : Prop :=
  ∃ l, s.buffered ++ ps = l ++ r.1.buffered ∧ Spliced c.Inverts l (packets r.2)

namespace Splices

theorem refl : Splices c s [] (s, []) :=
  ⟨[], List.append_nil _, .nil⟩

theorem trans (h : Splices c s ps r) (h' : Splices c r.1 ps' t) :
    Splices c s (ps ++ ps') (t.1, r.2 ++ t.2) := by
  have ⟨l, he, hl⟩ := h
  have ⟨l', he', hl'⟩ := h'
  refine ⟨l ++ l', ?_, packets_append ▸ hl.append hl'⟩
  rw [← List.append_assoc, he, List.append_assoc, he', List.append_assoc]

end Splices

theorem dispatchPacket_splices (h : s.macroCurrent = 0) : Splices c s [p] (s.dispatchPacket cfg v p) := by
  refine ⟨[p], ?_, packets_dispatch ▸ .refl _⟩
  have hs : (s.dispatchPacket cfg v p).1.buffered = [] := buffered_eq_nil h
  rw [hs, buffered_eq_nil h]
  rfl

theorem dispatchInvertBuffer_splices : Splices c s [] (s.dispatchInvertBuffer cfg v) :=
  ⟨s.buffered, rfl, packets_dispatchAll ▸ .refl _⟩

-- Whatever is given up, the buffer has not become fuller.
theorem dispatchExpired_spec : Splices c s [] (s.dispatchExpired cfg c v now) ∧
    (s.dispatchExpired cfg c v now).1.macroCurrent ≤ s.macroCurrent := by
  simp only [dispatchExpired]
  split
  case isTrue  => exact ⟨dispatchInvertBuffer_splices, Nat.zero_le _⟩
  case isFalse => exact ⟨.refl, le_rfl⟩

theorem Fits.of_le {s' : Inverter} (h : s.Fits c) (hl : s'.macroCurrent ≤ s.macroCurrent) : s'.Fits c :=
  fun hp =>
    have ⟨hm, ht, hr⟩ := h (Nat.lt_of_lt_of_le hp hl)
    ⟨hm, ht, Nat.lt_of_le_of_lt hl hr⟩

theorem Fits.of_zero (h : s.macroCurrent = 0) : s.Fits c :=
  fun hp => absurd h hp.ne'

-- A packet is either dealt with, or it is left for the caller, who finds the buffer empty.
structure Inverted (c : Inversion) (s : Inverter) (p : Packet) (r : Inverter × List Event × Bool) :
    Prop where
  fits  : r.1.Fits c
  dealt : r.2.2 = true → Splices c s [p] (r.1, r.2.1)
  left  : r.2.2 = false → Splices c s [] (r.1, r.2.1) ∧ r.1.macroCurrent = 0

theorem finish_spec {macros : List Macro} {found : Found} (hm : c.macroInversion = some macros)
    (ht : c.macroTimer = true) (hc : s.compared = s.buffered ++ [p]) (hf : found.Sound macros s.compared) :
    Inverted c s p (s.finish cfg v found) := by
  cases found
  case exact m =>
    have hr : c.Inverts s.compared (s.inverted m) := ⟨macros, hm, m, hf.left, hf.right, rfl⟩
    refine ⟨.of_zero rfl, fun _ => ⟨s.compared, ?_, ?_⟩, Bool.noConfusion⟩
    · exact hc ▸ (List.append_nil _).symm
    · exact packets_dispatch ▸ .single hr
  case begun =>
    have ⟨m, hm', hl⟩ := hf
    have hr : s.macroCurrent + 1 < c.macroMax := by
      have : s.compared.length * 2 < m.sequence.length := hl
      have := Inversion.sequence_le_macroMax hm hm'
      have : s.compared.length = s.macroCurrent + 1 := by simp [compared]
      omega
    refine ⟨fun _ => ⟨by simp [hm], ht, hr⟩, fun _ => ⟨[], hc.symm, .nil⟩, Bool.noConfusion⟩
  case nothing =>
    have hs : Splices c s [] (if s.macroCurrent > 0 then s.dispatchInvertBuffer cfg v else (s, [])) ∧
        (if s.macroCurrent > 0 then s.dispatchInvertBuffer cfg v else (s, [])).1.macroCurrent = 0 := by
      split
      case isTrue    => exact ⟨dispatchInvertBuffer_splices, rfl⟩
      case isFalse h => exact ⟨.refl, Nat.eq_zero_of_not_pos h⟩
    exact ⟨.of_zero hs.right, Bool.noConfusion, fun _ => hs⟩

theorem copy_eq {macros : List Macro} (hm : c.macroInversion = some macros) (h : s.Fits c) :
    s.copy c p = some { s with macroBuffer := Function.update s.macroBuffer s.macroCurrent p } := by
  apply if_pos
  cases Nat.eq_zero_or_pos s.macroCurrent
  case inl hz => exact hz ▸ Inversion.macroMax_pos hm
  case inr hp => exact (h hp).right.right

theorem invertMacros_spec {macros : List Macro} (hm : c.macroInversion = some macros) (h : s.Fits c) :
    ∃ r, s.invertMacros cfg c v macros p = some r ∧ Inverted c s p r := by
  simp only [invertMacros]
  split
  case isTrue ht =>
    -- the packets that are late have left the buffer
    have ⟨hs, hl⟩ := @dispatchExpired_spec cfg c v s p.time
    generalize s.dispatchExpired cfg c v p.time = r at hs hl
    rw [copy_eq hm (h.of_le hl)]
    let s' := { r.1 with macroBuffer := Function.update r.1.macroBuffer r.1.macroCurrent p }
    have hc : s'.compared = s'.buffered ++ [p] :=
      compared_copied.trans (congrArg (· ++ [p]) buffered_copied.symm)
    have ⟨hf, hd, hn⟩ := @finish_spec cfg c v s' p macros _ hm ht hc
      (@find_sound _ macros s'.dispatcher.ps2modifierState)
    -- the copy is not in the buffer yet
    have hs' {ps : List Packet} {t : Inverter × List Event} (h' : Splices c s' ps t) :
        Splices c s ps (t.1, r.2 ++ t.2) :=
      hs.trans (h'.imp fun _ ⟨he, hl⟩ => ⟨buffered_copied ▸ he, hl⟩)
    exact ⟨_, rfl, hf, fun ho => hs' (hd ho), fun ho => ⟨hs' (hn ho).left, (hn ho).right⟩⟩
  case isFalse ht =>
    have hz : s.macroCurrent = 0 := Nat.eq_zero_of_not_pos fun hp => ht (h hp).right.left
    exact ⟨_, rfl, .of_zero hz, Bool.noConfusion, fun _ => ⟨.refl, hz⟩⟩

theorem invert_spec (h : s.Fits c) :
    ∃ r, s.invert cfg c v p = some r ∧ r.1.Fits c ∧ Splices c s [p] r := by
  simp only [invert]
  split
  case h_1 hm =>
    have hz : s.macroCurrent = 0 := Nat.eq_zero_of_not_pos fun hp => (h hp).left hm
    exact ⟨_, rfl, .of_zero hz, dispatchPacket_splices hz⟩
  case h_2 macros hm =>
    have ⟨⟨s', es, ok⟩, hr, hf, hd, hn⟩ := @invertMacros_spec cfg c v s p macros hm h
    rw [hr]
    cases ok
    case true  => exact ⟨_, rfl, hf, hd rfl⟩
    case false =>
      have ⟨hs, hz⟩ := hn rfl
      exact ⟨_, rfl, .of_zero hz, hs.trans (dispatchPacket_splices hz)⟩

end Inverter

section Run

variable {cfg : Config} {c : Inversion} {s : Inverter} {a : MacroAct} {acts : List MacroAct}

-- The packets of the keys that are handled.
def MacroAct.keys : MacroAct → List Packet
  | .packet _ p => if p.byte₀ ≠ 0x00 then [p] else []
  | .timer _ _  => []

theorem inverter_step (h : s.Fits c) : ∃ r, (inverter cfg c).step (some s) a = (some r.1, r.2) ∧
    r.1.Fits c ∧ s.Splices c a.keys r := by
  cases a
  case timer v now =>
    have ⟨hs, hl⟩ := @Inverter.dispatchExpired_spec cfg c v s now
    exact ⟨_, rfl, h.of_le hl, hs⟩
  case packet v p =>
    by_cases hp : p.byte₀ ≠ 0x00
    case pos =>
      have ⟨r, hr, hf, hs⟩ := @Inverter.invert_spec cfg c v s p h
      refine ⟨r, Mealy.halting_step_some ?_, hf, ?_⟩
      · simpa [Inverter.handle, hp] using hr
      · simpa [MacroAct.keys, hp] using hs
    case neg =>
      refine ⟨(s, [.reset]), Mealy.halting_step_some ?_, h, ?_⟩
      · simp [Inverter.handle, hp]
      · simpa [MacroAct.keys, hp] using ⟨[], List.append_nil _, .nil⟩

-- The packets in the buffer, unless there has been an overrun.
def held (s : Option Inverter) : List Packet :=
  s.elim [] Inverter.buffered

-- No run overruns the buffer. The packets that are dispatched, followed by those in the buffer, are the
-- packets of the keys, up to the macros in their place.
theorem inverter_spliced (cfg : Config) (c : Inversion) (d : Dispatcher) (macroBuffer : Nat → Packet)
    (acts : List MacroAct) : ∃ s, (inverter cfg c).state (some ⟨d, macroBuffer, 0⟩) acts = some s ∧
      Spliced c.Inverts (acts.flatMap MacroAct.keys)
        (packets ((inverter cfg c).out (some ⟨d, macroBuffer, 0⟩) acts) ++ s.buffered) := by
  have step (o : Option Inverter) (a : MacroAct) (ho : ∃ s, o = some s ∧ s.Fits c) :
      (∃ s, ((inverter cfg c).step o a).1 = some s ∧ s.Fits c) ∧
        ∃ l, held o ++ a.keys = l ++ held ((inverter cfg c).step o a).1 ∧
          Spliced c.Inverts l (((inverter cfg c).step o a).2.filterMap Event.packet?) := by
    obtain ⟨s, rfl, hf⟩ := ho
    have ⟨r, hr, hf', hs⟩ := @inverter_step cfg c s a hf
    exact hr ▸ ⟨⟨r.1, rfl, hf'⟩, hs⟩
  have h : ∃ s, some (Inverter.mk d macroBuffer 0) = some s ∧ s.Fits c := ⟨_, rfl, .of_zero rfl⟩
  have ⟨⟨s, hs, _⟩, l, he, hl⟩ := @Mealy.spliced_run _ _ _ _ _ _ _ acts _ _ _ _ step h
  refine ⟨s, hs, ?_⟩
  have he : acts.flatMap MacroAct.keys = l ++ s.buffered := by
    simpa [held, hs, Inverter.buffered] using he
  exact he ▸ hl.append (.refl _)

-- A macro of two packets, and an entry of the array that is too short.
example : packets ((inverter {} { array := some [some [0xff, 0xff],
      some [0xff, 0xff, 0x02, 0x6e, 0x00, 0x00, 0x00, 0x00, 0x02, 0x5b, 0x01, 0x19]] }).out
    (some ⟨{}, fun _ => ⟨0, 0, 0⟩, 0⟩)
    [.packet (fun _ => 0) ⟨0x02, 0x5b, 5⟩, .packet (fun _ => 0) ⟨0x01, 0x19, 7⟩]) = [⟨0x02, 0x6e, 5⟩] := by
  decide +kernel

end Run
end Keyboard
