import VoodooPS2.Keyboard.Theorems.Stuck
import VoodooPS2.Machine.Pipe

namespace Keyboard

-- What the bytes mean without the ring buffer.
def scanning (ps2flags : Nat → UInt16) : Mealy Scanner UInt8 (UInt8 × UInt8) where
  step s data :=
    let r := s.scan ps2flags data
    (r.1, r.2.toList)

-- What is done for the key data of the packets, for a dispatcher that does not ask which keys are down.
def dispatching (cfg : Config) : Mealy Dispatcher (UInt8 × UInt8) Effect where
  step d packet :=
    if packet.1 ≠ 0 then dispatchKeyboardEventWithPacket cfg (fun _ => 0) d [packet.1, packet.2] else (d, [])

-- The key data of a packet in the ring buffer.
def keyData (slot : List UInt8) : UInt8 × UInt8 :=
  (slot.getD 0 0, slot.getD 1 0)

def Act.ofPipe : PipeAct UInt8 → Act
  | .produce data => .byte data
  | .consume      => .packet

variable {cfg : Config} {s : State} {d : Dispatcher} {v : KeyBits}

-- Only the brightness hack looks at the keys that are down.
theorem switchKeyCode_of_not_hack (hb : cfg.brightnessHack = false) {keyCode : Nat} {goingDown : Bool} :
    switchKeyCode cfg v d keyCode goingDown = switchKeyCode cfg (fun _ => 0) d keyCode goingDown := by
  simp only [switchKeyCode, hb, Bool.false_eq_true, false_and, if_false]

theorem dispatch_of_not_hack (hb : cfg.brightnessHack = false) (slot : List UInt8) :
    dispatchKeyboardEventWithPacket cfg v d slot =
      dispatchKeyboardEventWithPacket cfg (fun _ => 0) d [(keyData slot).1, (keyData slot).2] := by
  simp only [dispatchKeyboardEventWithPacket, dispatchKey, switchKeyCode_of_not_hack hb (v := v)]
  rfl

-- The keyboard is a scanner and a dispatcher with the packets of the ring buffer between them.
structure Piped (s : State) (t : Pipe Scanner (UInt8 × UInt8) Dispatcher) : Prop where
  scanner    : s.receiver.scanner = t.producer
  queue      : ∃ q, s.receiver.ringBuffer.Holds kPacketLength q ∧ q.map keyData = t.queue
  dispatcher : s.dispatcher = t.consumer

namespace Piped

variable {t : Pipe Scanner (UInt8 × UInt8) Dispatcher}

theorem byte (h : Piped s t) {data : UInt8} (hr : Roomy s (.byte data)) :
    Piped ((keyboard cfg).step s (.byte data)).1
      ((pipe (scanning cfg.ps2flags) (dispatching cfg)).step t (.produce data)).1 := by
  obtain ⟨q, hq, he⟩ := h.queue
  have hs := h.scanner
  simp only [keyboard, pipe, scanning, ← hs]
  cases ho : (s.receiver.scanner.scan cfg.ps2flags data).2
  case none =>
    rw [interruptOccurred_of_none ho]
    exact ⟨rfl, ⟨q, hq, by simpa using he⟩, h.dispatcher⟩
  case some packet =>
    rw [interruptOccurred_of_some ho]
    obtain ⟨slot, hb, h₀, h₁⟩ := Receiver.buffer_holds packet
      (r := { s.receiver with scanner := (s.receiver.scanner.scan cfg.ps2flags data).1 }) hq hr
    exact ⟨rfl, ⟨_, hb, by rw [List.map_append, he, List.map_singleton, keyData, h₀, h₁]; rfl⟩, h.dispatcher⟩

theorem packet (h : Piped s t) (hb : cfg.brightnessHack = false) :
    Piped ((keyboard cfg).step s .packet).1
      ((pipe (scanning cfg.ps2flags) (dispatching cfg)).step t .consume).1 ∧
    ((keyboard cfg).step s .packet).2 =
      ((pipe (scanning cfg.ps2flags) (dispatching cfg)).step t .consume).2 := by
  obtain ⟨q, hq, he⟩ := h.queue
  obtain ⟨x, k, y⟩ := t
  cases q
  case nil =>
    obtain rfl : [] = k := he
    simp only [keyboard, if_neg fun hc => hq.size_le_count_iff.mp hc rfl]
    exact ⟨⟨h.scanner, ⟨[], hq, rfl⟩, h.dispatcher⟩, rfl⟩
  case cons slot q =>
    obtain rfl : keyData slot :: q.map keyData = k := he
    obtain rfl : s.dispatcher = y := h.dispatcher
    have hp : s.pass cfg = (⟨{ s.receiver with ringBuffer := s.receiver.ringBuffer.advanceTail kPacketLength },
        ((dispatching cfg).step s.dispatcher (keyData slot)).1⟩,
        ((dispatching cfg).step s.dispatcher (keyData slot)).2) := by
      simp only [State.pass, hq.tailPacket_eq, dispatching, dispatch_of_not_hack hb slot]
      rfl
    simp only [keyboard, if_pos (hq.size_le_count_iff.mpr (List.cons_ne_nil slot q)), hp]
    exact ⟨⟨h.scanner, ⟨q, hq.advanceTail, rfl⟩, rfl⟩, rfl⟩

theorem run (h : Piped s t) (hb : cfg.brightnessHack = false) {acts : List (PipeAct UInt8)}
    (hr : (keyboard cfg).Along Roomy s (acts.map Act.ofPipe)) :
    Piped ((keyboard cfg).state s (acts.map Act.ofPipe))
      ((pipe (scanning cfg.ps2flags) (dispatching cfg)).state t acts) ∧
    (keyboard cfg).out s (acts.map Act.ofPipe) =
      (pipe (scanning cfg.ps2flags) (dispatching cfg)).out t acts := by
  induction acts generalizing s t
  case nil => exact ⟨h, rfl⟩
  case cons act acts hi =>
    rw [List.map_cons] at hr ⊢
    cases act
    case produce data =>
      have ⟨h', ho⟩ := hi (h.byte hr.left) hr.right
      exact ⟨h', ho⟩
    case consume =>
      have ⟨hp, ho⟩ := h.packet hb
      have ⟨h', ho'⟩ := hi hp hr.right
      exact ⟨h', by rw [Mealy.out_cons, Mealy.out_cons, ← ho, ← ho']; rfl⟩

end Piped

theorem exists_ofPipe {acts : List Act} (ht : .timer ∉ acts) :
    ∃ schedule : List (PipeAct UInt8), schedule.map Act.ofPipe = acts ∧
      schedule.filterMap PipeAct.input? = acts.filterMap Act.byte? := by
  induction acts
  case nil => exact ⟨[], rfl, rfl⟩
  case cons act acts hi =>
    rw [List.mem_cons, not_or] at ht
    obtain ⟨schedule, hm, hf⟩ := hi ht.right
    cases act
    case byte data => exact ⟨.produce data :: schedule, by rw [← hm]; rfl, congrArg (data :: ·) hf⟩
    case packet    => exact ⟨.consume :: schedule, by rw [← hm]; rfl, hf⟩
    case timer     => exact absurd rfl ht.left

-- What the keyboard does for some bytes does not depend on when the work loop looks at the packets, as
-- long as the ring buffer does not overflow. The rest is what the packets still mean that are pending.
theorem keyboard_scheduled (hb : cfg.brightnessHack = false)
    (hs : s.receiver.ringBuffer.Holds kPacketLength []) {acts : List Act} (ht : .timer ∉ acts)
    (hr : (keyboard cfg).Along Roomy s acts) :
    ∃ rest, (keyboard cfg).out s acts ++ rest = (dispatching cfg).out s.dispatcher
        ((scanning cfg.ps2flags).out s.receiver.scanner (acts.filterMap Act.byte?)) ∧
      (((keyboard cfg).state s acts).receiver.ringBuffer.count = 0 → rest = []) := by
  obtain ⟨schedule, rfl, hf⟩ := exists_ofPipe ht
  have h₀ : Piped s ⟨s.receiver.scanner, [], s.dispatcher⟩ := ⟨rfl, ⟨[], hs, rfl⟩, rfl⟩
  have ⟨h, ho⟩ := h₀.run hb hr
  refine ⟨_, by rw [ho, Pipe.out_eq, hf]; rfl, fun hc => ?_⟩
  obtain ⟨q, hq, he⟩ := h.queue
  obtain rfl := hq.count_eq_zero_iff.mp hc
  rw [← he]
  rfl

end Keyboard
