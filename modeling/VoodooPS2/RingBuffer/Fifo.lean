import VoodooPS2.Machine.Fifo
import VoodooPS2.RingBuffer.Queue

namespace RingBuffer

variable {T : Type*} {N : Nat}

-- A producer fills the packet at the head and advances the head. A consumer reads the packet at the tail
-- and advances the tail, but only if there is a packet. What is observed are the packets whose
-- `advanceHead` took effect, and those that are read.
def packets (T : Type*) (N s : Nat) : Mealy (RingBuffer T N) (FifoAct (List T)) (FifoEvent (List T)) where
  step
    | r, .put p =>
      let filled := r.setHeadCells 0 p
      let r' := filled.advanceHead s
      (r', if r'.head ≠ r.head then [.accepted p] else [])
    | r, .get   => if s ≤ r.count then (r.advanceTail s, [.read (r.tailPacket s)]) else (r, [])

-- A packet has the right size.
def Fits (s : Nat) : FifoAct (List T) → Prop
  | .put p => p.length = s
  | .get   => True

instance (s : Nat) : (act : FifoAct (List T)) → Decidable (Fits s act)
  | .put _ => inferInstanceAs (Decidable (_ = _))
  | .get   => .isTrue trivial

namespace Holds

variable {r : RingBuffer T N} {s : Nat} {q : List (List T)} {p : List T}

theorem size_div_mul (h : r.Holds s q) : s * (N / s) = N :=
  Nat.mul_div_cancel' h.dvd

-- One of the `N / s` slots is always left free, as a full buffer would look like an empty one.
theorem count_lt_iff (h : r.Holds s q) : r.count + s < N ↔ q.length < N / s - 1 := by
  rw [h.count]
  conv_lhs => rw [← h.size_div_mul, ← Nat.mul_succ, Nat.mul_lt_mul_left h.pos]
  omega

theorem length_pos_of_full (h : r.Holds s q) (hN : 2 * s ≤ N) (hf : ¬q.length < N / s - 1) :
    0 < q.length := by
  have : 2 ≤ N / s := (Nat.le_div_iff_mul_le h.pos).mpr hN
  omega

theorem advanceHead_head (h : r.Holds s q) (hN : 2 * s ≤ N) :
    (r.advanceHead s).head ≠ r.head ↔ q.length < N / s - 1 := by
  by_cases hf : q.length < N / s - 1
  case neg => simp [h.advanceHead_full (h.count_lt_iff.not.mpr hf) (h.length_pos_of_full hN hf), hf]
  case pos =>
    refine iff_of_true (fun he => ?_) hf
    have hc := h.count_lt_iff.mpr hf
    rw [h.advanceHead_eq hc, head_eq_mod h.head_lt h.tail_lt] at he
    have := mod_injective hc (h.count_lt) he
    have := h.pos
    omega

-- What a producer fills, before it advances the head.
theorem fill (h : r.Holds s q) (hp : p.length = s) : (r.setHeadCells 0 p).Holds s q :=
  h.setHeadCells (by simp [hp])

theorem cells_fill (hp : p.length = s) : (r.setHeadCells 0 p).cells (r.setHeadCells 0 p).head s = p := by
  subst hp
  rw [setHeadCells_head]
  exact cells_setHeadCells

-- The cells of unread packets are not filled, and neither are those behind the array.
theorem buffer_fill (h : r.Holds s q) {a : Nat} (hp : p.length = s) (ha : N ≤ a ∨ r.Unread a) :
    (r.setHeadCells 0 p).buffer a = r.buffer a := by
  apply buffer_setHeadCells_of_outside
  have hr := h.head_room
  cases ha
  case inl ha => omega
  case inr ha =>
    by_contra hn
    obtain ⟨k, rfl⟩ := Nat.exists_eq_add_of_le (show r.head ≤ a by omega)
    exact h.head_not_unread (by omega) ha

end Holds

section Refinement

variable {r : RingBuffer T N} {s : Nat} {q : List (List T)} {act : FifoAct (List T)}

-- A step of the buffer is a step of the queue that it holds.
theorem packets_step (hN : 2 * s ≤ N) (h : r.Holds s q) (hf : Fits s act) :
    ((packets T N s).step r act).1.Holds s ((fifo (List T) (N / s - 1)).step q act).1 ∧
    ((packets T N s).step r act).2 = ((fifo (List T) (N / s - 1)).step q act).2 := by
  cases act
  case put p =>
    have hp := h.fill hf
    have hh := hp.advanceHead_head hN
    rw [setHeadCells_head] at hh
    dsimp only [packets, fifo]
    by_cases hl : q.length < N / s - 1
    case pos =>
      rw [if_pos hl, if_pos (hh.mpr hl)]
      have ha := hp.advanceHead (hp.count_lt_iff.mpr hl)
      rw [Holds.cells_fill hf] at ha
      exact ⟨ha, rfl⟩
    case neg =>
      rw [if_neg hl, if_neg (hh.not.mpr hl)]
      have hfull := hp.advanceHead_full (hp.count_lt_iff.not.mpr hl) (hp.length_pos_of_full hN hl)
      exact ⟨hfull.symm ▸ hp, rfl⟩
  case get =>
    dsimp only [packets]
    cases q
    case nil =>
      rw [if_neg fun hc => h.size_le_count_iff.mp hc rfl]
      exact ⟨h, rfl⟩
    case cons p q =>
      rw [if_pos (h.size_le_count_iff.mpr (List.cons_ne_nil p q)), h.tailPacket_eq]
      exact ⟨h.advanceTail, rfl⟩

theorem packets_refines (hN : 2 * s ≤ N) : (packets T N s).Simulates (fifo (List T) (N / s - 1))
    (fun _ act => Fits s act) fun r q => r.Holds s q where
  step h hf := (packets_step hN h hf).left
  out h hf  := (packets_step hN h hf).right

-- The buffer is a queue of packets with one slot less than there are. Filling the slot at the head is
-- harmless in any case, even when the head cannot be advanced.
theorem packets_fifo (hs : 0 < s) (hd : s ∣ N) (hN : 2 * s ≤ N) (r : RingBuffer T N)
    (acts : List (FifoAct (List T))) (hf : ∀ act ∈ acts, Fits s act) :
    let events := (packets T N s).out r.reset acts
    let r' := (packets T N s).state r.reset acts
    ∃ q, events.filterMap FifoEvent.accepted? = events.filterMap FifoEvent.read? ++ q ∧
      q.length ≤ N / s - 1 ∧ r'.count = s * q.length ∧
      ∀ p, p.length = s →
        let filled := r'.setHeadCells 0 p
        ((filled.advanceHead s).head ≠ r'.head ↔ q.length < N / s - 1) ∧ r'.head + s ≤ N ∧
        ∀ a, N ≤ a ∨ r'.Unread a → filled.buffer a = r'.buffer a := by
  intro events r'
  have ha : (packets T N s).Along (fun _ act => Fits s act) r.reset acts :=
    .of_forall_mem hf
  have h₀ : r.reset.Holds s [] := .reset hs hd (by omega)
  have h : r'.Holds s _ := (packets_refines hN).run_state ha h₀
  have he : events = _ := (packets_refines hN).run_out ha h₀
  refine ⟨_, he ▸ fifo_conserves (q := []), fifo_length_le (Nat.zero_le _), h.count, fun p hp => ?_⟩
  refine ⟨?_, h.head_room, fun a ha => h.buffer_fill hp ha⟩
  have hh := (h.fill hp).advanceHead_head hN
  rwa [setHeadCells_head] at hh

-- Two slots for packets of two cells, of which one can be used.
theorem packets_fifo_small :
    let acts := [.put [1, 2], .put [3, 4], .get, .put [5, 6], .get, .get]
    let r : RingBuffer Nat 4 := ⟨fun _ => 0, 3, 1⟩
    let events := (packets Nat 4 2).out r.reset acts
    let r' := (packets Nat 4 2).state r.reset acts
    ∃ q, events.filterMap FifoEvent.accepted? = events.filterMap FifoEvent.read? ++ q ∧
      q.length ≤ 4 / 2 - 1 ∧ r'.count = 2 * q.length ∧
      ∀ p, p.length = 2 →
        let filled := r'.setHeadCells 0 p
        ((filled.advanceHead 2).head ≠ r'.head ↔ q.length < 4 / 2 - 1) ∧ r'.head + 2 ≤ 4 ∧
        ∀ a, 4 ≤ a ∨ r'.Unread a → filled.buffer a = r'.buffer a :=
  packets_fifo (by decide) (by decide) (by decide) _ _ (by decide)

end Refinement

end RingBuffer
