import VoodooPS2.Machine.Mealy

inductive FifoAct (α : Type*)
  | put (a : α)
  | get

inductive FifoEvent (α : Type*)
  | accepted (a : α)
  | read (a : α)

-- A queue with room for `cap` elements. What is put into a full queue is lost.
def fifo (α : Type*) (cap : Nat) : Mealy (List α) (FifoAct α) (FifoEvent α) where
  step
    | q, .put a    => if q.length < cap then (q ++ [a], [.accepted a]) else (q, [])
    | [], .get     => ([], [])
    | a :: q, .get => (q, [.read a])

namespace FifoEvent

variable {α : Type*}

def accepted? : FifoEvent α → Option α
  | accepted a => some a
  | read _     => none

def read? : FifoEvent α → Option α
  | accepted _ => none
  | read a     => some a

end FifoEvent

section

variable {α : Type*} {cap : Nat} {q : List α} {acts : List (FifoAct α)}

-- A queue loses nothing that it has accepted, and repeats nothing that has been read.
theorem fifo_conserves : q ++ ((fifo α cap).out q acts).filterMap FifoEvent.accepted? =
    ((fifo α cap).out q acts).filterMap FifoEvent.read? ++ (fifo α cap).state q acts := by
  induction acts generalizing q
  case nil => simp
  case cons act acts hi =>
    rw [Mealy.out_cons, Mealy.state_cons, List.filterMap_append, List.filterMap_append, List.append_assoc, ← hi]
    cases act
    case put a =>
      dsimp only [fifo]
      split
      all_goals simp [FifoEvent.accepted?, FifoEvent.read?]
    case get =>
      cases q
      all_goals simp [fifo, FifoEvent.accepted?, FifoEvent.read?]

theorem fifo_length_le (h : q.length ≤ cap) : ((fifo α cap).state q acts).length ≤ cap := by
  have hv : (fifo α cap).Invariant (fun _ _ => True) (·.length ≤ cap) := by
    refine ⟨fun {q act} h _ => ?_⟩
    cases act
    case put a =>
      dsimp only [fifo]
      split
      case isTrue hl => simpa using Nat.succ_le_of_lt hl
      case isFalse   => exact h
    case get =>
      cases q
      case nil      => exact h
      case cons _ q => exact Nat.le_of_succ_le h
  exact hv.run (.of_forall fun _ _ => trivial) h

end

-- A record of events that is behind another one by the events which wait in a queue.
namespace Lag

variable {σ τ ε : Type*}

def Lags (apply : σ → ε → σ) (R : σ → τ → Prop) (s : σ) (queue : List ε) (t : τ) : Prop :=
  R (queue.foldl apply s) t

variable {apply : σ → ε → σ} {R : σ → τ → Prop} {s : σ} {t t' : τ} {e : ε} {queue rest : List ε}

-- The two records agree when nothing waits.
theorem lags_nil : Lags apply R s [] t ↔ R s t :=
  .rfl

-- Events at the front are taken off by making up for them.
theorem lags_append : Lags apply R s (queue ++ rest) t ↔ Lags apply R (queue.foldl apply s) rest t := by
  rw [Lags, List.foldl_append, Lags]

theorem Lags.push (h : Lags apply R s queue t) (hR : ∀ s, R s t → R (apply s e) t') :
    Lags apply R s (queue ++ [e]) t' :=
  lags_append.mpr (hR _ h)

end Lag
