import VoodooPS2.Machine.Mealy

-- A producer, a consumer, and what the one has put out and the other has not read yet.
structure Pipe (π κ γ : Type*) where
  producer : π
  queue    : List κ
  consumer : γ

inductive PipeAct (ι : Type*)
  | produce (i : ι)
  | consume

def PipeAct.input? {ι : Type*} : PipeAct ι → Option ι
  | produce i => some i
  | consume   => none

variable {π κ γ ι ω : Type*}

-- Two machines with a queue between them, each of which makes its steps when it likes.
def pipe (p : Mealy π ι κ) (c : Mealy γ κ ω) : Mealy (Pipe π κ γ) (PipeAct ι) ω where
  step
    | s, .produce i             =>
      let r := p.step s.producer i
      ({ s with producer := r.1, queue := s.queue ++ r.2 }, [])
    | ⟨x, [], y⟩, .consume      => (⟨x, [], y⟩, [])
    | ⟨x, k :: q, y⟩, .consume  =>
      let r := c.step y k
      (⟨x, q, r.1⟩, r.2)

theorem filterMap_consume {acts : List (PipeAct ι)} :
    (PipeAct.consume :: acts).filterMap PipeAct.input? = acts.filterMap PipeAct.input? :=
  rfl

namespace Pipe

variable {p : Mealy π ι κ} {c : Mealy γ κ ω} {s : Pipe π κ γ} {acts acts₁ acts₂ : List (PipeAct ι)}

-- What has been put out and what is going to be put out for the queue is what the consumer makes of the
-- outputs of the producer, no matter who makes its steps when.
theorem out_eq : (pipe p c).out s acts ++
      c.out ((pipe p c).state s acts).consumer ((pipe p c).state s acts).queue =
    c.out s.consumer (s.queue ++ p.out s.producer (acts.filterMap PipeAct.input?)) := by
  induction acts generalizing s
  case nil => simp
  case cons act acts hi =>
    rw [Mealy.out_cons, Mealy.state_cons, List.append_assoc, hi]
    cases act
    case produce i => simp [pipe, PipeAct.input?]
    case consume =>
      obtain ⟨x, q, y⟩ := s
      rw [filterMap_consume]
      cases q
      case nil      => simp [pipe]
      case cons k q => simp [pipe]

end Pipe
