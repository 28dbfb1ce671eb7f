import VoodooPS2.Machine.Mealy

variable {α : Type*} {R : List α → α → Prop} {l l' l₁ l₁' l₂ l₂' seg : List α} {a : α}

-- The list `l` becomes `l'` if some of its segments, no two of which overlap, are each replaced by one
-- element. What a segment may be replaced by is up to `R`.
inductive Spliced (R : List α → α → Prop) : List α → List α → Prop
  | nil : Spliced R [] []
  | keep {l l' : List α} (a : α) : Spliced R l l' → Spliced R (a :: l) (a :: l')
  | replace {l l' seg : List α} {a : α} : R seg a → Spliced R l l' → Spliced R (seg ++ l) (a :: l')

namespace Spliced

theorem refl : (l : List α) → Spliced R l l
  | []     => nil
  | a :: l => keep a (refl l)

theorem single (h : R seg a) : Spliced R seg [a] := by
  simpa using replace h nil

theorem append (h₁ : Spliced R l₁ l₁') (h₂ : Spliced R l₂ l₂') : Spliced R (l₁ ++ l₂) (l₁' ++ l₂') := by
  induction h₁
  case nil             => exact h₂
  case keep a _ hi     => exact keep a hi
  case replace h _ hi  =>
    rw [List.append_assoc]
    exact replace h hi

theorem mono {R' : List α → α → Prop} (h : Spliced R l l') (hr : ∀ seg a, R seg a → R' seg a) :
    Spliced R' l l' := by
  induction h
  case nil            => exact nil
  case keep a _ hi    => exact keep a hi
  case replace h _ hi => exact replace (hr _ _ h) hi

end Spliced

namespace Mealy

variable {σ ι ω : Type*} {m : Mealy σ ι ω} {s : σ} {is : List ι}

-- A machine that holds some of its inputs back. If each step splices what leaves the machine, and keeps
-- the rest, so does a run.
theorem spliced_run {I : σ → Prop} {inputs : ι → List α} {outputs : ω → Option α} {held : σ → List α}
    (step : ∀ s i, I s → I (m.step s i).1 ∧ ∃ l, held s ++ inputs i = l ++ held (m.step s i).1 ∧
      Spliced R l ((m.step s i).2.filterMap outputs)) (h : I s) :
    I (m.state s is) ∧ ∃ l, held s ++ is.flatMap inputs = l ++ held (m.state s is) ∧
      Spliced R l ((m.out s is).filterMap outputs) := by
  induction is generalizing s
  case nil => exact ⟨h, [], by simp, .nil⟩
  case cons i is hi =>
    have ⟨hs, l₁, he₁, h₁⟩ := step s i h
    have ⟨hs', l₂, he₂, h₂⟩ := hi hs
    refine ⟨hs', l₁ ++ l₂, ?_, ?_⟩
    · calc held s ++ (i :: is).flatMap inputs
        _ = (held s ++ inputs i) ++ is.flatMap inputs        := by simp
        _ = l₁ ++ (held (m.step s i).1 ++ is.flatMap inputs) := by rw [he₁, List.append_assoc]
        _ = (l₁ ++ l₂) ++ held (m.state s (i :: is))         := by rw [he₂, ← List.append_assoc]; rfl
    · rw [out_cons, List.filterMap_append]
      exact h₁.append h₂

end Mealy
