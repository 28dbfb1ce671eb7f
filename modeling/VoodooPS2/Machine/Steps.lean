import Mathlib.Data.List.Induction

variable {σ α : Type*}

-- `as` are the labels of the steps that lead from one state to the other.
inductive Run (Step : σ → α → σ → Prop) : σ → List α → σ → Prop
  | nil  : Run Step s [] s
  | snoc : Run Step s₁ as s₂ → Step s₂ a s₃ → Run Step s₁ (as ++ [a]) s₃

namespace Run

variable {Step : σ → α → σ → Prop} {s s₁ s₂ s₃ : σ} {a : α} {as bs : List α}

theorem single (h : Step s₁ a s₂) : Run Step s₁ [a] s₂ :=
  snoc nil h

theorem trans (h₁ : Run Step s₁ as s₂) (h₂ : Run Step s₂ bs s₃) : Run Step s₁ (as ++ bs) s₃ := by
  induction h₂
  case nil        => simpa using h₁
  case snoc hs hi => simpa using snoc hi hs

theorem cons (h : Step s₁ a s₂) (hr : Run Step s₂ as s₃) : Run Step s₁ (a :: as) s₃ :=
  (single h).trans hr

theorem mono {Step' : σ → α → σ → Prop} (h : Run Step s₁ as s₂) (v : ∀ {s a s'}, Step s a s' → Step' s a s') :
    Run Step' s₁ as s₂ := by
  induction h
  case nil        => exact nil
  case snoc hs hi => exact snoc hi (v hs)

theorem eq_of_nil (h : Run Step s₁ [] s₂) : s₁ = s₂ := by
  generalize hl : [] = l at h
  cases h
  case nil  => rfl
  case snoc => simp at hl

theorem step_of_concat (h : Run Step s₁ (as ++ [a]) s₃) : ∃ s₂, Run Step s₁ as s₂ ∧ Step s₂ a s₃ := by
  generalize hl : as ++ [a] = l at h
  cases h
  case nil        => simp at hl
  case snoc hr hs =>
    have ⟨h₁, h₂⟩ := List.append_inj' hl rfl
    obtain ⟨rfl, rfl⟩ : as = _ ∧ a = _ := ⟨h₁, by simpa using h₂⟩
    exact ⟨_, hr, hs⟩

theorem split (h : Run Step s₁ (as ++ bs) s₃) : ∃ s₂, Run Step s₁ as s₂ ∧ Run Step s₂ bs s₃ := by
  induction bs using List.reverseRecOn generalizing s₃
  case nil =>
    rw [List.append_nil] at h
    exact ⟨_, h, nil⟩
  case append_singleton bs b hi =>
    rw [← List.append_assoc] at h
    have ⟨_, hr, hs⟩ := h.step_of_concat
    have ⟨s₂, h₁, h₂⟩ := hi hr
    exact ⟨s₂, h₁, .snoc h₂ hs⟩

theorem step_of_cons (h : Run Step s₁ (a :: as) s₃) : ∃ s₂, Step s₁ a s₂ ∧ Run Step s₂ as s₃ := by
  have ⟨s₂, h₁, h₂⟩ : ∃ s₂, Run Step s₁ [a] s₂ ∧ Run Step s₂ as s₃ := split h
  have ⟨_, hn, hs⟩ : ∃ s, Run Step s₁ [] s ∧ Step s a s₂ := step_of_concat h₁
  exact ⟨s₂, hn.eq_of_nil ▸ hs, h₂⟩

-- An invariant that also speaks of the labels of the steps so far.
theorem history {I : List α → σ → Prop} {t : List α} (h : Run Step s₁ as s₂)
    (v : ∀ {t s a s'}, I t s → Step s a s' → I (t ++ [a]) s') (hi : I t s₁) : I (t ++ as) s₂ := by
  induction h
  case nil         => simpa using hi
  case snoc hs hi' => simpa using v hi' hs

end Run
