import Mathlib.Data.List.Forall2
import VoodooPS2.Machine.Dialogue

namespace Dialogue

variable {ρ ε ε' α β δ : Type} {step : δ → ε → Option δ} {step' : δ → ε' → Option δ} {d d₁ d₂ d₃ : δ} {v : α}
  {w : β} {p : Dialogue ρ ε α} {f : α → Dialogue ρ ε β} {P P' : α → δ → Prop} {Q : β → δ → Prop}

-- The other party is a machine. It goes from one state to another with each entry of the log, provided
-- that the answer in the entry is its own.
structure Drives (step : δ → ε → Option δ) (d : δ) (p : Dialogue ρ ε α) (v : α) (d' : δ) : Prop where
  -- with the answers of the machine the program returns
  run  : ∀ as, ∃ as' l, p as' = ⟨v, as, l⟩ ∧ l.foldlM step d = some d'
  -- there is nothing else that the program can do with them
  only : ∀ as e, (p as).log.foldlM step d = some e → (p as).val = v ∧ e = d'

namespace Drives

theorem pure : Drives step d (Pure.pure v : Dialogue ρ ε α) v d where
  run as     := ⟨as, [], rfl, rfl⟩
  only _ _ h := ⟨rfl, (Option.some.inj h).symm⟩

theorem ask {f : ρ → ε} {r : ρ} (h : ∀ r' d', step d₁ (f r') = some d' ↔ r' = r ∧ d' = d₂) :
    Drives step d₁ (Dialogue.ask f) r d₂ where
  run as := by
    refine ⟨fun n => n.casesOn r as, [f r], rfl, ?_⟩
    rw [List.foldlM_cons, (h r d₂).mpr ⟨rfl, rfl⟩]
    rfl
  only as e he := by
    obtain ⟨d', hd, he⟩ := Option.bind_eq_some_iff.mp (List.foldlM_cons (m := Option) ▸ he)
    obtain ⟨hr, rfl⟩ := (h _ _).mp hd
    exact ⟨hr, (Option.some.inj he).symm⟩

theorem bind (hp : Drives step d₁ p v d₂) (hf : Drives step d₂ (f v) w d₃) : Drives step d₁ (p >>= f) w d₃ where
  run as := by
    obtain ⟨as₁, l₁, h₁, hl₁⟩ := hf.run as
    obtain ⟨as₀, l₀, h₀, hl₀⟩ := hp.run as₁
    refine ⟨as₀, l₀ ++ l₁, ?_, ?_⟩
    · change Outcome.mk (f (p as₀).val (p as₀).rest).val _ ((p as₀).log ++ _) = _
      rw [h₀, h₁]
    · rw [List.foldlM_append, hl₀]
      exact hl₁
  only as e h := by
    have h : ((p as).log ++ (f (p as).val (p as).rest).log).foldlM step d₁ = some e := h
    rw [List.foldlM_append] at h
    obtain ⟨d, hd, he⟩ := Option.bind_eq_some_iff.mp h
    obtain ⟨hv, rfl⟩ := hp.only as d hd
    rw [bind_val, hv]
    exact hf.only _ e (hv ▸ he)

-- The log may be written in another way, as long as the machine makes the same of it.
theorem report {g : List ε → List ε'} (hp : Drives step d₁ p v d₂)
    (hg : ∀ l, (g l).foldlM step' d₁ = l.foldlM step d₁) : Drives step' d₁ (p.report g) v d₂ where
  run as := by
    obtain ⟨as', l, hp, hl⟩ := hp.run as
    exact ⟨as', g l, by rw [Dialogue.report, hp], (hg l).trans hl⟩
  only as e he := hp.only as e ((hg _).symm.trans he)

end Drives

-- The program returns, and then `P` holds of its result and of the machine.
def Achieves (step : δ → ε → Option δ) (d : δ) (p : Dialogue ρ ε α) (P : α → δ → Prop) : Prop :=
  ∃ v d', Drives step d p v d' ∧ P v d'

namespace Achieves

theorem pure (h : P v d) : Achieves step d (Pure.pure v : Dialogue ρ ε α) P :=
  ⟨v, d, .pure, h⟩

theorem mono (hp : Achieves step d p P) (h : ∀ v d', P v d' → P' v d') : Achieves step d p P' :=
  have ⟨v, d', hd, hP⟩ := hp
  ⟨v, d', hd, h v d' hP⟩

theorem bind (hp : Achieves step d p P) (hf : ∀ v d', P v d' → Achieves step d' (f v) Q) :
    Achieves step d (p >>= f) Q :=
  have ⟨v, d', hd, hP⟩ := hp
  have ⟨w, d'', hd', hQ⟩ := hf v d' hP
  ⟨w, d'', hd.bind hd', hQ⟩

theorem report {g : List ε → List ε'} (hp : Achieves step d p P)
    (hg : ∀ l, (g l).foldlM step' d = l.foldlM step d) : Achieves step' d (p.report g) P :=
  have ⟨v, d', hd, hP⟩ := hp
  ⟨v, d', hd.report hg, hP⟩

theorem andThen {p q : Dialogue ρ ε Bool} {P Q : δ → Prop} (hp : Achieves step d p fun ok d' => ok = true ∧ P d')
    (hq : ∀ d', P d' → Achieves step d' q fun ok d'' => ok = true ∧ Q d'') :
    Achieves step d (p.andThen q) fun ok d' => ok = true ∧ Q d' := by
  refine hp.bind ?_
  rintro ok d' ⟨rfl, h⟩
  exact hq d' h

section Lists

variable {γ σ : Type} {l : List γ} {R : δ → σ → Prop} {t : σ → γ → σ} {s : σ}

-- What the machine has become is followed along the list.
theorem all {ps : List (Dialogue ρ ε Bool)}
    (h : List.Forall₂ (fun p a => ∀ d s, R d s → Achieves step d p fun ok d' => ok = true ∧ R d' (t s a)) ps l)
    (hr : R d s) : Achieves step d (Dialogue.all ps) fun ok d' => ok = true ∧ R d' (l.foldl t s) := by
  induction h generalizing d s
  case nil             => exact .pure ⟨rfl, hr⟩
  case cons p a _ _ hp _ hi => exact andThen (hp d s hr) fun _ hr' => hi hr'

-- A property that all of the programs keep.
theorem each {f : γ → Dialogue ρ ε α} {P : δ → Prop}
    (h : ∀ a ∈ l, ∀ d, P d → Achieves step d (f a) fun _ d' => P d') (hP : P d) :
    Achieves step d (Dialogue.each (l.map f)) fun _ d' => P d' := by
  induction l generalizing d
  case nil         => exact .pure hP
  case cons a l hi =>
    rw [List.forall_mem_cons] at h
    exact bind (h.left d hP) fun _ _ hP' => hi h.right hP'

end Lists

end Achieves
end Dialogue
