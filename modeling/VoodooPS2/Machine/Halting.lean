import VoodooPS2.Machine.Mealy

namespace Mealy

variable {σ ι ω : Type*}

-- A machine whose steps may fail, which halts it for good. The failure is its last output.
def halting (step : σ → ι → Option (σ × List ω)) (fault : ω) : Mealy (Option σ) ι ω where
  step
    | none, _   => (none, [])
    | some s, i =>
      match step s i with
      | none   => (none, [fault])
      | some r => (some r.1, r.2)

variable {step : σ → ι → Option (σ × List ω)} {fault : ω} {s : σ} {i : ι} {is : List ι}

@[simp]
theorem halting_out_none : (halting step fault).out none is = [] := by
  induction is
  case nil          => rfl
  case cons _ _ hi  => exact hi

@[simp]
theorem halting_state_none : (halting step fault).state none is = none := by
  induction is
  case nil          => rfl
  case cons _ _ hi  => exact hi

theorem halting_step_none (h : step s i = none) :
    (halting step fault).step (some s) i = (none, [fault]) := by
  simp [halting, h]

theorem halting_step_some {r : σ × List ω} (h : step s i = some r) :
    (halting step fault).step (some s) i = (some r.1, r.2) := by
  simp [halting, h]

theorem halting_step_forall {P : ω → Prop} (hf : P fault) {s : Option σ} :
    (∀ o ∈ ((halting step fault).step s i).2, P o) ↔
      ∀ s' ∈ s, ∀ r, step s' i = some r → ∀ o ∈ r.2, P o := by
  rcases s with _ | s
  case none => simp [halting]
  case some =>
    cases h : step s i
    case none   => simpa [halting_step_none h, h] using hf
    case some r => simp only [halting_step_some h, Option.mem_some_iff, forall_eq', h, Option.some_inj]

-- What holds of the outputs of every step, and of the failure, holds of all outputs.
theorem halting_out_forall {P : ω → Prop} (hf : P fault)
    (hs : ∀ s i r, step s i = some r → ∀ o ∈ r.2, P o) :
    ∀ o ∈ (halting step fault).out (some s) is, P o :=
  out_forall.mpr <| .of_forall fun _ _ => (halting_step_forall hf).mpr fun _ _ => hs _ _

theorem halting_invariant {I : σ → Prop} (h : ∀ s i r, I s → step s i = some r → I r.1) :
    (halting step fault).Invariant (fun _ _ => True) (fun s => ∀ s' ∈ s, I s') where
  step {s i} hs _ := by
    rcases s with _ | s
    case none => exact hs
    case some =>
      cases hr : step s i
      case none   => simp [halting_step_none hr]
      case some r =>
        have := h s i r (hs s rfl) hr
        simpa [halting_step_some hr] using this

-- Steps that do not fail do not halt the machine.
theorem halting_state_isSome (h : ∀ s i, (step s i).isSome) :
    ((halting step fault).state (some s) is).isSome := by
  induction is generalizing s
  case nil          => rfl
  case cons i is hi =>
    have ⟨r, hr⟩ := Option.isSome_iff_exists.mp (h s i)
    rw [state_cons, halting_step_some hr]
    exact hi

-- The exact condition under which all outputs are as they should be: one on each of the steps, where
-- the states that are met satisfy an invariant.
theorem halting_out_iff {P : ω → Prop} {I : σ → Prop} {G : σ → ι → Prop} (hf : P fault)
    (hI : ∀ s i r, I s → step s i = some r → I r.1)
    (hG : ∀ s i, I s → ((∀ r, step s i = some r → ∀ o ∈ r.2, P o) ↔ G s i)) (h : I s) :
    (∀ o ∈ (halting step fault).out (some s) is, P o) ↔
      (halting step fault).Along (fun s i => ∀ s' ∈ s, G s' i) (some s) is := by
  rw [out_forall]
  refine (halting_invariant hI).along_iff (fun s i hs => ?_) (by simpa using h)
  rw [halting_step_forall hf]
  exact forall₂_congr fun s' h' => hG s' i (hs s' h')

section Erasure

variable {τ : Type*} {step' : τ → ι → Option (τ × List ω)} {φ : τ → σ}

theorem halting_step_map (h : ∀ t i, step (φ t) i = (step' t i).map (Prod.map φ id)) {t : Option τ} :
    (halting step fault).step (t.map φ) i =
      Prod.map (Option.map φ) id ((halting step' fault).step t i) := by
  rcases t with _ | t
  case none => rfl
  case some =>
    have ht := h t i
    cases hr : step' t i <;> rw [hr] at ht
    case none   => rw [halting_step_none hr, Option.map_some, halting_step_none ht]; rfl
    case some r => rw [halting_step_some hr, Option.map_some, halting_step_some ht]; rfl

-- A machine that remembers more than another one is otherwise the same.
theorem halting_simulates (h : ∀ t i, step (φ t) i = (step' t i).map (Prod.map φ id)) :
    (halting step' fault).Simulates (halting step fault) (fun _ _ => True) (fun t s => s = t.map φ) where
  step := by
    rintro t _ i rfl _
    rw [halting_step_map h]
    rfl
  out := by
    rintro t _ i rfl _
    rw [halting_step_map h]
    rfl

end Erasure

section Repetition

variable {I Q : σ → Prop}

-- Steps that do not fail, one after the other for the same input.
theorem halting_replicate (v : ∀ s, I s → ∃ r, step s i = some r ∧ I r.1) (h : I s) (n : Nat) :
    ∃ s', (halting step fault).state (some s) (.replicate n i) = some s' ∧ I s' := by
  induction n generalizing s
  case zero      => exact ⟨s, rfl, h⟩
  case succ n hi =>
    have ⟨r, hr, h'⟩ := v s h
    rw [List.replicate_succ, state_cons, halting_step_some hr]
    exact hi h'

-- The rank decreases, unless the machine gets to where it stays.
theorem halting_ranked {rank : σ → Nat} (v : ∀ s, I s → ∃ r, step s i = some r ∧ I r.1)
    (hq : ∀ s, I s → Q s → ∀ r, step s i = some r → Q r.1)
    (hr : ∀ s, I s → ∀ r, step s i = some r → Q r.1 ∨ rank r.1 < rank s) (h : I s) :
    ∃ n, ∀ m, n ≤ m → ∃ s', (halting step fault).state (some s) (.replicate m i) = some s' ∧ I s' ∧ Q s' := by
  induction hk : rank s using Nat.strongRecOn generalizing s
  case ind k hi =>
    have ⟨r, hs, h'⟩ := v s h
    rcases hr s h r hs with hQ | hlt
    case inl =>
      have v' : ∀ s, I s ∧ Q s → ∃ r, step s i = some r ∧ I r.1 ∧ Q r.1 := fun s hs =>
        have ⟨r, hr, hI⟩ := v s hs.left
        ⟨r, hr, hI, hq s hs.left hs.right r hr⟩
      refine ⟨1, fun m hm => ?_⟩
      obtain ⟨m, rfl⟩ := Nat.exists_eq_add_of_le' hm
      rw [List.replicate_succ, state_cons, halting_step_some hs]
      exact halting_replicate v' ⟨h', hQ⟩ m
    case inr =>
      have ⟨n, hn⟩ := hi (rank r.1) (hk ▸ hlt) h' rfl
      refine ⟨n + 1, fun m hm => ?_⟩
      obtain ⟨m, rfl⟩ := Nat.exists_eq_add_of_le' (Nat.le_of_add_left_le hm)
      rw [List.replicate_succ, state_cons, halting_step_some hs]
      exact hn m (Nat.le_of_succ_le_succ hm)

end Repetition

-- Machines that are halted together, or not at all.
inductive BothRunning (R : σ → σ → Prop) : Option σ → Option σ → Prop
  | halted  : BothRunning R none none
  | running {s t : σ} : R s t → BothRunning R (some s) (some t)

-- Two runs of a machine look alike if their steps do.
theorem halting_alike {β : Type*} {R : σ → σ → Prop} {f : List ω → List β} {t : σ}
    (hf : ∀ a b, f (a ++ b) = f a ++ f b)
    (h : ∀ s t, ∀ i ∈ is, R s t → step s i = none ∧ step t i = none ∨
      ∃ r₁ r₂, step s i = some r₁ ∧ step t i = some r₂ ∧ R r₁.1 r₂.1 ∧ f r₁.2 = f r₂.2)
    (hr : R s t) :
    f ((halting step fault).out (some s) is) = f ((halting step fault).out (some t) is) := by
  refine alike (R := BothRunning R) hf (fun s t i hm hr => ?_) (.running hr)
  cases hr
  case halted => exact ⟨.halted, rfl⟩
  case running s t hr =>
    rcases h s t i hm hr with ⟨h₁, h₂⟩ | ⟨r₁, r₂, h₁, h₂, hr', ho⟩
    · rw [halting_step_none h₁, halting_step_none h₂]
      exact ⟨.halted, rfl⟩
    · rw [halting_step_some h₁, halting_step_some h₂]
      exact ⟨.running hr', ho⟩

end Mealy
