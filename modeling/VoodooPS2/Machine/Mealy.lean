import Mathlib.Data.List.Basic

-- A machine that answers every input with a new state and a list of outputs.
structure Mealy (σ ι ω : Type*) where
  step : σ → ι → σ × List ω

namespace Mealy

variable {σ τ ι ω : Type*} (m : Mealy σ ι ω)

def run : σ → List ι → σ × List ω
  | s, []      => (s, [])
  | s, i :: is =>
    let r := m.step s i
    let t := run r.1 is
    (t.1, r.2 ++ t.2)

def state (s : σ) (is : List ι) : σ :=
  (m.run s is).1

def out (s : σ) (is : List ι) : List ω :=
  (m.run s is).2

variable {m} {s : σ} {i : ι} {is is₁ is₂ : List ι}

@[simp]
theorem state_nil : m.state s [] = s :=
  rfl

@[simp]
theorem state_cons : m.state s (i :: is) = m.state (m.step s i).1 is :=
  rfl

@[simp]
theorem out_nil : m.out s [] = [] :=
  rfl

@[simp]
theorem out_cons : m.out s (i :: is) = (m.step s i).2 ++ m.out (m.step s i).1 is :=
  rfl

theorem state_append : m.state s (is₁ ++ is₂) = m.state (m.state s is₁) is₂ := by
  induction is₁ generalizing s
  case nil          => rfl
  case cons _ _ hi  => exact hi

theorem out_append : m.out s (is₁ ++ is₂) = m.out s is₁ ++ m.out (m.state s is₁) is₂ := by
  induction is₁ generalizing s
  case nil          => rfl
  case cons _ _ hi  => simp [hi]

-- `Along G s is` holds if `G` holds of every state met on the way together with the input that is
-- about to be consumed there.
def Along (m : Mealy σ ι ω) (G : σ → ι → Prop) : σ → List ι → Prop
  | _, []      => True
  | s, i :: is => G s i ∧ Along m G (m.step s i).1 is

namespace Along

variable {G H : σ → ι → Prop}

instance decidable [∀ s i, Decidable (G s i)] : (s : σ) → (is : List ι) → Decidable (m.Along G s is)
  | _, []      => .isTrue trivial
  | s, i :: is =>
    have := decidable (m.step s i).1 is
    inferInstanceAs (Decidable (G s i ∧ m.Along G (m.step s i).1 is))

theorem append : m.Along G s (is₁ ++ is₂) ↔ m.Along G s is₁ ∧ m.Along G (m.state s is₁) is₂ := by
  induction is₁ generalizing s
  case nil         => simp [Along]
  case cons _ _ hi => simp [Along, hi, and_assoc]

theorem iff_split : m.Along G s is ↔ ∀ pre i post, is = pre ++ i :: post → G (m.state s pre) i := by
  constructor
  case mp =>
    rintro h pre i post rfl
    exact (append.mp h).right.left
  case mpr =>
    intro h
    induction is generalizing s
    case nil           => trivial
    case cons i is hi =>
      refine ⟨h [] i is rfl, hi fun pre j post he => ?_⟩
      exact h (i :: pre) j post (he ▸ rfl)

theorem of_forall (h : ∀ s i, G s i) : m.Along G s is :=
  iff_split.mpr fun _ _ _ _ => h _ _

theorem of_forall_mem {G : ι → Prop} (h : ∀ i ∈ is, G i) : m.Along (fun _ i => G i) s is :=
  iff_split.mpr fun _ i _ he => h i (he ▸ List.mem_append_right _ List.mem_cons_self)

theorem and (a : m.Along G s is) (b : m.Along H s is) : m.Along (fun s i => G s i ∧ H s i) s is :=
  iff_split.mpr fun pre i post h => ⟨iff_split.mp a pre i post h, iff_split.mp b pre i post h⟩

end Along

-- All outputs of a run are outputs of its steps.
theorem out_forall {P : ω → Prop} :
    (∀ o ∈ m.out s is, P o) ↔ m.Along (fun s i => ∀ o ∈ (m.step s i).2, P o) s is := by
  induction is generalizing s
  case nil         => simp [Along]
  case cons _ _ hi => simp [Along, ← hi, or_imp, forall_and]

-- An invariant that every step keeps, as long as the step is one that `G` allows.
structure Invariant (m : Mealy σ ι ω) (G : σ → ι → Prop) (I : σ → Prop) : Prop where
  step : ∀ {s i}, I s → G s i → I (m.step s i).1

namespace Invariant

variable {G H : σ → ι → Prop} {I : σ → Prop} {P : ω → Prop}

theorem run (v : m.Invariant G I) (a : m.Along G s is) (h : I s) : I (m.state s is) := by
  induction is generalizing s
  case nil         => exact h
  case cons _ _ hi => exact hi a.right (v.step h a.left)

theorem along (v : m.Invariant G I) (a : m.Along G s is) (h : I s)
    (hG : ∀ s i, I s → G s i → H s i) : m.Along H s is := by
  induction is generalizing s
  case nil         => trivial
  case cons _ _ hi => exact ⟨hG _ _ h a.left, hi a.right (v.step h a.left)⟩

theorem along_iff {H K : σ → ι → Prop} (v : m.Invariant (fun _ _ => True) I)
    (hH : ∀ s i, I s → (H s i ↔ K s i)) (h : I s) : m.Along H s is ↔ m.Along K s is := by
  induction is generalizing s
  case nil         => rfl
  case cons _ _ hi => exact and_congr (hH _ _ h) (hi (v.step h trivial))

theorem out (v : m.Invariant G I) (a : m.Along G s is) (h : I s)
    (hP : ∀ s i, I s → G s i → ∀ o ∈ (m.step s i).2, P o) : ∀ o ∈ m.out s is, P o := by
  induction is generalizing s
  case nil           => simp
  case cons i is hi =>
    intro o ho
    simp only [out_cons, List.mem_append] at ho
    cases ho
    case inl ho => exact hP _ _ h a.left o ho
    case inr ho => exact hi a.right (v.step h a.left) o ho

end Invariant

-- An invariant that also speaks of the outputs so far.
theorem history {G : σ → ι → Prop} {I : σ → List ω → Prop} {t : List ω}
    (v : ∀ {s i t}, I s t → G s i → I (m.step s i).1 (t ++ (m.step s i).2))
    (a : m.Along G s is) (h : I s t) : I (m.state s is) (t ++ m.out s is) := by
  induction is generalizing s t
  case nil         => simpa using h
  case cons _ _ hi => simpa using hi a.right (v h a.left)

-- A forward simulation: from related states, the steps that `G` allows lead to related states and
-- are indistinguishable by their outputs.
structure Simulates (m : Mealy σ ι ω) (m' : Mealy τ ι ω) (G : σ → ι → Prop) (R : σ → τ → Prop) :
    Prop where
  step : ∀ {s t i}, R s t → G s i → R (m.step s i).1 (m'.step t i).1
  out  : ∀ {s t i}, R s t → G s i → (m.step s i).2 = (m'.step t i).2

namespace Simulates

variable {m' : Mealy τ ι ω} {G : σ → ι → Prop} {R : σ → τ → Prop} {t : τ}

theorem run_state (v : m.Simulates m' G R) (a : m.Along G s is) (h : R s t) :
    R (m.state s is) (m'.state t is) := by
  induction is generalizing s t
  case nil         => exact h
  case cons _ _ hi => exact hi a.right (v.step h a.left)

theorem run_out (v : m.Simulates m' G R) (a : m.Along G s is) (h : R s t) :
    m.out s is = m'.out t is := by
  induction is generalizing s t
  case nil         => rfl
  case cons _ _ hi => simp [v.out h a.left, hi a.right (v.step h a.left)]

-- What the simulated machine meets on the way is met by the simulating one.
theorem along {K : σ → ι → Prop} {H : τ → ι → Prop} (v : m.Simulates m' G R) (a : m.Along G s is)
    (h : R s t) (b : m'.Along H t is) (hK : ∀ s t i, R s t → H t i → K s i) : m.Along K s is := by
  induction is generalizing s t
  case nil         => trivial
  case cons _ _ hi => exact ⟨hK _ _ _ h b.left, hi a.right (v.step h a.left) b.right⟩

end Simulates

section Composition

variable {κ : Type*} {m₁ : Mealy σ ι κ} {m₂ : Mealy τ κ ω} {t : τ}

-- A machine that reads the outputs of another one as they come.
def comp (m₁ : Mealy σ ι κ) (m₂ : Mealy τ κ ω) : Mealy (σ × τ) ι ω where
  step s i :=
    let r₁ := m₁.step s.1 i
    let r₂ := m₂.run s.2 r₁.2
    ((r₁.1, r₂.1), r₂.2)

theorem comp_out : (m₁.comp m₂).out (s, t) is = m₂.out t (m₁.out s is) := by
  induction is generalizing s t
  case nil          => rfl
  case cons i is hi =>
    rw [out_cons, out_cons, out_append]
    exact congrArg _ hi

end Composition

section Observation

variable {κ : Type*} {f : σ → ι → List ω → List κ}

-- What an observer notes down about the steps of a machine.
def observe (m : Mealy σ ι ω) (f : σ → ι → List ω → List κ) : Mealy σ ι κ where
  step s i := ((m.step s i).1, f s i (m.step s i).2)

end Observation

-- Two runs that look alike: from related states, the steps lead to related states, and their outputs
-- are the same to an observer who sees `f` of them.
theorem alike {β : Type*} {m' : Mealy τ ι ω} {R : σ → τ → Prop} {f : List ω → List β} {t : τ}
    (hf : ∀ a b, f (a ++ b) = f a ++ f b)
    (h : ∀ s t, ∀ i ∈ is,
      R s t → R (m.step s i).1 (m'.step t i).1 ∧ f (m.step s i).2 = f (m'.step t i).2)
    (hr : R s t) : f (m.out s is) = f (m'.out t is) := by
  induction is generalizing s t
  case nil          => rfl
  case cons i is hi =>
    have ⟨hr', ho⟩ := h s t i List.mem_cons_self hr
    have hi := hi (fun s t j hj => h s t j (List.mem_cons_of_mem i hj)) hr'
    rw [out_cons, out_cons, hf, hf, ho, hi]

end Mealy
