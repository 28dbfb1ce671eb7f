import Mathlib.Data.List.Induction

-- Options that are set in the course of a list, where the last setting counts.
namespace LastValue

variable {σ ι α : Type*} {step : σ → ι → σ} {e : σ → α} {f : ι → Option α} {p : ι → Prop} {s : σ} {i : ι}
variable {is is₁ is₂ : List ι}

def lastValue (f : ι → Option α) (is : List ι) : Option α :=
  is.foldl (fun a i => (f i).or a) none

@[simp]
theorem lastValue_nil : lastValue f [] = none :=
  rfl

@[simp]
theorem lastValue_concat : lastValue f (is ++ [i]) = (f i).or (lastValue f is) := by
  simp [lastValue]

theorem lastValue_append : lastValue f (is₁ ++ is₂) = (lastValue f is₂).or (lastValue f is₁) := by
  induction is₂ using List.reverseRecOn
  case nil                 => rw [List.append_nil, lastValue_nil, Option.none_or]
  case append_singleton hi => rw [← List.append_assoc, lastValue_concat, lastValue_concat, hi, Option.or_assoc]

theorem lastValue_eq_none : lastValue f is = none ↔ ∀ i ∈ is, f i = none := by
  induction is using List.reverseRecOn
  case nil                 => simp
  case append_singleton hi => simp [hi, or_imp, forall_and, and_comm]

theorem lastValue_split {is₁ is₂ : List ι} (h : ∀ i ∈ is₂, f i = none) :
    lastValue f (is₁ ++ i :: is₂) = (f i).or (lastValue f is₁) := by
  have he : is₁ ++ i :: is₂ = is₁ ++ [i] ++ is₂ := by simp
  rw [he, lastValue_append, lastValue_eq_none.mpr h, Option.none_or, lastValue_concat]

theorem lastValue_map {β : Type*} {g : α → β} :
    lastValue (fun i => (f i).map g) is = (lastValue f is).map g := by
  induction is using List.reverseRecOn
  case nil                 => rfl
  case append_singleton hi => simp only [lastValue_concat, hi, Option.map_or]

-- An entry that every step either sets or keeps has the last value that it is set to.
theorem foldl_entry (h : ∀ s, ∀ i ∈ is, e (step s i) = (f i).getD (e s)) :
    e (is.foldl step s) = (lastValue f is).getD (e s) := by
  induction is using List.reverseRecOn
  case nil => rfl
  case append_singleton is i hi =>
    have hi := hi fun s j hj => h s j (List.mem_append_left _ hj)
    rw [List.foldl_append, List.foldl_cons, List.foldl_nil, h _ i (by simp), hi, lastValue_concat]
    cases f i <;> rfl

-- Nothing in the list satisfies `p`, or there is a last element that does.
theorem last_or_none [DecidablePred p] (is : List ι) :
    (∀ i ∈ is, ¬p i) ∨ ∃ is₁ i is₂, is = is₁ ++ i :: is₂ ∧ p i ∧ ∀ j ∈ is₂, ¬p j := by
  induction is
  case nil          => simp
  case cons i is hi =>
    rcases hi with hn | ⟨is₁, j, is₂, rfl, hj⟩
    case inr => exact .inr ⟨i :: is₁, j, is₂, rfl, hj⟩
    case inl =>
      by_cases hp : p i
      case pos => exact .inr ⟨[], i, is, rfl, hp, hn⟩
      case neg => exact .inl (by simpa [hp] using hn)

end LastValue
