import Mathlib.Data.List.Basic

-- Marks in a history that do not come again before they are released.
namespace Latch

variable {α : Type*} {P R : α → Prop} {latch latch' : Prop} {l : List α} {a : α}

-- There is a mark which has not been released yet.
def Held (P R : α → Prop) (l : List α) : Prop :=
  ∃ pre a post, l = pre ++ a :: post ∧ P a ∧ ∀ b ∈ post, ¬R b

-- Between two marks there is a release.
def NotRepeated (P R : α → Prop) (l : List α) : Prop :=
  ∀ pre a mid b post, l = pre ++ a :: mid ++ b :: post → P a → P b → ∃ r ∈ mid, R r

theorem held_concat (h : Held P R (l ++ [a])) : P a ∨ Held P R l ∧ ¬R a := by
  have ⟨pre, b, post, he, hb, hr⟩ := h
  rcases List.eq_nil_or_concat post with rfl | ⟨post, c, rfl⟩
  case inl =>
    have ⟨_, hab⟩ := List.append_inj' he rfl
    exact .inl (List.singleton_inj.mp hab ▸ hb)
  case inr =>
    rw [List.concat_eq_append, ← List.cons_append, ← List.append_assoc] at he
    have ⟨hl, hac⟩ := List.append_inj' he rfl
    cases List.singleton_inj.mp hac
    have ⟨hp, ha⟩ := List.forall_mem_append.mp (List.concat_eq_append ▸ hr)
    exact .inr ⟨⟨pre, b, post, hl, hb, hp⟩, ha a (List.mem_singleton_self a)⟩

theorem NotRepeated.concat (h : NotRepeated P R l) (ha : P a → ¬Held P R l) :
    NotRepeated P R (l ++ [a]) := by
  intro pre b mid c post he hb hc
  rcases List.eq_nil_or_concat post with rfl | ⟨post, d, rfl⟩
  case inl =>
    have ⟨hl, hac⟩ := List.append_inj' he rfl
    cases List.singleton_inj.mp hac
    by_contra hn
    exact ha hc ⟨pre, b, mid, hl, hb, fun r hr hR => hn ⟨r, hr, hR⟩⟩
  case inr =>
    rw [List.concat_eq_append, ← List.cons_append, ← List.append_assoc] at he
    exact h pre b mid c post (List.append_inj' he rfl).left hb hc

-- A latch that is set as long as a mark is held, and keeps another one from coming.
structure Latched (P R : α → Prop) (latch : Prop) (l : List α) : Prop where
  notRepeated : NotRepeated P R l
  held        : Held P R l → latch

theorem Latched.nil : Latched P R latch [] where
  notRepeated := by simp [NotRepeated]
  held        := by simp [Held]

theorem Latched.mono (h : Latched P R latch l) (hl : latch → latch') : Latched P R latch' l where
  notRepeated := h.notRepeated
  held        := fun hh => hl (h.held hh)

-- A mark needs the latch to be open, and closes it. Only a release opens it.
theorem Latched.concat (h : Latched P R latch l) (ha : P a → ¬latch)
    (hl : P a ∨ latch ∧ ¬R a → latch') : Latched P R latch' (l ++ [a]) where
  notRepeated := h.notRepeated.concat fun hp hh => ha hp (h.held hh)
  held        := fun hh => hl <| (held_concat hh).imp id (.imp h.held id)

end Latch
