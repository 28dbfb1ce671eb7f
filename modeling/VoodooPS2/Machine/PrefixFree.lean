import Mathlib.Data.List.Infix

-- No code word of a symbol in question is the beginning of another one.
def PrefixFree {α β : Type*} (p : α → Prop) (code : α → List β) : Prop :=
  ∀ a b, p a → p b → code a <+: code b → a = b

namespace PrefixFree

variable {α β : Type*} {p : α → Prop} {code : α → List β} {a b : α} {s t : List β} {as bs : List α}

-- A code word can be told from what follows.
theorem split (h : PrefixFree p code) (ha : p a) (hb : p b) (he : code a ++ s = code b ++ t) :
    a = b ∧ s = t := by
  have hab : a = b := by
    rcases List.prefix_or_prefix_of_prefix ⟨s, he⟩ ⟨t, rfl⟩ with hc | hc
    · exact h a b ha hb hc
    · exact (h b a hb ha hc).symm
  exact ⟨hab, List.append_cancel_left (hab ▸ he)⟩

-- So can as many words as are known to be there.
theorem split_flatMap (h : PrefixFree p code) (ha : ∀ a ∈ as, p a) (hb : ∀ b ∈ bs, p b)
    (hl : as.length = bs.length) (he : as.flatMap code ++ s = bs.flatMap code ++ t) : as = bs ∧ s = t := by
  induction as generalizing bs
  case nil =>
    cases bs
    case nil  => exact ⟨rfl, he⟩
    case cons => cases hl
  case cons a as hi =>
    cases bs
    case nil       => cases hl
    case cons b bs =>
      rw [List.forall_mem_cons] at ha hb
      rw [List.flatMap_cons, List.flatMap_cons, List.append_assoc, List.append_assoc] at he
      have ⟨hab, he⟩ := h.split ha.left hb.left he
      have ⟨hs, ht⟩ := hi ha.right hb.right (Nat.succ.inj hl) he
      exact ⟨by rw [hab, hs], ht⟩

-- The words are known from a stream that is made of them, provided that none of them is empty.
theorem flatMap_injective (h : PrefixFree p code) (hn : ∀ a, p a → code a ≠ []) (ha : ∀ a ∈ as, p a)
    (hb : ∀ b ∈ bs, p b) (he : as.flatMap code = bs.flatMap code) : as = bs := by
  induction as generalizing bs
  case nil =>
    cases bs
    case nil       => rfl
    case cons b bs => exact absurd (List.append_eq_nil_iff.mp he.symm).left (hn b (hb b (by simp)))
  case cons a as hi =>
    cases bs
    case nil       => exact absurd (List.append_eq_nil_iff.mp he).left (hn a (ha a (by simp)))
    case cons b bs =>
      rw [List.forall_mem_cons] at ha hb
      have ⟨hab, he⟩ := h.split ha.left hb.left he
      rw [hab, hi ha.right hb.right he]

end PrefixFree
