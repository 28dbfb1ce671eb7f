import VoodooPS2.Machine.Scripted

namespace Scripted

variable {ι ω ω' α β σ : Type} {f : σ → ω → Option σ} {s s₁ : σ} {p : Scripted ι ω α}
  {g : α → Scripted ι ω β} {a : α} {P Q : α → σ → Prop} {R : β → σ → Prop}

-- The program accesses another party, which takes part in some of the accesses only. Whatever it does,
-- what the program returns fits the state in which the other party is left.
def Against (f : σ → ω → Option σ) (s : σ) (p : Scripted ι ω α) (Q : α → σ → Prop) : Prop :=
  ∀ is o s', p is = some o → o.log.foldlM f s = some s' → Q o.val s'

namespace Against

theorem pure (h : Q a s) : Against f s (Pure.pure a : Scripted ι ω α) Q := by
  intro is o s' ho hs
  obtain rfl := pure_eq_some.mp ho
  exact Option.some.inj hs ▸ h

theorem bind (hp : Against f s p P) (hg : ∀ a s', P a s' → Against f s' (g a) R) :
    Against f s (p >>= g) R := by
  intro is o s' ho hs
  obtain ⟨o₁, o₂, h₁, h₂, rfl⟩ := bind_eq_some.mp ho
  rw [List.foldlM_append] at hs
  obtain ⟨s₁, hs₁, hs₂⟩ := Option.bind_eq_some_iff.mp hs
  have hr : R o₂.val s' := hg _ _ (hp _ _ _ h₁ hs₁) _ _ _ h₂ hs₂
  exact hr

theorem mono (hp : Against f s p P) (h : ∀ a s', P a s' → Q a s') : Against f s p Q :=
  fun is o s' ho hs => h _ _ (hp is o s' ho hs)

theorem emit {e : ω} {Q : Unit → σ → Prop} (h : ∀ s', f s e = some s' → Q () s') :
    Against f s (emit e : Scripted ι ω Unit) Q := by
  intro is o s' ho hs
  obtain rfl := emit_eq_some.mp ho
  obtain ⟨s₁, hs₁, hs₂⟩ := Option.bind_eq_some_iff.mp (List.foldlM_cons (m := Option) ▸ hs)
  exact Option.some.inj hs₂ ▸ h s₁ hs₁

theorem input {Q : ι → σ → Prop} (h : ∀ i, Q i s) : Against f s (input : Scripted ι ω ι) Q := by
  intro is o s' ho hs
  cases is
  case nil       => cases ho
  case cons i is =>
    obtain rfl : ⟨i, is, []⟩ = o := Option.some.inj ho
    exact Option.some.inj hs ▸ h i

theorem label {f' : σ → ω' → Option σ} {n : ω → ω'} (hf : ∀ s e, f' s (n e) = f s e)
    (hp : Against f s p Q) : Against f' s (p.label n) Q := by
  intro is o s' ho hs
  obtain ⟨o', ho', rfl⟩ := label_eq_some.mp ho
  rw [List.foldlM_map] at hs
  simp only [hf] at hs
  exact hp _ _ _ ho' hs

theorem loop {body : β → Scripted ι ω (β ⊕ α)} {b : β} (I : β → σ → Prop)
    (hb : ∀ b s, I b s → Against f s (body b) fun r s' => r.elim (I · s') (Q · s')) (h : I b s) :
    Against f s (loop body b) Q := by
  intro is o s' ho
  refine loop_induction (P := fun b _ o => ∀ s, I b s → ∀ s', o.log.foldlM f s = some s' → Q o.val s')
    ?leave ?again ho s h s'
  case leave =>
    intro b is o a h hv s hI s' hs
    have hr := hb b s hI is o s' h hs
    rwa [hv] at hr
  case again =>
    intro b is o b' o' h hv hi s hI s' hs
    rw [List.foldlM_append] at hs
    obtain ⟨s₁, hs₁, hs₂⟩ := Option.bind_eq_some_iff.mp hs
    have hr := hb b s hI is o s₁ h hs₁
    rw [hv] at hr
    exact hi s₁ hr s' hs₂

end Against

-- With some script the program returns, whatever is still to come in it, and then `Q` holds.
def Possibly (f : σ → ω → Option σ) (s : σ) (p : Scripted ι ω α) (Q : α → σ → Prop) : Prop :=
  ∃ is a l s', l.foldlM f s = some s' ∧ (∀ is', p (is ++ is') = some ⟨a, is', l⟩) ∧ Q a s'

namespace Possibly

theorem pure (h : Q a s) : Possibly f s (Pure.pure a : Scripted ι ω α) Q :=
  ⟨[], a, [], s, rfl, fun _ => rfl, h⟩

theorem bind (hp : Possibly f s p P) (hg : ∀ a s', P a s' → Possibly f s' (g a) R) : Possibly f s (p >>= g) R := by
  obtain ⟨is₁, a, l₁, s₁, hl₁, h₁, hP⟩ := hp
  obtain ⟨is₂, b, l₂, s₂, hl₂, h₂, hR⟩ := hg a s₁ hP
  refine ⟨is₁ ++ is₂, b, l₁ ++ l₂, s₂, by rw [List.foldlM_append, hl₁]; exact hl₂, fun is' => ?_, hR⟩
  exact bind_eq_some.mpr ⟨_, _, by rw [List.append_assoc]; exact h₁ _, h₂ is', rfl⟩

theorem mono (hp : Possibly f s p P) (h : ∀ a s', P a s' → Q a s') : Possibly f s p Q :=
  have ⟨is, a, l, s', hl, ha, hP⟩ := hp
  ⟨is, a, l, s', hl, ha, h a s' hP⟩

-- What always holds when the program returns need not be shown again.
theorem and (hp : Possibly f s p P) (h : Against f s p Q) : Possibly f s p fun a s' => P a s' ∧ Q a s' :=
  have ⟨is, a, l, s', hl, ha, hP⟩ := hp
  ⟨is, a, l, s', hl, ha, hP, h _ _ _ (ha []) hl⟩

theorem emit {e : ω} {Q : Unit → σ → Prop} (h : f s e = some s₁) (hQ : Q () s₁) :
    Possibly f s (emit e : Scripted ι ω Unit) Q :=
  ⟨[], (), [e], s₁, by rw [List.foldlM_cons, h]; rfl, fun _ => rfl, hQ⟩

theorem input {Q : ι → σ → Prop} (i : ι) (h : Q i s) : Possibly f s (input : Scripted ι ω ι) Q :=
  ⟨[i], i, [], s, rfl, fun _ => rfl, h⟩

theorem label {f' : σ → ω' → Option σ} {n : ω → ω'} (hf : ∀ s e, f' s (n e) = f s e)
    (hp : Possibly f s p Q) : Possibly f' s (p.label n) Q := by
  obtain ⟨is, a, l, s', hl, h, hQ⟩ := hp
  refine ⟨is, a, l.map n, s', ?_, fun is' => label_eq_some.mpr ⟨_, h is', rfl⟩, hQ⟩
  rw [List.foldlM_map]
  simpa only [hf] using hl

-- A loop may be left in its first pass.
theorem loop {body : β → Scripted ι ω (β ⊕ α)} {b : β}
    (h : Possibly f s (body b) fun r s' => r.elim (fun _ => False) (Q · s')) : Possibly f s (loop body b) Q := by
  obtain ⟨is, r, l, s', hl, h, hQ⟩ := h
  cases r
  case inl => exact hQ.elim
  case inr a =>
    exact ⟨is, a, l, s', hl, fun is' => bind_eq_some.mpr ⟨_, _, h is', rfl, by simp⟩, hQ⟩

end Possibly

-- The program may return, and always does so with `Q`.
structure Completes (f : σ → ω → Option σ) (s : σ) (p : Scripted ι ω α) (Q : α → σ → Prop) : Prop where
  always   : Against f s p Q
  possibly : Possibly f s p fun _ _ => True

namespace Completes

theorem pure (h : Q a s) : Completes f s (Pure.pure a : Scripted ι ω α) Q :=
  ⟨.pure h, .pure trivial⟩

theorem bind (hp : Completes f s p P) (hg : ∀ a s', P a s' → Completes f s' (g a) R) :
    Completes f s (p >>= g) R :=
  ⟨hp.always.bind fun a s' h => (hg a s' h).always,
    (hp.possibly.and hp.always).bind fun a s' h => (hg a s' h.right).possibly⟩

theorem label {f' : σ → ω' → Option σ} {n : ω → ω'} (hf : ∀ s e, f' s (n e) = f s e)
    (hp : Completes f s p Q) : Completes f' s (p.label n) Q :=
  ⟨hp.always.label hf, hp.possibly.label hf⟩

end Completes
end Scripted
