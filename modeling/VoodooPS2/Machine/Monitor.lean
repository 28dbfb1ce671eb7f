import VoodooPS2.Machine.Scripted

namespace Scripted

variable {ι ω ω' α β σ : Type}

-- A monitor reads the log of a program and may object to an access. The program does not make it object,
-- and what it returns fits the state that the monitor is left in.
def Monitored (f : σ → ω → Option σ) (s : σ) (p : Scripted ι ω α) (Q : α → σ → Prop) : Prop :=
  ∀ is o, p is = some o → ∃ s', o.log.foldlM f s = some s' ∧ Q o.val s'

namespace Monitored

variable {f : σ → ω → Option σ} {s : σ} {p : Scripted ι ω α} {g : α → Scripted ι ω β} {P Q : α → σ → Prop}
  {R : β → σ → Prop}

theorem pure {a : α} (h : Q a s) : Monitored f s (Pure.pure a : Scripted ι ω α) Q := by
  intro is o ho
  rw [pure_eq_some.mp ho]
  exact ⟨s, rfl, h⟩

theorem bind (hp : Monitored f s p P) (hg : ∀ a s', P a s' → Monitored f s' (g a) R) :
    Monitored f s (p >>= g) R := by
  intro is o ho
  obtain ⟨o₁, o₂, h₁, h₂, rfl⟩ := bind_eq_some.mp ho
  obtain ⟨s₁, hs₁, hP⟩ := hp _ _ h₁
  obtain ⟨s₂, hs₂, hR⟩ := hg _ _ hP _ _ h₂
  exact ⟨s₂, by rw [List.foldlM_append, hs₁]; exact hs₂, hR⟩

theorem mono (hp : Monitored f s p P) (h : ∀ a s', P a s' → Q a s') : Monitored f s p Q := by
  intro is o ho
  have ⟨s', hs, hP⟩ := hp is o ho
  exact ⟨s', hs, h _ _ hP⟩

theorem emit {e : ω} {s' : σ} (h : f s e = some s') {Q : Unit → σ → Prop} (hQ : Q () s') :
    Monitored f s (emit e : Scripted ι ω Unit) Q := by
  intro is o ho
  rw [emit_eq_some.mp ho]
  exact ⟨s', by rw [List.foldlM_cons, h]; rfl, hQ⟩

theorem input {Q : ι → σ → Prop} (h : ∀ i, Q i s) : Monitored f s (input : Scripted ι ω ι) Q := by
  intro is o ho
  cases is
  case nil       => nomatch ho
  case cons i is =>
    obtain rfl : ⟨i, is, []⟩ = o := Option.some.inj ho
    exact ⟨s, rfl, h i⟩

-- A program under other names is watched by the monitor that knows them.
theorem label {f' : σ → ω' → Option σ} {n : ω → ω'} (hf : ∀ s e, f' s (n e) = f s e)
    (hp : Monitored f s p Q) : Monitored f' s (p.label n) Q := by
  intro is o ho
  obtain ⟨o', ho', rfl⟩ := label_eq_some.mp ho
  have ⟨s', hs, hQ⟩ := hp _ _ ho'
  refine ⟨s', ?_, hQ⟩
  rw [List.foldlM_map]
  simpa only [hf] using hs

-- A loop keeps an invariant until it is left.
theorem loop {body : β → Scripted ι ω (β ⊕ α)} {b : β} (I : β → σ → Prop)
    (hb : ∀ b s, I b s → Monitored f s (body b) fun r s' => r.elim (I · s') (Q · s')) (h : I b s) :
    Monitored f s (loop body b) Q := by
  intro is o ho
  refine loop_induction (P := fun b _ o => ∀ s, I b s →
    ∃ s', o.log.foldlM f s = some s' ∧ Q o.val s') ?leave ?again ho s h
  case leave =>
    intro b is o a h hv s hI
    have ⟨s', hs, hr⟩ := hb b s hI is o h
    rw [hv] at hr
    exact ⟨s', hs, hr⟩
  case again =>
    intro b is o b' o' h hv hi s hI
    have ⟨s₁, hs₁, hr⟩ := hb b s hI is o h
    rw [hv] at hr
    have ⟨s₂, hs₂, hQ⟩ := hi s₁ hr
    exact ⟨s₂, by rw [List.foldlM_append, hs₁]; exact hs₂, hQ⟩

end Monitored

-- A monitor that does not object to a log has not objected on the way.
theorem foldlM_prefix {f : σ → ω → Option σ} {s s' : σ} {pre log : List ω} (hp : pre <+: log)
    (h : log.foldlM f s = some s') : ∃ s₁, pre.foldlM f s = some s₁ := by
  obtain ⟨post, rfl⟩ := hp
  rw [List.foldlM_append] at h
  obtain ⟨s₁, h₁, _⟩ := Option.bind_eq_some_iff.mp h
  exact ⟨s₁, h₁⟩

end Scripted
