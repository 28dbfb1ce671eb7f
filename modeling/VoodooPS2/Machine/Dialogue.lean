import Mathlib.Data.List.Basic

namespace Dialogue

-- What a program has done when it returns: the answers that it has not asked for, and its log.
structure Outcome (ρ ε α : Type) where
  val  : α
  rest : Nat → ρ
  log  : List ε

end Dialogue

-- A program that asks for the answers of another party, one at a time. Whatever the other party does, its
-- answers form a sequence, so that a program always has an outcome.
def Dialogue (ρ ε α : Type) : Type :=
  (Nat → ρ) → Dialogue.Outcome ρ ε α

namespace Dialogue

variable {ρ ε ε' α β : Type}

instance : Monad (Dialogue ρ ε) where
  pure a   := fun as => ⟨a, as, []⟩
  bind p f := fun as =>
    let o  := p as
    let o' := f o.val o.rest
    ⟨o'.val, o'.rest, o.log ++ o'.log⟩

-- The answer is logged together with what was asked.
def ask (f : ρ → ε) : Dialogue ρ ε ρ :=
  fun as => ⟨as 0, fun n => as (n + 1), [f (as 0)]⟩

-- The same program, with another log.
def report (g : List ε → List ε') (p : Dialogue ρ ε α) : Dialogue ρ ε' α :=
  fun as => ⟨(p as).val, (p as).rest, g (p as).log⟩

-- The second program is only run if the first one succeeds.
def andThen (p q : Dialogue ρ ε Bool) : Dialogue ρ ε Bool := do
  if ← p then q else pure false

-- All of the programs are run in order, up to the first one that fails.
def all : List (Dialogue ρ ε Bool) → Dialogue ρ ε Bool
  | []      => pure true
  | p :: ps => p.andThen (all ps)

-- All of the programs are run in order, whatever they return.
def each : List (Dialogue ρ ε α) → Dialogue ρ ε Unit
  | []      => pure ()
  | p :: ps => do
    let _ ← p
    each ps

variable {p : Dialogue ρ ε α} {f : α → Dialogue ρ ε β} {g : List ε → List ε'} {as : Nat → ρ} {a : α}

@[simp]
theorem pure_val : (pure a : Dialogue ρ ε α) as = ⟨a, as, []⟩ :=
  rfl

theorem bind_val : ((p >>= f) as).val = (f (p as).val (p as).rest).val :=
  rfl

-- The result and the log satisfy `P`, whatever the answers are.
def Yields (p : Dialogue ρ ε α) (P : α → List ε → Prop) : Prop :=
  ∀ as, P (p as).val (p as).log

namespace Yields

variable {P P' : α → List ε → Prop} {Q : β → List ε → Prop}

theorem pure (h : P a []) : (Pure.pure a : Dialogue ρ ε α).Yields P :=
  fun _ => h

theorem ask {P : ρ → List ε → Prop} {f : ρ → ε} (h : ∀ r, P r [f r]) : (Dialogue.ask f).Yields P :=
  fun as => h (as 0)

theorem mono (hp : p.Yields P) (h : ∀ a l, P a l → P' a l) : p.Yields P' :=
  fun as => h _ _ (hp as)

theorem and (hp : p.Yields P) (hp' : p.Yields P') : p.Yields fun a l => P a l ∧ P' a l :=
  fun as => ⟨hp as, hp' as⟩

theorem bind (hp : p.Yields P) (hf : ∀ a l, P a l → (f a).Yields fun b l' => Q b (l ++ l')) :
    (p >>= f).Yields Q :=
  fun as => hf _ _ (hp as) _

theorem report {P : α → List ε' → Prop} (hp : p.Yields fun a l => P a (g l)) :
    (p.report g).Yields P :=
  hp

end Yields

section Logs

-- All entries of the log satisfy `P`.
def Logs (p : Dialogue ρ ε α) (P : ε → Prop) : Prop :=
  p.Yields fun _ l => ∀ e ∈ l, P e

namespace Logs

variable {P : ε → Prop}

theorem pure : (Pure.pure a : Dialogue ρ ε α).Logs P :=
  fun _ => by simp

theorem bind (hp : p.Logs P) (hf : ∀ a, (f a).Logs P) : (p >>= f).Logs P :=
  Yields.bind hp fun a _ hl => (hf a).mono fun _ _ hl' => List.forall_mem_append.mpr ⟨hl, hl'⟩

theorem ask {f : ρ → ε} (h : ∀ r, P (f r)) : (Dialogue.ask f).Logs P :=
  Yields.ask fun r => by simpa using h r

theorem andThen {p q : Dialogue ρ ε Bool} (hp : p.Logs P) (hq : q.Logs P) : (p.andThen q).Logs P := by
  refine bind hp fun ok => ?_
  cases ok
  case false => exact pure
  case true  => exact hq

theorem all {ps : List (Dialogue ρ ε Bool)} (h : ∀ p ∈ ps, p.Logs P) : (Dialogue.all ps).Logs P := by
  induction ps
  case nil         => exact pure
  case cons p _ hi => exact andThen (h p (by simp)) (hi fun q hq => h q (by simp [hq]))

theorem each {ps : List (Dialogue ρ ε α)} (h : ∀ p ∈ ps, p.Logs P) : (Dialogue.each ps).Logs P := by
  induction ps
  case nil         => exact pure
  case cons p _ hi => exact bind (h p (by simp)) fun _ => hi fun q hq => h q (by simp [hq])

end Logs

end Logs

section Detects

-- The program fails exactly if it has logged a failure.
def Detects (p : Dialogue ρ ε Bool) (F : ε → Prop) : Prop :=
  p.Yields fun ok l => ok = false ↔ ∃ e ∈ l, F e

namespace Detects

variable {F : ε → Prop} {p q : Dialogue ρ ε Bool}

theorem of_logs (hp : p.Yields fun ok _ => ok = true) (hl : p.Logs fun e => ¬F e) : p.Detects F :=
  (hp.and hl).mono fun ok l ⟨ho, hl⟩ => by simpa [ho] using hl

theorem andThen (hp : p.Detects F) (hq : q.Detects F) : (p.andThen q).Detects F := by
  refine Yields.bind hp fun ok l hl => ?_
  cases ok
  case false =>
    have ⟨e, he, hf⟩ := hl.mp rfl
    exact .pure (by simpa using ⟨e, he, hf⟩)
  case true =>
    have hn : ¬∃ e ∈ l, F e := fun h => Bool.noConfusion (hl.mpr h)
    refine hq.mono fun ok l' hl' => hl'.trans ?_
    simp only [List.mem_append, or_and_right, exists_or, or_iff_right hn]

theorem all {ps : List (Dialogue ρ ε Bool)} (h : ∀ p ∈ ps, p.Detects F) : (Dialogue.all ps).Detects F := by
  induction ps
  case nil         => exact .pure (by simp)
  case cons p _ hi => exact andThen (h p (by simp)) (hi fun q hq => h q (by simp [hq]))

end Detects

end Detects

end Dialogue
