import Mathlib.Data.List.Basic

namespace Scripted

-- What a program has done by the time it returns: the inputs that it has not read, and the accesses
-- that it has made.
structure Outcome (ι ω α : Type) where
  val  : α
  rest : List ι
  log  : List ω
  deriving DecidableEq

end Scripted

-- A program that reads its inputs from a script. It has no outcome for the scripts that end while it is
-- still reading.
def Scripted (ι ω α : Type) : Type :=
  List ι → Option (Scripted.Outcome ι ω α)

namespace Scripted

variable {ι ω ω' α β γ : Type}

instance : Monad (Scripted ι ω) where
  pure a   := fun is => some ⟨a, is, []⟩
  bind p f := fun is =>
    (p is).bind fun o => (f o.val o.rest).map fun o' => ⟨o'.val, o'.rest, o.log ++ o'.log⟩

def input : Scripted ι ω ι
  | []      => none
  | i :: is => some ⟨i, is, []⟩

def emit (e : ω) : Scripted ι ω Unit :=
  fun is => some ⟨(), is, [e]⟩

-- The same program, with another name for each of its accesses.
def label (f : ω → ω') (p : Scripted ι ω α) : Scripted ι ω' α :=
  fun is => (p is).map fun o => ⟨o.val, o.rest, o.log.map f⟩

def iterate (body : β → Scripted ι ω (β ⊕ α)) : Nat → β → Scripted ι ω α
  | 0, _        => fun _ => none
  | fuel + 1, b => do
    match ← body b with
    | .inl b => iterate body fuel b
    | .inr a => pure a

-- `while (1)`, with a body that either goes on or leaves the loop. The fuel does not restrict a loop
-- that reads an input in every pass, see `loop_eq`.
def loop (body : β → Scripted ι ω (β ⊕ α)) (b : β) : Scripted ι ω α :=
  fun is => iterate body (is.length + 1) b is

variable {p : Scripted ι ω α} {f : α → Scripted ι ω β} {a : α} {b : β} {is : List ι}

theorem pure_eq_some {o : Outcome ι ω α} :
    (pure a : Scripted ι ω α) is = some o ↔ o = ⟨a, is, []⟩ := by
  show some _ = some o ↔ _
  rw [Option.some_inj, eq_comm]

theorem bind_eq_some {o : Outcome ι ω β} : (p >>= f) is = some o ↔
    ∃ o₁ o₂, p is = some o₁ ∧ f o₁.val o₁.rest = some o₂ ∧ o = ⟨o₂.val, o₂.rest, o₁.log ++ o₂.log⟩ := by
  show ((p is).bind fun o => (f o.val o.rest).map _) = some o ↔ _
  simp only [Option.bind_eq_some_iff, Option.map_eq_some_iff]
  constructor
  · rintro ⟨o₁, h₁, o₂, h₂, rfl⟩
    exact ⟨o₁, o₂, h₁, h₂, rfl⟩
  · rintro ⟨o₁, o₂, h₁, h₂, rfl⟩
    exact ⟨o₁, h₁, o₂, h₂, rfl⟩

theorem bind_pure_eq_some {g : α → β} {o : Outcome ι ω β} :
    (p >>= fun a => pure (g a)) is = some o ↔
    ∃ o', p is = some o' ∧ o = ⟨g o'.val, o'.rest, o'.log⟩ := by
  simp [bind_eq_some, pure_eq_some]

theorem emit_eq_some {e : ω} {o : Outcome ι ω Unit} :
    (emit e : Scripted ι ω Unit) is = some o ↔ o = ⟨(), is, [e]⟩ := by
  show some _ = some o ↔ _
  rw [Option.some_inj, eq_comm]

theorem label_eq_some {g : ω → ω'} {o : Outcome ι ω' α} :
    label g p is = some o ↔ ∃ o', p is = some o' ∧ o = ⟨o'.val, o'.rest, o'.log.map g⟩ := by
  simp only [label, Option.map_eq_some_iff, eq_comm (a := o)]

-- Whatever `p` returns satisfies `P`.
def Ensures (p : Scripted ι ω α) (P : α → Prop) : Prop :=
  ∀ is o, p is = some o → P o.val

namespace Ensures

variable {P P' : α → Prop} {Q : β → Prop}

theorem pure (h : P a) : (Pure.pure a : Scripted ι ω α).Ensures P := by
  intro is o ho
  rw [pure_eq_some.mp ho]
  exact h

theorem bind (hp : p.Ensures P) (hf : ∀ a, P a → (f a).Ensures Q) : (p >>= f).Ensures Q := by
  intro is o ho
  have ⟨o₁, o₂, h₁, h₂, ho⟩ := bind_eq_some.mp ho
  have : Q o₂.val := hf _ (hp _ _ h₁) _ _ h₂
  rwa [ho]

-- When it does not matter what `p` returns.
theorem skip (hf : ∀ a, (f a).Ensures Q) : (p >>= f).Ensures Q :=
  bind (P := fun _ => True) (fun _ _ _ => trivial) fun a _ => hf a

theorem label {g : ω → ω'} (hp : p.Ensures P) : (p.label g).Ensures P := by
  intro is o ho
  have ⟨o', ho', h⟩ := label_eq_some.mp ho
  have : P o'.val := hp _ _ ho'
  rwa [h]

end Ensures

section Loop

variable {body : β → Scripted ι ω (β ⊕ α)}

theorem iterate_succ_eq_some {fuel : Nat} {o : Outcome ι ω α}
    (h : iterate body (fuel + 1) b is = some o) :
    (∃ o₁ a, body b is = some o₁ ∧ o₁.val = .inr a ∧ o = ⟨a, o₁.rest, o₁.log⟩) ∨
    (∃ o₁ b' o₂, body b is = some o₁ ∧ o₁.val = .inl b' ∧
      iterate body fuel b' o₁.rest = some o₂ ∧ o = ⟨o₂.val, o₂.rest, o₁.log ++ o₂.log⟩) := by
  have ⟨o₁, o₂, h₁, h₂, ho⟩ := bind_eq_some.mp h
  cases hv : o₁.val
  case inl b' =>
    rw [hv] at h₂
    exact .inr ⟨o₁, b', o₂, h₁, hv, h₂, ho⟩
  case inr a =>
    rw [hv] at h₂
    have h₂ := pure_eq_some.mp h₂
    subst h₂ ho
    exact .inl ⟨o₁, a, h₁, hv, by simp⟩

-- What holds of a loop: it holds of the pass that leaves it, and a pass that goes on restores it.
theorem loop_induction {P : β → List ι → Outcome ι ω α → Prop}
    (leave : ∀ {b is o a}, body b is = some o → o.val = .inr a → P b is ⟨a, o.rest, o.log⟩)
    (again : ∀ {b is o b' o'}, body b is = some o → o.val = .inl b' → P b' o.rest o' →
      P b is ⟨o'.val, o'.rest, o.log ++ o'.log⟩)
    {o : Outcome ι ω α} (h : loop body b is = some o) : P b is o := by
  suffices ∀ fuel {b is o}, iterate body fuel b is = some o → P b is o from this _ h
  intro fuel
  induction fuel
  case zero => exact nofun
  case succ fuel hi =>
    intro b is o h
    rcases iterate_succ_eq_some h with ⟨o₁, a, h₁, hv, rfl⟩ | ⟨o₁, b', o₂, h₁, hv, h₂, rfl⟩
    · exact leave h₁ hv
    · exact again h₁ hv (hi h₂)

-- A pass that goes on has read something.
def Reads (body : β → Scripted ι ω (β ⊕ α)) : Prop :=
  ∀ {b is o b'}, body b is = some o → o.val = .inl b' → o.rest.length < is.length

theorem iterate_mono (hb : Reads body) {n m : Nat} (hn : is.length < n) (hm : is.length < m) :
    iterate body n b is = iterate body m b is := by
  induction n generalizing m b is
  case zero => omega
  case succ n hi =>
    obtain ⟨m, rfl⟩ : ∃ m', m = m' + 1 := ⟨m - 1, by omega⟩
    show ((body b is).bind _) = (body b is).bind _
    refine Option.bind_congr fun o ho => ?_
    cases hv : o.val
    case inr => rfl
    case inl b' =>
      have := hb ho hv
      exact congrArg (Option.map _) (hi (by omega) (by omega))

-- The loop is its body and, if that goes on, the loop again.
theorem loop_eq (hb : Reads body) (b : β) : loop body b = (do
    match ← body b with
    | .inl b => loop body b
    | .inr a => pure a) := by
  funext is
  show ((body b is).bind _) = (body b is).bind _
  refine Option.bind_congr fun o ho => ?_
  cases hv : o.val
  case inr => rfl
  case inl b' =>
    have := hb ho hv
    exact congrArg (Option.map _) (iterate_mono hb (by omega) (by omega))

end Loop

end Scripted
