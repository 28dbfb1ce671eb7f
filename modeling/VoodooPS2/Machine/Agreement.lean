import VoodooPS2.Machine.Scripted

namespace Scripted

section Laws

variable {ι ω ω' α β γ : Type}

protected theorem id_map (p : Scripted ι ω α) : id <$> p = p := by
  funext is
  show (p is).bind (fun o => some ⟨o.val, o.rest, o.log ++ []⟩) = p is
  cases p is <;> simp

protected theorem pure_bind (a : α) (f : α → Scripted ι ω β) : pure a >>= f = f a := by
  funext is
  show (f a is).map (fun o => ⟨o.val, o.rest, [] ++ o.log⟩) = f a is
  cases f a is <;> simp

protected theorem bind_assoc (p : Scripted ι ω α) (f : α → Scripted ι ω β) (g : β → Scripted ι ω γ) :
    p >>= f >>= g = p >>= fun a => f a >>= g := by
  funext is
  show ((p is).bind fun o => (f o.val o.rest).map _).bind _ = (p is).bind _
  cases p is
  case none   => rfl
  case some o =>
    show ((f o.val o.rest).map _).bind _ = ((f o.val o.rest).bind _).map _
    cases f o.val o.rest
    case none    => rfl
    case some o' =>
      show (g o'.val o'.rest).map _ = ((g o'.val o'.rest).map _).map _
      cases g o'.val o'.rest <;> simp

instance : LawfulMonad (Scripted ι ω) :=
  LawfulMonad.mk' _ Scripted.id_map Scripted.pure_bind Scripted.bind_assoc

theorem label_bind (l : ω → ω') (p : Scripted ι ω α) (f : α → Scripted ι ω β) :
    label l (p >>= f) = label l p >>= fun a => label l (f a) := by
  funext is
  show ((p is).bind fun o => (f o.val o.rest).map _).map _ = ((p is).map _).bind _
  cases p is
  case none   => rfl
  case some o =>
    show ((f o.val o.rest).map _).map _ = ((f o.val o.rest).map _).map _
    cases f o.val o.rest <;> simp

theorem label_map (l : ω → ω') (f : α → β) (p : Scripted ι ω α) :
    label l (f <$> p) = f <$> label l p := by
  rw [map_eq_pure_bind, map_eq_pure_bind, label_bind]
  rfl

end Laws

section Agree

variable {ι ω ω₁ ω₂ υ α β γ δ : Type}

-- Two runs that have consumed the same inputs, with accesses that look the same when the first ones are
-- seen through `u` and the others through `v`, and with values that are related.
structure Outcome.Agree (u : ω₁ → υ) (v : ω₂ → υ) (R : α → β → Prop)
    (o₁ : Outcome ι ω₁ α) (o₂ : Outcome ι ω₂ β) : Prop where
  val  : R o₁.val o₂.val
  rest : o₁.rest = o₂.rest
  log  : o₁.log.map u = o₂.log.map v

-- On every script, either both programs are still reading when it ends or both return, and then their
-- runs agree.
def Agree (u : ω₁ → υ) (v : ω₂ → υ) (R : α → β → Prop) (p : Scripted ι ω₁ α)
    (q : Scripted ι ω₂ β) : Prop :=
  ∀ is, Option.Rel (Outcome.Agree u v R) (p is) (q is)

namespace Agree

variable {u : ω₁ → υ} {v : ω₂ → υ} {R : α → β → Prop} {S : γ → δ → Prop}
  {p : Scripted ι ω₁ α} {q : Scripted ι ω₂ β}

theorem pure {a : α} {b : β} (h : R a b) :
    Agree u v R (Pure.pure a : Scripted ι ω₁ α) (Pure.pure b : Scripted ι ω₂ β) :=
  fun _ => .some ⟨h, rfl, rfl⟩

-- A program agrees with itself, however its accesses are named, as long as the names look the same.
theorem label {l₁ : ω → ω₁} {l₂ : ω → ω₂} (h : ∀ e, u (l₁ e) = v (l₂ e)) (p : Scripted ι ω α) :
    Agree u v Eq (p.label l₁) (p.label l₂) := by
  intro is
  show Option.Rel _ ((p is).map _) ((p is).map _)
  cases p is
  case none   => exact .none
  case some o => exact .some ⟨rfl, rfl, by simp [h]⟩

theorem bind {f : α → Scripted ι ω₁ γ} {g : β → Scripted ι ω₂ δ} (h : Agree u v R p q)
    (hf : ∀ a b, R a b → Agree u v S (f a) (g b)) : Agree u v S (p >>= f) (q >>= g) := by
  intro is
  show Option.Rel _ ((p is).bind _) ((q is).bind _)
  generalize p is = x, q is = y, h is = h
  cases h
  case none => exact .none
  case some o₁ o₂ ho =>
    show Option.Rel _ ((f o₁.val o₁.rest).map _) ((g o₂.val o₂.rest).map _)
    have h' := hf _ _ ho.val o₂.rest
    rw [ho.rest]
    generalize f o₁.val o₂.rest = x, g o₂.val o₂.rest = y at h'
    cases h'
    case none     => exact .none
    case some ho' => exact .some ⟨ho'.val, ho'.rest, by simp [ho.log, ho'.log]⟩

-- When the same value comes out of both programs.
theorem bind_eq {p : Scripted ι ω₁ α} {q : Scripted ι ω₂ α} {f : α → Scripted ι ω₁ γ}
    {g : α → Scripted ι ω₂ δ} (h : Agree u v Eq p q) (hf : ∀ a, Agree u v S (f a) (g a)) :
    Agree u v S (p >>= f) (q >>= g) :=
  bind h fun a _ ha => ha ▸ hf a

end Agree

end Agree

end Scripted
