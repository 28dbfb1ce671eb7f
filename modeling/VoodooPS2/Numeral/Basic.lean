import Mathlib.Data.Nat.Digits.Defs
import Mathlib.Data.Nat.ModEq

namespace Numeral

section Value

variable {β : Type} {b m : Nat}

-- The number whose digits are the given ones, with the most significant one first.
def value (b : Nat) (ds : List Nat) : Nat :=
  Nat.ofDigits b ds.reverse

@[simp]
theorem value_nil : value b [] = 0 :=
  rfl

theorem value_cons {d : Nat} {ds : List Nat} :
    value b (d :: ds) = value b ds + b ^ ds.length * d :=
  Nat.ofDigits_reverse_cons ds d

-- A register that takes in one digit after the other. If it keeps no more than residues, it ends up with
-- the residue of the number.
theorem residue_foldl {r : β → Nat} {step : β → Nat → β}
    (h : ∀ n d, r (step n d) ≡ r n * b + d [MOD m]) (n : β) (ds : List Nat) :
    r (ds.foldl step n) ≡ r n * b ^ ds.length + value b ds [MOD m] := by
  induction ds generalizing n
  case nil => simp [Nat.ModEq.refl]
  case cons d ds hi =>
    calc r (ds.foldl step (step n d))
      _ ≡ r (step n d) * b ^ ds.length + value b ds [MOD m]  := hi (step n d)
      _ ≡ (r n * b + d) * b ^ ds.length + value b ds [MOD m] :=
        ((h n d).mul_right _).add_right _
      _ = r n * b ^ (ds.length + 1) + value b (d :: ds)      := by
        rw [value_cons]
        ring

end Value

section Scan

variable {χ δ β : Type} (stop : χ → Prop) [DecidablePred stop] (digit? : χ → Option δ)
  (step : β → δ → β)

-- Takes in digits up to the first character that stops it, or up to the end. Any other character is an
-- error.
def scan : β → List χ → Option (β × List χ)
  | n, []     => some (n, [])
  | n, c :: s =>
    if stop c then some (n, c :: s)
    else
      match digit? c with
      | none   => none
      | some d => scan (step n d) s

-- The string starts with the digits `ds`, and what is left is empty or begins with a character that stops.
structure Scanned (s ds rest : List χ) : Prop where
  eq     : s = ds ++ rest
  digits : ∀ c ∈ ds, ¬stop c ∧ (digit? c).isSome
  stops  : ∀ c ∈ rest.head?, stop c

variable {stop digit? step} {s ds ds' rest rest' : List χ} {n n' : β}

theorem Scanned.scan_eq (h : Scanned stop digit? s ds rest) :
    scan stop digit? step n s = some ((ds.filterMap digit?).foldl step n, rest) := by
  obtain ⟨rfl, hd, hr⟩ := h
  induction ds generalizing n
  case nil =>
    cases rest
    case nil         => rfl
    case cons c rest => exact if_pos (hr c rfl)
  case cons c ds hi =>
    have ⟨hs, hc⟩ := hd c (List.mem_cons_self ..)
    have ⟨d, hc⟩ := Option.isSome_iff_exists.mp hc
    rw [List.cons_append, scan, if_neg hs, hc, List.filterMap_cons_some hc, List.foldl_cons]
    exact hi fun c h => hd c (List.mem_cons_of_mem _ h)

theorem scanned_of_scan (h : scan stop digit? step n s = some (n', rest)) :
    ∃ ds, Scanned stop digit? s ds rest := by
  induction s generalizing n
  case nil =>
    obtain ⟨rfl, rfl⟩ : n = n' ∧ [] = rest := by simpa [scan] using h
    exact ⟨[], rfl, nofun, nofun⟩
  case cons c s hi =>
    by_cases hc : stop c
    case pos =>
      obtain ⟨rfl, rfl⟩ : n = n' ∧ c :: s = rest := by simpa [scan, hc] using h
      exact ⟨[], rfl, nofun, fun c' h => by simp_all⟩
    case neg =>
      rw [scan, if_neg hc] at h
      cases hd : digit? c
      case none   => simp [hd] at h
      case some d =>
        have ⟨ds, hs, hds, hr⟩ := hi (by simpa [hd] using h)
        refine ⟨c :: ds, by rw [hs]; rfl, ?_, hr⟩
        simp_all

theorem scan_eq_some_iff : scan stop digit? step n s = some (n', rest) ↔
    ∃ ds, Scanned stop digit? s ds rest ∧ (ds.filterMap digit?).foldl step n = n' := by
  constructor
  case mp =>
    intro h
    have ⟨ds, hd⟩ := scanned_of_scan h
    rw [hd.scan_eq] at h
    exact ⟨ds, hd, congrArg Prod.fst (Option.some.inj h)⟩
  case mpr =>
    intro ⟨ds, hd, hn⟩
    rw [hd.scan_eq, hn]

-- There is only one way to take the digits.
theorem Scanned.unique (h : Scanned stop digit? s ds rest) (h' : Scanned stop digit? s ds' rest') :
    ds = ds' ∧ rest = rest' := by
  have he : scan stop digit? (fun (_ : Unit) _ => ()) () s = _ := h.scan_eq
  rw [h'.scan_eq] at he
  obtain rfl : rest' = rest := congrArg Prod.snd (Option.some.inj he)
  exact ⟨List.append_cancel_right (h.eq ▸ h'.eq), rfl⟩

end Scan

end Numeral
