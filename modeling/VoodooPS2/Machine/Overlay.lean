import Mathlib.Logic.Function.Basic
import VoodooPS2.Machine.LastValue

-- Tables of which some entries are given anew, and a table that is kept up to date with a mode.
namespace Overlay

open LastValue

variable {κ α μ ι : Type*} {p q : κ → Option α} {f g : κ → α} {k : κ} {v : α}

-- The entries that are not given anew stay as they are.
def overlay (p : κ → Option α) (f : κ → α) : κ → α :=
  fun k => (p k).getD (f k)

theorem overlay_of_some (h : p k = some v) : overlay p f k = v := by
  simp [overlay, h]

theorem overlay_of_none (h : p k = none) : overlay p f k = f k := by
  simp [overlay, h]

theorem overlay_eq_iff : overlay p f = f ↔ ∀ k, ∀ v ∈ p k, v = f k := by
  constructor
  case mp =>
    intro h k v hv
    rw [← h, overlay_of_some hv]
  case mpr =>
    intro h
    funext k
    cases hp : p k
    case none   => rw [overlay_of_none hp]
    case some v => rw [overlay_of_some hp, h k v hp]

@[simp]
theorem overlay_overlay_self : overlay p (overlay p f) = overlay p f :=
  overlay_eq_iff.mpr fun _ _ hv => (overlay_of_some hv).symm

section Loading

variable [DecidableEq κ] {entry : ι → Option (κ × α)} {is : List ι}

-- An entry is written for each element of a list that names one, and the last one counts.
def written (entry : ι → Option (κ × α)) (is : List ι) (k : κ) : Option α :=
  lastValue (fun i => (entry i).bind fun e => if e.1 = k then some e.2 else none) is

theorem mem_of_written (h : written entry is k = some v) : ∃ i ∈ is, entry i = some (k, v) := by
  induction is using List.reverseRecOn
  case nil => simp [written] at h
  case append_singleton is i hi =>
    rw [written, lastValue_concat, Option.or_eq_some_iff] at h
    rcases h with h | ⟨-, h⟩
    · have ⟨e, he, hk⟩ := Option.bind_eq_some_iff.mp h
      refine ⟨i, by simp, he.trans ?_⟩
      split at hk
      case isTrue hj => rw [← hj, ← Option.some_inj.mp hk]
      case isFalse   => nomatch hk
    · have ⟨j, hj, he⟩ := hi h
      exact ⟨j, List.mem_append_left _ hj, he⟩

theorem foldl_update_eq_overlay : is.foldl (fun f i =>
    match entry i with
    | none        => f
    | some (k, v) => Function.update f k v) f = overlay (written entry is) f := by
  funext k
  refine @foldl_entry _ _ _ _ (fun f : κ → α => f k) _ _ _ fun f i _ => ?_
  cases entry i
  case none => rfl
  case some e =>
    rcases e with ⟨j, v⟩
    by_cases h : j = k
    case pos =>
      subst h
      simp
    case neg => simp [h, Function.update_of_ne (Ne.symm h)]

end Loading

section Switching

variable {o : μ → κ → Option α} {s : μ × (κ → α)} {m m₀ : μ}

-- The table has the entries of its mode, and the others are those of `f` or of some mode.
structure Settled (o : μ → κ → Option α) (f : κ → α) (s : μ × (κ → α)) : Prop where
  mode  : overlay (o s.1) s.2 = s.2
  entry : ∀ k, s.2 k = f k ∨ ∃ m, o m k = some (s.2 k)

-- An entry that a mode has and another mode does not have is the one the table starts with.
def Covered (o : μ → κ → Option α) (f : κ → α) : Prop :=
  ∀ m m' k, o m k = none → ∀ v ∈ o m' k, v = f k

theorem Settled.entry_eq (h : Settled o f s) (hc : Covered o f) : s.2 k = (o s.1 k).getD (f k) := by
  have he := congrFun h.mode k
  cases ho : o s.1 k
  case some v =>
    rw [overlay_of_some ho] at he
    exact he.symm
  case none =>
    rcases h.entry k with hf | ⟨m, hm⟩
    · exact hf
    · exact hc _ m k ho _ hm

variable [DecidableEq μ]

-- The entries of a mode are given anew when the mode changes. An input may also leave the mode alone.
def switchTo (o : μ → κ → Option α) (s : μ × (κ → α)) (m : Option μ) : μ × (κ → α) :=
  let m := m.getD s.1
  if m = s.1 then s else (m, overlay (o m) s.2)

theorem Settled.switchTo (h : Settled o f s) (m : Option μ) : Settled o f (switchTo o s m) := by
  unfold Overlay.switchTo
  dsimp only
  split
  case isTrue  => exact h
  case isFalse =>
    refine ⟨overlay_overlay_self, fun k => ?_⟩
    cases ho : o (m.getD s.1) k
    case none   => simpa [overlay_of_none ho] using h.entry k
    case some v => exact .inr ⟨_, ho.trans (congrArg some (overlay_of_some ho).symm)⟩

theorem Settled.foldl (h : Settled o f s) (ms : List (Option μ)) :
    Settled o f (ms.foldl (Overlay.switchTo o) s) := by
  induction ms generalizing s
  case nil          => exact h
  case cons m ms hi => exact hi (h.switchTo m)

theorem switchTo_of_eq {m : Option μ} (h : m.getD s.1 = s.1) : switchTo o s m = s :=
  if_pos h

theorem switchTo_of_ne {m : Option μ} (h : m.getD s.1 ≠ s.1) :
    switchTo o s m = (m.getD s.1, overlay (o (m.getD s.1)) s.2) :=
  if_neg h

-- The table depends on the entries of the mode alone, however it has been reached.
theorem Covered.foldl_eq {ms ms' : List (Option μ)} (hc : Covered o f) (h₀ : overlay (o m₀) f = f)
    (ho : o (ms.foldl (switchTo o) (m₀, f)).1 = o (ms'.foldl (switchTo o) (m₀, f)).1) :
    (ms.foldl (switchTo o) (m₀, f)).2 = (ms'.foldl (switchTo o) (m₀, f)).2 := by
  have hs : Settled o f (m₀, f) := ⟨h₀, fun _ => .inl rfl⟩
  funext k
  rw [(hs.foldl ms).entry_eq hc, (hs.foldl ms').entry_eq hc, ho]

-- Otherwise a mode that is reached at once differs from the same mode after another one.
theorem Covered.of_foldl (h₀ : overlay (o m₀) f = f) (h : ∀ ms ms' : List (Option μ),
    (ms.foldl (switchTo o) (m₀, f)).1 = (ms'.foldl (switchTo o) (m₀, f)).1 →
      (ms.foldl (switchTo o) (m₀, f)).2 = (ms'.foldl (switchTo o) (m₀, f)).2) : Covered o f := by
  intro m m' k hn v hv
  have hne : m ≠ m' := by
    rintro rfl
    simp [hn] at hv
  have h₁ : ∀ m, switchTo o (m₀, f) (some m) = (m, overlay (o m) f) := by
    intro m
    by_cases hm : m = m₀
    case pos =>
      subst hm
      rw [switchTo_of_eq rfl, h₀]
    case neg => exact switchTo_of_ne hm
  have h₂ : switchTo o (m', overlay (o m') f) (some m) = (m, overlay (o m) (overlay (o m') f)) :=
    switchTo_of_ne hne
  have he := h [some m', some m] [some m]
  simp only [List.foldl_cons, List.foldl_nil, h₁, h₂, true_implies] at he
  have he := congrFun he k
  rwa [overlay_of_none hn, overlay_of_none hn, overlay_of_some hv] at he

end Switching

end Overlay
