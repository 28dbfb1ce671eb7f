import Mathlib.Data.List.Induction

-- An event of one of many switches, which is turned on or off.
structure SwitchEvent (κ : Type*) where
  switch : κ
  on     : Bool
  deriving DecidableEq

namespace SwitchEvent

variable {κ τ : Type*} [DecidableEq κ] [DecidableEq τ] {k j : κ} {e : SwitchEvent κ}
variable {es fs : List (SwitchEvent κ)}

-- What the switch `k` goes through.
def ofSwitch (k : κ) (es : List (SwitchEvent κ)) : List Bool :=
  (es.filter (·.switch = k)).map (·.on)

-- The last event of the switch `k` has turned it on.
def IsOn (es : List (SwitchEvent κ)) (k : κ) : Prop :=
  (ofSwitch k es).getLast? = some true

instance : Decidable (IsOn es k) :=
  inferInstanceAs (Decidable (_ = _))

@[simp]
theorem ofSwitch_nil : ofSwitch k [] = [] :=
  rfl

@[simp]
theorem ofSwitch_append : ofSwitch k (es ++ fs) = ofSwitch k es ++ ofSwitch k fs := by
  simp [ofSwitch]

@[simp]
theorem ofSwitch_cons_self {b : Bool} : ofSwitch k (⟨k, b⟩ :: es) = b :: ofSwitch k es := by
  simp [ofSwitch]

theorem ofSwitch_cons_ne (h : e.switch ≠ k) : ofSwitch k (e :: es) = ofSwitch k es := by
  simp [ofSwitch, h]

theorem ofSwitch_eq_nil : ofSwitch k es = [] ↔ ∀ e ∈ es, e.switch ≠ k := by
  simp [ofSwitch, List.filter_eq_nil_iff]

theorem ofSwitch_ne_nil (h : e ∈ es) : ofSwitch e.switch es ≠ [] :=
  fun hn => ofSwitch_eq_nil.mp hn e h rfl

@[simp]
theorem not_isOn_nil : ¬IsOn [] k :=
  nofun

-- What happens last decides, and a switch keeps its position when nothing happens to it.
theorem isOn_append : IsOn (es ++ fs) k ↔ IsOn fs k ∨ ofSwitch k fs = [] ∧ IsOn es k := by
  simp only [IsOn, ofSwitch_append, List.getLast?_append]
  cases h : (ofSwitch k fs).getLast?
  case none   => simp [List.getLast?_eq_none_iff.mp h]
  case some b =>
    have hn : ofSwitch k fs ≠ [] := fun hn => by simp [hn] at h
    simp [hn]

theorem isOn_concat_self {b : Bool} : IsOn (es ++ [⟨k, b⟩]) k ↔ b = true := by
  simp [IsOn]

theorem isOn_concat_ne (h : e.switch ≠ k) : IsOn (es ++ [e]) k ↔ IsOn es k := by
  simp [IsOn, ofSwitch_cons_ne h]

theorem isOn_concat : IsOn (es ++ [e]) k ↔ if e.switch = k then e.on = true else IsOn es k := by
  split
  case isTrue h  => rw [← h, show e = ⟨e.switch, e.on⟩ from rfl, isOn_concat_self]
  case isFalse h => rw [isOn_concat_ne h]

theorem isOn_singleton : IsOn [e] k ↔ e.switch = k ∧ e.on = true := by
  rw [← List.nil_append [e], isOn_concat]
  simp

theorem not_isOn_concat_off : ¬IsOn (es ++ [⟨k, false⟩]) k :=
  fun h => Bool.false_ne_true (isOn_concat_self.mp h)

-- To turn a switch off turns no switch on, nor does it if it is turned on right before.
theorem IsOn.of_off (h : IsOn (es ++ [⟨j, false⟩]) k) : IsOn es k := by
  by_cases hk : j = k
  case pos => exact absurd (hk ▸ h) not_isOn_concat_off
  case neg => exact (isOn_concat_ne hk).mp h

theorem IsOn.of_pair (h : IsOn (es ++ [⟨j, true⟩, ⟨j, false⟩]) k) : IsOn es k := by
  rw [List.append_cons] at h
  by_cases hk : j = k
  case pos => exact absurd (hk ▸ h) not_isOn_concat_off
  case neg => exact (isOn_concat_ne hk).mp h.of_off

theorem IsOn.mem (h : IsOn es k) : ⟨k, true⟩ ∈ es := by
  have h := List.mem_of_getLast? h
  simp only [ofSwitch, List.mem_map, List.mem_filter, decide_eq_true_eq] at h
  obtain ⟨⟨_, _⟩, ⟨hm, rfl⟩, rfl⟩ := h
  exact hm

-- A switch that has been turned on and is not on has been turned off since.
theorem off_after_on (h : ⟨k, true⟩ ∈ es) (hn : ¬IsOn es k) :
    ∃ pre mid post, es = pre ++ ⟨k, true⟩ :: mid ++ ⟨k, false⟩ :: post := by
  induction es using List.reverseRecOn
  case nil => simp at h
  case append_singleton es e hi =>
    rw [isOn_concat] at hn
    by_cases hk : e.switch = k
    case neg =>
      rw [if_neg hk] at hn
      have he : ⟨k, true⟩ ∈ es := by
        rcases List.mem_append.mp h with he | he
        · exact he
        · exact absurd (by simp [← List.mem_singleton.mp he]) hk
      have ⟨pre, mid, post, hs⟩ := hi he hn
      exact ⟨pre, mid, post ++ [e], by simp [hs]⟩
    case pos =>
      rw [if_pos hk] at hn
      have he : e = ⟨k, false⟩ := by
        rcases e with ⟨k', on⟩
        simp_all
      have ⟨pre, mid, hs⟩ := List.append_of_mem (show ⟨k, true⟩ ∈ es by simpa [he] using h)
      exact ⟨pre, mid, [], by simp [hs, he]⟩

-- A switch that is only turned on while it is on stays off.
theorem stays_off (hn : ¬IsOn es k)
    (h : ∀ pre post, fs = pre ++ ⟨k, true⟩ :: post → IsOn (es ++ pre) k) : ¬IsOn (es ++ fs) k := by
  induction fs generalizing es
  case nil => simpa using hn
  case cons e fs hi =>
    rw [List.append_cons]
    refine hi ?off fun pre post hp => ?on
    case off =>
      rw [isOn_concat]
      split
      case isFalse => exact hn
      case isTrue hk =>
        intro ho
        have := h [] fs (by simp [← hk, ← ho])
        exact hn (by simpa using this)
    case on => simpa using h (e :: pre) post (by simp [hp])

-- Where several switches are seen as one, the one that had the last event is among them.
theorem IsOn.of_map {f : κ → τ} {t : τ} (h : IsOn (es.map fun e => ⟨f e.switch, e.on⟩) t) :
    ∃ k, f k = t ∧ IsOn es k := by
  induction es using List.reverseRecOn
  case nil => exact absurd h not_isOn_nil
  case append_singleton es e hi =>
    rw [List.map_append, List.map_singleton] at h
    by_cases hk : f e.switch = t
    case pos =>
      refine ⟨e.switch, hk, isOn_concat_self.mpr ?_⟩
      exact isOn_concat_self.mp (hk ▸ h)
    case neg =>
      have ⟨k, hk', ho⟩ := hi ((isOn_concat_ne hk).mp h)
      refine ⟨k, hk', (isOn_concat_ne ?_).mpr ho⟩
      rintro rfl
      exact hk hk'

-- A switch that starts as `b` goes through the given events and is never turned on while it is on; if
-- it ends up on, then so does a switch that is known to be `v`.
def Alternates : Bool → List Bool → Bool → Prop
  | b, [], v     => b = true → v = true
  | b, e :: l, v => ¬(b = true ∧ e = true) ∧ Alternates e l v

theorem Alternates.concat {b e v : Bool} {l : List Bool} (h : Alternates b l v)
    (he : e = true → v = false) : Alternates b (l ++ [e]) e := by
  induction l generalizing b
  case nil =>
    refine ⟨?_, id⟩
    rintro ⟨hb, h'⟩
    exact absurd (h hb) (by simp [he h'])
  case cons hi => exact ⟨h.left, hi h.right⟩

end SwitchEvent
