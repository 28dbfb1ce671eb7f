import VoodooPS2.Controller.Configuration
import VoodooPS2.Machine.Chain

namespace Controller

variable {s name : CString} {root : OSDictionary} {d : OSDictionary} {fuel : Nat}

theorem linkTarget_eq : linkTarget s = s.takeWhile (· ≠ ';') := by
  rw [List.takeWhile_eq_take_findIdx_not]
  simp only [linkTarget, CString.setNul, ne_eq, decide_not, Bool.not_not]
  split
  case isFalse => rfl
  case isTrue h =>
    refine (List.take_of_length_le (Nat.le_of_not_lt fun hl => h ?_)).symm
    have := List.findIdx_getElem (w := hl)
    rw [List.getElem?_eq_getElem hl]
    simpa using this

namespace OSDictionary

-- The key that an alias stands for.
def link (root : OSDictionary) (name : CString) : Option CString :=
  match root.getObject name with
  | some (.string s) => some (s.takeWhile (· ≠ ';'))
  | _                => none

def node (root : OSDictionary) (name : CString) : Option OSDictionary :=
  (root.getObject name).bind OSObject.dictionary?

-- The aliases lead from the name to a key which has that dictionary.
def Reaches (root : OSDictionary) (name : CString) (d : OSDictionary) : Prop :=
  ∃ n key, Chain.nth root.link name n = some key ∧ root.getObject key = some (.dictionary d)

-- The lookup returns the dictionary that is reached, or null if there is none.
def Finds (root : OSDictionary) (name : CString) : Prop :=
  ∃ fuel r, root.getConfigurationNode fuel name = some r ∧ ∀ d, r = some d ↔ root.Reaches name d

theorem getConfigurationNode_eq_follow :
    root.getConfigurationNode fuel name = Chain.follow root.link root.node fuel name := by
  induction fuel generalizing name
  case zero         => rfl
  case succ fuel hi =>
    unfold getConfigurationNode Chain.follow
    cases h : root.getObject name
    case none     => simp [link, node, h]
    case some obj =>
      cases obj
      case string s   => simp [link, h, linkTarget_eq, hi]
      case dictionary => simp [link, node, h, OSObject.dictionary?]
      case other      => simp [link, node, h, OSObject.dictionary?]

theorem node_eq_some : root.node name = some d ↔ root.getObject name = some (.dictionary d) := by
  unfold node
  cases root.getObject name
  case none     => simp
  case some obj => cases obj <;> simp [OSObject.dictionary?]

theorem link_of_node (h : root.node name = some d) : root.link name = none := by
  simp [link, node_eq_some.mp h]

theorem finite_links : {name | (root.link name).isSome}.Finite := by
  refine (List.finite_toSet (root.map Prod.fst)).subset fun name h => ?_
  by_contra hn
  have hl : root.getObject name = none := List.lookup_eq_none_iff.mpr fun p hp => by
    have hm : p.1 ∈ root.map Prod.fst := List.mem_map_of_mem hp
    have hne : name ≠ p.1 := fun he => hn (he ▸ hm)
    simpa using hne
  simp [link, hl] at h

-- What is found is what is reached: the last key of a chain of aliases is the only one without an alias.
theorem getConfigurationNode_eq_some {r : Option OSDictionary}
    (h : root.getConfigurationNode fuel name = some r) : r = some d ↔ root.Reaches name d := by
  rw [getConfigurationNode_eq_follow, Chain.follow_eq_some] at h
  obtain ⟨n, -, key, hk, hl, rfl⟩ := h
  constructor
  case mp => exact fun h => ⟨n, key, hk, node_eq_some.mp h⟩
  case mpr =>
    rintro ⟨m, key', hk', hd⟩
    have hd := node_eq_some.mpr hd
    exact (Chain.last_unique hk hl hk' (link_of_node hd)).symm ▸ hd

theorem returns_iff : (∃ fuel r, root.getConfigurationNode fuel name = some r) ↔
    Chain.NonRepeating root.link name := by
  simp only [getConfigurationNode_eq_follow]
  rw [Chain.nonRepeating_iff_ends finite_links, Chain.follow_returns_iff]

theorem getConfigurationNode_mono {fuel' : Nat} {r : Option OSDictionary}
    (h : root.getConfigurationNode fuel name = some r) (hl : fuel ≤ fuel') :
    root.getConfigurationNode fuel' name = some r := by
  rw [getConfigurationNode_eq_follow] at h ⊢
  exact Chain.follow_mono h hl

end OSDictionary

-- A lookup finds what it should exactly if no key comes up twice while the aliases are followed.
theorem getConfigurationNode_finds_iff (root : OSDictionary) (name : CString) :
    root.Finds name ↔ Chain.NonRepeating root.link name := by
  rw [← OSDictionary.returns_iff]
  constructor
  case mp  => exact fun ⟨fuel, r, h, _⟩ => ⟨fuel, r, h⟩
  case mpr => exact fun ⟨fuel, r, h⟩ => ⟨fuel, r, h, fun _ => OSDictionary.getConfigurationNode_eq_some h⟩

-- An alias for itself is followed forever.
theorem not_getConfigurationNode_finds : ¬∀ (root : OSDictionary) (name : CString), root.Finds name := by
  intro h
  have ⟨fuel, r, hr, _⟩ := h [(['A'], .string ['A'])] ['A']
  induction fuel
  case zero      => nomatch hr
  case succ _ hi => exact hi hr

section Lookups

variable {lookups : List (OSDictionary × Option CString)} {p : Platform} {list : OSDictionary}
variable {model : Option CString}

-- None of the lookups comes upon a key twice.
def NonRepeating (lookups : List (OSDictionary × Option CString)) : Prop :=
  ∀ l ∈ lookups, ∀ name ∈ l.2, Chain.NonRepeating l.1.link name

theorem lookups_return (h : NonRepeating lookups) : ∃ fuel, ∀ fuel' ≥ fuel, ∀ l ∈ lookups,
    ∃ r, getConfigurationNode? fuel' (some l.1) l.2 = some r := by
  induction lookups
  case nil => simp
  case cons l lookups hi =>
    have ⟨fuel₁, h₁⟩ := hi fun l hl => h l (List.mem_cons_of_mem _ hl)
    have ⟨fuel₂, h₂⟩ : ∃ fuel, ∀ fuel' ≥ fuel, ∃ r, getConfigurationNode? fuel' (some l.1) l.2 = some r := by
      obtain ⟨root, _ | name⟩ := l
      case none => exact ⟨0, fun _ _ => ⟨none, rfl⟩⟩
      case some =>
        have ⟨fuel, r, hr⟩ := OSDictionary.returns_iff.mpr (h (root, some name) List.mem_cons_self name rfl)
        exact ⟨fuel, fun _ hl => ⟨r, OSDictionary.getConfigurationNode_mono hr hl⟩⟩
    refine ⟨max fuel₁ fuel₂, fun fuel' hf => List.forall_mem_cons.mpr ⟨?_, ?_⟩⟩
    · exact h₂ fuel' (le_of_max_le_right hf)
    · exact h₁ fuel' (le_of_max_le_left hf)

theorem firstNode_returns {nodes : List (Option (Option OSDictionary))} (h : ∀ n ∈ nodes, ∃ r, n = some r) :
    ∃ r, firstNode nodes = some r := by
  induction nodes
  case nil => exact ⟨none, rfl⟩
  case cons n nodes hi =>
    obtain ⟨r, rfl⟩ := h n List.mem_cons_self
    cases r
    case none   => exact hi fun n hn => h n (List.mem_cons_of_mem _ hn)
    case some d => exact ⟨some d, rfl⟩

-- The configuration of a driver is made, as long as this is so for all names that are looked up.
theorem makeConfigurationNode_returns
    (h : NonRepeating ((list, some kDefault) :: configurationLookups p list model)) :
    ∃ fuel r, makeConfigurationNode fuel p (some list) model = some r := by
  have ⟨fuel, hf⟩ := lookups_return h
  have ⟨⟨defaultNode, hd⟩, hn⟩ := List.forall_mem_cons.mp (hf fuel le_rfl)
  obtain ⟨platformNode, hp⟩ : ∃ r, getConfigurationNode fuel p list model = some r :=
    firstNode_returns (List.forall_mem_map.mpr hn)
  exact ⟨fuel, mergeNodes defaultNode platformNode, by rw [makeConfigurationNode, hd, hp]; rfl⟩

end Lookups

end Controller
