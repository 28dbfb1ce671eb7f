import Mathlib.Data.List.Chain
import VoodooPS2.Controller.Theorems.Request
import VoodooPS2.Machine.Agreement

namespace Controller

open Scripted

namespace PS2Command

-- The command sequence to which the composite mouse command is documented to be equivalent.
def expansion (c : PS2Command) : List PS2Command := [
  { command := .writeCommandPort, byte₀ := kCP_TransmitToMouse },
  { command := .writeDataPort, byte₀ := c.inOrOut },
  { command := .readDataPortAndCompare, byte₀ := kSC_Acknowledge }
]

def IsReplaced (c : PS2Command) (chosen : Bool) : Prop :=
  chosen = true ∧ c.command = .sendMouseCommandAndCompareAck

instance {c : PS2Command} {chosen : Bool} : Decidable (c.IsReplaced chosen) :=
  inferInstanceAs (Decidable (_ ∧ _))

-- What stands for a command in the expansion.
def replacement (c : PS2Command) (chosen : Bool) : List PS2Command :=
  if c.IsReplaced chosen then c.expansion else [c]

-- The next byte that is written to the data port is meant for the mouse.
def AnnouncesMouse (c : PS2Command) : Prop :=
  c.command = .writeCommandPort ∧ c.inOrOut = kCP_TransmitToMouse

instance : DecidablePred AnnouncesMouse :=
  fun _ => inferInstanceAs (Decidable (_ ∧ _))

end PS2Command

-- The commands, with the composite ones replaced whose index is chosen.
def expand (chosen : Nat → Bool) : List PS2Command → List PS2Command
  | []      => []
  | c :: cs => c.replacement (chosen 0) ++ expand (fun i => chosen (i + 1)) cs

-- The index in the expansion from which on it is about the `i`-th command.
def position (chosen : Nat → Bool) (cs : List PS2Command) (i : Nat) : Nat :=
  (expand chosen (cs.take i)).length

-- Nothing but the write of a byte follows the command that announces this byte.
def Announced (cs : List PS2Command) : Prop :=
  cs.IsChain fun c c' => c.AnnouncesMouse → c'.command = .writeDataPort

-- What the loop over the commands comes to: the index of a failure, and the commands.
abbrev Passed := Option Nat × List PS2Command

section Commands

variable {s : State} {m : Mode} {c : PS2Command} {cs ds : List PS2Command} {chosen : Nat → Bool}
  {i j k : Nat} {failed : Bool} {p q : Scripted UInt8 (Nat × Access) Passed} {x y : Passed}

@[simp]
theorem position_zero : position chosen cs 0 = 0 := by
  simp [position, expand]

theorem position_succ : position chosen (c :: cs) (i + 1) =
    (c.replacement (chosen 0)).length + position (fun i => chosen (i + 1)) cs i := by
  simp [position, expand]

theorem replacement_of_not {b : Bool} (h : ¬c.IsReplaced b) : c.replacement b = [c] :=
  if_neg h

theorem replacement_of {b : Bool} (h : c.IsReplaced b) : c.replacement b = c.expansion :=
  if_pos h

-- How the loop goes on when the commands before `cs` have become `ds`, the last of which, with the index
-- `k`, may have failed.
def proceed (failed : Bool) (k : Nat) (ds cs : List PS2Command)
    (p : Scripted UInt8 (Nat × Access) Passed) : Scripted UInt8 (Nat × Access) Passed :=
  if failed then pure (some k, ds ++ cs) else (fun r => (r.1, ds ++ r.2)) <$> p

theorem proceed_false : proceed false k ds cs p = (fun r => (r.1, ds ++ r.2)) <$> p :=
  rfl

theorem map_proceed :
    (fun r => (r.1, c :: r.2)) <$> proceed failed k ds cs p = proceed failed k (c :: ds) cs p := by
  cases failed <;> simp [proceed]

theorem processCommands_cons : processCommands s i m (c :: cs) = (do
    let r ← label (i, ·) (processCommand s m c)
    proceed r.2 i [r.1] cs (processCommands s (i + 1) (m.next c) cs)) := by
  simp [processCommands, proceed]

theorem processCommands_composite (hc : c.command = .sendMouseCommandAndCompareAck) :
    processCommands s i m (c :: cs) = (do
      label (i, ·) (writeCommandPort kCP_TransmitToMouse)
      label (i, ·) (writeDataPort c.inOrOut)
      let byte ← label (i, ·) (readDataPortExpecting s .mouse kSC_Acknowledge)
      proceed (byte ≠ kSC_Acknowledge) i [c] cs (processCommands s (i + 1) (m.next c) cs)) := by
  simp [processCommands_cons, processCommand, hc, label_bind, label_map]

-- The mode from which the expansion starts makes no difference to it.
theorem processCommands_expansion : processCommands s j m (c.expansion ++ cs) = (do
    label (j, ·) (writeCommandPort kCP_TransmitToMouse)
    label (j + 1, ·) (writeDataPort c.inOrOut)
    let byte ← label (j + 2, ·) (readDataPortExpecting s .mouse kSC_Acknowledge)
    proceed (byte ≠ kSC_Acknowledge) (j + 2)
      (c.expansion.set 2 { command := .readDataPortAndCompare, byte₀ := byte }) cs
      (processCommands s (j + 3) ⟨.mouse, false⟩ cs)) := by
  simp only [PS2Command.expansion, List.cons_append, List.nil_append, processCommands_cons,
    processCommand, bind_pure_comp, label_map, bind_map_left, proceed_false, map_bind, map_proceed]
  rfl

-- What the two loops make of some commands and of their expansion: a failure is the one of the last
-- command that stands for the failing one, and a command that is not replaced stores the same.
structure Corresponds (chosen : Nat → Bool) (cs : List PS2Command) (i j : Nat) (x y : Passed) :
    Prop where
  length₁ : x.2.length = cs.length
  length₂ : y.2.length = (expand chosen cs).length
  failed  : Option.Rel (fun k k' => ∃ n, n < cs.length ∧ k = i + n ∧
    k' + 1 = j + position chosen cs (n + 1)) x.1 y.1
  stored  : ∀ n c, cs[n]? = some c → ¬c.IsReplaced (chosen n) →
    x.2[n]? = y.2[position chosen cs n]?

-- Nothing is stored by commands that are not processed.
theorem getElem?_expand {n : Nat} (hn : cs[n]? = some c)
    (hc : ¬c.IsReplaced (chosen n)) : cs[n]? = (expand chosen cs)[position chosen cs n]? := by
  induction cs generalizing chosen n
  case nil => simp at hn
  case cons c' cs hi =>
    cases n
    case zero =>
      obtain rfl : c' = c := by simpa using hn
      simp [expand, replacement_of_not hc]
    case succ n =>
      have hn : cs[n]? = some c := by simpa using hn
      rw [position_succ, expand, List.getElem?_append_right (Nat.le_add_right _ _),
        Nat.add_sub_cancel_left, List.getElem?_cons_succ]
      exact hi hn hc

namespace Corresponds

theorem cons {c' : PS2Command} (hd : ds.length = (c.replacement (chosen 0)).length)
    (hs : ¬c.IsReplaced (chosen 0) → ds = [c'])
    (h : Corresponds (fun i => chosen (i + 1)) cs (i + 1) (j + ds.length) x y) :
    Corresponds chosen (c :: cs) i j (x.1, c' :: x.2) (y.1, ds ++ y.2) := by
  refine ⟨by simp [h.length₁], by simp [expand, h.length₂, hd], ?failed, ?stored⟩
  case failed =>
    have h := h.failed
    show Option.Rel _ x.1 y.1
    generalize x.1 = k, y.1 = k' at h
    cases h
    case none => exact .none
    case some h =>
      have ⟨n, hn, hk, hk'⟩ := h
      refine .some ⟨n + 1, by simpa using hn, by omega, ?_⟩
      rw [position_succ, hk', hd, Nat.add_assoc]
  case stored =>
    intro n c₁ hn hc
    cases n
    case zero =>
      obtain rfl : c = c₁ := by simpa using hn
      simp [hs hc]
    case succ n =>
      show x.2[n]? = _
      rw [position_succ, ← hd, List.getElem?_append_right (Nat.le_add_right _ _),
        Nat.add_sub_cancel_left]
      exact h.stored n c₁ (by simpa using hn) hc

-- The first of the commands has failed.
theorem fail {c' : PS2Command} (hd : ds.length = (c.replacement (chosen 0)).length)
    (hs : ¬c.IsReplaced (chosen 0) → ds = [c']) (hk : k + 1 = j + ds.length) :
    Corresponds chosen (c :: cs) i j (some i, c' :: cs)
      (some k, ds ++ expand (fun i => chosen (i + 1)) cs) := by
  have h : Corresponds (fun i => chosen (i + 1)) cs (i + 1) (j + ds.length) (none, cs)
      (none, expand (fun i => chosen (i + 1)) cs) :=
    ⟨rfl, rfl, .none, fun _ _ hn hc => getElem?_expand hn hc⟩
  have ⟨h₁, h₂, _, hs⟩ := h.cons hd hs
  refine ⟨h₁, h₂, .some ⟨0, by simp, rfl, ?_⟩, hs⟩
  rw [position_succ, position_zero, hk, hd, Nat.add_zero]

-- Either none of the commands has failed in either loop, or one has in both.
theorem status (h : Corresponds chosen cs 0 0 x y) :
    (x.1 = none ∧ y.1 = none) ∨ ∃ k k', x.1 = some k ∧ y.1 = some k' ∧ k < cs.length ∧
      k' + 1 = position chosen cs (k + 1) := by
  have h := h.failed
  generalize x.1 = k, y.1 = k' at h
  cases h
  case none => exact .inl ⟨rfl, rfl⟩
  case some k k' h =>
    have ⟨n, hn, hk, hk'⟩ := h
    obtain rfl : k = n := by omega
    exact .inr ⟨k, k', rfl, rfl, hn, by omega⟩

end Corresponds

-- The mouse stays announced for no longer than one command.
theorem Announced.next (hm : ∀ c' ∈ (c :: cs).head?, m.transmitToMouse = true →
    c'.command = .writeDataPort) (hc : Announced (c :: cs)) :
    ∀ c' ∈ cs.head?, (m.next c).transmitToMouse = true → c'.command = .writeDataPort := by
  intro c' hc' ht
  apply (List.isChain_cons.mp hc).left c' hc'
  have hm : m.transmitToMouse = true → c.command = .writeDataPort := hm c rfl
  cases hk : c.command
  all_goals
    simp only [Mode.next, hk] at ht
    grind [PS2Command.AnnouncesMouse]

-- The rest of the commands is done with after the first one in the one loop, and after the ones that
-- stand for it in the other loop.
theorem proceed_agree {c' : PS2Command} (hd : ds.length = (c.replacement (chosen 0)).length)
    (hs : ¬c.IsReplaced (chosen 0) → ds = [c']) (hk : k + 1 = j + ds.length)
    (h : Agree Prod.snd Prod.snd
      (Corresponds (fun i => chosen (i + 1)) cs (i + 1) (j + ds.length)) p q) :
    Agree Prod.snd Prod.snd (Corresponds chosen (c :: cs) i j) (proceed failed i [c'] cs p)
      (proceed failed k ds (expand (fun i => chosen (i + 1)) cs) q) := by
  cases failed
  case true  => exact .pure (.fail hd hs hk)
  case false =>
    show Agree _ _ _ (_ <$> p) (_ <$> q)
    rw [map_eq_pure_bind, map_eq_pure_bind]
    exact h.bind fun _ _ h => .pure (h.cons hd hs)

-- It does not matter which command makes an access.
theorem bind_label_agree {α β γ : Type} {S : β → γ → Prop} {p : Hardware α}
    {f : α → Scripted UInt8 (Nat × Access) β} {g : α → Scripted UInt8 (Nat × Access) γ}
    (h : ∀ a, Agree Prod.snd Prod.snd S (f a) (g a)) :
    Agree Prod.snd Prod.snd S (label (i, ·) p >>= f) (label (j, ·) p >>= g) := by
  apply Agree.bind_eq ?agree h
  apply Agree.label
  exact fun _ => rfl

theorem processCommands_expand (hm : ∀ c ∈ cs.head?, m.transmitToMouse = true →
    c.command = .writeDataPort) (hc : Announced cs) :
    Agree Prod.snd Prod.snd (Corresponds chosen cs i j) (processCommands s i m cs)
      (processCommands s j m (expand chosen cs)) := by
  induction cs generalizing chosen i j m
  case nil => exact .pure ⟨rfl, rfl, .none, nofun⟩
  case cons c cs hi =>
    have hn := hc.next hm
    have hc' : Announced cs := (List.isChain_cons.mp hc).right
    by_cases hr : c.IsReplaced (chosen 0)
    case pos =>
      -- The mouse is not announced, so after both of them it is not either.
      have ht : m.transmitToMouse = false := by
        have := hm c rfl
        simpa [hr.right] using this
      have he : m.next c = ⟨.mouse, false⟩ := by simp [Mode.next, hr.right, ht]
      rw [expand, replacement_of hr, processCommands_composite hr.right, processCommands_expansion]
      apply bind_label_agree
      intro _
      apply bind_label_agree
      intro _
      apply bind_label_agree
      intro byte
      apply proceed_agree (by simp [replacement_of hr]) (absurd hr) rfl
      rw [← he]
      exact hi hn hc'
    case neg =>
      rw [expand, replacement_of_not hr, processCommands_cons, List.singleton_append,
        processCommands_cons]
      apply bind_label_agree
      intro r
      exact proceed_agree (by simp [replacement_of_not hr]) (fun _ => rfl) rfl (hi hn hc')

theorem replacement_length_pos {b : Bool} : 0 < (c.replacement b).length := by
  by_cases h : c.IsReplaced b
  case pos => simp [replacement_of h, PS2Command.expansion]
  case neg => simp [replacement_of_not h]

theorem position_lt (hi : i < cs.length) : position chosen cs i < position chosen cs (i + 1) := by
  induction cs generalizing chosen i
  case nil => simp at hi
  case cons c cs hi' =>
    cases i
    case zero =>
      rw [position_succ, position_zero]
      exact Nat.add_pos_left replacement_length_pos _
    case succ i =>
      rw [position_succ, position_succ]
      exact Nat.add_lt_add_left (hi' (by simpa using hi)) _

theorem position_le : position chosen cs i ≤ (expand chosen cs).length := by
  induction cs generalizing chosen i
  case nil => simp [position]
  case cons c cs hi =>
    cases i
    case zero => simp
    case succ i =>
      rw [position_succ, expand, List.length_append]
      exact Nat.add_le_add_left hi _

theorem expand_eq_nil_iff : expand chosen cs = [] ↔ cs = [] := by
  cases cs
  case nil => simp [expand]
  case cons c cs =>
    have h : c.replacement (chosen 0) ≠ [] := List.ne_nil_of_length_pos replacement_length_pos
    simp [expand, h]

end Commands

section Request

def PS2Request.counted (r : PS2Request) : List PS2Command :=
  r.commands.take r.commandsCount.toNat

-- The request with the composite commands replaced whose index is chosen.
def PS2Request.expand (r : PS2Request) (chosen : Nat → Bool) : PS2Request :=
  { r with
    commands      := Controller.expand chosen r.counted ++ r.commands.drop r.commandsCount.toNat
    commandsCount := .ofNat (Controller.expand chosen r.counted).length }

-- What callers assert.
def PS2Request.Allocated (r : PS2Request) : Prop :=
  r.commandsCount.toNat ≤ r.commands.length

-- What a request and its expansion have come to, when the controller was in the state `s`. The command
-- that fails in the expansion is one of those that stand for the one that fails in the request, and it
-- is the last one of them, unless the hardware is offline.
structure SameResult (s : State) (r : PS2Request) (chosen : Nat → Bool) (x y : Processed) : Prop where
  state      : x.state = y.state
  completion : x.completion = y.completion
  stored     : ∀ i c, r.command? i = some c → ¬c.IsReplaced (chosen i) →
    x.request.commands[i]? = y.request.commands[position chosen r.counted i]?
  succeeded  : x.request.commandsCount = r.commandsCount ↔
    y.request.commandsCount = (r.expand chosen).commandsCount
  failed     : ∀ k k', k = x.request.commandsCount.toNat → k' = y.request.commandsCount.toNat →
    k ≠ r.commandsCount.toNat →
    position chosen r.counted k ≤ k' ∧ k' < position chosen r.counted (k + 1) ∧
    (s.hardwareOffline = false → k' + 1 = position chosen r.counted (k + 1))

variable {s : State} {r : PS2Request} {chosen : Nat → Bool}

theorem counted_length (ha : r.Allocated) : r.counted.length = r.commandsCount.toNat := by
  simp only [PS2Request.counted, List.length_take]
  exact min_eq_left ha

theorem expand_commandsCount (hl : (expand chosen r.counted).length ≤ 255) :
    (r.expand chosen).commandsCount.toNat = (expand chosen r.counted).length := by
  simp only [PS2Request.expand, UInt8.toNat_ofNat']
  omega

theorem expand_counted (hl : (expand chosen r.counted).length ≤ 255) :
    (r.expand chosen).counted = expand chosen r.counted := by
  rw [PS2Request.counted, expand_commandsCount hl]
  exact List.take_left' rfl

theorem sameResult_offline (hs : s.hardwareOffline = true) (ha : r.Allocated)
    (hl : (expand chosen r.counted).length ≤ 255) :
    SameResult s r chosen ⟨s, { r with commandsCount := 0 }, r.completion⟩
      ⟨s, { r.expand chosen with commandsCount := 0 }, (r.expand chosen).completion⟩ := by
  have hn := counted_length ha
  have hm := expand_commandsCount hl
  refine ⟨rfl, rfl, ?stored, ?succeeded, ?failed⟩
  case stored =>
    intro i c hi hc
    have hi : r.counted[i]? = some c := hi
    have he := getElem?_expand hi hc
    have ⟨hlt, _⟩ := List.getElem?_eq_some_iff.mp hi
    have ⟨hlt', _⟩ := List.getElem?_eq_some_iff.mp (he ▸ hi)
    show r.commands[i]? = (expand chosen r.counted ++ _)[position chosen r.counted i]?
    rw [List.getElem?_append_left hlt', ← he, PS2Request.counted, List.getElem?_take_of_lt]
    exact hn ▸ hlt
  case succeeded =>
    show 0 = r.commandsCount ↔ 0 = (r.expand chosen).commandsCount
    rw [← UInt8.toNat_inj, ← UInt8.toNat_inj, hm, ← hn]
    show 0 = _ ↔ 0 = _
    simp [eq_comm (a := 0), expand_eq_nil_iff]
  case failed =>
    rintro _ _ rfl rfl hk
    have hk : 0 < r.counted.length := by
      rw [hn]
      exact Nat.pos_of_ne_zero (Ne.symm hk)
    have hp : position chosen r.counted 0 < position chosen r.counted 1 := position_lt hk
    rw [position_zero] at hp
    exact ⟨position_zero.le, hp, fun h => by simp [hs] at h⟩

theorem sameResult_online {t : State} (ha : r.Allocated)
    (hl : (expand chosen r.counted).length ≤ 255) {x y : Passed}
    (h : Corresponds chosen r.counted 0 0 x y) :
    SameResult s r chosen
      ⟨t, { r with
        commands      := x.2 ++ r.commands.drop r.commandsCount.toNat
        commandsCount := x.1.elim r.commandsCount .ofNat }, r.completion⟩
      ⟨t, { r.expand chosen with
        commands      := y.2 ++ (r.expand chosen).commands.drop (r.expand chosen).commandsCount.toNat
        commandsCount := y.1.elim (r.expand chosen).commandsCount .ofNat },
        (r.expand chosen).completion⟩ := by
  have hn := counted_length ha
  have hm := expand_commandsCount hl
  refine ⟨rfl, rfl, ?stored, ?succeeded, ?failed⟩
  case stored =>
    intro i c hi hc
    have hi : r.counted[i]? = some c := hi
    have ⟨hlt, _⟩ := List.getElem?_eq_some_iff.mp hi
    have hx : i < x.2.length := h.length₁ ▸ hlt
    have he := h.stored i c hi hc
    rw [List.getElem?_eq_getElem hx] at he
    have ⟨hy, _⟩ := List.getElem?_eq_some_iff.mp he.symm
    show (x.2 ++ _)[i]? = (y.2 ++ _)[position chosen r.counted i]?
    rw [List.getElem?_append_left hx, List.getElem?_append_left hy, ← he,
      List.getElem?_eq_getElem hx]
  case succeeded =>
    show x.1.elim _ _ = _ ↔ y.1.elim _ _ = _
    rcases h.status with ⟨hx, hy⟩ | ⟨k, k', hx, hy, hlt, hk⟩
    · rw [hx, hy]
      exact iff_of_true rfl rfl
    · have hp : position chosen r.counted (k + 1) ≤ _ := position_le
      rw [hx, hy, ← UInt8.toNat_inj, ← UInt8.toNat_inj]
      simp only [Option.elim_some, UInt8.toNat_ofNat', hm, ← hn]
      omega
  case failed =>
    intro k₁ k₁' hk₁ hk₁' hne
    change k₁ = (x.1.elim r.commandsCount UInt8.ofNat).toNat at hk₁
    change k₁' = (y.1.elim (r.expand chosen).commandsCount UInt8.ofNat).toNat at hk₁'
    rcases h.status with ⟨hx, _⟩ | ⟨k, k', hx, hy, hlt, hk⟩
    · exact absurd (by rw [hk₁, hx]; rfl) hne
    · have hr := r.commandsCount.toNat_lt
      have hp : position chosen r.counted (k + 1) ≤ _ := position_le
      have hl : position chosen r.counted k < _ := position_lt hlt
      obtain rfl : k₁ = k := by
        rw [hk₁, hx, Option.elim_some, UInt8.toNat_ofNat']
        omega
      obtain rfl : k₁' = k' := by
        rw [hk₁', hy, Option.elim_some, UInt8.toNat_ofNat']
        omega
      exact ⟨by omega, by omega, fun _ => hk⟩

-- The composite command and its documented expansion are interchangeable.
theorem processRequest_expand (ha : r.Allocated) (hc : Announced r.counted)
    (hl : (expand chosen r.counted).length ≤ 255) :
    Agree Prod.snd Prod.snd (SameResult s r chosen) (processRequest s r)
      (processRequest s (r.expand chosen)) := by
  cases hs : s.hardwareOffline
  case true =>
    rw [processRequest, processRequest, if_pos hs, if_pos hs]
    exact .pure (sameResult_offline hs ha hl)
  case false =>
    rw [processRequest, processRequest, if_neg (by simp [hs]), if_neg (by simp [hs])]
    apply Agree.bind (R := Corresponds chosen r.counted 0 0)
    case h =>
      show Agree _ _ _ (processCommands _ _ _ r.counted)
        (processCommands _ _ _ (r.expand chosen).counted)
      rw [expand_counted hl]
      exact processCommands_expand (by simp [Mode.init]) hc
    case hf =>
      intro x y h
      have hr {t : State} := @sameResult_online s r chosen t ha hl _ _ h
      obtain ⟨failed, cs⟩ := x
      obtain ⟨failed', cs'⟩ := y
      apply Agree.pure
      cases failed <;> cases failed' <;> exact hr

theorem processRequest_expand_disableMouse :
    Agree Prod.snd Prod.snd (SameResult {} disableMouse fun i => i = 0)
      (processRequest {} disableMouse)
      (processRequest {} {
        commands := [{ command := .writeCommandPort, byte₀ := 0xd4 },
          { command := .writeDataPort, byte₀ := 0xf5 },
          { command := .readDataPortAndCompare, byte₀ := 0xfa },
          { command := .writeDataPort, byte₀ := 0xed }]
        commandsCount := 4 }) :=
  have hc : Announced disableMouse.counted := List.isChain_pair.mpr fun _ => rfl
  processRequest_expand (r := disableMouse) (Nat.le_refl 2) hc (by decide)

end Request

end Controller
