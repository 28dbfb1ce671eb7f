import VoodooPS2.Touchpad.Theorems.Frame
import VoodooPS2.Touchpad.Theorems.Safety

namespace Touchpad

def Effect.completed? : Effect → Option (List UInt8)
  | .completed packet => some packet
  | _                 => none

def Effect.handed? : Effect → Option (List UInt8)
  | .handed packet => some packet
  | _              => none

@[simp]
theorem Effect.completed?_completed : completed? (.completed p) = some p :=
  rfl

@[simp]
theorem Effect.completed?_rejected : completed? (.rejected p) = none :=
  rfl

@[simp]
theorem Effect.completed?_handed : completed? (.handed p) = none :=
  rfl

@[simp]
theorem Effect.handed?_handed : handed? (.handed p) = some p :=
  rfl

@[simp]
theorem Effect.handed?_rejected : handed? (.rejected p) = none :=
  rfl

@[simp]
theorem Effect.handed?_completed : handed? (.completed p) = none :=
  rfl

def Framer.Pending (s : Framer) (priv : AlpsData) : Prop :=
  s.ringBuffer.count ≥ priv.pktsize

-- A byte may only arrive ahead of the work loop if the slots that wait are rejected ones, and if it is
-- rejected as well: the framer has a single flag and a single byte count for all the slots that wait.
def Timely (priv : AlpsData) (s : Framer) : Event → Prop
  | .byte data   => s.Pending priv → s.badData = true ∧ s.Rejects priv data
  | .packetReady => True

instance {s : Framer} {priv} : Decidable (s.Pending priv) := by
  unfold Framer.Pending
  infer_instance

instance {priv : AlpsData} {s : Framer} : (e : Event) → Decidable (Timely priv s e)
  | .byte _      => by unfold Timely; infer_instance
  | .packetReady => .isTrue trivial

-- The traces in which every completed packet is handed over before anything else happens to it, and
-- nothing else is handed over. At the end of the trace `waiting` has been completed, but not handed
-- over yet.
inductive Orderly : List Effect → (waiting : Option (List UInt8)) → Prop
  | nil       : Orderly [] none
  | rejected  : Orderly t none → Orderly (t ++ [.rejected p]) none
  | completed : Orderly t none → Orderly (t ++ [.completed p]) (some p)
  | handed    : Orderly t (some p) → Orderly (t ++ [.handed p]) none

theorem concat_eq_split {l pre post : List α} {a b : α} (h : l ++ [a] = pre ++ b :: post) :
    (post = [] ∧ l = pre ∧ a = b) ∨ ∃ post', l = pre ++ b :: post' ∧ post = post' ++ [a] := by
  rcases post.eq_nil_or_concat with rfl | ⟨post', c, rfl⟩
  case inl =>
    have ⟨h₁, h₂⟩ := List.append_inj' h rfl
    exact .inl ⟨rfl, h₁, by simpa using h₂⟩
  case inr =>
    rw [List.concat_eq_append, ← List.cons_append, ← List.append_assoc] at h
    have ⟨h₁, h₂⟩ := List.append_inj' h rfl
    exact .inr ⟨post', h₁, by simpa using h₂.symm⟩

namespace Orderly

theorem completed_eq (o : Orderly t w) :
    t.filterMap Effect.completed? = t.filterMap Effect.handed? ++ w.toList := by
  induction o
  case nil          => rfl
  case rejected hi  => simpa [List.filterMap_cons] using hi
  case completed hi => simpa [List.filterMap_cons] using hi
  case handed hi    => simpa [List.filterMap_cons] using hi

theorem ends_completed (o : Orderly t (some p)) : ∃ pre, t = pre ++ [.completed p] := by
  cases o
  exact ⟨_, rfl⟩

theorem handed_after_completed (o : Orderly t w) {pre post : List Effect}
    (h : t = pre ++ .handed p :: post) : ∃ pre', pre = pre' ++ [.completed p] := by
  induction o generalizing post
  case nil               => simp at h
  case rejected hi       =>
    rcases concat_eq_split h with ⟨_, _, h⟩ | ⟨post, h, _⟩
    · cases h
    · exact hi h
  case completed hi      =>
    rcases concat_eq_split h with ⟨_, _, h⟩ | ⟨post, h, _⟩
    · cases h
    · exact hi h
  case handed p' o hi    =>
    rcases concat_eq_split h with ⟨_, hp, h⟩ | ⟨post, h, _⟩
    · cases h
      exact hp ▸ o.ends_completed
    · exact hi h

end Orderly

-- What the framer has closed and not yet handed over when it has produced the trace `t`.
inductive Ledger (priv : AlpsData) (s : Framer) (t : List Effect) : Prop
  | idle (v : Sound priv s []) (o : Orderly t none)
  | waiting (v : Sound priv s [p]) (o : Orderly t (some p)) (hd : s.badData = false)
  | rejecting (v : Sound priv s q) (o : Orderly t none) (hd : s.badData = true)
      (hq : q ≠ []) (hn : s.packetByteCount < priv.pktsize)

variable {priv : AlpsData} {s : Framer} {data : UInt8} {t : List Effect}

theorem Sound.lt (v : Sound priv s []) : s.packetByteCount < priv.pktsize :=
  Nat.lt_of_le_of_ne v.le fun h => v.full h rfl

theorem framer_of_rejects (hr : s.Rejects priv data) :
    ∃ p, (framer priv).step s (.byte data) =
      ((interruptOccurred priv s data).framer, [.rejected p]) := by
  simp [framer, interruptOccurred_of_rejects hr]

theorem framer_of_buffers (hr : ¬s.Rejects priv data) (hc : ¬s.Completes priv data) :
    (framer priv).step s (.byte data) = (s.kept data, []) := by
  simp [framer, interruptOccurred_of_buffers hr hc]

theorem framer_of_completes (hc : s.Completes priv data) :
    (framer priv).step s (.byte data) =
      ((s.kept data).advanceHead priv,
        [.completed ((s.kept data).ringBuffer.cells s.ringBuffer.head priv.pktsize)]) := by
  simp [framer, interruptOccurred_of_completes hc, Framer.advanceHead, Framer.kept]

namespace Ledger

theorem of_rejects (v : Sound priv s q) (o : Orderly t none) (hn : s.packetByteCount < priv.pktsize)
    (hr : s.Rejects priv data) :
    Ledger priv ((framer priv).step s (.byte data)).1 (t ++ ((framer priv).step s (.byte data)).2) := by
  have ⟨p, hs⟩ := framer_of_rejects hr
  have ⟨q', v', hq⟩ := v.rejects hr
  rw [hs]
  refine .rejecting v' (.rejected o) ?_ hq ?_
  · rw [interruptOccurred_of_rejects hr]
  · simpa [interruptOccurred_of_rejects hr, Framer.advanceHead] using hn

theorem of_completes (v : Sound priv s []) (o : Orderly t none) (hc : s.Completes priv data) :
    Ledger priv ((framer priv).step s (.byte data)).1 (t ++ ((framer priv).step s (.byte data)).2) := by
  rw [framer_of_completes hc]
  have hf := Represents.advanceHead (kept_holds v.holds v.lt data)
  rw [kept_head] at hf
  refine .waiting ⟨hf, ?_, fun _ => by simp, by simp⟩ (.completed o) rfl
  have := v.lt
  simp [Framer.advanceHead, Framer.kept, Framer.store]
  omega

theorem of_packetReady (l : Ledger priv s t) :
    Ledger priv ((framer priv).step s .packetReady).1 (t ++ ((framer priv).step s .packetReady).2) := by
  simp only [framer]
  cases l
  case idle v o =>
    simpa [packetReady_of_nil v.holds] using Ledger.idle v o
  case waiting p v o hd =>
    obtain ⟨_, _, _, h⟩ := packetReady_spec v.holds
    rw [h, if_pos hd]
    exact .idle v.packetReady (.handed o)
  case rejecting q v o hd hq hn =>
    obtain ⟨_, _, _, h⟩ := packetReady_spec v.holds
    rw [h, hd]
    simpa using Ledger.idle v.packetReady o

theorem pending (v : Sound priv s q) (hq : q ≠ []) : s.Pending priv :=
  v.holds.size_le_count_iff.mpr hq

theorem step {e : Event} (l : Ledger priv s t) (h : Timely priv s e) :
    Ledger priv ((framer priv).step s e).1 (t ++ ((framer priv).step s e).2) := by
  cases e
  case packetReady => exact l.of_packetReady
  case byte data =>
    cases l
    case idle v o =>
      by_cases hr : s.Rejects priv data
      case pos => exact .of_rejects v o v.lt hr
      by_cases hc : s.Completes priv data
      case pos => exact .of_completes v o hc
      case neg =>
        rw [framer_of_buffers hr hc]
        simpa using Ledger.idle (v.buffers v.lt hr hc) o
    case waiting v o hd =>
      have ⟨hb, _⟩ := h (pending v (by simp))
      simp [hd] at hb
    case rejecting v o hd hq hn =>
      have ⟨_, hr⟩ := h (pending v hq)
      exact .of_rejects v o hn hr

theorem run {es : List Event} (h : (framer priv).Along (Timely priv) (initTouchPad s) es) :
    Ledger priv ((framer priv).state (initTouchPad s) es) ((framer priv).out (initTouchPad s) es) :=
  Mealy.history (I := Ledger priv) (t := []) Ledger.step h (.idle (initTouchPad_sound priv) .nil)

end Ledger

-- Under any alternation of the two contexts in which bytes are timely, the packets that are handed to
-- `process_packet` are the ones that were completed, in the same order and each of them once; and a
-- packet is handed over right after it was completed, so that no rejected slot is ever mistaken for it.
theorem framer_delivers (priv : AlpsData) (s : Framer) (es : List Event)
    (h : (framer priv).Along (Timely priv) (initTouchPad s) es) :
    let t := (framer priv).out (initTouchPad s) es
    t.filterMap Effect.handed? <+: t.filterMap Effect.completed? ∧
    (¬((framer priv).state (initTouchPad s) es).Pending priv →
      t.filterMap Effect.handed? = t.filterMap Effect.completed?) ∧
    ∀ pre p post, t = pre ++ .handed p :: post → ∃ pre', pre = pre' ++ [.completed p] := by
  have l := Ledger.run h
  have ⟨w, o⟩ : ∃ w, Orderly ((framer priv).out (initTouchPad s) es) w := by
    cases l
    all_goals exact ⟨_, ‹_›⟩
  refine ⟨⟨_, o.completed_eq.symm⟩, ?_, fun _ _ _ => o.handed_after_completed⟩
  intro hp
  cases l
  case idle v o             => simpa using o.completed_eq.symm
  case waiting v o _        => exact absurd (Ledger.pending v (by simp)) hp
  case rejecting v o _ hq _ => exact absurd (Ledger.pending v hq) hp

theorem framer_delivers_privV3 :
    (framer privV3).out (initTouchPad .zero)
      ([0x00, 0x00].map .byte ++ .packetReady :: [0x8f, 0, 0, 0, 0, 0].map .byte ++ [.packetReady])
      |>.filterMap Effect.handed? |> (· = [[0x8f, 0, 0, 0, 0, 0]]) :=
  (framer_delivers privV3 .zero _ (by decide)).right.left (by decide)

-- A byte that is not rejected clears the flag of the slot before it, which is then handed over.
theorem not_framer_delivers : ¬∀ (priv : AlpsData) (s : Framer) (es : List Event),
    (framer priv).Along (fun s _ => s.ringBuffer.count < 31 * priv.pktsize) (initTouchPad s) es →
    ¬((framer priv).state (initTouchPad s) es).Pending priv →
    ((framer priv).out (initTouchPad s) es).filterMap Effect.handed? =
      ((framer priv).out (initTouchPad s) es).filterMap Effect.completed? := by
  intro h
  have := h privV3 .zero [.byte 0x00, .byte 0x8f, .packetReady] (by decide) (by decide)
  exact absurd this (by decide)

end Touchpad
