import VoodooPS2.Controller.Theorems.Request
import VoodooPS2.Machine.Monitor

namespace Controller

open Scripted

-- A monitor that is not interested in anything but the bytes that come and go.
structure Quiet {σ : Type} (f : σ → Access → Option σ) : Prop where
  poll  : ∀ {s status}, f s (.poll status) = some s
  outb  : ∀ {s port byte}, f s (.outb port byte) = some s
  sleep : ∀ {s ms}, f s (.sleep ms) = some s

namespace Quiet

variable {σ : Type} {f : σ → Access → Option σ} {s : σ}

theorem inbCommandPort (hf : Quiet f) : Monitored f s inbCommandPort fun _ s' => s = s' :=
  .bind (.input (Q := fun _ s' => s = s') fun _ => rfl) <| by
    rintro status _ rfl
    exact .bind (.emit hf.poll (Q := fun _ s' => s = s') rfl) fun _ _ h => .pure h

theorem waitOutput (hf : Quiet f) {n : Nat} : Monitored f s (waitOutput n) fun _ s' => s = s' := by
  induction n generalizing s
  case zero      => exact .pure rfl
  case succ n hi =>
    refine .bind hf.inbCommandPort ?_
    rintro status _ rfl
    split
    · exact .pure rfl
    · exact hi

theorem waitInput (hf : Quiet f) : Monitored f s waitInput fun _ s' => s = s' := by
  refine .loop (fun _ s' => s = s') ?_ rfl
  rintro _ _ rfl
  refine .bind hf.inbCommandPort ?_
  rintro status _ rfl
  refine .pure ?_
  split <;> rfl

theorem writeDataPort (hf : Quiet f) {byte : UInt8} : Monitored f s (writeDataPort byte) fun _ s' => s = s' :=
  .bind hf.waitInput <| by
    rintro _ _ rfl
    exact .emit hf.outb rfl

theorem writeCommandPort (hf : Quiet f) {byte : UInt8} :
    Monitored f s (writeCommandPort byte) fun _ s' => s = s' :=
  .bind hf.waitInput <| by
    rintro _ _ rfl
    exact .emit hf.outb rfl

end Quiet

theorem inbDataPort_monitored {σ : Type} {f : σ → Access → Option σ} {s : σ} {status : UInt8} {g : UInt8 → σ}
    (h : ∀ byte, f s (.take (stream status) byte) = some (g byte)) :
    Monitored f s (inbDataPort status) fun byte s' => g byte = s' := by
  refine .bind (.input (Q := fun _ s' => s = s') fun _ => rfl) ?_
  rintro byte _ rfl
  exact .bind (.emit (h byte) (Q := fun _ s' => g byte = s') rfl) fun _ _ h => .pure h

-- What has been taken and not been dispatched. Nothing is dispatched that is not there.
def hold (h : List (PS2DeviceType × UInt8)) : Access → Option (List (PS2DeviceType × UInt8))
  | .take d b                    => some ((d, b) :: h)
  | .dispatchDriverInterrupt d b => if (d, b) ∈ h then some (h.erase (d, b)) else none
  | _                            => some h

theorem hold_quiet : Quiet hold where
  poll  := rfl
  outb  := rfl
  sleep := rfl

section Hold

variable {s : State} {d : PS2DeviceType} {e : UInt8} {h h' : List (PS2DeviceType × UInt8)}

-- A byte that is in hand for more than what was there before may be dispatched.
theorem dispatch_hold {b : UInt8} {l : List (PS2DeviceType × UInt8)} (hl : (d, b) ∈ l) :
    Monitored hold (l ++ h) (dispatchDriverInterrupt d b) fun _ h' => l.erase (d, b) ++ h = h' := by
  refine .emit (if_pos (List.mem_append_left _ hl)) ?_
  rw [List.erase_append_left _ hl]

theorem dispatchUnlessIgnored_hold {b : UInt8} {l : List (PS2DeviceType × UInt8)} (hl : (d, b) ∈ l) :
    Monitored hold (l ++ h) (dispatchUnlessIgnored s d b) fun _ h' => h <:+ h' := by
  unfold dispatchUnlessIgnored
  split
  · exact (dispatch_hold hl).mono fun _ _ he => he ▸ List.suffix_append _ _
  · exact .pure (List.suffix_append _ _)

theorem readDataPort_hold : Monitored hold h (readDataPort s d) fun _ h' => h <:+ h' := by
  refine .loop (fun _ h' => h <:+ h') ?_ List.suffix_rfl
  rintro n _ ⟨l, rfl⟩
  refine .bind hold_quiet.waitOutput ?_
  rintro ⟨status?, n⟩ _ rfl
  cases status?
  case none        => exact .pure (List.suffix_append _ _)
  case some status =>
    refine .bind (inbDataPort_monitored fun _ => rfl) ?_
    rintro b _ rfl
    split
    · exact .pure (List.suffix_append ((stream status, b) :: l) h)
    · split
      · exact .pure (List.suffix_append ((stream status, b) :: l) h)
      · rename_i hn
        rw [PS2DeviceType.eq_other hn]
        refine .bind (dispatch_hold (l := (d.other, b) :: l) List.mem_cons_self) ?_
        rintro _ _ rfl
        exact .pure (by simp)

theorem readDataPortExpecting_hold :
    Monitored hold h (readDataPortExpecting s d e) fun _ h' => h <:+ h' := by
  refine .loop (fun r h' => ∃ l, h' = l ++ h ∧ ∀ f ∈ r.firstByte, (d, f) ∈ l) ?_ ⟨[], rfl, nofun⟩
  rintro ⟨n, firstByte⟩ _ ⟨l, rfl, hf⟩
  refine .bind hold_quiet.waitOutput ?_
  rintro ⟨status?, n⟩ _ rfl
  cases status?
  case none        => exact .pure (List.suffix_append _ _)
  case some status =>
    refine .bind (inbDataPort_monitored fun _ => rfl) ?_
    rintro b _ rfl
    have hs : h <:+ (stream status, b) :: (l ++ h) := List.suffix_append ((stream status, b) :: l) h
    dsimp only
    split
    case isTrue hd =>
      split
      case isTrue =>
        cases firstByte
        case none   => exact .pure hs
        case some f =>
          refine .bind (dispatchUnlessIgnored_hold (l := (stream status, b) :: l) ?_) fun _ _ h => .pure h
          exact List.mem_cons_of_mem _ (hf f rfl)
      case isFalse =>
        cases firstByte
        case none   => exact .pure ⟨(stream status, b) :: l, rfl, by rintro _ ⟨⟩; simp [hd]⟩
        case some f =>
          refine .bind (dispatchUnlessIgnored_hold (l := (stream status, b) :: l) ?_) fun _ _ h => .pure h
          simp [hd]
    case isFalse hd =>
      rw [PS2DeviceType.eq_other hd]
      unfold dispatchUnlessIgnored
      split
      · refine .bind (dispatch_hold (l := (d.other, b) :: l) List.mem_cons_self) ?_
        rintro _ _ rfl
        exact .pure ⟨l, by simp, hf⟩
      · refine .bind (P := fun _ h' => (d.other, b) :: (l ++ h) = h') (.pure rfl) ?_
        rintro _ _ rfl
        exact .pure ⟨(d.other, b) :: l, rfl, fun f h => List.mem_cons_of_mem _ (hf f h)⟩

theorem flushDataPort_hold : Monitored hold h flushDataPort fun _ h' => h <:+ h' := by
  refine .loop (fun _ h' => h <:+ h') ?_ List.suffix_rfl
  rintro n _ ⟨l, rfl⟩
  refine .bind hold_quiet.inbCommandPort ?_
  rintro status _ rfl
  split
  · refine .bind (inbDataPort_monitored fun _ => rfl) ?_
    rintro b _ rfl
    exact .pure (List.suffix_append ((stream status, b) :: l) h)
  · exact .pure (List.suffix_append _ _)

theorem taken_perm_of_hold {log : List Access} (hl : log.foldlM hold h = some h') :
    (h ++ taken log).Perm (dispatched log ++ h') := by
  induction log generalizing h
  case nil =>
    obtain rfl : h = h' := Option.some.inj hl
    simp
  case cons a log hi =>
    obtain ⟨h₁, h₂, hl⟩ := Option.bind_eq_some_iff.mp (List.foldlM_cons (m := Option) ▸ hl)
    have hi := hi hl
    cases a
    case take d b =>
      obtain rfl : (d, b) :: h = h₁ := Option.some.inj h₂
      exact List.perm_middle.trans hi
    case dispatchDriverInterrupt d b =>
      by_cases hb : (d, b) ∈ h
      · obtain rfl : h.erase (d, b) = h₁ := by simpa [hold, hb] using h₂
        exact ((List.perm_cons_erase hb).append_right _).trans (hi.cons _)
      · simp [hold, hb] at h₂
    all_goals
      obtain rfl : h = h₁ := Option.some.inj h₂
      exact hi

theorem processCommand_hold {m : Mode} {c : PS2Command} :
    Monitored hold h (processCommand s m c) fun _ h' => h <:+ h' := by
  have quiet {α : Type} {p : Hardware Unit} {a : α} (hp : Monitored hold h p fun _ h' => h = h') :
      Monitored hold h (p >>= fun _ => pure a) fun _ h' => h <:+ h' :=
    hp.bind fun _ _ he => .pure (he ▸ List.suffix_rfl)
  cases hc : c.command
  all_goals simp only [processCommand, hc]
  case readDataPort                => exact readDataPort_hold.bind fun _ _ h => .pure h
  case readDataPortAndCompare      => exact readDataPortExpecting_hold.bind fun _ _ h => .pure h
  case writeDataPort               => exact quiet hold_quiet.writeDataPort
  case writeCommandPort            => exact quiet hold_quiet.writeCommandPort
  case readMouseDataPort           => exact readDataPort_hold.bind fun _ _ h => .pure h
  case readMouseDataPortAndCompare => exact readDataPortExpecting_hold.bind fun _ _ h => .pure h
  case flushDataPort               => exact flushDataPort_hold.bind fun _ _ h => .pure h
  case sleepMS                     => exact quiet (.emit hold_quiet.sleep rfl)
  case sendMouseCommandAndCompareAck =>
    refine hold_quiet.writeCommandPort.bind ?_
    rintro _ _ rfl
    refine hold_quiet.writeDataPort.bind ?_
    rintro _ _ rfl
    exact readDataPortExpecting_hold.bind fun _ _ h => .pure h
  case modifyCommandByte =>
    refine hold_quiet.writeCommandPort.bind ?_
    rintro _ _ rfl
    refine readDataPort_hold.bind fun _ h₁ hs => ?_
    refine hold_quiet.writeCommandPort.bind ?_
    rintro _ _ rfl
    refine hold_quiet.writeDataPort.bind ?_
    rintro _ _ rfl
    exact .pure hs

theorem processCommands_hold {index : Nat} {m : Mode} {cs : List PS2Command} :
    Monitored (fun h (a : Nat × Access) => hold h a.2) h (processCommands s index m cs) fun _ h' => h <:+ h' := by
  induction cs generalizing index m h
  case nil          => exact .pure List.suffix_rfl
  case cons c cs hi =>
    refine .bind (.label (fun _ _ => rfl) processCommand_hold) ?_
    rintro ⟨c', failed⟩ h₁ hs
    cases failed
    case true  => exact .pure hs
    case false => exact hi.bind fun _ _ h => .pure (hs.trans h)

theorem processRequest_hold {r : PS2Request} :
    Monitored (fun h (a : Nat × Access) => hold h a.2) h (processRequest s r) fun _ h' => h <:+ h' := by
  unfold processRequest
  split
  · exact .pure List.suffix_rfl
  · exact processCommands_hold.bind fun _ _ h => .pure h

end Hold

section Deliver

variable {s : State} {d : PS2DeviceType} {e : UInt8} {q q' : List UInt8}

-- The bytes of a device that have been taken and not been dispatched, if they are dispatched in order.
def deliver (d : PS2DeviceType) (q : List UInt8) : Access → Option (List UInt8)
  | .take d' b                    => some (if d' = d then q ++ [b] else q)
  | .dispatchDriverInterrupt d' b =>
    if d' = d then if q.head? = some b then some q.tail else none else some q
  | _                             => some q

theorem deliver_quiet : Quiet (deliver d) where
  poll  := rfl
  outb  := rfl
  sleep := rfl

theorem ofStream_of_deliver {log : List Access} (h : log.foldlM (deliver d) q = some q') :
    q ++ ofStream d (taken log) = ofStream d (dispatched log) ++ q' := by
  induction log generalizing q
  case nil =>
    obtain rfl : q = q' := Option.some.inj h
    simp
  case cons a log hi =>
    obtain ⟨q₁, h₁, h₂⟩ := Option.bind_eq_some_iff.mp (List.foldlM_cons (m := Option) ▸ h)
    have hi := hi h₂
    cases a
    case take d' b =>
      rw [taken_take]
      by_cases hd : d' = d
      · subst hd
        obtain rfl : q ++ [b] = q₁ := by simpa [deliver] using h₁
        rw [ofStream_cons_self, List.append_cons]
        exact hi
      · obtain rfl : q = q₁ := by simpa [deliver, hd] using h₁
        rw [ofStream_cons_ne hd]
        exact hi
    case dispatchDriverInterrupt d' b =>
      rw [taken_dispatch, dispatched_dispatch]
      by_cases hd : d' = d
      · subst hd
        cases q
        case nil       => simp [deliver] at h₁
        case cons b' q =>
          obtain ⟨rfl, rfl⟩ : b' = b ∧ q = q₁ := by simpa [deliver] using h₁
          rw [ofStream_cons_self, List.cons_append, List.cons_append, hi]
      · obtain rfl : q = q₁ := by simpa [deliver, hd] using h₁
        rw [ofStream_cons_ne hd]
        exact hi
    all_goals
      obtain rfl : q = q₁ := Option.some.inj h₁
      exact hi

theorem inbDataPort_deliver {status : UInt8} : Monitored (deliver d) [] (inbDataPort status)
    fun b q => (if stream status = d then [b] else []) = q :=
  inbDataPort_monitored fun _ => rfl

theorem dispatch_deliver {b : UInt8} :
    Monitored (deliver d) [b] (dispatchDriverInterrupt d b) fun _ q => [] = q :=
  .emit (show deliver d [b] (.dispatchDriverInterrupt d b) = some [] by simp [deliver]) rfl

theorem dispatch_deliver_other {b : UInt8} :
    Monitored (deliver d.other) q (dispatchDriverInterrupt d b) fun _ q' => q = q' :=
  .emit (show deliver d.other q (.dispatchDriverInterrupt d b) = some q by
    simp [deliver, PS2DeviceType.other_ne.symm]) rfl

-- A read hands on all that comes from the other device.
theorem readDataPort_deliver (hs : s.suppressTimeout = false) :
    Monitored (deliver d.other) [] (readDataPort s d) fun _ q => [] = q := by
  refine .loop (fun _ q => [] = q) ?_ rfl
  rintro n _ rfl
  refine .bind deliver_quiet.waitOutput ?_
  rintro ⟨status?, n⟩ _ rfl
  cases status?
  case none        => exact .pure rfl
  case some status =>
    refine .bind inbDataPort_deliver ?_
    rintro b _ rfl
    simp only [hs, Bool.false_eq_true, if_false]
    by_cases hd : stream status = d
    case pos =>
      rw [if_pos hd, if_neg (hd ▸ PS2DeviceType.other_ne.symm)]
      exact .pure rfl
    case neg =>
      rw [if_neg hd, if_pos (PS2DeviceType.eq_other hd)]
      refine dispatch_deliver.bind ?_
      rintro _ _ rfl
      exact .pure rfl

theorem readDataPortExpecting_deliver (hs : s.ignoreOutOfOrder = 0) :
    Monitored (deliver d.other) [] (readDataPortExpecting s d e) fun _ q => [] = q := by
  have own {b : UInt8} : Monitored (deliver d.other) [] (dispatchUnlessIgnored s d b) fun _ q => [] = q := by
    rw [dispatchUnlessIgnored, if_pos hs]
    exact dispatch_deliver_other
  refine .loop (fun _ q => [] = q) ?_ rfl
  rintro ⟨n, firstByte⟩ _ rfl
  refine .bind deliver_quiet.waitOutput ?_
  rintro ⟨status?, n⟩ _ rfl
  cases status?
  case none        => exact .pure rfl
  case some status =>
    refine .bind inbDataPort_deliver ?_
    rintro b _ rfl
    by_cases hd : stream status = d
    case pos =>
      rw [if_pos hd, if_neg (hd ▸ PS2DeviceType.other_ne.symm)]
      split
      · cases firstByte
        · exact .pure rfl
        · exact own.bind fun _ _ h => .pure h
      · cases firstByte
        · exact .pure rfl
        · exact own.bind fun _ _ h => .pure h
    case neg =>
      rw [if_neg hd, if_pos (PS2DeviceType.eq_other hd), dispatchUnlessIgnored, if_pos hs]
      refine dispatch_deliver.bind ?_
      rintro _ _ rfl
      exact .pure rfl

-- The command takes bytes of the device for itself.
def PS2Command.Reads (c : PS2Command) (m : Mode) (d : PS2DeviceType) : Prop :=
  match c.command with
  | .readDataPort | .readDataPortAndCompare => m.deviceMode = d
  | .sendMouseCommandAndCompareAck | .readMouseDataPort | .readMouseDataPortAndCompare => d = .mouse
  | .modifyCommandByte => d = .keyboard
  | .flushDataPort => True
  | .writeDataPort | .writeCommandPort | .sleepMS => False

instance {c : PS2Command} {m : Mode} : Decidable (c.Reads m d) := by
  unfold PS2Command.Reads
  split <;> infer_instance

theorem processCommand_deliver {m : Mode} {c : PS2Command} (ht : s.suppressTimeout = false)
    (hs : s.ignoreOutOfOrder = 0) (hr : ¬c.Reads m d) :
    Monitored (deliver d) [] (processCommand s m c) fun _ q => [] = q := by
  have mouse : ¬d = .mouse → d = PS2DeviceType.other .mouse := PS2DeviceType.eq_other
  have keyboard : ¬d = .keyboard → d = PS2DeviceType.other .keyboard := PS2DeviceType.eq_other
  cases hc : c.command
  all_goals simp only [PS2Command.Reads, hc] at hr
  all_goals simp only [processCommand, hc]
  case readDataPort =>
    rw [PS2DeviceType.eq_other (Ne.symm hr)]
    exact (readDataPort_deliver ht).bind fun _ _ h => .pure h
  case readDataPortAndCompare =>
    rw [PS2DeviceType.eq_other (Ne.symm hr)]
    exact (readDataPortExpecting_deliver hs).bind fun _ _ h => .pure h
  case writeDataPort    => exact deliver_quiet.writeDataPort.bind fun _ _ h => .pure h
  case writeCommandPort => exact deliver_quiet.writeCommandPort.bind fun _ _ h => .pure h
  case readMouseDataPort =>
    rw [mouse hr]
    exact (readDataPort_deliver ht).bind fun _ _ h => .pure h
  case readMouseDataPortAndCompare =>
    rw [mouse hr]
    exact (readDataPortExpecting_deliver hs).bind fun _ _ h => .pure h
  case flushDataPort => exact absurd trivial hr
  case sleepMS       => exact .bind (.emit rfl (Q := fun _ q => [] = q) rfl) fun _ _ h => .pure h
  case sendMouseCommandAndCompareAck =>
    rw [mouse hr]
    refine deliver_quiet.writeCommandPort.bind ?_
    rintro _ _ rfl
    refine deliver_quiet.writeDataPort.bind ?_
    rintro _ _ rfl
    exact (readDataPortExpecting_deliver hs).bind fun _ _ h => .pure h
  case modifyCommandByte =>
    rw [keyboard hr]
    refine deliver_quiet.writeCommandPort.bind ?_
    rintro _ _ rfl
    refine (readDataPort_deliver ht).bind ?_
    rintro _ _ rfl
    refine deliver_quiet.writeCommandPort.bind ?_
    rintro _ _ rfl
    refine deliver_quiet.writeDataPort.bind ?_
    rintro _ _ rfl
    exact .pure rfl

theorem processCommands_deliver {index : Nat} {m : Mode} {cs : List PS2Command} (ht : s.suppressTimeout = false)
    (hs : s.ignoreOutOfOrder = 0) (hr : ∀ i (c : PS2Command), cs[i]? = some c → ¬c.Reads (modeAt m cs i) d) :
    Monitored (fun q (a : Nat × Access) => deliver d q a.2) [] (processCommands s index m cs)
      fun _ q => [] = q := by
  induction cs generalizing index m
  case nil          => exact .pure rfl
  case cons c cs hi =>
    refine .bind (.label (fun _ _ => rfl) (processCommand_deliver ht hs (hr 0 c rfl))) ?_
    rintro ⟨c', failed⟩ _ rfl
    cases failed
    case true  => exact .pure rfl
    case false =>
      refine (hi fun i c h => ?_).bind fun _ _ h => .pure h
      rw [← modeAt_succ]
      exact hr (i + 1) c h

end Deliver

theorem foldlM_map_snd {σ : Type} {f : σ → Access → Option σ} {s : σ} {log : List (Nat × Access)} :
    (log.map Prod.snd).foldlM f s = log.foldlM (fun s a => f s a.2) s :=
  List.foldlM_map

-- At any time, what a request has passed to the drivers it has taken before, each byte of it once. Of a
-- device from which none of its commands reads it passes on everything, in order.
theorem processRequest_spares {s : State} {r : PS2Request} {is : List UInt8}
    {o : Outcome UInt8 (Nat × Access) Processed} (h : processRequest s r is = some o) :
    (∀ pre, pre <+: o.log.map Prod.snd → ∃ kept, (taken pre).Perm (dispatched pre ++ kept)) ∧
    ∀ d, s.suppressTimeout = false → s.ignoreOutOfOrder = 0 →
      (∀ i c, r.command? i = some c → ¬c.Reads (r.modeAt i) d) →
      ofStream d (dispatched (o.log.map Prod.snd)) = ofStream d (taken (o.log.map Prod.snd)) := by
  constructor
  case left =>
    intro pre hp
    obtain ⟨_, hl, _⟩ := processRequest_hold (h := []) is o h
    rw [← foldlM_map_snd] at hl
    obtain ⟨kept, hk⟩ := foldlM_prefix hp hl
    exact ⟨kept, by simpa using taken_perm_of_hold hk⟩
  case right =>
    intro d ht hs hr
    have hd : Monitored (fun q (a : Nat × Access) => deliver d q a.2) [] (processRequest s r)
        fun _ q => [] = q := by
      unfold processRequest
      split
      · exact .pure rfl
      · exact .bind (processCommands_deliver ht hs hr) fun _ _ h => .pure h
    obtain ⟨_, hq, rfl⟩ := hd is o h
    rw [← foldlM_map_snd] at hq
    simpa using (ofStream_of_deliver hq).symm

def enableMouse : PS2Request where
  commands      := [{ command := .sendMouseCommandAndCompareAck, byte₀ := 0xf4 }]
  commandsCount := 1

-- The key A is pressed while the mouse is being enabled.
theorem processRequest_spares_enableMouse :
    let log := [.poll 0, .outb .command 0xd4, .poll 0, .outb .data 0xf4, .poll 0x01, .take .keyboard 0x1e,
      .dispatchDriverInterrupt .keyboard 0x1e, .poll 0x21, .take .mouse 0xfa]
    ofStream .keyboard (dispatched log) = ofStream .keyboard (taken log) :=
  have h : processRequest {} enableMouse [0, 0, 0x01, 0x1e, 0x21, 0xfa] = some ⟨_, [], _⟩ := rfl
  (processRequest_spares h).right .keyboard rfl rfl fun i c hc => by
    cases i
    case zero =>
      obtain rfl : _ = c := Option.some.inj hc
      decide
    case succ i => nomatch hc

end Controller
