import VoodooPS2.Controller.Theorems.Port

namespace Controller

open Scripted

variable {s : State} {d : PS2DeviceType} {e : UInt8} {r : Reading} {is : List UInt8}

-- Nothing is passed to the drivers if out-of-order data is to be ignored.
def forward (s : State) (l : List (PS2DeviceType × UInt8)) : List (PS2DeviceType × UInt8) :=
  if s.ignoreOutOfOrder = 0 then l else []

-- What a pass through the loop of `readDataPort(deviceType, expectedByte)` does: how it goes on, and the
-- one byte it takes, if any.
inductive Pass (s : State) (d : PS2DeviceType) (e : UInt8) (r : Reading) (is : List UInt8)
    (o : Outcome UInt8 Access (Reading ⊕ UInt8)) : Prop
  | timedOut
    (hv : o.val = .inr (r.firstByte.getD 0))
    (ho : offers r.timeoutCounter is = [])
    (ht : taken o.log = [])
    (hd : dispatched o.log = [])
  | expected (m : Nat)
    (hv : o.val = .inr e)
    (ho : offers r.timeoutCounter is = (d, e) :: offers m o.rest)
    (ht : taken o.log = [(d, e)])
    (hd : dispatched o.log = forward s (r.firstByte.toList.map (d, ·)))
  | held (m : Nat) (b : UInt8) (hb : b ≠ e) (hf : r.firstByte = none)
    (hr : o.rest.length < is.length)
    (hv : o.val = .inl ⟨m, some b⟩)
    (ho : offers r.timeoutCounter is = (d, b) :: offers m o.rest)
    (ht : taken o.log = [(d, b)])
    (hd : dispatched o.log = [])
  | mismatched (m : Nat) (b f : UInt8) (hb : b ≠ e) (hf : r.firstByte = some f)
    (hv : o.val = .inr f)
    (ho : offers r.timeoutCounter is = (d, b) :: offers m o.rest)
    (ht : taken o.log = [(d, b)])
    (hd : dispatched o.log = forward s [(d, b)])
  | foreign (m : Nat) (b : UInt8)
    (hr : o.rest.length < is.length)
    (hv : o.val = .inl ⟨m, r.firstByte⟩)
    (ho : offers r.timeoutCounter is = (d.other, b) :: offers m o.rest)
    (ht : taken o.log = [(d.other, b)])
    (hd : dispatched o.log = forward s [(d.other, b)])

theorem dispatchUnlessIgnored_eq_some {o : Outcome UInt8 Access Unit} {b : UInt8}
    (h : dispatchUnlessIgnored s d b is = some o) :
    o.rest = is ∧ taken o.log = [] ∧ dispatched o.log = forward s [(d, b)] := by
  unfold dispatchUnlessIgnored at h
  by_cases hs : s.ignoreOutOfOrder = 0
  case pos =>
    rw [if_pos hs] at h
    obtain rfl := emit_eq_some.mp h
    simp [forward, hs, taken, Access.taken?, dispatched, Access.dispatched?]
  case neg =>
    rw [if_neg hs] at h
    obtain rfl := pure_eq_some.mp h
    simp [forward, hs]

theorem pass_spec {o : Outcome UInt8 Access (Reading ⊕ UInt8)}
    (h : readDataPortExpecting.pass s d e r is = some o) : Pass s d e r is o := by
  obtain ⟨n, firstByte⟩ := r
  have ⟨⟨⟨status?, m⟩, is₁, log₁⟩, o₂, h₁, h₂, ho⟩ := bind_eq_some.mp h
  have ⟨hl, ht, hd, hn, hs⟩ := waitOutput_waited h₁
  simp only at hl ht hd hn hs h₂
  cases status?
  case none =>
    obtain rfl := pure_eq_some.mp h₂
    subst ho
    exact .timedOut rfl (hn rfl) (by simpa using ht) (by simpa using hd)
  case some status =>
    have ⟨o₃, o₄, h₃, h₄, ho'⟩ := bind_eq_some.mp h₂
    obtain ⟨b, is₂, rfl, rfl⟩ := inbDataPort_eq_some h₃
    have hs := hs status b is₂ rfl rfl
    simp only at h₄
    split at h₄
    case isTrue hst =>
      subst hst
      split at h₄
      case isTrue hb =>
        subst hb
        cases firstByte
        case none =>
          obtain rfl := pure_eq_some.mp h₄
          subst ho ho'
          exact .expected m rfl hs (by simp [ht]) (by simp [hd, forward])
        case some f =>
          have ⟨o₅, o₆, h₅, h₆, ho''⟩ := bind_eq_some.mp h₄
          have ⟨hr, ht', hd'⟩ := dispatchUnlessIgnored_eq_some h₅
          obtain rfl := pure_eq_some.mp h₆
          subst ho ho' ho''
          exact .expected m rfl (by simpa [hr] using hs) (by simp [ht, ht']) (by simp [hd, hd'])
      case isFalse hb =>
        cases firstByte
        case none =>
          obtain rfl := pure_eq_some.mp h₄
          subst ho ho'
          exact .held m b hb rfl hl rfl hs (by simp [ht]) (by simp [hd])
        case some f =>
          have ⟨o₅, o₆, h₅, h₆, ho''⟩ := bind_eq_some.mp h₄
          have ⟨hr, ht', hd'⟩ := dispatchUnlessIgnored_eq_some h₅
          obtain rfl := pure_eq_some.mp h₆
          subst ho ho' ho''
          exact .mismatched m b f hb rfl rfl (by simpa [hr] using hs) (by simp [ht, ht'])
            (by simp [hd, hd'])
    case isFalse hst =>
      have ⟨o₅, o₆, h₅, h₆, ho''⟩ := bind_eq_some.mp h₄
      have ⟨hr, ht', hd'⟩ := dispatchUnlessIgnored_eq_some h₅
      obtain rfl := pure_eq_some.mp h₆
      rw [PS2DeviceType.eq_other hst] at hs
      subst ho ho' ho''
      refine .foreign m b ?_ rfl (by simpa [hr] using hs) ?_ (by simp [hd, hd'])
      · rw [hr]
        exact hl
      · simp [ht, ht', PS2DeviceType.eq_other hst]

-- The bytes of the requested stream that a reader has got, of which it may hold one from before.
def own (d : PS2DeviceType) (firstByte : Option UInt8) (l : List (PS2DeviceType × UInt8)) : List UInt8 :=
  firstByte.toList ++ ofStream d l

-- What the loop does until it returns, when it is entered with `firstByte` held back and `offered` is
-- what it gets to see.
structure Answers (s : State) (d : PS2DeviceType) (e : UInt8) (firstByte : Option UInt8)
    (offered : List (PS2DeviceType × UInt8)) (o : Outcome UInt8 Access UInt8) : Prop where
  taken_prefix  : taken o.log <+: offered
  own_le        : (own d firstByte (taken o.log)).length ≤ 2
  fake          : own d firstByte (taken o.log) = [] → o.val = 0
  dispatched    : s.ignoreOutOfOrder = 0 → (firstByte.toList.map (d, ·) ++ taken o.log).Perm
    ((if own d firstByte (taken o.log) = [] then [] else [(d, o.val)]) ++ dispatched o.log)
  foreign       : s.ignoreOutOfOrder = 0 →
    ofStream d.other (Controller.dispatched o.log) = ofStream d.other (taken o.log)
  val_eq_iff    : firstByte ≠ some e →
    (o.val = e ↔ e ∈ own d firstByte (taken o.log) ∨ own d firstByte (taken o.log) = [] ∧ e = 0)
  mem_own_iff   : firstByte ≠ some e →
    (e ∈ own d firstByte (taken o.log) ↔ e ∈ (own d firstByte offered).take 2)

theorem Answers.leave {o : Outcome UInt8 Access (Reading ⊕ UInt8)} {a : UInt8}
    (p : Pass s d e r is o) (hv : o.val = .inr a) :
    Answers s d e r.firstByte (offers r.timeoutCounter is) ⟨a, o.rest, o.log⟩ := by
  obtain ⟨n, firstByte⟩ := r
  cases p
  case timedOut hv' ho ht hd =>
    obtain rfl : a = firstByte.getD 0 := by simpa [hv] using hv'
    cases firstByte
    all_goals constructor
    all_goals simp [ho, ht, hd, own, eq_comm]
  case expected m hv' ho ht hd =>
    obtain rfl : a = e := by simpa [hv] using hv'
    constructor
    case taken_prefix => simp [ho, ht]
    case own_le       => simp [ht, own]
    case fake         => simp [ht, own]
    case dispatched   =>
      intro hs
      cases firstByte <;> simp [ht, hd, own, forward, hs, List.Perm.swap]
    case foreign      =>
      intro hs
      cases firstByte <;> simp [ht, hd, forward, hs, ofStream_cons_ne PS2DeviceType.other_ne.symm]
    case val_eq_iff   => simp [ht, own]
    case mem_own_iff  =>
      cases firstByte <;> simp [ht, ho, own]
  case mismatched m b f hb hf hv' ho ht hd =>
    obtain rfl : firstByte = some f := hf
    obtain rfl : a = f := by simpa [hv] using hv'
    constructor
    case taken_prefix => simp [ho, ht]
    case own_le       => simp [ht, own]
    case fake         => simp [ht, own]
    case dispatched   =>
      intro hs
      simp [ht, hd, own, forward, hs]
    case foreign      =>
      intro hs
      simp [ht, hd, forward, hs]
    case val_eq_iff   =>
      intro hf
      have : a ≠ e := by simpa using hf
      simp [ht, own, this, this.symm, hb.symm]
    case mem_own_iff  => simp [ht, ho, own]
  case held hv' _ _ _    => simp [hv] at hv'
  case foreign hv' _ _ _ => simp [hv] at hv'

theorem Answers.again {o : Outcome UInt8 Access (Reading ⊕ UInt8)} {r' : Reading}
    {o' : Outcome UInt8 Access UInt8} (p : Pass s d e r is o) (hv : o.val = .inl r')
    (h : Answers s d e r'.firstByte (offers r'.timeoutCounter o.rest) o') :
    Answers s d e r.firstByte (offers r.timeoutCounter is) ⟨o'.val, o'.rest, o.log ++ o'.log⟩ := by
  obtain ⟨n, firstByte⟩ := r
  cases p
  case timedOut hv' _ _ _             => simp [hv] at hv'
  case expected hv' _ _ _             => simp [hv] at hv'
  case mismatched hv' _ _ _           => simp [hv] at hv'
  case held m b hb hf hr hv' ho ht hd =>
    obtain rfl : firstByte = none := hf
    obtain rfl : r' = ⟨m, some b⟩ := by simpa [hv] using hv'
    have ho' : own d none (taken o.log ++ taken o'.log) = own d (some b) (taken o'.log) := by
      simp [own, ht]
    have hb : some b ≠ some e := by simpa using hb
    constructor
    case taken_prefix => simpa [ho, ht] using h.taken_prefix
    case own_le       => simpa [ho'] using h.own_le
    case fake         => simpa [ho'] using h.fake
    case dispatched   =>
      intro hs
      simp only [taken_append, dispatched_append, ho']
      simpa [ht, hd] using h.dispatched hs
    case foreign      =>
      simpa [ht, hd, ofStream_cons_ne PS2DeviceType.other_ne.symm] using h.foreign
    case val_eq_iff   => simpa [ho'] using h.val_eq_iff hb
    case mem_own_iff  =>
      simp only [taken_append, ho', ho]
      simpa [own] using h.mem_own_iff hb
  case foreign m b hr hv' ho ht hd    =>
    obtain rfl : r' = ⟨m, firstByte⟩ := by simpa [hv] using hv'
    have ho' : own d firstByte (taken o.log ++ taken o'.log) = own d firstByte (taken o'.log) := by
      simp [own, ht, ofStream_cons_ne PS2DeviceType.other_ne]
    constructor
    case taken_prefix => simpa [ho, ht] using h.taken_prefix
    case own_le       => simpa [ho'] using h.own_le
    case fake         => simpa [ho'] using h.fake
    case dispatched   =>
      intro hs
      have := h.dispatched hs
      simp only [taken_append, dispatched_append, ho']
      have := List.perm_middle.trans (this.cons (d.other, b)) |>.trans List.perm_middle.symm
      simpa [ht, hd, forward, hs] using this
    case foreign      =>
      intro hs
      simpa [ht, hd, forward, hs] using h.foreign hs
    case val_eq_iff   => simpa [ho'] using h.val_eq_iff
    case mem_own_iff  =>
      simp only [taken_append, ho', ho]
      simpa [own, ofStream_cons_ne PS2DeviceType.other_ne] using h.mem_own_iff

theorem readDataPortExpecting_reads : Reads (readDataPortExpecting.pass s d e) := by
  intro r is o r' h hv
  cases pass_spec h
  case held hr _ _ _ _      => exact hr
  case foreign hr _ _ _ _   => exact hr
  case timedOut hv' _ _ _   => simp [hv] at hv'
  case expected hv' _ _ _   => simp [hv] at hv'
  case mismatched hv' _ _ _ => simp [hv] at hv'

-- From a controller that stays silent comes the fake value.
theorem readDataPortExpecting_silent :
    readDataPortExpecting s d e (List.replicate timeout 0 ++ is) =
      some ⟨0, is, List.replicate timeout (.poll 0)⟩ := by
  rw [readDataPortExpecting, loop_eq readDataPortExpecting_reads]
  refine bind_eq_some.mpr ⟨⟨.inr 0, is, List.replicate timeout (.poll 0)⟩, _, ?_, rfl, by simp⟩
  exact bind_eq_some.mpr ⟨_, _, waitOutput_silent timeout, rfl, by simp⟩

theorem readDataPortExpecting_answers {o : Outcome UInt8 Access UInt8}
    (h : readDataPortExpecting s d e is = some o) : Answers s d e none (offers timeout is) o :=
  loop_induction (P := fun r is o => Answers s d e r.firstByte (offers r.timeoutCounter is) o)
    (fun h hv => .leave (pass_spec h) hv) (fun h hv hi => .again (pass_spec h) hv hi) h

-- Every byte that is taken from the data port goes to one place, in whatever way the call returns: it is
-- returned, or it is passed to the driver of the device that it came from.
theorem readDataPortExpecting_conserves {s : State} {d : PS2DeviceType} {e : UInt8} {is : List UInt8}
    {o : Outcome UInt8 Access UInt8} (hs : s.ignoreOutOfOrder = 0) (he : e ≠ 0)
    (h : readDataPortExpecting s d e is = some o) :
    (ofStream d (taken o.log) = [] → o.val = 0 ∧ (taken o.log).Perm (dispatched o.log)) ∧
    (ofStream d (taken o.log) ≠ [] → (taken o.log).Perm ((d, o.val) :: dispatched o.log)) ∧
    ofStream d.other (dispatched o.log) = ofStream d.other (taken o.log) ∧
    (ofStream d (taken o.log)).length ≤ 2 ∧
    taken o.log <+: offers timeout is ∧
    (o.val = e ↔ e ∈ (ofStream d (offers timeout is)).take 2) := by
  have a := readDataPortExpecting_answers h
  have ho : ∀ l, own d none l = ofStream d l := fun _ => rfl
  have ha := a.dispatched hs
  refine ⟨?fake, ?returned, a.foreign hs, a.own_le, a.taken_prefix, ?expected⟩
  case fake =>
    intro hn
    rw [ho, if_pos hn] at ha
    exact ⟨a.fake hn, by simpa using ha⟩
  case returned =>
    intro hn
    rw [ho, if_neg hn] at ha
    simpa using ha
  case expected =>
    have hv := a.val_eq_iff nofun
    rw [a.mem_own_iff nofun] at hv
    simpa [he, ho] using hv

-- The acknowledge of the mouse comes behind a byte of the keyboard and an asynchronous one of the mouse.
theorem readDataPortExpecting_late :
    (taken [.poll 0x01, .take .keyboard 0x1e, .dispatchDriverInterrupt .keyboard 0x1e, .poll 0x20,
      .poll 0x21, .take .mouse 0x08, .poll 0x21, .take .mouse 0xfa,
      .dispatchDriverInterrupt .mouse 0x08]).Perm [(.mouse, 0xfa), (.keyboard, 0x1e), (.mouse, 0x08)] :=
  have h : readDataPortExpecting {} .mouse 0xfa [0x01, 0x1e, 0x20, 0x21, 0x08, 0x21, 0xfa] =
      some ⟨0xfa, [], _⟩ := rfl
  (readDataPortExpecting_conserves rfl (by decide) h).right.left (by decide)

end Controller
