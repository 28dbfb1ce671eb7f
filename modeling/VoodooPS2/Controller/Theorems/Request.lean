import VoodooPS2.Controller.Request
import VoodooPS2.Controller.Theorems.ReadDataPort

namespace Controller

open Scripted

-- The stream from which a comparing command reads, and the byte that it expects.
def PS2Command.comparison? (c : PS2Command) (m : Mode) : Option (PS2DeviceType × UInt8) :=
  match c.command with
  | .readDataPortAndCompare        => some (m.deviceMode, c.inOrOut)
  | .readMouseDataPortAndCompare   => some (.mouse, c.inOrOut)
  | .sendMouseCommandAndCompareAck => some (.mouse, kSC_Acknowledge)
  | _                              => none

-- A comparing command has read its expected byte when these were its accesses.
def PS2Command.ReadsExpected (c : PS2Command) (m : Mode) (log : List Access) : Prop :=
  ∀ d e, c.comparison? m = some (d, e) → e ∈ ofStream d (taken log)

-- Or its expected byte is the fake value of a read that has timed out without a byte of its stream.
def PS2Command.Succeeds (c : PS2Command) (m : Mode) (log : List Access) : Prop :=
  ∀ d e, c.comparison? m = some (d, e) →
    e ∈ ofStream d (taken log) ∨ ofStream d (taken log) = [] ∧ e = 0

-- The mode in which the `i`-th command is processed.
def modeAt (m : Mode) (cs : List PS2Command) (i : Nat) : Mode :=
  (cs.take i).foldl Mode.next m

-- The accesses of the `i`-th command.
def accesses (log : List (Nat × Access)) (i : Nat) : List Access :=
  log.filterMap fun a => if a.1 = i then some a.2 else none

section Command

variable {s : State} {m : Mode} {c : PS2Command} {is : List UInt8}

theorem waitInput_pass {o : Outcome UInt8 Access (Unit ⊕ Unit)} (h : waitInput.pass () is = some o) :
    taken o.log = [] := by
  have ⟨o', h', ho⟩ := bind_pure_eq_some.mp h
  obtain ⟨status, is', rfl, rfl⟩ := inbCommandPort_eq_some h'
  subst ho
  rfl

theorem taken_of_waitInput {o : Outcome UInt8 Access Unit} (h : waitInput is = some o) :
    taken o.log = [] := by
  rw [waitInput] at h
  refine loop_induction (P := fun _ _ o => taken o.log = []) ?leave ?again h
  case leave => exact fun h _ => waitInput_pass h
  case again => exact fun h _ hi => by simp [waitInput_pass h, hi]

theorem taken_of_writeDataPort {b : UInt8} {o : Outcome UInt8 Access Unit}
    (h : writeDataPort b is = some o) : taken o.log = [] := by
  have ⟨o₁, o₂, h₁, h₂, ho⟩ := bind_eq_some.mp h
  obtain rfl := emit_eq_some.mp h₂
  subst ho
  simp [taken_of_waitInput h₁]

theorem taken_of_writeCommandPort {b : UInt8} {o : Outcome UInt8 Access Unit}
    (h : writeCommandPort b is = some o) : taken o.log = [] := by
  have ⟨o₁, o₂, h₁, h₂, ho⟩ := bind_eq_some.mp h
  obtain rfl := emit_eq_some.mp h₂
  subst ho
  simp [taken_of_waitInput h₁]

theorem readDataPortExpecting_val_eq_iff {d : PS2DeviceType} {e : UInt8}
    {o : Outcome UInt8 Access UInt8} (h : readDataPortExpecting s d e is = some o) :
    o.val = e ↔ e ∈ ofStream d (taken o.log) ∨ ofStream d (taken o.log) = [] ∧ e = 0 :=
  (readDataPortExpecting_answers h).val_eq_iff nofun

theorem succeeds_of_comparison?_eq_none {log : List Access} (h : c.comparison? m = none) :
    c.Succeeds m log := by
  intro d e hc
  simp [h] at hc

theorem succeeds_iff {log : List Access} {d : PS2DeviceType} {e : UInt8}
    (h : c.comparison? m = some (d, e)) :
    c.Succeeds m log ↔ e ∈ ofStream d (taken log) ∨ ofStream d (taken log) = [] ∧ e = 0 := by
  simp [PS2Command.Succeeds, h]

-- A command fails if and only if it compares, and has not got what it compares with.
theorem processCommand_failed_iff {o : Outcome UInt8 Access (PS2Command × Bool)}
    (h : processCommand s m c is = some o) : o.val.2 = false ↔ c.Succeeds m o.log := by
  have hn (hc : c.comparison? m = none) (hf : o.val.2 = false) :
      o.val.2 = false ↔ c.Succeeds m o.log :=
    iff_of_true hf (succeeds_of_comparison?_eq_none hc)
  cases hc : c.command
  all_goals simp only [processCommand, hc] at h
  case readDataPort | writeDataPort | writeCommandPort | readMouseDataPort | flushDataPort | sleepMS =>
    have ⟨_, _, ho⟩ := bind_pure_eq_some.mp h
    exact hn (by simp [PS2Command.comparison?, hc]) (by rw [ho])
  case readDataPortAndCompare =>
    have ⟨o', h', ho⟩ := bind_pure_eq_some.mp h
    have hc : c.comparison? m = some (m.deviceMode, c.inOrOut) := by
      simp [PS2Command.comparison?, hc]
    rw [succeeds_iff hc, ho, ← readDataPortExpecting_val_eq_iff h']
    simp
  case readMouseDataPortAndCompare =>
    have ⟨o', h', ho⟩ := bind_pure_eq_some.mp h
    have hc : c.comparison? m = some (.mouse, c.inOrOut) := by
      simp [PS2Command.comparison?, hc]
    rw [succeeds_iff hc, ho, ← readDataPortExpecting_val_eq_iff h']
    simp
  case sendMouseCommandAndCompareAck =>
    have ⟨o₁, o₂, h₁, h₂, ho⟩ := bind_eq_some.mp h
    have ⟨o₃, o₄, h₃, h₄, ho₂⟩ := bind_eq_some.mp h₂
    have ⟨o₅, h₅, ho₄⟩ := bind_pure_eq_some.mp h₄
    have hc : c.comparison? m = some (.mouse, kSC_Acknowledge) := by
      simp [PS2Command.comparison?, hc]
    have ht : taken o.log = taken o₅.log := by
      simp [ho, ho₂, ho₄, taken_of_writeCommandPort h₁, taken_of_writeDataPort h₃]
    rw [succeeds_iff hc, ht, ← readDataPortExpecting_val_eq_iff h₅, ho, ho₂, ho₄]
    simp
  case modifyCommandByte =>
    have ⟨o₁, o₂, h₁, h₂, ho⟩ := bind_eq_some.mp h
    have ⟨o₃, o₄, h₃, h₄, ho₂⟩ := bind_eq_some.mp h₂
    have ⟨o₅, o₆, h₅, h₆, ho₄⟩ := bind_eq_some.mp h₄
    have ⟨o₇, h₇, ho₆⟩ := bind_pure_eq_some.mp h₆
    subst ho ho₂ ho₄ ho₆
    exact hn (by simp [PS2Command.comparison?, hc]) rfl

end Command

section Commands

variable {s : State} {m : Mode} {c : PS2Command} {cs : List PS2Command} {index : Nat}
  {is : List UInt8}

@[simp]
theorem modeAt_zero : modeAt m cs 0 = m := by
  simp [modeAt]

@[simp]
theorem modeAt_succ {i : Nat} : modeAt m (c :: cs) (i + 1) = modeAt (m.next c) cs i :=
  rfl

@[simp]
theorem accesses_append {l₁ l₂ : List (Nat × Access)} {i : Nat} :
    accesses (l₁ ++ l₂) i = accesses l₁ i ++ accesses l₂ i :=
  List.filterMap_append

theorem accesses_map {log : List Access} : accesses (log.map (index, ·)) index = log := by
  simp [accesses, List.filterMap_map]

theorem accesses_eq_nil {log : List (Nat × Access)} {i : Nat} (h : ∀ a ∈ log, a.1 ≠ i) :
    accesses log i = [] := by
  simpa [accesses, List.filterMap_eq_nil_iff] using fun a b hm hi => h (a, b) hm hi

-- What the loop does with the commands `cs`, the first of which has the given index.
structure Loop (index : Nat) (m : Mode) (cs : List PS2Command)
    (o : Outcome UInt8 (Nat × Access) (Option Nat × List PS2Command)) : Prop where
  length    : o.val.2.length = cs.length
  accesses  : ∀ a ∈ o.log, index ≤ a.1
  succeeded : ∀ i c, cs[i]? = some c → (∀ k, o.val.1 = some k → index + i < k) →
    c.Succeeds (modeAt m cs i) (Controller.accesses o.log (index + i))
  failed    : ∀ k, o.val.1 = some k → ∃ i c, k = index + i ∧ cs[i]? = some c ∧
    ¬c.Succeeds (modeAt m cs i) (Controller.accesses o.log k) ∧ (∀ a ∈ o.log, a.1 ≤ k) ∧
    o.val.2.drop (i + 1) = cs.drop (i + 1)

theorem processCommands_loop {o : Outcome UInt8 (Nat × Access) (Option Nat × List PS2Command)}
    (h : processCommands s index m cs is = some o) : Loop index m cs o := by
  induction cs generalizing index m is o
  case nil =>
    obtain rfl := pure_eq_some.mp h
    exact ⟨rfl, nofun, nofun, nofun⟩
  case cons c cs hi =>
    have ⟨_, o₂, hl, h₂, ho⟩ := bind_eq_some.mp h
    obtain ⟨⟨⟨c', failed⟩, is₁, log⟩, h₁, rfl⟩ := label_eq_some.mp hl
    have hf := processCommand_failed_iff h₁
    cases failed
    case true =>
      obtain rfl := pure_eq_some.mp h₂
      subst ho
      have hl : accesses (log.map (index, ·) ++ []) index = log := by simp [accesses_map]
      refine ⟨rfl, by simp, ?succeeded, ?failed⟩
      case succeeded =>
        intro i c _ hk
        have := hk index rfl
        omega
      case failed =>
        rintro _ ⟨⟩
        refine ⟨0, c, rfl, rfl, ?_, by simp, rfl⟩
        rw [hl, modeAt_zero, ← hf]
        simp
    case false =>
      have ⟨o₃, h₃, ho₂⟩ := bind_pure_eq_some.mp h₂
      subst ho ho₂
      have ⟨hl, ha, hs, hk⟩ := hi h₃
      have hn : accesses o₃.log index = [] :=
        accesses_eq_nil fun a h => by have := ha a h; omega
      have ht {i : Nat} (h : index < i) :
          accesses (log.map (index, ·) ++ o₃.log) i = accesses o₃.log i := by
        have hl : accesses (log.map (index, ·)) i = [] := accesses_eq_nil (by simp; omega)
        simp [accesses_append, hl]
      refine ⟨by simp [hl], ?accesses, ?succeeded, ?failed⟩
      case accesses =>
        simp only [List.mem_append, List.mem_map]
        rintro a (⟨a, _, rfl⟩ | h)
        · exact le_rfl
        · exact Nat.le_of_succ_le (ha a h)
      case succeeded =>
        rintro (_ | i) c' hc hi
        · obtain rfl : c = c' := by simpa using hc
          simpa [accesses_map, hn] using hf.mp rfl
        · rw [ht (by omega), modeAt_succ, show index + (i + 1) = index + 1 + i by omega]
          exact hs i c' (by simpa using hc) fun k h => by have := hi k h; omega
      case failed =>
        intro k h
        have ⟨i, c', hki, hc, hf, hle, hd⟩ := hk k h
        refine ⟨i + 1, c', by omega, by simpa using hc, ?_, ?_, by simpa using hd⟩
        · rwa [ht (by omega), modeAt_succ]
        · simp only [List.mem_append, List.mem_map]
          rintro a (⟨a, _, rfl⟩ | h)
          · show index ≤ k
            omega
          · exact hle a h

end Commands

section Request

variable {s : State} {r : PS2Request} {is : List UInt8} {o : Outcome UInt8 (Nat × Access) Processed}

-- The command with the index `i`, if it is counted.
def PS2Request.command? (r : PS2Request) (i : Nat) : Option PS2Command :=
  (r.commands.take r.commandsCount.toNat)[i]?

def PS2Request.modeAt (r : PS2Request) (i : Nat) : Mode :=
  Controller.modeAt .init (r.commands.take r.commandsCount.toNat) i

theorem PS2Request.lt_of_command? {i : Nat} {c : PS2Command} (h : r.command? i = some c) :
    i < r.commandsCount.toNat := by
  have ⟨hi, _⟩ := List.getElem?_eq_some_iff.mp h
  rw [List.length_take] at hi
  omega

theorem getElem?_of_drop_eq {α : Type} {l₁ l₂ : List α} {k j : Nat}
    (h : l₁.drop (k + 1) = l₂.drop (k + 1)) (hj : k < j) : l₁[j]? = l₂[j]? := by
  have := congrArg (·[j - (k + 1)]?) h
  simpa [List.getElem?_drop, show k + 1 + (j - (k + 1)) = j by omega] using this

theorem processRequest_offline (hs : s.hardwareOffline = true) (h : processRequest s r is = some o) :
    o = ⟨⟨s, { r with commandsCount := 0 }, r.completion⟩, is, []⟩ := by
  rw [processRequest, if_pos hs] at h
  exact pure_eq_some.mp h

theorem processRequest_online (hs : s.hardwareOffline = false) (h : processRequest s r is = some o) :
    ∃ o' : Outcome UInt8 (Nat × Access) (Option Nat × List PS2Command),
      Loop 0 .init (r.commands.take r.commandsCount.toNat) o' ∧ o.log = o'.log ∧
      o.val.state = s ∧
      o.val.request.commands = o'.val.2 ++ r.commands.drop r.commandsCount.toNat ∧
      o.val.request.commandsCount = o'.val.1.elim r.commandsCount UInt8.ofNat := by
  rw [processRequest, if_neg (by simp [hs])] at h
  have ⟨o', h', ho⟩ := bind_pure_eq_some.mp h
  refine ⟨o', processCommands_loop h', by rw [ho], ?_, by rw [ho], ?_⟩
  · rw [ho]
    simp
  · rw [ho]
    cases o'.val.1 <;> rfl

theorem processRequest_state (h : processRequest s r is = some o) : o.val.state = s := by
  cases hs : s.hardwareOffline
  case true  => rw [processRequest_offline hs h]
  case false =>
    have ⟨_, _, _, h, _⟩ := processRequest_online hs h
    exact h

-- The status that is left in the count tells whether all comparisons have succeeded, and if not, which
-- one was the first to fail. Nothing of a later command is done or changed.
theorem processRequest_status {s : State} {r : PS2Request} {is : List UInt8}
    {o : Outcome UInt8 (Nat × Access) Processed} (h : processRequest s r is = some o) :
    o.val.state.ignoreInterrupts = s.ignoreInterrupts ∧
    (s.hardwareOffline = true → o.rest = is ∧ o.log = [] ∧ o.val.request.commandsCount = 0) ∧
    (s.hardwareOffline = false →
      (o.val.request.commandsCount = r.commandsCount ↔
        ∀ i c, r.command? i = some c → c.Succeeds (r.modeAt i) (accesses o.log i)) ∧
      (∀ k, k = o.val.request.commandsCount.toNat → k ≠ r.commandsCount.toNat →
        (∃ c, r.command? k = some c ∧ ¬c.Succeeds (r.modeAt k) (accesses o.log k)) ∧
        (∀ i c, i < k → r.command? i = some c → c.Succeeds (r.modeAt i) (accesses o.log i)) ∧
        (∀ a ∈ o.log, a.1 ≤ k) ∧
        ∀ j, k < j → o.val.request.commands[j]? = r.commands[j]?)) := by
  refine ⟨by rw [processRequest_state h], ?offline, ?online⟩
  case offline =>
    intro hs
    rw [processRequest_offline hs h]
    exact ⟨rfl, rfl, rfl⟩
  case online =>
    intro hs
    have ⟨o', hl, ho, _, hc, hn⟩ := processRequest_online hs h
    rw [ho, hc, hn]
    cases hv : o'.val.1
    case none =>
      refine ⟨iff_of_true rfl fun i c hi => ?_, fun k hk hk' => absurd hk hk'⟩
      simpa [PS2Request.modeAt] using hl.succeeded i c hi (by simp [hv])
    case some k =>
      have ⟨i, c, hk, hi, hf, hle, hd⟩ := hl.failed k hv
      obtain rfl : k = i := by omega
      have hlt := PS2Request.lt_of_command? hi
      have hkn : (UInt8.ofNat k).toNat = k := by
        have := r.commandsCount.toNat_lt
        simp
        omega
      refine ⟨iff_of_false ?_ fun ha => hf (ha k c hi), ?_⟩
      · intro he
        have := congrArg UInt8.toNat he
        simp only [Option.elim_some, hkn] at this
        omega
      · simp only [Option.elim_some, hkn]
        rintro _ rfl _
        refine ⟨⟨c, hi, hf⟩, fun i c hik hi => ?_, hle, fun j hj => ?_⟩
        · simpa [PS2Request.modeAt] using hl.succeeded i c hi fun k' hk' => by simp [hv] at hk'; omega
        · refine getElem?_of_drop_eq ?_ hj
          rw [List.drop_append, hd, hl.length, ← List.drop_append, List.take_append_drop]

-- The mouse does not acknowledge, so the command that follows is left alone.
def disableMouse : PS2Request where
  commands      := [{ command := .sendMouseCommandAndCompareAck, byte₀ := 0xf5 },
    { command := .writeDataPort, byte₀ := 0xed }]
  commandsCount := 2

theorem processRequest_status_disableMouse :
    ∃ c, disableMouse.command? 0 = some c ∧
      ¬c.Succeeds (disableMouse.modeAt 0) (accesses [(0, .poll 0), (0, .outb .command 0xd4),
        (0, .poll 0), (0, .outb .data 0xf5), (0, .poll 0x21), (0, .take .mouse 0xfe),
        (0, .poll 0x21), (0, .take .mouse 0x00), (0, .dispatchDriverInterrupt .mouse 0x00)] 0) :=
  have h : processRequest {} disableMouse [0, 0, 0x21, 0xfe, 0x21, 0x00] =
      some ⟨⟨{}, { disableMouse with commandsCount := 0 }, .leftToCaller⟩, [], _⟩ := rfl
  ((processRequest_status h).right.right rfl |>.right 0 rfl (by decide)).left

-- A comparison with zero, of a controller that stays silent.
def compareZero : PS2Request where
  commands      := [{ command := .readDataPortAndCompare }]
  commandsCount := 1

theorem processRequest_compareZero {s : State} (hs : s.hardwareOffline = false) :
    ∃ o, processRequest s compareZero (List.replicate timeout 0 ++ is) = some o ∧
      o.val.request.commandsCount = 1 ∧
      o.log = (List.replicate timeout (.poll 0)).map (0, ·) := by
  let c : PS2Command := { command := .readDataPortAndCompare }
  let s' : State := { s with ignoreInterrupts := s.ignoreInterrupts + 1 }
  let log : List Access := List.replicate timeout (.poll 0)
  have hc : processCommand s' .init c (List.replicate timeout 0 ++ is) =
      some ⟨(c, false), is, log⟩ :=
    bind_pure_eq_some.mpr ⟨⟨0, is, log⟩, readDataPortExpecting_silent, rfl⟩
  have hl : processCommands s' 0 .init [c] (List.replicate timeout 0 ++ is) =
      some ⟨(none, [c]), is, log.map (0, ·) ++ []⟩ :=
    bind_eq_some.mpr ⟨⟨(c, false), is, log.map (0, ·)⟩, ⟨(none, [c]), is, []⟩,
      label_eq_some.mpr ⟨_, hc, rfl⟩, rfl, rfl⟩
  rw [processRequest, if_neg (by simp [hs])]
  exact ⟨_, bind_pure_eq_some.mpr ⟨_, hl, rfl⟩, rfl, List.append_nil _⟩

-- The comparison is content with the fake value of the read that has timed out.
theorem not_processRequest_status : ¬∀ (s : State) (r : PS2Request) (is : List UInt8)
    (o : Outcome UInt8 (Nat × Access) Processed), s.hardwareOffline = false →
    processRequest s r is = some o →
    (o.val.request.commandsCount = r.commandsCount ↔
      ∀ i c, r.command? i = some c → c.ReadsExpected (r.modeAt i) (accesses o.log i)) := by
  intro h
  have ⟨o, ho, hn, hl⟩ := @processRequest_compareZero [] {} rfl
  have hr := (h {} compareZero _ o rfl ho).mp hn 0 _ rfl .keyboard 0 rfl
  rw [hl, accesses_map] at hr
  have ht : taken (List.replicate timeout (.poll 0)) = [] := by
    simp [taken, Access.taken?]
  simp [ht] at hr

end Request

end Controller
