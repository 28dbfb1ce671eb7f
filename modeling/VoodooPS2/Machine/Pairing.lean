import Mathlib.Data.List.Chain
import VoodooPS2.Machine.Halting

-- A packet is complete, or it is the first or the second one of a pair.
inductive PairPart
  | whole
  | first
  | second
  deriving DecidableEq

-- A protocol by which some packets are reported on their own, and others in pairs of adjacent ones.
structure Pairing (α β : Type*) where
  part   : α → PairPart
  single : α → List β
  pair   : α → α → List β
  -- The pairs that can not be processed.
  Fails  : α → α → Prop

namespace Pairing

variable {α β ω : Type*} (P : Pairing α β)

-- What is reported of a packet depends on the packet itself and on the one that comes right after it.
def report (p : α) (next : Option α) : List β :=
  match P.part p with
  | .whole  => P.single p
  | .first  =>
    match next with
    | some m => if P.part m = .second then P.pair p m else []
    | none   => []
  | .second => []

def reports : List α → List β
  | []      => []
  | p :: ps => P.report p ps.head? ++ reports ps

def Fits (f m : α) : Prop :=
  P.part f = .first → P.part m = .second → ¬P.Fails f m

instance [∀ f m, Decidable (P.Fails f m)] (f m : α) : Decidable (P.Fits f m) :=
  inferInstanceAs (Decidable (_ → _ → _))

-- The protocol with a register for the first packet of a pair.
def step [∀ f m, Decidable (P.Fails f m)] (emb : β → ω) (stored : Option α) (p : α) :
    Option (Option α × List ω) :=
  match P.part p, stored with
  | .whole,  _      => some (none, (P.single p).map emb)
  | .first,  _      => some (some p, [])
  | .second, none   => some (none, [])
  | .second, some f => if P.Fails f p then none else some (none, (P.pair f p).map emb)

def machine [∀ f m, Decidable (P.Fails f m)] (emb : β → ω) (fault : ω) :
    Mealy (Option (Option α)) α ω :=
  .halting (P.step emb) fault

variable {P} {p f m : α} {ps : List α} {stored : Option α}

theorem report_of_whole (h : P.part p = .whole) {next : Option α} : P.report p next = P.single p := by
  simp [report, h]

theorem report_of_second (h : P.part p = .second) {next : Option α} : P.report p next = [] := by
  simp [report, h]

theorem report_of_pair (hf : P.part f = .first) (hm : P.part m = .second) :
    P.report f (some m) = P.pair f m := by
  simp [report, hf, hm]

theorem report_of_unpaired (hf : P.part f = .first) (hm : P.part m ≠ .second) :
    P.report f (some m) = [] := by
  simp [report, hf, hm]

-- What holds of every packet that is reported on its own and of every pair holds of all reports.
theorem reports_forall {Q : β → Prop} (hs : ∀ p, P.part p = .whole → ∀ b ∈ P.single p, Q b)
    (hp : ∀ f m, P.part f = .first → P.part m = .second → ∀ b ∈ P.pair f m, Q b) :
    ∀ b ∈ P.reports ps, Q b := by
  induction ps
  case nil => simp [reports]
  case cons p ps hi =>
    intro b hb
    rcases List.mem_append.mp hb with hb | hb
    case inr => exact hi b hb
    case inl =>
      cases hk : P.part p
      case whole  => exact hs p hk b (report_of_whole hk ▸ hb)
      case second => simp [report, hk] at hb
      case first  =>
        rcases ps with _ | ⟨m, ps⟩
        case nil => simp [report, hk] at hb
        case cons =>
          rw [List.head?_cons] at hb
          by_cases hm : P.part m = .second
          case pos => exact hp p m hk hm b (report_of_pair hk hm ▸ hb)
          case neg => simp [report_of_unpaired hk hm] at hb

section Machine

variable [∀ f m, Decidable (P.Fails f m)] {emb : β → ω} {fault : ω}

theorem step_of_whole (h : P.part p = .whole) :
    P.step emb stored p = some (none, (P.single p).map emb) := by
  simp [step, h]

theorem step_of_first (h : P.part p = .first) : P.step emb stored p = some (some p, []) := by
  simp [step, h]

theorem step_of_second (h : P.part p = .second) : P.step emb none p = some (none, []) := by
  simp [step, h]

theorem step_of_pair (h : P.part p = .second) (hf : ¬P.Fails f p) :
    P.step emb (some f) p = some (none, (P.pair f p).map emb) := by
  simp [step, h, hf]

theorem step_of_fails (h : P.part p = .second) (hf : P.Fails f p) : P.step emb (some f) p = none := by
  simp [step, h, hf]

-- A step depends on what is stored only if a second packet arrives.
theorem step_eq_of_ne (h : P.part p ≠ .second) : P.step emb stored p = P.step emb none p := by
  cases hp : P.part p
  case whole  => rw [step_of_whole hp, step_of_whole hp]
  case first  => rw [step_of_first hp, step_of_first hp]
  case second => exact absurd hp h

theorem machine_out_cons {r : Option α × List ω} (h : P.step emb stored p = some r) :
    (P.machine emb fault).out (some stored) (p :: ps) =
      r.2 ++ (P.machine emb fault).out (some r.1) ps := by
  simp only [Mealy.out_cons, machine, Mealy.halting_step_some h]

-- Where an unpaired packet is stored it makes no difference.
theorem machine_out_of_ne (hp : P.part p ≠ .second) :
    (P.machine emb fault).out (some stored) (p :: ps) = (P.machine emb fault).out (some none) (p :: ps) := by
  simp only [Mealy.out_cons, machine, Mealy.halting, step_eq_of_ne hp]

-- While nothing fails the machine reports what the protocol says.
theorem out_of_isChain (h : ps.IsChain P.Fits) :
    (P.machine emb fault).out (some none) ps = (P.reports ps).map emb := by
  induction ps
  case nil => rfl
  case cons p ps hi =>
    have hi := hi h.tail
    cases hp : P.part p
    case whole =>
      rw [machine_out_cons (step_of_whole hp), hi, reports, report_of_whole hp, List.map_append]
    case second =>
      rw [machine_out_cons (step_of_second hp), hi, reports, report_of_second hp]
      rfl
    case first =>
      rw [machine_out_cons (step_of_first hp), reports, List.nil_append]
      rcases ps with _ | ⟨m, ps⟩
      case nil => simp [report, hp, reports]
      case cons =>
        by_cases hm : P.part m = .second
        case neg =>
          rw [machine_out_of_ne hm, hi, List.head?_cons, report_of_unpaired hp hm]
          rfl
        case pos =>
          have hf : ¬P.Fails p m := h.rel hp hm
          have hi : (P.machine emb fault).out (some none) ps = (P.reports ps).map emb := by
            rw [machine_out_cons (step_of_second hm), reports, report_of_second hm] at hi
            exact hi
          rw [machine_out_cons (step_of_pair hm hf), hi, List.head?_cons, report_of_pair hp hm, reports,
            report_of_second hm, List.map_append]
          rfl

-- A pair that fails is the end, and it is not reported.
theorem out_of_not_isChain (h : ¬ps.IsChain P.Fits) :
    ∃ pre f m post, P.part f = .first ∧ P.part m = .second ∧ P.Fails f m ∧
      P.reports ps = pre ++ P.pair f m ++ post ∧
      (P.machine emb fault).out (some none) ps = pre.map emb ++ [fault] := by
  induction ps
  case nil => exact absurd .nil h
  case cons p ps hi =>
    cases hp : P.part p
    case whole =>
      have hc : ¬ps.IsChain P.Fits := fun hc => h (.cons hc fun _ _ hf => by simp [hp] at hf)
      have ⟨pre, f, m, post, hf, hm, hx, hr, ho⟩ := hi hc
      refine ⟨P.single p ++ pre, f, m, post, hf, hm, hx, ?_, ?_⟩
      · simp [reports, report_of_whole hp, hr]
      · rw [machine_out_cons (step_of_whole hp), ho]
        simp
    case second =>
      have hc : ¬ps.IsChain P.Fits := fun hc => h (.cons hc fun _ _ hf => by simp [hp] at hf)
      have ⟨pre, f, m, post, hf, hm, hx, hr, ho⟩ := hi hc
      refine ⟨pre, f, m, post, hf, hm, hx, ?_, ?_⟩
      · simp [reports, report_of_second hp, hr]
      · rw [machine_out_cons (step_of_second hp), ho]
        rfl
    case first =>
      rcases ps with _ | ⟨m, ps⟩
      case nil => exact absurd (.singleton p) h
      case cons =>
        rw [machine_out_cons (step_of_first hp), reports, List.nil_append, List.head?_cons]
        by_cases hm : P.part m = .second
        case neg =>
          have hc : ¬(m :: ps).IsChain P.Fits := fun hc =>
            h (List.isChain_cons_cons.mpr ⟨fun _ h => absurd h hm, hc⟩)
          rw [machine_out_of_ne hm, report_of_unpaired hp hm]
          exact hi hc
        case pos =>
          by_cases hx : P.Fails p m
          case pos =>
            refine ⟨[], p, m, P.reports ps, hp, hm, hx, ?_, ?_⟩
            · simp [reports, report_of_pair hp hm, report_of_second hm]
            · simp [machine, Mealy.halting_step_none (step_of_fails hm hx)]
          case neg =>
            have hc : ¬(m :: ps).IsChain P.Fits := fun hc =>
              h (List.isChain_cons_cons.mpr ⟨fun _ _ => hx, hc⟩)
            have ⟨pre, f, m', post, hf, hm', hx', hr, ho⟩ := hi hc
            rw [machine_out_cons (step_of_second hm)] at ho
            refine ⟨P.pair p m ++ pre, f, m', post, hf, hm', hx', ?_, ?_⟩
            · rw [hr, report_of_pair hp hm]
              simp
            · rw [machine_out_cons (step_of_pair hm hx), List.map_append, List.append_assoc, ← ho]
              rfl

end Machine

end Pairing
