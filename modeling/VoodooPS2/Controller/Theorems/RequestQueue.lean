import VoodooPS2.Controller.RequestQueue

namespace Controller

variable {R : Type*} {s s' : RequestQueue R} {a : Action R} {as : List (Action R)}

theorem submitted_concat : submitted (as ++ [a]) = submitted as ++ a.submitted?.toList := by
  simp [submitted, List.filterMap_cons]
  cases a.submitted? <;> rfl

theorem processed_concat : processed (as ++ [a]) = processed as ++ a.processed?.toList := by
  simp [processed, List.filterMap_cons]
  cases a.processed? <;> rfl

theorem blocked_concat : blocked (as ++ [a]) = blocked as ++ a.blocked?.toList := by
  simp [blocked, List.filterMap_cons]
  cases a.blocked? <;> rfl

theorem processedGated_concat :
    processedGated (as ++ [a]) = processedGated as ++ a.processedGated?.toList := by
  simp [processedGated, List.filterMap_cons]
  cases a.processedGated? <;> rfl

namespace WorkLoop

-- The asynchronous requests that the work loop has taken from the queue and not processed yet.
def taken : WorkLoop R → List R
  | draining _ l => l
  | _            => []

-- The request of the gated call that the work loop is in.
def gated? : WorkLoop R → Option R
  | idle         => none
  | entered c    => c.gated?
  | draining c _ => c.gated?
  | returned r   => some r

end WorkLoop

namespace RequestQueue

-- No request is lost, doubled or overtaken.
structure Conserves (as : List (Action R)) (s : RequestQueue R) : Prop where
  submitted : submitted as = processed as ++ s.workLoop.taken ++ s.requestQueue
  blocked   : blocked as = processedGated as ++ s.workLoop.gated?.toList

namespace Conserves

theorem init : Conserves [] (init : RequestQueue R) where
  submitted := rfl
  blocked   := rfl

theorem step (c : Conserves as s) (h : Step s a s') : Conserves (as ++ [a]) s' := by
  have ⟨hs, hb⟩ := c
  constructor
  case submitted =>
    rw [submitted_concat, processed_concat, hs]
    cases h
    all_goals simp [Action.submitted?, Action.processed?, WorkLoop.taken]
  case blocked =>
    rw [blocked_concat, processedGated_concat, hb]
    cases h
    all_goals simp [Action.blocked?, Action.processedGated?, WorkLoop.gated?, Caller.gated?]

theorem run (h : Run Step .init as s) : Conserves as s :=
  h.history (t := []) step init

end Conserves

-- The requests `q` will all be processed before the work loop is through with the call that it is in.
inductive Covers (q : List R) (as : List (Action R)) : WorkLoop R → Prop
  | idle     : q <+: processed as → Covers q as .idle
  | entered  : Covers q as (.entered c)
  | draining : q <+: processed as ++ l → Covers q as (.draining c l)
  | returned : q <+: processed as → Covers q as (.returned r)

namespace Covers

variable {q : List R} {w : WorkLoop R}

theorem step (c : Conserves as s) (hq : q <+: submitted as) (h : Covers q as s.workLoop)
    (hs : Step s a s') : Covers q (as ++ [a]) s'.workLoop := by
  have hp : processed as <+: processed (as ++ [a]) := processed_concat ▸ List.prefix_append _ _
  cases hs
  case submitRequest =>
    cases h
    case idle h     => exact .idle (h.trans hp)
    case entered    => exact .entered
    case draining h => exact .draining (by simpa [processed_concat, Action.processed?] using h)
    case returned h => exact .returned (h.trans hp)
  case enter => exact .entered
  case transfer =>
    -- All that has been submitted is processed or in the local queue now.
    have := c.submitted
    apply Covers.draining
    simpa [processed_concat, Action.processed?, WorkLoop.taken, this] using hq
  case processRequest =>
    cases h
    case draining h => exact .draining (by simpa [processed_concat, Action.processed?] using h)
  case leave =>
    cases h
    case draining h => exact .idle (by simpa [processed_concat, Action.processed?] using h)
  case leaveGated =>
    cases h
    case draining h => exact .returned (by simpa [processed_concat, Action.processed?] using h)
  case processRequestGated =>
    cases h
    case returned h => exact .idle (h.trans hp)

-- A call covers whatever was submitted before it began.
theorem run {pre mid : List (Action R)} {c : Caller R}
    (h : Run Step .init (pre ++ .enter c :: mid) s) :
    Covers (submitted pre) (pre ++ .enter c :: mid) s.workLoop := by
  have ⟨s₁, h₁, h⟩ := h.split
  have ⟨s₂, he, h₂⟩ := h.step_of_cons
  have hc := (Conserves.run h₁).step he
  have hw : Covers (submitted pre) (pre ++ [.enter c]) s₂.workLoop := by
    cases he
    exact .entered
  have hq : submitted pre <+: submitted (pre ++ [.enter c]) :=
    submitted_concat ▸ List.prefix_append _ _
  have := h₂.history (t := pre ++ [.enter c])
    (I := fun t s => Conserves t s ∧ submitted pre <+: submitted t ∧
      Covers (submitted pre) t s.workLoop)
    (fun ⟨hc, hq, hw⟩ hs =>
      ⟨hc.step hs, submitted_concat ▸ hq.trans (List.prefix_append _ _), hw.step hc hq hs⟩)
    ⟨hc, hq, hw⟩
  simpa using this.right.right

end Covers

theorem requestQueue_nil (h : Run Step s as s') (ha : submitted as = []) (hs : s.requestQueue = []) :
    s'.requestQueue = [] := by
  induction h
  case nil => exact hs
  case snoc h hi =>
    simp only [submitted_concat, List.append_eq_nil_iff] at ha
    have hi := hi ha.left
    cases h
    case submitRequest => simp [Action.submitted?] at ha
    case transfer      => simp
    all_goals exact hi

-- Over every run, the asynchronous requests are processed in the order in which they were submitted,
-- each of them once; so are the blocking ones, and a blocking request only after whatever had been
-- submitted when its call began. A run of the queue leaves nothing behind, unless something was
-- submitted since it emptied the queue.
theorem run_fifo {as : List (Action R)} {s : RequestQueue R} (h : Run Step .init as s) :
    processed as <+: submitted as ∧
    processedGated as <+: blocked as ∧
    (∀ pre c mid r post, as = pre ++ .enter c :: mid ++ .processRequestGated r :: post →
      submitted pre <+: processed (pre ++ .enter c :: mid)) ∧
    (∀ pre mid post, as = pre ++ .transfer :: mid ++ .leave :: post → submitted mid = [] →
      processed (pre ++ .transfer :: mid) = submitted (pre ++ .transfer :: mid)) := by
  have ⟨hs, hb⟩ := Conserves.run h
  refine ⟨⟨_, by rw [hs, List.append_assoc]⟩, ⟨_, hb.symm⟩, ?blocking, ?complete⟩
  case blocking =>
    rintro pre c mid r post rfl
    have ⟨s₁, h₁, h₂⟩ := h.split
    have ⟨_, hp, _⟩ := h₂.step_of_cons
    have hc := Covers.run h₁
    cases hp
    cases hc
    case returned h => exact h
  case complete =>
    rintro pre mid post rfl hm
    have ⟨s₂, h₂, hl⟩ := h.split
    have ⟨_, hl, _⟩ := hl.step_of_cons
    have ⟨s₁, h₁, hm'⟩ := h₂.split
    have ⟨_, ht, hm'⟩ := hm'.step_of_cons
    have hq := requestQueue_nil hm' hm (by cases ht; simp)
    have hc := (Conserves.run h₂).submitted
    rw [hq, List.append_nil] at hc
    cases hl
    all_goals simpa [WorkLoop.taken] using hc.symm

-- A request that is submitted while the queue is drained waits for the next run.
theorem run_fifo_late :
    processed [.submitRequest 1, .enter .interruptSource, .transfer, .submitRequest 2,
      .processRequest 1, .leave] <+:
    submitted [.submitRequest 1, .enter .interruptSource, .transfer, .submitRequest 2,
      .processRequest 1, .leave] :=
  (run_fifo (s := ⟨[2], .idle⟩) <|
    .cons .submitRequest <| .cons .enter <| .cons .transfer <| .cons .submitRequest <|
    .cons .processRequest <| .cons .leave .nil).left

end RequestQueue
end Controller
