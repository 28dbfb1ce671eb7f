import VoodooPS2.Machine.Steps

namespace Controller

variable (R : Type*)

-- Who runs `processRequestQueue`: the interrupt source of the queue, or a gated call that has brought a
-- request of its own.
inductive Caller
  | interruptSource
  | submitRequestAndBlockGated (request : R)

variable {R} in
def Caller.gated? : Caller R → Option R
  | interruptSource              => none
  | submitRequestAndBlockGated r => some r

-- The work loop is a single thread, so it is at one place at a time.
inductive WorkLoop
  | idle
  -- `processRequestQueue` has been entered, but has not taken the lock yet.
  | entered (caller : Caller R)
  -- `processRequestQueue` is in its loop.
  | draining (caller : Caller R) (localQueue : List R)
  -- `processRequestQueue` has returned to `submitRequestAndBlockGated`.
  | returned (request : R)

structure RequestQueue where
  requestQueue : List R
  workLoop     : WorkLoop R

inductive Action
  | submitRequest (request : R)
  | enter (caller : Caller R)
  | transfer
  | processRequest (request : R)
  | leave
  | processRequestGated (request : R)

variable {R}

namespace RequestQueue

def init : RequestQueue R where
  requestQueue := []
  workLoop     := .idle

-- The part of `processRequestQueue` that holds the lock: what remains in the queue, and the local
-- queue.
def transfer (requestQueue : List R) : List R × List R :=
  if requestQueue.isEmpty then (requestQueue, []) else ([], requestQueue)

@[simp]
theorem transfer_eq (q : List R) : transfer q = ([], q) := by
  cases q <;> rfl

-- Threads submit requests at any time, and so do the completion routines that `processRequest` calls.
-- The request queue's interrupt source may fire whenever the work loop is idle.
inductive Step : RequestQueue R → Action R → RequestQueue R → Prop
  | submitRequest : Step ⟨q, w⟩ (.submitRequest r) ⟨q ++ [r], w⟩
  | enter         : Step ⟨q, .idle⟩ (.enter c) ⟨q, .entered c⟩
  | transfer      : Step ⟨q, .entered c⟩ .transfer ⟨(transfer q).1, .draining c (transfer q).2⟩
  | processRequest :
    Step ⟨q, .draining c (r :: l)⟩ (.processRequest r) ⟨q, .draining c l⟩
  | leave :
    Step ⟨q, .draining .interruptSource []⟩ .leave ⟨q, .idle⟩
  | leaveGated :
    Step ⟨q, .draining (.submitRequestAndBlockGated r) []⟩ .leave ⟨q, .returned r⟩
  | processRequestGated :
    Step ⟨q, .returned r⟩ (.processRequestGated r) ⟨q, .idle⟩

end RequestQueue

namespace Action

def submitted? : Action R → Option R
  | submitRequest r => some r
  | _               => none

def processed? : Action R → Option R
  | processRequest r => some r
  | _                => none

def blocked? : Action R → Option R
  | enter c => c.gated?
  | _       => none

def processedGated? : Action R → Option R
  | processRequestGated r => some r
  | _                     => none

end Action

-- The asynchronous requests that were submitted, and those that were given to `processRequest`.
def submitted (as : List (Action R)) : List R :=
  as.filterMap Action.submitted?

def processed (as : List (Action R)) : List R :=
  as.filterMap Action.processed?

-- The requests of the calls of `submitRequestAndBlockGated` that began, and those of them that were
-- given to `processRequest`.
def blocked (as : List (Action R)) : List R :=
  as.filterMap Action.blocked?

def processedGated (as : List (Action R)) : List R :=
  as.filterMap Action.processedGated?

end Controller
