import Mathlib.Data.Finset.Card

/-!
# The `global_pause` coordinator (`pre_suspending_sc_support.cc`)

`gs::global_pause` is the process-wide object through which SystemC processes ask the kernel
to suspend (`suspend_all`), forbid suspension while they work (`unsuspendable`), and through
which channels fed by foreign threads register as pending work (`attach_suspending`). This
module embeds its members and its synchronous operations; the sleeper method and the
cross-thread `async_wakeup` are in `QBox.GlobalPause.Sleeper`.

- `GlobalPause P C W`: the members the operations read and write. `P` is the type of process
  handles (`sc_process_b*`); a caller is an `Option P`, `none` being the null handle that
  `sc_get_current_process_handle()` returns outside any process. `C` is the type of channel
  handles, `none : Option C` the null pointer. `W` is the type of `wakeups`: its declaration is
  in the header `pre_suspending_sc_support.h`, which is not among the sources, so it stays a
  parameter (instantiated to `Nat` or to `BitVec w` by the theorems that need one). The
  counters `m_suspend` and `m_unsuspendable`, declared in the same header, are taken as
  unbounded `Nat`: a wrap-around of either is outside the model.
- `std::map<sc_process_b*, bool>` is a total function `P → Bool`: `operator[]` reads `false` at
  an absent key, and the default entry it inserts is indistinguishable from an absent one.
- `assert` is `Option`: `none` is the abort.
-/

namespace QBox

/-- The members of `gs::global_pause` read or written by its operations. -/
structure GlobalPause (P C W : Type) where
  /-- Outstanding `suspend_all` requests, as an unbounded count. -/
  mSuspend : Nat
  /-- Outstanding `unsuspendable` regions, as an unbounded count. -/
  mUnsuspendable : Nat
  mSuspendAllReqMap : P → Bool
  mUnsuspendableMap : P → Bool
  /-- The `std::vector` of attached channels, in vector order. -/
  mSuspendingChannels : List C
  mHasSuspendingChannels : Bool
  /-- Asynchronous notifications not yet consumed by the sleeper's wait. -/
  wakeups : W
  /-- `sleeper_event` holds a pending notification. -/
  sleeperEvent : Bool

namespace GlobalPause

variable {P C W : Type}

/-- The coordinator as constructed (lines 196–212): zero counters, empty maps and vector, and
no notification of `sleeper_event`, since the sleeper is spawned with `dont_initialize`. -/
def init [OfNat W 0] : GlobalPause P C W where
  mSuspend := 0
  mUnsuspendable := 0
  mSuspendAllReqMap := fun _ => false
  mUnsuspendableMap := fun _ => false
  mSuspendingChannels := []
  mHasSuspendingChannels := false
  wakeups := 0
  sleeperEvent := false

/-! ## Process-side operations (lines 69–155) -/

section Process

variable [DecidableEq P]

/-- `global_pause::suspend_all` (lines 134–155). A process that already holds a request
returns early; a call from outside any process is counted without an owner. -/
def suspendAll (g : GlobalPause P C W) : Option P → Option (GlobalPause P C W)
  | none => some { g with mSuspend := g.mSuspend + 1, sleeperEvent := true }
  | some p =>
    if g.mSuspendAllReqMap p then some g
    else some { g with
      mSuspendAllReqMap := Function.update g.mSuspendAllReqMap p true
      mSuspend := g.mSuspend + 1
      sleeperEvent := true }

/-- `global_pause::unsuspend_all` (lines 111–132). A process without a request returns early;
a call from outside any process decrements the shared count, behind `assert(m_suspend > 0)`. -/
def unsuspendAll (g : GlobalPause P C W) : Option P → Option (GlobalPause P C W)
  | none => if g.mSuspend = 0 then none else some { g with mSuspend := g.mSuspend - 1 }
  | some p =>
    if g.mSuspendAllReqMap p then
      if g.mSuspend = 0 then none
      else some { g with
        mSuspendAllReqMap := Function.update g.mSuspendAllReqMap p false
        mSuspend := g.mSuspend - 1 }
    else some g

/-- `global_pause::unsuspendable` (lines 91–109), behind `assert(process_p)`. -/
def unsuspendable (g : GlobalPause P C W) : Option P → Option (GlobalPause P C W)
  | none => none
  | some p =>
    if g.mUnsuspendableMap p then some g
    else some { g with
      mUnsuspendableMap := Function.update g.mUnsuspendableMap p true
      mUnsuspendable := g.mUnsuspendable + 1 }

/-- `global_pause::suspendable` (lines 69–89), behind `assert(process_p)` and
`assert(m_unsuspendable)`; it notifies `sleeper_event` whether or not the flag was set. -/
def suspendable (g : GlobalPause P C W) : Option P → Option (GlobalPause P C W)
  | none => none
  | some p =>
    if g.mUnsuspendableMap p then
      if g.mUnsuspendable = 0 then none
      else some { g with
        mUnsuspendableMap := Function.update g.mUnsuspendableMap p false
        mUnsuspendable := g.mUnsuspendable - 1
        sleeperEvent := true }
    else some { g with sleeperEvent := true }

/-- The process-side entry points `sc_core::sc_suspend_all`, `sc_unsuspend_all`,
`sc_suspendable` and `sc_unsuspendable` (lines 216–222). -/
inductive Call
  | suspendAll
  | unsuspendAll
  | suspendable
  | unsuspendable
  deriving DecidableEq, Repr

/-- One entry point called by `process_p`. -/
def call (g : GlobalPause P C W) (process_p : Option P) : Call → Option (GlobalPause P C W)
  | .suspendAll => g.suspendAll process_p
  | .unsuspendAll => g.unsuspendAll process_p
  | .suspendable => g.suspendable process_p
  | .unsuspendable => g.unsuspendable process_p

/-- A sequence of entry-point calls, each by its caller; `none` once an assertion fails. -/
def runCalls (g : GlobalPause P C W) (calls : List (Option P × Call)) :
    Option (GlobalPause P C W) :=
  calls.foldlM (fun g c => g.call c.1 c.2) g

@[simp] theorem runCalls_nil (g : GlobalPause P C W) : g.runCalls [] = some g := rfl

@[simp] theorem runCalls_cons (g : GlobalPause P C W) (c : Option P × Call)
    (cs : List (Option P × Call)) :
    g.runCalls (c :: cs) = (g.call c.1 c.2).bind (runCalls · cs) := rfl

/-- The entry points leave `wakeups` alone. -/
theorem call_wakeups {g g' : GlobalPause P C W} {q : Option P} {c : Call}
    (h : g.call q c = some g') : g'.wakeups = g.wakeups := by
  cases c <;> cases q <;> simp only [call, suspendAll, unsuspendAll, suspendable, unsuspendable] at h
    <;> (try split_ifs at h) <;> cases h <;> rfl

/-- After a call that leaves a request outstanding, `sleeper_event` is notified, unless the
call kept both the requests and the notification it found. -/
theorem call_sleeperEvent {g g' : GlobalPause P C W} {q : Option P} {c : Call}
    (h : g.call q c = some g') (hs : 0 < g'.mSuspend) :
    g'.sleeperEvent = true ∨ (0 < g.mSuspend ∧ g'.sleeperEvent = g.sleeperEvent) := by
  cases c <;> cases q <;> simp only [call, suspendAll, unsuspendAll, suspendable, unsuspendable] at h
    <;> (try split_ifs at h) <;> cases h <;> simp_all <;> omega

end Process

/-! ## The channel registry (lines 157–184) -/

section Registry

variable [DecidableEq C]

/-- `*it = m_suspending_channels.back(); m_suspending_channels.pop_back();`: overwrite
position `i` with the last handle, then drop the last slot. -/
def swapPop (v : List C) (i : Nat) : List C :=
  match v.getLast? with
  | none => v
  | some back => (v.set i back).dropLast

/-- `global_pause::attach_suspending` (lines 157–169), behind `assert(p)`: `std::find` reaches
the end iterator, index `length`, exactly when the handle is absent. -/
def attachSuspending (g : GlobalPause P C W) : Option C → Option (Bool × GlobalPause P C W)
  | none => none
  | some p =>
    if g.mSuspendingChannels.indexOf p = g.mSuspendingChannels.length then
      some (true, { g with
        mSuspendingChannels := g.mSuspendingChannels ++ [p]
        mHasSuspendingChannels := true })
    else some (false, g)

/-- `global_pause::detach_suspending` (lines 171–184), behind `assert(p)`. -/
def detachSuspending (g : GlobalPause P C W) : Option C → Option (Bool × GlobalPause P C W)
  | none => none
  | some p =>
    let it := g.mSuspendingChannels.indexOf p
    if it ≠ g.mSuspendingChannels.length then
      let v := swapPop g.mSuspendingChannels it
      some (true, { g with
        mSuspendingChannels := v
        mHasSuspendingChannels := decide (v.length > 0) })
    else some (false, g)

theorem attachSuspending_frame {g g' : GlobalPause P C W} {p : Option C} {b : Bool}
    (h : g.attachSuspending p = some (b, g')) :
    g'.wakeups = g.wakeups ∧ g'.mSuspend = g.mSuspend ∧ g'.sleeperEvent = g.sleeperEvent := by
  cases p <;> simp only [attachSuspending] at h <;> (try split_ifs at h) <;> cases h <;>
    exact ⟨rfl, rfl, rfl⟩

theorem detachSuspending_frame {g g' : GlobalPause P C W} {p : Option C} {b : Bool}
    (h : g.detachSuspending p = some (b, g')) :
    g'.wakeups = g.wakeups ∧ g'.mSuspend = g.mSuspend ∧ g'.sleeperEvent = g.sleeperEvent := by
  cases p <;> simp only [detachSuspending] at h <;> (try split_ifs at h) <;> cases h <;>
    exact ⟨rfl, rfl, rfl⟩

/-- `sc_core::async_attach_suspending` (line 228). The body calls `attach_suspending` and ends
without a `return` statement: the `none` it returns stands for the value that is never
produced. -/
def asyncAttachSuspending (p : Option C) (g : GlobalPause P C W) :
    Option (Option Bool × GlobalPause P C W) :=
  (g.attachSuspending p).map fun r => (none, r.2)

/-- `sc_core::async_detach_suspending` (line 229), likewise without a `return` statement. -/
def asyncDetachSuspending (p : Option C) (g : GlobalPause P C W) :
    Option (Option Bool × GlobalPause P C W) :=
  (g.detachSuspending p).map fun r => (none, r.2)

end Registry

end GlobalPause

end QBox
