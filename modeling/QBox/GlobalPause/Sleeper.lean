import QBox.GlobalPause.Coordinator

/-!
# The sleeper and `async_wakeup` as a step machine

The coordinator's sleeper is a SystemC method process sensitive to `sleeper_event`. When the
kernel runs it, it either returns (re-notifying `sleeper_event` or not), or takes `mutex` and
waits on `cond` until its predicate holds; `async_wakeup`, called from any thread, takes the
same mutex, counts a wakeup and calls `cond.notify_all()`. This module puts the coordinator,
the kernel's notification of the sleeper and the scheduler thread's place in the wait into one
state, with one step per thing that can happen next.

- `SleeperPc`: where the scheduler thread is in the sleeper's wait (lines 51–66); `mutex` is
  held by the sleeper exactly at `locked` and `returned`, since `async_wakeup` holds it only
  inside one step.
- `Event`: the process-side entry points (only while the sleeper is not running: the scheduler
  thread runs one process at a time), `attach_suspending`/`detach_suspending` (any time: they
  take no lock), `async_wakeup` (whenever the sleeper does not hold `mutex`), and the sleeper's
  own steps. The kernel's answers to `sc_pending_activity()`,
  `sc_pending_activity_at_current_time()` and `sc_time_to_pending_activity() == SC_ZERO_TIME`
  are carried by the events, so every answer is covered.
- `step`, `run`: one event, a sequence of events; `none` when an event cannot happen in that
  state or an assertion fails.
- `run_invariant`: an invariant that holds initially and is kept by every step holds in every
  reachable state; every result about the machine is proved through it.
-/

namespace QBox

namespace GlobalPause

/-- Where the scheduler thread is in the sleeper's wait. -/
inductive SleeperPc
  /-- The sleeper is not running: the kernel runs processes. -/
  | idle
  /-- The sleeper holds `mutex` and is about to evaluate its wait predicate. -/
  | locked
  /-- Inside `cond.wait`, with `mutex` released. -/
  | blocked
  /-- Woken by `notify_all` or spuriously, about to re-take `mutex`. -/
  | woken
  /-- The predicate held: `cond.wait` has returned, `mutex` held. -/
  | returned
  deriving DecidableEq, Repr

/-- The sleeper holds `mutex`. -/
def SleeperPc.holdsMutex : SleeperPc → Bool
  | .locked | .returned => true
  | _ => false

/-- The coordinator and the scheduler thread's place in the sleeper. -/
structure System (P C W : Type) where
  gp : GlobalPause P C W
  pc : SleeperPc

/-- What can happen next. -/
inductive Event (P C : Type)
  /-- A process (or code outside any process) calls an entry point. -/
  | call (process_p : Option P) (c : Call)
  | attach (p : Option C)
  | detach (p : Option C)
  | asyncWakeup
  /-- The kernel runs the sleeper on a notification of `sleeper_event`, with its answers to
  `sc_pending_activity()` and `sc_pending_activity_at_current_time()`. -/
  | fire (pendingActivity pendingActivityAtCurrentTime : Bool)
  /-- The sleeper evaluates its wait predicate; `zeroTime` is the kernel's answer to
  `sc_time_to_pending_activity() == SC_ZERO_TIME`. -/
  | check (zeroTime : Bool)
  | spuriousWake
  | reacquire
  /-- The sleeper leaves the wait; `decremented` records the branch of `if (wakeups)`. -/
  | finish (decremented : Bool)
  deriving DecidableEq

variable {P C W : Type} [DecidableEq P] [DecidableEq C]
  [Add W] [Sub W] [OfNat W 0] [OfNat W 1] [DecidableEq W]

/-- `global_pause::sleeper` up to its wait (lines 25–51): return at once when no suspension
policy is active, re-notify `sleeper_event` while visible activity must drain, otherwise take
`mutex`. -/
def sleeper (g : GlobalPause P C W) (pendingActivity pendingActivityAtCurrentTime : Bool) :
    System P C W :=
  if g.mHasSuspendingChannels = false ∧ g.mSuspend = 0 then ⟨g, .idle⟩
  else if 0 < g.mSuspend ∧ 0 < g.mUnsuspendable ∧ pendingActivity = true then
    ⟨{ g with sleeperEvent := true }, .idle⟩
  else if g.mSuspend = 0 ∧ g.mHasSuspendingChannels = true ∧ pendingActivity = true then
    ⟨{ g with sleeperEvent := true }, .idle⟩
  else if pendingActivityAtCurrentTime = true then ⟨{ g with sleeperEvent := true }, .idle⟩
  else ⟨g, .locked⟩

/-- The predicate of `cond.wait` (lines 52–55); `wakeups > 0` on an unsigned count is
`wakeups ≠ 0`. -/
def waitPredicate (g : GlobalPause P C W) (zeroTime : Bool) : Bool :=
  decide (g.wakeups ≠ 0) || zeroTime || decide (g.mSuspend = 0) || decide (0 < g.mUnsuspendable)

/-- The sleeper after `cond.wait` returns (lines 56–66): consume one wakeup if there is one,
and re-notify `sleeper_event` while a suspension policy is active. -/
def wakeupReturn (g : GlobalPause P C W) : GlobalPause P C W :=
  let g := if g.wakeups ≠ 0 then { g with wakeups := g.wakeups - 1 } else g
  if 0 < g.mSuspend ∨ g.mHasSuspendingChannels = true then { g with sleeperEvent := true } else g

/-- `global_pause::async_wakeup` (lines 186–192) on the coordinator's members. -/
def asyncWakeup (g : GlobalPause P C W) : GlobalPause P C W :=
  { g with wakeups := g.wakeups + 1 }

omit [DecidableEq P] [DecidableEq C] [Add W] [Sub W] [OfNat W 0] [OfNat W 1] [DecidableEq W] in
/-- The sleeper either returns at once with no policy active, returns after re-notifying
`sleeper_event`, or goes on to its wait holding `mutex`; it changes nothing else. -/
theorem sleeper_cases (g : GlobalPause P C W) (pa pc : Bool) :
    (sleeper g pa pc = ⟨g, .idle⟩ ∧ g.mHasSuspendingChannels = false ∧ g.mSuspend = 0) ∨
      sleeper g pa pc = ⟨{ g with sleeperEvent := true }, .idle⟩ ∨
      sleeper g pa pc = ⟨g, .locked⟩ := by
  unfold sleeper
  split_ifs with h
  · exact .inl ⟨rfl, h⟩
  all_goals simp

omit [DecidableEq P] [DecidableEq C] [Add W] in
@[simp] theorem wakeupReturn_wakeups (g : GlobalPause P C W) :
    (wakeupReturn g).wakeups = if g.wakeups ≠ 0 then g.wakeups - 1 else g.wakeups := by
  unfold wakeupReturn; dsimp only; split_ifs <;> rfl

omit [DecidableEq P] [DecidableEq C] [Add W] in
@[simp] theorem wakeupReturn_mSuspend (g : GlobalPause P C W) :
    (wakeupReturn g).mSuspend = g.mSuspend := by
  unfold wakeupReturn; dsimp only; split_ifs <;> rfl

omit [DecidableEq P] [DecidableEq C] [Add W] in
theorem wakeupReturn_sleeperEvent {g : GlobalPause P C W} (h : 0 < g.mSuspend) :
    (wakeupReturn g).sleeperEvent = true := by
  unfold wakeupReturn; dsimp only; split_ifs <;> simp_all

/-- One event; `none` when it cannot happen in `s` or an assertion fails. -/
def step (s : System P C W) : Event P C → Option (System P C W)
  | .call q c => if s.pc = .idle then (s.gp.call q c).map (⟨·, .idle⟩) else none
  | .attach p => (s.gp.attachSuspending p).map fun r => ⟨r.2, s.pc⟩
  | .detach p => (s.gp.detachSuspending p).map fun r => ⟨r.2, s.pc⟩
  | .asyncWakeup =>
    if s.pc.holdsMutex then none
    else some ⟨s.gp.asyncWakeup, if s.pc = .blocked then .woken else s.pc⟩
  | .fire pa pc =>
    if s.pc = .idle ∧ s.gp.sleeperEvent = true then
      some (sleeper { s.gp with sleeperEvent := false } pa pc)
    else none
  | .check z =>
    if s.pc = .locked then
      some ⟨s.gp, if waitPredicate s.gp z then .returned else .blocked⟩
    else none
  | .spuriousWake => if s.pc = .blocked then some ⟨s.gp, .woken⟩ else none
  | .reacquire => if s.pc = .woken then some ⟨s.gp, .locked⟩ else none
  | .finish d =>
    if s.pc = .returned ∧ d = decide (s.gp.wakeups ≠ 0) then some ⟨wakeupReturn s.gp, .idle⟩
    else none

/-- The constructed coordinator, with the sleeper not running. -/
def System.init : System P C W := ⟨GlobalPause.init, .idle⟩

/-- A sequence of events. -/
def run (s : System P C W) (es : List (Event P C)) : Option (System P C W) :=
  es.foldlM step s

@[simp] theorem run_nil (s : System P C W) : run s [] = some s := rfl

@[simp] theorem run_cons (s : System P C W) (e : Event P C) (es : List (Event P C)) :
    run s (e :: es) = (step s e).bind (run · es) := rfl

theorem run_append (s : System P C W) (es fs : List (Event P C)) :
    run s (es ++ fs) = (run s es).bind (run · fs) := by
  simp [run, List.foldlM_append]

/-- **Invariants over runs.** A property kept by every step holds after every run. -/
theorem run_invariant (I : System P C W → Prop)
    (hstep : ∀ s e s', I s → step s e = some s' → I s') :
    ∀ (es : List (Event P C)) {s s' : System P C W}, I s → run s es = some s' → I s'
  | [], _, _, hs, h => by cases h; exact hs
  | e :: es, s, s', hs, h => by
    simp only [run_cons, Option.bind_eq_some] at h
    obtain ⟨s₁, h₁, h⟩ := h
    exact run_invariant I hstep es (hstep s e s₁ hs h₁) h

end GlobalPause

end QBox
