import QBox.GlobalPause.Counters
import QBox.GlobalPause.Sleeper

/-!
# When the scheduler thread is suspended

The simulation is suspended while the scheduler thread is blocked in the sleeper's
`cond.wait`. The sleeper blocks only after its predicate fails, which needs `m_suspend != 0`
and `m_unsuspendable == 0`; and while the sleeper runs, no process runs, so neither count can
change before it wakes. This module proves, over every interleaving of the machine of
`QBox.GlobalPause.Sleeper` (entry points called by any caller, attach and detach from any
thread, `async_wakeup`, and every answer of the kernel):

- `step_counters`: only the process-side entry points change the counters and the unsuspendable
  map, and they run only while the sleeper does not.
- `step_blocked`: the sleeper becomes blocked only by a failed check of its predicate.
- `blocked_only_on_suspend_request`: a blocked scheduler thread has an outstanding
  `suspend_all` request and no open unsuspendable region. Suspending channels alone never
  block it: with `m_suspend == 0` the predicate holds at once.
- `unsuspendable_region_never_suspended`: in every reachable state `m_unsuspendable` is the
  number of processes inside an unsuspendable region, whoever the callers were, and the
  scheduler thread is never blocked while one of them is inside.
-/

namespace QBox

namespace GlobalPause

variable {P C W : Type}

/-! ## What each step does to the counters -/

section Frames

variable [DecidableEq C] {g g' : GlobalPause P C W} {p : Option C} {b : Bool}

/-- Attaching a channel changes the registry only. -/
theorem attachSuspending_counters (h : g.attachSuspending p = some (b, g')) :
    g'.mSuspend = g.mSuspend ∧ g'.mUnsuspendable = g.mUnsuspendable ∧
      g'.mUnsuspendableMap = g.mUnsuspendableMap := by
  cases p <;> simp only [attachSuspending] at h <;> (try split_ifs at h) <;> cases h <;>
    exact ⟨rfl, rfl, rfl⟩

/-- Detaching a channel changes the registry only. -/
theorem detachSuspending_counters (h : g.detachSuspending p = some (b, g')) :
    g'.mSuspend = g.mSuspend ∧ g'.mUnsuspendable = g.mUnsuspendable ∧
      g'.mUnsuspendableMap = g.mUnsuspendableMap := by
  cases p <;> simp only [detachSuspending] at h <;> (try split_ifs at h) <;> cases h <;>
    exact ⟨rfl, rfl, rfl⟩

end Frames

variable [DecidableEq P] [DecidableEq C] [Add W] [Sub W] [OfNat W 0] [OfNat W 1] [DecidableEq W]
  {s s' : System P C W} {e : Event P C}

omit [DecidableEq P] [DecidableEq C] [Add W] in
/-- The sleeper's wait return changes `wakeups` and `sleeper_event` only. -/
theorem wakeupReturn_counters (g : GlobalPause P C W) :
    (wakeupReturn g).mSuspend = g.mSuspend ∧ (wakeupReturn g).mUnsuspendable = g.mUnsuspendable ∧
      (wakeupReturn g).mUnsuspendableMap = g.mUnsuspendableMap := by
  unfold wakeupReturn; dsimp only; split_ifs <;> exact ⟨rfl, rfl, rfl⟩

/-- **Only the entry points move the counters**, and they run only while the sleeper does not;
every other step keeps `m_suspend`, `m_unsuspendable` and the unsuspendable map. -/
theorem step_counters (h : step s e = some s') :
    (∃ q c, e = .call q c ∧ s.gp.call q c = some s'.gp ∧ s'.pc = .idle) ∨
      (s'.gp.mSuspend = s.gp.mSuspend ∧ s'.gp.mUnsuspendable = s.gp.mUnsuspendable ∧
        s'.gp.mUnsuspendableMap = s.gp.mUnsuspendableMap) := by
  cases e with
  | call q c =>
    simp only [step] at h
    split_ifs at h
    obtain ⟨g', hg', rfl⟩ := Option.map_eq_some'.1 h
    exact .inl ⟨q, c, rfl, hg', rfl⟩
  | attach p =>
    obtain ⟨⟨b, g'⟩, hg', rfl⟩ := Option.map_eq_some'.1 h
    exact .inr (attachSuspending_counters hg')
  | detach p =>
    obtain ⟨⟨b, g'⟩, hg', rfl⟩ := Option.map_eq_some'.1 h
    exact .inr (detachSuspending_counters hg')
  | fire pa pc =>
    simp only [step] at h
    split_ifs at h
    cases h
    rcases sleeper_cases { s.gp with sleeperEvent := false } pa pc with ⟨h, -⟩ | h | h <;>
      rw [h] <;> exact .inr ⟨rfl, rfl, rfl⟩
  | finish d =>
    simp only [step] at h
    split_ifs at h
    cases h
    exact .inr (wakeupReturn_counters _)
  | _ => simp only [step] at h; split_ifs at h <;> cases h <;> exact .inr ⟨rfl, rfl, rfl⟩

/-- **The sleeper blocks only on a failed predicate**: a step into `blocked` is a check of the
predicate that failed, or leaves an already blocked sleeper blocked. -/
theorem step_blocked (h : step s e = some s') (hb : s'.pc = .blocked) :
    s.pc = .blocked ∨ ∃ z, e = .check z ∧ waitPredicate s.gp z = false := by
  cases e with
  | call q c =>
    simp only [step] at h
    split_ifs at h
    obtain ⟨g', -, rfl⟩ := Option.map_eq_some'.1 h
    cases hb
  | attach p => obtain ⟨_, -, rfl⟩ := Option.map_eq_some'.1 h; exact .inl hb
  | detach p => obtain ⟨_, -, rfl⟩ := Option.map_eq_some'.1 h; exact .inl hb
  | asyncWakeup =>
    simp only [step] at h
    split_ifs at h with hm hbl <;> cases h
    · cases hb
    · exact .inl hb
  | fire pa pc =>
    simp only [step] at h
    split_ifs at h
    cases h
    rcases sleeper_cases { s.gp with sleeperEvent := false } pa pc with ⟨h, -⟩ | h | h <;>
      rw [h] at hb <;> cases hb
  | check z =>
    simp only [step] at h
    split_ifs at h with _ hp <;> cases h
    · cases hb
    · exact .inr ⟨z, rfl, Bool.eq_false_iff.2 hp⟩
  | _ => simp only [step] at h; split_ifs at h; cases h; cases hb

/-! ## Runs -/

/-- A blocked scheduler thread has an outstanding request and no open unsuspendable region. -/
def BlockedSuspended (s : System P C W) : Prop :=
  s.pc = .blocked → 0 < s.gp.mSuspend ∧ s.gp.mUnsuspendable = 0

theorem step_blockedSuspended (hs : BlockedSuspended s) (h : step s e = some s') :
    BlockedSuspended s' := by
  intro hb
  rcases step_counters h with ⟨q, c, -, -, hpc⟩ | ⟨h1, h2, -⟩
  · rw [hpc] at hb; cases hb
  · rw [h1, h2]
    rcases step_blocked h hb with hpb | ⟨z, -, hp⟩
    · exact hs hpb
    · simp only [waitPredicate, Bool.or_eq_false_iff, decide_eq_false_iff_not] at hp
      omega

/-- **The simulation is suspended only on request.** In every reachable state in which the
scheduler thread is blocked in the sleeper's wait, a `suspend_all` request is outstanding and no
process is inside an unsuspendable region, whatever channels are attached. -/
theorem blocked_only_on_suspend_request (es : List (Event P C)) {s : System P C W}
    (h : run System.init es = some s) (hb : s.pc = .blocked) :
    0 < s.gp.mSuspend ∧ s.gp.mUnsuspendable = 0 :=
  run_invariant BlockedSuspended (fun _ _ _ => step_blockedSuspended) es (s := System.init)
    (by intro h; cases h) h hb

/-- A process requests suspension and the idle sleeper blocks: the run the theorem is about. -/
theorem suspend_request_blocks_sample :
    ∃ s : System Nat Nat Nat,
      run System.init [.call (some 0) .suspendAll, .fire false false, .check false] = some s ∧
        s.pc = .blocked ∧ 0 < s.gp.mSuspend ∧ s.gp.mUnsuspendable = 0 :=
  ⟨_, rfl, rfl,
    blocked_only_on_suspend_request [.call (some 0) .suspendAll, .fire false false, .check false]
      rfl rfl⟩

/-- `m_unsuspendable` counts the set flags of its map. -/
def UnsuspendableCounted (s : System P C W) : Prop :=
  NumTrue s.gp.mUnsuspendableMap s.gp.mUnsuspendable

theorem step_unsuspendableCounted (hs : UnsuspendableCounted s) (h : step s e = some s') :
    UnsuspendableCounted s' := by
  rcases step_counters h with ⟨q, c, -, hc, -⟩ | ⟨-, h2, h3⟩
  · exact call_unsuspendable_match hs hc
  · rw [UnsuspendableCounted, h2, h3]
    exact hs

/-- **An unsuspendable region is never suspended.** In every reachable state, with calls made
from any process or from outside every process, `m_unsuspendable` is the number of processes
whose flag is set (the entry points abort rather than count a call without a process), and the
scheduler thread is not blocked while any of them is inside its region. -/
theorem unsuspendable_region_never_suspended (es : List (Event P C)) {s : System P C W}
    (h : run System.init es = some s) :
    NumTrue s.gp.mUnsuspendableMap s.gp.mUnsuspendable ∧
      ∀ p, s.gp.mUnsuspendableMap p = true → s.pc ≠ .blocked := by
  have hn : UnsuspendableCounted s :=
    run_invariant _ (fun _ _ _ => step_unsuspendableCounted) es (s := System.init)
      numTrue_const_false h
  refine ⟨hn, fun p hp hb => ?_⟩
  have hz := (run_invariant BlockedSuspended (fun _ _ _ => step_blockedSuspended) es
    (s := System.init) (by intro h; cases h) h hb).2
  exact absurd hz (Nat.pos_iff_ne_zero.1 (hn.pos hp))

/-- A process opens an unsuspendable region, another requests suspension: the scheduler thread is
not blocked. -/
theorem unsuspendable_region_sample :
    ∃ s : System Nat Nat Nat,
      run System.init [.call (some 0) .unsuspendable, .call (some 1) .suspendAll] = some s ∧
        s.gp.mUnsuspendableMap 0 = true ∧ s.pc ≠ .blocked :=
  ⟨_, rfl, rfl,
    (unsuspendable_region_never_suspended [.call (some 0) .unsuspendable, .call (some 1) .suspendAll]
      rfl).2 0 rfl⟩

end GlobalPause

end QBox
