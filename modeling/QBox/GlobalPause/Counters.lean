import QBox.GlobalPause.Coordinator
import Mathlib.Algebra.Ring.Int.Defs

/-!
# Request counters and their maps

The coordinator keeps each per-process request twice: as a flag in a map and as one unit of a
counter. This module proves how the two stay in step over every sequence of entry-point calls.

- `NumTrue m n`: `n` is the number of processes whose entry in `m` is `true`.
- `CountersMatch`: both counters equal the number of set flags of their maps.
- `call_suspend_balance`: one call moves `m_suspend` and the number of set request flags
  together, except for a call from outside any process, which moves the counter alone
  (`anon`).
- `counters_match_of_processes`: with every caller a process, `CountersMatch` holds after every
  run and no assertion fails.
- `unowned_release_takes_process_count`: an `unsuspend_all` made outside any process is not a
  no-op: it takes a unit that a process still holds, whose own release then aborts. The run
  keeps every count at most `1`, so it fails whatever the width of `m_suspend`.
-/

namespace QBox

namespace GlobalPause

variable {P C W : Type}

/-! ## Counting set flags -/

/-- `n` is the number of processes `p` with `m p = true`. -/
def NumTrue (m : P → Bool) (n : Nat) : Prop :=
  ∃ S : Finset P, (∀ p, p ∈ S ↔ m p = true) ∧ S.card = n

theorem numTrue_const_false : NumTrue (fun _ : P => false) 0 :=
  ⟨∅, by simp, rfl⟩

theorem NumTrue.update_true [DecidableEq P] {m : P → Bool} {n : Nat} {p : P} (h : NumTrue m n)
    (hp : m p = false) : NumTrue (Function.update m p true) (n + 1) := by
  obtain ⟨S, hS, rfl⟩ := h
  refine ⟨insert p S, fun q => ?_, Finset.card_insert_of_not_mem (by simp [hS, hp])⟩
  rcases eq_or_ne q p with rfl | hq <;> simp [*]

theorem NumTrue.update_false [DecidableEq P] {m : P → Bool} {n : Nat} {p : P} (h : NumTrue m n)
    (hp : m p = true) : NumTrue (Function.update m p false) (n - 1) := by
  obtain ⟨S, hS, rfl⟩ := h
  refine ⟨S.erase p, fun q => ?_, Finset.card_erase_of_mem ((hS p).2 hp)⟩
  rcases eq_or_ne q p with rfl | hq <;> simp [*]

/-- A set flag is counted. -/
theorem NumTrue.pos {m : P → Bool} {n : Nat} {p : P} (h : NumTrue m n) (hp : m p = true) :
    0 < n := by
  obtain ⟨S, hS, rfl⟩ := h
  exact Finset.card_pos.2 ⟨p, (hS p).2 hp⟩

variable [DecidableEq P]

/-! ## One call -/

/-- The spec's invariant on the coordinator: each counter is the number of processes whose flag
is set in the corresponding map. -/
structure CountersMatch (g : GlobalPause P C W) : Prop where
  suspend : NumTrue g.mSuspendAllReqMap g.mSuspend
  unsuspendable : NumTrue g.mUnsuspendableMap g.mUnsuspendable

/-- What a call leaves on `m_suspend` that no process owns: `+1` for `suspend_all` and `-1` for
`unsuspend_all` made outside any process, `0` otherwise. -/
def anon : Option P → Call → Int
  | none, .suspendAll => 1
  | none, .unsuspendAll => -1
  | _, _ => 0

variable {g g' : GlobalPause P C W} {q : Option P} {n : Nat}

theorem suspendAll_balance (hn : NumTrue g.mSuspendAllReqMap n)
    (h : g.suspendAll q = some g') :
    ∃ n', NumTrue g'.mSuspendAllReqMap n' ∧
      (g'.mSuspend : Int) - n' = g.mSuspend - n + anon q .suspendAll := by
  cases q with
  | none => cases h; exact ⟨n, hn, by simp only [anon]; omega⟩
  | some p =>
    simp only [suspendAll] at h
    split at h <;> cases h
    · exact ⟨n, hn, by simp [anon]⟩
    · exact ⟨n + 1, hn.update_true (Bool.eq_false_iff.2 ‹_›), by simp only [anon]; omega⟩

theorem unsuspendAll_balance (hn : NumTrue g.mSuspendAllReqMap n)
    (h : g.unsuspendAll q = some g') :
    ∃ n', NumTrue g'.mSuspendAllReqMap n' ∧
      (g'.mSuspend : Int) - n' = g.mSuspend - n + anon q .unsuspendAll := by
  cases q with
  | none =>
    simp only [unsuspendAll] at h
    split at h <;> cases h
    exact ⟨n, hn, by simp only [anon]; omega⟩
  | some p =>
    simp only [unsuspendAll] at h
    split at h
    · split at h <;> cases h
      have := hn.pos ‹_›
      exact ⟨n - 1, hn.update_false ‹_›, by simp only [anon]; omega⟩
    · cases h; exact ⟨n, hn, by simp [anon]⟩

theorem suspendable_suspend_frame (h : g.suspendable q = some g') :
    g'.mSuspend = g.mSuspend ∧ g'.mSuspendAllReqMap = g.mSuspendAllReqMap := by
  cases q <;> simp only [suspendable] at h
  · cases h
  · split at h <;> (try split at h) <;> cases h <;> exact ⟨rfl, rfl⟩

theorem unsuspendable_suspend_frame (h : g.unsuspendable q = some g') :
    g'.mSuspend = g.mSuspend ∧ g'.mSuspendAllReqMap = g.mSuspendAllReqMap := by
  cases q <;> simp only [unsuspendable] at h
  · cases h
  · split at h <;> cases h <;> exact ⟨rfl, rfl⟩

/-- **One call keeps `m_suspend` minus the number of set request flags**, up to `anon`. -/
theorem call_suspend_balance {c : Call} (hn : NumTrue g.mSuspendAllReqMap n)
    (h : g.call q c = some g') :
    ∃ n', NumTrue g'.mSuspendAllReqMap n' ∧
      (g'.mSuspend : Int) - n' = g.mSuspend - n + anon q c := by
  cases c with
  | suspendAll => exact suspendAll_balance hn h
  | unsuspendAll => exact unsuspendAll_balance hn h
  | suspendable =>
    obtain ⟨h1, h2⟩ := suspendable_suspend_frame h
    exact ⟨n, h2 ▸ hn, by simp [anon, h1]⟩
  | unsuspendable =>
    obtain ⟨h1, h2⟩ := unsuspendable_suspend_frame h
    exact ⟨n, h2 ▸ hn, by simp [anon, h1]⟩

theorem unsuspendable_match (hn : NumTrue g.mUnsuspendableMap g.mUnsuspendable)
    (h : g.unsuspendable q = some g') : NumTrue g'.mUnsuspendableMap g'.mUnsuspendable := by
  cases q <;> simp only [unsuspendable] at h
  · cases h
  · split at h <;> cases h
    · exact hn
    · exact hn.update_true (Bool.eq_false_iff.2 ‹_›)

theorem suspendable_match (hn : NumTrue g.mUnsuspendableMap g.mUnsuspendable)
    (h : g.suspendable q = some g') : NumTrue g'.mUnsuspendableMap g'.mUnsuspendable := by
  cases q <;> simp only [suspendable] at h
  · cases h
  · split at h
    · split at h <;> cases h
      exact hn.update_false ‹_›
    · cases h; exact hn

theorem suspendAll_unsuspendable_frame (h : g.suspendAll q = some g') :
    g'.mUnsuspendable = g.mUnsuspendable ∧ g'.mUnsuspendableMap = g.mUnsuspendableMap := by
  cases q <;> simp only [suspendAll] at h
  · cases h; exact ⟨rfl, rfl⟩
  · split at h <;> cases h <;> exact ⟨rfl, rfl⟩

theorem unsuspendAll_unsuspendable_frame (h : g.unsuspendAll q = some g') :
    g'.mUnsuspendable = g.mUnsuspendable ∧ g'.mUnsuspendableMap = g.mUnsuspendableMap := by
  cases q <;> simp only [unsuspendAll] at h
  · split at h <;> cases h; exact ⟨rfl, rfl⟩
  · split at h <;> (try split at h) <;> cases h <;> exact ⟨rfl, rfl⟩

/-- One call, by any caller, keeps `m_unsuspendable` equal to the number of set flags. -/
theorem call_unsuspendable_match {c : Call}
    (hn : NumTrue g.mUnsuspendableMap g.mUnsuspendable) (h : g.call q c = some g') :
    NumTrue g'.mUnsuspendableMap g'.mUnsuspendable := by
  cases c with
  | suspendAll =>
    obtain ⟨h1, h2⟩ := suspendAll_unsuspendable_frame h
    rwa [h1, h2]
  | unsuspendAll =>
    obtain ⟨h1, h2⟩ := unsuspendAll_unsuspendable_frame h
    rwa [h1, h2]
  | suspendable => exact suspendable_match hn h
  | unsuspendable => exact unsuspendable_match hn h

/-- From a state where the counters match, no call by a process fails an assertion:
`assert(m_suspend > 0)` and `assert(m_unsuspendable)` are only reached with the caller's flag
set, and a set flag is counted. -/
theorem call_isSome (hg : CountersMatch g) (p : P) (c : Call) :
    (g.call (some p) c).isSome := by
  cases c <;> simp only [call, suspendAll, unsuspendAll, suspendable, unsuspendable]
  · split <;> rfl
  · split
    · have := hg.suspend.pos ‹_›
      rw [if_neg (by omega)]; rfl
    · rfl
  · split
    · have := hg.unsuspendable.pos ‹_›
      rw [if_neg (by omega)]; rfl
    · rfl
  · split <;> rfl

/-- A call by a process keeps `CountersMatch`. -/
theorem CountersMatch.call {p : P} {c : Call} (hg : CountersMatch g)
    (h : g.call (some p) c = some g') : CountersMatch g' := by
  obtain ⟨n', hn', heq⟩ := call_suspend_balance hg.suspend h
  have : g'.mSuspend = n' := by simp only [anon, sub_self, add_zero] at heq; omega
  exact ⟨this ▸ hn', call_unsuspendable_match hg.unsuspendable h⟩

/-! ## Runs -/

omit [DecidableEq P] in
theorem countersMatch_init [OfNat W 0] : CountersMatch (init : GlobalPause P C W) :=
  ⟨numTrue_const_false, numTrue_const_false⟩

/-- **Counter conservation.** Over every sequence of calls by processes, from the constructed
coordinator: no assertion fails, and in the state reached each counter is the number of
processes whose flag is set in its map. -/
theorem counters_match_of_processes [OfNat W 0] (calls : List (P × Call)) :
    ∃ g, (init : GlobalPause P C W).runCalls (calls.map fun c => (some c.1, c.2)) = some g ∧
      CountersMatch g := by
  suffices ∀ g₀ : GlobalPause P C W, CountersMatch g₀ →
      ∃ g, g₀.runCalls (calls.map fun c => (some c.1, c.2)) = some g ∧ CountersMatch g from
    this _ countersMatch_init
  induction calls with
  | nil => exact fun g₀ h => ⟨g₀, rfl, h⟩
  | cons c cs ih =>
    intro g₀ h₀
    obtain ⟨g₁, h₁⟩ := Option.isSome_iff_exists.1 (call_isSome h₀ c.1 c.2)
    obtain ⟨g, hg, hm⟩ := ih g₁ (h₀.call h₁)
    exact ⟨g, by simp [h₁, hg], hm⟩

/-- A process requests, then `unsuspend_all` is called outside any process: both calls
complete, `m_suspend` falls below the one request still held, and that process's own
`unsuspend_all` then fails `assert(m_suspend > 0)`. -/
theorem unowned_release_takes_process_count :
    ∃ g : GlobalPause Nat Nat Nat,
      init.runCalls [(some 0, .suspendAll), (none, .unsuspendAll)] = some g ∧
      NumTrue g.mSuspendAllReqMap 1 ∧ g.mSuspend = 0 ∧ g.unsuspendAll (some 0) = none :=
  ⟨_, rfl, numTrue_const_false.update_true rfl, rfl, rfl⟩

end GlobalPause

end QBox
