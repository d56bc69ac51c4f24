import QBox.GlobalPause.Sleeper

/-!
# When the sleeper is scheduled

The sleeper is spawned with `dont_initialize` and is sensitive to `sleeper_event` only: the
kernel runs it only after a notification. `suspend_all`, `suspendable` and the sleeper itself
notify `sleeper_event`; `attach_suspending` does not.

- `Scheduled`: `sleeper_event` has a pending notification, or the sleeper is running or blocked
  in its wait.
- `suspend_request_keeps_sleeper_scheduled`: in every reachable state, an outstanding
  `suspend_all` request has the sleeper scheduled.
- `attach_leaves_sleeper_unscheduled`: `attach_suspending` from the constructed coordinator
  turns the suspending-channel policy on with the sleeper unscheduled, and no `async_wakeup`,
  attach or detach schedules it afterwards.
-/

namespace QBox

namespace GlobalPause

variable {P C W : Type} [DecidableEq P] [DecidableEq C]
  [Add W] [Sub W] [OfNat W 0] [OfNat W 1] [DecidableEq W]
  {s s' : System P C W} {e : Event P C}

/-- The sleeper is scheduled: `sleeper_event` has a pending notification, or the sleeper is
running or blocked in its wait. -/
def Scheduled (s : System P C W) : Prop := s.gp.sleeperEvent = true ∨ s.pc ≠ .idle

/-- An outstanding `suspend_all` request has the sleeper scheduled. -/
def SuspendScheduled (s : System P C W) : Prop := 0 < s.gp.mSuspend → Scheduled s

/-- Every step keeps an outstanding request scheduled: a new request notifies
`sleeper_event`, and the sleeper re-notifies it while a request is outstanding. -/
theorem step_suspendScheduled (hs : SuspendScheduled s) (h : step s e = some s') :
    SuspendScheduled s' := by
  intro hpos
  cases e with
  | call q c =>
    simp only [step] at h
    split_ifs at h with hidle
    obtain ⟨g', hg', rfl⟩ := Option.map_eq_some'.1 h
    rcases call_sleeperEvent hg' hpos with he | ⟨hp, he⟩
    · exact .inl he
    · rcases hs hp with h' | h'
      · exact .inl (he.trans h')
      · exact absurd hidle h'
  | attach p =>
    obtain ⟨⟨b, g'⟩, hg', rfl⟩ := Option.map_eq_some'.1 h
    obtain ⟨-, hm, he⟩ := attachSuspending_frame hg'
    rw [Scheduled, he]
    exact hs (hm ▸ hpos)
  | detach p =>
    obtain ⟨⟨b, g'⟩, hg', rfl⟩ := Option.map_eq_some'.1 h
    obtain ⟨-, hm, he⟩ := detachSuspending_frame hg'
    rw [Scheduled, he]
    exact hs (hm ▸ hpos)
  | asyncWakeup =>
    simp only [step] at h
    split_ifs at h with hm hb <;> cases h
    · exact .inr nofun
    · exact hs hpos
  | fire pa pc =>
    simp only [step] at h
    split_ifs at h
    cases h
    rcases sleeper_cases { s.gp with sleeperEvent := false } pa pc with ⟨h, -, h0⟩ | h | h <;>
      rw [h] at hpos ⊢
    · simp only at hpos h0; omega
    · exact .inl rfl
    · exact .inr nofun
  | check z =>
    simp only [step] at h
    split_ifs at h <;> cases h <;> exact .inr nofun
  | finish d =>
    simp only [step] at h
    split_ifs at h
    cases h
    exact .inl (wakeupReturn_sleeperEvent (by simpa using hpos))
  | _ => simp only [step] at h; split_ifs at h; cases h; exact .inr nofun

/-- **A suspend request keeps the sleeper scheduled.** In every reachable state with an
outstanding `suspend_all` request, `sleeper_event` has a pending notification or the sleeper is
running or waiting. -/
theorem suspend_request_keeps_sleeper_scheduled {es : List (Event P C)} {s : System P C W}
    (h : run System.init es = some s) (hpos : 0 < s.gp.mSuspend) : Scheduled s :=
  run_invariant SuspendScheduled (fun _ _ _ => step_suspendScheduled) es (s := System.init)
    (by intro h; cases h) h hpos

/-- A process requests suspension: `sleeper_event` is notified. -/
theorem suspend_request_scheduled_sample :
    ∃ s : System Nat Nat Nat, run System.init [.call (some 0) .suspendAll] = some s ∧
      0 < s.gp.mSuspend ∧ Scheduled s :=
  ⟨_, rfl, by decide, suspend_request_keeps_sleeper_scheduled
    (h := (rfl : run System.init [.call (some 0) .suspendAll] = _)) (by decide)⟩

/-- The events another thread can cause while the kernel is idle: `async_wakeup`,
`attach_suspending`, `detach_suspending`. -/
def Event.foreign : Event P C → Bool
  | .asyncWakeup | .attach _ | .detach _ => true
  | _ => false

/-- No foreign event schedules the sleeper. -/
theorem step_foreign_unscheduled (he : e.foreign = true) (hs : ¬ Scheduled s)
    (h : step s e = some s') : ¬ Scheduled s' := by
  simp only [Scheduled, not_or, not_not, Bool.not_eq_true] at hs ⊢
  obtain ⟨hev, hidle⟩ := hs
  cases e with
  | attach p =>
    obtain ⟨⟨b, g'⟩, hg', rfl⟩ := Option.map_eq_some'.1 h
    exact ⟨(attachSuspending_frame hg').2.2.trans hev, hidle⟩
  | detach p =>
    obtain ⟨⟨b, g'⟩, hg', rfl⟩ := Option.map_eq_some'.1 h
    exact ⟨(detachSuspending_frame hg').2.2.trans hev, hidle⟩
  | asyncWakeup =>
    simp only [step, hidle, SleeperPc.holdsMutex] at h
    cases h
    exact ⟨hev, rfl⟩
  | _ => cases he

/-- Nor does any sequence of them. -/
theorem run_foreign_unscheduled {es : List (Event P C)} (he : ∀ e ∈ es, e.foreign = true)
    (hs : ¬ Scheduled s) (h : run s es = some s') : ¬ Scheduled s' := by
  induction es generalizing s with
  | nil => cases h; exact hs
  | cons e es ih =>
    simp only [run_cons, Option.bind_eq_some] at h
    obtain ⟨s₁, h₁, h⟩ := h
    exact ih (fun e' h' => he e' (.tail _ h')) (step_foreign_unscheduled (he e (.head _)) hs h₁) h

/-- `attach_suspending` on the constructed coordinator turns the suspending-channel policy on
and leaves the sleeper unscheduled, and no sequence of `async_wakeup`, attach and detach calls
schedules it afterwards. -/
theorem attach_leaves_sleeper_unscheduled :
    ∃ s : System Nat Nat Nat, step System.init (.attach (some 0)) = some s ∧
      s.gp.mHasSuspendingChannels = true ∧ ¬ Scheduled s ∧
      ∀ (es : List (Event Nat Nat)) (s' : System Nat Nat Nat), (∀ e ∈ es, e.foreign = true) →
        run s es = some s' → ¬ Scheduled s' := by
  have h₀ : ¬ Scheduled (⟨{ (GlobalPause.init : GlobalPause Nat Nat Nat) with
      mSuspendingChannels := [0], mHasSuspendingChannels := true }, .idle⟩ :
        System Nat Nat Nat) := by
    simp [Scheduled, GlobalPause.init]
  exact ⟨_, rfl, rfl, h₀, fun _ _ he h => run_foreign_unscheduled he h₀ h⟩

end GlobalPause

end QBox
