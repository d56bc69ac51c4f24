import QBox.GlobalPause.Sleeper

/-!
# No lost wakeup, and what `wakeups` counts

`async_wakeup` increments `wakeups` and notifies `cond` under `mutex`; the sleeper evaluates its
predicate under the same mutex and blocks only when the predicate fails, which needs
`wakeups == 0`. This module proves, over every interleaving of the machine of
`QBox.GlobalPause.Sleeper`:

- `blocked_wakeups_eq_zero`: the sleeper is never blocked with a wakeup pending.
- `wakeup_not_lost`: after an `async_wakeup`, until a wait return consumes a wakeup, a wakeup
  stays pending and the sleeper is not blocked, so its next check of the predicate succeeds.
- `blocked_sleeper_woken`: a blocked sleeper is woken by an `async_wakeup`, and its next check
  of the predicate returns with the wakeup pending.
- `sleeper_never_misses_wakeup`: the above, with `wakeups` an unbounded count equal to the
  completed `async_wakeup` calls minus the consuming wait returns.
- `wakeups_toNat_eq_sent_sub_consumed`: with `wakeups` a `w`-bit unsigned counter, the same
  difference modulo `2 ^ w`; `wakeups_wrap_to_zero` is a run of `2 ^ 32` wakeups with no
  suspension policy active after which the 32-bit counter reads `0` and the sleeper can block.
-/

namespace QBox

namespace GlobalPause

variable {P C W : Type} [DecidableEq P] [DecidableEq C]

/-- Completed `async_wakeup` calls in a run. -/
def wakeupsSent (es : List (Event P C)) : Nat := es.count .asyncWakeup

/-- Wait returns in a run that decremented `wakeups`. -/
def wakeupsConsumed (es : List (Event P C)) : Nat := es.count (.finish true)

/-- What an event does to `wakeups`. -/
def Event.onWakeups [Add W] [Sub W] [OfNat W 1] : Event P C → W → W
  | .asyncWakeup, w => w + 1
  | .finish true, w => w - 1
  | _, w => w

omit [DecidableEq P] [DecidableEq C] in
theorem Event.onWakeups_of_ne [Add W] [Sub W] [OfNat W 1] {e : Event P C} (w : W)
    (ha : e ≠ .asyncWakeup) (hf : e ≠ .finish true) : e.onWakeups w = w := by
  cases e with
  | asyncWakeup => exact absurd rfl ha
  | finish d =>
    cases d
    · rfl
    · exact absurd rfl hf
  | _ => rfl

section Generic

variable [Add W] [Sub W] [OfNat W 0] [OfNat W 1] [DecidableEq W]
  {s s' : System P C W} {e : Event P C}

/-- **`wakeups` under one step**: only `async_wakeup` and a consuming wait return change it, and
a consuming return finds it non-zero. -/
theorem step_wakeups (h : step s e = some s') :
    s'.gp.wakeups = e.onWakeups s.gp.wakeups ∧ (e = .finish true → s.gp.wakeups ≠ 0) := by
  cases e with
  | call q c =>
    simp only [step] at h
    split_ifs at h
    obtain ⟨g', hg', rfl⟩ := Option.map_eq_some'.1 h
    exact ⟨call_wakeups hg', nofun⟩
  | attach p =>
    obtain ⟨⟨b, g'⟩, hg', rfl⟩ := Option.map_eq_some'.1 h
    exact ⟨(attachSuspending_frame hg').1, nofun⟩
  | detach p =>
    obtain ⟨⟨b, g'⟩, hg', rfl⟩ := Option.map_eq_some'.1 h
    exact ⟨(detachSuspending_frame hg').1, nofun⟩
  | fire pa pc =>
    simp only [step] at h
    split_ifs at h
    cases h
    refine ⟨?_, nofun⟩
    rcases sleeper_cases { s.gp with sleeperEvent := false } pa pc with ⟨h, -⟩ | h | h <;>
      rw [h] <;> rfl
  | finish d =>
    simp only [step] at h
    split_ifs at h with hd
    cases h
    obtain ⟨-, rfl⟩ := hd
    by_cases hw : s.gp.wakeups = 0 <;> simp [hw, Event.onWakeups]
  | _ => simp only [step] at h; split_ifs at h <;> cases h <;> exact ⟨rfl, nofun⟩

/-- The sleeper is blocked only with no wakeup pending. -/
def BlockedClean (s : System P C W) : Prop := s.pc = .blocked → s.gp.wakeups = 0

/-- The sleeper blocks only after a failed predicate, which needs `wakeups == 0`, and
`async_wakeup` wakes it while it increments. -/
theorem step_blockedClean (hs : BlockedClean s) (h : step s e = some s') : BlockedClean s' := by
  intro hb
  rw [(step_wakeups h).1]
  cases e with
  | call q c =>
    simp only [step] at h
    split_ifs at h
    obtain ⟨g', -, rfl⟩ := Option.map_eq_some'.1 h
    cases hb
  | attach p => obtain ⟨_, -, rfl⟩ := Option.map_eq_some'.1 h; exact hs hb
  | detach p => obtain ⟨_, -, rfl⟩ := Option.map_eq_some'.1 h; exact hs hb
  | asyncWakeup =>
    simp only [step] at h
    split_ifs at h with hm hbl <;> cases h
    · cases hb
    · exact absurd hb hbl
  | fire pa pc =>
    simp only [step] at h
    split_ifs at h
    cases h
    rcases sleeper_cases { s.gp with sleeperEvent := false } pa pc with ⟨h, -⟩ | h | h <;>
      rw [h] at hb <;> cases hb
  | check z =>
    simp only [step] at h
    split_ifs at h with _ hp <;> cases h
    · cases hb
    · simp only [waitPredicate, Bool.or_eq_true, decide_eq_true_eq, not_or] at hp
      exact not_not.1 hp.1.1.1
  | _ => simp only [step] at h; split_ifs at h; cases h; cases hb

/-- **The sleeper is never blocked with a wakeup pending**, in every reachable state. -/
theorem blocked_wakeups_eq_zero {es : List (Event P C)} {s : System P C W}
    (h : run System.init es = some s) (hb : s.pc = .blocked) : s.gp.wakeups = 0 :=
  run_invariant BlockedClean (fun _ _ _ => step_blockedClean) es (s := System.init)
    (by intro h; cases h) h hb

/-- A run of `async_wakeup` calls while the sleeper is not running only counts them. -/
theorem run_replicate_asyncWakeup {s : System P C W} (hs : s.pc = .idle) (n : Nat) :
    run s (List.replicate n .asyncWakeup) =
      some ⟨{ s.gp with wakeups := (· + 1)^[n] s.gp.wakeups }, .idle⟩ := by
  induction n generalizing s with
  | zero => cases s; cases hs; rfl
  | succ n ih =>
    have h₁ : step s .asyncWakeup = some ⟨s.gp.asyncWakeup, .idle⟩ := by
      simp [step, hs, SleeperPc.holdsMutex]
    rw [List.replicate_succ, run_cons, h₁, Option.some_bind, ih rfl]
    rfl

end Generic

theorem wakeupsSent_cons (e : Event P C) (es : List (Event P C)) :
    wakeupsSent (e :: es) = wakeupsSent es + if e = .asyncWakeup then 1 else 0 := by
  simp [wakeupsSent, List.count_cons]

theorem wakeupsConsumed_cons (e : Event P C) (es : List (Event P C)) :
    wakeupsConsumed (e :: es) = wakeupsConsumed es + if e = .finish true then 1 else 0 := by
  simp [wakeupsConsumed, List.count_cons]

/-! ## `wakeups` as an unbounded count -/

/-- Over a run, an unbounded `wakeups` goes up by the calls of `async_wakeup` and down by the
consuming wait returns. -/
theorem run_wakeups_nat {es : List (Event P C)} {s s' : System P C Nat}
    (h : run s es = some s') :
    s'.gp.wakeups + wakeupsConsumed es = s.gp.wakeups + wakeupsSent es := by
  induction es generalizing s with
  | nil => cases h; rfl
  | cons e es ih =>
    simp only [run_cons, Option.bind_eq_some] at h
    obtain ⟨s₁, h₁, h⟩ := h
    obtain ⟨hw, hf⟩ := step_wakeups h₁
    have := ih h
    rw [wakeupsSent_cons, wakeupsConsumed_cons]
    by_cases ha : e = .asyncWakeup
    · subst ha; simp only [Event.onWakeups] at hw; simp; omega
    by_cases hd : e = .finish true
    · subst hd; have := hf rfl; simp only [Event.onWakeups] at hw; simp; omega
    rw [Event.onWakeups_of_ne _ ha hd] at hw
    simp [ha, hd]; omega

/-- **No lost wakeup.** From any reachable state, after an `async_wakeup` completes and until a
wait return consumes a wakeup, a wakeup stays pending and the sleeper is not blocked: a check
of the wait predicate in that window succeeds. -/
theorem wakeup_not_lost {es₀ es : List (Event P C)} {s₀ s : System P C Nat}
    (h₀ : run System.init es₀ = some s₀) (hfin : Event.finish true ∉ es)
    (h : run s₀ (.asyncWakeup :: es) = some s) : 0 < s.gp.wakeups ∧ s.pc ≠ .blocked := by
  simp only [run_cons, Option.bind_eq_some] at h
  obtain ⟨s₁, h₁, h⟩ := h
  have hw := run_wakeups_nat h
  have h1 : s₁.gp.wakeups = s₀.gp.wakeups + 1 := (step_wakeups h₁).1
  have hc : wakeupsConsumed es = 0 := List.count_eq_zero.2 hfin
  have hpos : 0 < s.gp.wakeups := by omega
  refine ⟨hpos, fun hb => ?_⟩
  have hreach : run System.init (es₀ ++ .asyncWakeup :: es) = some s := by
    simp [run_append, h₀, h₁, h]
  exact absurd (blocked_wakeups_eq_zero hreach hb) (Nat.pos_iff_ne_zero.1 hpos)

/-- **A blocked sleeper is woken.** From a reachable state with the sleeper blocked, an
`async_wakeup` completes and wakes it; once it holds the mutex again, its check of the predicate
returns, with the wakeup still pending for the return to consume. -/
theorem blocked_sleeper_woken {es : List (Event P C)} {s : System P C Nat}
    (h : run System.init es = some s) (hb : s.pc = .blocked) (z : Bool) :
    ∃ s', run s [.asyncWakeup, .reacquire, .check z] = some s' ∧ s'.pc = .returned ∧
      s'.gp.wakeups = 1 := by
  have hw := blocked_wakeups_eq_zero h hb
  refine ⟨⟨s.gp.asyncWakeup, .returned⟩, ?_, rfl, by simp [asyncWakeup, hw]⟩
  simp [step, hb, SleeperPc.holdsMutex, waitPredicate, asyncWakeup, hw]

/-- **The sleeper never misses a wakeup** (`wakeups` an unbounded count). In every reachable
state: a blocked sleeper has no wakeup pending; `wakeups` is the number of completed
`async_wakeup` calls minus the number of consuming wait returns; after an `async_wakeup`, until a
consuming return, the sleeper is never blocked; and when the sleeper is blocked, an
`async_wakeup` completes and wakes it, and its next check of the predicate returns. -/
theorem sleeper_never_misses_wakeup :
    (∀ (es : List (Event P C)) (s : System P C Nat), run System.init es = some s →
        s.pc = .blocked → s.gp.wakeups = 0) ∧
    (∀ (es : List (Event P C)) (s : System P C Nat), run System.init es = some s →
        s.gp.wakeups + wakeupsConsumed es = wakeupsSent es) ∧
    (∀ (es₀ es : List (Event P C)) (s₀ s : System P C Nat), run System.init es₀ = some s₀ →
        Event.finish true ∉ es → run s₀ (.asyncWakeup :: es) = some s →
        0 < s.gp.wakeups ∧ s.pc ≠ .blocked) ∧
    (∀ (es : List (Event P C)) (s : System P C Nat), run System.init es = some s →
        s.pc = .blocked → ∀ z, ∃ s', run s [.asyncWakeup, .reacquire, .check z] = some s' ∧
          s'.pc = .returned ∧ s'.gp.wakeups = 1) :=
  ⟨fun _ _ h => blocked_wakeups_eq_zero h,
    fun _ _ h => by simpa [System.init, GlobalPause.init] using run_wakeups_nat h,
    fun _ _ _ _ h₀ hfin h => wakeup_not_lost h₀ hfin h,
    fun _ _ h hb z => blocked_sleeper_woken h hb z⟩

/-! ## `wakeups` as a `w`-bit unsigned counter -/

/-- Counting down once modulo `m` from a non-multiple of `m`. -/
theorem sub_one_mod_of_mod_ne_zero {k m : Nat} (hm : 0 < m) (h : k % m ≠ 0) :
    (k - 1) % m = k % m - 1 := by
  have hk := Nat.mod_add_div k m
  have hlt := Nat.mod_lt k hm
  rw [show k - 1 = (k % m - 1) + m * (k / m) by omega, Nat.add_mul_mod_self_left,
    Nat.mod_eq_of_lt (by omega)]

theorem toNat_add_one_of_mod {w k : Nat} {x : BitVec w} (hx : x.toNat = k % 2 ^ w) :
    (x + 1).toNat = (k + 1) % 2 ^ w := by
  rw [BitVec.toNat_add, hx, show (1 : BitVec w).toNat = 1 % 2 ^ w from BitVec.toNat_ofNat 1 w,
    ← Nat.add_mod]

theorem toNat_sub_one_of_mod {w k : Nat} {x : BitVec w} (hx : x.toNat = k % 2 ^ w)
    (h0 : x ≠ 0) : (x - 1).toNat = (k - 1) % 2 ^ w ∧ k ≠ 0 := by
  have hne : k % 2 ^ w ≠ 0 := by
    rw [← hx]; exact fun h => h0 (BitVec.eq_of_toNat_eq (by simpa using h))
  have hw : 1 < 2 ^ w := by
    rcases Nat.eq_zero_or_pos w with rfl | hw
    · simp [Nat.mod_one] at hne
    · exact Nat.one_lt_two_pow (by omega)
  have hlt := Nat.mod_lt k (show 0 < 2 ^ w by omega)
  refine ⟨?_, fun hk => hne (by simp [hk])⟩
  rw [BitVec.toNat_sub, hx, show (1 : BitVec w).toNat = 1 from by
      rw [show (1 : BitVec w).toNat = 1 % 2 ^ w from BitVec.toNat_ofNat 1 w, Nat.mod_eq_of_lt hw],
    sub_one_mod_of_mod_ne_zero (by omega) hne,
    show 2 ^ w - 1 + k % 2 ^ w = (k % 2 ^ w - 1) + 2 ^ w * 1 by omega, Nat.add_mul_mod_self_left,
    Nat.mod_eq_of_lt (by omega)]

/-- `n` increments of a `w`-bit zero. -/
theorem toNat_iterate_add_one {w : Nat} (n : Nat) :
    ((· + 1)^[n] (0 : BitVec w)).toNat = n % 2 ^ w := by
  induction n with
  | zero => simp
  | succ n ih => rw [Function.iterate_succ_apply', toNat_add_one_of_mod ih]

/-- Over a run from a state whose counter holds `a - d` modulo `2 ^ w`, a `w`-bit `wakeups`
holds the running difference modulo `2 ^ w`, and a wakeup is consumed only when one is
outstanding. -/
theorem run_wakeups_bitVec {w a d : Nat} {es : List (Event P C)}
    {s s' : System P C (BitVec w)} (h : run s es = some s')
    (hs : s.gp.wakeups.toNat = (a - d) % 2 ^ w) (hd : d ≤ a) :
    s'.gp.wakeups.toNat = (a + wakeupsSent es - (d + wakeupsConsumed es)) % 2 ^ w ∧
      d + wakeupsConsumed es ≤ a + wakeupsSent es := by
  induction es generalizing s a d with
  | nil => cases h; simpa [wakeupsSent, wakeupsConsumed] using ⟨hs, hd⟩
  | cons e es ih =>
    simp only [run_cons, Option.bind_eq_some] at h
    obtain ⟨s₁, h₁, h⟩ := h
    obtain ⟨hw, hf⟩ := step_wakeups h₁
    rw [wakeupsSent_cons, wakeupsConsumed_cons]
    by_cases ha : e = .asyncWakeup
    · subst ha
      have h₁ : s₁.gp.wakeups.toNat = (a + 1 - d) % 2 ^ w := by
        rw [hw, Event.onWakeups, toNat_add_one_of_mod hs, Nat.sub_add_comm hd]
      obtain ⟨e₁, e₂⟩ := ih h h₁ (by omega)
      simp only [if_true, if_false, reduceCtorEq]
      exact ⟨e₁.trans (congrArg (· % 2 ^ w) (by omega)), by omega⟩
    by_cases hc : e = .finish true
    · subst hc
      obtain ⟨e₀, hk⟩ := toNat_sub_one_of_mod hs (hf rfl)
      have h₁ : s₁.gp.wakeups.toNat = (a - (d + 1)) % 2 ^ w := by
        rw [hw, Event.onWakeups, e₀, Nat.sub_sub]
      obtain ⟨e₁, e₂⟩ := ih h h₁ (by omega)
      simp only [if_true, if_false, reduceCtorEq]
      exact ⟨e₁.trans (congrArg (· % 2 ^ w) (by omega)), by omega⟩
    rw [Event.onWakeups_of_ne _ ha hc] at hw
    obtain ⟨e₁, e₂⟩ := ih h (hw ▸ hs) hd
    simp only [ha, hc, if_false, add_zero]
    exact ⟨e₁, e₂⟩

/-- **`wakeups` as a `w`-bit counter.** In every reachable state, `wakeups` holds the number of
completed `async_wakeup` calls minus the number of consuming wait returns, modulo `2 ^ w`, and
the consuming returns never outnumber the calls. -/
theorem wakeups_toNat_eq_sent_sub_consumed {w : Nat} {es : List (Event P C)}
    {s : System P C (BitVec w)} (h : run System.init es = some s) :
    s.gp.wakeups.toNat = (wakeupsSent es - wakeupsConsumed es) % 2 ^ w ∧
      wakeupsConsumed es ≤ wakeupsSent es := by
  simpa using run_wakeups_bitVec h (a := 0) (d := 0) (by simp [System.init, GlobalPause.init]) le_rfl

theorem wakeups_toNat_after_two_wakeups :
    ∃ s : System Nat Nat (BitVec 8),
      run System.init [.asyncWakeup, .asyncWakeup] = some s ∧
      s.gp.wakeups.toNat =
          (wakeupsSent [(.asyncWakeup : Event Nat Nat), .asyncWakeup] -
            wakeupsConsumed [(.asyncWakeup : Event Nat Nat), .asyncWakeup]) % 2 ^ 8 ∧
        wakeupsConsumed [(.asyncWakeup : Event Nat Nat), .asyncWakeup] ≤
          wakeupsSent [(.asyncWakeup : Event Nat Nat), .asyncWakeup] :=
  ⟨_, rfl, wakeups_toNat_eq_sent_sub_consumed rfl⟩

/-- **`wakeups` wraps.** With a 32-bit `wakeups` and no suspension policy active, `2 ^ 32`
completed `async_wakeup` calls, none consumed, leave `wakeups == 0`; a process then asks to
suspend, and the sleeper blocks in `cond.wait` with every one of them unconsumed. -/
theorem wakeups_wrap_to_zero :
    ∃ s : System Nat Nat (BitVec 32),
      run System.init (List.replicate (2 ^ 32) .asyncWakeup) = some s ∧
      s.gp.wakeups = 0 ∧ s.gp.mSuspend = 0 ∧ s.gp.mHasSuspendingChannels = false ∧
      ∃ s', run s [.call (some 0) .suspendAll, .fire false false, .check false] = some s' ∧
        s'.pc = .blocked := by
  have hrun := run_replicate_asyncWakeup (s := (System.init : System Nat Nat (BitVec 32))) rfl
    (2 ^ 32)
  have hw : (· + 1)^[2 ^ 32] (0 : BitVec 32) = 0 :=
    BitVec.eq_of_toNat_eq ((toNat_iterate_add_one _).trans (Nat.mod_self _))
  rw [show (System.init : System Nat Nat (BitVec 32)).gp.wakeups = 0 from rfl, hw] at hrun
  exact ⟨_, hrun, rfl, rfl, rfl, _, rfl, rfl⟩

end GlobalPause

end QBox
