import QBox.GlobalPause.Coordinator
import Mathlib.Data.List.Perm.Basic

/-!
# The suspending-channel registry

`attach_suspending` and `detach_suspending` keep `m_suspending_channels`, a `std::vector` of
channel handles searched with `std::find`, and the flag `m_has_suspending_channels` beside it.
Detaching overwrites the found slot with the last handle and pops the back.

- `swapPop_indexOf_perm`: swap-with-last-and-pop at the handle's first position removes exactly
  that handle and keeps every other one.
- `RegistryInv`: no handle twice, and the flag says whether the vector is non-empty.
- `registry_tracks_last_call`: over every sequence of attach and detach calls on non-null
  handles, the invariant holds, the vector holds exactly the handles whose most recent call was
  an attach, and each next call returns whether it changed membership.
- `async_shims_return_no_value`: the `sc_core` shims change the registry as the methods do but
  return no value.
-/

namespace QBox

namespace GlobalPause

variable {P C W : Type} [DecidableEq C]

/-! ## One call -/

/-- **Swap-with-last-and-pop** at the first position of `a` removes exactly one `a`. -/
theorem swapPop_indexOf_perm {v : List C} {a : C} (ha : a ∈ v) :
    (swapPop v (v.indexOf a)).Perm (v.erase a) := by
  obtain ⟨s, t, rfl, hs⟩ := List.eq_append_cons_of_mem ha
  rw [List.indexOf_append_of_not_mem hs, List.indexOf_cons_self, add_zero,
    List.erase_append_right _ hs, List.erase_cons_head]
  obtain rfl | ⟨t, z, rfl⟩ := t.eq_nil_or_concat
  · simp [swapPop, List.set_append_right]
  · have hv : s ++ a :: t.concat z = s ++ a :: t ++ [z] := by simp
    simp only [hv, swapPop, List.getLast?_concat]
    rw [List.set_append_left _ _ (by simp), List.set_append_right _ _ le_rfl, Nat.sub_self,
      List.set_cons_zero, List.dropLast_concat, List.concat_eq_append]
    exact List.Perm.append_left s (List.perm_append_singleton z t).symm

theorem attachSuspending_some (g : GlobalPause P C W) (p : C) :
    g.attachSuspending (some p) =
      some (decide (p ∉ g.mSuspendingChannels),
        if p ∈ g.mSuspendingChannels then g
        else { g with
          mSuspendingChannels := g.mSuspendingChannels ++ [p]
          mHasSuspendingChannels := true }) := by
  by_cases hp : p ∈ g.mSuspendingChannels <;> simp [attachSuspending, List.indexOf_eq_length, hp]

theorem detachSuspending_some (g : GlobalPause P C W) (p : C) :
    g.detachSuspending (some p) =
      some (decide (p ∈ g.mSuspendingChannels),
        if p ∈ g.mSuspendingChannels then
          { g with
            mSuspendingChannels := swapPop g.mSuspendingChannels (g.mSuspendingChannels.indexOf p)
            mHasSuspendingChannels :=
              decide ((swapPop g.mSuspendingChannels (g.mSuspendingChannels.indexOf p)).length > 0) }
        else g) := by
  by_cases hp : p ∈ g.mSuspendingChannels <;> simp [detachSuspending, List.indexOf_eq_length, hp]

/-- The registry's invariant: no handle twice, and the flag says whether the vector is
non-empty. -/
structure RegistryInv (g : GlobalPause P C W) : Prop where
  nodup : g.mSuspendingChannels.Nodup
  flag : g.mHasSuspendingChannels = true ↔ g.mSuspendingChannels ≠ []

/-- A call on the registry by a caller holding a non-null handle. -/
inductive RegCall (C : Type)
  | attach (p : C)
  | detach (p : C)

/-- The handle a registry call names. -/
def RegCall.handle : RegCall C → C
  | .attach p | .detach p => p

/-- Whether a registry call is an attach. -/
def RegCall.isAttach : RegCall C → Bool
  | .attach _ => true
  | .detach _ => false

/-- One registry call, with the `bool` it returns. -/
def regCall (g : GlobalPause P C W) : RegCall C → Option (Bool × GlobalPause P C W)
  | .attach p => g.attachSuspending (some p)
  | .detach p => g.detachSuspending (some p)

variable {g : GlobalPause P C W}

/-- **One registry call**: it keeps `RegistryInv`, returns whether it changed membership (an
attach of an absent handle, a detach of a present one), removes at most the named handle, and
afterwards the named handle is present exactly when the call was an attach. -/
theorem regCall_spec (hg : RegistryInv g) (k : RegCall C) :
    ∃ b g', g.regCall k = some (b, g') ∧
      (b = true ↔ (k.isAttach = true ↔ k.handle ∉ g.mSuspendingChannels)) ∧
      RegistryInv g' ∧
      (k.isAttach = false → g'.mSuspendingChannels.Perm (g.mSuspendingChannels.erase k.handle)) ∧
      ∀ c, c ∈ g'.mSuspendingChannels ↔
        if k.handle = c then k.isAttach = true else c ∈ g.mSuspendingChannels := by
  cases k with
  | attach p =>
    refine ⟨_, _, attachSuspending_some g p, by simp [RegCall.isAttach, RegCall.handle], ?_,
      nofun, fun c => ?_⟩ <;> by_cases hp : p ∈ g.mSuspendingChannels <;>
      simp only [hp, if_true, if_false, RegCall.handle, RegCall.isAttach]
    · exact hg
    · exact ⟨hg.nodup.append (List.nodup_singleton p) (by simpa using hp), by simp⟩
    · rcases eq_or_ne p c with rfl | hc <;> simp_all
    · rcases eq_or_ne p c with rfl | hc
      · simp
      · simp [hc, Ne.symm hc]
  | detach p =>
    refine ⟨_, _, detachSuspending_some g p, by simp [RegCall.isAttach, RegCall.handle], ?_,
      fun _ => ?_, fun c => ?_⟩ <;> by_cases hp : p ∈ g.mSuspendingChannels <;>
      simp only [hp, if_true, if_false, RegCall.handle, RegCall.isAttach]
    · have hperm := swapPop_indexOf_perm hp
      exact ⟨hperm.nodup_iff.2 (hg.nodup.erase p), by simp [List.length_pos]⟩
    · exact hg
    · exact swapPop_indexOf_perm hp
    · rw [List.erase_of_not_mem hp]
    · rw [(swapPop_indexOf_perm hp).mem_iff, hg.nodup.mem_erase_iff]
      by_cases hc : p = c <;> simp [hc, eq_comm]
    · by_cases hc : p = c <;> simp_all

/-! ## Runs -/

/-- A sequence of registry calls; `none` once an assertion fails. -/
def runRegistry (g : GlobalPause P C W) (calls : List (RegCall C)) :
    Option (GlobalPause P C W) :=
  calls.foldlM (fun g k => (g.regCall k).map Prod.snd) g

theorem runRegistry_concat (g : GlobalPause P C W) (calls : List (RegCall C)) (k : RegCall C) :
    g.runRegistry (calls ++ [k]) = (g.runRegistry calls).bind fun g => (g.regCall k).map Prod.snd :=
  by simp [runRegistry, List.foldlM_append]

omit [DecidableEq C] in
theorem registryInv_init [OfNat W 0] : RegistryInv (init : GlobalPause P C W) :=
  ⟨List.nodup_nil, by simp [init]⟩

/-- **Registry correctness.** Over every sequence of attach and detach calls on non-null
handles, from the constructed coordinator: no assertion fails; the vector never holds a handle
twice and the flag says whether it is non-empty; it holds exactly the handles whose most recent
call was an attach; and the next call returns whether it changes membership, a detach removing
exactly its handle and keeping every other one. -/
theorem registry_tracks_last_call [OfNat W 0] (calls : List (RegCall C)) :
    ∃ g, (init : GlobalPause P C W).runRegistry calls = some g ∧ RegistryInv g ∧
      (∀ c, c ∈ g.mSuspendingChannels ↔
        (calls.reverse.find? fun k => k.handle = c) = some (.attach c)) ∧
      ∀ k, ∃ b g', g.regCall k = some (b, g') ∧
        (b = true ↔ (k.isAttach = true ↔ k.handle ∉ g.mSuspendingChannels)) ∧
        (k.isAttach = false →
          g'.mSuspendingChannels.Perm (g.mSuspendingChannels.erase k.handle)) := by
  suffices ∃ g, (init : GlobalPause P C W).runRegistry calls = some g ∧ RegistryInv g ∧
      ∀ c, c ∈ g.mSuspendingChannels ↔
        (calls.reverse.find? fun k => k.handle = c) = some (.attach c) by
    obtain ⟨g, hrun, hinv, hmem⟩ := this
    refine ⟨g, hrun, hinv, hmem, fun k => ?_⟩
    obtain ⟨b, g', hk, hb, -, hperm, -⟩ := regCall_spec hinv k
    exact ⟨b, g', hk, hb, hperm⟩
  induction calls using List.reverseRecOn with
  | nil => exact ⟨init, rfl, registryInv_init, by simp [init]⟩
  | append_singleton calls k ih =>
    obtain ⟨g, hrun, hinv, hmem⟩ := ih
    obtain ⟨b, g', hk, -, hinv', -, hmem'⟩ := regCall_spec hinv k
    refine ⟨g', by simp [runRegistry_concat, hrun, hk], hinv', fun c => ?_⟩
    rw [hmem', List.reverse_append, List.reverse_singleton, List.singleton_append,
      List.find?_cons]
    by_cases hc : k.handle = c
    · cases k <;> simp_all [RegCall.handle, RegCall.isAttach]
    · simp [hc, hmem]

/-- **The `sc_core` shims return no value.** For every coordinator and non-null handle,
`async_attach_suspending` and `async_detach_suspending` change the coordinator exactly as
`attach_suspending` and `detach_suspending` do, and return nothing where the methods return
their `bool`. -/
theorem async_shims_return_no_value (g : GlobalPause P C W) (p : C) :
    (∃ b g', g.attachSuspending (some p) = some (b, g') ∧
      asyncAttachSuspending (some p) g = some (none, g')) ∧
    (∃ b g', g.detachSuspending (some p) = some (b, g') ∧
      asyncDetachSuspending (some p) g = some (none, g')) :=
  ⟨⟨_, _, attachSuspending_some g p, by simp [asyncAttachSuspending, attachSuspending_some]⟩,
    ⟨_, _, detachSuspending_some g p, by simp [asyncDetachSuspending, detachSuspending_some]⟩⟩

end GlobalPause

end QBox
