import QBox.LuaFile.Simulation

/-!
# When the traversal ends

`setParamsFromLuaTable` guards its recursion by three names only: the full names `_G` and
`package.loaded`, and the key `__index` (line 522).

- `config_terminates`: on a configuration the spec accepts, with the entered tables nesting at
  most `d` deep, the traversal ends with at most `d` frames active at once.
- `self_reference_loops`: a table whose first entry holds the table itself under the key `self`
  makes every call on it recurse, one frame and five name bytes deeper each time, until any
  fuel runs out; `self_reference_never_returns` is the configuration `_G = {self = _G}`.
-/

namespace QBox

namespace LuaFile

variable {Num : Type} [DecidableEq Num] {E : Env Num}

/-- **The traversal ends, `d` frames deep.** When the spec gives the parameters of the global
table `G` with the entered tables nesting at most `d` deep, the traversal started by `config()`
returns, and never has more than `d` frames active at once. -/
theorem config_terminates {d G : Nat} {ps : List (String × CciValue)}
    (h : luaParams E d [] G = some ps) (s : ToolState Num) :
    ∃ N, ∀ fuel, N ≤ fuel → ∃ n s', configParams E G fuel s = .ok (n, s') ∧
      s'.maxDepth ≤ max s.maxDepth d := by
  obtain ⟨N, hN⟩ := config_completes h s
  refine ⟨N, fun fuel hfuel => ?_⟩
  obtain ⟨n, s', hrun, -, -, -, -, hd⟩ := hN fuel hfuel
  exact ⟨n, s', hrun, by simpa using hd⟩

/-- The configuration `n = 3, t = {true}` needs two frames. -/
theorem config_terminates_sample :
    ∃ N, ∀ fuel, N ≤ fuel → ∃ n s', configParams
      (⟨[⟨[(.string "n", .number 3), (.string "t", .table 1)], by decide, by decide⟩,
        ⟨[(.number 1, .boolean true)], by decide, by decide⟩], Int.ofNat, fun n => .ofInt n,
        ""⟩ : Env Nat) 0 fuel ⟨[], [], [], 0⟩ = .ok (n, s') ∧ s'.maxDepth ≤ max 0 2 :=
  config_terminates (d := 2) (by rfl) _

/-! ## A table that holds itself -/

/-- A name that starts with `self` is neither `_G` nor `package.loaded`, and `self` is not
`__index`. -/
theorem self_not_skipped {b : List Char} (h : Spells b 0 ['s', 'e', 'l', 'f']) :
    ¬ skipsRecursion (cString b 0) ['s', 'e', 'l', 'f'] := by
  have hs := head?_cString h.1 (by decide)
  rintro (h' | h' | h') <;> simp_all

/-- **A table that holds itself is never done.** When the first entry of table `r` is
`self = r`, every call on `r`, at the start of the buffer or below a name that starts with
`self`, runs out of any fuel: the guard never matches, so each call enters `r` again. -/
theorem self_reference_loops {r : Nat} {tbl : LuaTable Num}
    {rest : List (LuaValue Num × LuaValue Num)} (hheap : E.heap[r]? = some tbl)
    (he : tbl.entries = [] ++ (.string "self", .table r) :: rest) :
    ∀ fuel (s : ToolState Num) (t : Int) (level depth : Nat), stackSlot s.L t = some (.table r) →
      (level = 0 ∨ 4 ≤ level ∧ Spells s.staticKey 0 ['s', 'e', 'l', 'f']) →
      setParamsFromLuaTable E fuel t (some level) depth s = .error .outOfFuel
  | 0, _, _, _, _, _, _ => rfl
  | 1, s, t, level, depth, hslot, _ => by rw [setParams_succ_table hslot]; rfl
  | fuel + 2, s, t, level, depth, hslot, hlev => by
    rw [setParams_succ_table hslot]
    -- the overflow check writes at `MAX_NAME_SIZE - 1`, above `self`
    have hb₀ : level = 0 ∨ 4 ≤ level ∧ Spells (if MAX_NAME_SIZE < level then
        setByte s.staticKey (MAX_NAME_SIZE - 1) '\x00' else s.staticKey) 0 ['s', 'e', 'l', 'f'] := by
      rcases hlev with rfl | ⟨h4, hsp⟩
      · exact .inl rfl
      · refine .inr ⟨h4, ?_⟩
        split_ifs
        · exact hsp.setByte_of_le (by simp [MAX_NAME_SIZE]) _
        · exact hsp
    generalize (if MAX_NAME_SIZE < level then _ else _) = b₀ at hb₀ ⊢
    have hnext := luaNext_lastKey hheap he (stackSlot_cons_adjust hslot .nil)
    -- `strcpy` of `self` at `level`
    have hw : Spells (strcpy b₀ level "self") level (['s', 'e', 'l', 'f'] ++ ['\x00']) :=
      spells_setBytes _ _ _
    have hself := cString_eq_of_spells_nul hw (by decide)
    have hname : Spells (strcpy b₀ level "self") 0 ['s', 'e', 'l', 'f'] := by
      rcases hb₀ with rfl | ⟨h4, hsp⟩
      · exact hw.of_append
      · exact hsp.setBytes_of_le (by simpa using h4) _
    have hkey : setKey E level (.table r :: .string "self" :: s.L) b₀ =
        some (level + 4, false, strcpy b₀ level "self") := setKey_string (stackSlot_second _ _ _) _ _
    refine traverse_succ_recurse_error hnext hkey (hself ▸ self_not_skipped hname) ?_
    -- the nested call, on `r` again, below `self.`
    exact self_reference_loops hheap he fuel
      { L := .table r :: .string "self" :: s.L, presets := s.presets, maxDepth := max s.maxDepth depth
        staticKey := setByte (strcpy b₀ level "self") (level + 4) '.' } (-1) (level + 4 + 1)
      (depth + 1) (stackSlot_top _ _) (.inr ⟨by omega, hname.setByte_of_le (by simp) '.'⟩)

/-- **`_G = {self = _G}` is never done**: started by `config()` on the zero-initialized name
buffer, the traversal runs out of every fuel. -/
theorem self_reference_never_returns :
    (fun fuel => configParams
      (⟨[⟨[(.string "self", .table 0)], by decide, by decide⟩], Int.ofNat, fun n => .ofInt n,
        ""⟩ : Env Nat) 0 fuel ⟨[], [], [], 0⟩) = fun _ => .error .outOfFuel := by
  funext fuel
  rw [configParams, setParams_none]
  exact self_reference_loops rfl rfl fuel _ _ 0 1 (stackSlot_gettop _ _) (.inl rfl)

end LuaFile

end QBox
