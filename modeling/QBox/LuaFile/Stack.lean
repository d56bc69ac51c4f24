import QBox.LuaFile.Simulation

/-!
# The Lua stack across a traversal

Each iteration of the loop pushes a key and a value and pops the value; the last `lua_next`
pops the key. A call returns with the stack it found only if it leaves the loop that way.

- `setParams_restores_stack`: on tables the spec accepts (every key a string or a number), every
  call returns with the stack as it found it.
- `invalid_key_misaligns_stack`: `return -1` on an invalid key leaves the key and the value
  pushed. In a nested table, the enclosing loop then pops one slot, calls `lua_next` on the
  relative index `t`, which now names the nested table, and resumes that table's traversal
  under its own names; the enclosing call returns two slots higher than it started.
-/

namespace QBox

namespace LuaFile

variable {Num : Type} [DecidableEq Num] {E : Env Num}

/-- **With valid keys, every call restores the stack.** -/
theorem setParams_restores_stack {d r : Nat} {pre : List Char} {ps : List (String × CciValue)}
    (h : luaParams E d pre r = some ps) :
    ∃ N, ∀ (s : ToolState Num) (t : Int) (depth fuel : Nat), Frame s.staticKey pre →
      stackSlot s.L t = some (.table r) → N ≤ fuel →
      ∃ n s', setParamsFromLuaTable E fuel t (some pre.length) depth s = .ok (n, s') ∧ s'.L = s.L := by
  obtain ⟨N, hN⟩ := simulates E d h
  refine ⟨N, fun s t depth fuel hf hslot hfuel => ?_⟩
  obtain ⟨n, s', hrun, -, hL, -⟩ := hN s t depth fuel hf hslot hfuel
  exact ⟨n, s', hrun, hL⟩

/-- `_G = {a = 1}`: every call on it, with enough fuel, returns with the stack it found. -/
theorem restores_stack_sample :
    ∃ N, ∀ (s : ToolState Nat) (t : Int) (depth fuel : Nat), Frame s.staticKey [] →
      stackSlot s.L t = some (.table 0) → N ≤ fuel →
      ∃ n s', setParamsFromLuaTable
        (⟨[⟨[(.string "a", .number 1)], by decide, by decide⟩], Int.ofNat, fun n => .ofInt n,
          ""⟩ : Env Nat) fuel t (some ([] : List Char).length) depth s = .ok (n, s') ∧ s'.L = s.L :=
  setParams_restores_stack (d := 1) (by rfl)

/-- **An invalid key in a nested table misaligns the stack.** With
`_G = {p = {c = {[true] = 1, x = 5}}, c = false}` (entries in this `lua_next` order), the call
on `p.c` returns `-1` at the key `true` with two slots too many; the call on `p` then resumes
`lua_next` on `p.c` and sets its `x` as `p.x`; the top call finds the key `c` last in `_G`, so
`_G.c` is never set, and `config()` goes on with a count of `0` and the stack two slots higher
than `[_G]`. -/
theorem invalid_key_misaligns_stack :
    ∃ s, configParams
      (⟨[⟨[(.string "p", .table 1), (.string "c", .boolean false)], by decide, by decide⟩,
        ⟨[(.string "c", .table 2)], by decide, by decide⟩,
        ⟨[(.boolean true, .number 1), (.string "x", .number 5)], by decide, by decide⟩],
        Int.ofNat, fun n => .ofInt n, ""⟩ : Env Nat) 0 8 ⟨[], [], [], 0⟩ = .ok (0, s) ∧
      s.L = [.table 1, .string "p", .table 0] ∧ s.presets = [("p.x", .uint64 5)] := by
  rw [configParams, setParams_none, setParams_succ_table_of_le (by rfl) (by decide)]
  -- the entry `p` is entered; that call returns two slots high, after `p.x`
  rw [traverse_succ_recurse (by rfl) (by rfl) (by decide) (by rfl)]
  -- `lua_next(L, 1)` then resumes `_G` after the key `c`, its last one
  rw [traverse_succ_end (by rfl)]
  exact ⟨_, rfl, rfl, rfl⟩

end LuaFile

end QBox
