import QBox.LuaFile.SetParams

/-!
# Where the traversal stores in `static_key`

`setParamsFromLuaTable` stores into `static_key` at three places: `snprintf` of a number key
(line 447), `strcpy` of a string key (line 455), and the `'.'` before a nested table (line 528),
at `next_level`. Only `snprintf` is given a size. No name is checked before it is stored: the
test of lines 414–420 runs on entry to a nested call, after the stores that built its `level`,
and it only cuts the name at byte `MAX_NAME_SIZE - 1` before the traversal goes on.

- `setKey_number_within`: a number key stored at a `level` within the array stays within it,
  though `next_level` moves on by the whole decimal.
- `long_key_written_past_static_key`: `config()` on a global table whose only key is a string
  of `MAX_NAME_SIZE` bytes or more copies the whole key, past the end of `static_key`, sets the
  parameter under that name and returns `0`.
-/

namespace QBox

namespace LuaFile

variable {Num : Type} {E : Env Num}

/-- **`snprintf` keeps to the room left.** A number key at a `level` within `static_key` stores
at most `MAX_NAME_SIZE - level` bytes, while `next_level` moves on by the whole decimal. -/
theorem setKey_number_within {L : List (LuaValue Num)} {n : Num}
    (hk : stackSlot L (-2) = some (.number n)) {level : Nat} (hlevel : level ≤ MAX_NAME_SIZE)
    (b : List Char) :
    ∃ b', setKey E level L b = some (level + (decimal (E.toLongLong n - 1)).length, true, b') ∧
      b'.length ≤ max b.length MAX_NAME_SIZE := by
  refine ⟨_, by simp only [setKey, hk]; rfl, ?_⟩
  simp only [snprintfLld, snprintfSize_of_le hlevel]
  split_ifs
  · exact le_max_left _ _
  · rw [length_setBytes _ _ (by simp)]
    simp only [List.length_append, List.length_take, List.length_singleton]
    omega

variable [DecidableEq Num]

/-- **A long key is stored past `static_key`.** When the global table `G` holds one entry, under
a string key whose C string has `MAX_NAME_SIZE` bytes or more, and a value that is not a table,
`config()` copies the whole key and its terminator into `static_key`, through byte
`strlen(key) ≥ MAX_NAME_SIZE`, sets the value's parameter (if its type sets one) under the whole
name, and returns `0`: nothing rejects the name before or after the store. -/
theorem long_key_written_past_static_key {G : Nat} {tbl : LuaTable Num} {k : String}
    {v : LuaValue Num} (hheap : E.heap[G]? = some tbl) (he : tbl.entries = [(.string k, v)])
    (hv : ∀ r, v ≠ .table r) (hk : MAX_NAME_SIZE ≤ (cStr k).length) (s : ToolState Num)
    {fuel : Nat} (hfuel : 3 ≤ fuel) :
    ∃ s', configParams E G fuel s = .ok (0, s') ∧ s'.staticKey = strcpy s.staticKey 0 k ∧
      MAX_NAME_SIZE < s'.staticKey.length ∧
      s'.presets = s.presets ++ ((leafValue E (cStr k) v).map fun c => (E.rel ⟨cStr k⟩, c)).toList := by
  obtain ⟨fuel, rfl⟩ : ∃ f, fuel = f + 2 + 1 := ⟨fuel - 3, by omega⟩
  have hslot := stackSlot_cons_adjust (stackSlot_gettop (.table G) s.L)
  have hfirst := luaNext_lastKey hheap (he.trans (List.nil_append _).symm) (hslot .nil)
  have hlast := luaNext_lastKey hheap (he.trans (List.append_nil _).symm) (hslot (.string k))
  have hkey := setKey_string (E := E) (stackSlot_second v (.string k) (.table G :: s.L)) 0 s.staticKey
  have hname : cString (strcpy s.staticKey 0 k) 0 = cStr k :=
    cString_eq_of_spells_nul (spells_setBytes _ _ _) (nul_not_mem_cStr k)
  have hlen : MAX_NAME_SIZE < (strcpy s.staticKey 0 k).length := by
    rw [length_strcpy]
    omega
  rw [configParams, setParams_none, setParams_succ_table_of_le (stackSlot_gettop _ _) (Nat.zero_le _)]
  cases hleaf : leafValue E (cStr k) v with
  | none =>
    rw [traverse_succ_leaf_none hv (by exact hfirst) (by exact hkey) (hname ▸ hleaf),
      traverse_succ_end (by exact hlast)]
    exact ⟨_, rfl, rfl, hlen, by simp⟩
  | some c =>
    rw [traverse_succ_leaf_some hv (by exact hfirst) (by exact hkey) (hname ▸ hleaf),
      traverse_succ_end (by exact hlast)]
    exact ⟨_, rfl, rfl, hlen, by simp [hname]⟩

/-- `_G = {[string.rep("a", 1000)] = true}`: the terminator lands at byte `1000`. -/
theorem long_key_overflow_sample :
    ∃ s', configParams
      (⟨[⟨[(.string ⟨List.replicate 1000 'a'⟩, .boolean true)], by decide, by decide⟩], Int.ofNat,
        fun n => .ofInt n, ""⟩ : Env Nat) 0 3 ⟨[], [], [], 0⟩ = .ok (0, s') ∧
      s'.staticKey = strcpy [] 0 ⟨List.replicate 1000 'a'⟩ ∧ MAX_NAME_SIZE < s'.staticKey.length ∧
      s'.presets = [(⟨cStr ⟨List.replicate 1000 'a'⟩⟩, .boolean true)] :=
  long_key_written_past_static_key (v := .boolean true) rfl rfl (fun _ => by simp)
    (length_cStr_replicate (c := 'a') (by decide) 1000).ge _ le_rfl

end LuaFile

end QBox
