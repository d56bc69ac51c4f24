import QBox.LuaFile.Lua
import QBox.LuaFile.KeyBuffer
import QBox.LuaFile.Number

/-!
# `LuaFile_Tool::setParamsFromLuaTable`

The traversal that turns the Lua global table into CCI preset values (`luafile_tool.h`,
lines 399–558), and the call in `config()` that starts it on `_G` (lines 196–205).

- `Env`: what the traversal reads and never changes: the Lua heap, the conversions
  `(long long)lua_tonumber(...)` and `lua_tonumber(...)`, and `m_orig_name` (for `rel`).
- `ToolState`: what it changes: the Lua stack, the bytes of `static_key`, and the
  `set_preset_cci_value` calls made so far, in order. `maxDepth` is ghost state: the largest
  number of nested `setParamsFromLuaTable` frames so far.
- `setKey`: the key switch, which writes the key into `static_key` at `level`.
- `leafValue`: the value switch for every value but a table.
- `setParamsFromLuaTable` and `traverse` (its `while (lua_next(L, t) != 0)` loop) are one
  mutual recursion on `fuel`, spent by every call and every iteration; a run that needs more
  ends in `Halt.outOfFuel`. A Lua error raised by `lua_next` ends the run in `Halt.luaError`.
  The result of the recursive call at line 531 is dropped, as in the source.
- `configParams`: `lua_getglobal(L, "_G")` and the top call, `level = NULL`.

The `__MINGW32__` branch of the number-key case and the logging are left out.
-/

namespace QBox

namespace LuaFile

variable {Num : Type} [DecidableEq Num]

/-- What the traversal reads and never changes. -/
structure Env (Num : Type) where
  /-- The Lua tables, by reference. -/
  heap : List (LuaTable Num)
  /-- `(long long)lua_tonumber(...)` of a Lua number. -/
  toLongLong : Num → Int
  /-- `lua_tonumber(...)` of a Lua number: the `double` it is, or converts to. -/
  toNumber : Num → Double
  /-- `m_orig_name`: empty, or the tool's `_orig_name` followed by `'.'`. -/
  mOrigName : String

/-- `rel(n)` (lines 78–84). -/
def Env.rel (E : Env Num) (n : String) : String :=
  if E.mOrigName.isEmpty then n else E.mOrigName ++ n

/-- What the traversal changes. -/
structure ToolState (Num : Type) where
  /-- The Lua stack, top first. -/
  L : List (LuaValue Num)
  /-- The bytes of `static_key` (and of the memory after it, past `MAX_NAME_SIZE`). -/
  staticKey : List Char
  /-- The `m_broker.set_preset_cci_value(name, value)` calls, in order. -/
  presets : List (String × CciValue)
  /-- Ghost: the most `setParamsFromLuaTable` frames active at once so far. -/
  maxDepth : Nat

/-- How a run of the traversal ends other than by returning. -/
inductive Halt
  /-- The model's fuel ran out: the run had not finished. -/
  | outOfFuel
  /-- `lua_next` raised an error (a key that is not in the table, "invalid key to 'next'"),
  which outside a protected call ends in Lua's panic handler. -/
  | luaError
  deriving DecidableEq

/-- The `size_t` size argument `MAX_NAME_SIZE - (level - static_key)` of the `snprintf` at
line 447: negative differences wrap modulo `2^64`. -/
def snprintfSize (level : Nat) : Nat :=
  (((MAX_NAME_SIZE : Int) - level) % 2 ^ 64).toNat

/-- Below `MAX_NAME_SIZE`, the size is the room left in `static_key`. -/
theorem snprintfSize_of_le {level : Nat} (h : level ≤ MAX_NAME_SIZE) :
    snprintfSize level = MAX_NAME_SIZE - level := by
  simp only [snprintfSize, MAX_NAME_SIZE] at h ⊢
  omega

/-- The key switch (lines 439–462) on the stack `L` (key at index `-2`) and the buffer `b`:
`next_level`, `should_inc_integer_index_count` and the buffer after the write; `none` for a key
that is neither a number nor a string (`return -1`). -/
def setKey (E : Env Num) (level : Nat) (L : List (LuaValue Num)) (b : List Char) :
    Option (Nat × Bool × List Char) :=
  match stackSlot L (-2) with
  | some (.number n) =>
    let r := snprintfLld b level (snprintfSize level) (E.toLongLong n - 1)
    some (level + r.1, true, r.2)
  | some (.string k) =>
    let b := strcpy b level k
    some (level + (cString b level).length, false, b)
  | _ => none

omit [DecidableEq Num] in
/-- A string key is copied whole at `level`, and `next_level` is the end of its C string. -/
theorem setKey_string {E : Env Num} {L : List (LuaValue Num)} {k : String}
    (hk : stackSlot L (-2) = some (.string k)) (level : Nat) (b : List Char) :
    setKey E level L b = some (level + (cStr k).length, false, strcpy b level k) := by
  simp only [setKey, hk, strcpy,
    cString_eq_of_spells_nul (spells_setBytes _ _ _) (nul_not_mem_cStr k)]

/-- The value switch (lines 464–517, 543–551) for a value that is not a table, at the name
`key` (`static_key` from its start): the `cci_value` set, `none` when the name is on the skip
list of the value's type or the type is ignored. A number is read as `double num =
lua_tonumber(L, -1)` and cast by `cciNumber`. -/
def leafValue (E : Env Num) (key : List Char) : LuaValue Num → Option CciValue
  | .number n =>
    if key = "math.huge".data ∨ key = "math.pi".data then none else some (cciNumber (E.toNumber n))
  | .boolean b => some (.boolean b)
  | .string v =>
    if key = "_VERSION".data ∨ key = "package.cpath".data ∨ key = "package.config".data ∨
        key = "package.path".data then none
    else some (.string ⟨cStr v⟩)
  | _ => none

/-- The recursion guard of line 522: `strcmp(key, "_G")`, `strcmp(key, "package.loaded")`,
`strcmp(level, "__index")`. -/
def skipsRecursion (key atLevel : List Char) : Prop :=
  key = "_G".data ∨ key = "package.loaded".data ∨ atLevel = "__index".data

instance (key atLevel : List Char) : Decidable (skipsRecursion key atLevel) :=
  inferInstanceAs (Decidable (_ ∨ _))

/-- A leaf's preset: appended to the calls, and the count raised when the key was a number. -/
def setLeaf (E : Env Num) (key : List Char) (c : CciValue) (shouldInc : Bool) (count : Int)
    (s : ToolState Num) : Int × ToolState Num :=
  (if shouldInc then count + 1 else count,
    { s with presets := s.presets ++ [(E.rel ⟨key⟩, c)] })

mutual

/-- `setParamsFromLuaTable(L, t, level)` (lines 399–434) at recursion depth `depth`: `none`
for `level` is `NULL`, `some i` for `static_key + i`. -/
def setParamsFromLuaTable (E : Env Num) :
    Nat → Int → Option Nat → Nat → ToolState Num → Except Halt (Int × ToolState Num)
  | 0, _, _, _, _ => .error .outOfFuel
  | fuel + 1, t, level, depth, s =>
    let level := level.getD 0
    let s := { s with maxDepth := max s.maxDepth depth }
    let s := if MAX_NAME_SIZE < level then
      { s with staticKey := setByte s.staticKey (MAX_NAME_SIZE - 1) '\x00' } else s
    match stackSlot s.L t with
    | some (.table _) =>
      traverse E fuel (if t < 0 then t - 1 else t) level depth 0 { s with L := .nil :: s.L }
    | _ => .ok (-1, s)

/-- The loop `while (lua_next(L, t) != 0)` (lines 434–557), with `integer_index_count = count`
and the previous key on top of the stack. -/
def traverse (E : Env Num) :
    Nat → Int → Nat → Nat → Int → ToolState Num → Except Halt (Int × ToolState Num)
  | 0, _, _, _, _, _ => .error .outOfFuel
  | fuel + 1, t, level, depth, count, s =>
    match luaNext E.heap s.L t with
    | none => .error .luaError
    | some (false, L) => .ok (count, { s with L := L })
    | some (true, L) =>
      match setKey E level L s.staticKey with
      | none => .ok (-1, { s with L := L })
      | some (nextLevel, shouldInc, b) =>
        let s := { s with L := L, staticKey := b }
        let key := cString b 0
        match stackSlot L (-1) with
        | some (.table _) =>
          if skipsRecursion key (cString b level) then
            traverse E fuel t level depth count { s with L := L.drop 1 }
          else
            match setParamsFromLuaTable E fuel (-1) (some (nextLevel + 1)) (depth + 1)
                { s with staticKey := setByte b nextLevel '.' } with
            | .error h => .error h
            | .ok (_, s) => traverse E fuel t level depth count { s with L := s.L.drop 1 }
        | v =>
          match v.bind (leafValue E key) with
          | none => traverse E fuel t level depth count { s with L := L.drop 1 }
          | some c =>
            let r := setLeaf E key c shouldInc count s
            traverse E fuel t level depth r.1 { r.2 with L := L.drop 1 }

end

/-- `config()` from line 198: `lua_getglobal(L, "_G")` pushes the table `G`, then
`setParamsFromLuaTable(L, lua_gettop(L))` runs with `level = NULL` as the only frame. -/
def configParams (E : Env Num) (G fuel : Nat) (s : ToolState Num) :
    Except Halt (Int × ToolState Num) :=
  setParamsFromLuaTable E fuel (s.L.length + 1) none 1 { s with L := .table G :: s.L }

/-! ## One lemma per path through a call and an iteration -/

section Paths

variable {E : Env Num} {fuel depth level nl : Nat} {t : Int} {count : Int} {s : ToolState Num}
  {L : List (LuaValue Num)} {k : LuaValue Num} {inc : Bool} {b : List Char}

/-- `level == NULL` starts at `static_key`. -/
theorem setParams_none :
    setParamsFromLuaTable E fuel t none depth s = setParamsFromLuaTable E fuel t (some 0) depth s := by
  cases fuel <;> rfl

/-- A call at a table pushes `nil` and starts the loop, after the overflow check. -/
theorem setParams_succ_table {r : Nat} (hslot : stackSlot s.L t = some (.table r)) :
    setParamsFromLuaTable E (fuel + 1) t (some level) depth s =
      traverse E fuel (if t < 0 then t - 1 else t) level depth 0
        { s with
          maxDepth := max s.maxDepth depth
          L := .nil :: s.L
          staticKey := if MAX_NAME_SIZE < level then
            setByte s.staticKey (MAX_NAME_SIZE - 1) '\x00' else s.staticKey } := by
  by_cases h : MAX_NAME_SIZE < level <;> simp [setParamsFromLuaTable, h, hslot]

/-- The same when `level` is within `static_key`: the overflow check writes nothing. -/
theorem setParams_succ_table_of_le {r : Nat} (hslot : stackSlot s.L t = some (.table r))
    (hlevel : level ≤ MAX_NAME_SIZE) :
    setParamsFromLuaTable E (fuel + 1) t (some level) depth s =
      traverse E fuel (if t < 0 then t - 1 else t) level depth 0
        { s with maxDepth := max s.maxDepth depth, L := .nil :: s.L } := by
  simp [setParams_succ_table hslot, not_lt.2 hlevel]

/-- Past the last entry `lua_next` pops the key and the loop returns the count. -/
theorem traverse_succ_end (hnext : luaNext E.heap s.L t = some (false, L)) :
    traverse E (fuel + 1) t level depth count s = .ok (count, { s with L := L }) := by
  simp [traverse, hnext]

/-- A table value the guard of line 522 matches is popped and the loop goes on. -/
theorem traverse_succ_skip {r : Nat}
    (hnext : luaNext E.heap s.L t = some (true, .table r :: k :: L))
    (hkey : setKey E level (.table r :: k :: L) s.staticKey = some (nl, inc, b))
    (hskip : skipsRecursion (cString b 0) (cString b level)) :
    traverse E (fuel + 1) t level depth count s =
      traverse E fuel t level depth count { s with L := k :: L, staticKey := b } := by
  simp [traverse, hnext, hkey, hskip]

/-- A table value the guard does not match is entered below `next_level` and a `'.'`;
whatever the nested call returns, the loop pops one slot and goes on. -/
theorem traverse_succ_recurse {r : Nat} {n : Int} {s' : ToolState Num}
    (hnext : luaNext E.heap s.L t = some (true, .table r :: k :: L))
    (hkey : setKey E level (.table r :: k :: L) s.staticKey = some (nl, inc, b))
    (hskip : ¬ skipsRecursion (cString b 0) (cString b level))
    (hchild : setParamsFromLuaTable E fuel (-1) (some (nl + 1)) (depth + 1)
      { s with L := .table r :: k :: L, staticKey := setByte b nl '.' } = .ok (n, s')) :
    traverse E (fuel + 1) t level depth count s =
      traverse E fuel t level depth count { s' with L := s'.L.drop 1 } := by
  simp [traverse, hnext, hkey, hskip, hchild]

/-- A nested call that does not return ends the loop the same way. -/
theorem traverse_succ_recurse_error {r : Nat} {h : Halt}
    (hnext : luaNext E.heap s.L t = some (true, .table r :: k :: L))
    (hkey : setKey E level (.table r :: k :: L) s.staticKey = some (nl, inc, b))
    (hskip : ¬ skipsRecursion (cString b 0) (cString b level))
    (hchild : setParamsFromLuaTable E fuel (-1) (some (nl + 1)) (depth + 1)
      { s with L := .table r :: k :: L, staticKey := setByte b nl '.' } = .error h) :
    traverse E (fuel + 1) t level depth count s = .error h := by
  simp [traverse, hnext, hkey, hskip, hchild]

/-- A leaf that sets nothing is popped and the loop goes on. -/
theorem traverse_succ_leaf_none {v : LuaValue Num} (hv : ∀ r, v ≠ .table r)
    (hnext : luaNext E.heap s.L t = some (true, v :: k :: L))
    (hkey : setKey E level (v :: k :: L) s.staticKey = some (nl, inc, b))
    (hleaf : leafValue E (cString b 0) v = none) :
    traverse E (fuel + 1) t level depth count s =
      traverse E fuel t level depth count { s with L := k :: L, staticKey := b } := by
  cases v <;> first | exact absurd rfl (hv _) | simp_all [traverse]

/-- A leaf that sets a parameter appends it, counts it after a number key, and is popped. -/
theorem traverse_succ_leaf_some {v : LuaValue Num} {c : CciValue} (hv : ∀ r, v ≠ .table r)
    (hnext : luaNext E.heap s.L t = some (true, v :: k :: L))
    (hkey : setKey E level (v :: k :: L) s.staticKey = some (nl, inc, b))
    (hleaf : leafValue E (cString b 0) v = some c) :
    traverse E (fuel + 1) t level depth count s =
      traverse E fuel t level depth (if inc then count + 1 else count)
        { s with L := k :: L, staticKey := b, presets := s.presets ++ [(E.rel ⟨cString b 0⟩, c)] } := by
  cases v <;> first | exact absurd rfl (hv _) | simp_all [traverse, setLeaf]
end Paths

end LuaFile

end QBox
