import QBox.LuaFile.Params

/-!
# The traversal computes the configuration's parameters

`setParamsFromLuaTable` simulates `luaParams`: wherever the spec gives the parameters `ps` of a
table, the call with enough fuel returns normally, appends exactly `ps` to the presets, and
leaves the stack as it found it (`simulates`).

- `Frame b pre`: the name buffer as a call at prefix `pre` relies on it: bytes `0 …` spell
  `pre`, which has no NUL and fits in `MAX_NAME_SIZE`. The enclosing levels' prefix is never
  overwritten, and each key is written with its terminator, so a name never carries bytes of an
  earlier, longer one (`setKey_spec`).
- `Completes`: what a call or an iteration that returns normally has done.
- `traverse_completes`: the loop, by induction on the entries still to visit; `simulates`: the
  call, by induction on the nesting depth.
- `config_sets_params`: `config()` sets exactly the parameters `luaParams` lists, in order.
- `config_cuts_strings_and_rounds_integers`: names and string values stop at their first NUL
  byte, and a Lua integer beyond 53 bits is set as the `double` it rounds to.
-/

namespace QBox

namespace LuaFile

variable {Num : Type} {E : Env Num}

/-! ## The code's checks are the spec's -/

/-- The value switch sets what `leafParam` says, on the name the buffer holds. -/
theorem leafValue_eq_leafParam (name : List Char) (v : LuaValue Num) :
    leafValue E name v = leafParam E name v := by
  cases v <;> simp [leafValue, leafParam, String.ext_iff]

/-- The guard of line 522 skips what `skippedTable` says. -/
theorem skipsRecursion_iff (name c : List Char) :
    skipsRecursion name c ↔ skippedTable name c := by
  simp [skipsRecursion, skippedTable, String.ext_iff]

/-- A name component has no NUL, so it is read back whole. -/
theorem nul_not_mem_component {k : LuaValue Num} {c : List Char} (h : component E k = some c) :
    '\x00' ∉ c := by
  cases k <;> simp only [component, Option.some.injEq, reduceCtorEq] at h <;> subst h
  · exact nul_not_mem_decimal _
  · exact nul_not_mem_cStr _

/-! ## The name buffer -/

/-- The name buffer as a call at prefix `pre` relies on it. -/
structure Frame (b pre : List Char) : Prop where
  spells : Spells b 0 pre
  noNul : '\x00' ∉ pre
  fits : pre.length ≤ MAX_NAME_SIZE

/-- **A key write**: at `level = pre.length`, a key whose name component fits is written after
the prefix with its terminator, and `next_level` is the end of the component. -/
theorem setKey_spec {L : List (LuaValue Num)} {b pre c : List Char} {k : LuaValue Num}
    (hk : stackSlot L (-2) = some k) (hc : component E k = some c) (hf : Frame b pre)
    (hfit : pre.length + c.length < MAX_NAME_SIZE) :
    ∃ inc b', setKey E pre.length L b = some (pre.length + c.length, inc, b') ∧
      Spells b' 0 (pre ++ c ++ ['\x00']) := by
  have hw : Spells (setBytes b pre.length (c ++ ['\x00'])) 0 (pre ++ c ++ ['\x00']) := by
    rw [List.append_assoc, spells_append, Nat.zero_add]
    exact ⟨hf.spells.setBytes_of_le (i := pre.length) (by simp) _, spells_setBytes _ _ _⟩
  cases k <;> simp only [component, Option.some.injEq, reduceCtorEq] at hc <;> subst hc
  case number n =>
    have hsz : snprintfSize pre.length = MAX_NAME_SIZE - pre.length := snprintfSize_of_le (by omega)
    refine ⟨true, _, ?_, hw⟩
    simp only [setKey, hk, snprintfLld, hsz]
    rw [if_neg (by omega), List.take_of_length_le (by omega)]
  case string k => exact ⟨false, _, setKey_string hk _ _, hw⟩

/-- The prefix of a nested table: the name and a `'.'`. -/
theorem Frame.child {b pre c : List Char} (hb : Spells b 0 (pre ++ c)) (hpre : '\x00' ∉ pre)
    (hc : '\x00' ∉ c) (hfit : pre.length + c.length < MAX_NAME_SIZE) :
    Frame (setByte b (pre.length + c.length) '.') (pre ++ c ++ ['.']) where
  spells := by
    refine spells_append.2 ⟨hb.setByte_of_le (by simp) '.', ?_⟩
    simp [Spells]
  noNul := by simp [hpre, hc]
  fits := by simp; omega

/-! ## What a call returns -/

/-- A call or an iteration from `s` that returned normally: a count of at least `lo`, the stack
`L`, the parameters `ps` appended to the presets, the prefix `pre` still in `static_key`, and at
most `bound` frames active at once. -/
def Completes (s : ToolState Num) (pre : List Char) (ps : List (String × CciValue))
    (L : List (LuaValue Num)) (lo : Int) (bound : Nat) (res : Except Halt (Int × ToolState Num)) :
    Prop :=
  ∃ n s', res = .ok (n, s') ∧ lo ≤ n ∧ s'.L = L ∧ s'.presets = s.presets ++ ps ∧
    Spells s'.staticKey 0 pre ∧ s'.maxDepth ≤ max s.maxDepth bound

/-- A step that appended `p` before a run that completes. -/
theorem Completes.prepend {s s₁ : ToolState Num} {pre : List Char}
    {p ps : List (String × CciValue)} {L : List (LuaValue Num)} {lo lo₁ : Int} {bound : Nat}
    {res : Except Halt (Int × ToolState Num)} (h : Completes s₁ pre ps L lo₁ bound res)
    (hp : s₁.presets = s.presets ++ p) (hd : s₁.maxDepth ≤ max s.maxDepth bound) (hlo : lo ≤ lo₁) :
    Completes s pre (p ++ ps) L lo bound res := by
  obtain ⟨n, s', rfl, hn, hL, hps, hsp, hmd⟩ := h
  exact ⟨n, s', rfl, hlo.trans hn, hL, by rw [hps, hp, List.append_assoc], hsp, by omega⟩

/-! ## The loop -/

/-- An entry the spec accepts: a key with a component that fits, then a table that is skipped or
entered, or a leaf. -/
theorem entryParams_some {child : List Char → Nat → Option (List (String × CciValue))}
    {pre : List Char} {k v : LuaValue Num} {p : List (String × CciValue)}
    (h : entryParams E child pre k v = some p) :
    ∃ c, component E k = some c ∧ pre.length + c.length < MAX_NAME_SIZE ∧
      ((∃ r, v = .table r ∧ (skippedTable (pre ++ c) c ∧ p = [] ∨
          ¬ skippedTable (pre ++ c) c ∧ child (pre ++ c ++ ['.']) r = some p)) ∨
        ((∀ r, v ≠ .table r) ∧
          p = ((leafParam E (pre ++ c) v).map fun x => (E.rel ⟨pre ++ c⟩, x)).toList)) := by
  cases hc : component E k with
  | none => simp [entryParams, hc] at h
  | some c =>
  simp only [entryParams, hc, Option.bind_eq_bind, Option.some_bind] at h
  refine ⟨c, rfl, ?_⟩
  by_cases hfit : MAX_NAME_SIZE ≤ pre.length + c.length
  · simp [hfit] at h
  rw [if_neg hfit] at h
  refine ⟨by omega, ?_⟩
  cases v with
  | table r =>
    refine .inl ⟨r, rfl, ?_⟩
    split_ifs at h with hs
    · exact .inl ⟨hs, (Option.some.inj h).symm⟩
    · exact .inr ⟨hs, h⟩
  | _ => exact .inr ⟨nofun, (Option.some.inj h).symm⟩

variable [DecidableEq Num]

/-- `setParamsFromLuaTable` does what `luaParams E d` says: from every state whose buffer holds
the prefix, with the table at index `t`, enough fuel makes the call complete with the spec's
parameters and at most `depth + d - 1` frames. -/
def Simulates (E : Env Num) (d : Nat) : Prop :=
  ∀ ⦃pre r ps⦄, luaParams E d pre r = some ps → ∃ N, ∀ (s : ToolState Num) (t : Int) (depth fuel : Nat),
    Frame s.staticKey pre → stackSlot s.L t = some (.table r) → N ≤ fuel →
    Completes s pre ps s.L 0 (depth + d - 1) (setParamsFromLuaTable E fuel t (some pre.length) depth s)

/-- The start of an iteration on the entry `(k, v)`: `lua_next` pushes it, and the key write
leaves the prefix, the component and a NUL. -/
theorem iteration_start {r : Nat} {tbl : LuaTable Num} {t : Int} {L0 : List (LuaValue Num)}
    {done rest : List (LuaValue Num × LuaValue Num)} {k v : LuaValue Num} {s : ToolState Num}
    {pre c : List Char} (hheap : E.heap[r]? = some tbl)
    (hslot : ∀ k, stackSlot (k :: L0) t = some (.table r))
    (he : tbl.entries = done ++ (k, v) :: rest) (hL : s.L = lastKey done :: L0)
    (hc : component E k = some c) (hf : Frame s.staticKey pre)
    (hfit : pre.length + c.length < MAX_NAME_SIZE) :
    ∃ inc b, luaNext E.heap s.L t = some (true, v :: k :: L0) ∧
      setKey E pre.length (v :: k :: L0) s.staticKey = some (pre.length + c.length, inc, b) ∧
      Spells b 0 (pre ++ c ++ ['\x00']) ∧ cString b 0 = pre ++ c ∧ cString b pre.length = c := by
  obtain ⟨inc, b, hkey, hb⟩ := setKey_spec (stackSlot_second v k L0) hc hf hfit
  have hcn := nul_not_mem_component hc
  refine ⟨inc, b, by rw [hL]; exact luaNext_lastKey hheap he (hslot _), hkey, hb,
    cString_eq_of_spells_nul hb (by simp [hf.noNul, hcn]), ?_⟩
  rw [List.append_assoc, spells_append, Nat.zero_add] at hb
  exact cString_eq_of_spells_nul hb.2 hcn

/-- **The loop** visits the entries `rest` still ahead of `lua_next`, appending their
parameters. -/
theorem traverse_completes {d r : Nat} {tbl : LuaTable Num} (hsim : Simulates E d)
    (hheap : E.heap[r]? = some tbl) {pre : List Char} :
    ∀ {rest : List (LuaValue Num × LuaValue Num)} {ps : List (String × CciValue)},
      entriesParams E (luaParams E d) pre rest = some ps → ∃ N, ∀ done (s : ToolState Num) (t : Int)
        (L0 : List (LuaValue Num)) (depth : Nat) (count : Int) (fuel : Nat),
        tbl.entries = done ++ rest → (∀ k, stackSlot (k :: L0) t = some (.table r)) →
        s.L = lastKey done :: L0 → Frame s.staticKey pre → N ≤ fuel →
        Completes s pre ps L0 count (depth + d) (traverse E fuel t pre.length depth count s) := by
  intro rest
  induction rest with
  | nil =>
    intro ps hps
    obtain rfl : ps = [] := (Option.some.inj hps).symm
    refine ⟨1, fun done s t L0 depth count fuel he hslot hL hf hN => ?_⟩
    obtain ⟨fuel, rfl⟩ : ∃ f, fuel = f + 1 := ⟨fuel - 1, by omega⟩
    have hnext : luaNext E.heap s.L t = some (false, L0) := by
      rw [hL]; exact luaNext_lastKey hheap he (hslot _)
    exact ⟨count, _, traverse_succ_end hnext, le_rfl, rfl, by simp, hf.spells, le_max_left _ _⟩
  | cons e rest ih =>
    intro ps hps
    obtain ⟨k, v⟩ := e
    obtain ⟨p, ps', hp, hps', rfl⟩ := entriesParams_cons hps
    obtain ⟨N', hN'⟩ := ih hps'
    obtain ⟨c, hc, hfit, hv⟩ := entryParams_some hp
    -- the rest of the loop, from the state after this entry
    have next : ∀ done (s : ToolState Num) t L0 depth count fuel,
        tbl.entries = done ++ (k, v) :: rest → (∀ k, stackSlot (k :: L0) t = some (.table r)) →
        s.L = k :: L0 → Spells s.staticKey 0 pre → '\x00' ∉ pre → pre.length ≤ MAX_NAME_SIZE →
        N' ≤ fuel →
        Completes s pre ps' L0 count (depth + d) (traverse E fuel t pre.length depth count s) :=
      fun done s t L0 depth count fuel he hslot hL hsp hnn hfits hN =>
        hN' (done ++ [(k, v)]) s t L0 depth count fuel (by simp [he]) hslot (by simp [hL])
          ⟨hsp, hnn, hfits⟩ hN
    rcases hv with ⟨r', rfl, ⟨hskip, rfl⟩ | ⟨hskip, hchild⟩⟩ | ⟨hv, rfl⟩
    · -- a table the traversal does not enter
      refine ⟨N' + 1, fun done s t L0 depth count fuel he hslot hL hf hN => ?_⟩
      obtain ⟨fuel, rfl⟩ : ∃ f, fuel = f + 1 := ⟨fuel - 1, by omega⟩
      obtain ⟨inc, b, hnext, hkey, hb, hname, hcomp⟩ :=
        iteration_start hheap hslot he hL hc hf hfit
      rw [traverse_succ_skip hnext hkey (by rw [hname, hcomp, skipsRecursion_iff]; exact hskip)]
      exact (next done _ t L0 depth count fuel he hslot rfl hb.of_append.of_append hf.noNul
        hf.fits (by omega)).prepend (by simp) (by simp) le_rfl
    · -- a nested table, entered at `next_level + 1`
      obtain ⟨Nc, hNc⟩ := hsim hchild
      refine ⟨max N' Nc + 1, fun done s t L0 depth count fuel he hslot hL hf hN => ?_⟩
      obtain ⟨fuel, rfl⟩ : ∃ f, fuel = f + 1 := ⟨fuel - 1, by omega⟩
      obtain ⟨inc, b, hnext, hkey, hb, hname, hcomp⟩ :=
        iteration_start hheap hslot he hL hc hf hfit
      obtain ⟨n, sc, hrun, -, hscL, hscp, hscsp, hscd⟩ :=
        hNc { s with L := .table r' :: k :: L0, staticKey := setByte b (pre.length + c.length) '.' }
          (-1) (depth + 1) fuel
          (Frame.child hb.of_append hf.noNul (nul_not_mem_component hc) hfit) (by simp)
          (by omega)
      simp only [List.length_append, List.length_singleton, Nat.add_assoc] at hrun
      rw [traverse_succ_recurse hnext hkey (by rw [hname, hcomp, skipsRecursion_iff]; exact hskip)
        hrun]
      have h1 : ({ sc with L := sc.L.drop 1 } : ToolState Num).L = k :: L0 := by
        simp [hscL]
      exact (next done _ t L0 depth count fuel he hslot h1
        hscsp.of_append.of_append hf.noNul hf.fits (by omega)).prepend hscp
        (by rw [show depth + 1 + d - 1 = depth + d by omega] at hscd; exact hscd) le_rfl
    · -- a leaf
      refine ⟨N' + 1, fun done s t L0 depth count fuel he hslot hL hf hN => ?_⟩
      obtain ⟨fuel, rfl⟩ : ∃ f, fuel = f + 1 := ⟨fuel - 1, by omega⟩
      obtain ⟨inc, b, hnext, hkey, hb, hname, -⟩ := iteration_start hheap hslot he hL hc hf hfit
      have hl : leafValue E (cString b 0) v = leafParam E (pre ++ c) v := by
        rw [hname, leafValue_eq_leafParam]
      have hrest := fun count fuel' (s : ToolState Num) (hsk : s.staticKey = b) (hL : s.L = k :: L0)
          (hN : N' ≤ fuel') =>
        next done s t L0 depth count fuel' he hslot hL (hsk ▸ hb.of_append.of_append) hf.noNul
          hf.fits hN
      cases hlp : leafParam E (pre ++ c) v with
      | none =>
        rw [traverse_succ_leaf_none hv hnext hkey (hl.trans hlp)]
        exact (hrest count fuel _ rfl rfl (by omega)).prepend (by simp) (by simp) le_rfl
      | some x =>
        rw [traverse_succ_leaf_some hv hnext hkey (hl.trans hlp)]
        exact (hrest _ fuel _ rfl rfl (by omega)).prepend (by simp [hname]) (by simp)
          (by split <;> omega)

/-- **`setParamsFromLuaTable` simulates the spec**, at every nesting depth. -/
theorem simulates (E : Env Num) : ∀ d, Simulates E d
  | 0 => fun _ _ _ h => by simp [luaParams] at h
  | d + 1 => fun pre r ps h => by
    obtain ⟨tbl, hheap, hps⟩ := luaParams_succ h
    obtain ⟨N, hN⟩ := traverse_completes (simulates E d) hheap hps
    refine ⟨N + 1, fun s t depth fuel hf hslot hfuel => ?_⟩
    obtain ⟨fuel, rfl⟩ : ∃ f, fuel = f + 1 := ⟨fuel - 1, by omega⟩
    rw [setParams_succ_table_of_le hslot hf.fits, show depth + (d + 1) - 1 = depth + d by omega]
    have h := (hN [] { s with maxDepth := max s.maxDepth depth, L := .nil :: s.L } _ s.L depth 0
      fuel (by simp) (fun k => stackSlot_cons_adjust hslot k) rfl hf (by omega)).prepend (p := [])
      (s := s) (by simp) (by simp; omega) le_rfl
    rwa [List.nil_append] at h

/-! ## `config()` -/

/-- The call `config()` makes, on a configuration the spec accepts. -/
theorem config_completes {d G : Nat} {ps : List (String × CciValue)}
    (h : luaParams E d [] G = some ps) (s : ToolState Num) :
    ∃ N, ∀ fuel, N ≤ fuel → Completes { s with L := .table G :: s.L } [] ps (.table G :: s.L) 0
      (1 + d - 1) (configParams E G fuel s) := by
  obtain ⟨N, hN⟩ := simulates E d h
  refine ⟨N, fun fuel hfuel => ?_⟩
  rw [configParams, setParams_none]
  exact hN _ _ 1 fuel ⟨trivial, List.not_mem_nil _, Nat.zero_le _⟩ (stackSlot_gettop _ _) hfuel

/-- **What `config()` sets.** When the spec gives the parameters `ps` of the global table `G`
(every traversed key a string or a number, every name within `MAX_NAME_SIZE`, the tables
entered nesting at most `d` deep), the traversal started by `config()` returns a nonnegative
count, so `config()` goes on, and its `set_preset_cci_value` calls are exactly `ps`, in order,
whatever the name buffer held before. -/
theorem config_sets_params {d G : Nat} {ps : List (String × CciValue)}
    (h : luaParams E d [] G = some ps) (s : ToolState Num) :
    ∃ N, ∀ fuel, N ≤ fuel → ∃ n s', configParams E G fuel s = .ok (n, s') ∧ 0 ≤ n ∧
      s'.presets = s.presets ++ ps := by
  obtain ⟨N, hN⟩ := config_completes h s
  refine ⟨N, fun fuel hfuel => ?_⟩
  obtain ⟨n, s', hrun, hn, -, hps, -⟩ := hN fuel hfuel
  exact ⟨n, s', hrun, hn, hps⟩

/-- The configuration `n = 3, t = {true}` defines `n` and `t.0`. -/
theorem config_sets_params_sample :
    ∃ N, ∀ fuel, N ≤ fuel → ∃ n s', configParams
      (⟨[⟨[(.string "n", .number 3), (.string "t", .table 1)], by decide, by decide⟩,
        ⟨[(.number 1, .boolean true)], by decide, by decide⟩], Int.ofNat, fun n => .ofInt n, ""⟩ : Env Nat) 0 fuel
      ⟨[], [], [], 0⟩ = .ok (n, s') ∧ 0 ≤ n ∧
      s'.presets = [] ++ [("n", .uint64 3), ("t.0", .boolean true)] :=
  config_sets_params (d := 2) (by rfl) _

/-- **Names and values are not always the leaf's own.** From `_G = {["a\0b"] = true,
s = "x\0y", m = math.maxinteger}`, `config()` sets `a` to `true`, `s` to `"x"`, and `m` to
the `uint64_t` `2 ^ 63`: names and string values stop at their first NUL, and `lua_tonumber`
rounds the integer `2 ^ 63 - 1` to the nearest `double`. -/
theorem config_cuts_strings_and_rounds_integers :
    ∃ s, configParams
      (⟨[⟨[(.string "a\x00b", .boolean true), (.string "s", .string "x\x00y"),
        (.string "m", .number (2 ^ 63 - 1))], by decide, by decide⟩], Int.ofNat,
        fun n => .ofInt n, ""⟩ : Env Nat) 0 5 ⟨[], [], [], 0⟩ = .ok (0, s) ∧
      s.presets = [("a", .boolean true), ("s", .string "x"), ("m", .uint64 (2 ^ 63))] := by
  refine ⟨_, rfl, ?_⟩
  rw [← cciNumber_maxinteger]
  rfl

end LuaFile

end QBox
