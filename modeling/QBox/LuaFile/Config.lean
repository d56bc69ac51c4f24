import QBox.LuaFile.SetParams
import Mathlib.Data.String.Basic

/-!
# `config()` around the traversal

`LuaFile_Tool::config` (`luafile_tool.h`, lines 125–214) loads the file, runs it through a loader
script, traverses `_G` with `setParamsFromLuaTable`, closes the Lua state, and asks the broker to
ignore the presets that Lua's own globals leave unconsumed.

- `config`: the return value and which of `lua_close` and `ignore_unconsumed_preset_values` are
  reached, for each result of `luaL_loadfile` and of the traversal.
- `ignoredPreset`: the predicate handed to `ignore_unconsumed_preset_values` (lines 208–211).
- `ignoredPreset_rel`: the predicate is given the names `rel` made. Under an `_orig_name` (one
  that does not start with `_`), it matches none of the names it lists, nor any name starting
  with `_`: the presets of Lua's own globals are then reported as unconsumed.
-/

namespace QBox

namespace LuaFile

variable {Num : Type} [DecidableEq Num]

/-- What `luaL_loadfile` returned (lines 136–153). -/
inductive LoadStatus
  | ok
  | errSyntax
  | errMem
  | errFile
  | other
  deriving DecidableEq, Repr

/-- `config(config_file)` (lines 125–214), the file loaded with status `load` and the loader
script run, whether `luaL_dostring` failed or not (its message is only logged; `E` holds the
globals it left). The return value, the tool state, and whether the call reached `lua_close` and
`ignore_unconsumed_preset_values`: a load error returns `1`, and a negative count from the
traversal is returned before either. -/
def config (E : Env Num) (G fuel : Nat) (load : LoadStatus) (s : ToolState Num) :
    Except Halt (Int × ToolState Num × Bool) :=
  match load with
  | .ok => (configParams E G fuel s).map fun (error, s) =>
      if error < 0 then (error, s, false) else (0, s, true)
  | _ => .ok (1, s, false)

/-- The lambda given to `m_broker.ignore_unconsumed_preset_values` (lines 208–211):
`(iv.first)[0] == '_'` (the terminating `'\0'` of an empty name), or one of three names of
Lua's standard library. -/
def ignoredPreset (name : String) : Bool :=
  name.data.headD '\x00' == '_' || name == "math.maxinteger" || name == "math.mininteger" ||
    name == "utf8.charpattern"

/-- The names the predicate lists. -/
def ignoredNames : List String := ["math.maxinteger", "math.mininteger", "utf8.charpattern"]

theorem ignoredPreset_iff (name : String) :
    ignoredPreset name = true ↔ name.data.headD '\x00' = '_' ∨ name ∈ ignoredNames := by
  simp [ignoredPreset, ignoredNames, or_assoc]

/-- No proper suffix of a listed name is matched. -/
theorem ignoredPreset_drop {n : String} (hn : n ∈ ignoredNames) (j : Nat) :
    ignoredPreset ⟨n.data.drop (j + 1)⟩ = false := by
  have hsmall : ∀ n ∈ ignoredNames, ∀ j < 16, ignoredPreset ⟨n.data.drop (j + 1)⟩ = false := by
    decide
  rcases Nat.lt_or_ge j 16 with hj | hj
  · exact hsmall n hn j hj
  · have hlen : n.data.length ≤ j + 1 := by
      simp only [ignoredNames, List.mem_cons, List.mem_singleton, List.not_mem_nil, or_false] at hn
      rcases hn with rfl | rfl | rfl <;>
        (simp only [String.data, List.length_cons, List.length_nil]; omega)
    rw [List.drop_eq_nil_of_le hlen]
    rfl

omit [DecidableEq Num] in
/-- **Under an `_orig_name` the builtin filter misses its names.** When `m_orig_name` is not
empty and does not start with `_` (the constructor sets it to `_orig_name + "."`), no name that
the predicate matches is matched any more once `rel` has prefixed it. -/
theorem ignoredPreset_rel {E : Env Num} (hne : E.mOrigName ≠ "")
    (hhead : E.mOrigName.data.headD '\x00' ≠ '_') {k : String} (hk : ignoredPreset k = true) :
    ignoredPreset (E.rel k) = false := by
  have hrel : E.rel k = E.mOrigName ++ k := by
    simp [Env.rel, String.isEmpty_iff, hne]
  obtain ⟨_, _, _, ⟨o⟩⟩ := E
  obtain ⟨x⟩ := k
  obtain ⟨a, o, rfl⟩ := List.exists_cons_of_ne_nil fun h => hne (congrArg String.mk h)
  rw [hrel, Bool.eq_false_iff]
  intro h
  rcases (ignoredPreset_iff _).1 h with h | h
  · exact hhead h
  · have hd := ignoredPreset_drop h o.length
    simp only [String.data_append, List.cons_append, List.drop_succ_cons, List.drop_left] at hd
    exact Bool.false_ne_true (hd ▸ hk)

/-- A tool created with `_orig_name = "top"`: `math.maxinteger` is matched, `top.math.maxinteger`
is not. -/
theorem prefixed_builtin_sample :
    ignoredPreset "math.maxinteger" = true ∧
      ignoredPreset ((⟨[], Int.ofNat, fun n => .ofInt n, "top."⟩ : Env Nat).rel
        "math.maxinteger") = false :=
  ⟨by decide, ignoredPreset_rel (by decide) (by decide) (by decide)⟩

end LuaFile

end QBox
