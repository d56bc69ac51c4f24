import Mathlib.Data.List.Nodup

/-!
# The Lua side of `LuaFile_Tool`

`LuaFile_Tool::setParamsFromLuaTable` (`luafile_tool.h`) walks a Lua table through the C API:
`lua_pushnil`, `lua_next`, `lua_type`, `lua_pop` on the stack of a `lua_State`. This module
embeds what those calls read and do.

- `LuaValue Num`: a value by its `lua_type`; `Num` is the type of `lua_Number`, left abstract
  (the traversal compares numbers only as table keys and converts them only through
  `(long long)`, which the traversal takes as a parameter). Tables and the other reference
  types are references into the heap.
- `LuaTable`: the entries of a table in `lua_next` order; its keys are distinct and never
  `nil`, as in every Lua table.
- `stackSlot`: the value an API index names (positive from the bottom, negative from the
  top); the stack is a list with its top first.
- `luaNext`: `lua_next`. A key that is not in the table raises "invalid key to 'next'", which
  outside a protected call ends in Lua's panic; the model returns `none`.
-/

namespace QBox

namespace LuaFile

/-- A Lua value, by the type `lua_type` reports. -/
inductive LuaValue (Num : Type)
  | nil
  | boolean (b : Bool)
  | number (n : Num)
  | string (s : String)
  | table (r : Nat)
  | function (r : Nat)
  | userdata (r : Nat)
  | thread (r : Nat)
  | lightuserdata (r : Nat)
  deriving DecidableEq

variable {Num : Type}

/-- A Lua table: its entries in `lua_next` order, keys distinct and never `nil`. -/
structure LuaTable (Num : Type) where
  entries : List (LuaValue Num × LuaValue Num)
  keys_nodup : (entries.map Prod.fst).Nodup
  nil_not_key : LuaValue.nil ∉ entries.map Prod.fst

/-- The key of the last of `done`, `nil` when there is none: what `lua_next` resumes from
after visiting `done`. -/
def lastKey (done : List (LuaValue Num × LuaValue Num)) : LuaValue Num :=
  match done.getLast? with
  | none => .nil
  | some e => e.1

@[simp] theorem lastKey_concat (done : List (LuaValue Num × LuaValue Num)) (k v : LuaValue Num) :
    lastKey (done ++ [(k, v)]) = k := by
  simp [lastKey]

/-- The heap slot of a stack index: `idx > 0` counts from the bottom, `idx < 0` from the top
(the list's head). -/
def stackSlot (L : List (LuaValue Num)) (idx : Int) : Option (LuaValue Num) :=
  if idx < 0 then L[(-idx - 1).toNat]?
  else if 0 < idx then L.reverse[(idx - 1).toNat]?
  else none

@[simp] theorem stackSlot_top (v : LuaValue Num) (L : List (LuaValue Num)) :
    stackSlot (v :: L) (-1) = some v := by simp [stackSlot]

@[simp] theorem stackSlot_second (v k : LuaValue Num) (L : List (LuaValue Num)) :
    stackSlot (v :: k :: L) (-2) = some k := by simp [stackSlot]

/-- `lua_gettop(L)` names the top. -/
@[simp] theorem stackSlot_gettop (v : LuaValue Num) (L : List (LuaValue Num)) :
    stackSlot (v :: L) (L.length + 1) = some v := by
  simp [stackSlot, List.getElem?_append_right, show ¬ ((L.length : Int) + 1 < 0) by omega]

/-- After a push, the index that named a slot names it still, once a negative index is moved
down by one (`if (t < 0) --t;`, line 432). -/
theorem stackSlot_cons_adjust {L : List (LuaValue Num)} {t : Int} {v : LuaValue Num}
    (h : stackSlot L t = some v) (k : LuaValue Num) :
    stackSlot (k :: L) (if t < 0 then t - 1 else t) = some v := by
  unfold stackSlot at h ⊢
  split_ifs at h ⊢ with h₁ h₂ h₃ <;> try omega
  · rw [show (-(t - 1) - 1).toNat = (-t - 1).toNat + 1 by omega]; simpa using h
  · rw [List.reverse_cons, List.getElem?_append_left (List.getElem?_eq_some_iff.1 h).1]
    exact h

section Next

variable [DecidableEq Num]

/-- The entry after the one with key `k`; `none` when no entry has key `k`. -/
def nextAfter (k : LuaValue Num) :
    List (LuaValue Num × LuaValue Num) → Option (Option (LuaValue Num × LuaValue Num))
  | [] => none
  | e :: es => if e.1 = k then some es.head? else nextAfter k es

/-- `luaH_next`: the entry after key `k` (the first one after `nil`), `some none` past the
last entry, `none` when `k` is not a key. -/
def LuaTable.next (t : LuaTable Num) (k : LuaValue Num) :
    Option (Option (LuaValue Num × LuaValue Num)) :=
  if k = .nil then some t.entries.head? else nextAfter k t.entries

/-- Searching past entries without the key finds what the rest gives. -/
theorem nextAfter_append {k : LuaValue Num} {done rest : List (LuaValue Num × LuaValue Num)}
    (hk : k ∉ done.map Prod.fst) : nextAfter k (done ++ rest) = nextAfter k rest := by
  induction done with
  | nil => rfl
  | cons e done ih =>
    simp only [List.map_cons, List.mem_cons, not_or] at hk
    simp [nextAfter, Ne.symm hk.1, ih hk.2]

/-- **`lua_next` resumes where it left off**: after the entries `done`, it yields the first
of the remaining ones. -/
theorem LuaTable.next_lastKey (t : LuaTable Num) {done rest : List (LuaValue Num × LuaValue Num)}
    (h : t.entries = done ++ rest) : t.next (lastKey done) = some rest.head? := by
  obtain rfl | ⟨done, e, rfl⟩ := done.eq_nil_or_concat
  · simp [LuaTable.next, lastKey, h]
  · have hnd := t.keys_nodup
    have hnil := t.nil_not_key
    rw [h] at hnd hnil
    simp only [List.concat_eq_append, List.append_assoc, List.singleton_append, List.map_append,
      List.map_cons, List.nodup_append, List.nodup_cons, List.disjoint_cons_right,
      List.mem_append, List.mem_cons, not_or] at hnd hnil
    have hne : e.1 ≠ .nil := fun h' => hnil.2.1 h'.symm
    simp only [LuaTable.next, lastKey, List.concat_eq_append, List.getLast?_concat, hne, if_false,
      h, List.append_assoc, List.singleton_append]
    rw [nextAfter_append hnd.2.2.1]
    simp [nextAfter]

/-- `lua_next(L, idx)`: pops a key, then pushes the next key and its value and answers `true`,
or pushes nothing and answers `false` past the last entry; `none` when the key is not in the
table or `idx` names no table. -/
def luaNext (heap : List (LuaTable Num)) (L : List (LuaValue Num)) (idx : Int) :
    Option (Bool × List (LuaValue Num)) :=
  match stackSlot L idx, L with
  | some (.table r), k :: rest =>
    match heap[r]? with
    | some t =>
      match t.next k with
      | some (some (k', v)) => some (true, v :: k' :: rest)
      | some none => some (false, rest)
      | none => none
    | none => none
  | _, _ => none

/-- **`lua_next` in a traversal**: with the key of the last visited entry on top and the index
naming the table, `lua_next` pushes the next entry, or pops the key past the last one. -/
theorem luaNext_lastKey {heap : List (LuaTable Num)} {r : Nat} {tbl : LuaTable Num}
    {L : List (LuaValue Num)} {t : Int} {done rest : List (LuaValue Num × LuaValue Num)}
    (hheap : heap[r]? = some tbl) (he : tbl.entries = done ++ rest)
    (hslot : stackSlot (lastKey done :: L) t = some (.table r)) :
    luaNext heap (lastKey done :: L) t =
      some (match rest with | [] => (false, L) | (k, v) :: _ => (true, v :: k :: L)) := by
  have hn := tbl.next_lastKey he
  cases rest <;> simp [luaNext, hslot, hheap, hn]

end Next

end LuaFile

end QBox
