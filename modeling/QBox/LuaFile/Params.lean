import QBox.LuaFile.SetParams

/-!
# The parameters a Lua configuration defines

What `setParamsFromLuaTable` is for, stated over the table graph alone, with no stack and no
name buffer: every path `k₁ … kₙ` from the global table to a number, boolean or string leaf
defines the parameter `rel(c₁ + '.' + … + '.' + cₙ)` with the leaf's value as a `cci_value`.

- `component`: the name component of a key: a string key up to its first NUL (what C string
  functions see of it), the decimal of `(long long)k - 1` for a number key; no component for a
  key of another type.
- `leafParam`: the value a leaf defines, unless its name is on its type's skip list
  (`math.huge`, `math.pi` for numbers; `_VERSION`, `package.cpath`, `package.config`,
  `package.path` for strings): a number as the `double` `lua_tonumber` gives, cast by
  `cciNumber`; a string up to its first NUL.
- `luaParams E d pre r`: the parameters under table `r`, whose entries' names start with `pre`,
  in `lua_next` order. The traversal does not enter the tables named `_G` or `package.loaded`
  or keyed `__index`. It is `none` when a key has no component, when a name does not fit in
  `MAX_NAME_SIZE` bytes with its terminator, or when the tables entered nest more than `d`
  deep: `luaParams E d [] G = some ps` is the precondition under which the traversal from `G`
  is finite and well-formed.
-/

namespace QBox

namespace LuaFile

variable {Num : Type}

/-- The name component of a key. -/
def component (E : Env Num) : LuaValue Num → Option (List Char)
  | .string k => some (cStr k)
  | .number n => some (decimal (E.toLongLong n - 1))
  | _ => none

/-- The value a leaf at the name `name` defines. -/
def leafParam (E : Env Num) (name : List Char) : LuaValue Num → Option CciValue
  | .number n =>
    if String.mk name ∈ ["math.huge", "math.pi"] then none else some (cciNumber (E.toNumber n))
  | .boolean b => some (.boolean b)
  | .string v =>
    if String.mk name ∈ ["_VERSION", "package.cpath", "package.config", "package.path"] then none
    else some (.string ⟨cStr v⟩)
  | _ => none

/-- The tables the traversal does not enter: the ones named `_G` or `package.loaded`, and the
ones under a key `__index`. -/
def skippedTable (name c : List Char) : Prop :=
  String.mk name = "_G" ∨ String.mk name = "package.loaded" ∨ String.mk c = "__index"

instance (name c : List Char) : Decidable (skippedTable name c) :=
  inferInstanceAs (Decidable (_ ∨ _))

/-- The parameters of the entry `(k, v)` of a table whose names start with `pre`; `child pre' r`
gives those of a nested table `r` whose names start with `pre'`. -/
def entryParams (E : Env Num) (child : List Char → Nat → Option (List (String × CciValue)))
    (pre : List Char) (k v : LuaValue Num) : Option (List (String × CciValue)) := do
  let c ← component E k
  if MAX_NAME_SIZE ≤ pre.length + c.length then none else
  match v with
  | .table r => if skippedTable (pre ++ c) c then some [] else child (pre ++ c ++ ['.']) r
  | v => some ((leafParam E (pre ++ c) v).map fun x => (E.rel ⟨pre ++ c⟩, x)).toList

/-- The parameters of the entries `es`, in order. -/
def entriesParams (E : Env Num) (child : List Char → Nat → Option (List (String × CciValue)))
    (pre : List Char) : List (LuaValue Num × LuaValue Num) → Option (List (String × CciValue))
  | [] => some []
  | (k, v) :: es => do
    let p ← entryParams E child pre k v
    let ps ← entriesParams E child pre es
    pure (p ++ ps)

/-- The parameters under the table `r`, entering nested tables at most `d` deep. -/
def luaParams (E : Env Num) : Nat → List Char → Nat → Option (List (String × CciValue))
  | 0, _, _ => none
  | d + 1, pre, r => do
    let t ← E.heap[r]?
    entriesParams E (luaParams E d) pre t.entries

/-- The parameters under a table are those of its entries. -/
theorem luaParams_succ {E : Env Num} {d : Nat} {pre : List Char} {r : Nat}
    {ps : List (String × CciValue)} (h : luaParams E (d + 1) pre r = some ps) :
    ∃ t, E.heap[r]? = some t ∧ entriesParams E (luaParams E d) pre t.entries = some ps := by
  simpa [luaParams, Option.bind_eq_some] using h

/-- The parameters of a first entry come before those of the rest. -/
theorem entriesParams_cons {E : Env Num} {child : List Char → Nat → Option (List (String × CciValue))}
    {pre : List Char} {k v : LuaValue Num} {es : List (LuaValue Num × LuaValue Num)}
    {ps : List (String × CciValue)} (h : entriesParams E child pre ((k, v) :: es) = some ps) :
    ∃ p ps', entryParams E child pre k v = some p ∧ entriesParams E child pre es = some ps' ∧
      ps = p ++ ps' := by
  cases hp : entryParams E child pre k v <;> cases hps : entriesParams E child pre es <;>
    simp_all [entriesParams]

end LuaFile

end QBox
