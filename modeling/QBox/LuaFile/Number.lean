import Mathlib.Algebra.Ring.Int.Defs

/-!
# Number values: `lua_tonumber` and the casts of the number branch

For a number leaf `setParamsFromLuaTable` (`luafile_tool.h`, lines 473–483) reads
`double num = lua_tonumber(L, -1)` and stores `(uint64_t)num`, `(int64_t)num` or `num` itself,
by the value of `num`. From Lua 5.3 on a number may be an integer; `lua_tonumber` then converts
it to `double`, rounding it when it has more than 53 significant bits.

- `Double`: the value a C++ `double` holds: NaN, an infinity, or `m * 2 ^ e`.
- `Double.ofInt`: `(double)` of an integer, to nearest with ties to even.
- `CciValue`: the `cci_value` of a preset, with the three number types the branch picks from.
- `cciNumber`: the casts of lines 474–483.
- `cciNumber_ofInt`: an integer of at most 53 bits is stored exactly, as `uint64_t` when it is
  not negative and as `int64_t` otherwise; `cciNumber_maxinteger`: `math.maxinteger`,
  `2 ^ 63 - 1`, is stored as `2 ^ 63`.
-/

namespace QBox

namespace LuaFile

/-- A C++ `double` by its value: NaN, an infinity, or the finite value `m * 2 ^ e`. -/
inductive Double
  | nan
  | inf (neg : Bool)
  | finite (m e : Int)
  deriving DecidableEq, Repr

/-- The significand and exponent of `(double)n`: `n` itself below `2 ^ 53`; otherwise its 53
leading bits, rounded to nearest with ties to even on the bits dropped. -/
def Double.roundNat (n : Nat) : Nat × Nat :=
  if n < 2 ^ 53 then (n, 0)
  else
    let s := n.log2 - 52
    let q := n / 2 ^ s
    let r := n % 2 ^ s
    (if 2 ^ (s - 1) < r ∨ (r = 2 ^ (s - 1) ∧ q % 2 = 1) then q + 1 else q, s)

/-- `(double)i`: what `lua_tonumber` returns for a Lua integer `i`. -/
def Double.ofInt (i : Int) : Double :=
  let r := roundNat i.natAbs
  .finite (if 0 ≤ i then r.1 else -(r.1 : Int)) r.2

/-- The integer a `double` equals when `floor(num) == num` holds of a finite value. -/
def Double.toInt? : Double → Option Int
  | .finite m e =>
    if 0 ≤ e then some (m * 2 ^ e.toNat)
    else if m % 2 ^ (-e).toNat = 0 then some (m / 2 ^ (-e).toNat)
    else none
  | _ => none

/-- The `cci_value` of a preset: `uint64_t`, `int64_t` or `double` for a number, `bool`, or
`std::string`. -/
inductive CciValue
  | uint64 (n : Nat)
  | int64 (n : Int)
  | double (d : Double)
  | boolean (b : Bool)
  | string (s : String)
  deriving DecidableEq

/-- The casts of the number branch (lines 474–483) on `num`: `(uint64_t)num` when
`floor(num) == num && num >= 0.0 && num < ldexp(1.0, 64)`, `(int64_t)num` when
`floor(num) == num && num >= -ldexp(1.0, 63) && num < ldexp(1.0, 63)`, `num` otherwise. An
infinity passes `floor(num) == num` but neither range, so `toInt?` may leave it out. -/
def cciNumber (num : Double) : CciValue :=
  match num.toInt? with
  | some n =>
    if 0 ≤ n ∧ n < 2 ^ 64 then .uint64 n.toNat
    else if -2 ^ 63 ≤ n ∧ n < 2 ^ 63 then .int64 n
    else .double num
  | none => .double num

theorem Double.roundNat_of_lt {n : Nat} (h : n < 2 ^ 53) : roundNat n = (n, 0) :=
  if_pos h

@[simp]
theorem Double.toInt?_finite_zero (m : Int) : (finite m 0).toInt? = some m := by
  simp [toInt?]

/-- An integer of at most 53 bits converts exactly. -/
theorem Double.ofInt_of_natAbs_lt {i : Int} (h : i.natAbs < 2 ^ 53) : ofInt i = .finite i 0 := by
  simp only [ofInt, roundNat_of_lt h, finite.injEq, and_true]
  split_ifs <;> omega

/-- **Small integers are stored exactly**: an integer of at most 53 bits is set as `uint64_t`
when it is not negative and as `int64_t` otherwise. -/
theorem cciNumber_ofInt {i : Int} (h : i.natAbs < 2 ^ 53) :
    cciNumber (.ofInt i) = if 0 ≤ i then .uint64 i.toNat else .int64 i := by
  simp only [Double.ofInt_of_natAbs_lt h, cciNumber, Double.toInt?_finite_zero]
  split_ifs <;> first | rfl | omega

/-- `math.maxinteger`, `2 ^ 63 - 1`, has 63 bits: ten are dropped, and the 53 kept round up. -/
theorem Double.ofInt_maxinteger : ofInt (2 ^ 63 - 1) = .finite (2 ^ 53) 10 := by
  have hne : (2 ^ 63 - 1 : Int).natAbs ≠ 0 := by decide
  have hlog : (2 ^ 63 - 1 : Int).natAbs.log2 = 62 :=
    Nat.le_antisymm (Nat.lt_succ_iff.1 ((Nat.log2_lt hne).2 (by decide)))
      ((Nat.le_log2 hne).2 (by decide))
  simp only [ofInt, roundNat, hlog]
  decide

/-- **`math.maxinteger` is rounded**: `2 ^ 63 - 1` converts to the `double` `2 ^ 63`, which is
stored as the `uint64_t` `2 ^ 63`. -/
theorem cciNumber_maxinteger : cciNumber (.ofInt (2 ^ 63 - 1)) = .uint64 (2 ^ 63) := by
  rw [Double.ofInt_maxinteger]
  decide

end LuaFile

end QBox
