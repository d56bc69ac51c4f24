import Mathlib.Data.List.Basic

/-!
# The name buffer `static_key`

`setParamsFromLuaTable` composes every parameter name in one `static char
static_key[MAX_NAME_SIZE]` shared by all recursion levels: each level writes its key at its own
offset `level` with `strcpy` or `snprintf`, and a nested table adds a `'.'`. This module embeds
that memory and the C string functions on it.

- The buffer is a `List Char`, byte `i` being its `i`-th element and `'\0'` past its end: the
  initial contents are whatever earlier calls left, and bytes past `MAX_NAME_SIZE` stand for the
  memory after the array, which the code can reach (see `QBox.LuaFile.SetParams`).
- `cString b i`: the C string at offset `i`, up to the first NUL; `cStr s`: the bytes of a Lua
  string that `strcpy` and `std::string(const char*)` take, up to its first NUL.
- `Spells b i s`: bytes `i, i + 1, …` hold `s`. Reading a C string back after writing it is
  `cString_eq_of_spells`; writes leave the bytes outside their range alone (`byteAt_setBytes`).
-/

namespace QBox

namespace LuaFile

/-- `MAX_NAME_SIZE` (line 402). -/
def MAX_NAME_SIZE : Nat := 1000

/-- Byte `i` of the buffer image; `'\0'` where nothing was stored. -/
def byteAt (b : List Char) (i : Nat) : Char := b.getD i '\x00'

/-- Store byte `c` at offset `i`, growing the image with `'\0'` where needed. -/
def setByte (b : List Char) (i : Nat) (c : Char) : List Char :=
  (b ++ List.replicate (i + 1 - b.length) '\x00').set i c

/-- Store the bytes `cs` from offset `i` on. -/
def setBytes (b : List Char) (i : Nat) : List Char → List Char
  | [] => b
  | c :: cs => setBytes (setByte b i c) (i + 1) cs

/-- The C string at offset `i`: the bytes up to the first NUL. -/
def cString (b : List Char) (i : Nat) : List Char := (b.drop i).takeWhile (· ≠ '\x00')

/-- The bytes of a Lua string that C string functions see: those before its first NUL. -/
def cStr (s : String) : List Char := s.data.takeWhile (· ≠ '\x00')

/-- `"%lld"` of a value. -/
def decimal (v : Int) : List Char := (toString v).data

/-- `strcpy(dst, src)` at offset `i`: the bytes of `src` before its first NUL, then a NUL. -/
def strcpy (b : List Char) (i : Nat) (src : String) : List Char :=
  setBytes b i (cStr src ++ ['\x00'])

/-- `snprintf(dst, n, "%lld", v)` at offset `i`: at most `n - 1` characters and a NUL (nothing
when `n = 0`); it returns the length of the whole decimal, written or not. -/
def snprintfLld (b : List Char) (i n : Nat) (v : Int) : Nat × List Char :=
  ((decimal v).length,
    if n = 0 then b else setBytes b i ((decimal v).take (n - 1) ++ ['\x00']))

/-- A store changes its own byte only. -/
@[simp] theorem byteAt_setByte (b : List Char) (i j : Nat) (c : Char) :
    byteAt (setByte b i c) j = if j = i then c else byteAt b j := by
  unfold byteAt setByte
  split_ifs with h
  · subst h
    simp [List.getD_eq_getElem?_getD, List.getElem?_set, show j < b.length + (j + 1 - b.length) by omega]
  · simp only [List.getD_eq_getElem?_getD, List.getElem?_set_ne (Ne.symm h),
      List.getElem?_append, List.getElem?_replicate]
    split_ifs <;> simp_all [List.getElem?_eq_none]

/-- Writes above `j` leave byte `j` alone. -/
theorem byteAt_setBytes_of_lt {b : List Char} {i j : Nat} (cs : List Char) (h : j < i) :
    byteAt (setBytes b i cs) j = byteAt b j := by
  induction cs generalizing b i with
  | nil => rfl
  | cons c cs ih =>
    rw [setBytes, ih (by omega), byteAt_setByte, if_neg (by omega)]

/-! ## How far the stores reach

The image ends at its last stored byte: it grows only by a store past its end, so a store past
the end of a C array of `n` bytes shows as an image longer than `n`. -/

@[simp] theorem length_setByte (b : List Char) (i : Nat) (c : Char) :
    (setByte b i c).length = max b.length (i + 1) := by
  simp only [setByte, List.length_set, List.length_append, List.length_replicate]
  omega

/-- A write of a nonempty `cs` reaches byte `i + cs.length - 1`. -/
theorem length_setBytes (b : List Char) (i : Nat) {cs : List Char} (h : cs ≠ []) :
    (setBytes b i cs).length = max b.length (i + cs.length) := by
  induction cs generalizing b i with
  | nil => exact absurd rfl h
  | cons c cs ih =>
    rw [setBytes]
    rcases eq_or_ne cs [] with rfl | hcs
    · simp [setBytes]
    · rw [ih _ _ hcs, length_setByte, List.length_cons]
      omega

/-- `strcpy` stores bytes `i` to `i + strlen(src)`, whatever room the destination has. -/
theorem length_strcpy (b : List Char) (i : Nat) (src : String) :
    (strcpy b i src).length = max b.length (i + (cStr src).length + 1) := by
  rw [strcpy, length_setBytes _ _ (by simp), List.length_append, List.length_singleton,
    Nat.add_assoc]

/-- Bytes `i, i + 1, …` of `b` hold `s`. -/
def Spells (b : List Char) (i : Nat) : List Char → Prop
  | [] => True
  | c :: cs => byteAt b i = c ∧ Spells b (i + 1) cs

/-- Spelling a concatenation is spelling its parts one after the other. -/
theorem spells_append {b : List Char} {i : Nat} {s t : List Char} :
    Spells b i (s ++ t) ↔ Spells b i s ∧ Spells b (i + s.length) t := by
  induction s generalizing i with
  | nil => simp [Spells]
  | cons c s ih =>
    rw [List.cons_append, Spells, Spells, ih, and_assoc, List.length_cons, Nat.add_right_comm,
      Nat.add_assoc]

/-- A write spells what it wrote. -/
theorem spells_setBytes (b : List Char) (i : Nat) (cs : List Char) :
    Spells (setBytes b i cs) i cs := by
  induction cs generalizing b i with
  | nil => trivial
  | cons c cs ih =>
    refine ⟨?_, ih _ _⟩
    rw [setBytes, byteAt_setBytes_of_lt cs (by omega), byteAt_setByte, if_pos rfl]

/-- Writes at or above `i` keep what bytes below `i` spell. -/
theorem Spells.setBytes_of_le {b : List Char} {j i : Nat} {s : List Char} (h : Spells b j s)
    (hle : j + s.length ≤ i) (cs : List Char) : Spells (setBytes b i cs) j s := by
  induction s generalizing j with
  | nil => trivial
  | cons c s ih =>
    simp only [List.length_cons] at hle
    exact ⟨(byteAt_setBytes_of_lt cs (by omega)).trans h.1, ih h.2 (by omega)⟩

/-- A byte that is not NUL is stored. -/
theorem getElem?_of_byteAt {b : List Char} {i : Nat} {c : Char} (h : byteAt b i = c)
    (hc : c ≠ '\x00') : b[i]? = some c := by
  simp only [byteAt, List.getD_eq_getElem?_getD] at h
  cases hbi : b[i]? with
  | none => simp [hbi] at h; exact absurd h.symm hc
  | some x => simp_all

/-- A C string starts with its first byte. -/
theorem head?_cString {b : List Char} {i : Nat} {c : Char} (h : byteAt b i = c)
    (hc : c ≠ '\x00') : (cString b i).head? = some c := by
  simp [cString, List.head?_takeWhile, List.head?_drop, getElem?_of_byteAt h hc, hc]

theorem Spells.setByte_of_le {b : List Char} {j i : Nat} {s : List Char} (h : Spells b j s)
    (hle : j + s.length ≤ i) (c : Char) : Spells (setByte b i c) j s :=
  h.setBytes_of_le hle [c]

/-- **Reading back a C string**: bytes spelling a NUL-free `s` and then a NUL are the C string
`s`. -/
theorem cString_eq_of_spells {b : List Char} {i : Nat} {s : List Char} (h : Spells b i s)
    (h0 : byteAt b (i + s.length) = '\x00') (hs : '\x00' ∉ s) : cString b i = s := by
  induction s generalizing i with
  | nil =>
    simp only [cString, List.length_nil, Nat.add_zero, byteAt, List.getD_eq_getElem?_getD] at h0 ⊢
    cases hd : b.drop i with
    | nil => rfl
    | cons c t =>
      have : b[i]? = some c := by rw [← List.head?_drop, hd]; rfl
      simp_all
  | cons c s ih =>
    simp only [List.mem_cons, not_or] at hs
    have hi := getElem?_of_byteAt h.1 (Ne.symm hs.1)
    have hrest := ih h.2 (by simpa [Nat.add_assoc, Nat.add_comm 1] using h0) hs.2
    rw [cString, List.drop_eq_getElem_cons (List.getElem?_eq_some_iff.1 hi).1]
    simp only [cString] at hrest
    simpa [List.getElem?_eq_some_iff.1 hi |>.2, Ne.symm hs.1] using hrest

/-- The same, with the terminator in the spelled bytes. -/
theorem cString_eq_of_spells_nul {b s : List Char} {i : Nat} (h : Spells b i (s ++ ['\x00']))
    (hs : '\x00' ∉ s) : cString b i = s :=
  have h' := spells_append.1 h
  cString_eq_of_spells h'.1 h'.2.1 hs

theorem Spells.of_append {b s t : List Char} {i : Nat} (h : Spells b i (s ++ t)) : Spells b i s :=
  (spells_append.1 h).1

/-! ## No NUL inside a key -/

theorem nul_not_mem_cStr (s : String) : '\x00' ∉ cStr s := fun h => by
  simpa using List.mem_takeWhile_imp h

/-- A run of `n` bytes with no NUL is a C string of length `n`. -/
theorem length_cStr_replicate {c : Char} (hc : c ≠ '\x00') (n : Nat) :
    (cStr ⟨List.replicate n c⟩).length = n := by
  rw [cStr, List.takeWhile_eq_self_iff.2 fun x hx => by simpa [List.eq_of_mem_replicate hx]]
  exact List.length_replicate _ _

theorem digitChar_ne_nul : ∀ d < 10, Nat.digitChar d ≠ '\x00' := by decide

theorem nul_not_mem_toDigitsCore (fuel n : Nat) {ds : List Char} (h : '\x00' ∉ ds) :
    '\x00' ∉ Nat.toDigitsCore 10 fuel n ds := by
  induction fuel generalizing n ds with
  | zero => exact h
  | succ fuel ih =>
    have hd : '\x00' ∉ Nat.digitChar (n % 10) :: ds := by
      simp [h, Ne.symm (digitChar_ne_nul _ (Nat.mod_lt n (by decide)))]
    show '\x00' ∉ if n / 10 = 0 then _ else _
    split_ifs
    · exact hd
    · exact ih _ hd

/-- A decimal has no NUL, so `snprintf` writes all of it before its terminator. -/
theorem nul_not_mem_decimal (v : Int) : '\x00' ∉ decimal v := by
  have h n := nul_not_mem_toDigitsCore (n + 1) n (List.not_mem_nil '\x00')
  cases v with
  | ofNat n => exact h n
  | negSucc n => exact List.not_mem_cons_of_ne_of_not_mem (by decide) (h (n + 1))

end LuaFile

end QBox
