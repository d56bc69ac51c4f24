import QBox.LuaFile.KeyBuffer
import Mathlib.Data.List.Forall2

/-!
# The copy of `argv` in `parseCommandLineWithGetOpt`

`getopt` permutes the array it parses, so `LuaFile_Tool::parseCommandLineWithGetOpt`
(`luafile_tool.h`, lines 281–296) first copies the arguments into the stack array
`char argv_buffer[BUFFER_SIZE]` and points `argv_cp` at the copies. Only after the loop does it
compare how far `buffer_p` went with `BUFFER_SIZE`.

- `copyArgs`: the loop (lines 286–291) on the image of `argv_buffer`, as in
  `QBox.LuaFile.KeyBuffer`: bytes past `BUFFER_SIZE` stand for the stack memory after the array.
- `argvCopy`: the loop, then the check of line 294. The image comes back with either outcome:
  throwing `std::overflow_error` undoes no store.
- `argvCopy_of_le`: when the arguments and their terminators fit, the copy stays in the array
  and every `argv_cp[i]` is the C string `argv[i]`.
- `argv_copy_overflows_before_throw`: when they do not fit, the loop stores all of them, past
  the array, and only then throws.

The `getopt_long` loops that parse the copy (lines 298–380) are left out, but for the text of a
`--param` option (lines 349–358), which two `std::getline` calls cut into a name and a value:

- `getline`: `std::getline` on a `std::stringstream`, with its `eofbit` and `failbit`.
- `parseParam`: the name up to the first `=` and the value up to the end of its line, or the
  message of the `SCP_FATAL` that rejects the text.
- `parseParam_eq_ok`: what is accepted is exactly a name without `=`, `=`, and a value without a
  line break that ends the text or its first line; the name may be empty, the value only when a
  line break follows it.
- `parseParam_eq_error`: an empty text has no name; a nonempty text has no value when it has no
  `=` or ends at its first one.
-/

namespace QBox

namespace LuaFile

/-- `BUFFER_SIZE` (line 282). -/
def BUFFER_SIZE : Nat := 8192

/-- The loop of lines 286–291 from `buffer_p = argv_buffer + p`: each argument is copied with
`strcpy`, `argv_cp[i]` gets its offset and `buffer_p` moves `strlen(argv[i]) + 1` bytes on.
Returns the image, the offset `buffer_p` ends at, and `argv_cp`. -/
def copyArgs (b : List Char) (p : Nat) : List String → List Char × Nat × List Nat
  | [] => (b, p, [])
  | a :: argv =>
    let r := copyArgs (strcpy b p a) (p + ((cStr a).length + 1)) argv
    (r.1, r.2.1, p :: r.2.2)

/-- Lines 281–296 on the image `b` of `argv_buffer`: the copy, then
`throw std::overflow_error("buffer overflow")` when `buffer_p - argv_buffer > BUFFER_SIZE`,
and `argv_cp` otherwise. -/
def argvCopy (b : List Char) (argv : List String) : List Char × Except String (List Nat) :=
  let r := copyArgs b 0 argv
  (r.1, if BUFFER_SIZE < r.2.1 then .error "buffer overflow" else .ok r.2.2)

/-- The bytes the arguments take with their terminators. -/
def argsSize : List String → Nat
  | [] => 0
  | a :: argv => (cStr a).length + 1 + argsSize argv

@[simp] theorem argsSize_nil : argsSize [] = 0 := rfl

@[simp] theorem argsSize_cons (a : String) (argv : List String) :
    argsSize (a :: argv) = (cStr a).length + 1 + argsSize argv := rfl

/-! ## The loop -/

/-- `buffer_p` ends the arguments' size past where it started. -/
theorem copyArgs_offset (b : List Char) (p : Nat) (argv : List String) :
    (copyArgs b p argv).2.1 = p + argsSize argv := by
  induction argv generalizing b p with
  | nil => rfl
  | cons a argv ih =>
    simp only [copyArgs, ih, argsSize_cons]
    omega

/-- The loop stores up to the last terminator, whatever room the array has. -/
theorem length_copyArgs {b : List Char} {p : Nat} (hp : p ≤ b.length) (argv : List String) :
    (copyArgs b p argv).1.length = max b.length (p + argsSize argv) := by
  induction argv generalizing b p with
  | nil => simp [copyArgs, hp]
  | cons a argv ih =>
    have hlen := length_strcpy b p a
    simp only [copyArgs, ih (show p + ((cStr a).length + 1) ≤ (strcpy b p a).length by omega),
      hlen, argsSize_cons]
    omega

/-- Later copies start past earlier ones and keep them. -/
theorem Spells.copyArgs {b : List Char} {j p : Nat} {s : List Char} (h : Spells b j s)
    (hle : j + s.length ≤ p) (argv : List String) : Spells (copyArgs b p argv).1 j s := by
  induction argv generalizing b p with
  | nil => exact h
  | cons a argv ih => exact ih (h.setBytes_of_le hle _) (by omega)

/-- **The copies**: `argv_cp[i]` points at the bytes of `argv[i]` and a terminator. -/
theorem copyArgs_spells (b : List Char) (p : Nat) (argv : List String) :
    List.Forall₂ (fun a q => Spells (copyArgs b p argv).1 q (cStr a ++ ['\x00'])) argv
      (copyArgs b p argv).2.2 := by
  induction argv generalizing b p with
  | nil => exact .nil
  | cons a argv ih =>
    exact .cons ((spells_setBytes _ _ _).copyArgs (by simp) argv) (ih _ _)

/-! ## The check after the loop -/

/-- **Arguments that fit** are copied within the array, and `argv_cp[i]` is the C string
`argv[i]`, as `getopt_long` needs. -/
theorem argvCopy_of_le {b : List Char} (hb : b.length = BUFFER_SIZE) {argv : List String}
    (hfit : argsSize argv ≤ BUFFER_SIZE) :
    (argvCopy b argv).1.length = BUFFER_SIZE ∧ ∃ argvCp, (argvCopy b argv).2 = .ok argvCp ∧
      List.Forall₂ (fun a q => cString (argvCopy b argv).1 q = cStr a) argv argvCp := by
  refine ⟨?_, (copyArgs b 0 argv).2.2, by simp [argvCopy, copyArgs_offset, not_lt.2 hfit], ?_⟩
  · simp only [argvCopy, length_copyArgs (Nat.zero_le _), hb, Nat.zero_add]
    omega
  · exact (copyArgs_spells b 0 argv).imp fun a q h => cString_eq_of_spells_nul h (nul_not_mem_cStr a)

/-- **The size check comes after the copy.** When the arguments with their terminators take
more than `BUFFER_SIZE` bytes, the loop has stored all of them, up to byte `argsSize argv - 1`
past the end of `argv_buffer`, when `overflow_error` is thrown. -/
theorem argv_copy_overflows_before_throw {b : List Char} (hb : b.length = BUFFER_SIZE)
    {argv : List String} (hover : BUFFER_SIZE < argsSize argv) :
    (argvCopy b argv).1.length = argsSize argv ∧ (argvCopy b argv).2 = .error "buffer overflow" := by
  refine ⟨?_, by simp [argvCopy, copyArgs_offset, hover]⟩
  simp only [argvCopy, length_copyArgs (Nat.zero_le _), hb, Nat.zero_add]
  omega

/-- `qbox` and an argument of 8188 bytes take 8194 bytes: bytes 8192 and 8193 are stored past
the array before the throw. -/
theorem argv_copy_overflow_sample :
    (argvCopy (List.replicate BUFFER_SIZE '\x00') ["qbox", ⟨List.replicate 8188 'a'⟩]).1.length =
        argsSize ["qbox", ⟨List.replicate 8188 'a'⟩] ∧
      (argvCopy (List.replicate BUFFER_SIZE '\x00') ["qbox", ⟨List.replicate 8188 'a'⟩]).2 =
        .error "buffer overflow" :=
  argv_copy_overflows_before_throw (List.length_replicate _ _)
    (by rw [argsSize_cons, argsSize_cons, length_cStr_replicate (by decide)]; decide)

/-! ## The text of `--param` -/

/-- A `std::stringstream` being read: the characters left, `eofbit` and `failbit`. -/
structure StringStream where
  rest : List Char
  eof : Bool
  fail : Bool

/-- `std::getline(ss, str, delim)`. On a good stream it extracts the characters before the first
`delim`, and `delim` itself, which it drops; without a `delim` it extracts all of them and sets
`eofbit`, and `failbit` too when there were none. On a stream that is not good its sentry sets
`failbit` and nothing is read (`str` is then the empty string it was declared as). -/
def getline (ss : StringStream) (delim : Char) : List Char × StringStream :=
  if ss.eof || ss.fail then ([], { ss with fail := true })
  else
    match ss.rest.dropWhile (· ≠ delim) with
    | [] => (ss.rest, ⟨[], true, ss.rest.isEmpty⟩)
    | _ :: rest => (ss.rest.takeWhile (· ≠ delim), ⟨rest, false, false⟩)

/-- The `--param` case of the second `getopt_long` loop (lines 349–358) on the bytes of `optarg`:
`if (!std::getline(ss, key, '='))` and `if (!std::getline(ss, value))`, each failure ending with
the message of its `SCP_FATAL`. -/
def parseParam (optarg : List Char) : Except String (String × String) :=
  let (key, ss) := getline ⟨optarg, false, false⟩ '='
  if ss.fail then .error "parameter name not found!"
  else
    let (value, ss) := getline ss '\n'
    if ss.fail then .error "parameter value not found!"
    else .ok (⟨key⟩, ⟨value⟩)

/-- `getline` up to a `delim`. -/
theorem getline_append_cons {delim : Char} {k : List Char} (hk : delim ∉ k) (r : List Char) :
    getline ⟨k ++ delim :: r, false, false⟩ delim = (k, ⟨r, false, false⟩) := by
  have hall (x : Char) (hx : x ∈ k) : decide (x ≠ delim) = true :=
    decide_eq_true fun h => hk (h ▸ hx)
  unfold getline
  rw [List.dropWhile_append_of_pos hall, List.takeWhile_append_of_pos hall]
  simp

/-- `getline` up to the end of input. -/
theorem getline_of_not_mem {delim : Char} {a : List Char} (h : delim ∉ a) :
    getline ⟨a, false, false⟩ delim = (a, ⟨[], true, a.isEmpty⟩) := by
  have hall (x : Char) (hx : x ∈ a) : decide (x ≠ delim) = true :=
    decide_eq_true fun h' => h (h' ▸ hx)
  unfold getline
  rw [List.dropWhile_eq_nil_iff.2 hall]
  rfl

/-- A stream at its end reads nothing and fails. -/
theorem getline_of_eof (r : List Char) (f : Bool) (delim : Char) :
    getline ⟨r, true, f⟩ delim = ([], ⟨r, true, true⟩) := rfl

/-- A text without `=` has no name when it is empty, and no value otherwise. -/
theorem parseParam_of_not_mem {a : List Char} (h : '=' ∉ a) :
    parseParam a = .error (if a = [] then "parameter name not found!"
      else "parameter value not found!") := by
  cases a <;> simp [parseParam, getline_of_not_mem h, getline_of_eof]

/-- A value that ends the text. -/
theorem parseParam_of_value_end {k v : List Char} (hk : '=' ∉ k) (hv : '\n' ∉ v) :
    parseParam (k ++ '=' :: v) =
      if v = [] then .error "parameter value not found!" else .ok (⟨k⟩, ⟨v⟩) := by
  cases v <;> simp [parseParam, getline_append_cons hk, getline_of_not_mem hv]

/-- A value that ends its line. -/
theorem parseParam_of_value_line {k v : List Char} (hk : '=' ∉ k) (hv : '\n' ∉ v)
    (r : List Char) : parseParam (k ++ '=' :: (v ++ '\n' :: r)) = .ok (⟨k⟩, ⟨v⟩) := by
  simp [parseParam, getline_append_cons hk, getline_append_cons hv]

/-- **What `--param` accepts.** The text of a `--param` option is accepted with name `key` and
value `value` exactly when it is `key`, `=` and `value`, with no `=` in `key` and no line break in
`value`, and `value` either ends the text, and is not empty, or is followed by a line break. The
name may be empty, and whatever follows the first line break is dropped. -/
theorem parseParam_eq_ok (a : List Char) (key value : String) :
    parseParam a = .ok (key, value) ↔
      '=' ∉ key.data ∧ '\n' ∉ value.data ∧ ∃ rest, a = key.data ++ '=' :: (value.data ++ rest) ∧
        (rest = [] ∧ value.data ≠ [] ∨ ∃ r, rest = '\n' :: r) := by
  constructor
  · intro h
    by_cases ha : '=' ∉ a
    · rw [parseParam_of_not_mem ha] at h
      cases h
    obtain ⟨k, v, rfl, hk⟩ := List.eq_append_cons_of_mem (not_not.1 ha)
    by_cases hv : '\n' ∉ v
    · rw [parseParam_of_value_end hk hv] at h
      split_ifs at h with hv0
      cases h
      exact ⟨hk, hv, [], by rw [List.append_nil], .inl ⟨rfl, hv0⟩⟩
    · obtain ⟨v, r, rfl, hline⟩ := List.eq_append_cons_of_mem (not_not.1 hv)
      rw [parseParam_of_value_line hk hline] at h
      cases h
      exact ⟨hk, hline, '\n' :: r, rfl, .inr ⟨r, rfl⟩⟩
  · rintro ⟨hk, hv, rest, rfl, ⟨rfl, hne⟩ | ⟨r, rfl⟩⟩
    · rw [List.append_nil, parseParam_of_value_end hk hv, if_neg hne]
    · exact parseParam_of_value_line hk hv r

/-- **What `--param` rejects, and with which message.** An empty text has no name. A nonempty one
has no value when it holds no `=`, or ends at its first `=`; every other text is accepted. -/
theorem parseParam_eq_error (a : List Char) (e : String) :
    parseParam a = .error e ↔
      a = [] ∧ e = "parameter name not found!" ∨
        a ≠ [] ∧ e = "parameter value not found!" ∧ ('=' ∉ a ∨ ∃ k, '=' ∉ k ∧ a = k ++ ['=']) := by
  constructor
  · intro h
    by_cases ha : '=' ∉ a
    · rw [parseParam_of_not_mem ha] at h
      cases a
      · exact .inl ⟨rfl, (Except.error.inj h).symm⟩
      · exact .inr ⟨List.cons_ne_nil _ _, (Except.error.inj h).symm, .inl ha⟩
    obtain ⟨k, v, rfl, hk⟩ := List.eq_append_cons_of_mem (not_not.1 ha)
    by_cases hv : '\n' ∉ v
    · rw [parseParam_of_value_end hk hv] at h
      split_ifs at h with hv0
      cases h
      subst hv0
      exact .inr ⟨by simp, rfl, .inr ⟨k, hk, rfl⟩⟩
    · obtain ⟨v, r, rfl, hline⟩ := List.eq_append_cons_of_mem (not_not.1 hv)
      rw [parseParam_of_value_line hk hline] at h
      cases h
  · rintro (⟨rfl, rfl⟩ | ⟨hne, rfl, ha | ⟨k, hk, rfl⟩⟩)
    · rfl
    · rw [parseParam_of_not_mem ha, if_neg hne]
    · rw [parseParam_of_value_end hk (List.not_mem_nil _), if_pos rfl]

end LuaFile

end QBox
