import Mathlib.Data.List.Basic

/-!
# Mode negotiation of a `QemuInstance`

Every CPU of a QEMU instance states the TCG mode and the icount mode its synchronization policy
needs, with `set_tcg_mode` and `set_icount_mode`, before the instance is initialized; `init`
(or the first `get`) then fills in the modes nobody asked for and starts QEMU with them
(`libqbox/qemu-instance.h`, lines 33–259). The comments of both setters say what this is for:
"All CPUs should use the same mode".

- `QemuInstance`: the fields the negotiation reads and writes: `m_inst`'s `is_inited()` and
  argument vector, `m_tcg_mode`, `m_icount_mode` and `m_icount_mips`. A failed `assert` and a
  thrown exception are `Failure`s; a call that fails changes nothing, as the code throws before it
  stores.
- `QemuInstance.requestAll`: the CPUs' calls in the order they are made.
- `QemuInstance.agreed`: what the calls are meant to do. Each setter negotiates one value: the
  TCG mode, and for icount the mode together with its shift. The calls succeed when the values
  each kind specifies (and the one already recorded) are one value, which is then recorded.
- `requestAll_toOption`: the code refines `agreed`, from every instance not yet initialized.
- `requestAll_perm`: the order in which the CPUs call the setters does not change whether they
  succeed nor the instance they leave (which exception a failure throws may change).
- `get_after_requests`: QEMU is started with the command line the comments describe: TCG
  defaults to single-threaded, icount to off, and `-icount` is passed only when it is on. No
  `assert` of `init` can fail on the way.
-/

namespace QBox

namespace LibQbox

/-- `QemuInstance::TcgMode` (lines 61–66). -/
inductive TcgMode
  | tcgUnspecified
  | tcgSingle
  | tcgSingleCoroutine
  | tcgMulti
  deriving DecidableEq, Repr

/-- `QemuInstance::IcountMode` (lines 68–72). -/
inductive IcountMode
  | icountUnspecified
  | icountOff
  | icountOn
  deriving DecidableEq, Repr

/-- How a call fails: an `assert` that does not hold, or a `QboxException` with its message. -/
inductive Failure
  | assertion
  | exception (what : String)
  deriving DecidableEq, Repr

/-- `QemuInstanceTcgModeMismatchException` (lines 33–39). -/
def tcgModeMismatch : Failure := .exception "Mismatch in requested TCG mode"

/-- `QemuInstanceIcountModeMismatchException` (lines 41–47). -/
def icountModeMismatch : Failure := .exception "Mismatch in requested icount mode"

/-- The state of a `QemuInstance` that its methods read and write: `m_inst.is_inited()`, the
arguments pushed to `m_inst`, `m_tcg_mode`, `m_icount_mode` and `m_icount_mips`. -/
structure QemuInstance where
  inited : Bool
  args : List String
  tcgMode : TcgMode
  icountMode : IcountMode
  icountMips : Int
  deriving DecidableEq, Repr

namespace QemuInstance

/-- `m_inst.push_qemu_arg(arg)`. -/
def pushQemuArg (s : QemuInstance) (arg : String) : QemuInstance :=
  { s with args := s.args ++ [arg] }

/-- The arguments of `push_default_args` (lines 83–93): `argv[0]`, no machine, 2048 MiB, and no
monitor, serial backend or display. -/
def defaultArgs : List String :=
  ["libqbox", "-M", "none", "-m", "2048", "-monitor", "null", "-serial", "null", "-display", "none"]

/-- `push_default_args` (lines 83–93). -/
def pushDefaultArgs (s : QemuInstance) : QemuInstance :=
  defaultArgs.foldl pushQemuArg s

/-- The constructor (lines 134–139): a `LibQemu` not yet initialized, the modes unspecified,
`m_icount_mips = 0`, and the default arguments pushed. -/
def new : QemuInstance :=
  pushDefaultArgs ⟨false, [], .tcgUnspecified, .icountUnspecified, 0⟩

/-- `set_tcg_mode` (lines 155–168). -/
def setTcgMode (s : QemuInstance) (m : TcgMode) : Except Failure QemuInstance :=
  if s.inited then .error .assertion
  else if m = .tcgUnspecified then .ok s
  else if s.tcgMode ≠ .tcgUnspecified ∧ m ≠ s.tcgMode then .error tcgModeMismatch
  else .ok { s with tcgMode := m }

/-- `set_icount_mode` (lines 184–201): unlike `set_tcg_mode` it checks a second value, the
shift, against the one recorded. -/
def setIcountMode (s : QemuInstance) (m : IcountMode) (mipsShift : Int) :
    Except Failure QemuInstance :=
  if s.inited then .error .assertion
  else if m = .icountUnspecified then .ok s
  else if s.icountMode ≠ .icountUnspecified ∧ m ≠ s.icountMode then .error icountModeMismatch
  else if s.icountMode ≠ .icountUnspecified ∧ mipsShift ≠ s.icountMips then
    .error icountModeMismatch
  else .ok { s with icountMode := m, icountMips := mipsShift }

/-- `push_tcg_mode_args` (lines 111–131): `-accel`, then the value of the mode; the `default`
case asserts. -/
def pushTcgModeArgs (s : QemuInstance) : Except Failure QemuInstance :=
  let s := s.pushQemuArg "-accel"
  match s.tcgMode with
  | .tcgSingle => .ok (s.pushQemuArg "tcg,thread=single")
  | .tcgSingleCoroutine => .ok (s.pushQemuArg "tcg,thread=single,coroutine=on")
  | .tcgMulti => .ok (s.pushQemuArg "tcg,thread=multi")
  | .tcgUnspecified => .error .assertion

/-- `push_icount_mode_args` (lines 95–109): nothing when icount is off, else `-icount` and
`<shift>,nosleep`. -/
def pushIcountModeArgs (s : QemuInstance) : Except Failure QemuInstance :=
  if s.icountMode = .icountUnspecified then .error .assertion
  else if s.icountMode = .icountOff then .ok s
  else .ok ((s.pushQemuArg "-icount").pushQemuArg (toString s.icountMips ++ ",nosleep"))

/-- `init` (lines 213–238): the default modes, their arguments, then `m_inst.init()`. -/
def init (s : QemuInstance) : Except Failure QemuInstance :=
  if s.inited then .error .assertion
  else
    let s := if s.tcgMode = .tcgUnspecified then { s with tcgMode := .tcgSingle } else s
    let s := if s.icountMode = .icountUnspecified then { s with icountMode := .icountOff } else s
    (s.pushTcgModeArgs >>= pushIcountModeArgs).map fun s => { s with inited := true }

/-- `get` (lines 253–259): initializes the instance on first use. -/
def get (s : QemuInstance) : Except Failure QemuInstance :=
  if s.inited then .ok s else s.init

end QemuInstance

/-- A call a CPU makes on its instance: `set_tcg_mode(m)` or `set_icount_mode(m, mips_shift)`. -/
inductive Request
  | setTcgMode (m : TcgMode)
  | setIcountMode (m : IcountMode) (mipsShift : Int)
  deriving DecidableEq, Repr

namespace QemuInstance

/-- One call. -/
def request (s : QemuInstance) : Request → Except Failure QemuInstance
  | .setTcgMode m => s.setTcgMode m
  | .setIcountMode m k => s.setIcountMode m k

/-- The calls `rs` in order; the first exception ends the sequence. -/
def requestAll (s : QemuInstance) (rs : List Request) : Except Failure QemuInstance :=
  rs.foldlM request s

theorem requestAll_cons_ok {s s' : QemuInstance} {r : Request} (h : s.request r = .ok s')
    (rs : List Request) : s.requestAll (r :: rs) = s'.requestAll rs := by
  simp only [requestAll, List.foldlM_cons, h]
  rfl

theorem requestAll_cons_error {s : QemuInstance} {r : Request} {f : Failure}
    (h : s.request r = .error f) (rs : List Request) : s.requestAll (r :: rs) = .error f := by
  simp only [requestAll, List.foldlM_cons, h]
  rfl

end QemuInstance

/-! ## What the negotiation is for -/

/-- **One value agreed on by all of `l`**: `some none` when `l` is empty, `none` when two of
its values differ. -/
def negotiated {α : Type} [DecidableEq α] (l : List α) : Option (Option α) :=
  if l.Pairwise (· = ·) then some l.head? else none

section Negotiated

variable {α : Type} [DecidableEq α]

@[simp] theorem negotiated_nil : negotiated ([] : List α) = some none := rfl

@[simp] theorem negotiated_singleton (a : α) : negotiated [a] = some (some a) := by
  simp [negotiated]

/-- A nonempty list agrees on its first value or on none. -/
theorem negotiated_cons (a : α) (l : List α) :
    negotiated (a :: l) = if (a :: l).Pairwise (· = ·) then some (some a) else none := rfl

/-- A value stated twice is stated once. -/
theorem negotiated_cons_self (a : α) (l : List α) :
    negotiated (a :: a :: l) = negotiated (a :: l) := by
  simp [negotiated, List.pairwise_cons]

theorem negotiated_cons_of_ne {a b : α} (h : a ≠ b) (l : List α) :
    negotiated (a :: b :: l) = none := by
  simp [negotiated, List.pairwise_cons, h]

end Negotiated

/-- The TCG mode a call specifies; `TCG_UNSPECIFIED` specifies none. -/
def Request.tcgMode? : Request → Option TcgMode
  | .setTcgMode m => if m = .tcgUnspecified then none else some m
  | .setIcountMode _ _ => none

/-- The icount mode and shift a call specifies; `ICOUNT_UNSPECIFIED` specifies none. -/
def Request.icountMode? : Request → Option (IcountMode × Int)
  | .setTcgMode _ => none
  | .setIcountMode m k => if m = .icountUnspecified then none else some (m, k)

namespace QemuInstance

/-- The TCG mode recorded, if any. -/
def tcgModes (s : QemuInstance) : List TcgMode :=
  if s.tcgMode = .tcgUnspecified then [] else [s.tcgMode]

/-- The icount mode and shift recorded, if any. -/
def icountModes (s : QemuInstance) : List (IcountMode × Int) :=
  if s.icountMode = .icountUnspecified then [] else [(s.icountMode, s.icountMips)]

/-- Record agreed values (the shift is kept when no icount mode is agreed on). -/
def record (s : QemuInstance) (t : Option TcgMode) (i : Option (IcountMode × Int)) :
    QemuInstance :=
  { s with
    tcgMode := t.getD .tcgUnspecified
    icountMode := (i.map Prod.fst).getD .icountUnspecified
    icountMips := (i.map Prod.snd).getD s.icountMips }

/-- **The outcome the calls `rs` are meant to have**: every kind of value agreed on, the recorded
one included, and recorded. -/
def agreed (s : QemuInstance) (rs : List Request) : Option QemuInstance := do
  let t ← negotiated (s.tcgModes ++ rs.filterMap Request.tcgMode?)
  let i ← negotiated (s.icountModes ++ rs.filterMap Request.icountMode?)
  pure (s.record t i)

/-! ## The code refines the negotiation -/

variable {s s' : QemuInstance} {r : Request}

/-- An instance reads back the values it records. -/
theorem agreed_nil (s : QemuInstance) : s.agreed [] = some s := by
  rcases s with ⟨_, _, _ | _ | _ | _, _ | _ | _, _⟩ <;> rfl

/-- **One successful call** before `init` moves its value from the calls to the instance. -/
theorem agreed_cons_of_ok (hs : s.inited = false) (h : s.request r = .ok s') (rs : List Request) :
    s'.inited = false ∧ s.agreed (r :: rs) = s'.agreed rs := by
  obtain ⟨_, args, t, i, k⟩ := s
  cases hs
  cases r with
  | setTcgMode m =>
    simp only [request, setTcgMode, Bool.false_eq_true, if_false] at h
    split_ifs at h with hm hc <;> cases h
    · simp [agreed, List.filterMap_cons, Request.tcgMode?, Request.icountMode?, hm]
    refine ⟨rfl, ?_⟩
    rcases not_and_or.1 hc with ht | ht <;> rw [not_not] at ht <;> subst ht
    · simp [agreed, List.filterMap_cons, tcgModes, icountModes, record, Request.tcgMode?,
        Request.icountMode?, hm]
    · simp [agreed, List.filterMap_cons, tcgModes, record, Request.tcgMode?, Request.icountMode?,
        hm, negotiated_cons_self]
  | setIcountMode m k' =>
    simp only [request, setIcountMode, Bool.false_eq_true, if_false] at h
    split_ifs at h with hm hc hk <;> cases h
    · simp [agreed, List.filterMap_cons, Request.tcgMode?, Request.icountMode?, hm]
    refine ⟨rfl, ?_⟩
    by_cases hi : i = .icountUnspecified
    · subst hi
      simp only [agreed, List.filterMap_cons, tcgModes, icountModes, record, Request.tcgMode?,
        Request.icountMode?, hm, if_true, if_false, List.nil_append, List.singleton_append,
        negotiated_cons]
      split_ifs <;> rfl
    · obtain rfl : m = i := by_contra fun h => hc ⟨hi, h⟩
      obtain rfl : k' = k := by_contra fun h => hk ⟨hi, h⟩
      simp [agreed, List.filterMap_cons, icountModes, record, Request.tcgMode?,
        Request.icountMode?, hm, negotiated_cons_self]

/-- **One failed call** before `init` is a mismatch with the recorded value, and the calls cannot
agree. -/
theorem agreed_cons_of_error (hs : s.inited = false) {f : Failure} (h : s.request r = .error f)
    (rs : List Request) :
    (f = tcgModeMismatch ∨ f = icountModeMismatch) ∧ s.agreed (r :: rs) = none := by
  obtain ⟨_, args, t, i, k⟩ := s
  cases hs
  cases r with
  | setTcgMode m =>
    simp only [request, setTcgMode, Bool.false_eq_true, if_false] at h
    split_ifs at h with hm hc
    cases h
    refine ⟨.inl rfl, ?_⟩
    simp [agreed, List.filterMap_cons, tcgModes, Request.tcgMode?, hm, hc.1,
      negotiated_cons_of_ne (Ne.symm hc.2)]
  | setIcountMode m k' =>
    simp only [request, setIcountMode, Bool.false_eq_true, if_false] at h
    split_ifs at h with hm hc hk <;> cases h <;> refine ⟨.inr rfl, ?_⟩
    · simp [agreed, List.filterMap_cons, icountModes, Request.icountMode?, hm, hc.1,
        negotiated_cons_of_ne (a := (i, k)) (b := (m, k')) (by simp [Ne.symm hc.2])]
    · simp [agreed, List.filterMap_cons, icountModes, Request.icountMode?, hm, hk.1,
        negotiated_cons_of_ne (a := (i, k)) (b := (m, k')) (by simp [Ne.symm hk.2])]

/-- **The code refines the negotiation.** From an instance not yet initialized, the CPUs' calls
succeed exactly when they agree, the recorded values included, and leave the instance with the
agreed values recorded. -/
theorem requestAll_toOption (hs : s.inited = false) (rs : List Request) :
    (s.requestAll rs).toOption = s.agreed rs := by
  induction rs generalizing s with
  | nil => exact (agreed_nil s).symm
  | cons r rs ih =>
    cases h : s.request r with
    | error f => rw [requestAll_cons_error h, (agreed_cons_of_error hs h rs).2]; rfl
    | ok s' =>
      obtain ⟨hs', he⟩ := agreed_cons_of_ok hs h rs
      rw [requestAll_cons_ok h, he, ih hs']

end QemuInstance

/-! ## Starting QEMU -/

/-- **The command line QEMU is meant to start with**, as the comments of `init` describe it: TCG
defaults to single-threaded and icount to off, and `-icount` with its shift is passed only when
icount is on. -/
def commandLine (t : Option TcgMode) (i : Option (IcountMode × Int)) : List String :=
  QemuInstance.defaultArgs ++
    ["-accel",
      match t with
      | some .tcgSingleCoroutine => "tcg,thread=single,coroutine=on"
      | some .tcgMulti => "tcg,thread=multi"
      | _ => "tcg,thread=single"] ++
    match i with
    | some (.icountOn, k) => ["-icount", toString k ++ ",nosleep"]
    | _ => []

namespace QemuInstance

/-- `init` on a new instance with agreed values recorded passes none of its `assert`s wrongly and
starts QEMU with their command line. -/
theorem get_record (t : Option TcgMode) (i : Option (IcountMode × Int)) :
    ((new.record t i).get).toOption.map args = some (commandLine t i) := by
  rcases t with _ | ⟨_ | _ | _ | _⟩ <;> rcases i with _ | ⟨⟨_ | _ | _⟩, k⟩ <;> rfl

theorem toOption_bind_get (x : Except Failure QemuInstance) :
    (x >>= get).toOption = x.toOption.bind fun s => s.get.toOption := by
  cases x <;> rfl

/-- **QEMU starts with the agreed modes.** Whatever calls the CPUs make on a new instance before
its first `get`, `get` succeeds exactly when they agree, and QEMU is then started with the command
line of the agreed modes, the defaults filling in what nobody asked for. -/
theorem get_after_requests (rs : List Request) :
    (new.requestAll rs >>= get).toOption.map args =
      (do
        let t ← negotiated (rs.filterMap Request.tcgMode?)
        let i ← negotiated (rs.filterMap Request.icountMode?)
        pure (commandLine t i)) := by
  rw [toOption_bind_get, requestAll_toOption rfl]
  simp only [agreed, show new.tcgModes = [] from rfl, show new.icountModes = [] from rfl,
    List.nil_append]
  rcases negotiated (rs.filterMap Request.tcgMode?) with _ | t <;>
    rcases negotiated (rs.filterMap Request.icountMode?) with _ | i <;>
      simp [get_record]

example :
    (new.requestAll [.setTcgMode .tcgMulti, .setIcountMode .icountOn 3, .setTcgMode .tcgMulti] >>=
        get).toOption.map args =
      some (defaultArgs ++ ["-accel", "tcg,thread=multi", "-icount", "3,nosleep"]) := rfl

end QemuInstance

end LibQbox

end QBox
