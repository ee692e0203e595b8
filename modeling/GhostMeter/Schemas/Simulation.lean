import GhostMeter.Lib.Binary
import GhostMeter.Lib.PyInt
import GhostMeter.Schemas.Anomaly
import GhostMeter.Simulation.FaultSimulator

/-! What the schema of a fault accepts, and what the helpers that read its parameters make of
them: of the values that either side converts, only the integers too large for a float pass one
and raise in the other. -/

namespace GhostMeter.Schemas

open GhostMeter.Lib GhostMeter.Simulation

/-- The message goes on with the set of the types, in no fixed order. -/
def validateFaultType : FaultType → Except PyError Unit
  | .other _ => .error (.valueError "fault_type must be one of ")
  | .delay | .timeout | .exception | .intermittent => .ok ()

/-- `except (TypeError, ValueError): raise ValueError(message)`. -/
def reraised {α : Type} (message : String) : Except PyError α → Except PyError α
  | .error .typeError => .error (.valueError message)
  | .error (.valueError _) => .error (.valueError message)
  | x => x

/-- A parameter of one fault type, replaced by what its value converts to. -/
def validateParam (faultType : FaultType) (key : String) (convert : Json → Except PyError Json)
    (data : FaultConfig) : Except PyError FaultConfig :=
  if data.faultType = faultType then
    match data.params.lookup key with
    | some v => do return { data with params := data.params.set key (← convert v) }
    | none => return data
  else return data

def validateDelay : FaultConfig → Except PyError FaultConfig :=
  validateParam .delay "delay_ms" fun v => do
    let delayMs ← reraised "delay_ms must be an integer number of milliseconds" v.toInt
    raiseIf (delayMs < 0) (.valueError "delay_ms must be >= 0")
    return .int delayMs

def validateFailureRate : FaultConfig → Except PyError FaultConfig :=
  validateParam .intermittent "failure_rate" fun v => do
    let rate ← reraised "failure_rate must be a number between 0.0 and 1.0" v.toFloat
    raiseIf (¬ (PyFloat.le .zero rate = true ∧ rate.le (.exact 1) = true))
      (.valueError "failure_rate must be between 0.0 and 1.0")
    return .float rate

/-- `FaultConfigSet`: the fault that its validators accept, its parameters converted. -/
def validateFault (data : FaultConfig) : Except PyError FaultConfig := do
  validateFaultType data.faultType
  validateFailureRate (← validateDelay data)

/-- The numbers that a value holds: its own, or the one that a string reads as. -/
def HoldsNumber (v : Json) (n : PyFloat) : Prop :=
  v.number = .ok n ∨ ∃ s, v = .str s ∧ PyFloat.ofString s = .ok n

/-- The helpers return on the parameters, within their bounds, and what a parameter holds where
that is within them. -/
structure UsableParams (params : Params) : Prop where
  delay : ∃ seconds, getDelaySeconds params = .ok seconds ∧
    PyFloat.zero.le seconds ∧ seconds.le (.exact 10) ∧
    ∀ v delayMs, params.lookup "delay_ms" = some v → HoldsNumber v delayMs →
      PyFloat.zero.le delayMs → delayMs.le (.exact 10000) →
      delayMs.div (.exact 1000) = .ok seconds
  failureRate : ∃ rate, getFailureRate params = .ok rate ∧
    PyFloat.zero.le rate ∧ rate.le (.exact 1) ∧
    ∀ v n, params.lookup "failure_rate" = some v → HoldsNumber v n →
      PyFloat.zero.le n → n.le (.exact 1) → n = rate

/-- The integers from which on `float` raises. -/
def floatLimit : ℕ := 2 ^ 1024 - 2 ^ 970

def OversizedInt (v : Json) : Prop := ∃ n, v = .int n ∧ floatLimit ≤ n.natAbs

/-- A delay fault's delay is converted by `int` before it is held. -/
def OversizedDelay (data : FaultConfig) : Prop :=
  ∃ v, data.params.lookup "delay_ms" = some v ∧
    if data.faultType = .delay then ∃ n, v.toInt = .ok n ∧ floatLimit ≤ n.natAbs
    else OversizedInt v

def OversizedRate (data : FaultConfig) : Prop :=
  ∃ v, data.params.lookup "failure_rate" = some v ∧ OversizedInt v

section Conversion

variable {v : Json} {default n : PyFloat}

/-- The conversion of the helpers, with its default for what is malformed or not finite. -/
def floatOr (default : PyFloat) (v : Json) : Except PyError PyFloat :=
  match v.toFloat with
  | .ok x => .ok (if x.isFinite then x else default)
  | .error .typeError => .ok default
  | .error (.valueError _) => .ok default
  | .error e => .error e

theorem getDelaySeconds_eq (params : Params) :
    getDelaySeconds params = (do
      let delay ← floatOr (.exact 500) (params.getD "delay_ms" (.int 500))
      ((delay.max .zero).min (.exact 10000)).div (.exact 1000)) := by
  simp only [getDelaySeconds, floatOr]
  generalize (params.getD "delay_ms" (.int 500)).toFloat = x
  rcases x with e | x
  · cases e <;> rfl
  · rfl

theorem getFailureRate_eq (params : Params) :
    getFailureRate params = (do
      let rate ← floatOr (.ofRat (1 / 2))
        (params.getD "failure_rate" (.float (.ofRat (1 / 2))))
      return (rate.max .zero).min (.exact 1)) := by
  simp only [getFailureRate, floatOr]
  generalize (params.getD "failure_rate" (.float (.ofRat (1 / 2)))).toFloat = x
  rcases x with e | x
  · cases e <;> rfl
  · rfl

theorem ofString_cases (s : String) :
    (∃ x, PyFloat.ofString s = .ok x) ∨
      ∃ message, PyFloat.ofString s = .error (.valueError message) := by
  unfold PyFloat.ofString
  split
  all_goals
    generalize PyFloat.ofUnsigned _ = x
    cases x with
    | none => exact .inr ⟨_, rfl⟩
    | some x => exact .inl ⟨_, rfl⟩

theorem floatOr_of_oversized (h : OversizedInt v) :
    floatOr default v = .error .overflowError := by
  obtain ⟨n, rfl, hn⟩ := h
  have hnone : ¬ ∃ x, PyFloat.ofInt n = .ok x := fun hx =>
    hn.not_gt ((PyFloat.exists_ofInt_iff n).1 hx)
  have hraise : PyFloat.ofInt n = .error .overflowError := by
    unfold PyFloat.ofInt at hnone ⊢
    cases hround : PyFloat.round64 n.natAbs with
    | none => rfl
    | some m => exact absurd ⟨_, by rw [hround]⟩ hnone
  rw [floatOr, Json.toFloat, hraise]

/-- Of anything else the conversion makes a finite number: its own, if it has one. -/
theorem floatOr_of_not_oversized (hdefault : default.isFinite) (h : ¬ OversizedInt v) :
    ∃ x, floatOr default v = .ok x ∧ x.isFinite ∧
      ∀ n, v.toFloat = .ok n → n.isFinite → x = n := by
  have hread : (∃ x, v.toFloat = .ok x) ∨ v.toFloat = .error .typeError ∨
      ∃ message, v.toFloat = .error (.valueError message) := by
    cases v with
    | null | arr | obj => exact .inr (.inl rfl)
    | bool | float => exact .inl ⟨_, rfl⟩
    | int n =>
      exact .inl ((PyFloat.exists_ofInt_iff n).2 (not_le.1 fun hn => h ⟨n, rfl, hn⟩))
    | str s => exact (ofString_cases s).imp id .inr
  unfold floatOr
  rcases hread with ⟨x, hx⟩ | hx | ⟨message, hx⟩ <;> rw [hx]
  · refine ⟨_, rfl, ?_, ?_⟩
    · split
      next hfin => exact hfin
      next => exact hdefault
    · rintro n ⟨⟩ hn
      rw [if_pos hn]
  · exact ⟨_, rfl, hdefault, fun n hn => by cases hn⟩
  · exact ⟨_, rfl, hdefault, fun n hn => by cases hn⟩

/-- What a value holds within the bounds of a delay is what the conversion reads. -/
theorem toFloat_of_holds (h : HoldsNumber v n) (hlo : PyFloat.zero.le n)
    (hhi : n.le (.exact 10000)) : v.toFloat = .ok n := by
  rcases h with h | ⟨s, rfl, h⟩
  · cases v with
    | bool b =>
      cases h
      cases b <;> rfl
    | int k =>
      cases h
      rw [PyFloat.zero_eq_exact, PyFloat.exact_le_exact] at hlo
      rw [PyFloat.exact_le_exact] at hhi
      exact PyFloat.ofInt_of_lt (by omega)
    | float x => exact h
    | _ => cases h
  · exact h

theorem isFinite_of_mem {bound : ℤ} (hlo : PyFloat.zero.le n) (hhi : n.le (.exact bound)) :
    n.isFinite := by
  cases n with
  | nan => cases hlo
  | inf s => cases s with
    | false => cases hhi
    | true => cases hlo
  | fin => rfl

end Conversion

section Helpers

variable {params : Params} {key : String} {default : Json}

theorem getD_of_lookup {v : Json} (h : params.lookup key = some v) :
    params.getD key default = v := by
  rw [Params.getD, h, Option.getD_some]

theorem not_oversized_getD (hdefault : ¬ OversizedInt default)
    (h : ∀ v, params.lookup key = some v → ¬ OversizedInt v) :
    ¬ OversizedInt (params.getD key default) := by
  unfold Params.getD
  cases hv : params.lookup key with
  | none => exact hdefault
  | some v => exact h v hv

theorem usableParams_iff_held (params : Params) :
    UsableParams params ↔
      (∀ v, params.lookup "delay_ms" = some v → ¬ OversizedInt v) ∧
      ∀ v, params.lookup "failure_rate" = some v → ¬ OversizedInt v := by
  constructor
  · rintro ⟨⟨seconds, hseconds, -⟩, rate, hrate, -⟩
    constructor
    · intro v hv hover
      rw [getDelaySeconds_eq, getD_of_lookup hv, floatOr_of_oversized hover] at hseconds
      cases hseconds
    · intro v hv hover
      rw [getFailureRate_eq, getD_of_lookup hv, floatOr_of_oversized hover] at hrate
      cases hrate
  · rintro ⟨hdelay, hrate⟩
    constructor
    · have hdefault : ¬ OversizedInt (.int 500) := by
        rintro ⟨_, ⟨⟩, h⟩
        exact absurd h (by decide +kernel)
      have hfinite : (PyFloat.exact 500).isFinite := rfl
      have hbounds : PyFloat.zero.le (.exact 10000) := by decide +kernel
      obtain ⟨x, hx, hfin, hread⟩ := floatOr_of_not_oversized hfinite
        (not_oversized_getD hdefault hdelay)
      obtain ⟨hlo, hhi⟩ := PyFloat.clamp_of_finite hbounds rfl rfl hfin
      obtain ⟨seconds, hdiv, hmem⟩ := PyFloat.exists_div (k := 1000) (c := 10) (by norm_num)
        (by decide +kernel) hlo hhi
      refine ⟨seconds, by rw [getDelaySeconds_eq, hx]; exact hdiv, hmem.1, hmem.2, ?_⟩
      intro v delayMs hv hholds hlo' hhi'
      have hself := hread delayMs (by
        rw [getD_of_lookup hv]
        exact toFloat_of_holds hholds hlo' hhi') (isFinite_of_mem hlo' hhi')
      rw [hself, PyFloat.clamp_of_mem hlo' hhi'] at hdiv
      exact hdiv
    · have hdefault : ¬ OversizedInt (.float (.ofRat (1 / 2))) := by
        rintro ⟨_, ⟨⟩, -⟩
      have hfinite : (PyFloat.ofRat (1 / 2)).isFinite := by decide +kernel
      have hbounds : PyFloat.zero.le (.exact 1) := by decide +kernel
      obtain ⟨x, hx, hfin, hread⟩ := floatOr_of_not_oversized hfinite
        (not_oversized_getD hdefault hrate)
      obtain ⟨hlo, hhi⟩ := PyFloat.clamp_of_finite hbounds rfl rfl hfin
      refine ⟨_, by rw [getFailureRate_eq, hx]; rfl, hlo, hhi, ?_⟩
      intro v n hv hholds hlo' hhi'
      have hself := hread n (by
        rw [getD_of_lookup hv]
        exact toFloat_of_holds hholds hlo' (PyFloat.le_trans hhi' (by decide +kernel)))
        (isFinite_of_mem hlo' hhi')
      rw [hself, PyFloat.clamp_of_mem hlo' hhi']

end Helpers

section Validators

variable {data config : FaultConfig}

@[simp] theorem reraised_ok_iff {α : Type} {message : String} {x : Except PyError α} {a : α} :
    reraised message x = .ok a ↔ x = .ok a := by
  rcases x with e | x
  · cases e <;> simp [reraised]
  · rfl

/-- A parameter is left alone, or there and converted. -/
theorem validateParam_ok {faultType : FaultType} {key : String}
    {convert : Json → Except PyError Json}
    (h : validateParam faultType key convert data = .ok config) :
    ((data.faultType = faultType → data.params.lookup key = none) ∧ config = data) ∨
      ∃ v w, data.faultType = faultType ∧ data.params.lookup key = some v ∧
        convert v = .ok w ∧ config = { data with params := data.params.set key w } := by
  unfold validateParam at h
  split at h
  next htype =>
    cases hv : data.params.lookup key with
    | none =>
      rw [hv] at h
      cases h
      exact .inl ⟨fun _ => rfl, rfl⟩
    | some v =>
      rw [hv] at h
      obtain ⟨w, hw, h⟩ := bind_ok_iff.1 h
      cases h
      exact .inr ⟨v, w, htype, rfl, hw, rfl⟩
  next htype =>
    cases h
    exact .inl ⟨fun h => absurd h htype, rfl⟩

/-- The other parameters are left alone. -/
theorem lookup_of_validateParam {faultType : FaultType} {key key' : String}
    {convert : Json → Except PyError Json}
    (h : validateParam faultType key convert data = .ok config) (hkey : key' ≠ key) :
    config.params.lookup key' = data.params.lookup key' := by
  rcases validateParam_ok h with ⟨-, rfl⟩ | ⟨v, w, -, -, -, rfl⟩
  · rfl
  · rw [Params.lookup_set, if_neg hkey]

theorem oversizedInt_int_iff {n : ℤ} : OversizedInt (.int n) ↔ floatLimit ≤ n.natAbs :=
  ⟨by rintro ⟨_, ⟨⟩, h⟩; exact h, fun h => ⟨n, rfl, h⟩⟩

theorem held_delay_iff (h : validateDelay data = .ok config) :
    (∃ v, config.params.lookup "delay_ms" = some v ∧ OversizedInt v) ↔ OversizedDelay data := by
  rcases validateParam_ok h with ⟨hnone, rfl⟩ | ⟨v, w, htype, hv, hw, rfl⟩
  · refine exists_congr fun v => and_congr_right fun hv => ?_
    have htype : config.faultType ≠ .delay := fun htype => by
      rw [hnone htype] at hv
      cases hv
    rw [if_neg htype]
  · obtain ⟨n, hn, hw⟩ := bind_ok_iff.1 hw
    obtain ⟨-, -, hw⟩ := bind_ok_iff.1 hw
    cases hw
    rw [reraised_ok_iff] at hn
    simp only [Params.lookup_set, if_true, Option.some.injEq, exists_eq_left', OversizedDelay,
      hv, htype, hn, Except.ok.injEq, oversizedInt_int_iff]

/-- A rate that `float` has read is no oversized integer, nor was what it was read from. -/
theorem held_failureRate_iff (h : validateFailureRate data = .ok config) :
    (∃ v, config.params.lookup "failure_rate" = some v ∧ OversizedInt v) ↔
      OversizedRate data := by
  rcases validateParam_ok h with ⟨-, rfl⟩ | ⟨v, w, -, hv, hw, rfl⟩
  · exact Iff.rfl
  · obtain ⟨rate, hrate, hw⟩ := bind_ok_iff.1 hw
    obtain ⟨-, -, hw⟩ := bind_ok_iff.1 hw
    cases hw
    rw [reraised_ok_iff] at hrate
    refine iff_of_false ?_ ?_
    · rintro ⟨w, hw, n, rfl, -⟩
      rw [Params.lookup_set, if_pos rfl] at hw
      cases hw
    · rintro ⟨w, hw, n, rfl, hn⟩
      cases hv.symm.trans hw
      exact hn.not_gt ((PyFloat.exists_ofInt_iff n).1 ⟨rate, hrate⟩)

/-- The parameters of an accepted fault are usable unless they hold an integer too large for a
float. -/
theorem usableParams_iff (h : validateFault data = .ok config) :
    UsableParams config.params ↔ ¬ (OversizedDelay data ∨ OversizedRate data) := by
  obtain ⟨-, -, h⟩ := bind_ok_iff.1 h
  obtain ⟨mid, hdelay, hrate⟩ := bind_ok_iff.1 h
  have hdelay' : (∃ v, config.params.lookup "delay_ms" = some v ∧ OversizedInt v) ↔
      OversizedDelay data := by
    rw [lookup_of_validateParam hrate (by decide), held_delay_iff hdelay]
  have hrate' : (∃ v, config.params.lookup "failure_rate" = some v ∧ OversizedInt v) ↔
      OversizedRate data := by
    rw [held_failureRate_iff hrate, OversizedRate, OversizedRate,
      lookup_of_validateParam hdelay (by decide)]
  rw [usableParams_iff_held, ← hdelay', ← hrate', not_or]
  push Not
  rfl

theorem validateFault_delay {n : ℤ} (hn : 0 ≤ n) :
    validateFault ⟨.delay, [("delay_ms", .int n)]⟩ = .ok ⟨.delay, [("delay_ms", .int n)]⟩ := by
  have hcheck : raiseIf (n < 0) (PyError.valueError "delay_ms must be >= 0") = .ok () :=
    (raiseIf_ok_iff _ _).2 hn.not_gt
  have hdelay : validateDelay ⟨.delay, [("delay_ms", .int n)]⟩ =
      .ok ⟨.delay, [("delay_ms", .int n)]⟩ := by
    change (_ >>= _) = _
    refine bind_ok_iff.2 ⟨.int n, ?_, rfl⟩
    exact bind_ok_iff.2 ⟨n, rfl, bind_ok_iff.2 ⟨(), hcheck, rfl⟩⟩
  change (validateDelay _ >>= validateFailureRate) = _
  rw [hdelay]
  rfl

/-- A delay that the schema accepts and no response can wait for. -/
def oversizedFault : FaultConfig := ⟨.delay, [("delay_ms", .int (10 ^ 400))]⟩

theorem not_usableParams_oversizedFault :
    validateFault oversizedFault = .ok oversizedFault ∧
      getDelaySeconds oversizedFault.params = .error .overflowError ∧
      ¬ UsableParams oversizedFault.params := by
  have hraise : getDelaySeconds oversizedFault.params = .error .overflowError := by
    decide +kernel
  refine ⟨validateFault_delay (by positivity), hraise, ?_⟩
  rintro ⟨⟨seconds, hseconds, -⟩, -⟩
  rw [hraise] at hseconds
  cases hseconds

theorem usableParams_quarterSecond :
    UsableParams [("delay_ms", .int 250)] ↔
      ¬ (OversizedDelay ⟨.delay, [("delay_ms", .str " 250")]⟩ ∨
        OversizedRate ⟨.delay, [("delay_ms", .str " 250")]⟩) :=
  usableParams_iff (show validateFault ⟨.delay, [("delay_ms", .str " 250")]⟩ =
    .ok ⟨.delay, [("delay_ms", .int 250)]⟩ from rfl)

end Validators

end GhostMeter.Schemas
