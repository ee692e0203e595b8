import GhostMeter.Lib.Run
import GhostMeter.Protocols.ServedValues
import Mathlib.Data.Int.ConditionallyCompleteOrder

/-! The values of the OPC UA nodes, over every sequence of calls of the adapter. -/

namespace GhostMeter.Protocols

open GhostMeter.Lib GhostMeter.Simulation

/-- A variant that can be packed: an integer type holds an integer of its range, `Float` a NaN or a
float of its range, and `Double` any float, or an integer that is one. -/
def Variant.Writable (v : Variant) : Prop :=
  match v.vtype.intRange, v.value with
  | some (lo, hi), .int n => n ∈ Set.Icc lo hi
  | some _, .float _ => False
  | none, .int n => v.vtype = .double ∧ ∃ x, PyFloat.ofInt n = .ok x
  | none, .float x =>
    v.vtype = .float → x = .nan ∨ float32Max.neg.le x ∧ x.le float32Max

/-- The integer of the range that is nearest to the float without its fraction. -/
def NearestTo (range : ℤ × ℤ) : PyFloat → ℤ → Prop
  | .nan, n => n = 0
  | .inf true, n => IsLeast (Set.Icc range.1 range.2) n
  | .inf false, n => IsGreatest (Set.Icc range.1 range.2) n
  | .fin neg m, n =>
    let whole := (PyFloat.fin neg m).trunc
    n ∈ Set.Icc range.1 range.2 ∧ ∀ k ∈ Set.Icc range.1 range.2, |n - whole| ≤ |k - whole|

/-- The variant stands for the float. -/
structure Variant.Holds (v : Variant) (x : PyFloat) : Prop where
  writable : v.Writable
  nearest : ∀ range, v.vtype.intRange = some range → ∃ n, v.value = .int n ∧ NearestTo range x n

theorem intRange_mem_zero {vtype : VariantType} {range : ℤ × ℤ}
    (h : vtype.intRange = some range) : (0 : ℤ) ∈ Set.Icc range.1 range.2 := by
  cases vtype <;> cases h <;> norm_num

theorem nearestTo_saturate {range : ℤ × ℤ} (hrange : range.1 ≤ range.2) (neg : Bool) (m : ℚ≥0) :
    NearestTo range (.fin neg m) (saturate range (PyFloat.fin neg m).trunc) := by
  simp only [NearestTo, saturate, Set.mem_Icc]
  generalize (PyFloat.fin neg m).trunc = t
  refine ⟨by omega, ?_⟩
  rintro k ⟨hlo, hhi⟩
  rcases abs_cases (max range.1 (min range.2 t) - t) with ⟨h, -⟩ | ⟨h, -⟩
  · have := le_abs_self (k - t)
    have := abs_nonneg (k - t)
    omega
  · have := neg_le_abs (k - t)
    have := abs_nonneg (k - t)
    omega

theorem coerceToRange_nearest {vtype : VariantType} {range : ℤ × ℤ}
    (hrange : vtype.intRange = some range) (x : PyFloat) :
    ∃ n, coerceToRange x vtype = .int n ∧ n ∈ Set.Icc range.1 range.2 ∧ NearestTo range x n := by
  have hzero := intRange_mem_zero hrange
  have hle : range.1 ≤ range.2 := hzero.1.trans hzero.2
  cases x with
  | nan => exact ⟨0, by simp [coerceToRange, hrange, PyFloat.isNan], hzero, rfl⟩
  | inf neg =>
    cases neg with
    | true =>
      refine ⟨range.1, ?_, Set.left_mem_Icc.2 hle, isLeast_Icc hle⟩
      simp [coerceToRange, hrange, PyFloat.isNan, PyFloat.le, PyFloat.exact]
    | false =>
      refine ⟨range.2, ?_, Set.right_mem_Icc.2 hle, isGreatest_Icc hle⟩
      simp [coerceToRange, hrange, PyFloat.isNan, PyFloat.le, PyFloat.exact]
  | fin neg m =>
    have hnearest := nearestTo_saturate hle neg m
    exact ⟨_, coerceToRange_int rfl hrange, hnearest.1, hnearest⟩

theorem coerceToRange_float {vtype : VariantType} (hrange : vtype.intRange = none) (x : PyFloat) :
    coerceToRange x vtype =
      .float (if vtype = .float ∧ ¬ x.isNan then float32Max.neg.max (float32Max.min x) else x) := by
  simp only [coerceToRange, hrange]
  split <;> rfl

theorem holds_coerceToRange (x : PyFloat) (vtype : VariantType) :
    Variant.Holds ⟨coerceToRange x vtype, vtype⟩ x := by
  cases hrange : vtype.intRange with
  | some range =>
    obtain ⟨n, hn, hmem, hnearest⟩ := coerceToRange_nearest hrange x
    constructor
    · simp only [Variant.Writable, hrange, hn]
      exact hmem
    · intro range' hrange'
      have heq : range = range' := Option.some.inj (hrange.symm.trans hrange')
      subst heq
      exact ⟨n, hn, hnearest⟩
  | none =>
    constructor
    · rw [coerceToRange_float hrange]
      simp only [Variant.Writable, hrange]
      rintro rfl
      by_cases hnan : x.isNan
      · left
        cases x <;> simp_all [PyFloat.isNan]
      · right
        simpa [hnan] using PyFloat.clamp_mem (by decide +kernel) x
    · intro range hrange'
      cases hrange.symm.trans hrange'

inductive OpcUaCall
  | addDevice (faults : FaultSimulator) (device : UUID) (slave : ℤ) (registers : List RegisterInfo)
  | updateRegister (device : UUID) (address functionCode : ℤ) (value : PyFloat)
      (dataType : DataType)
  | applyFault (device : UUID)
  | removeFault (device : UUID)

/-- The adapter, with the values that each node was given since it was made, the latest first: zero,
and then those pushed for it. -/
structure OpcUaValues where
  adapter : ProtocolAdapter OpcUaAdapter
  given : NodeKey → List PyFloat := fun _ => []

namespace OpcUaValues

open OpcUaAdapter

/-- A started server without devices. -/
def started : OpcUaValues where
  adapter := { state := OpcUaAdapter.start {} }

/-- A register is pushed with its own data type. -/
def step (s : OpcUaValues) : OpcUaCall → Option OpcUaValues
  | .addDevice faults device slave registers => some {
      adapter := (s.adapter.addDevice (doAddDevice faults) device slave registers).1
      given := fun key => if key ∈ nodeKeys device registers then [.zero] else s.given key }
  | .updateRegister device address functionCode value dataType =>
    match s.adapter.state.nodes (device, address, functionCode) with
    | none => some s
    | some node =>
      if (typeMap dataType).1 = node.vtype then
        some {
          adapter := { s.adapter with
            state := s.adapter.state.updateRegister device address functionCode value dataType }
          given := fun key =>
            if key = (device, address, functionCode) then value :: s.given key else s.given key }
      else none
  | .applyFault device => some { s with
      adapter := { s.adapter with state := s.adapter.state.applyFault device } }
  | .removeFault device => some { s with
      adapter := { s.adapter with state := s.adapter.state.removeFault device } }

/-- A variant in the cache stands for the latest value of its node and one in a node for some value
of the node; whatever a fault callback serves can be packed. -/
structure Encodable (s : OpcUaValues) : Prop where
  cached : ∀ key v, s.adapter.state.lastValues key = some v →
    ∃ x, (s.given key).head? = some x ∧ v.Holds x
  written : ∀ key node, s.adapter.state.nodes key = some node →
    node.value.vtype = node.vtype ∧ ∃ x ∈ s.given key, node.value.Holds x
  served : ∀ faults cb random v,
    s.adapter.state.faultCallback faults cb random = .ok (.good v) → v.Writable

/-- The invariant: exactly the nodes have a cached value, of their own type. -/
structure Inv (s : OpcUaValues) : Prop where
  started : s.adapter.state.started = true
  known : ∀ key, s.adapter.state.nodes key = none → s.adapter.state.lastValues key = none
  cached : ∀ key node, s.adapter.state.nodes key = some node → ∃ v x,
    s.adapter.state.lastValues key = some v ∧ v.vtype = node.vtype ∧
      (s.given key).head? = some x ∧ v.Holds x
  written : ∀ key node, s.adapter.state.nodes key = some node →
    node.value.vtype = node.vtype ∧ ∃ x ∈ s.given key, node.value.Holds x

variable {s s' : OpcUaValues} {call : OpcUaCall}

theorem Inv.encodable (h : Inv s) : Encodable s := by
  have hcached : ∀ key v, s.adapter.state.lastValues key = some v →
      ∃ x, (s.given key).head? = some x ∧ v.Holds x := by
    intro key v hv
    cases hnode : s.adapter.state.nodes key with
    | none => cases (h.known key hnode).symm.trans hv
    | some node =>
      obtain ⟨v', x, hv', -, hx, hholds⟩ := h.cached key node hnode
      obtain rfl := Option.some.inj (hv'.symm.trans hv)
      exact ⟨x, hx, hholds⟩
  refine ⟨hcached, h.written, fun faults cb random v hv => ?_⟩
  rw [value_of_faultCallback hv, lastValue]
  cases hlast : s.adapter.state.lastValues cb.key with
  | none => exact ⟨rfl, .zero, by decide +kernel⟩
  | some v' =>
    obtain ⟨x, -, hholds⟩ := hcached cb.key v' hlast
    exact hholds.writable

theorem holds_zero (vtype : VariantType) : Variant.Holds ⟨vtype.zero, vtype⟩ .zero := by
  have h : coerceToRange .zero vtype = vtype.zero := by cases vtype <;> decide +kernel
  rw [← h]
  exact holds_coerceToRange _ _

theorem inv_started : Inv started := by
  constructor <;> simp [started, OpcUaAdapter.start]

theorem Inv.congr (h : Inv s) (hstate : s'.adapter.state = s.adapter.state)
    (hgiven : s'.given = s.given) : Inv s' := by
  obtain ⟨⟨state, stats⟩, given⟩ := s'
  simp only at hstate hgiven
  subst hstate hgiven
  exact { h with }

theorem Inv.createNodes (h : Inv s) (device : UUID) (slave : ℤ) (registers : List RegisterInfo) :
    Inv {
      adapter := { s.adapter with state := s.adapter.state.createNodes device slave registers }
      given := fun key => if key ∈ nodeKeys device registers then [.zero] else s.given key } := by
  have hnodes := @OpcUaAdapter.createNodes_nodes device s.adapter.state slave registers
  constructor
  · exact (createNodes_frame slave registers).1.trans h.started
  · intro key hnone
    rcases hnodes key with ⟨-, hsame, hlast⟩ | ⟨-, node, hnode, -⟩
    · exact hlast.trans (h.known key (hsame.symm.trans hnone))
    · cases hnone.symm.trans hnode
  · intro key node hnode
    rcases hnodes key with ⟨hkey, hsame, hlast⟩ | ⟨hkey, node', hnode', -, hvalue, hlast⟩
    · simp only [if_neg hkey, hlast]
      exact h.cached key node (hsame.symm.trans hnode)
    · obtain rfl := Option.some.inj (hnode'.symm.trans hnode)
      simp only [if_pos hkey]
      refine ⟨_, .zero, hlast, by rw [hvalue], rfl, ?_⟩
      rw [hvalue]
      exact holds_zero _
  · intro key node hnode
    rcases hnodes key with ⟨hkey, hsame, -⟩ | ⟨hkey, node', hnode', -, hvalue, -⟩
    · simp only [if_neg hkey]
      exact h.written key node (hsame.symm.trans hnode)
    · obtain rfl := Option.some.inj (hnode'.symm.trans hnode)
      simp only [if_pos hkey]
      rw [hvalue]
      exact ⟨rfl, .zero, List.mem_singleton_self _, holds_zero _⟩

theorem Inv.applyFault (h : Inv s) (device : UUID) : Inv { s with
    adapter := { s.adapter with state := s.adapter.state.applyFault device } } := by
  constructor
  · rw [started_applyFault, h.started]
  · intro key hnone
    rw [lastValues_applyFault]
    exact h.known key (nodes_applyFault_eq_none_iff.1 hnone)
  · intro key node' hnode'
    obtain ⟨node, hnode, hvtype, -⟩ := nodes_applyFault hnode'
    rw [lastValues_applyFault, hvtype]
    exact h.cached key node hnode
  · intro key node' hnode'
    obtain ⟨node, hnode, hvtype, hvalue, -⟩ := nodes_applyFault hnode'
    rw [hvtype, hvalue]
    exact h.written key node hnode

theorem Inv.removeFault (h : Inv s) (device : UUID) : Inv { s with
    adapter := { s.adapter with state := s.adapter.state.removeFault device } } := by
  have hvtype : ∀ key node', (s.adapter.state.removeFault device).nodes key = some node' →
      ∃ node, s.adapter.state.nodes key = some node ∧ node'.vtype = node.vtype ∧
        (node'.value = s.adapter.state.lastValue key ∨ node' = node) := by
    intro key node' hnode'
    obtain ⟨node, hnode, heq⟩ := nodes_removeFault hnode'
    split at heq
    next => exact ⟨node, hnode, by rw [heq]; rfl, Or.inl (by rw [heq]; rfl)⟩
    next => exact ⟨node, hnode, by rw [heq], Or.inr heq⟩
  constructor
  · rw [started_removeFault, h.started]
  · intro key hnone
    rw [lastValues_removeFault]
    exact h.known key (nodes_removeFault_eq_none_iff.1 hnone)
  · intro key node' hnode'
    obtain ⟨node, hnode, htype, -⟩ := hvtype key node' hnode'
    rw [lastValues_removeFault, htype]
    exact h.cached key node hnode
  · intro key node' hnode'
    obtain ⟨node, hnode, htype, hvalue | rfl⟩ := hvtype key node' hnode'
    · obtain ⟨v, x, hlast, hv, hx, hholds⟩ := h.cached key node hnode
      rw [htype, hvalue, lastValue, hlast]
      exact ⟨hv, x, List.mem_of_mem_head? hx, hholds⟩
    · exact h.written key node' hnode

/-- What an enabled update does. -/
theorem step_updateRegister {device : UUID} {address functionCode : ℤ} {value : PyFloat}
    {dataType : DataType}
    (hs : s.step (.updateRegister device address functionCode value dataType) = some s') :
    s' = s ∨ ∃ key node, s.adapter.state.nodes key = some node ∧
      (s'.given = fun k => if k = key then value :: s.given k else s.given k) ∧
      s'.adapter.state.started = s.adapter.state.started ∧
      s'.adapter.state.lastValues = s.adapter.state.lastValues.set key
        ⟨coerceToRange value node.vtype, node.vtype⟩ ∧
      (s'.adapter.state.nodes = s.adapter.state.nodes ∨
        s'.adapter.state.nodes = s.adapter.state.nodes.set key
          (node.writeValue ⟨coerceToRange value node.vtype, node.vtype⟩)) := by
  simp only [step] at hs
  split at hs
  next => exact Or.inl (Option.some.inj hs).symm
  next node hnode =>
    split at hs
    next hvtype =>
      obtain rfl := Option.some.inj hs
      refine Or.inr ⟨_, node, hnode, rfl, ?_⟩
      simp only [OpcUaAdapter.updateRegister, hnode, hvtype]
      split
      next => exact ⟨rfl, rfl, Or.inl rfl⟩
      next => exact ⟨rfl, rfl, Or.inr rfl⟩
    next => cases hs

theorem Inv.updateRegister (h : Inv s) {device : UUID} {address functionCode : ℤ}
    {value : PyFloat} {dataType : DataType}
    (hs : s.step (.updateRegister device address functionCode value dataType) = some s') :
    Inv s' := by
  obtain rfl | ⟨key, node, hnode, hgiven, hstarted, hlast, hnodes⟩ := step_updateRegister hs
  · exact h
  have hother : ∀ k, k ≠ key → s'.adapter.state.nodes k = s.adapter.state.nodes k := by
    intro k hk
    rcases hnodes with heq | heq
    · rw [heq]
    · rw [heq, Dict.set_of_ne _ _ hk]
  -- the node is written unless it has a fault callback
  have hhere : ∃ node', s'.adapter.state.nodes key = some node' ∧ node'.vtype = node.vtype ∧
      (node'.value = node.value ∨ node'.value = ⟨coerceToRange value node.vtype, node.vtype⟩) := by
    rcases hnodes with heq | heq
    · exact ⟨node, heq ▸ hnode, rfl, Or.inl rfl⟩
    · exact ⟨node.writeValue ⟨coerceToRange value node.vtype, node.vtype⟩,
        by rw [heq, Dict.set_self], rfl, Or.inr rfl⟩
  obtain ⟨node', hnode', htype, hvalue⟩ := hhere
  constructor
  · rw [hstarted, h.started]
  · intro k hnone
    have hk : k ≠ key := by
      rintro rfl
      cases hnone.symm.trans hnode'
    rw [hlast, Dict.set_of_ne _ _ hk]
    exact h.known k ((hother k hk).symm.trans hnone)
  · intro k node₁ hnode₁
    by_cases hk : k = key
    · subst hk
      obtain rfl := Option.some.inj (hnode'.symm.trans hnode₁)
      rw [hlast, hgiven, Dict.set_self, htype]
      exact ⟨_, value, rfl, rfl, by simp, holds_coerceToRange value node.vtype⟩
    · rw [hlast, hgiven, Dict.set_of_ne _ _ hk]
      simp only [if_neg hk]
      exact h.cached k node₁ ((hother k hk).symm.trans hnode₁)
  · intro k node₁ hnode₁
    by_cases hk : k = key
    · subst hk
      obtain rfl := Option.some.inj (hnode'.symm.trans hnode₁)
      rw [hgiven, htype]
      simp only [if_pos]
      rcases hvalue with heq | heq
      · obtain ⟨hv, x, hx, hholds⟩ := h.written k node hnode
        rw [heq]
        exact ⟨hv, x, List.mem_cons_of_mem _ hx, hholds⟩
      · rw [heq]
        exact ⟨rfl, value, List.mem_cons_self, holds_coerceToRange value node.vtype⟩
    · rw [hgiven]
      simp only [if_neg hk]
      exact h.written k node₁ ((hother k hk).symm.trans hnode₁)

theorem Inv.step (h : Inv s) (hs : s.step call = some s') : Inv s' := by
  cases call with
  | addDevice faults device slave registers =>
    obtain rfl := Option.some.inj hs
    have hcreated := h.createNodes device slave registers
    by_cases hfault : (faults.getFault device).isSome
    · refine (hcreated.applyFault device).congr ?_ rfl
      simp [doAddDevice, h.started, hfault]
    · refine hcreated.congr ?_ rfl
      simp [doAddDevice, h.started, hfault]
  | updateRegister device address functionCode value dataType => exact h.updateRegister hs
  | applyFault device =>
    obtain rfl := Option.some.inj hs
    exact h.applyFault device
  | removeFault device =>
    obtain rfl := Option.some.inj hs
    exact h.removeFault device

/-- Every value that a client can be given can be packed, and an integer is the nearest to what the
engine has pushed. -/
theorem always_encodable (calls : List OpcUaCall) : Always step Encodable started calls :=
  ⟨inv_started.encodable, (EachStep.invariant (fun _ _ _ h hs => h.step hs) inv_started).mono
    fun _ _ _ h => h.2.encodable⟩

end OpcUaValues

end GhostMeter.Protocols
