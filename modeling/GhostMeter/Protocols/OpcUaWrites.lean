import GhostMeter.Lib.Binary
import GhostMeter.Protocols.OpcUa
import GhostMeter.Simulation.WriteTracker

/-! The write requests of OPC UA clients, as the server's hook sees them before they are applied. -/

namespace GhostMeter.Protocols

open GhostMeter.Lib

/-- A recorded write of a client, without its time. -/
structure ClientWriteEvent where
  operation : String
  address : ℤ
  values : List String
  registerName : Option String
  deriving DecidableEq

abbrev WriteTracker := Simulation.WriteTracker ClientWriteEvent

/-- The Python value in a variant that has come from a client. -/
inductive ClientValue
  | none
  | bool (b : Bool)
  | int (n : ℤ) (wire : -2 ^ 63 ≤ n ∧ n < 2 ^ 64)
  | float (x : PyFloat)
  | str (s : String)
  | bytes (bs : List UInt8)
  /-- An array, a date, an object: nothing that `float` accepts. -/
  | other (repr : String)

/-- The bytes as a text, where `float` can read one from them. -/
def asciiText (bs : List UInt8) : Option String :=
  if bs.all fun b => b < 128 ∧ ¬ (28 ≤ b ∧ b ≤ 31) then
    some (String.ofList (bs.map fun b => Char.ofNat b.toNat))
  else none

/-- `float(value)`. -/
def ClientValue.toFloat : ClientValue → Except PyError PyFloat
  | none => .error .typeError
  | bool b => .ok (if b then .fin false 1 else .zero)
  | int n _ => PyFloat.ofInt n
  | float x => .ok x
  | str s => PyFloat.ofString s
  | bytes bs =>
    match asciiText bs with
    | some s => PyFloat.ofString s
    | .none => .error (.valueError "could not convert string to float")
  | other _ => .error .typeError

/-- A number, as Python has it: `bool` is one too. -/
def ClientValue.IsNumber : ClientValue → Prop
  | bool _ => True
  | int _ _ => True
  | float _ => True
  | _ => False

inductive ClientType
  | node (vtype : VariantType)
  | other (name : String)
  deriving DecidableEq

structure ClientVariant where
  value : ClientValue
  vtype : ClientType

/-- `ua.AttributeIds.Value`. -/
def valueAttribute : ℕ := 13

/-- An element of `NodesToWrite`: its data value may be missing, and the variant in it. -/
structure WriteValue where
  nodeId : ℕ
  attributeId : ℕ
  value : Option (Option ClientVariant)

/-- What `_node_write_meta` says of a node. -/
structure NodeWriteMeta where
  address : ℤ
  name : String
  vtype : VariantType

/-- The maps of the adapter that tell its register nodes. -/
structure RegisterNodes where
  nodeWriteMeta : Dict ℕ NodeWriteMeta := Dict.empty
  nodeDevice : Dict ℕ UUID := Dict.empty

/-- A write of a variant to the value of a register node. -/
structure RegisterWrite where
  device : UUID
  node : NodeWriteMeta
  variant : ClientVariant

namespace RegisterNodes

variable (nodes : RegisterNodes)

/-- The checks that the loop makes of an element before it records it. -/
def target (wv : WriteValue) : Option RegisterWrite :=
  if wv.attributeId ≠ valueAttribute then none
  else do
    let node ← nodes.nodeWriteMeta wv.nodeId
    let device ← nodes.nodeDevice wv.nodeId
    let variant ← wv.value.join
    return { device, node, variant }

end RegisterNodes

namespace RegisterWrite

/-- The event that is recorded, with the `str` of the client's value. -/
def event (str : ClientValue → String) (w : RegisterWrite) : ClientWriteEvent where
  operation := "Write"
  address := w.node.address
  values := [str w.variant.value]
  registerName := some w.node.name

/-- The variant that replaces a mismatched one. -/
def coerce (w : RegisterWrite) : Except PyError (Option Variant) :=
  if w.variant.vtype = .node w.node.vtype then .ok none
  else w.variant.value.toFloat.map fun num => some ⟨coerceToRange num w.node.vtype, w.node.vtype⟩

end RegisterWrite

section Hook

variable (str : ClientValue → String) (nodes : RegisterNodes)

/-- The loop of `_pre_write_record`, with what replaces the variant of each element; an error is
caught around the whole loop. -/
def recordWrites : WriteTracker → List WriteValue → WriteTracker × List (Option Variant)
  | t, [] => (t, [])
  | t, wv :: rest =>
    match nodes.target wv with
    | none =>
      let (t, replaced) := recordWrites t rest
      (t, none :: replaced)
    | some w =>
      let t := t.record w.device (w.event str)
      match w.coerce with
      | .error _ => (t, none :: rest.map fun _ => none)
      | .ok v =>
        let (t, replaced) := recordWrites t rest
        (t, v :: replaced)

def preWriteRecord (external : Bool) (t : WriteTracker) (request : List WriteValue) :
    WriteTracker × List (Option Variant) :=
  if external then recordWrites str nodes t request else (t, request.map fun _ => none)

/-- An element is recorded if it writes a register node. -/
def recordTarget (t : WriteTracker) (wv : WriteValue) : WriteTracker :=
  match nodes.target wv with
  | none => t
  | some w => t.record w.device (w.event str)

/-- A mismatched number is replaced by what the node can hold of it. -/
def Coerced (wv : WriteValue) (replaced : Option Variant) : Prop :=
  ∀ w, nodes.target wv = some w → w.variant.vtype ≠ .node w.node.vtype →
    w.variant.value.IsNumber → ∃ num, w.variant.value.toFloat = .ok num ∧
      replaced = some ⟨coerceToRange num w.node.vtype, w.node.vtype⟩

/-- Every element that writes a register node is recorded, once and in its turn, and every
mismatched number is coerced. -/
structure RecordsAll (t : WriteTracker) (request : List WriteValue)
    (result : WriteTracker × List (Option Variant)) : Prop where
  tracker : result.1 = request.foldl (recordTarget str nodes) t
  coerced : List.Forall₂ (Coerced nodes) request result.2

/-- The element writes a register node, with a value that is of another type and no number. -/
def Fails (wv : WriteValue) : Prop :=
  ∃ w, nodes.target wv = some w ∧ w.variant.vtype ≠ .node w.node.vtype ∧
    ∀ num, w.variant.value.toFloat ≠ .ok num

variable {str nodes} {t : WriteTracker} {wv : WriteValue} {request : List WriteValue}

theorem exists_toFloat_of_isNumber {value : ClientValue} (h : value.IsNumber) :
    ∃ num, value.toFloat = .ok num := by
  cases value with
  | bool b => exact ⟨_, rfl⟩
  | float x => exact ⟨_, rfl⟩
  | int n wire =>
    have hbound : n.natAbs < 2 ^ 64 := by omega
    have hlimit : 2 ^ 64 < 2 ^ 1024 - 2 ^ 970 := by decide +kernel
    exact (PyFloat.exists_ofInt_iff n).2 (hbound.trans hlimit)
  | _ => cases h

theorem coerce_error_iff {w : RegisterWrite} (hw : nodes.target wv = some w) :
    (∃ e, w.coerce = .error e) ↔ Fails nodes wv := by
  have hfails : Fails nodes wv ↔ w.variant.vtype ≠ .node w.node.vtype ∧
      ∀ num, w.variant.value.toFloat ≠ .ok num := by
    constructor
    · rintro ⟨w', hw', h⟩
      obtain rfl := Option.some.inj (hw.symm.trans hw')
      exact h
    · exact fun h => ⟨w, hw, h⟩
  rw [hfails, RegisterWrite.coerce]
  split
  next htype => simp [htype]
  next htype =>
    rw [and_iff_right htype]
    cases w.variant.value.toFloat with
    | error e => simp [Except.map]
    | ok num => simp [Except.map]

theorem coerced_of_ok {w : RegisterWrite} {v : Option Variant} (hw : nodes.target wv = some w)
    (hv : w.coerce = .ok v) : Coerced nodes wv v := by
  intro w' hw' htype hnumber
  obtain rfl := Option.some.inj (hw.symm.trans hw')
  obtain ⟨num, hnum⟩ := exists_toFloat_of_isNumber hnumber
  rw [RegisterWrite.coerce, if_neg htype, hnum] at hv
  exact ⟨num, hnum, (Except.ok.inj hv).symm⟩

theorem coerced_of_none (h : nodes.target wv = none) : Coerced nodes wv none := by
  intro w hw
  cases h.symm.trans hw

/-- Each recorded write counts as unread. -/
theorem getUnreadCount_record (device d : UUID) (event : ClientWriteEvent) :
    (t.record device event).getUnreadCount d =
      t.getUnreadCount d + if d = device then 1 else 0 := by
  simp only [Simulation.WriteTracker.record, Simulation.WriteTracker.getUnreadCount,
    Dict.set_apply]
  split
  next h => rw [h, Option.getD_some]
  next => rfl

theorem le_getUnreadCount_foldl (d : UUID) :
    t.getUnreadCount d ≤ (request.foldl (recordTarget str nodes) t).getUnreadCount d := by
  induction request generalizing t with
  | nil => exact le_rfl
  | cons wv request ih =>
    refine le_trans ?_ ih
    unfold recordTarget
    split
    next => exact le_rfl
    next w _ =>
      rw [getUnreadCount_record]
      exact Nat.le_add_right _ _

/-- A tracker that has had no more events has missed the writes to register nodes. -/
theorem foldl_recordTarget_eq_self_iff :
    request.foldl (recordTarget str nodes) t = t ↔ ∀ wv ∈ request, nodes.target wv = none := by
  constructor
  · intro h wv hwv
    by_contra hsome
    obtain ⟨w, hw⟩ := Option.ne_none_iff_exists'.1 hsome
    obtain ⟨before, after, rfl⟩ := List.append_of_mem hwv
    have hlt : t.getUnreadCount w.device <
        ((before ++ wv :: after).foldl (recordTarget str nodes) t).getUnreadCount w.device := by
      rw [List.foldl_append, List.foldl_cons]
      refine lt_of_lt_of_le ?_ (le_getUnreadCount_foldl w.device)
      rw [recordTarget, hw, getUnreadCount_record, if_pos rfl]
      exact Nat.lt_succ_of_le (le_getUnreadCount_foldl w.device)
    rw [h] at hlt
    exact lt_irrefl _ hlt
  · intro h
    induction request with
    | nil => rfl
    | cons wv request ih =>
      obtain ⟨hwv, hrest⟩ := List.forall_mem_cons.1 h
      rw [List.foldl_cons, recordTarget, hwv]
      exact ih hrest

theorem recordsAll_cons {t' : WriteTracker} {replaced : List (Option Variant)}
    {v : Option Variant} (hv : Coerced nodes wv v) :
    RecordsAll str nodes t (wv :: request) (t', v :: replaced) ↔
      RecordsAll str nodes (recordTarget str nodes t wv) request (t', replaced) := by
  constructor
  · rintro ⟨htracker, hcoerced⟩
    exact ⟨htracker, (List.forall₂_cons.1 hcoerced).2⟩
  · rintro ⟨htracker, hcoerced⟩
    exact ⟨htracker, .cons hv hcoerced⟩

/-- A number does not fail. -/
theorem Fails.not_isNumber {w : RegisterWrite} (h : Fails nodes wv)
    (hw : nodes.target wv = some w) : ¬ w.variant.value.IsNumber := by
  obtain ⟨w', hw', -, hfails⟩ := h
  obtain rfl := Option.some.inj (hw.symm.trans hw')
  intro hnumber
  obtain ⟨num, hnum⟩ := exists_toFloat_of_isNumber hnumber
  exact hfails num hnum

/-- The loop records everything exactly if no element that fails comes before a write to a register
node. -/
theorem recordWrites_iff : RecordsAll str nodes t request (recordWrites str nodes t request) ↔
    request.Pairwise fun wv later => Fails nodes wv → nodes.target later = none := by
  induction request generalizing t with
  | nil => exact iff_of_true ⟨rfl, .nil⟩ .nil
  | cons wv request ih =>
    rw [List.pairwise_cons]
    simp only [recordWrites]
    cases hw : nodes.target wv with
    | none =>
      have hfails : ¬ Fails nodes wv := by
        rintro ⟨w, hw', -⟩
        cases hw.symm.trans hw'
      simp only [hfails, false_imp_iff, implies_true, true_and]
      rw [recordsAll_cons (coerced_of_none hw), recordTarget, hw]
      exact ih
    | some w =>
      cases hv : w.coerce with
      | ok v =>
        have hfails : ¬ Fails nodes wv := by
          rw [← coerce_error_iff hw, hv]
          rintro ⟨e, ⟨⟩⟩
        simp only [hv, hfails, false_imp_iff, implies_true, true_and]
        rw [recordsAll_cons (coerced_of_ok hw hv), recordTarget, hw]
        exact ih
      | error e =>
        -- the rest of the request is neither recorded nor coerced
        have hfails : Fails nodes wv := (coerce_error_iff hw).1 ⟨e, hv⟩
        have hself : Coerced nodes wv none := by
          intro w' hw' _ hnumber
          exact absurd hnumber (hfails.not_isNumber hw')
        simp only [hv, hfails, true_imp_iff]
        rw [recordsAll_cons hself, recordTarget, hw]
        constructor
        · rintro ⟨htracker, -⟩
          have hnone := foldl_recordTarget_eq_self_iff.1 htracker.symm
          refine ⟨hnone, List.pairwise_of_forall_mem_list ?_⟩
          exact fun _ _ later hlater _ => hnone later hlater
        · rintro ⟨hnone, -⟩
          refine ⟨(foldl_recordTarget_eq_self_iff.2 hnone).symm, ?_⟩
          rw [List.forall₂_map_right_iff, List.forall₂_same]
          exact fun later hlater => coerced_of_none (hnone later hlater)

theorem preWriteRecord_recordsAll_iff (str : ClientValue → String) (nodes : RegisterNodes)
    (t : WriteTracker) (request : List WriteValue) :
    RecordsAll str nodes t request (preWriteRecord str nodes true t request) ↔
      request.Pairwise fun wv later => Fails nodes wv → nodes.target later = none :=
  recordWrites_iff

end Hook

/-- Two nodes of one device. -/
def twoNodes : RegisterNodes where
  nodeWriteMeta := (Dict.empty.set 1 ⟨0, "set_point", .int16⟩).set 2 ⟨1, "limit", .int16⟩
  nodeDevice := (Dict.empty.set 1 7).set 2 7

/-- A text for the first node, and a number of its type for the second. -/
def textFirst : List WriteValue :=
  [⟨1, 13, some (some ⟨.str "abc", .other "String"⟩)⟩,
    ⟨2, 13, some (some ⟨.int 5 (by decide), .node .int16⟩)⟩]

theorem text_stops_records : ¬ ∀ (str : ClientValue → String) (nodes : RegisterNodes)
    (t : WriteTracker) (request : List WriteValue),
    RecordsAll str nodes t request (preWriteRecord str nodes true t request) := by
  intro h
  have htracker := (h (fun _ => "") twoNodes {} textFirst).tracker
  have hunread := congrArg (fun t => t.getUnreadCount 7) htracker
  exact absurd hunread (by decide)

end GhostMeter.Protocols
