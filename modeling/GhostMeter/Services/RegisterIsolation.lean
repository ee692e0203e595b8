import GhostMeter.Protocols.ModbusRestore
import GhostMeter.Simulation.DeviceLoop

/-! The registers of a Modbus device, written in any order: no write leaves its datastore, and
none is seen at another register. -/

namespace GhostMeter

open GhostMeter.Lib GhostMeter.Simulation

namespace Protocols

/-- A call of `update_register`. -/
structure RegisterUpdate where
  device : UUID
  register : RegisterInfo
  value : PyFloat

namespace RegisterUpdate

/-- The words that the call writes. -/
def words (u : RegisterUpdate) : Except PyError (List ℕ) :=
  encodeValue u.value u.register.dataType u.register.byteOrder

end RegisterUpdate

/-- The number of words of the register. -/
def RegisterInfo.count (r : RegisterInfo) : ℕ := r.dataType.registerCount.toNat

namespace ModbusTcpAdapter

def update (lib : Pymodbus) (a : ModbusTcpAdapter) (u : RegisterUpdate) :
    Except PyError ModbusTcpAdapter :=
  a.updateRegister lib u.device u.register.address u.register.functionCode u.value
    u.register.dataType u.register.byteOrder

/-- The words that a client reads at a register. -/
def readWords (lib : Pymodbus) (a : ModbusTcpAdapter) (device : UUID) (r : RegisterInfo) :
    Option (List ℕ) :=
  (a.contextOf device).map (lib.getValues · r.functionCode r.address r.count)

/-- The call writes within the block of its function code. -/
def WritesInside (a : ModbusTcpAdapter) (u : RegisterUpdate) : Prop :=
  ∃ ctx words, a.contextOf u.device = some ctx ∧ u.words = .ok words ∧
    ctx.Covers u.register.functionCode u.register.address words.length

end ModbusTcpAdapter

/-- The words of the last value written to a register, or zeros. -/
def lastWords (device : UUID) (updates : List RegisterUpdate) (r : RegisterInfo) :
    Except PyError (List ℕ) :=
  match (updates.filter fun u => u.device = device ∧ u.register = r).getLast? with
  | none => .ok (List.replicate r.count 0)
  | some u => u.words

theorem lastWords_append (device : UUID) (updates : List RegisterUpdate) (u : RegisterUpdate)
    (r : RegisterInfo) :
    lastWords device (updates ++ [u]) r =
      if u.device = device ∧ u.register = r then u.words else lastWords device updates r := by
  unfold lastWords
  rw [List.filter_append]
  split_ifs with h
  · simp [h]
  · simp [h]

/-- What `update_register` can also be called between: the events of a run, and the calls. -/
inductive ModbusCall
  | event (e : ModbusEvent)
  | update (u : RegisterUpdate)

/-- A call that raises changes nothing. -/
def ModbusRun.call (lib : Pymodbus) (s : ModbusRun) : ModbusCall → Option ModbusRun
  | .event e => s.step e
  | .update u =>
    match s.adapter.state.update lib u with
    | .ok state => some { s with adapter := { s.adapter with state } }
    | .error _ => some s

namespace ModbusTcpAdapter

/-- A device's slave is its own, with a context among the objects. -/
structure OwnContexts (a : ModbusTcpAdapter) : Prop where
  owner : ∀ device slave, a.deviceToSlave device = some slave →
    a.slaveToDevice slave = some device ∧ (a.slaveContexts slave).isSome
  object : ∀ slave ref, a.slaveContexts slave = some ref → ref < a.objects.length

variable {lib : Pymodbus} {a a' : ModbusTcpAdapter} {device : UUID} {u : RegisterUpdate}
  {slave : ℤ} {registers : List RegisterInfo}

/-- A call that succeeds writes one context. -/
theorem update_ok (h : a.update lib u = .ok a') :
    ∃ ref words, a.updated u.device = some ref ∧ u.words = .ok words ∧
      a' = { a with
        objects := a.objects.modify ref fun ctx =>
          lib.setValues ctx u.register.functionCode u.register.address words } := by
  unfold update updateRegister at h
  cases hslave : a.deviceToSlave u.device with
  | none => simp [hslave] at h
  | some slave =>
    cases href : a.slaveContexts slave with
    | none => simp [hslave, href] at h
    | some ref =>
      simp only [hslave, href, bind_ok_iff] at h
      obtain ⟨words, hwords, ha'⟩ := h
      exact ⟨ref, words, by simp [updated, hslave, href], hwords, (Except.ok.inj ha').symm⟩

theorem OwnContexts.update (h : OwnContexts a) (hu : a.update lib u = .ok a') :
    OwnContexts a' := by
  obtain ⟨ref, words, -, -, rfl⟩ := update_ok hu
  exact ⟨h.owner, fun slave ref' href => by simpa using h.object slave ref' href⟩

theorem OwnContexts.suppressSlave (h : OwnContexts a) (slave : ℤ) :
    OwnContexts (a.suppressSlave slave).1 := by
  unfold ModbusTcpAdapter.suppressSlave
  split
  next => exact ⟨h.owner, h.object⟩
  next => exact h

theorem OwnContexts.restore (h : OwnContexts a) (r : Restore) : OwnContexts (a.restore r) := by
  unfold ModbusTcpAdapter.restore
  split
  next => exact ⟨h.owner, h.object⟩
  next => exact h

theorem OwnContexts.doAddDevice (h : OwnContexts a) :
    OwnContexts (a.doAddDevice device slave registers).1 := by
  unfold ModbusTcpAdapter.doAddDevice
  split
  next => exact h
  next =>
    split
    next => exact h
    next hfree =>
      constructor
      · intro device' slave' hd
        have hslave : device' ≠ device → slave' ≠ slave := by
          rintro hne rfl
          simp only [Dict.set_of_ne _ _ hne] at hd
          exact hfree (h.owner device' slave' hd).2
        by_cases hdevice : device' = device
        · subst hdevice
          simp only [Dict.set_self, Option.some.injEq] at hd
          subst hd
          simp
        · simp only [Dict.set_of_ne _ _ hdevice] at hd
          simpa [Dict.set_of_ne _ _ (hslave hdevice)] using h.owner device' slave' hd
      · intro slave' ref href
        simp only [Dict.set_apply] at href
        simp only [List.length_append, List.length_singleton]
        split at href
        · rw [← Option.some.inj href]
          exact Nat.lt_succ_self _
        · exact (h.object slave' ref href).trans (Nat.lt_succ_self _)

theorem OwnContexts.doRemoveDevice (h : OwnContexts a) : OwnContexts (a.doRemoveDevice device) := by
  unfold ModbusTcpAdapter.doRemoveDevice
  cases hslave : a.deviceToSlave device with
  | none => exact h
  | some slave =>
    constructor
    · intro device' slave' hd
      simp only [Dict.pop_apply] at hd
      split at hd
      next => cases hd
      next hne =>
        obtain ⟨howner, hctx⟩ := h.owner device' slave' hd
        have hslave' : slave' ≠ slave := by
          rintro rfl
          have := (h.owner device slave' hslave).1
          exact hne (Option.some.inj (howner.symm.trans this))
        simpa [Dict.pop_of_ne _ hslave'] using ⟨howner, hctx⟩
    · intro slave' ref href
      simp only [Dict.pop_apply] at href
      split at href
      next => cases href
      next => exact h.object slave' ref href

/-- In every run, a device's context is its own. -/
theorem ownContexts_of_run {s : ModbusRun} {calls : List ModbusCall}
    (h : exec (ModbusRun.call lib) ModbusRun.started calls = some s) :
    OwnContexts s.adapter.state := by
  refine exec_invariant (J := fun s : ModbusRun => OwnContexts s.adapter.state) ?_ ?_ h
  · intro s c s' hs hstep
    cases c with
    | event e =>
      cases e with
      | suppress slave =>
        obtain rfl := Option.some.inj hstep
        exact hs.suppressSlave slave
      | restore i =>
        obtain ⟨r, -, rfl⟩ := Option.map_eq_some_iff.1 hstep
        exact hs.restore r
      | addDevice device slave registers =>
        obtain rfl := Option.some.inj hstep
        simpa using hs.doAddDevice
      | removeDevice device =>
        obtain rfl := Option.some.inj hstep
        exact hs.doRemoveDevice
    | update u =>
      simp only [ModbusRun.call] at hstep
      split at hstep
      next state hu =>
        obtain rfl := Option.some.inj hstep
        exact hs.update hu
      next =>
        obtain rfl := Option.some.inj hstep
        exact hs
  · constructor <;> simp [ModbusRun.started, ModbusTcpAdapter.start]

/-- Registers that have a valid function code and address and do not overlap. -/
structure Apart (registers : List RegisterInfo) : Prop where
  function_code_valid : ∀ r ∈ registers, r.functionCode = 3 ∨ r.functionCode = 4
  address_nonneg : ∀ r ∈ registers, 0 ≤ r.address
  disjoint : ∀ r ∈ registers, ∀ r' ∈ registers, r ≠ r' → r.functionCode = r'.functionCode →
    r.address + r.count ≤ r'.address ∨ r'.address + r'.count ≤ r.address

/-- The invariant of the calls: the device alone has its context, which holds the last values. -/
structure Isolated (lib : Pymodbus) (device : UUID) (registers : List RegisterInfo)
    (updates : List RegisterUpdate) (a : ModbusTcpAdapter) (ref : ContextRef)
    (ctx : ModbusDeviceContext) : Prop where
  own : a.updated device = some ref
  alone : ∀ d, a.updated d = some ref → d = device
  object : a.objects[ref]? = some ctx
  covers : ∀ r ∈ registers, ctx.Covers r.functionCode r.address r.count
  reads : ∀ r ∈ registers, lastWords device updates r =
    .ok (lib.getValues ctx r.functionCode r.address r.count)

theorem length_words {words : List ℕ} (h : u.words = .ok words) :
    words.length = u.register.count := by
  have := length_encodeValue h
  rw [RegisterInfo.count, ← this, Int.toNat_natCast]

variable (lib) in
/-- The datastores of a device just added are zeros that cover its registers. -/
theorem isolated_doAddDevice (hown : OwnContexts a) (hapart : Apart registers)
    (h : a.doAddDevice device slave registers = (a', .ok ())) :
    ∃ ctx, Isolated lib device registers [] a' a.objects.length ctx := by
  have hown' : OwnContexts (a.doAddDevice device slave registers).1 := hown.doAddDevice
  rw [h] at hown'
  unfold ModbusTcpAdapter.doAddDevice at h
  split at h
  next => cases h
  next =>
    split at h
    next => cases h
    next hfree =>
      obtain rfl := (Prod.mk.inj h).1
      set ctx : ModbusDeviceContext := {
        hr := List.replicate (blockSize registers 3).toNat 0
        ir := List.replicate (blockSize registers 4).toNat 0 } with hctx
      have hblock : ∀ functionCode, functionCode = 3 ∨ functionCode = 4 →
          ctx.block functionCode = List.replicate (blockSize registers functionCode).toNat 0 := by
        rintro functionCode (rfl | rfl) <;> rfl
      have hcovers : ∀ r ∈ registers, ctx.Covers r.functionCode r.address r.count := by
        intro r hr
        have hvalid := hapart.function_code_valid r hr
        have hle := le_blockSize hr rfl
        have := Services.registerCount_pos r.dataType
        refine ⟨hvalid, hapart.address_nonneg r hr, ?_⟩
        rw [hblock _ hvalid, List.length_replicate, RegisterInfo.count]
        omega
      refine ⟨ctx, by simp [updated], fun d hd => ?_, by simp, hcovers, fun r hr => ?_⟩
      · obtain ⟨slave', hslave', href⟩ := Option.bind_eq_some_iff.1 hd
        simp only [Dict.set_apply] at href
        split at href
        next heq =>
          have howner := (hown'.owner d slave' hslave').1
          rw [heq] at howner
          exact (Option.some.inj ((Dict.set_self _ _ _).symm.trans howner)).symm
        next => exact absurd (hown.object slave' _ href) (lt_irrefl _)
      · have hcov := hcovers r hr
        have hnonneg := hcov.address_nonneg
        have hlength := hcov.length
        rw [lib.getValues_eq _ _ _ _ hcov, hblock _ hcov.function_code_valid]
        rw [hblock _ hcov.function_code_valid, List.length_replicate] at hlength
        rw [Slice.get_replicate (by omega)]
        rfl

section Isolated

variable {updates : List RegisterUpdate} {ref : ContextRef} {ctx : ModbusDeviceContext}

theorem Isolated.contextOf (h : Isolated lib device registers updates a ref ctx) :
    a.contextOf device = some ctx := by
  rw [ModbusTcpAdapter.contextOf, h.own, Option.bind_some, h.object]

/-- A write of the device's own is seen at its register only. -/
theorem Isolated.update_own (h : Isolated lib device registers updates a ref ctx)
    (hapart : Apart registers) (hdevice : u.device = device) (hmem : u.register ∈ registers)
    (hu : a.update lib u = .ok a') :
    ∃ ctx', Isolated lib device registers (updates ++ [u]) a' ref ctx' := by
  obtain ⟨ref', words, href, hwords, rfl⟩ := update_ok hu
  rw [hdevice, h.own, Option.some.injEq] at href
  subst href
  have hlength : words.length = u.register.count := length_words hwords
  have hcovers : ctx.Covers u.register.functionCode u.register.address words.length :=
    hlength ▸ h.covers _ hmem
  refine ⟨lib.setValues ctx u.register.functionCode u.register.address words, h.own, h.alone,
    by simp [h.object], fun r hr => Pymodbus.covers_setValues hcovers (h.covers r hr),
    fun r hr => ?_⟩
  rw [lastWords_append]
  by_cases hr' : u.register = r
  · subst hr'
    rw [if_pos ⟨hdevice, rfl⟩, hwords, ← hlength, Pymodbus.getValues_setValues hcovers]
  · rw [if_neg fun h => hr' h.2, h.reads r hr,
      Pymodbus.getValues_setValues_of_disjoint hcovers (h.covers r hr)]
    intro hfc
    rw [hlength]
    exact hapart.disjoint r hr _ hmem (Ne.symm hr') hfc

theorem Isolated.update_other (h : Isolated lib device registers updates a ref ctx)
    (hdevice : u.device ≠ device) (hu : a.update lib u = .ok a') :
    Isolated lib device registers (updates ++ [u]) a' ref ctx := by
  obtain ⟨ref', words, href, -, rfl⟩ := update_ok hu
  have hne : ref' ≠ ref := by
    rintro rfl
    exact hdevice (h.alone _ href)
  refine ⟨h.own, h.alone, ?_, h.covers, fun r hr => ?_⟩
  · simp [hne, h.object]
  · rw [lastWords_append, if_neg fun h => hdevice h.1, h.reads r hr]

/-- Calls on declared registers keep the device isolated. -/
theorem isolated_foldlM (hapart : Apart registers) (h : Isolated lib device registers [] a ref ctx)
    (hdeclared : ∀ u ∈ updates, u.device = device → u.register ∈ registers)
    (hu : updates.foldlM (update lib) a = .ok a') :
    ∃ ctx', Isolated lib device registers updates a' ref ctx' := by
  refine foldlM_invariant (P := fun done a => (∀ u ∈ done, u.device = device →
    u.register ∈ registers) → ∃ ctx, Isolated lib device registers done a ref ctx) ?_
    (fun _ => ⟨ctx, h⟩) hu hdeclared
  intro done u a a' ih hu hmem
  obtain ⟨ctx, hctx⟩ := ih fun u' hu' => hmem u' (List.mem_append_left _ hu')
  by_cases hdevice : u.device = device
  · exact hctx.update_own hapart hdevice (hmem u (by simp) hdevice) hu
  · exact ⟨ctx, hctx.update_other hdevice hu⟩

end Isolated

end ModbusTcpAdapter

end Protocols

namespace Services

open GhostMeter.Protocols

/-- The registers that a device is added with. -/
def registerInfos (data : List RegisterDefinitionCreate) : List RegisterInfo :=
  (buildRegisters data).map (·.toInfo)

variable {data : List RegisterDefinitionCreate}

theorem mem_registerInfos {r : RegisterInfo} (hr : r ∈ registerInfos data) :
    ∃ d ∈ data, r = ⟨d.address, d.functionCode, d.dataType, d.byteOrder, d.oid, some d.name,
      d.unit⟩ := by
  simp only [registerInfos, buildRegisters, List.map_map, List.mem_map] at hr
  obtain ⟨d, hd, rfl⟩ := hr
  exact ⟨d, hd, rfl⟩

theorem apart_of_validate (h : validateNoAddressOverlap data = .ok ()) :
    ModbusTcpAdapter.Apart (registerInfos data) := by
  constructor
  · intro r hr
    obtain ⟨d, -, rfl⟩ := mem_registerInfos hr
    exact d.function_code_valid
  · intro r hr
    obtain ⟨d, -, rfl⟩ := mem_registerInfos hr
    exact d.address_nonneg
  · intro r hr r' hr' hne hfc
    obtain ⟨d, hd, rfl⟩ := mem_registerInfos hr
    obtain ⟨d', hd', rfl⟩ := mem_registerInfos hr'
    have hno := not_overlap_of_validate h hd hd' (by rintro rfl; exact hne rfl) hfc
    have hpos := registerCount_pos d.dataType
    have hpos' := registerCount_pos d'.dataType
    simp only [Window.Overlap] at hno
    simp only [RegisterInfo.count]
    omega

/-- After a device is added with registers that do not overlap, and any calls that write to its
declared registers and to other devices, every write has stayed inside its block, and every
register holds the words of the last value written to it, or zeros. -/
theorem registers_isolated (lib : Pymodbus) (data : List RegisterDefinitionCreate)
    (haccepted : validateNoAddressOverlap data = .ok ()) (calls : List ModbusCall)
    (s : ModbusRun) (hrun : exec (ModbusRun.call lib) ModbusRun.started calls = some s)
    (device : UUID) (slave : ℤ) (a : ModbusTcpAdapter)
    (hadd : s.adapter.state.doAddDevice device slave (registerInfos data) = (a, .ok ()))
    (updates : List RegisterUpdate)
    (hdeclared : ∀ u ∈ updates, u.device = device → u.register ∈ registerInfos data)
    (a' : ModbusTcpAdapter) (hupdates : updates.foldlM (ModbusTcpAdapter.update lib) a = .ok a') :
    (∀ done u rest, updates = done ++ u :: rest → u.device = device →
      ∃ mid, done.foldlM (ModbusTcpAdapter.update lib) a = .ok mid ∧ mid.WritesInside u) ∧
    ∀ r ∈ registerInfos data, ∃ words, lastWords device updates r = .ok words ∧
      a'.readWords lib device r = some words := by
  have hapart := apart_of_validate haccepted
  obtain ⟨ctx, hctx⟩ := ModbusTcpAdapter.isolated_doAddDevice lib
    (ModbusTcpAdapter.ownContexts_of_run hrun) hapart hadd
  constructor
  · rintro done u rest rfl hdevice
    rw [List.foldlM_append, bind_ok_iff] at hupdates
    obtain ⟨mid, hmid, hrest⟩ := hupdates
    rw [List.foldlM_cons, bind_ok_iff] at hrest
    obtain ⟨next, hu, -⟩ := hrest
    obtain ⟨ctx', hctx'⟩ := ModbusTcpAdapter.isolated_foldlM hapart hctx
      (fun u' hu' => hdeclared u' (by simp [hu'])) hmid
    obtain ⟨-, words, -, hwords, -⟩ := ModbusTcpAdapter.update_ok hu
    refine ⟨mid, hmid, ctx', words, hdevice ▸ hctx'.contextOf, hwords, ?_⟩
    rw [ModbusTcpAdapter.length_words hwords]
    exact hctx'.covers _ (hdeclared u (by simp) hdevice)
  · intro r hr
    obtain ⟨ctx', hctx'⟩ := ModbusTcpAdapter.isolated_foldlM hapart hctx hdeclared hupdates
    refine ⟨_, hctx'.reads r hr, ?_⟩
    rw [ModbusTcpAdapter.readWords, hctx'.contextOf, Option.map_some]

/-- A 32-bit register right behind `voltage`. -/
def energy : RegisterDefinitionCreate where
  name := "energy"
  address := 1
  dataType := .uint32
  data_type_valid := uint32_known
  byte_order_valid := bigEndian_known
  function_code_valid := holding_valid
  address_nonneg := second_address

def energyAdapter : ModbusTcpAdapter :=
  ((ModbusTcpAdapter.start {}).doAddDevice 7 1 (registerInfos [voltage, energy])).1

def voltageUpdate : RegisterUpdate where
  device := 7
  register := ⟨0, 3, .int16, .bigEndian, none, some "voltage", none⟩
  value := .fin false 230

theorem accepted_energy : validateNoAddressOverlap [voltage, energy] = .ok () := by
  have hsort : [voltage, energy].mergeSort (·.address ≤ ·.address) = [voltage, energy] :=
    List.mergeSort_of_pairwise (by simp [voltage, energy])
  have hcodes : ([voltage, energy].map (·.functionCode)).eraseDups = [3] := rfl
  have hfilter : [voltage, energy].filter (·.functionCode = 3) = [voltage, energy] := rfl
  rw [validateNoAddressOverlap, hcodes, checkAll_ok_iff]
  intro functionCode hmem
  rw [List.mem_singleton.1 hmem, hfilter, hsort]
  rfl

theorem registers_isolated_voltage :
    ∃ a', [voltageUpdate].foldlM (ModbusTcpAdapter.update pymodbus) energyAdapter = .ok a' ∧
      ∀ r ∈ registerInfos [voltage, energy], ∃ words,
        lastWords 7 [voltageUpdate] r = .ok words ∧ a'.readWords pymodbus 7 r = some words :=
  ⟨_, rfl, (registers_isolated pymodbus [voltage, energy] accepted_energy [] ModbusRun.started rfl
    7 1 energyAdapter rfl [voltageUpdate] (by decide) _ rfl).2⟩

end Services

end GhostMeter
