import GhostMeter.Lib.Run
import GhostMeter.Lib.Window
import GhostMeter.Protocols.ModbusRegisters
import GhostMeter.Services.DeviceService
import GhostMeter.Services.TemplateService

/-! The loop of `_run_device` for a Modbus device: in every tick each configured register gets
a value, which is stored for the monitor and then written to the datastore of the slave.  What
the data generator and the anomaly injector make of a register is part of the tick. -/

namespace GhostMeter

open GhostMeter.Lib GhostMeter.Protocols GhostMeter.Services

namespace Simulation

structure RegisterMeta where
  address : ℤ
  functionCode : ℤ
  dataType : DataType
  byteOrder : ByteOrder
  scaleFactor : PyFloat
  sortOrder : ℤ

/-- `default_meta`. -/
def defaultMeta : RegisterMeta where
  address := 0
  functionCode := 3
  dataType := .float32
  byteOrder := .bigEndian
  scaleFactor := .fin false 1
  sortOrder := 9999

end Simulation

open Simulation

def RegisterDefinition.toMeta (r : RegisterDefinition) : RegisterMeta where
  address := r.address
  functionCode := r.functionCode
  dataType := r.dataType
  byteOrder := r.byteOrder
  scaleFactor := r.scaleFactor
  sortOrder := r.sortOrder

namespace Simulation

def registerMap (registers : List RegisterDefinition) : Dict String RegisterMeta :=
  registers.foldl (fun registers r => registers.set r.name r.toMeta) Dict.empty

def sortKey (registers : Dict String RegisterMeta) (c : SimulationConfig) : ℤ :=
  ((registers c.registerName).getD defaultMeta).sortOrder

def validConfigs (registers : Dict String RegisterMeta) (configs : List SimulationConfig) :
    List SimulationConfig :=
  (configs.mergeSort fun a b => sortKey registers a ≤ sortKey registers b).filter
    fun c => (registers c.registerName).isSome

/-- `generated / reg.scale_factor`, or the value itself when that is zero. -/
def RegisterMeta.rawValue (reg : RegisterMeta) (generated : PyFloat) : Except PyError PyFloat :=
  if reg.scaleFactor.isZero then .ok generated else generated.div reg.scaleFactor

structure DeviceLoop where
  values : Dict String PyFloat := Dict.empty
  adapter : ModbusTcpAdapter
  errorCount : ℕ := 0

namespace DeviceLoop

variable (lib : Pymodbus) (device : UUID)

/-- The work on one register of a tick, and whether it has failed; `outcome` is the value that
the generator and the injector make, or their exception. -/
def updateValue (s : DeviceLoop) (name : String) (reg : RegisterMeta)
    (outcome : Except PyError PyFloat) : DeviceLoop × Bool :=
  match outcome with
  | .error _ => (s, true)
  | .ok generated =>
    match reg.rawValue generated with
    | .error _ => (s, true)
    | .ok raw =>
      let s := { s with values := s.values.set name generated }
      match s.adapter.updateRegister lib device reg.address reg.functionCode raw reg.dataType
          reg.byteOrder with
      | .ok adapter => ({ s with adapter }, false)
      | .error _ => (s, true)

def updateConfig (registers : Dict String RegisterMeta) (s : DeviceLoop × Bool)
    (p : SimulationConfig × Except PyError PyFloat) : DeviceLoop × Bool :=
  match registers p.1.registerName with
  | none => s
  | some reg =>
    let (s', failed) := s.1.updateValue lib device p.1.registerName reg p.2
    (s', s.2 || failed)

/-- A tick, with an outcome for each of the valid configs; after five failed ones in a row
the loop has ended. -/
def tick (registers : Dict String RegisterMeta) (configs : List SimulationConfig)
    (s : DeviceLoop) (outcomes : List (Except PyError PyFloat)) : Option DeviceLoop :=
  if s.errorCount ≥ 5 ∨ outcomes.length ≠ (validConfigs registers configs).length then none
  else
    let (s', hadError) :=
      ((validConfigs registers configs).zip outcomes).foldl (updateConfig lib device registers)
        (s, false)
    some { s' with errorCount := if hadError then s.errorCount + 1 else 0 }

end DeviceLoop

/-- The words that stand for a value of the register. -/
def RegisterMeta.encoded (reg : RegisterMeta) (generated : PyFloat) : Except PyError (List ℕ) := do
  encodeValue (← reg.rawValue generated) reg.dataType reg.byteOrder

/-- The number of words of the register. -/
def RegisterMeta.count (reg : RegisterMeta) : ℕ := reg.dataType.registerCount.toNat

/-- The words that clients read at the register. -/
def DeviceLoop.served (lib : Pymodbus) (device : UUID) (s : DeviceLoop) (reg : RegisterMeta) :
    Option (List ℕ) :=
  (s.adapter.contextOf device).map fun ctx =>
    lib.getValues ctx reg.functionCode reg.address reg.count

/-- The words at every configured register with a current value are those of that value. -/
def ServesMonitored (lib : Pymodbus) (device : UUID) (registers : Dict String RegisterMeta)
    (configs : List SimulationConfig) (s : DeviceLoop) : Prop :=
  ∀ c ∈ configs, ∀ reg generated, registers c.registerName = some reg →
    s.values c.registerName = some generated →
      ∃ words, reg.encoded generated = .ok words ∧ s.served lib device reg = some words

/-- The last value that is generated for a register. -/
def lastGenerated (name : String) (rounds : List (SimulationConfig × Except PyError PyFloat)) :
    Option PyFloat :=
  (rounds.filterMap fun p => if p.1.registerName = name then p.2.toOption else none).getLast?

/-- The last value that a tick generates for a register, divided by the scale factor, fits the
data type. -/
def LastFits (registers : Dict String RegisterMeta) (configs : List SimulationConfig)
    (outcomes : List (Except PyError PyFloat)) : Prop :=
  ∀ name reg generated raw, registers name = some reg →
    lastGenerated name ((validConfigs registers configs).zip outcomes) = some generated →
      reg.rawValue generated = .ok raw → Fits raw reg.dataType

/-- What the adapter and the loop rely on in a register map. -/
structure LaidOut (registers : Dict String RegisterMeta) (ctx : ModbusDeviceContext) : Prop where
  data_type_valid : ∀ name reg, registers name = some reg → reg.dataType.Valid
  byte_order_valid : ∀ name reg, registers name = some reg → reg.byteOrder.Valid
  covers : ∀ name reg, registers name = some reg →
    ctx.Covers reg.functionCode reg.address reg.count
  disjoint : ∀ name reg name' reg', registers name = some reg → registers name' = some reg' →
    name ≠ name' → reg.functionCode = reg'.functionCode →
      reg.address + reg.count ≤ reg'.address ∨ reg'.address + reg'.count ≤ reg.address

section Round

variable {lib : Pymodbus} {device : UUID} {registers : Dict String RegisterMeta}
  {configs : List SimulationConfig} {reg reg' : RegisterMeta} {name name' : String}
  {generated : PyFloat} {words : List ℕ} {s s' : DeviceLoop} {ctx : ModbusDeviceContext}

theorem rawValue_isOk (reg : RegisterMeta) (generated : PyFloat) :
    ∃ raw, reg.rawValue generated = .ok raw := by
  unfold RegisterMeta.rawValue
  split
  next => exact ⟨_, rfl⟩
  next h => exact ⟨_, if_neg h⟩

theorem encoded_eq {raw : PyFloat} (h : reg.rawValue generated = .ok raw) :
    reg.encoded generated = encodeValue raw reg.dataType reg.byteOrder := by
  rw [RegisterMeta.encoded, h]
  rfl

theorem length_encoded (h : reg.encoded generated = .ok words) : words.length = reg.count := by
  obtain ⟨raw, hraw⟩ := rawValue_isOk reg generated
  rw [encoded_eq hraw] at h
  have := length_encodeValue h
  rw [RegisterMeta.count]
  omega

/-- What a round does with a value: it is stored, and then written if it can be encoded. -/
theorem updateValue_ok (hctx : s.adapter.contextOf device = some ctx) :
    (s.updateValue lib device name reg (.ok generated)).1.values = s.values.set name generated ∧
    ((∃ e, reg.encoded generated = .error e ∧
        (s.updateValue lib device name reg (.ok generated)).1.adapter = s.adapter) ∨
      ∃ words, reg.encoded generated = .ok words ∧
        (s.updateValue lib device name reg (.ok generated)).1.adapter.contextOf device =
          some (lib.setValues ctx reg.functionCode reg.address words)) := by
  obtain ⟨raw, hraw⟩ := rawValue_isOk reg generated
  rw [encoded_eq hraw]
  simp only [DeviceLoop.updateValue, hraw]
  rcases @ModbusTcpAdapter.updateRegister_eq lib _ _ _ _ _ _ _ _ hctx with
    ⟨e, he, hupdate⟩ | ⟨words, a', hwords, hupdate, hctx'⟩
  · rw [hupdate]
    exact ⟨rfl, Or.inl ⟨e, he, rfl⟩⟩
  · rw [hupdate]
    exact ⟨rfl, Or.inr ⟨words, hwords, hctx'⟩⟩

theorem LaidOut.setValues (h : LaidOut registers ctx) {functionCode address : ℤ}
    (hc : ctx.Covers functionCode address words.length) :
    LaidOut registers (lib.setValues ctx functionCode address words) where
  data_type_valid := h.data_type_valid
  byte_order_valid := h.byte_order_valid
  covers name reg hreg := Pymodbus.covers_setValues hc (h.covers name reg hreg)
  disjoint := h.disjoint

theorem lastGenerated_append (name : String)
    (done : List (SimulationConfig × Except PyError PyFloat))
    (p : SimulationConfig × Except PyError PyFloat) :
    lastGenerated name (done ++ [p]) =
      if p.1.registerName = name then p.2.toOption.or (lastGenerated name done)
      else lastGenerated name done := by
  rw [lastGenerated, List.filterMap_append, List.getLast?_append]
  by_cases h : p.1.registerName = name
  · cases hp : p.2 <;> simp [h, hp, Except.toOption, lastGenerated]
  · simp [h, lastGenerated]

/-- What the rounds `done` of a tick have made of the state `s`. -/
structure Tracks (lib : Pymodbus) (device : UUID) (registers : Dict String RegisterMeta)
    (s : DeviceLoop) (done : List (SimulationConfig × Except PyError PyFloat))
    (s' : DeviceLoop) : Prop where
  laid_out : ∃ ctx, s'.adapter.contextOf device = some ctx ∧ LaidOut registers ctx
  kept : ∀ name reg, registers name = some reg → lastGenerated name done = none →
    s'.values name = s.values name ∧ s'.served lib device reg = s.served lib device reg
  generated : ∀ name reg generated, registers name = some reg →
    lastGenerated name done = some generated → s'.values name = some generated ∧
      ∀ words, reg.encoded generated = .ok words → s'.served lib device reg = some words

theorem served_eq (hctx : s.adapter.contextOf device = some ctx) :
    s.served lib device reg =
      some (lib.getValues ctx reg.functionCode reg.address reg.count) := by
  rw [DeviceLoop.served, hctx]
  rfl

/-- A round that generates a value. -/
theorem tracks_updateValue {done : List (SimulationConfig × Except PyError PyFloat)}
    {c : SimulationConfig} {s₁ : DeviceLoop} (h : Tracks lib device registers s done s₁)
    (hreg : registers c.registerName = some reg) :
    Tracks lib device registers s (done ++ [(c, .ok generated)])
      (s₁.updateValue lib device c.registerName reg (.ok generated)).1 := by
  obtain ⟨ctx, hctx, hlaid⟩ := h.laid_out
  obtain ⟨hvalues, hadapter⟩ := @updateValue_ok lib _ reg c.registerName generated _ _ hctx
  generalize (s₁.updateValue lib device c.registerName reg (.ok generated)).1 = s₂ at *
  have hother : ∀ name reg', registers name = some reg' → name ≠ c.registerName →
      s₂.values name = s₁.values name ∧ s₂.served lib device reg' = s₁.served lib device reg' := by
    intro name reg' hreg' hne
    refine ⟨by rw [hvalues, Dict.set_of_ne _ _ hne], ?_⟩
    rcases hadapter with ⟨e, -, hadapter⟩ | ⟨words, hwords, hctx'⟩
    · rw [DeviceLoop.served, hadapter]
      rfl
    · rw [served_eq hctx', served_eq hctx]
      have hlength := length_encoded hwords
      refine congrArg some (Pymodbus.getValues_setValues_of_disjoint
        (hlength ▸ hlaid.covers _ _ hreg) (hlaid.covers _ _ hreg') fun hfc => ?_)
      rw [hlength]
      exact hlaid.disjoint name reg' _ reg hreg' hreg hne hfc
  constructor
  · rcases hadapter with ⟨e, -, hadapter⟩ | ⟨words, hwords, hctx'⟩
    · exact ⟨ctx, by rw [hadapter, hctx], hlaid⟩
    · exact ⟨_, hctx', hlaid.setValues (length_encoded hwords ▸ hlaid.covers _ _ hreg)⟩
  · intro name reg' hreg' hlast
    rw [lastGenerated_append] at hlast
    by_cases hname : c.registerName = name
    · simp [hname, Except.toOption] at hlast
    · rw [if_neg hname] at hlast
      obtain ⟨hv, hs⟩ := hother name reg' hreg' (Ne.symm hname)
      obtain ⟨hv', hs'⟩ := h.kept name reg' hreg' hlast
      exact ⟨hv.trans hv', hs.trans hs'⟩
  · intro name reg' v hreg' hlast
    rw [lastGenerated_append] at hlast
    by_cases hname : c.registerName = name
    · subst hname
      obtain rfl : reg = reg' := Option.some.inj (hreg.symm.trans hreg')
      obtain rfl : generated = v := by simpa [Except.toOption] using hlast
      refine ⟨by rw [hvalues, Dict.set_self], fun words hwords => ?_⟩
      rcases hadapter with ⟨e, he, -⟩ | ⟨words', hwords', hctx'⟩
      · cases he.symm.trans hwords
      · obtain rfl : words' = words := Except.ok.inj (hwords'.symm.trans hwords)
        have hlength := length_encoded hwords
        rw [served_eq hctx', ← hlength, Pymodbus.getValues_setValues
          (hlength ▸ hlaid.covers _ _ hreg)]
    · rw [if_neg hname] at hlast
      obtain ⟨hv, hs⟩ := hother name reg' hreg' (Ne.symm hname)
      obtain ⟨hv', hs'⟩ := h.generated name reg' v hreg' hlast
      exact ⟨hv.trans hv', fun words hwords => hs.trans (hs' words hwords)⟩

/-- A round that generates none. -/
theorem tracks_congr {done done' : List (SimulationConfig × Except PyError PyFloat)}
    (h : Tracks lib device registers s done s')
    (hlast : ∀ name reg, registers name = some reg →
      lastGenerated name done' = lastGenerated name done) :
    Tracks lib device registers s done' s' where
  laid_out := h.laid_out
  kept name reg hreg hnone := h.kept name reg hreg (hlast name reg hreg ▸ hnone)
  generated name reg v hreg hsome := h.generated name reg v hreg (hlast name reg hreg ▸ hsome)

theorem tracks_updateConfig {done : List (SimulationConfig × Except PyError PyFloat)}
    {p : SimulationConfig × Except PyError PyFloat} {r : DeviceLoop × Bool}
    (h : Tracks lib device registers s done r.1) :
    Tracks lib device registers s (done ++ [p])
      (DeviceLoop.updateConfig lib device registers r p).1 := by
  obtain ⟨c, outcome⟩ := p
  unfold DeviceLoop.updateConfig
  split
  next hnone =>
    refine tracks_congr h fun name reg hreg => ?_
    rw [lastGenerated_append, if_neg]
    rintro rfl
    cases hnone.symm.trans hreg
  next reg hreg =>
    cases outcome with
    | ok generated => exact tracks_updateValue h hreg
    | error e =>
      refine tracks_congr h fun name reg _ => ?_
      rw [lastGenerated_append]
      simp [Except.toOption]

theorem tracks_start (hctx : s.adapter.contextOf device = some ctx)
    (hlaid : LaidOut registers ctx) : Tracks lib device registers s [] s where
  laid_out := ⟨ctx, hctx, hlaid⟩
  kept _ _ _ _ := ⟨rfl, rfl⟩
  generated _ _ _ _ hlast := by cases hlast

/-- What a whole tick does. -/
theorem tracks_tick (hctx : s.adapter.contextOf device = some ctx)
    (hlaid : LaidOut registers ctx) {outcomes : List (Except PyError PyFloat)}
    (h : DeviceLoop.tick lib device registers configs s outcomes = some s') :
    Tracks lib device registers s ((validConfigs registers configs).zip outcomes) s' := by
  unfold DeviceLoop.tick at h
  split at h
  next => cases h
  next =>
    obtain rfl := Option.some.inj h
    have htracks := foldl_invariant (g := DeviceLoop.updateConfig lib device registers)
      (P := fun done r => Tracks lib device registers s done r.1)
      (l := (validConfigs registers configs).zip outcomes) (s := (s, false))
      (fun _ _ _ _ _ hr => tracks_updateConfig hr) (tracks_start hctx hlaid)
    exact ⟨htracks.laid_out, htracks.kept, htracks.generated⟩

theorem mem_configs_of_lastGenerated {outcomes : List (Except PyError PyFloat)}
    (h : lastGenerated name ((validConfigs registers configs).zip outcomes) = some generated) :
    ∃ c ∈ configs, c.registerName = name := by
  obtain ⟨p, hp, hname⟩ := List.mem_filterMap.1 (List.mem_of_getLast? h)
  split at hname
  next heq =>
    refine ⟨p.1, ?_, heq⟩
    exact List.mem_mergeSort.1 (List.mem_filter.1 (List.of_mem_zip hp).1).1
  next => cases hname

/-- From a state in which every register is faithful, a tick leads to one exactly when the last
values it generates fit. -/
theorem servesMonitored_tick_iff (hctx : s.adapter.contextOf device = some ctx)
    (hlaid : LaidOut registers ctx) {outcomes : List (Except PyError PyFloat)}
    (hs : ServesMonitored lib device registers configs s)
    (h : DeviceLoop.tick lib device registers configs s outcomes = some s') :
    ServesMonitored lib device registers configs s' ↔ LastFits registers configs outcomes := by
  have htracks := tracks_tick hctx hlaid h
  have hfits : ∀ {name reg generated raw}, registers name = some reg →
      reg.rawValue generated = .ok raw →
        ((∃ words, reg.encoded generated = .ok words) ↔ Fits raw reg.dataType) := by
    intro name reg generated raw hreg hraw
    rw [encoded_eq hraw]
    exact encodeValue_isOk_iff_fits (hlaid.data_type_valid _ _ hreg)
      (hlaid.byte_order_valid _ _ hreg)
  constructor
  · intro hs' name reg generated raw hreg hlast hraw
    obtain ⟨c, hc, rfl⟩ := mem_configs_of_lastGenerated hlast
    obtain ⟨words, hwords, -⟩ :=
      hs' c hc reg generated hreg (htracks.generated _ reg generated hreg hlast).1
    exact (hfits hreg hraw).1 ⟨words, hwords⟩
  · intro hlastFits c hc reg generated hreg hvalue
    cases hlast : lastGenerated c.registerName ((validConfigs registers configs).zip outcomes) with
    | none =>
      obtain ⟨hv, hserved⟩ := htracks.kept _ reg hreg hlast
      rw [hserved]
      exact hs c hc reg generated hreg (hv ▸ hvalue)
    | some v =>
      obtain ⟨hv, hserved⟩ := htracks.generated _ reg v hreg hlast
      obtain rfl : v = generated := Option.some.inj (hv.symm.trans hvalue)
      obtain ⟨raw, hraw⟩ := rawValue_isOk reg v
      obtain ⟨words, hwords⟩ := (hfits hreg hraw).2 (hlastFits _ reg v raw hreg hlast hraw)
      exact ⟨words, hwords, hserved words hwords⟩

end Round

section Accepted

variable {data : List RegisterDefinitionCreate} {rows : List RegisterDefinition}
  {a a' : ModbusTcpAdapter} {device : UUID}

/-- The device has datastores of the size that its registers need. -/
def Registered (a : ModbusTcpAdapter) (device : UUID) (rows : List RegisterDefinition) : Prop :=
  ∃ ctx, a.contextOf device = some ctx ∧ ∀ functionCode, functionCode = 3 ∨ functionCode = 4 →
    ((ctx.block functionCode).length : ℤ) =
      ModbusTcpAdapter.blockSize (rows.map (·.toInfo)) functionCode

theorem one_le_blockSize (registers : List RegisterInfo) (functionCode : ℤ) :
    1 ≤ ModbusTcpAdapter.blockSize registers functionCode := by
  refine foldl_invariant (P := fun _ size => (1 : ℤ) ≤ size) ?_ le_rfl
  intro done r rest size _ hsize
  split
  · exact hsize.trans (le_max_left _ _)
  · exact hsize

theorem registered_doAddDevice {slave : ℤ}
    (h : a.doAddDevice device slave (rows.map (·.toInfo)) = (a', .ok ())) :
    Registered a' device rows := by
  unfold ModbusTcpAdapter.doAddDevice at h
  split at h
  next => cases h
  next =>
    split at h
    next => cases h
    next =>
      obtain rfl := (Prod.mk.inj h).1
      refine ⟨{
        hr := List.replicate (ModbusTcpAdapter.blockSize (rows.map (·.toInfo)) 3).toNat 0
        ir := List.replicate (ModbusTcpAdapter.blockSize (rows.map (·.toInfo)) 4).toNat 0 },
        by simp [ModbusTcpAdapter.contextOf, ModbusTcpAdapter.updated], ?_⟩
      rintro functionCode (rfl | rfl)
      all_goals
        have := one_le_blockSize (rows.map (·.toInfo))
        simp only [ModbusDeviceContext.block, Int.reduceEq, if_true, if_false,
          List.length_replicate]
        exact Int.toNat_of_nonneg (zero_le_one.trans (this _))

theorem mem_of_registerMap {name : String} {reg : RegisterMeta}
    (h : registerMap rows name = some reg) : ∃ r ∈ rows, r.name = name ∧ r.toMeta = reg := by
  refine foldl_invariant (P := fun done (m : Dict String RegisterMeta) => m name = some reg →
    ∃ r ∈ done, r.name = name ∧ r.toMeta = reg) ?_ (by simp) h
  intro done r rest m _ ih hm
  rw [Dict.set_apply] at hm
  split at hm
  next hname => exact ⟨r, by simp, hname.symm, Option.some.inj hm⟩
  next =>
    obtain ⟨r', hr', h⟩ := ih hm
    exact ⟨r', List.mem_append_left _ hr', h⟩

/-- The register that a row was made of. -/
theorem mem_data_of_mem (h : AcceptedRegisters data rows) {r : RegisterDefinition}
    (hr : r ∈ rows) : ∃ d ∈ data, d.name = r.name ∧ d.address = r.address ∧
      d.functionCode = r.functionCode ∧ d.dataType = r.dataType ∧ d.byteOrder = r.byteOrder := by
  have hbare := h.rows.mem_iff.1 (List.mem_map_of_mem hr)
  obtain ⟨d, hd, heq⟩ := List.mem_map.1 hbare
  simp only [RegisterDefinition.bare, RegisterDefinition.mk.injEq] at heq
  exact ⟨d, hd, by tauto⟩

theorem laidOut_registerMap (h : AcceptedRegisters data rows) {ctx : ModbusDeviceContext}
    (hsize : ∀ functionCode, functionCode = 3 ∨ functionCode = 4 →
      ((ctx.block functionCode).length : ℤ) =
        ModbusTcpAdapter.blockSize (rows.map (·.toInfo)) functionCode) :
    LaidOut (registerMap rows) ctx := by
  constructor
  · intro name reg hreg
    obtain ⟨r, hr, -, rfl⟩ := mem_of_registerMap hreg
    obtain ⟨d, -, -, -, -, hdt, -⟩ := mem_data_of_mem h hr
    have hvalid : r.dataType.Valid := hdt ▸ d.data_type_valid
    exact hvalid
  · intro name reg hreg
    obtain ⟨r, hr, -, rfl⟩ := mem_of_registerMap hreg
    obtain ⟨d, -, -, -, -, -, hbo⟩ := mem_data_of_mem h hr
    have hvalid : r.byteOrder.Valid := hbo ▸ d.byte_order_valid
    exact hvalid
  · intro name reg hreg
    obtain ⟨r, hr, -, rfl⟩ := mem_of_registerMap hreg
    obtain ⟨d, -, -, haddress, hfc, -, -⟩ := mem_data_of_mem h hr
    have hvalid : r.functionCode = 3 ∨ r.functionCode = 4 := hfc ▸ d.function_code_valid
    have hle : r.address + r.dataType.registerCount + 1 ≤
        ModbusTcpAdapter.blockSize (rows.map (·.toInfo)) r.functionCode :=
      ModbusTcpAdapter.le_blockSize (List.mem_map_of_mem hr) rfl
    have hpos := registerCount_pos r.dataType
    have hnonneg : 0 ≤ r.address := haddress ▸ d.address_nonneg
    have hlength : r.address + 1 + r.toMeta.count ≤ (ctx.block r.functionCode).length := by
      rw [hsize _ hvalid]
      simp only [RegisterDefinition.toMeta, RegisterMeta.count]
      omega
    exact ⟨hvalid, hnonneg, hlength⟩
  · intro name reg name' reg' hreg hreg' hne hfc
    obtain ⟨r, hr, rfl, rfl⟩ := mem_of_registerMap hreg
    obtain ⟨r', hr', rfl, rfl⟩ := mem_of_registerMap hreg'
    obtain ⟨d, hd, hname, haddress, hfc₁, hdt, -⟩ := mem_data_of_mem h hr
    obtain ⟨d', hd', hname', haddress', hfc₂, hdt', -⟩ := mem_data_of_mem h hr'
    have hno := not_overlap_of_validate h.no_overlap hd hd'
      (by rintro rfl; exact hne (hname.symm.trans hname')) (hfc₁.trans (hfc.trans hfc₂.symm))
    have hpos := registerCount_pos r.dataType
    have hpos' := registerCount_pos r'.dataType
    simp only [Window.Overlap, haddress, haddress', hdt, hdt'] at hno
    simp only [RegisterDefinition.toMeta, RegisterMeta.count]
    omega

/-- In a run of ticks the words served at every configured register stay those of its current
value exactly when in every tick the last value generated for a register fits it. -/
theorem always_servesMonitored_iff (lib : Pymodbus) (data : List RegisterDefinitionCreate)
    (rows : List RegisterDefinition) (haccepted : AcceptedRegisters data rows)
    (configs : List SimulationConfig) (a : ModbusTcpAdapter) (device : UUID)
    (hregistered : Registered a device rows) (ticks : List (List (Except PyError PyFloat))) :
    Always (DeviceLoop.tick lib device (registerMap rows) configs)
        (ServesMonitored lib device (registerMap rows) configs) { adapter := a } ticks ↔
      EachStep (DeviceLoop.tick lib device (registerMap rows) configs)
        (fun _ outcomes _ => LastFits (registerMap rows) configs outcomes) { adapter := a }
        ticks := by
  obtain ⟨ctx, hctx, hsize⟩ := hregistered
  refine always_iff_eachStep (J := fun s => ∃ ctx, s.adapter.contextOf device = some ctx ∧
    LaidOut (registerMap rows) ctx) ?_ ?_ ⟨ctx, hctx, laidOut_registerMap haccepted hsize⟩ ?_
  · rintro s outcomes s' ⟨ctx, hctx, hlaid⟩ hstep
    exact (tracks_tick hctx hlaid hstep).laid_out
  · rintro s outcomes s' ⟨ctx, hctx, hlaid⟩ hs hstep
    exact servesMonitored_tick_iff hctx hlaid hs hstep
  · intro c _ reg generated _ hvalue
    cases hvalue

/-- Datastores whose slices are read and overwritten one word further. -/
def pymodbus : Pymodbus where
  setValues ctx functionCode address words :=
    if functionCode = 3 then { ctx with hr := Slice.set ctx.hr (address + 1).toNat words }
    else { ctx with ir := Slice.set ctx.ir (address + 1).toNat words }
  getValues ctx functionCode address count :=
    Slice.get (ctx.block functionCode) (address + 1).toNat count
  block_setValues ctx functionCode address words other h hother := by
    rcases h.function_code_valid with rfl | rfl <;> rcases hother with rfl | rfl <;> rfl
  getValues_eq _ _ _ _ _ := rfl

/-- One signed 16-bit register. -/
def voltage : RegisterDefinitionCreate where
  name := "voltage"
  address := 0
  dataType := .int16
  data_type_valid := int16_known
  byte_order_valid := bigEndian_known
  function_code_valid := holding_valid
  address_nonneg := first_address

def voltageMeta : RegisterMeta where
  address := 0
  functionCode := 3
  dataType := .int16
  byteOrder := .bigEndian
  scaleFactor := .fin false 1
  sortOrder := 0

def voltageConfig : SimulationConfig where
  id := 1
  deviceId := 7
  registerName := "voltage"
  dataMode := .static

/-- An adapter with the device 7 as its only slave. -/
def voltageAdapter : ModbusTcpAdapter :=
  (ModbusTcpAdapter.start {}).doAddDevice 7 1 ((buildRegisters [voltage]).map (·.toInfo)) |>.1

theorem acceptedRegisters_voltage : AcceptedRegisters [voltage] (buildRegisters [voltage]) where
  no_overlap := by simp [validateNoAddressOverlap, checkAdjacent]
  names := by simp
  rows := by rw [bare_buildRegisters]

theorem registered_voltage : Registered voltageAdapter 7 (buildRegisters [voltage]) :=
  @registered_doAddDevice _ (ModbusTcpAdapter.start {}) _ _ 1 rfl

theorem always_servesMonitored_voltage :
    Always (DeviceLoop.tick pymodbus 7 (registerMap (buildRegisters [voltage])) [voltageConfig])
        (ServesMonitored pymodbus 7 (registerMap (buildRegisters [voltage])) [voltageConfig])
        { adapter := voltageAdapter } [[.ok (.fin false 230)]] ↔
      EachStep (DeviceLoop.tick pymodbus 7 (registerMap (buildRegisters [voltage])) [voltageConfig])
        (fun _ outcomes _ =>
          LastFits (registerMap (buildRegisters [voltage])) [voltageConfig] outcomes)
        { adapter := voltageAdapter } [[.ok (.fin false 230)]] :=
  always_servesMonitored_iff pymodbus [voltage] (buildRegisters [voltage])
    acceptedRegisters_voltage [voltageConfig] voltageAdapter 7 registered_voltage _

/-- 70000 is shown for the register, and is not written. -/
theorem monitored_not_served : ¬ ∀ (lib : Pymodbus) (data : List RegisterDefinitionCreate)
    (rows : List RegisterDefinition), AcceptedRegisters data rows →
      ∀ (configs : List SimulationConfig) (a : ModbusTcpAdapter) (device : UUID),
        Registered a device rows → ∀ ticks : List (List (Except PyError PyFloat)),
          Always (DeviceLoop.tick lib device (registerMap rows) configs)
            (ServesMonitored lib device (registerMap rows) configs) { adapter := a } ticks := by
  intro h
  have hvalid : validConfigs (registerMap (buildRegisters [voltage])) [voltageConfig] =
      [voltageConfig] := by
    rw [validConfigs, List.mergeSort_singleton]
    rfl
  have hrun := h pymodbus [voltage] _ acceptedRegisters_voltage [voltageConfig] voltageAdapter 7
    registered_voltage [[.ok (.fin false 70000)]]
  obtain ⟨ctx, hctx, hsize⟩ := registered_voltage
  have hlaid := laidOut_registerMap acceptedRegisters_voltage hsize
  obtain ⟨s', hstep⟩ : ∃ s', DeviceLoop.tick pymodbus 7 (registerMap (buildRegisters [voltage]))
      [voltageConfig] { adapter := voltageAdapter } [.ok (.fin false 70000)] = some s' := by
    rw [DeviceLoop.tick, hvalid]
    exact ⟨_, if_neg (by simp)⟩
  have hfits := (servesMonitored_tick_iff hctx hlaid hrun.1 hstep).1 (hrun.2 s' hstep).1
  have hraw : voltageMeta.rawValue (.fin false 70000) = .ok (.fin false 70000) := by
    decide +kernel
  have hinRange := (hfits "voltage" voltageMeta (.fin false 70000) _ rfl
    (by rw [hvalid]; rfl) hraw).inRange rfl (by decide)
  have hle : (PyFloat.fin false 70000).trunc ≤ 32767 := (hinRange.1 (-32768, 32767) rfl).2
  exact absurd hle (by decide +kernel)

end Accepted

end Simulation

end GhostMeter
