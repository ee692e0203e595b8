import GhostMeter.Backend
import GhostMeter.Lib.Check
import GhostMeter.Lib.Window
import GhostMeter.Protocols.ModbusTcp

/-! Templates and their registers. -/

namespace GhostMeter

open GhostMeter.Lib GhostMeter.Simulation GhostMeter.Protocols

/-- The row without its id. -/
def DeviceTemplate.bare (t : DeviceTemplate) : DeviceTemplate := { t with id := 0 }

/-- The row without its ids. -/
def RegisterDefinition.bare (r : RegisterDefinition) : RegisterDefinition :=
  { r with id := 0, templateId := 0 }

/-- The registers of a template by their names, without their ids. -/
def Database.storedRegister (db : Database) (template : UUID) : Dict String RegisterDefinition :=
  fun name => (db.registerNamed (template, name)).map (·.bare)

namespace Services

/-- A violated constraint of the database raises, and nothing catches it. -/
def constraint (c : Prop) [Decidable c] : Except RequestError Unit :=
  if c then .ok () else .error .unhandled

@[simp] theorem constraint_ok_iff (c : Prop) [Decidable c] : constraint c = .ok () ↔ c := by
  unfold constraint
  split <;> simp_all

/-- The rows of a template's registers, with the ids that they get. -/
def registerRows (template : UUID) : UUID → List RegisterDefinition → List RegisterDefinition
  | _, [] => []
  | next, r :: rs =>
    { r with id := next, templateId := template } :: registerRows template (next + 1) rs

/-- The registers of a template without any; they are unique by name and by address and
function code. -/
def insertRegisters (db : Database) (template : UUID) (registers : List RegisterDefinition) :
    Except RequestError Database := do
  constraint (registers.map (·.name)).Nodup
  constraint (registers.map fun r => (r.address, r.functionCode)).Nodup
  return { db with
    registers := db.registers ++ registerRows template db.nextId registers
    nextId := db.nextId + registers.length }

structure RegisterDefinitionCreate where
  name : String
  address : ℤ
  functionCode : ℤ := 3
  dataType : DataType
  byteOrder : ByteOrder := .bigEndian
  scaleFactor : PyFloat := .fin false 1
  unit : Option String := none
  description : Option String := none
  sortOrder : ℤ := 0
  oid : Option String := none
  data_type_valid : ∀ n, dataType ≠ .other n
  byte_order_valid : ∀ n, byteOrder ≠ .other n
  function_code_valid : functionCode = 3 ∨ functionCode = 4
  address_nonneg : 0 ≤ address

theorem int16_known : ∀ n, DataType.int16 ≠ .other n := DataType.int16.isKnown_iff.1 rfl
theorem uint16_known : ∀ n, DataType.uint16 ≠ .other n := DataType.uint16.isKnown_iff.1 rfl
theorem uint32_known : ∀ n, DataType.uint32 ≠ .other n := DataType.uint32.isKnown_iff.1 rfl
theorem float32_known : ∀ n, DataType.float32 ≠ .other n := DataType.float32.isKnown_iff.1 rfl
theorem bigEndian_known : ∀ n, ByteOrder.bigEndian ≠ .other n :=
  ByteOrder.bigEndian.isKnown_iff.1 rfl
theorem holding_valid : (3 : ℤ) = 3 ∨ (3 : ℤ) = 4 := Or.inl rfl
theorem first_address : (0 : ℤ) ≤ 0 := le_rfl
theorem second_address : (0 : ℤ) ≤ 1 := zero_le_one

structure TemplateCreate where
  name : String
  protocol : Protocol := .modbusTcp
  description : Option String := none
  registers : List RegisterDefinitionCreate
  registers_not_empty : registers ≠ []

structure TemplateUpdate where
  name : String
  protocol : Protocol := .modbusTcp
  description : Option String := none
  registers : List RegisterDefinitionCreate
  registers_not_empty : registers ≠ []

/-- The ranges of one function code, by their starts. -/
def checkAdjacent (functionCode : ℤ) : List RegisterDefinitionCreate → Except AppException Unit
  | a :: b :: rest => do
    raiseIf (a.address + a.dataType.registerCount - 1 ≥ b.address) (validationException
      s!"Register address overlap: '{a.name}' and '{b.name}' overlap in FC{functionCode}")
    checkAdjacent functionCode (b :: rest)
  | _ => .ok ()

def validateNoAddressOverlap (registers : List RegisterDefinitionCreate) :
    Except AppException Unit :=
  checkAll (fun functionCode => checkAdjacent functionCode
      ((registers.filter (·.functionCode = functionCode)).mergeSort (·.address ≤ ·.address)))
    (registers.map (·.functionCode)).eraseDups

def buildRegisters (registers : List RegisterDefinitionCreate) : List RegisterDefinition :=
  registers.map fun reg => {
    id := 0
    templateId := 0
    name := reg.name
    address := reg.address
    functionCode := reg.functionCode
    dataType := reg.dataType
    byteOrder := reg.byteOrder
    scaleFactor := reg.scaleFactor
    unit := reg.unit
    description := reg.description
    sortOrder := reg.sortOrder
    oid := reg.oid }

/-- `e` is the text of the `IntegrityError` that the commit may raise. -/
def createTemplate (db : Database) (data : TemplateCreate) (isBuiltin : Bool) (e : String) :
    Except RequestError Database := do
  (if data.protocol = .modbusTcp then validateNoAddressOverlap data.registers
    else .ok ()).mapError .app
  (raiseIf (∃ row ∈ db.templates, row.name = data.name)
    (validationException s!"Template with name '{data.name}' already exists")).mapError .app
  let template : DeviceTemplate := {
    id := db.nextId
    name := data.name
    protocol := data.protocol
    description := data.description
    isBuiltin }
  (insertRegisters { db with
      templates := db.templates ++ [template]
      nextId := db.nextId + 1 }
    db.nextId (buildRegisters data.registers)).mapError
      fun _ => .app (validationException s!"Database constraint violation: {e}")

instance (dataType : DataType) : Decidable (∀ n, dataType ≠ .other n) :=
  decidable_of_iff _ dataType.isKnown_iff

instance (byteOrder : ByteOrder) : Decidable (∀ n, byteOrder ≠ .other n) :=
  decidable_of_iff _ byteOrder.isKnown_iff

/-- A stored register, put through the schema again without its OID; a row that the schema does
not accept raises. -/
def recreateRegister (r : RegisterDefinition) : Except RequestError RegisterDefinitionCreate :=
  if h : (∀ n, r.dataType ≠ .other n) ∧ (∀ n, r.byteOrder ≠ .other n) ∧
      (r.functionCode = 3 ∨ r.functionCode = 4) ∧ 0 ≤ r.address then
    .ok {
      name := r.name
      address := r.address
      functionCode := r.functionCode
      dataType := r.dataType
      byteOrder := r.byteOrder
      scaleFactor := r.scaleFactor
      unit := r.unit
      description := r.description
      sortOrder := r.sortOrder
      data_type_valid := h.1
      byte_order_valid := h.2.1
      function_code_valid := h.2.2.1
      address_nonneg := h.2.2.2 }
  else .error .unhandled

/-- `data.new_name or f"Copy of {source.name}"`. -/
def cloneName (newName : Option String) (source : DeviceTemplate) : String :=
  match newName with
  | some name => if name = "" then s!"Copy of {source.name}" else name
  | none => s!"Copy of {source.name}"

def cloneTemplate (db : Database) (template : UUID) (newName : Option String) (e : String) :
    Except RequestError Database := do
  let source ← (db.getTemplate template).mapError .app
  let registers ← (db.registersOf template).mapM recreateRegister
  if h : registers = [] then .error .unhandled
  else
    createTemplate db {
        name := cloneName newName source
        protocol := source.protocol
        description := source.description
        registers
        registers_not_empty := h } false e

/-- `import_template` of the template service. -/
def importTemplateFile (db : Database) (data : TemplateCreate) (e : String) :
    Except RequestError Database :=
  createTemplate db data false e

/-- `e` is the text of the `IntegrityError` that the commit may raise; a name that is taken
raises before, at the flush. -/
def updateTemplate (db : Database) (template : UUID) (data : TemplateUpdate) (e : String) :
    Except RequestError Database := do
  let t ← (db.getTemplate template).mapError .app
  (raiseIf (t.isBuiltin = true) (forbiddenException "Built-in templates cannot be modified"
    "BUILTIN_TEMPLATE_IMMUTABLE")).mapError .app
  (if data.protocol = .modbusTcp then validateNoAddressOverlap data.registers
    else .ok ()).mapError .app
  constraint (∀ row ∈ db.templates, row.name = data.name → row.id = template)
  (insertRegisters { db with
      templates := Table.update DeviceTemplate.id db.templates template fun row =>
        { row with name := data.name, protocol := data.protocol, description := data.description }
      registers := db.registers.filter (·.templateId ≠ template) }
    template (buildRegisters data.registers)).mapError
      fun _ => .app (validationException s!"Database constraint violation: {e}")

/-- The row goes with everything that refers to it. -/
def deleteTemplateRow (db : Database) (template : UUID) : Database :=
  { db with
    templates := db.templates.filter (·.id ≠ template)
    registers := db.registers.filter (·.templateId ≠ template)
    simulationProfiles := db.simulationProfiles.filter (·.templateId ≠ template)
    scenarios := db.scenarios.filter (·.templateId ≠ template) }

def deleteTemplate (db : Database) (template : UUID) : Except AppException Database := do
  let t ← db.getTemplate template
  let deviceCount := (db.devices.filter (·.templateId = template)).length
  raiseIf (deviceCount > 0)
    (conflictException s!"Template is in use by {deviceCount} device(s)" "TEMPLATE_IN_USE")
  raiseIf (t.isBuiltin = true) (forbiddenException "Built-in templates cannot be deleted"
    "BUILTIN_TEMPLATE_IMMUTABLE")
  return deleteTemplateRow db template

variable {db db' : Database} {template next : UUID} {registers : List RegisterDefinition}

theorem insertRegisters_ok_iff :
    insertRegisters db template registers = .ok db' ↔
      (registers.map (·.name)).Nodup ∧
      (registers.map fun r => (r.address, r.functionCode)).Nodup ∧
      { db with
        registers := db.registers ++ registerRows template db.nextId registers
        nextId := db.nextId + registers.length } = db' := by
  unfold insertRegisters
  simp only [andThen_ok_iff, constraint_ok_iff]
  exact and_congr_right fun _ => and_congr_right fun _ => Except.ok.injEq _ _ |>.to_iff

theorem registerRows_template {r : RegisterDefinition}
    (h : r ∈ registerRows template next registers) : r.templateId = template := by
  induction registers generalizing next with
  | nil => cases h
  | cons e registers ih =>
    rcases List.mem_cons.1 h with rfl | h
    · rfl
    · exact ih h

theorem ids_registerRows : (registerRows template next registers).map (·.id) =
    List.range' next (registerRows template next registers).length := by
  induction registers generalizing next with
  | nil => rfl
  | cons e registers ih =>
    rw [registerRows, List.map_cons, ih, List.length_cons, List.range'_succ]

theorem length_registerRows :
    (registerRows template next registers).length = registers.length := by
  induction registers generalizing next with
  | nil => rfl
  | cons e registers ih => rw [registerRows, List.length_cons, ih, List.length_cons]

theorem bare_registerRows :
    (registerRows template next registers).map RegisterDefinition.bare =
      registers.map RegisterDefinition.bare := by
  induction registers generalizing next with
  | nil => rfl
  | cons e registers ih =>
    rw [registerRows, List.map_cons, List.map_cons, ih]
    rfl

/-- What an accepted create stores. -/
theorem createTemplate_ok {data : TemplateCreate} {isBuiltin : Bool} {e : String}
    (h : createTemplate db data isBuiltin e = .ok db') :
    (∀ row ∈ db.templates, row.name ≠ data.name) ∧
      db' = { db with
        templates := db.templates ++ [{
          id := db.nextId
          name := data.name
          protocol := data.protocol
          description := data.description
          isBuiltin }]
        registers := db.registers ++
          registerRows db.nextId (db.nextId + 1) (buildRegisters data.registers)
        nextId := db.nextId + 1 + (buildRegisters data.registers).length } := by
  simp only [createTemplate, andThen_ok_iff, mapError_ok_iff, raiseIf_ok_iff,
    insertRegisters_ok_iff] at h
  obtain ⟨-, hname, -, -, rfl⟩ := h
  exact ⟨fun row hrow hn => hname ⟨row, hrow, hn⟩, rfl⟩

/-- An accepted clone is an accepted create. -/
theorem cloneTemplate_ok {newName : Option String} {e : String}
    (h : cloneTemplate db template newName e = .ok db') :
    ∃ data, createTemplate db data false e = .ok db' := by
  simp only [cloneTemplate, bind_ok_iff] at h
  obtain ⟨source, -, rows, -, h⟩ := h
  split at h
  next => cases h
  next => exact ⟨_, h⟩

/-- What an accepted update stores. -/
theorem updateTemplate_ok {data : TemplateUpdate} {e : String}
    (h : updateTemplate db template data e = .ok db') :
    ∃ t, db.findTemplate template = some t ∧ t.isBuiltin = false ∧
      (data.protocol = .modbusTcp → validateNoAddressOverlap data.registers = .ok ()) ∧
      (∀ row ∈ db.templates, row.name = data.name → row.id = template) ∧
      ((buildRegisters data.registers).map (·.name)).Nodup ∧
      db' = { db with
        templates := Table.update DeviceTemplate.id db.templates template fun row =>
          { row with name := data.name, protocol := data.protocol, description := data.description }
        registers := db.registers.filter (·.templateId ≠ template) ++
          registerRows template db.nextId (buildRegisters data.registers)
        nextId := db.nextId + (buildRegisters data.registers).length } := by
  unfold updateTemplate at h
  rw [bind_ok_iff] at h
  obtain ⟨t, ht, h⟩ := h
  simp only [andThen_ok_iff, mapError_ok_iff, raiseIf_ok_iff, constraint_ok_iff,
    insertRegisters_ok_iff] at h
  obtain ⟨hbuiltin, hoverlap, hname, hnames, -, rfl⟩ := h
  rw [mapError_ok_iff, Database.getTemplate_ok_iff] at ht
  exact ⟨t, ht, by simpa using hbuiltin, fun hp => by simpa [hp] using hoverlap, hname, hnames, rfl⟩

/-- What an accepted delete needs. -/
theorem deleteTemplate_ok (h : deleteTemplate db template = .ok db') :
    ∃ t, db.findTemplate template = some t ∧ t.isBuiltin = false ∧
      (∀ d ∈ db.devices, d.templateId ≠ template) ∧ db' = deleteTemplateRow db template := by
  unfold deleteTemplate at h
  rw [bind_ok_iff] at h
  obtain ⟨t, ht, h⟩ := h
  simp only [andThen_ok_iff, raiseIf_ok_iff] at h
  obtain ⟨hcount, hbuiltin, h⟩ := h
  obtain rfl := Except.ok.inj h
  refine ⟨t, Database.getTemplate_ok_iff.1 ht, by simpa using hbuiltin, fun d hd hid => hcount ?_,
    rfl⟩
  exact List.length_pos_of_mem (List.mem_filter.2 ⟨hd, by simpa using hid⟩)

section Accepted

variable {data : List RegisterDefinitionCreate} {functionCode : ℤ}

theorem registerCount_pos (dataType : DataType) : 0 < dataType.registerCount := by
  cases dataType <;> simp [DataType.registerCount]

theorem checkAdjacent_ok_iff : checkAdjacent functionCode data = .ok () ↔
    data.IsChain fun a b => a.address + a.dataType.registerCount ≤ b.address := by
  induction data with
  | nil => simp [checkAdjacent]
  | cons a data ih =>
    cases data with
    | nil => simp [checkAdjacent]
    | cons b data =>
      rw [checkAdjacent, andThen_ok_iff, raiseIf_ok_iff, List.isChain_cons_cons, ih]
      refine and_congr_left' ?_
      omega

/-- A list is accepted just if the ranges of its registers do not overlap, within a function
code. -/
theorem validateNoAddressOverlap_ok_iff : validateNoAddressOverlap data = .ok () ↔
    data.Pairwise fun a b => a.functionCode = b.functionCode →
      ¬ Window.Overlap (fun r : RegisterDefinitionCreate => r.address)
        (fun r => r.address + r.dataType.registerCount) a b := by
  have hne : ∀ r : RegisterDefinitionCreate, r.address < r.address + r.dataType.registerCount := by
    intro r
    have := registerCount_pos r.dataType
    omega
  have hgroup : ∀ code, checkAdjacent code
      ((data.filter (·.functionCode = code)).mergeSort (·.address ≤ ·.address)) = .ok () ↔
        (data.filter (·.functionCode = code)).Pairwise fun a b =>
          ¬ Window.Overlap (fun r : RegisterDefinitionCreate => r.address)
            (fun r => r.address + r.dataType.registerCount) a b :=
    fun code => checkAdjacent_ok_iff.trans (Window.isChain_mergeSort_iff fun r _ => hne r)
  have hgroups := @Window.forall_groups_iff _ _ _ RegisterDefinitionCreate.functionCode
    (fun code l => checkAdjacent code (l.mergeSort (·.address ≤ ·.address)) = .ok ())
    (fun _ => by simp [checkAdjacent]) data
  rw [validateNoAddressOverlap, checkAll_ok_iff, ← Window.pairwise_groups_iff, hgroups]
  exact forall_congr' hgroup

theorem not_overlap_of_validate (h : validateNoAddressOverlap data = .ok ())
    {a b : RegisterDefinitionCreate} (ha : a ∈ data) (hb : b ∈ data) (hne : a ≠ b)
    (hfc : a.functionCode = b.functionCode) :
    ¬ Window.Overlap (fun r : RegisterDefinitionCreate => r.address)
      (fun r => r.address + r.dataType.registerCount) a b := by
  have hpairs := Window.pairwise_groups_iff.2 (validateNoAddressOverlap_ok_iff.1 h) b.functionCode
  exact Window.not_overlap_of_mem hpairs (List.mem_filter.2 ⟨ha, by simpa using hfc⟩)
    (List.mem_filter.2 ⟨hb, by simp⟩) hne

/-- Rows that are, up to their ids and their order, registers that the service accepts for a
Modbus template. -/
structure AcceptedRegisters (data : List RegisterDefinitionCreate)
    (rows : List RegisterDefinition) : Prop where
  no_overlap : validateNoAddressOverlap data = .ok ()
  names : (data.map (·.name)).Nodup
  rows : (rows.map RegisterDefinition.bare).Perm (buildRegisters data)

theorem registersOf_registerRows {rest : List RegisterDefinition}
    (hrest : ∀ r ∈ rest, r.templateId ≠ template)
    (h : db.registers = rest ++ registerRows template next registers) :
    ((db.registersOf template).map RegisterDefinition.bare).Perm
      (registers.map RegisterDefinition.bare) := by
  have hnone : rest.filter (·.templateId = template) = [] :=
    List.filter_eq_nil_iff.2 fun r hr => by simpa using hrest r hr
  have hall : (registerRows template next registers).filter (·.templateId = template) =
      registerRows template next registers :=
    List.filter_eq_self.2 fun r hr => by simpa using registerRows_template hr
  have hperm : (db.registersOf template).Perm (registerRows template next registers) := by
    rw [Database.registersOf, h, List.filter_append, hnone, hall, List.nil_append]
    exact List.mergeSort_perm _ _
  have hmap := hperm.map RegisterDefinition.bare
  rwa [bare_registerRows] at hmap

theorem bare_buildRegisters : (buildRegisters data).map RegisterDefinition.bare =
    buildRegisters data := by
  simp [buildRegisters, RegisterDefinition.bare]

theorem names_buildRegisters : (buildRegisters data).map (·.name) = data.map (·.name) := by
  rw [buildRegisters, List.map_map]
  rfl

/-- What an accepted update of a Modbus template stores. -/
theorem acceptedRegisters_updateTemplate {data : TemplateUpdate} {e : String}
    (hprotocol : data.protocol = .modbusTcp) (h : updateTemplate db template data e = .ok db') :
    AcceptedRegisters data.registers (db'.registersOf template) := by
  obtain ⟨t, -, -, hoverlap, -, hnames, rfl⟩ := updateTemplate_ok h
  rw [names_buildRegisters] at hnames
  have hrest : ∀ r ∈ db.registers.filter (·.templateId ≠ template), r.templateId ≠ template :=
    fun r hr => by simpa using (List.mem_filter.1 hr).2
  have hperm := @registersOf_registerRows { db with
      templates := Table.update DeviceTemplate.id db.templates template fun row =>
        { row with name := data.name, protocol := data.protocol, description := data.description }
      registers := db.registers.filter (·.templateId ≠ template) ++
        registerRows template db.nextId (buildRegisters data.registers)
      nextId := db.nextId + (buildRegisters data.registers).length } _ _ _ _ hrest rfl
  rw [bare_buildRegisters] at hperm
  exact ⟨hoverlap hprotocol, hnames, hperm⟩

end Accepted

theorem find_registerRows (name : String) :
    (Table.find RegisterDefinition.key (registerRows template next registers)
        (template, name)).map RegisterDefinition.bare =
      (Table.find RegisterDefinition.name registers name).map RegisterDefinition.bare := by
  induction registers generalizing next with
  | nil => rfl
  | cons e registers ih =>
    rw [registerRows, Table.find_cons, Table.find_cons]
    by_cases h : e.name = name
    · simp [RegisterDefinition.key, RegisterDefinition.bare, h]
    · simpa [RegisterDefinition.key, h] using ih

theorem map_registerRows {κ : Type} {f : RegisterDefinition → κ}
    (hf : ∀ r i, f { r with id := i, templateId := template } = f r) :
    (registerRows template next registers).map f = registers.map f := by
  induction registers generalizing next with
  | nil => rfl
  | cons e registers ih => rw [registerRows, List.map_cons, List.map_cons, ih, hf]

/-- What is unique for each template stays so when the registers of one are replaced. -/
theorem nodup_putRegisters {κ : Type} {f : RegisterDefinition → κ} {rows : List RegisterDefinition}
    (hf : ∀ r i, f { r with id := i, templateId := template } = f r)
    (hrows : (rows.map fun r => (r.templateId, f r)).Nodup) (hnew : (registers.map f).Nodup) :
    ((rows.filter (·.templateId ≠ template) ++ registerRows template next registers).map
      fun r => (r.templateId, f r)).Nodup := by
  rw [List.map_append, List.nodup_append]
  refine ⟨hrows.sublist (List.filter_sublist.map _), ?_, ?_⟩
  · rw [← @map_registerRows template next _ _ _ hf] at hnew
    refine List.Nodup.of_map Prod.snd ?_
    rw [List.map_map]
    exact hnew
  · intro k hk k' hk'
    obtain ⟨r, hr, rfl⟩ := List.mem_map.1 hk
    obtain ⟨r', hr', rfl⟩ := List.mem_map.1 hk'
    intro heq
    have hid : r.templateId = template :=
      (congrArg Prod.fst heq).trans (registerRows_template hr')
    exact absurd hid (by simpa using List.of_mem_filter hr)

/-- The names of a template's registers stay unique when they are replaced. -/
theorem nodup_replaceRegisters {rows : List RegisterDefinition}
    (hrows : (rows.map (·.key)).Nodup) (hnames : (registers.map (·.name)).Nodup) :
    ((rows.filter (·.templateId ≠ template) ++ registerRows template next registers).map
      (·.key)).Nodup :=
  nodup_putRegisters (fun _ _ => rfl) hrows hnames

theorem find_registerRows_of_ne {t : UUID} (h : t ≠ template) (name : String) :
    Table.find RegisterDefinition.key (registerRows template next registers) (t, name) = none := by
  rw [Table.find_eq_none_iff]
  intro r hr hkey
  exact h ((congrArg Prod.fst hkey).symm.trans (registerRows_template hr))

theorem registersOf_nodup {κ : Type} (f : RegisterDefinition → κ)
    (h : (db.registers.map fun r => (r.templateId, f r)).Nodup) (template : UUID) :
    ((db.registersOf template).map f).Nodup := by
  have hrows : (db.registersOf template).Perm (db.registers.filter (·.templateId = template)) :=
    List.mergeSort_perm _ _
  rw [(hrows.map f).nodup_iff]
  have hfilter := h.sublist ((List.filter_sublist (p := fun r : RegisterDefinition =>
    decide (r.templateId = template)) (l := db.registers)).map _)
  refine List.Nodup.of_map (fun k => (template, k)) ?_
  rw [List.map_map]
  convert hfilter using 1
  refine List.map_congr_left fun r hr => ?_
  have hid := List.of_mem_filter hr
  rw [decide_eq_true_eq] at hid
  simp [hid]

theorem sorted_registersOf : (db.registersOf template).Pairwise fun a b =>
    a.sortOrder ≤ b.sortOrder :=
  Window.pairwise_mergeSort_key RegisterDefinition.sortOrder _

end Services

end GhostMeter
