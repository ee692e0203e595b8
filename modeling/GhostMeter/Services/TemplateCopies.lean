import GhostMeter.Integrity
import GhostMeter.Services.DeviceService
import GhostMeter.Services.SystemService

/-! Copies of a template: the clone, and the export to a file that is imported again. -/

namespace GhostMeter.Services

open GhostMeter.Lib GhostMeter.Schemas

/-- A template file; its registers have the fields of a system export. -/
structure TemplateFile where
  name : String
  protocol : Protocols.Protocol
  description : Option String
  registers : List RegisterExport

def exportTemplate (db : Database) (template : UUID) : Except AppException TemplateFile := do
  let t ← db.getTemplate template
  return {
    name := t.name
    protocol := t.protocol
    description := t.description
    registers := (db.registersOf template).map (·.toExport) }

/-- `import_template` of the routes.  The file is put through the schema; one that it does not
accept raises. -/
def importTemplateRoute (db : Database) (file : TemplateFile) (e : String) :
    Except RequestError Database := do
  let registers ← file.registers.mapM fun r => recreateRegister r.toRow
  if h : registers = [] then .error .unhandled
  else
    importTemplateFile db {
        name := file.name
        protocol := file.protocol
        description := file.description
        registers
        registers_not_empty := h } e

/-- The two ways to copy a template; the file gets a new name. -/
inductive TemplateCopy
  | clone (newName : Option String)
  | reimport (name : String)

namespace TemplateCopy

def run (db : Database) (template : UUID) (e : String) : TemplateCopy → Except RequestError Database
  | clone newName => cloneTemplate db template newName e
  | reimport name => do
    let file ← (exportTemplate db template).mapError .app
    importTemplateRoute db { file with name } e

def name (source : DeviceTemplate) : TemplateCopy → String
  | clone newName => cloneName newName source
  | reimport name => name

end TemplateCopy

/-- A name that no template has, and that fits its column. -/
def FreeName (db : Database) (name : String) : Prop :=
  (∀ t ∈ db.templates, t.name ≠ name) ∧ name.length ≤ 100

/-- The new template says what the old one says, register by register, and its registers are
handed to the adapters in the same way. -/
structure FaithfulCopy (db : Database) (template : UUID) (db' : Database) : Prop where
  row : ∃ t t', db.findTemplate template = some t ∧ db'.findTemplate db.nextId = some t' ∧
    t'.protocol = t.protocol ∧ t'.description = t.description
  registers : (db'.registersOf db.nextId).map (·.bare) = (db.registersOf template).map (·.bare)
  served : (db'.registersOf db.nextId).map (·.toInfo) = (db.registersOf template).map (·.toInfo)

/-- A create accepts the rows of the template. -/
def Recreatable (db : Database) (template : UUID) : Prop :=
  ∃ t registers, db.findTemplate template = some t ∧
    (db.registersOf template).mapM recreateRegister = .ok registers ∧ registers ≠ [] ∧
    (t.protocol = .modbusTcp → validateNoAddressOverlap registers = .ok ())

variable {db db' : Database} {template : UUID} {e : String}

section Registers

theorem buildRegisters_of_mapM {rows : List RegisterDefinition}
    {registers : List RegisterDefinitionCreate} (h : rows.mapM recreateRegister = .ok registers) :
    buildRegisters registers = rows.map fun r => { r.bare with oid := none } := by
  induction rows generalizing registers with
  | nil =>
    obtain rfl : registers = [] := by simpa [pure, Except.pure] using h.symm
    rfl
  | cons r rows ih =>
    rw [List.mapM_cons] at h
    obtain ⟨c, hc, h⟩ := bind_ok_iff.1 h
    obtain ⟨cs, hcs, h⟩ := bind_ok_iff.1 h
    obtain rfl := Except.ok.inj h
    rw [recreateRegister] at hc
    split at hc
    next =>
      obtain rfl := Except.ok.inj hc
      rw [List.map_cons, ← ih hcs]
      rfl
    next => cases hc

end Registers

section Copies

/-- What a create stores. -/
def created (db : Database) (data : TemplateCreate) (isBuiltin : Bool) : Database :=
  { db with
    templates := db.templates ++ [{
      id := db.nextId
      name := data.name
      protocol := data.protocol
      description := data.description
      isBuiltin }]
    registers := db.registers ++
      registerRows db.nextId (db.nextId + 1) (buildRegisters data.registers)
    nextId := db.nextId + 1 + (buildRegisters data.registers).length }

theorem createTemplate_ok_iff {data : TemplateCreate} {isBuiltin : Bool} :
    createTemplate db data isBuiltin e = .ok db' ↔
      (data.protocol = .modbusTcp → validateNoAddressOverlap data.registers = .ok ()) ∧
      (∀ t ∈ db.templates, t.name ≠ data.name) ∧
      ((buildRegisters data.registers).map (·.name)).Nodup ∧
      ((buildRegisters data.registers).map fun r => (r.address, r.functionCode)).Nodup ∧
      created db data isBuiltin = db' := by
  simp only [createTemplate, andThen_ok_iff, mapError_ok_iff, raiseIf_ok_iff,
    insertRegisters_ok_iff]
  refine and_congr ?_ (and_congr_left' ?_)
  · split
    next h => simp [h]
    next h => simp [h]
  · push Not
    rfl

theorem dite_error_ok_iff {p : Prop} [Decidable p] {err : RequestError}
    {f : ¬ p → Except RequestError Database} :
    (if h : p then .error err else f h) = Except.ok db' ↔ ∃ h : ¬ p, f h = .ok db' := by
  split
  next hp => simp [hp]
  next hp => exact ⟨fun h => ⟨hp, h⟩, fun ⟨_, h⟩ => h⟩

/-- Both copies are creates of the same rows under another name. -/
theorem TemplateCopy.run_ok_iff {copy : TemplateCopy} :
    copy.run db template e = .ok db' ↔
      ∃ t, db.findTemplate template = some t ∧ ∃ registers,
        (db.registersOf template).mapM recreateRegister = .ok registers ∧
        ∃ h : registers ≠ [], createTemplate db {
            name := copy.name t
            protocol := t.protocol
            description := t.description
            registers
            registers_not_empty := h } false e = .ok db' := by
  cases copy with
  | clone newName =>
    simp only [run, cloneTemplate, bind_ok_iff, mapError_ok_iff, Database.getTemplate_ok_iff,
      dite_error_ok_iff]
    rfl
  | reimport name =>
    have hrows : ((db.registersOf template).map (·.toExport)).mapM
        (fun r => recreateRegister r.toRow) = (db.registersOf template).mapM recreateRegister := by
      rw [List.mapM_map]
      rfl
    simp only [run, exportTemplate, importTemplateRoute, bind_ok_iff, mapError_ok_iff,
      Database.getTemplate_ok_iff, dite_error_ok_iff]
    constructor
    · rintro ⟨file, ⟨t, ht, hfile⟩, h⟩
      obtain rfl := Except.ok.inj hfile
      obtain ⟨registers, hregisters, h⟩ := h
      exact ⟨t, ht, registers, hrows ▸ hregisters, h⟩
    · rintro ⟨t, ht, registers, hregisters, h⟩
      exact ⟨_, ⟨t, ht, rfl⟩, registers, hrows.trans hregisters, h⟩

theorem sortOrders_registerRows {next : UUID} {registers : List RegisterDefinition} :
    (registerRows template next registers).map (·.sortOrder) = registers.map (·.sortOrder) := by
  induction registers generalizing next with
  | nil => rfl
  | cons r registers ih => rw [registerRows, List.map_cons, List.map_cons, ih]

/-- The registers of the new template, in the order of the relationship. -/
theorem registersOf_created (hdb : db.Keyed) {data : TemplateCreate}
    (hsorted : (buildRegisters data.registers).Pairwise fun a b => a.sortOrder ≤ b.sortOrder) :
    ((created db data false).registersOf db.nextId).map (·.bare) =
      buildRegisters data.registers := by
  have hnone : db.registers.filter (·.templateId = db.nextId) = [] :=
    List.filter_eq_nil_iff.2 fun r hr => by simpa using (hdb.registerFresh r hr).ne
  have hall : ∀ rows : List RegisterDefinition, (∀ r ∈ rows, r.templateId = db.nextId) →
      rows.filter (·.templateId = db.nextId) = rows :=
    fun rows h => List.filter_eq_self.2 fun r hr => by simpa using h r hr
  have hrows : (registerRows db.nextId (db.nextId + 1) (buildRegisters data.registers)).Pairwise
      fun a b => a.sortOrder ≤ b.sortOrder := by
    rw [← List.pairwise_map] at hsorted ⊢
    rw [sortOrders_registerRows]
    exact hsorted
  rw [Database.registersOf, created, List.filter_append, hnone,
    hall _ fun r hr => registerRows_template hr, List.nil_append,
    List.mergeSort_of_pairwise (hrows.imp decide_eq_true), bare_registerRows, bare_buildRegisters]

/-- The adapters see neither of the ids. -/
theorem map_toInfo_bare (rows : List RegisterDefinition) :
    (rows.map (·.bare)).map (·.toInfo) = rows.map (·.toInfo) := by
  rw [List.map_map]
  rfl

theorem findTemplate_created (hdb : db.Keyed) (data : TemplateCreate) :
    (created db data false).findTemplate db.nextId =
      some ⟨db.nextId, data.name, data.protocol, data.description, false⟩ := by
  have hnone : Table.find DeviceTemplate.id db.templates db.nextId = none :=
    Table.find_eq_none_iff.2 fun t ht => (hdb.templateFresh t ht).ne
  rw [Database.findTemplate, created, Table.find_append, hnone, Option.none_or, Table.find_cons,
    if_pos rfl]

theorem TemplateCopy.recreatable_of_run {copy : TemplateCopy}
    (hrun : copy.run db template e = .ok db') : Recreatable db template := by
  obtain ⟨t, ht, registers, hregisters, hne, hcreate⟩ := TemplateCopy.run_ok_iff.1 hrun
  exact ⟨t, registers, ht, hregisters, hne, (createTemplate_ok_iff.1 hcreate).1⟩

/-- What a copy says about its registers. -/
theorem TemplateCopy.registers_of_run (hdb : db.Keyed) {copy : TemplateCopy}
    (hrun : copy.run db template e = .ok db') :
    (db'.registersOf db.nextId).map (·.bare) =
      (db.registersOf template).map fun r => { r.bare with oid := none } := by
  obtain ⟨t, -, registers, hregisters, hne, hcreate⟩ := TemplateCopy.run_ok_iff.1 hrun
  obtain ⟨-, -, -, -, rfl⟩ := createTemplate_ok_iff.1 hcreate
  have hbuild := buildRegisters_of_mapM hregisters
  rw [registersOf_created hdb, hbuild]
  rw [hbuild, List.pairwise_map]
  exact sorted_registersOf

theorem TemplateCopy.run_of_recreatable (hdb : db.Valid) {copy : TemplateCopy}
    (hname : ∀ t, db.findTemplate template = some t → FreeName db (copy.name t))
    (h : Recreatable db template) :
    ∃ db', copy.run db template e = .ok db' ∧
      ∃ t t', db.findTemplate template = some t ∧ db'.findTemplate db.nextId = some t' ∧
        t'.protocol = t.protocol ∧ t'.description = t.description := by
  obtain ⟨t, registers, ht, hregisters, hne, hoverlap⟩ := h
  have hbuild := buildRegisters_of_mapM hregisters
  refine ⟨_, TemplateCopy.run_ok_iff.2 ⟨t, ht, registers, hregisters, hne,
    createTemplate_ok_iff.2 ⟨hoverlap, (hname t ht).1, ?_, ?_, rfl⟩⟩,
    t, _, ht, findTemplate_created hdb.toKeyed _, rfl, rfl⟩
  · rw [hbuild, List.map_map]
    exact registersOf_nodup (·.name) hdb.registerNames template
  · rw [hbuild, List.map_map]
    exact registersOf_nodup (fun r => (r.address, r.functionCode)) hdb.registerAddresses template

/-- A copy is faithful just if a create accepts the rows of the template and none has an OID. -/
theorem copy_faithful_iff (hdb : db.Valid) {copy : TemplateCopy}
    (hname : ∀ t, db.findTemplate template = some t → FreeName db (copy.name t)) :
    (∃ db', copy.run db template e = .ok db' ∧ FaithfulCopy db template db') ↔
      Recreatable db template ∧ ∀ r ∈ db.registersOf template, r.oid = none := by
  constructor
  · rintro ⟨db', hrun, hfaithful⟩
    have hrows := (copy.registers_of_run hdb.toKeyed hrun).symm.trans hfaithful.registers
    rw [List.map_inj_left] at hrows
    exact ⟨copy.recreatable_of_run hrun, fun r hr =>
      (congrArg RegisterDefinition.oid (hrows r hr)).symm⟩
  · rintro ⟨h, hoid⟩
    obtain ⟨db', hrun, hrow⟩ := @TemplateCopy.run_of_recreatable db template e hdb copy hname h
    have hrows : (db'.registersOf db.nextId).map (·.bare) =
        (db.registersOf template).map (·.bare) := by
      rw [copy.registers_of_run hdb.toKeyed hrun]
      refine List.map_congr_left fun r hr => ?_
      rw [← hoid r hr]
      rfl
    refine ⟨db', hrun, hrow, hrows, ?_⟩
    rw [← map_toInfo_bare, hrows, map_toInfo_bare]

/-- An SNMP template with one register. -/
def snmpTemplate (oid : Option String) : Database where
  templates := [⟨0, "UPS", .snmp, none, false⟩]
  registers := [⟨1, 0, "load", 0, 3, .uint16, .bigEndian, .fin false 1, none, none, 0, oid⟩]
  nextId := 2

theorem valid_snmpTemplate (oid : Option String) : (snmpTemplate oid).Valid := by
  constructor
  · constructor <;> simp [snmpTemplate]
  all_goals simp [snmpTemplate]

theorem freeName_snmpTemplate (oid : Option String) : FreeName (snmpTemplate oid) "UPS 2" :=
  ⟨by simp [snmpTemplate], by decide⟩

theorem copy_faithful_iff_snmp :
    (∃ db', (TemplateCopy.reimport "UPS 2").run (snmpTemplate none) 0 "" = .ok db' ∧
        FaithfulCopy (snmpTemplate none) 0 db') ↔
      Recreatable (snmpTemplate none) 0 ∧
        ∀ r ∈ (snmpTemplate none).registersOf 0, r.oid = none :=
  copy_faithful_iff (valid_snmpTemplate none) fun _ _ => freeName_snmpTemplate none

theorem registersOf_snmpTemplate (oid : Option String) : (snmpTemplate oid).registersOf 0 =
    [⟨1, 0, "load", 0, 3, .uint16, .bigEndian, .fin false 1, none, none, 0, oid⟩] :=
  List.mergeSort_singleton _

def loadRegister : RegisterDefinitionCreate where
  name := "load"
  address := 0
  dataType := .uint16
  data_type_valid := uint16_known
  byte_order_valid := bigEndian_known
  function_code_valid := holding_valid
  address_nonneg := first_address

theorem recreatable_snmpTemplate (oid : Option String) : Recreatable (snmpTemplate oid) 0 := by
  refine ⟨⟨0, "UPS", .snmp, none, false⟩, [loadRegister], rfl, ?_, List.cons_ne_nil _ _, nofun⟩
  rw [registersOf_snmpTemplate]
  rfl

/-- The copy succeeds, and is not faithful. -/
def TemplateCopy.Loses (copy : TemplateCopy) (db : Database) : Prop :=
  (∃ db', copy.run db 0 "" = .ok db') ∧ ¬ ∃ db', copy.run db 0 "" = .ok db' ∧ FaithfulCopy db 0 db'

theorem loses_snmpTemplate {copy : TemplateCopy} (hname : ∀ t, copy.name t = "UPS 2") :
    copy.Loses (snmpTemplate (some "1.3.6.1")) := by
  have hvalid := valid_snmpTemplate (some "1.3.6.1")
  constructor
  · obtain ⟨db', hrun, -⟩ := @TemplateCopy.run_of_recreatable _ 0 "" hvalid copy
      (fun t _ => hname t ▸ freeName_snmpTemplate _) (recreatable_snmpTemplate _)
    exact ⟨db', hrun⟩
  · rintro ⟨db', hrun, hfaithful⟩
    have hrows := (copy.registers_of_run hvalid.toKeyed hrun).symm.trans hfaithful.registers
    rw [registersOf_snmpTemplate] at hrows
    cases hrows

/-- A register with an OID: both copies succeed, and neither is faithful. -/
theorem copies_lose_oid :
    (TemplateCopy.clone (some "UPS 2")).Loses (snmpTemplate (some "1.3.6.1")) ∧
      (TemplateCopy.reimport "UPS 2").Loses (snmpTemplate (some "1.3.6.1")) :=
  ⟨loses_snmpTemplate fun _ => rfl, loses_snmpTemplate fun _ => rfl⟩

end Copies

end GhostMeter.Services
