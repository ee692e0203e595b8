import GhostMeter.Schemas.Anomaly
import GhostMeter.Services.DeviceService
import GhostMeter.Services.ImportConfigs
import GhostMeter.Services.SimulationService

/-! The rules that the services enforce on their tables, and the documents whose import keeps
them. -/

namespace GhostMeter

open GhostMeter.Lib GhostMeter.Simulation GhostMeter.Protocols GhostMeter.Schemas

namespace Services

/-- `RegisterDefinitionCreate`. -/
structure ValidRegister (r : RegisterDefinition) : Prop where
  data_type_valid : ∀ n, r.dataType ≠ .other n
  byte_order_valid : ∀ n, r.byteOrder ≠ .other n
  function_code_valid : r.functionCode = 3 ∨ r.functionCode = 4
  address_nonneg : 0 ≤ r.address

/-- The registers are ones that a create or an update of a template accepts. -/
structure ValidRegisters (protocol : Protocol) (rows : List RegisterDefinition) : Prop where
  not_empty : rows ≠ []
  valid : ∀ r ∈ rows, ValidRegister r
  no_overlap : protocol = .modbusTcp → ∀ a ∈ rows, ∀ b ∈ rows, a.name ≠ b.name →
    a.functionCode = b.functionCode →
      ¬ Window.Overlap (fun r : RegisterDefinition => r.address)
        (fun r => r.address + r.dataType.registerCount) a b

/-- The slave id and the port are ones that a device of the protocol can have. -/
def Suits (settings : Settings) (protocol : Protocol) (slave port : ℤ) : Prop :=
  validateSlaveIdCeiling protocol slave = .ok () ∧ settings.resolvePort protocol = some port

/-- `SimulationConfigCreate`. -/
structure ValidConfig (c : ConfigEntry) : Prop where
  mode_valid : ∀ name, c.dataMode ≠ .other name
  interval_ge : 100 ≤ c.updateIntervalMs
  interval_le : c.updateIntervalMs ≤ 60000

/-- The schedules of a device are ones that `set_schedules` accepts. -/
structure ValidSchedules (schedules : List (ScheduleEntry × Bool)) : Prop where
  valid : ∀ s ∈ schedules, validateSchedule s.1 = .ok ()
  no_overlap : schedules.Pairwise fun a b => a.1.registerName = b.1.registerName →
    ¬ Window.Overlap (fun s : ScheduleEntry × Bool => s.1.triggerAfterSeconds)
      (fun s => s.1.triggerAfterSeconds + s.1.durationSeconds) a b

/-- The rules, on all rows. -/
structure WellFormed (settings : Settings) (db : Database) : Prop where
  templates : ∀ t ∈ db.templates,
    ValidRegisters t.protocol (db.registers.filter (·.templateId = t.id))
  devices : ∀ d ∈ db.devices, ∀ t ∈ db.templates, t.id = d.templateId →
    Suits settings t.protocol d.slaveId d.port
  configs : ∀ c ∈ db.simulationConfigs, ValidConfig c.toConfigEntry
  schedules : ∀ device,
    ValidSchedules ((ofDevice AnomalySchedule.key db.anomalySchedules device).map (·.toEntry))

/-- The protocol that a template name stands for once the templates are imported. -/
def protocolNamed (db : Database) (data : SystemImport) (n : String) : Option Protocol :=
  match lastUser data.templates n with
  | some e => some e.protocol
  | none => (db.templateNamed n).map (·.protocol)

/-- The slave id and port that a device name stands for once the devices are imported: those of
its last listing, or of the first device with the name that is not listed. -/
def keyNamed (db : Database) (data : SystemImport) (n : String) : Option (ℤ × ℤ) :=
  match lastNamed data.devices n with
  | some e => some e.key
  | none =>
    (db.devices.find? fun d => d.name = n ∧ lastListed data.devices d.key = none).map (·.key)

/-- The entries for a device that an import leaves there. -/
def stayingAt {β : Type} (db : Database) (data : SystemImport) (name : β → String)
    (entries : List β) (key : ℤ × ℤ) : List β :=
  remaining name (entries.filter fun b => keyNamed db data (name b) = some key)

/-- A document that follows the rules, as far as it is what counts. -/
structure FollowsRules (settings : Settings) (db : Database) (data : SystemImport) : Prop where
  templates : ∀ e ∈ data.templates, lastUser data.templates e.name = some e →
    ValidRegisters e.protocol (e.registers.map (·.toRow))
  listed : ∀ e ∈ data.devices, lastListed data.devices e.key = some e →
    ∀ protocol, protocolNamed db data e.templateName = some protocol →
      Suits settings protocol e.slaveId e.port
  unlisted : ∀ d ∈ db.devices, lastListed data.devices d.key = none →
    ∀ t ∈ db.templates, t.id = d.templateId → ∀ e, lastUser data.templates t.name = some e →
      Suits settings e.protocol d.slaveId d.port
  configs : ∀ key, ∀ c ∈ stayingAt db data (·.deviceName) data.simulationConfigs key,
    ValidConfig c.toEntry
  schedules : ∀ key,
    ValidSchedules ((stayingAt db data (·.deviceName) data.anomalySchedules key).map (·.toEntry))

section Registers

variable {db₀ : Database} {s s' : ImportState} {t : TemplateExport}

/-- The rules on registers are about what the rows say. -/
theorem ValidRegisters.of_bare {protocol : Protocol} {rows rows' : List RegisterDefinition}
    (hrows : ∀ r, r ∈ rows.map (·.bare) ↔ r ∈ rows'.map (·.bare))
    (h : ValidRegisters protocol rows) : ValidRegisters protocol rows' := by
  have hback : ∀ r' ∈ rows', ∃ r ∈ rows, r.bare = r'.bare := by
    intro r' hr'
    obtain ⟨r, hr, heq⟩ := List.mem_map.1 ((hrows _).2 (List.mem_map_of_mem hr'))
    exact ⟨r, hr, heq⟩
  constructor
  · rintro rfl
    obtain ⟨r, hr⟩ := List.exists_mem_of_ne_nil _ h.not_empty
    exact List.not_mem_nil ((hrows _).1 (List.mem_map_of_mem hr))
  · intro r' hr'
    obtain ⟨r, hr, heq⟩ := hback r' hr'
    obtain ⟨hdata, horder, hcode, haddress⟩ := h.valid r hr
    have hdata' := congrArg RegisterDefinition.dataType heq
    have horder' := congrArg RegisterDefinition.byteOrder heq
    have hcode' := congrArg RegisterDefinition.functionCode heq
    have haddress' := congrArg RegisterDefinition.address heq
    exact ⟨hdata' ▸ hdata, horder' ▸ horder, hcode' ▸ hcode, haddress' ▸ haddress⟩
  · intro hmodbus a' ha' b' hb' hname hcode hoverlap
    obtain ⟨a, ha, hab⟩ := hback a' ha'
    obtain ⟨b, hb, hbb⟩ := hback b' hb'
    have hna := congrArg RegisterDefinition.name hab
    have hnb := congrArg RegisterDefinition.name hbb
    have hca := congrArg RegisterDefinition.functionCode hab
    have hcb := congrArg RegisterDefinition.functionCode hbb
    have haa := congrArg RegisterDefinition.address hab
    have hba := congrArg RegisterDefinition.address hbb
    have hda := congrArg RegisterDefinition.dataType hab
    have hdb := congrArg RegisterDefinition.dataType hbb
    simp only [RegisterDefinition.bare] at hna hnb hca hcb haa hba hda hdb
    refine h.no_overlap hmodbus a ha b hb ?_ ?_ ?_
    · rwa [hna, hnb]
    · rwa [hca, hcb]
    · simpa only [Window.Overlap, haa, hba, hda, hdb] using hoverlap

theorem validRegisters_congr {protocol : Protocol} {rows rows' : List RegisterDefinition}
    (hrows : ∀ r, r ∈ rows.map (·.bare) ↔ r ∈ rows'.map (·.bare)) :
    ValidRegisters protocol rows ↔ ValidRegisters protocol rows' :=
  ⟨.of_bare hrows, .of_bare fun r => (hrows r).symm⟩

theorem mem_bare_iff {db : Database} (h : (db.registers.map (·.key)).Nodup) {template : UUID}
    {r : RegisterDefinition} :
    r ∈ (db.registers.filter (·.templateId = template)).map (·.bare) ↔
      db.storedRegister template r.name = some r := by
  rw [Database.storedRegister, Option.map_eq_some_iff, List.mem_map]
  constructor
  · rintro ⟨x, hx, rfl⟩
    obtain ⟨hmem, hid⟩ := List.mem_filter.1 hx
    rw [decide_eq_true_eq] at hid
    exact ⟨x, (Table.find_eq_some_iff h).2 ⟨hmem, by rw [← hid]; rfl⟩, rfl⟩
  · rintro ⟨x, hx, hbare⟩
    obtain ⟨hmem, hkey⟩ := (Table.find_eq_some_iff h).1 hx
    exact ⟨x, List.mem_filter.2 ⟨hmem, decide_eq_true (congrArg Prod.fst hkey)⟩, hbare⟩

theorem mem_toRow_iff {registers : List RegisterExport} (h : (registers.map (·.name)).Nodup)
    {r : RegisterDefinition} :
    r ∈ (registers.map (·.toRow)).map (·.bare) ↔
      (Table.find RegisterExport.name registers r.name).map (·.toRow) = some r := by
  rw [Option.map_eq_some_iff, List.map_map, List.mem_map]
  constructor
  · rintro ⟨x, hx, rfl⟩
    exact ⟨x, (Table.find_eq_some_iff h).2 ⟨hx, rfl⟩, rfl⟩
  · rintro ⟨x, hx, hrow⟩
    exact ⟨x, Table.mem_of_find hx, hrow⟩

/-- The names of registers stay unique for their template, and those of an accepted listing
are. -/
theorem registerKeys_importTemplate (h : (s.db.registers.map (·.key)).Nodup)
    (hfresh : ∀ r ∈ s.db.registers, r.templateId < s.db.nextId)
    (hs : importTemplate db₀.templateNamed s t = .ok s') :
    (s'.db.registers.map (·.key)).Nodup ∧
      (t.isBuiltin = false → (t.registers.map (·.name)).Nodup) := by
  unfold importTemplate at hs
  cases ht : t.isBuiltin with
  | true =>
    rw [ht] at hs
    obtain rfl := Except.ok.inj hs
    exact ⟨h, nofun⟩
  | false =>
    rw [ht] at hs
    have hmap : (t.registers.map (·.toRow)).map (·.name) = t.registers.map (·.name) := by
      rw [List.map_map]
      rfl
    cases hfound : db₀.templateNamed t.name with
    | some e =>
      simp only [hfound, bind_ok_iff, insertRegisters_ok_iff] at hs
      obtain ⟨db, ⟨hnames, -, rfl⟩, hs⟩ := hs
      obtain rfl := Except.ok.inj hs
      exact ⟨nodup_replaceRegisters h hnames, fun _ => hmap ▸ hnames⟩
    | none =>
      simp only [hfound, andThen_ok_iff] at hs
      obtain ⟨-, hs⟩ := hs
      simp only [bind_ok_iff, insertRegisters_ok_iff] at hs
      obtain ⟨db, ⟨hnames, -, rfl⟩, hs⟩ := hs
      obtain rfl := Except.ok.inj hs
      have hregs : s.db.registers.filter (fun r => r.templateId ≠ s.db.nextId) = s.db.registers :=
        List.filter_eq_self.2 fun r hr => by simpa using (hfresh r hr).ne
      have hnodup := @nodup_replaceRegisters s.db.nextId (s.db.nextId + 1) _ _ h hnames
      rw [hregs] at hnodup
      exact ⟨hnodup, fun _ => hmap ▸ hnames⟩

end Registers

namespace Imported

variable {settings : Settings} {db db' : Database} {data : SystemImport}
  {s₁ s₂ s₃ s₄ : ImportState} (himport : Imported db data db' s₁ s₂ s₃ s₄)

include himport

theorem registerKeys (h : db.Valid) : (db'.registers.map (·.key)).Nodup ∧
    ∀ e ∈ data.templates, e.isBuiltin = false → (e.registers.map (·.name)).Nodup := by
  obtain ⟨s, hs, rfl⟩ := himport.listings
  have hfold := foldlM_invariant (P := fun done s => TemplatesDone db done s ∧
      (s.db.registers.map (·.key)).Nodup ∧
        ∀ e ∈ done, e.isBuiltin = false → (e.registers.map (·.name)).Nodup)
    (fun done e s s' hP hf => by
      obtain ⟨hdone, hkeys, hnames⟩ := hP
      obtain ⟨hkeys', hname⟩ := registerKeys_importTemplate hkeys hdone.keyed.registerFresh hf
      refine ⟨hdone.step hf, hkeys', fun x hx => ?_⟩
      rcases List.mem_append.1 hx with hx | hx
      · exact hnames x hx
      · rw [List.mem_singleton.1 hx]
        exact hname)
    ⟨templatesDone_nil h.toKeyed, h.registerNames, by simp⟩ hs
  refine ⟨?_, hfold.2.2⟩
  rw [himport.registers_eq]
  exact hfold.2.1

/-- The templates after an import, by their names. -/
theorem template_after {t' : DeviceTemplate} (ht' : t' ∈ db'.templates) :
    protocolNamed db data t'.name = some t'.protocol := by
  have hbare := himport.templates.named t'.name
  rw [← himport.templateNamed_eq, himport.keyed.templateNamed_iff.2 ⟨ht', rfl⟩] at hbare
  rw [protocolNamed]
  cases hlast : lastUser data.templates t'.name with
  | some e =>
    rw [hlast] at hbare
    exact (congrArg (Option.map DeviceTemplate.protocol) hbare).symm
  | none =>
    rw [hlast] at hbare
    have hmap := congrArg (Option.map DeviceTemplate.protocol) hbare
    rw [Option.map_some, templateAfter, Option.map_map] at hmap
    exact hmap.symm

theorem template_listed {e : TemplateExport} {n : String}
    (he : lastUser data.templates n = some e) : ∃ t' ∈ db'.templates, t'.name = n := by
  have hbare := himport.templates.named n
  rw [← himport.templateNamed_eq, he, templateAfter] at hbare
  obtain ⟨t', ht', -⟩ := Option.map_eq_some_iff.1 hbare
  exact ⟨t', Table.mem_of_find ht', Table.key_of_find ht'⟩

/-- The registers of a template after an import, as rows without ids. -/
theorem mem_registers_listed (h : db.Valid) {e : TemplateExport} {t' : DeviceTemplate}
    (ht' : t' ∈ db'.templates) (he : lastUser data.templates t'.name = some e)
    (r : RegisterDefinition) :
    r ∈ (db'.registers.filter (·.templateId = t'.id)).map (·.bare) ↔
      r ∈ (e.registers.map (·.toRow)).map (·.bare) := by
  obtain ⟨hkeys, hnames⟩ := himport.registerKeys h
  obtain ⟨hmem, -, hbuiltin⟩ := mem_of_lastUser he
  have hnamed := himport.keyed.templateNamed_iff.2 ⟨ht', rfl⟩
  rw [himport.templateNamed_eq] at hnamed
  have hregisters := himport.templates.registers _ _ r.name hnamed
  rw [he] at hregisters
  rw [mem_bare_iff hkeys, mem_toRow_iff (hnames e hmem hbuiltin), Database.storedRegister,
    himport.registerNamed_eq]
  exact hregisters ▸ Iff.rfl

theorem templates_iff (h : db.Valid) (hold : ∀ t ∈ db.templates,
      ValidRegisters t.protocol (db.registers.filter (·.templateId = t.id))) :
    (∀ t ∈ db'.templates,
        ValidRegisters t.protocol (db'.registers.filter (·.templateId = t.id))) ↔
      ∀ e ∈ data.templates, lastUser data.templates e.name = some e →
        ValidRegisters e.protocol (e.registers.map (·.toRow)) := by
  constructor
  · intro hnew e _ he
    obtain ⟨t', ht', hname⟩ := himport.template_listed he
    rw [← hname] at he
    have hprotocol := himport.template_after ht'
    rw [protocolNamed, he] at hprotocol
    rw [Option.some.inj hprotocol]
    exact (validRegisters_congr (himport.mem_registers_listed h ht' he)).1 (hnew t' ht')
  · intro hlisted t' ht'
    cases he : lastUser data.templates t'.name with
    | some e =>
      obtain ⟨hmem, hname, -⟩ := mem_of_lastUser he
      have hprotocol := himport.template_after ht'
      rw [protocolNamed, he] at hprotocol
      rw [← Option.some.inj hprotocol, validRegisters_congr (himport.mem_registers_listed h ht' he)]
      exact hlisted e hmem (hname.symm ▸ he)
    | none =>
      -- the template was there, with these registers
      have hprotocol := himport.template_after ht'
      rw [protocolNamed, he] at hprotocol
      obtain ⟨t, ht, hsame⟩ := Option.map_eq_some_iff.1 hprotocol
      have hafter := (himport.afterImport ht
        (himport.keyed.templateNamed_iff.2 ⟨ht', rfl⟩)).1
      have hname : t.name = t'.name := Table.key_of_find ht
      rw [← hsame, validRegisters_congr]
      · exact hold t (Table.mem_of_find ht)
      · intro r
        have hregister := hafter.registers r.name
        rw [hname, he] at hregister
        rw [mem_bare_iff (himport.registerKeys h).1, mem_bare_iff h.registerNames, hafter.id,
          hregister]

/-- A device after an import that the document does not list. -/
theorem device_unlisted (h : db.Keyed) {d : DeviceInstance}
    (hun : lastListed data.devices d.key = none) : d ∈ db'.devices ↔ d ∈ db.devices := by
  have hsame := himport.devices.unlisted d.key hun
  rw [himport.deviceAt_before, ← himport.deviceAt_eq] at hsame
  constructor
  · intro hd
    rw [himport.keyed.deviceAt_iff.2 ⟨hd, rfl⟩] at hsame
    exact Table.mem_of_find hsame.symm
  · intro hd
    rw [h.deviceAt_iff.2 ⟨hd, rfl⟩] at hsame
    exact Table.mem_of_find hsame

/-- A device after an import, under the key of a listing. -/
theorem device_listed {e : DeviceExport} (he : lastListed data.devices e.key = some e)
    {d : DeviceInstance} (hd : d ∈ db'.devices) (hkey : d.key = e.key) :
    ∃ t ∈ db'.templates, t.id = d.templateId ∧ t.name = e.templateName := by
  obtain ⟨d', hd', hlisted⟩ := himport.devices.listed _ _ he
  rw [← himport.deviceAt_eq, himport.keyed.deviceAt_iff.2 ⟨hd, hkey⟩] at hd'
  obtain rfl := Option.some.inj hd'
  have hmapped := himport.templates.mapped e.templateName
  rw [hlisted.template, ← himport.templateNamed_eq] at hmapped
  obtain ⟨t, ht, hid⟩ := Option.map_eq_some_iff.1 hmapped.symm
  exact ⟨t, Table.mem_of_find ht, hid, Table.key_of_find ht⟩

/-- The template of a device, before and after an import. -/
theorem template_kept (h : db.Keyed) {t t' : DeviceTemplate} (ht : t ∈ db.templates)
    (ht' : t' ∈ db'.templates) (hid : t'.id = t.id) : t'.name = t.name := by
  obtain ⟨t₁, ht₁, hid₁⟩ := himport.templates.kept _ _ (h.templateNamed_iff.2 ⟨ht, rfl⟩)
  rw [← himport.templateNamed_eq] at ht₁
  obtain ⟨hmem, hname⟩ := himport.keyed.templateNamed_iff.1 ht₁
  rw [himport.keyed.template_ext ht' hmem (hid.trans hid₁.symm), hname]

theorem devices_iff (h : db.Keyed) (hold : ∀ d ∈ db.devices, ∀ t ∈ db.templates,
      t.id = d.templateId → Suits settings t.protocol d.slaveId d.port) :
    (∀ d ∈ db'.devices, ∀ t ∈ db'.templates, t.id = d.templateId →
        Suits settings t.protocol d.slaveId d.port) ↔
      (∀ e ∈ data.devices, lastListed data.devices e.key = some e →
        ∀ protocol, protocolNamed db data e.templateName = some protocol →
          Suits settings protocol e.slaveId e.port) ∧
      ∀ d ∈ db.devices, lastListed data.devices d.key = none →
        ∀ t ∈ db.templates, t.id = d.templateId → ∀ e, lastUser data.templates t.name = some e →
          Suits settings e.protocol d.slaveId d.port := by
  constructor
  · intro hnew
    constructor
    · intro e _ he protocol hprotocol
      obtain ⟨d, hd, -⟩ := himport.devices.listed _ _ he
      rw [← himport.deviceAt_eq] at hd
      obtain ⟨hmem, hkey⟩ := himport.keyed.deviceAt_iff.1 hd
      obtain ⟨t, ht, hid, hname⟩ := himport.device_listed he hmem hkey
      have hsuits := hnew d hmem t ht hid
      have hafter := himport.template_after ht
      rw [hname, hprotocol] at hafter
      rw [Option.some.inj hafter]
      have hslave : d.slaveId = e.slaveId := congrArg Prod.fst hkey
      have hport : d.port = e.port := congrArg Prod.snd hkey
      rwa [hslave, hport] at hsuits
    · intro d hd hun t ht hid e he
      obtain ⟨t', ht', hname⟩ := himport.template_listed he
      obtain ⟨t₁, ht₁, hid₁⟩ := himport.templates.kept _ _ (h.templateNamed_iff.2 ⟨ht, rfl⟩)
      rw [← himport.templateNamed_eq, himport.keyed.templateNamed_iff.2 ⟨ht', hname⟩] at ht₁
      obtain rfl := Option.some.inj ht₁
      have hafter := himport.template_after ht'
      rw [hname, protocolNamed, he] at hafter
      rw [Option.some.inj hafter]
      exact hnew d ((himport.device_unlisted h hun).2 hd) t' ht' (hid₁.trans hid)
  · rintro ⟨hlisted, hunlisted⟩ d hd t' ht' hid
    have hafter := himport.template_after ht'
    cases he : lastListed data.devices d.key with
    | some e =>
      have hkey : e.key = d.key := Table.key_of_find he
      rw [← hkey] at he
      obtain ⟨t, ht, hid', hname⟩ := himport.device_listed he hd hkey.symm
      rw [himport.keyed.template_ext ht' ht (hid.trans hid'.symm), hname] at hafter
      have hmem : e ∈ data.devices := List.mem_reverse.1 (Table.mem_of_find he)
      have hsuits := hlisted e hmem he _ hafter
      have hslave : e.slaveId = d.slaveId := congrArg Prod.fst hkey
      have hport : e.port = d.port := congrArg Prod.snd hkey
      rw [hslave, hport] at hsuits
      rwa [himport.keyed.template_ext ht' ht (hid.trans hid'.symm)]
    | none =>
      have hd₀ := (himport.device_unlisted h he).1 hd
      obtain ⟨t, ht, hid₀⟩ := h.deviceTemplates d hd₀
      have hname := himport.template_kept h ht ht' (hid.trans hid₀.symm)
      rw [hname, protocolNamed] at hafter
      cases hlast : lastUser data.templates t.name with
      | some e =>
        rw [hlast] at hafter
        rw [← Option.some.inj hafter]
        exact hunlisted d hd₀ he t ht hid₀ e hlast
      | none =>
        rw [hlast, h.templateNamed_iff.2 ⟨ht, rfl⟩] at hafter
        rw [← Option.some.inj hafter]
        exact hold d hd₀ t ht hid₀

/-- The device that a name stands for, by its key. -/
theorem keyNamed_iff (h : db.Keyed) {d : DeviceInstance} (hd : d ∈ s₂.db.devices) (n : String) :
    (mapOtherDevices db.devices s₂).deviceNameToId n = some d.id ↔
      keyNamed db data n = some d.key := by
  have hext : ∀ d' ∈ s₂.db.devices, d'.id = d.id ↔ d'.key = d.key := by
    intro d' hd'
    constructor
    · intro hid
      rw [himport.devices.keyed.device_ext hd' hd hid]
    · intro hkey
      rw [List.inj_on_of_nodup_map himport.devices.keyed.deviceKeys hd' hd hkey]
  rw [keyNamed]
  cases hlast : lastNamed data.devices n with
  | some e =>
    obtain ⟨d', hd'⟩ := himport.devices.found (List.mem_reverse.1 (Table.mem_of_find hlast))
    obtain ⟨hmem, hkey⟩ := himport.devices.keyed.deviceAt_iff.1 hd'
    have hid : s₂.deviceNameToId n = some d'.id := by
      rw [himport.devices.ids, hlast, Option.bind_some, hd']
      rfl
    rw [mapOtherDevices_of_some hid, Option.some_inj, hext d' hmem, hkey, Option.some_inj]
  | none =>
    have hnone : s₂.deviceNameToId n = none := by
      rw [himport.devices.ids, hlast]
      rfl
    -- a device that has the name now is not listed
    have hsame : ((db.devices.filterMap fun e => s₂.db.findDevice e.id).find? (·.name = n)) =
        db.devices.find? fun e => e.name = n ∧ lastListed data.devices e.key = none := by
      have hbefore : ∀ e ∈ db.devices, s₁.db.deviceAt e.key = some e := fun e he => by
        rw [himport.deviceAt_before]
        exact h.deviceAt_iff.2 ⟨he, rfl⟩
      apply Table.find?_filterMap_self
      · intro e he hq
        obtain ⟨hname, hun⟩ := of_decide_eq_true hq
        refine ⟨?_, decide_eq_true hname⟩
        have hcur := (himport.devices.unlisted e.key hun).trans (hbefore e he)
        exact himport.devices.keyed.findDevice_iff.2 ⟨Table.mem_of_find hcur, rfl⟩
      · intro e he hq d' hd' hname
        rw [decide_eq_true_eq] at hq hname
        cases hl : lastListed data.devices e.key with
        | none =>
          have hcur := (himport.devices.unlisted e.key hl).trans (hbefore e he)
          rw [himport.devices.keyed.findDevice_iff.2 ⟨Table.mem_of_find hcur, rfl⟩] at hd'
          rw [← Option.some.inj hd'] at hname
          exact hq ⟨hname, hl⟩
        | some l =>
          obtain ⟨d'', hd'', hlisted⟩ := himport.devices.listed _ _ hl
          have hkey : l.key = e.key := Table.key_of_find hl
          have hid := hlisted.id
          rw [hkey, hbefore e he] at hid
          have hfound := himport.devices.keyed.findDevice_iff.2 ⟨Table.mem_of_find hd'', hid⟩
          obtain rfl := Option.some.inj (hd'.symm.trans hfound)
          exact Table.find_eq_none_iff.1 hlast l (Table.mem_of_find hl)
            (hlisted.name.symm.trans hname)
    rw [mapOtherDevices_find hnone, hsame]
    cases hfind : db.devices.find? fun e => e.name = n ∧ lastListed data.devices e.key = none with
    | none => simp
    | some e =>
      have hun : e.name = n ∧ lastListed data.devices e.key = none := by
        simpa using List.find?_some hfind
      have hmem : e ∈ s₂.db.devices := by
        rw [← himport.devices_eq]
        exact (himport.device_unlisted h hun.2).2 (List.mem_of_find?_eq_some hfind)
      rw [Option.map_some, Option.map_some, Option.some_inj, Option.some_inj]
      exact hext e hmem

theorem device_of_name (h : db.Keyed) {n : String} {key : ℤ × ℤ}
    (hkey : keyNamed db data n = some key) : ∃ d ∈ s₂.db.devices, d.key = key := by
  rw [keyNamed] at hkey
  cases hlast : lastNamed data.devices n with
  | some e =>
    rw [hlast] at hkey
    obtain ⟨d, hd⟩ := himport.devices.found (List.mem_reverse.1 (Table.mem_of_find hlast))
    obtain ⟨hmem, hat⟩ := himport.devices.keyed.deviceAt_iff.1 hd
    exact ⟨d, hmem, hat.trans (Option.some.inj hkey)⟩
  | none =>
    rw [hlast] at hkey
    obtain ⟨e, hfind, hat⟩ := Option.map_eq_some_iff.1 hkey
    have hun : e.name = n ∧ lastListed data.devices e.key = none := by
      simpa using List.find?_some hfind
    refine ⟨e, ?_, hat⟩
    rw [← himport.devices_eq]
    exact (himport.device_unlisted h hun.2).2 (List.mem_of_find?_eq_some hfind)

theorem name_of_id {n : String} {i : UUID}
    (hi : (mapOtherDevices db.devices s₂).deviceNameToId n = some i) :
    ∃ d ∈ s₂.db.devices, d.id = i := by
  cases hlast : s₂.deviceNameToId n with
  | some j =>
    rw [mapOtherDevices_of_some hlast] at hi
    rw [himport.devices.ids, Option.bind_eq_some_iff] at hlast
    obtain ⟨e, -, hd⟩ := hlast
    obtain ⟨d, hd, hid⟩ := Option.map_eq_some_iff.1 hd
    exact ⟨d, Table.mem_of_find hd, hid.trans (Option.some.inj hi)⟩
  | none =>
    obtain ⟨d, hd, hid, -⟩ := mapOtherDevices_of_none hlast hi
    exact ⟨d, hd, hid⟩

/-- A rule on the rows of each device holds after the rows of a table are imported when it holds
of the entries that stay. -/
theorem forall_device_iff {α β γ ι : Type} {key : α → UUID × ι} {content : α → γ}
    {name : β → String} {entry : β → γ} {old rows : List α} {entries : List β}
    {cleared : List String} (h : db.Keyed)
    (hrows : RowsDone key content name entry (mapOtherDevices db.devices s₂).deviceNameToId old
      entries rows cleared)
    {Q : List γ → Prop} (hnil : Q []) (hold : ∀ device, Q ((ofDevice key old device).map content)) :
    (∀ device, Q ((ofDevice key rows device).map content)) ↔
      ∀ k, Q ((stayingAt db data name entries k).map entry) := by
  have hentries : ∀ d ∈ s₂.db.devices,
      entriesFor name (mapOtherDevices db.devices s₂).deviceNameToId entries d.id =
        entries.filter fun b => keyNamed db data (name b) = some d.key := by
    intro d hd
    refine List.filter_congr fun b _ => ?_
    rw [decide_eq_decide]
    exact himport.keyNamed_iff h hd (name b)
  constructor
  · intro hnew k
    rw [stayingAt]
    by_cases hempty : (entries.filter fun b => keyNamed db data (name b) = some k) = []
    · rw [hempty]
      exact hnil
    · obtain ⟨b, hb⟩ := List.exists_mem_of_ne_nil _ hempty
      have hkey := List.of_mem_filter hb
      rw [decide_eq_true_eq] at hkey
      obtain ⟨d, hd, rfl⟩ := himport.device_of_name h hkey
      rw [← hentries d hd, ← hrows.replaced d.id (hentries d hd ▸ hempty)]
      exact hnew d.id
  · intro hstay device
    by_cases hempty :
        entriesFor name (mapOtherDevices db.devices s₂).deviceNameToId entries device = []
    · rw [hrows.kept device hempty]
      exact hold device
    · obtain ⟨b, hb⟩ := List.exists_mem_of_ne_nil _ hempty
      have hid := List.of_mem_filter hb
      rw [decide_eq_true_eq] at hid
      obtain ⟨d, hd, rfl⟩ := himport.name_of_id hid
      rw [hrows.replaced d.id hempty, hentries d hd]
      exact hstay d.key

end Imported

theorem wellFormed_importSystem_iff (settings : Settings) {db db' : Database}
    {data : SystemImport} {r : ImportResult} (h : db.Valid) (hwf : WellFormed settings db)
    (himport : importSystem db data = .ok (db', r)) :
    WellFormed settings db' ↔ FollowsRules settings db data := by
  obtain ⟨s₁, s₂, s₃, s₄, himp⟩ := imported_of_importSystem h.toKeyed himport
  have htemplates := himp.templates_iff h hwf.templates
  have hdevices := @Imported.devices_iff settings _ _ _ _ _ _ _ himp h.toKeyed hwf.devices
  have hschedules := himp.forall_device_iff h.toKeyed himp.scheduleRows
    (Q := ValidSchedules) ⟨by simp, List.Pairwise.nil⟩ hwf.schedules
  have hconfig : ∀ rows : List SimulationConfig, (∀ c ∈ rows, ValidConfig c.toConfigEntry) ↔
      ∀ device, ∀ c ∈ (ofDevice SimulationConfig.key rows device).map (·.toConfigEntry),
        ValidConfig c := by
    intro rows
    constructor
    · intro hrows device c hc
      obtain ⟨row, hrow, rfl⟩ := List.mem_map.1 hc
      exact hrows row (List.mem_of_mem_filter hrow)
    · intro hdevice c hc
      exact hdevice c.deviceId _ (List.mem_map_of_mem (List.mem_filter.2 ⟨hc, decide_eq_true rfl⟩))
  have hconfigs := himp.forall_device_iff h.toKeyed himp.configRows
    (Q := fun l => ∀ c ∈ l, ValidConfig c) (by simp) ((hconfig _).1 hwf.configs)
  rw [← hconfig] at hconfigs
  simp only [List.forall_mem_map] at hconfigs
  constructor
  · intro hnew
    have hkept := hdevices.1 hnew.devices
    exact ⟨htemplates.1 hnew.templates, hkept.1, hkept.2, hconfigs.1 hnew.configs,
      hschedules.1 hnew.schedules⟩
  · intro hdata
    exact ⟨htemplates.2 hdata.templates, hdevices.2 ⟨hdata.listed, hdata.unlisted⟩,
      hconfigs.2 hdata.configs, hschedules.2 hdata.schedules⟩

/-- A device with one register. -/
def ruledDatabase : Database where
  templates := [⟨0, "Meter", .modbusTcp, none, false⟩]
  registers := [⟨1, 0, "voltage", 0, 3, .uint16, .bigEndian, .fin false 1, none, none, 0, none⟩]
  devices := [⟨2, 0, "M1", 1, .stopped, 502, none⟩]
  nextId := 3

theorem valid_ruledDatabase : ruledDatabase.Valid := by
  constructor <;> first | decide | (constructor <;> decide)

theorem wellFormed_ruledDatabase : WellFormed {} ruledDatabase where
  templates t ht := by
    obtain rfl := List.mem_singleton.1 ht
    constructor
    · nofun
    · intro r hr
      obtain rfl := List.mem_singleton.1 (List.mem_of_mem_filter hr)
      exact ⟨nofun, nofun, Or.inl rfl, le_rfl⟩
    · intro _ a ha b hb hname
      obtain rfl := List.mem_singleton.1 (List.mem_of_mem_filter ha)
      obtain rfl := List.mem_singleton.1 (List.mem_of_mem_filter hb)
      exact absurd rfl hname
  devices d hd t ht _ := by
    obtain rfl := List.mem_singleton.1 hd
    obtain rfl := List.mem_singleton.1 ht
    exact ⟨rfl, rfl⟩
  configs := nofun
  schedules _ := ⟨nofun, List.Pairwise.nil⟩

/-- The device, with a static config of the interval. -/
def intervalDocument (updateIntervalMs : ℤ) : SystemImport where
  version := "1.0"
  devices := [{ name := "M1", templateName := "Meter", slaveId := 1 }]
  simulationConfigs := [{
    deviceName := "M1", registerName := "voltage", dataMode := .static, updateIntervalMs }]
  version_valid := rfl

theorem wellFormed_importSystem_second :
    ∃ db' r, importSystem ruledDatabase (intervalDocument 1000) = .ok (db', r) ∧
      (WellFormed {} db' ↔ FollowsRules {} ruledDatabase (intervalDocument 1000)) :=
  ⟨_, _, rfl, wellFormed_importSystem_iff {} valid_ruledDatabase wellFormed_ruledDatabase rfl⟩

/-- The import stores an interval that the schema of the configs does not accept. -/
theorem import_breaks_interval : ruledDatabase.Valid ∧ WellFormed {} ruledDatabase ∧
    ∃ db' r, importSystem ruledDatabase (intervalDocument 0) = .ok (db', r) ∧
      ¬ WellFormed {} db' := by
  refine ⟨valid_ruledDatabase, wellFormed_ruledDatabase, _, _, rfl, fun h => ?_⟩
  have hconfig := (h.configs _ (List.mem_singleton.2 rfl)).interval_ge
  exact absurd hconfig (by decide)

end Services

end GhostMeter
