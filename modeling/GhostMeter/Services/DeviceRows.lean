import GhostMeter.Integrity
import GhostMeter.Services.DeviceService
import GhostMeter.Services.TemplateService

/-! What the services for devices and templates do to the tables, and that they keep the keys. -/

namespace GhostMeter

open GhostMeter.Lib GhostMeter.Simulation GhostMeter.Protocols

variable {db db' : Database} {device template : UUID}

section Devices

theorem Database.Keyed.updateDevice (h : db.Keyed) {f : DeviceInstance → DeviceInstance}
    (hid : ∀ d, (f d).id = d.id) (htemplate : ∀ d, (f d).templateId = d.templateId)
    (hkey : ∀ d ∈ db.devices, d.id = device → ∀ d' ∈ db.devices, d'.id ≠ device →
      d'.key ≠ (f d).key) : (db.updateDevice device f).Keyed := by
  have hmem : ∀ d ∈ (db.updateDevice device f).devices,
      ∃ d₀ ∈ db.devices, d.id = d₀.id ∧ d.templateId = d₀.templateId := by
    intro d hd
    obtain ⟨d₀, hd₀, rfl⟩ := List.mem_map.1 hd
    refine ⟨d₀, hd₀, Table.key_update hid d₀, ?_⟩
    split
    · exact htemplate d₀
    · rfl
  have hids : (db.updateDevice device f).devices.map (·.id) = db.devices.map (·.id) :=
    Table.map_update hid
  exact { h with
    deviceIds := hids ▸ h.deviceIds
    deviceKeys := Table.nodup_update h.deviceIds h.deviceKeys hkey
    deviceTemplates := fun d hd => by
      obtain ⟨d₀, hd₀, -, ht⟩ := hmem d hd
      exact ht ▸ h.deviceTemplates d₀ hd₀
    deviceFresh := fun d hd => by
      obtain ⟨d₀, hd₀, hid₀, -⟩ := hmem d hd
      exact hid₀ ▸ h.deviceFresh d₀ hd₀ }

theorem Database.Keyed.setStatus (h : db.Keyed) (status : DeviceStatus) :
    (db.setStatus device status).Keyed := by
  refine h.updateDevice (f := fun d => { d with status }) (fun _ => rfl) (fun _ => rfl) ?_
  intro d hd hid d' hd' hne hkey
  obtain rfl : d' = d := List.inj_on_of_nodup_map h.deviceKeys hd' hd hkey
  exact hne hid

theorem Database.Keyed.insertDevice (h : db.Keyed) {row : DeviceInstance}
    (htemplate : (db.findTemplate row.templateId).isSome)
    (hkey : ∀ d ∈ db.devices, d.key ≠ row.key) : (Services.insertDevice db row).Keyed := by
  have hmem : ∀ d ∈ (Services.insertDevice db row).devices,
      d ∈ db.devices ∨ d = { row with id := db.nextId } := by
    intro d hd
    exact (List.mem_append.1 hd).imp_right List.mem_singleton.1
  exact {
    templateIds := h.templateIds
    templateNames := h.templateNames
    deviceIds := Table.nodup_append_new h.deviceIds fun d hd => (h.deviceFresh d hd).ne
    deviceKeys := Table.nodup_append_new h.deviceKeys hkey
    deviceTemplates := fun d hd => by
      rcases hmem d hd with hd | rfl
      · exact h.deviceTemplates d hd
      · obtain ⟨t, ht⟩ := Option.isSome_iff_exists.1 htemplate
        exact ⟨t, Table.mem_of_find ht, Table.key_of_find ht⟩
    templateFresh := fun t ht => (h.templateFresh t ht).trans (Nat.lt_succ_self _)
    deviceFresh := fun d hd => by
      rcases hmem d hd with hd | rfl
      · exact (h.deviceFresh d hd).trans (Nat.lt_succ_self _)
      · exact Nat.lt_succ_self _
    registerFresh := fun r hr => (h.registerFresh r hr).trans (Nat.lt_succ_self _) }

theorem Database.Keyed.deleteRow (h : db.Keyed) : (Services.deleteRow db device).Keyed := by
  have hsub : (Services.deleteRow db device).devices.Sublist db.devices := List.filter_sublist
  exact { h with
    deviceIds := h.deviceIds.sublist (hsub.map _)
    deviceKeys := h.deviceKeys.sublist (hsub.map _)
    deviceTemplates := fun d hd => h.deviceTemplates d (hsub.subset hd)
    deviceFresh := fun d hd => h.deviceFresh d (hsub.subset hd) }

end Devices

section Templates

theorem Database.Keyed.updateTemplate (h : db.Keyed) {data : Services.TemplateUpdate} {e : String}
    (hok : Services.updateTemplate db template data e = .ok db') : db'.Keyed := by
  obtain ⟨t, ht, -, -, hname, -, rfl⟩ := Services.updateTemplate_ok hok
  obtain ⟨hmem, hid⟩ := h.findTemplate_iff.1 ht
  have hrow : ∀ t' ∈ Table.update DeviceTemplate.id db.templates template (fun row =>
      { row with name := data.name, protocol := data.protocol, description := data.description }),
      ∃ t₀ ∈ db.templates, t'.id = t₀.id := by
    intro t' ht'
    obtain ⟨t₀, ht₀, rfl⟩ := List.mem_map.1 ht'
    refine ⟨t₀, ht₀, ?_⟩
    split <;> rfl
  have hids : (Table.update DeviceTemplate.id db.templates template fun row =>
      { row with name := data.name, protocol := data.protocol,
                 description := data.description }).map (·.id) = db.templates.map (·.id) :=
    Table.map_update fun _ => rfl
  constructor
  · exact hids ▸ h.templateIds
  · exact Table.nodup_update h.templateIds h.templateNames
      fun _ _ _ r hr hne heq => hne (hname r hr heq)
  · exact h.deviceIds
  · exact h.deviceKeys
  · intro d hd
    obtain ⟨t₀, ht₀, hid₀⟩ := h.deviceTemplates d hd
    refine ⟨_, List.mem_map.2 ⟨t₀, ht₀, rfl⟩, Eq.trans ?_ hid₀⟩
    split <;> rfl
  · intro t' ht'
    obtain ⟨t₀, ht₀, hid₀⟩ := hrow t' ht'
    exact hid₀ ▸ (h.templateFresh t₀ ht₀).trans_le (Nat.le_add_right _ _)
  · exact fun d hd => (h.deviceFresh d hd).trans_le (Nat.le_add_right _ _)
  · intro r hr
    refine lt_of_lt_of_le ?_ (Nat.le_add_right _ _)
    rcases List.mem_append.1 hr with hr | hr
    · exact h.registerFresh r (List.mem_of_mem_filter hr)
    · rw [Services.registerRows_template hr, ← hid]
      exact h.templateFresh t hmem

theorem Database.Keyed.deleteTemplate (h : db.Keyed)
    (hok : Services.deleteTemplate db template = .ok db') : db'.Keyed := by
  obtain ⟨t, -, -, hunused, rfl⟩ := Services.deleteTemplate_ok hok
  have hsub : (Services.deleteTemplateRow db template).templates.Sublist db.templates :=
    List.filter_sublist
  exact { h with
    templateIds := h.templateIds.sublist (hsub.map _)
    templateNames := h.templateNames.sublist (hsub.map _)
    deviceTemplates := fun d hd => by
      obtain ⟨t, ht, hid⟩ := h.deviceTemplates d hd
      refine ⟨t, List.mem_filter.2 ⟨ht, ?_⟩, hid⟩
      simpa [hid] using hunused d hd
    templateFresh := fun t ht => h.templateFresh t (hsub.subset ht)
    registerFresh := fun r hr => h.registerFresh r (List.mem_of_mem_filter hr) }

end Templates

namespace Services

theorem checkDevice_ok {settings : Settings} {protocol : Protocol} {slave port : ℤ}
    {exclude : Option UUID} (h : checkDevice settings db protocol slave exclude = .ok port) :
    ¬ ∃ d ∈ db.devices, d.slaveId = slave ∧ d.port = port ∧ some d.id ≠ exclude := by
  unfold checkDevice at h
  rw [andThen_ok_iff] at h
  obtain ⟨-, h⟩ := h
  split at h
  next => cases h
  next =>
    rw [andThen_ok_iff, mapError_ok_iff, checkSlaveIdAvailable, raiseIf_ok_iff] at h
    obtain ⟨hno, h⟩ := h
    obtain rfl := Except.ok.inj h
    exact hno

theorem updateDevice_ok {settings : Settings} {data : DeviceUpdate}
    (h : updateDevice settings db device data = .ok db') : ∃ port,
      (¬ ∃ d ∈ db.devices, d.slaveId = data.slaveId ∧ d.port = port ∧ some d.id ≠ some device) ∧
      db' = db.updateDevice device fun d => { d with
        name := data.name, slaveId := data.slaveId, port, description := data.description } := by
  simp only [updateDevice, bind_ok_iff, mapError_ok_iff] at h
  obtain ⟨d, -, -, -, template, -, port, hcheck, h⟩ := h
  exact ⟨port, checkDevice_ok hcheck, (Except.ok.inj h).symm⟩

theorem deleteDevice_ok_iff : deleteDevice db device = .ok db' ↔
    ∃ d, db.findDevice device = some d ∧ d.status ≠ .running ∧ db' = deleteRow db device := by
  rw [deleteDevice, bind_ok_iff, Database.getDeviceOr404]
  simp only [andThen_ok_iff, checkNotRunning, raiseIf_ok_iff]
  cases db.findDevice device with
  | none => simp
  | some d => simp [eq_comm, pure, Except.pure]

/-- What a create stores, if anything: a stopped device. -/
theorem createDevice_cases (settings : Settings) (db : Database) (data : DeviceCreate) :
    (createDevice settings db data).1 = db ∨
    ∃ row : DeviceInstance, row.status = .stopped ∧ (db.findTemplate row.templateId).isSome ∧
      (∀ d ∈ db.devices, d.key ≠ row.key) ∧
      ∃ configs nextId, (insertDevice db row).nextId ≤ nextId ∧
        (createDevice settings db data).1 =
          { insertDevice db row with simulationConfigs := configs, nextId } := by
  unfold createDevice
  cases htemplate : (db.getTemplate data.templateId).mapError RequestError.app with
  | error e => exact Or.inl rfl
  | ok t =>
    simp only []
    cases hcheck : checkDevice settings db t.protocol data.slaveId none with
    | error e => exact Or.inl rfl
    | ok port =>
      simp only []
      split
      · exact Or.inl rfl
      generalize hrow : DeviceInstance.mk db.nextId data.templateId data.name data.slaveId
        .stopped port data.description = row
      refine Or.inr ⟨row, ?_, ?_, ?_, ?_⟩
      · rw [← hrow]
      · rw [mapError_ok_iff, Database.getTemplate_ok_iff] at htemplate
        rw [← hrow, htemplate]
        rfl
      · intro d hd hkey
        rw [← hrow] at hkey
        refine checkDevice_ok hcheck ⟨d, hd, ?_⟩
        exact ⟨congrArg Prod.fst hkey, congrArg Prod.snd hkey, nofun⟩
      · cases resolveProfile (insertDevice db row) data.templateId data.profileId with
        | error e => exact ⟨_, _, le_rfl, rfl⟩
        | ok profile =>
          cases profile with
          | none => exact ⟨_, _, le_rfl, rfl⟩
          | some profile =>
            obtain ⟨rows, -, -, -, hdb⟩ := Database.insertConfigs (insertDevice db row) db.nextId
              profile.configs
            simp only [applyProfileToDevice, hdb]
            split
            next happly =>
              split at happly
              next => cases happly
              next => exact ⟨_, _, le_rfl, rfl⟩
            next db' happly =>
              split at happly
              next =>
                obtain rfl := Except.ok.inj happly
                exact ⟨_, _, Nat.le_add_right _ _, rfl⟩
              next => cases happly

end Services

end GhostMeter
