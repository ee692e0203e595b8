import GhostMeter.Services.Builtins
import GhostMeter.Services.DeviceCreation
import GhostMeter.Services.ImportPublishing

/-! The constraints on all tables, under the calls that write templates, profiles and scenarios,
and under an import. -/

namespace GhostMeter

open GhostMeter.Lib GhostMeter.Simulation GhostMeter.Protocols GhostMeter.Schemas

/-- The primary keys of the rows that belong to others, all before the next id. -/
structure RowIds (registers : List RegisterDefinition) (configs : List SimulationConfig)
    (schedules : List AnomalySchedule) (publishConfigs : List MqttPublishConfig)
    (scenarios : List Scenario) (next : UUID) : Prop where
  registers : Table.Allotted RegisterDefinition.id registers next
  configs : Table.Allotted SimulationConfig.id configs next
  schedules : Table.Allotted AnomalySchedule.id schedules next
  publishConfigs : Table.Allotted MqttPublishConfig.id publishConfigs next
  steps : Table.Allotted ScenarioStep.id (scenarios.flatMap (·.steps)) next

theorem RowIds.mono {registers : List RegisterDefinition} {configs : List SimulationConfig}
    {schedules : List AnomalySchedule} {publishConfigs : List MqttPublishConfig}
    {scenarios : List Scenario} {next next' : UUID}
    (h : RowIds registers configs schedules publishConfigs scenarios next) (hnext : next ≤ next') :
    RowIds registers configs schedules publishConfigs scenarios next' :=
  ⟨h.registers.mono hnext, h.configs.mono hnext, h.schedules.mono hnext,
    h.publishConfigs.mono hnext, h.steps.mono hnext⟩

/-- The constraints on all tables, with all ids below the next one. -/
structure Database.Consistent (db : Database) : Prop extends db.Profiled where
  rowIds : RowIds db.registers db.simulationConfigs db.anomalySchedules db.mqttPublishConfigs
    db.scenarios db.nextId
  brokerFresh : ∀ b ∈ db.mqttBrokers, b.id < db.nextId
  profileFresh : ∀ p ∈ db.simulationProfiles, p.id < db.nextId
  profileTemplates : ∀ p ∈ db.simulationProfiles, ∃ t ∈ db.templates, t.id = p.templateId
  profileNames : (db.simulationProfiles.map fun p => (p.templateId, p.name)).Nodup
  scenarioIds : (db.scenarios.map (·.id)).Nodup
  scenarioFresh : ∀ s ∈ db.scenarios, s.id < db.nextId
  scenarioTemplates : ∀ s ∈ db.scenarios, ∃ t ∈ db.templates, t.id = s.templateId
  scenarioNames : (db.scenarios.map fun s => (s.templateId, s.name)).Nodup

/-- The registers of a template come after the others. -/
theorem allotted_registerRows {rows registers : List RegisterDefinition}
    {next first template : UUID}
    (h : Table.Allotted RegisterDefinition.id rows next) (hfirst : next ≤ first) :
    Table.Allotted RegisterDefinition.id (rows ++ Services.registerRows template first registers)
      (first + registers.length) := by
  have hallotted := h.append_range' (@Services.ids_registerRows template first registers) hfirst
  rwa [Services.length_registerRows] at hallotted

namespace Database.Consistent

variable {db db' : Database} (h : db.Consistent)

include h

theorem identified : db.Identified := { h with }

theorem mqttKeyed : db.MqttKeyed := { h with }

/-- A write to the profiles that the checks of its commit pass. -/
theorem of_profiles {profiles : List SimulationProfile} {next : UUID} (hnext : db.nextId ≤ next)
    (hidentified : ({ db with simulationProfiles := profiles, nextId := next } :
      Database).Identified)
    (htemplates : ∀ p ∈ profiles, (∃ p₀ ∈ db.simulationProfiles, p₀.templateId = p.templateId) ∨
      ∃ t ∈ db.templates, t.id = p.templateId)
    (hnames : (profiles.map fun p => (p.templateId, p.name)).Nodup)
    (hdefaults : ((profiles.filter (·.isDefault)).map (·.templateId)).Nodup) :
    ({ db with simulationProfiles := profiles, nextId := next } : Database).Consistent :=
  { h with
    toKeyed := hidentified.toKeyed
    rowIds := h.rowIds.mono hnext
    brokerFresh := fun b hb => (h.brokerFresh b hb).trans_le hnext
    profileIds := hidentified.profileIds
    profileFresh := hidentified.profileFresh
    profileTemplates := fun p hp => by
      rcases htemplates p hp with ⟨p₀, hp₀, hid⟩ | ht
      · exact hid ▸ h.profileTemplates p₀ hp₀
      · exact ht
    profileNames := hnames
    profileDefaults := hdefaults
    scenarioFresh := hidentified.scenarioFresh }

/-- The registers of a template are replaced, and the templates keep their ids. -/
theorem of_registers {templates : List DeviceTemplate} {registers : List RegisterDefinition}
    {template first : UUID} (hfirst : db.nextId ≤ first)
    (hkeyed : ({ db with
      templates
      registers := db.registers.filter (·.templateId ≠ template) ++
        Services.registerRows template first registers
      nextId := first + registers.length } : Database).Keyed)
    (hkept : ∀ t ∈ db.templates, ∃ t' ∈ templates, t'.id = t.id)
    (htemplate : ∃ t ∈ templates, t.id = template)
    (hnames : (registers.map (·.name)).Nodup)
    (haddresses : (registers.map fun r => (r.address, r.functionCode)).Nodup) :
    ({ db with
      templates
      registers := db.registers.filter (·.templateId ≠ template) ++
        Services.registerRows template first registers
      nextId := first + registers.length } : Database).Consistent := by
  have hnext : db.nextId ≤ first + registers.length := hfirst.trans (Nat.le_add_right _ _)
  have hold : ∀ {i : UUID}, (∃ t ∈ db.templates, t.id = i) → ∃ t ∈ templates, t.id = i := by
    rintro i ⟨t, ht, rfl⟩
    exact hkept t ht
  exact { h with
    toKeyed := hkeyed
    registerNames := Services.nodup_replaceRegisters h.registerNames hnames
    registerAddresses :=
      Services.nodup_putRegisters (fun _ _ => rfl) h.registerAddresses haddresses
    registerTemplates := fun r hr => by
      rcases List.mem_append.1 hr with hr | hr
      · exact hold (h.registerTemplates r (List.mem_of_mem_filter hr))
      · rw [Services.registerRows_template hr]
        exact htemplate
    rowIds := { h.rowIds.mono hnext with
      registers := allotted_registerRows (h.rowIds.registers.sublist List.filter_sublist) hfirst }
    brokerFresh := fun b hb => (h.brokerFresh b hb).trans_le hnext
    profileFresh := fun p hp => (h.profileFresh p hp).trans_le hnext
    profileTemplates := fun p hp => hold (h.profileTemplates p hp)
    scenarioFresh := fun s hs => (h.scenarioFresh s hs).trans_le hnext
    scenarioTemplates := fun s hs => hold (h.scenarioTemplates s hs) }

/-- Devices come, and those that are there keep their ids. -/
theorem of_devices {devices : List DeviceInstance} {next : UUID} (hnext : db.nextId ≤ next)
    (hkeyed : ({ db with devices, nextId := next } : Database).Keyed)
    (hkept : ∀ d ∈ db.devices, ∃ d' ∈ devices, d'.id = d.id) :
    ({ db with devices, nextId := next } : Database).Consistent := by
  have hold : ∀ {i : UUID}, (∃ d ∈ db.devices, d.id = i) → ∃ d ∈ devices, d.id = i := by
    rintro i ⟨d, hd, rfl⟩
    exact hkept d hd
  exact { h with
    toKeyed := hkeyed
    configDevices := fun c hc => hold (h.configDevices c hc)
    scheduleDevices := fun s hs => hold (h.scheduleDevices s hs)
    publishDevices := fun m hm => hold (h.publishDevices m hm)
    rowIds := h.rowIds.mono hnext
    brokerFresh := fun b hb => (h.brokerFresh b hb).trans_le hnext
    profileFresh := fun p hp => (h.profileFresh p hp).trans_le hnext
    scenarioFresh := fun s hs => (h.scenarioFresh s hs).trans_le hnext }

theorem of_configs {configs : List SimulationConfig} {next : UUID} (hnext : db.nextId ≤ next)
    (hids : Table.Allotted SimulationConfig.id configs next)
    (hkeys : (configs.map (·.key)).Nodup)
    (hdevices : ∀ c ∈ configs, ∃ d ∈ db.devices, d.id = c.deviceId) :
    ({ db with simulationConfigs := configs, nextId := next } : Database).Consistent :=
  { h with
    toKeyed := h.toKeyed.of_same rfl rfl rfl hnext
    configKeys := hkeys
    configDevices := hdevices
    rowIds := { h.rowIds.mono hnext with configs := hids }
    brokerFresh := fun b hb => (h.brokerFresh b hb).trans_le hnext
    profileFresh := fun p hp => (h.profileFresh p hp).trans_le hnext
    scenarioFresh := fun s hs => (h.scenarioFresh s hs).trans_le hnext }

theorem of_schedules {schedules : List AnomalySchedule} {next : UUID} (hnext : db.nextId ≤ next)
    (hids : Table.Allotted AnomalySchedule.id schedules next)
    (hkeys : (schedules.map (·.key)).Nodup)
    (hdevices : ∀ s ∈ schedules, ∃ d ∈ db.devices, d.id = s.deviceId) :
    ({ db with anomalySchedules := schedules, nextId := next } : Database).Consistent :=
  { h with
    toKeyed := h.toKeyed.of_same rfl rfl rfl hnext
    scheduleKeys := hkeys
    scheduleDevices := hdevices
    rowIds := { h.rowIds.mono hnext with schedules := hids }
    brokerFresh := fun b hb => (h.brokerFresh b hb).trans_le hnext
    profileFresh := fun p hp => (h.profileFresh p hp).trans_le hnext
    scenarioFresh := fun s hs => (h.scenarioFresh s hs).trans_le hnext }

/-- The brokers and the publish configs change. -/
theorem of_mqtt {brokers : List MqttBrokerSettings} {configs : List MqttPublishConfig}
    {next : UUID} (hnext : db.nextId ≤ next)
    (hkeyed : ({ db with
      mqttBrokers := brokers, mqttPublishConfigs := configs, nextId := next } : Database).MqttKeyed)
    (hconfigs : Table.Allotted MqttPublishConfig.id configs next)
    (hids : (brokers.map (·.id)).Nodup) (hnames : (brokers.map (·.name)).Nodup) :
    ({ db with mqttBrokers := brokers, mqttPublishConfigs := configs, nextId := next } :
      Database).Consistent :=
  { h with
    toKeyed := hkeyed.toKeyed
    brokerIds := hids
    brokerNames := hnames
    publishKeys := hkeyed.publishKeys
    publishDevices := hkeyed.publishDevices
    publishBrokers := hkeyed.publishBrokers
    rowIds := { h.rowIds.mono hnext with publishConfigs := hconfigs }
    brokerFresh := hkeyed.brokerFresh
    profileFresh := fun p hp => (h.profileFresh p hp).trans_le hnext
    scenarioFresh := fun s hs => (h.scenarioFresh s hs).trans_le hnext }

/-- A broker comes under a new name. -/
theorem of_newBroker {row : MqttBrokerSettings} (hid : row.id = db.nextId)
    (hname : ∀ b ∈ db.mqttBrokers, b.name ≠ row.name) :
    ({ db with mqttBrokers := db.mqttBrokers ++ [row], nextId := db.nextId + 1 } :
      Database).Consistent := by
  refine h.of_mqtt (Nat.le_succ _) (h.mqttKeyed.of_brokers (Nat.le_succ _) (fun b hb => ?_)
    fun b hb => ⟨b, List.mem_append_left _ hb, rfl⟩) (h.rowIds.publishConfigs.mono (Nat.le_succ _))
    ?_ ?_
  · rcases List.mem_append.1 hb with hb | hb
    · exact (h.brokerFresh b hb).trans (Nat.lt_succ_self _)
    · rw [List.mem_singleton.1 hb, hid]
      exact Nat.lt_succ_self db.nextId
  · exact Table.nodup_append_new h.brokerIds fun b hb => hid ▸ (h.brokerFresh b hb).ne
  · exact Table.nodup_append_new h.brokerNames hname

/-- A broker changes, but not its id. -/
theorem of_updateBroker {κ : Type} [DecidableEq κ] {key : MqttBrokerSettings → κ} {k : κ}
    {f : MqttBrokerSettings → MqttBrokerSettings} (hid : ∀ b, (f b).id = b.id)
    (hnames : ((Table.update key db.mqttBrokers k f).map (·.name)).Nodup) :
    ({ db with mqttBrokers := Table.update key db.mqttBrokers k f } : Database).Consistent := by
  have hids : (Table.update key db.mqttBrokers k f).map (·.id) = db.mqttBrokers.map (·.id) :=
    Table.map_update hid
  refine h.of_mqtt le_rfl (h.mqttKeyed.of_brokers le_rfl (fun b hb => ?_) fun b hb => ?_)
    h.rowIds.publishConfigs (hids ▸ h.brokerIds) hnames
  · obtain ⟨b₀, hb₀, rfl⟩ := List.mem_map.1 hb
    have hlt := h.brokerFresh b₀ hb₀
    split
    · rwa [hid]
    · exact hlt
  · refine ⟨_, Table.mem_update hb, ?_⟩
    split
    · exact hid b
    · rfl

end Database.Consistent

namespace Services

variable {db db' : Database} {template : UUID}

section Templates

/-- What an accepted create has checked. -/
theorem createTemplate_checked {data : TemplateCreate} {isBuiltin : Bool} {e : String}
    (hok : createTemplate db data isBuiltin e = .ok db') :
    (data.protocol = .modbusTcp → validateNoAddressOverlap data.registers = .ok ()) ∧
      ((buildRegisters data.registers).map (·.name)).Nodup ∧
      ((buildRegisters data.registers).map fun r => (r.address, r.functionCode)).Nodup := by
  simp only [createTemplate, andThen_ok_iff, mapError_ok_iff, insertRegisters_ok_iff] at hok
  obtain ⟨hoverlap, -, hnames, haddresses, -⟩ := hok
  exact ⟨fun hprotocol => by rwa [if_pos hprotocol] at hoverlap, hnames, haddresses⟩

theorem updateTemplate_addresses {data : TemplateUpdate} {e : String}
    (hok : updateTemplate db template data e = .ok db') :
    ((buildRegisters data.registers).map fun r => (r.address, r.functionCode)).Nodup := by
  unfold updateTemplate at hok
  rw [bind_ok_iff] at hok
  obtain ⟨t, -, hok⟩ := hok
  simp only [andThen_ok_iff, mapError_ok_iff, insertRegisters_ok_iff] at hok
  exact hok.2.2.2.2.1

/-- No register is of a template that is still to come. -/
theorem filter_registers_next (h : db.Keyed) :
    db.registers.filter (·.templateId ≠ db.nextId) = db.registers :=
  List.filter_eq_self.2 fun r hr => by simpa using (h.registerFresh r hr).ne

theorem consistent_createTemplate {data : TemplateCreate} {e : String} (h : db.Consistent)
    (hok : createTemplate db data false e = .ok db') : db'.Consistent := by
  have hkeyed := (safe_createTemplate h.identified hok).1.toKeyed
  obtain ⟨-, hnames, haddresses⟩ := createTemplate_checked hok
  obtain ⟨-, rfl⟩ := createTemplate_ok hok
  rw [← filter_registers_next h.toKeyed] at hkeyed ⊢
  exact h.of_registers (Nat.le_succ _) hkeyed (fun t ht => ⟨t, List.mem_append_left _ ht, rfl⟩)
    ⟨_, List.mem_append_right _ (List.mem_singleton_self _), rfl⟩ hnames haddresses

theorem consistent_updateTemplate {data : TemplateUpdate} {e : String} (h : db.Consistent)
    (hok : updateTemplate db template data e = .ok db') : db'.Consistent := by
  have hkeyed := (safe_updateTemplate h.identified hok).1.toKeyed
  have haddresses := updateTemplate_addresses hok
  obtain ⟨t₀, hfound, -, -, -, hnames, rfl⟩ := updateTemplate_ok hok
  have hkept : ∀ t ∈ db.templates, ∃ t' ∈ Table.update DeviceTemplate.id db.templates template
      (fun row => { row with
        name := data.name, protocol := data.protocol, description := data.description }),
      t'.id = t.id := by
    intro t ht
    refine ⟨_, Table.mem_update ht, ?_⟩
    split <;> rfl
  refine h.of_registers le_rfl hkeyed hkept ?_ hnames haddresses
  obtain ⟨t, ht, hid⟩ := hkept t₀ (Table.mem_of_find hfound)
  exact ⟨t, ht, hid.trans (Table.key_of_find hfound)⟩

/-- The rows of other templates still refer to one after a delete. -/
theorem consistent_deleteTemplate (h : db.Consistent)
    (hok : deleteTemplate db template = .ok db') : db'.Consistent := by
  have hidentified := (safe_deleteTemplate h.identified hok).1
  obtain ⟨t₀, -, -, -, rfl⟩ := deleteTemplate_ok hok
  have hold : ∀ {i : UUID}, i ≠ template → (∃ t ∈ db.templates, t.id = i) →
      ∃ t ∈ db.templates.filter (·.id ≠ template), t.id = i := by
    rintro i hne ⟨t, ht, rfl⟩
    exact ⟨t, List.mem_filter.2 ⟨ht, by simpa using hne⟩, rfl⟩
  exact { h with
    toKeyed := hidentified.toKeyed
    registerNames := h.registerNames.sublist (List.filter_sublist.map _)
    registerAddresses := h.registerAddresses.sublist (List.filter_sublist.map _)
    registerTemplates := fun r hr => by
      obtain ⟨hr, hne⟩ := List.mem_filter.1 hr
      exact hold (by simpa using hne) (h.registerTemplates r hr)
    rowIds := { h.rowIds with
      registers := h.rowIds.registers.sublist List.filter_sublist
      steps := h.rowIds.steps.sublist (List.filter_sublist.flatMap _) }
    profileIds := hidentified.profileIds
    profileFresh := hidentified.profileFresh
    profileTemplates := fun p hp => by
      obtain ⟨hp, hne⟩ := List.mem_filter.1 hp
      exact hold (by simpa using hne) (h.profileTemplates p hp)
    profileNames := h.profileNames.sublist (List.filter_sublist.map _)
    profileDefaults := h.profileDefaults.sublist ((List.filter_sublist.filter _).map _)
    scenarioIds := hidentified.scenarioIds
    scenarioFresh := hidentified.scenarioFresh
    scenarioTemplates := fun s hs => by
      obtain ⟨hs, hne⟩ := List.mem_filter.1 hs
      exact hold (by simpa using hne) (h.scenarioTemplates s hs)
    scenarioNames := h.scenarioNames.sublist (List.filter_sublist.map _) }

end Templates

section Profiles

/-- What the commit of the profiles checks. -/
theorem commitOrRaiseConflict_checked {name e : String}
    (hok : commitOrRaiseConflict db name e = .ok db') :
    (db.simulationProfiles.map fun p => (p.templateId, p.name)).Nodup ∧
      ((db.simulationProfiles.filter (·.isDefault)).map (·.templateId)).Nodup := by
  simp only [commitOrRaiseConflict, andThen_ok_iff, raiseIf_ok_iff, not_not] at hok
  exact ⟨hok.1, hok.2.1⟩

theorem mem_clearExistingDefault {template : UUID} {p : SimulationProfile}
    (hp : p ∈ (clearExistingDefault db template).simulationProfiles) :
    ∃ p₀ ∈ db.simulationProfiles, p₀.templateId = p.templateId ∧ p₀.configs = p.configs := by
  obtain ⟨p₀, hp₀, rfl⟩ := List.mem_map.1 hp
  refine ⟨p₀, hp₀, ?_⟩
  split <;> exact ⟨rfl, rfl⟩

/-- What an accepted create of a profile stores. -/
theorem createProfile_ok {data : SimulationProfileCreate} {e : String}
    (hok : createProfile db data e = .ok db') :
    (∃ t ∈ db.templates, t.id = data.templateId) ∧ ∃ profiles : List SimulationProfile,
      (∀ p ∈ profiles, ∃ p₀ ∈ db.simulationProfiles, p₀.templateId = p.templateId ∧
        p₀.configs = p.configs) ∧
      ∃ p, p.templateId = data.templateId ∧ p.configs = data.configs.map (·.toConfigEntry) ∧
        db' = { db with simulationProfiles := profiles ++ [p], nextId := db.nextId + 1 } := by
  simp only [createProfile, bind_ok_iff] at hok
  obtain ⟨t, ht, hok⟩ := hok
  obtain rfl := commitOrRaiseConflict_ok hok
  rw [Database.getTemplate_ok_iff] at ht
  refine ⟨⟨t, Table.mem_of_find ht, Table.key_of_find ht⟩, ?_⟩
  by_cases hdefault : data.isDefault
  · simp only [hdefault, if_true]
    exact ⟨_, fun p hp => mem_clearExistingDefault hp, _, rfl, rfl, rfl⟩
  · simp only [hdefault]
    exact ⟨_, fun p hp => ⟨p, hp, rfl, rfl⟩, _, rfl, rfl, rfl⟩

theorem consistent_createProfile {data : SimulationProfileCreate} {e : String} (h : db.Consistent)
    (hok : createProfile db data e = .ok db') : db'.Consistent := by
  have hidentified := (safe_createProfile h.identified hok).1
  have hchecked : (db'.simulationProfiles.map fun p => (p.templateId, p.name)).Nodup ∧
      ((db'.simulationProfiles.filter (·.isDefault)).map (·.templateId)).Nodup := by
    simp only [createProfile, bind_ok_iff] at hok
    obtain ⟨-, -, hok⟩ := hok
    have hchecked := commitOrRaiseConflict_checked hok
    rwa [← commitOrRaiseConflict_ok hok] at hchecked
  obtain ⟨ht, profiles, hold, p, hid, -, rfl⟩ := createProfile_ok hok
  refine h.of_profiles (Nat.le_succ _) hidentified (fun q hq => ?_) hchecked.1 hchecked.2
  rcases List.mem_append.1 hq with hq | hq
  · obtain ⟨p₀, hp₀, hid₀, -⟩ := hold q hq
    exact Or.inl ⟨p₀, hp₀, hid₀⟩
  · rw [List.mem_singleton.1 hq]
    exact Or.inr (hid ▸ ht)

/-- What an accepted update of a profile stores. -/
theorem updateProfile_ok {profile : UUID} {data : SimulationProfileUpdate} {newFirst : Bool}
    {e : String} (hok : updateProfile db profile data newFirst e = .ok db') :
    ∃ profiles : List SimulationProfile,
      (∀ p ∈ profiles, ∃ p₀ ∈ db.simulationProfiles, p₀.templateId = p.templateId ∧
        (p.configs = p₀.configs ∨
          ∃ configs : List SimulationConfigCreate, p.configs = configs.map (·.toConfigEntry))) ∧
      db' = { db with simulationProfiles := profiles } := by
  simp only [updateProfile, bind_ok_iff] at hok
  obtain ⟨p₁, -, -, -, -, -, hok⟩ := hok
  obtain rfl := commitOrRaiseConflict_ok hok
  have happly : ∀ q : SimulationProfile, (data.apply q).templateId = q.templateId ∧
      ((data.apply q).configs = q.configs ∨ ∃ configs : List SimulationConfigCreate,
        (data.apply q).configs = configs.map (·.toConfigEntry)) := by
    intro q
    refine ⟨rfl, ?_⟩
    unfold SimulationProfileUpdate.apply
    cases data.configs with
    | none => exact Or.inl rfl
    | some configs => exact Or.inr ⟨configs, rfl⟩
  have hmem : ∀ {profiles : List SimulationProfile},
      ∀ p ∈ Table.update SimulationProfile.id profiles profile data.apply,
        ∃ q ∈ profiles, q.templateId = p.templateId ∧
        (p.configs = q.configs ∨
          ∃ configs : List SimulationConfigCreate, p.configs = configs.map (·.toConfigEntry)) := by
    intro profiles p hp
    obtain ⟨q, hq, rfl⟩ := List.mem_map.1 hp
    refine ⟨q, hq, ?_⟩
    split
    · exact ⟨(happly q).1.symm, (happly q).2⟩
    · exact ⟨rfl, Or.inl rfl⟩
  by_cases hdefault : data.isDefault = some true
  · simp only [hdefault, if_true]
    refine ⟨_, fun p hp => ?_, rfl⟩
    obtain ⟨q, hq, hid, hconfigs⟩ := hmem p hp
    obtain ⟨p₀, hp₀, hid₀, hconfigs₀⟩ := mem_clearExistingDefault hq
    exact ⟨p₀, hp₀, hid₀.trans hid, hconfigs.imp_left fun hc => hc.trans hconfigs₀.symm⟩
  · simp only [hdefault]
    exact ⟨_, fun p hp => hmem p hp, rfl⟩

theorem consistent_updateProfile {profile : UUID} {data : SimulationProfileUpdate}
    {newFirst : Bool} {e : String} (h : db.Consistent)
    (hok : updateProfile db profile data newFirst e = .ok db') : db'.Consistent := by
  have hidentified := (safe_updateProfile h.identified hok).1
  have hchecked : (db'.simulationProfiles.map fun p => (p.templateId, p.name)).Nodup ∧
      ((db'.simulationProfiles.filter (·.isDefault)).map (·.templateId)).Nodup := by
    simp only [updateProfile, bind_ok_iff] at hok
    obtain ⟨_, -, _, -, _, -, hok⟩ := hok
    have hchecked := commitOrRaiseConflict_checked hok
    rwa [← commitOrRaiseConflict_ok hok] at hchecked
  obtain ⟨profiles, hold, rfl⟩ := updateProfile_ok hok
  refine h.of_profiles le_rfl hidentified (fun p hp => Or.inl ?_) hchecked.1 hchecked.2
  obtain ⟨p₀, hp₀, hid₀, -⟩ := hold p hp
  exact ⟨p₀, hp₀, hid₀⟩

theorem deleteProfile_ok {profile : UUID} (hok : deleteProfile db profile = .ok db') :
    db' = { db with simulationProfiles := db.simulationProfiles.filter (·.id ≠ profile) } := by
  simp only [deleteProfile, bind_ok_iff] at hok
  obtain ⟨-, -, -, -, hok⟩ := hok
  exact (Except.ok.inj hok).symm

theorem consistent_deleteProfile {profile : UUID} (h : db.Consistent)
    (hok : deleteProfile db profile = .ok db') : db'.Consistent := by
  have hidentified := (safe_deleteProfile h.identified hok).1
  obtain rfl := deleteProfile_ok hok
  refine h.of_profiles le_rfl hidentified (fun p hp => Or.inl ?_) ?_ ?_
  · exact ⟨p, List.mem_of_mem_filter hp, rfl⟩
  · exact h.profileNames.sublist (List.filter_sublist.map _)
  · exact h.profileDefaults.sublist ((List.filter_sublist.filter _).map _)

/-- An accepted import of a profile is an accepted create. -/
theorem importProfile_ok {template : UUID} {data : ProfileFile} {e : String}
    (hok : importProfile db template data e = .ok db') :
    ∃ data, createProfile db data e = .ok db' := by
  simp only [importProfile, bind_ok_iff] at hok
  obtain ⟨-, -, -, -, configs, -, hok⟩ := hok
  split at hok
  next => exact ⟨_, (mapError_ok_iff _ _ _).1 hok⟩
  next => cases hok

end Profiles

section Scenarios

variable {scenario : UUID}

theorem scenarioNameFree_ok_iff {name : String} {exclude : Option UUID} :
    scenarioNameFree db template name exclude = .ok () ↔
      ∀ s ∈ db.scenarios, s.templateId = template → s.name = name → some s.id = exclude := by
  unfold scenarioNameFree
  split
  next h =>
    obtain ⟨s, hs, hid, hname, hne⟩ := h
    exact iff_of_false (fun hok => by cases hok) fun hno => hne (hno s hs hid hname)
  next h =>
    push Not at h
    exact iff_of_true rfl h

theorem ids_buildSteps {next : UUID} (steps : List ScenarioStepCreate) :
    (buildSteps next steps).map (·.id) = List.range' next (buildSteps next steps).length ∧
      (buildSteps next steps).length = steps.length := by
  induction steps generalizing next with
  | nil => exact ⟨rfl, rfl⟩
  | cons step steps ih =>
    rw [buildSteps, List.map_cons, ih.1, List.length_cons, List.range'_succ, ih.2]
    exact ⟨rfl, rfl⟩

/-- The steps of a scenario get the ids from the next one on. -/
theorem allotted_scenarioSteps (next : UUID) (steps : List ScenarioStepCreate) :
    Table.Allotted ScenarioStep.id (scenarioSteps next steps) (next + steps.length) ∧
      ∀ step ∈ scenarioSteps next steps, next ≤ step.id := by
  obtain ⟨hids, hlength⟩ := @ids_buildSteps next steps
  obtain ⟨hallotted, hnew⟩ := Table.allotted_range' hids
  rw [hlength] at hallotted
  exact ⟨hallotted.perm (List.mergeSort_perm _ _), fun step hstep =>
    hnew step (List.mem_mergeSort.1 hstep)⟩

theorem consistent_createScenario {data : ScenarioCreate} (h : db.Consistent)
    (hok : createScenario db data false = .ok db') : db'.Consistent := by
  have hidentified := (safe_createScenario h.identified hok).1
  simp only [createScenario, bind_ok_iff, mapError_ok_iff] at hok
  obtain ⟨t, ht, _, -, _, hfree, hok⟩ := hok
  obtain rfl := Except.ok.inj hok
  rw [Database.getTemplate_ok_iff] at ht
  rw [scenarioNameFree_ok_iff] at hfree
  have hnext : db.nextId ≤ db.nextId + 1 + data.steps.length :=
    (Nat.le_succ _).trans (Nat.le_add_right _ _)
  obtain ⟨hsteps, hnew⟩ := allotted_scenarioSteps (db.nextId + 1) data.steps
  exact { h with
    toKeyed := hidentified.toKeyed
    rowIds := { h.rowIds.mono hnext with
      steps := by
        rw [List.flatMap_append, List.flatMap_singleton]
        exact h.rowIds.steps.append hsteps
          (fun step hstep => (Nat.le_succ _).trans (hnew step hstep)) hnext }
    brokerFresh := fun b hb => (h.brokerFresh b hb).trans_le hnext
    profileFresh := hidentified.profileFresh
    scenarioIds := hidentified.scenarioIds
    scenarioFresh := hidentified.scenarioFresh
    scenarioTemplates := fun s hs => by
      rcases List.mem_append.1 hs with hs | hs
      · exact h.scenarioTemplates s hs
      · rw [List.mem_singleton.1 hs]
        exact ⟨t, Table.mem_of_find ht, Table.key_of_find ht⟩
    scenarioNames := Table.nodup_append_new h.scenarioNames fun s hs heq => by
      cases hfree s hs (congrArg Prod.fst heq) (congrArg Prod.snd heq) }

theorem consistent_updateScenario {data : ScenarioUpdate} (h : db.Consistent)
    (hok : updateScenario db scenario data = .ok db') : db'.Consistent := by
  have hidentified := (safe_updateScenario h.identified hok).1
  simp only [updateScenario, bind_ok_iff, mapError_ok_iff] at hok
  obtain ⟨s₀, hs₀, _, -, _, -, _, -, _, hfree, hok⟩ := hok
  obtain rfl := Except.ok.inj hok
  rw [scenarioNameFree_ok_iff] at hfree
  have hfound := getScenarioOr404_ok hs₀
  have hnext : db.nextId ≤ db.nextId + data.steps.length := Nat.le_add_right _ _
  exact { h with
    toKeyed := hidentified.toKeyed
    rowIds := { h.rowIds.mono hnext with
      steps := h.rowIds.steps.flatMap_update h.scenarioIds hnext fun _ _ _ =>
        allotted_scenarioSteps db.nextId data.steps }
    brokerFresh := fun b hb => (h.brokerFresh b hb).trans_le hnext
    profileFresh := hidentified.profileFresh
    scenarioIds := hidentified.scenarioIds
    scenarioFresh := hidentified.scenarioFresh
    scenarioTemplates := fun s' hs' => by
      obtain ⟨s, hs, rfl⟩ := List.mem_map.1 hs'
      have ht := h.scenarioTemplates s hs
      split <;> exact ht
    scenarioNames := by
      refine Table.nodup_update_of_key h.scenarioIds h.scenarioNames hfound ?_
      intro s hs hne heq
      exact hne (Option.some.inj (hfree s hs (congrArg Prod.fst heq) (congrArg Prod.snd heq))) }

theorem consistent_deleteScenario (h : db.Consistent) (hok : deleteScenario db scenario = .ok db') :
    db'.Consistent := by
  have hidentified := (safe_deleteScenario h.identified hok).1
  simp only [deleteScenario, bind_ok_iff] at hok
  obtain ⟨-, -, -, -, hok⟩ := hok
  obtain rfl := Except.ok.inj hok
  exact { h with
    toKeyed := hidentified.toKeyed
    rowIds := { h.rowIds with steps := h.rowIds.steps.sublist (List.filter_sublist.flatMap _) }
    scenarioIds := hidentified.scenarioIds
    scenarioFresh := hidentified.scenarioFresh
    scenarioTemplates := fun s hs => h.scenarioTemplates s (List.mem_of_mem_filter hs)
    scenarioNames := h.scenarioNames.sublist (List.filter_sublist.map _) }

theorem importScenario_ok {data : ScenarioExport} (hok : importScenario db data = .ok db') :
    ∃ data, createScenario db data false = .ok db' := by
  unfold importScenario at hok
  split at hok
  next => cases hok
  next => exact ⟨_, hok⟩

end Scenarios

section Import

variable {db₀ : Database} {s s' : ImportState}

theorem consistent_importTemplate {done : List TemplateExport} {t : TemplateExport}
    (h : s.db.Consistent) (hdone : TemplatesDone db₀ done s)
    (hs : importTemplate db₀.templateNamed s t = .ok s') : s'.db.Consistent := by
  have hkeyed := (hdone.step hs).keyed
  unfold importTemplate at hs
  cases ht : t.isBuiltin with
  | true =>
    rw [ht] at hs
    obtain rfl := Except.ok.inj hs
    exact h
  | false =>
    rw [ht] at hs
    cases hfound : db₀.templateNamed t.name with
    | some e =>
      simp only [hfound, bind_ok_iff, insertRegisters_ok_iff] at hs
      obtain ⟨db, ⟨hnames, haddresses, rfl⟩, hs⟩ := hs
      obtain rfl := Except.ok.inj hs
      have hkept : ∀ t₀ ∈ s.db.templates, ∃ t' ∈ Table.update DeviceTemplate.name s.db.templates
          t.name (fun row => { row with protocol := t.protocol, description := t.description }),
          t'.id = t₀.id := by
        intro t₀ ht₀
        refine ⟨_, Table.mem_update ht₀, ?_⟩
        split <;> rfl
      obtain ⟨t₁, ht₁, hid⟩ := hdone.kept _ _ hfound
      refine h.of_registers le_rfl hkeyed hkept ?_ hnames haddresses
      obtain ⟨t', ht', hid'⟩ := hkept t₁ (Table.mem_of_find ht₁)
      exact ⟨t', ht', hid'.trans hid⟩
    | none =>
      simp only [hfound, andThen_ok_iff] at hs
      obtain ⟨-, hs⟩ := hs
      simp only [bind_ok_iff, insertRegisters_ok_iff] at hs
      obtain ⟨db, ⟨hnames, haddresses, rfl⟩, hs⟩ := hs
      obtain rfl := Except.ok.inj hs
      dsimp only at hkeyed ⊢
      rw [← filter_registers_next hdone.keyed] at hkeyed ⊢
      exact h.of_registers (Nat.le_succ _) hkeyed
        (fun t ht => ⟨t, List.mem_append_left _ ht, rfl⟩)
        ⟨_, List.mem_append_right _ (List.mem_singleton_self _), rfl⟩ hnames haddresses

theorem consistent_importDevice {existing : Dict (ℤ × ℤ) DeviceInstance} {e : DeviceExport}
    (h : s.db.Consistent) (hkeyed : s'.db.Keyed) (hs : importDevice existing s e = .ok s') :
    s'.db.Consistent := by
  unfold importDevice at hs
  split at hs
  next => cases hs
  next template htemplate =>
    split at hs
    next =>
      obtain rfl := Except.ok.inj hs
      refine h.of_devices le_rfl hkeyed fun d hd => ⟨_, Table.mem_update hd, ?_⟩
      split <;> rfl
    next =>
      rw [andThen_ok_iff] at hs
      obtain rfl := Except.ok.inj hs.2
      exact h.of_devices (Nat.le_succ _) hkeyed fun d hd => ⟨d, List.mem_append_left _ hd, rfl⟩

/-- A new row of a table whose rows belong to devices keeps the key. -/
theorem nodup_replaceRow {α ι : Type} [DecidableEq ι] {key : α → UUID × ι} {rows rows' : List α}
    {cleared cleared' : List String} {name : String} {row : α} (hrows : (rows.map key).Nodup)
    (hs : replaceRow key rows cleared name row = .ok (rows', cleared')) :
    (rows'.map key).Nodup ∧ ∃ kept : List α, kept.Sublist rows ∧ rows' = kept ++ [row] := by
  have hold : ∀ kept : List α, kept.Sublist rows → (∀ r ∈ kept, key r ≠ key row) →
      ((kept ++ [row]).map key).Nodup ∧
        ∃ kept' : List α, kept'.Sublist rows ∧ kept ++ [row] = kept' ++ [row] :=
    fun kept hsub hnew =>
      ⟨Table.nodup_append_new (hrows.sublist (hsub.map _)) hnew, kept, hsub, rfl⟩
  by_cases hmem : name ∈ cleared
  · simp only [replaceRow, hmem, if_true, andThen_ok_iff, constraint_ok_iff] at hs
    obtain ⟨rfl, -⟩ := Prod.mk.inj (Except.ok.inj hs.2)
    exact hold rows (List.Sublist.refl _) hs.1
  · simp only [replaceRow, hmem, if_false, andThen_ok_iff, constraint_ok_iff] at hs
    obtain ⟨rfl, -⟩ := Prod.mk.inj (Except.ok.inj hs.2)
    exact hold _ List.filter_sublist hs.1

/-- Within the constraints, and the names of devices stand for rows. -/
structure NamesDevices (s : ImportState) : Prop extends s.db.Consistent where
  named : ∀ n i, s.deviceNameToId n = some i → ∃ d ∈ s.db.devices, d.id = i

theorem NamesDevices.importSimulationConfig {c : SimulationConfigExport} (h : NamesDevices s)
    (hs : importSimulationConfig s c = .ok s') : NamesDevices s' := by
  unfold Services.importSimulationConfig at hs
  cases hid : s.deviceNameToId c.deviceName with
  | none =>
    rw [hid] at hs
    exact Except.ok.inj hs ▸ h
  | some device =>
    simp only [hid, bind_ok_iff] at hs
    obtain ⟨⟨rows, cleared⟩, hreplace, hs⟩ := hs
    obtain rfl := Except.ok.inj hs
    obtain ⟨hkeys, kept, hsub, rfl⟩ := nodup_replaceRow h.configKeys hreplace
    refine ⟨h.toConsistent.of_configs (Nat.le_succ _) ?_ hkeys fun c hc => ?_, h.named⟩
    · exact (h.rowIds.configs.sublist hsub).append_new rfl
    · rcases List.mem_append.1 hc with hc | hc
      · exact h.configDevices c (hsub.subset hc)
      · exact List.mem_singleton.1 hc ▸ h.named _ _ hid

theorem NamesDevices.importAnomalySchedule {e : AnomalyScheduleExport} (h : NamesDevices s)
    (hs : importAnomalySchedule s e = .ok s') : NamesDevices s' := by
  unfold Services.importAnomalySchedule at hs
  cases hid : s.deviceNameToId e.deviceName with
  | none =>
    rw [hid] at hs
    exact Except.ok.inj hs ▸ h
  | some device =>
    simp only [hid, bind_ok_iff] at hs
    obtain ⟨⟨rows, cleared⟩, hreplace, hs⟩ := hs
    obtain rfl := Except.ok.inj hs
    obtain ⟨hkeys, kept, hsub, rfl⟩ := nodup_replaceRow h.scheduleKeys hreplace
    refine ⟨h.toConsistent.of_schedules (Nat.le_succ _) ?_ hkeys fun s hs => ?_, h.named⟩
    · exact (h.rowIds.schedules.sublist hsub).append_new rfl
    · rcases List.mem_append.1 hs with hs | hs
      · exact h.scheduleDevices s (hsub.subset hs)
      · exact List.mem_singleton.1 hs ▸ h.named _ _ hid

/-- The names of brokers stand for rows too. -/
structure NamesBrokers (s : ImportState) : Prop extends NamesDevices s where
  namedBrokers : ∀ n i, s.brokerNameToId n = some i → ∃ b ∈ s.db.mqttBrokers, b.id = i

theorem NamesBrokers.importBroker (h : NamesBrokers s) (b : MqttBrokerSettingsExport) :
    NamesBrokers (importBroker s b) := by
  unfold Services.importBroker
  cases hfound : s.db.brokerNamed b.name with
  | none =>
    refine ⟨⟨h.of_newBroker rfl (Table.find_eq_none_iff.1 hfound), h.named⟩, ?_⟩
    refine Dict.forall_set (fun n i hi => ?_)
      ⟨_, List.mem_append_right _ (List.mem_singleton_self _), rfl⟩
    obtain ⟨b', hb', hid⟩ := h.namedBrokers n i hi
    exact ⟨b', List.mem_append_left _ hb', hid⟩
  | some e =>
    have hstays : ∀ b₀ ∈ s.db.mqttBrokers, ∃ b' ∈ Table.update MqttBrokerSettings.name
        s.db.mqttBrokers b.name (fun row => { row with
          host := b.host
          port := b.port
          username := b.username
          password := if b.password ≠ "****" then b.password else row.password
          clientId := b.clientId
          useTls := b.useTls }), b'.id = b₀.id := by
      intro b₀ hb₀
      refine ⟨_, Table.mem_update hb₀, ?_⟩
      split <;> rfl
    refine ⟨⟨h.of_updateBroker (fun _ => rfl) ?_, h.named⟩, ?_⟩
    · exact Table.nodup_map_update (fun _ => rfl) h.brokerNames
    · refine Dict.forall_set (fun n i hi => ?_) (hstays e (Table.mem_of_find hfound))
      obtain ⟨b₀, hb₀, rfl⟩ := h.namedBrokers n i hi
      exact hstays b₀ hb₀

theorem NamesBrokers.mapOtherBrokers (h : NamesBrokers s) :
    NamesBrokers (mapOtherBrokers s) := by
  refine { h with namedBrokers := fun n i hi => ?_ }
  rw [mapOtherBrokers_ids, Option.or_eq_some_iff] at hi
  rcases hi with hi | ⟨-, hi⟩
  · exact h.namedBrokers n i hi
  · obtain ⟨b, hb, rfl⟩ := Option.map_eq_some_iff.1 hi
    exact ⟨b, Table.mem_of_find hb, rfl⟩

theorem allotted_importPublishConfig
    (h : Table.Allotted MqttPublishConfig.id s.db.mqttPublishConfigs s.db.nextId)
    (m : MqttPublishConfigExport) : Table.Allotted MqttPublishConfig.id
      (importPublishConfig s m).db.mqttPublishConfigs (importPublishConfig s m).db.nextId := by
  unfold Services.importPublishConfig
  split
  next =>
    dsimp only
    split
    next => exact h.append_new rfl
    next => exact h.of_ids (Table.map_update fun _ => rfl)
  next => exact h

theorem NamesBrokers.importPublishConfig (h : NamesBrokers s) (m : MqttPublishConfigExport) :
    NamesBrokers (importPublishConfig s m) := by
  obtain ⟨hkeyed, hnamed, hbrokers⟩ :=
    importPublishConfig_keyed h.mqttKeyed ⟨h.named, h.namedBrokers⟩ m
  refine ⟨⟨?_, hnamed⟩, hbrokers⟩
  have honly := onlyMqtt_importPublishConfig s m
  have hsame : (Services.importPublishConfig s m).db.mqttBrokers = s.db.mqttBrokers := by
    unfold Services.importPublishConfig
    split
    · dsimp only
      split <;> rfl
    · rfl
  have hids := allotted_importPublishConfig h.rowIds.publishConfigs m
  rw [honly.frame, hsame] at hkeyed hids ⊢
  exact h.of_mqtt honly.next hkeyed hids h.brokerIds h.brokerNames

/-- An import that is accepted keeps the constraints, round by round. -/
theorem consistent_importSystem {data : SystemImport} {r : ImportResult} (h : db.Consistent)
    (hok : importSystem db data = .ok (db', r)) : db'.Consistent := by
  simp only [importSystem, bind_ok_iff] at hok
  obtain ⟨s₀, h₀, s₂, h₂, s₃, h₃, s₄, h₄, hok⟩ := hok
  obtain ⟨rfl, -⟩ := Prod.mk.inj (Except.ok.inj hok)
  have htemplates := templatesImported h.toKeyed h₀
  have hconsistent₁ : (mapOtherTemplates db.templates s₀).db.Consistent :=
    (foldlM_invariant (P := fun done s => TemplatesDone db done s ∧ s.db.Consistent)
      (fun _ _ _ _ hP hf => ⟨hP.1.step hf, consistent_importTemplate hP.2 hP.1 hf⟩)
      ⟨templatesDone_nil h.toKeyed, h⟩ h₀).2
  have hdevices : (mapOtherTemplates db.templates s₀).db.deviceAt = db.deviceAt := by
    rw [Database.deviceAt, htemplates.frame]
    rfl
  rw [← hdevices] at h₂
  obtain ⟨hdone, hconsistent₂⟩ := foldlM_invariant
    (P := fun done s => DevicesDone (mapOtherTemplates db.templates s₀) done s ∧ s.db.Consistent)
    (fun _ _ _ _ hP hf => by
      have hstep := hP.1.step htemplates.mapped hf
      exact ⟨hstep, consistent_importDevice hP.2 hstep.keyed hf⟩)
    ⟨devicesDone_nil htemplates.keyed htemplates.rest.1, hconsistent₁⟩ h₂
  have hnames₂ : NamesDevices (mapOtherDevices db.devices s₂) :=
    ⟨hconsistent₂, fun n i hi => hdone.row_of_name hi⟩
  have hnames₃ := foldlM_invariant (P := fun _ s => NamesDevices s)
    (fun _ _ _ _ hP hf => hP.importSimulationConfig hf) hnames₂ h₃
  have hnames₄ := foldlM_invariant (P := fun _ s => NamesDevices s)
    (fun _ _ _ _ hP hf => hP.importAnomalySchedule hf) hnames₃ h₄
  have hbrokers : s₄.brokerNameToId = Dict.empty := by
    rw [brokerNameToId_schedules h₄, brokerNameToId_configs h₃]
    exact hdone.rest.2.1.trans htemplates.rest.2.1
  have hnamed₄ : NamesBrokers s₄ := ⟨hnames₄, fun n i hi => by simp [hbrokers] at hi⟩
  have hnamed₅ := foldl_invariant (l := brokerExports data) (P := fun _ s => NamesBrokers s)
    (fun _ b _ _ _ hP => hP.importBroker b) hnamed₄
  exact (foldl_invariant (l := data.mqttPublishConfigs) (P := fun _ s => NamesBrokers s)
    (fun _ m _ _ _ hP => hP.importPublishConfig m) hnamed₅.mapOtherBrokers).toConsistent

end Import

end Services

end GhostMeter
