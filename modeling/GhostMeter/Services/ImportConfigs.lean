import GhostMeter.Services.ImportRows

/-! What is left of an import after its devices, and the import as a whole. -/

namespace GhostMeter

open GhostMeter.Lib GhostMeter.Simulation GhostMeter.Protocols GhostMeter.Schemas

/-- What the listing says about its register. -/
def Schemas.SimulationConfigExport.toEntry (c : SimulationConfigExport) : ConfigEntry where
  registerName := c.registerName
  dataMode := c.dataMode
  modeParams := c.modeParams
  isEnabled := c.isEnabled
  updateIntervalMs := c.updateIntervalMs

/-- The listed schedule, and whether it is enabled. -/
def Schemas.AnomalyScheduleExport.toEntry (e : AnomalyScheduleExport) : ScheduleEntry × Bool :=
  ({ registerName := e.registerName, anomalyType := e.anomalyType, anomalyParams := e.anomalyParams,
     triggerAfterSeconds := e.triggerAfterSeconds, durationSeconds := e.durationSeconds },
    e.isEnabled)

/-- The row without its ids. -/
def AnomalySchedule.toEntry (s : AnomalySchedule) : ScheduleEntry × Bool :=
  (s.toScheduleEntry, s.isEnabled)

namespace Services

variable {s s' s₁ s₂ s₃ : ImportState} {n : String} {i : UUID}

section OtherDevices

variable {existing : List DeviceInstance}

theorem mapOtherDevices_of_some (h : s.deviceNameToId n = some i) :
    (mapOtherDevices existing s).deviceNameToId n = some i := by
  simp only [mapOtherDevices]
  generalize hids : s.deviceNameToId = ids
  rw [hids] at h
  clear hids
  induction existing generalizing ids with
  | nil => exact h
  | cons e existing ih =>
    rw [List.foldl_cons]
    apply ih
    cases s.db.findDevice e.id with
    | none => exact h
    | some d =>
      by_cases hsome : (ids d.name).isSome
      · simpa [hsome] using h
      · have hne : n ≠ d.name := by
          rintro rfl
          simp [h] at hsome
        simpa [hsome, Dict.set_of_ne _ _ hne] using h

/-- A name that the document does not list stands for the first device that has it now. -/
theorem mapOtherDevices_find (h : s.deviceNameToId n = none) :
    (mapOtherDevices existing s).deviceNameToId n =
      ((existing.filterMap fun e => s.db.findDevice e.id).find? (·.name = n)).map (·.id) := by
  simp only [mapOtherDevices]
  generalize hids : s.deviceNameToId = ids
  rw [hids] at h
  clear hids
  induction existing generalizing ids with
  | nil => exact h
  | cons e existing ih =>
    rw [List.foldl_cons, List.filterMap_cons]
    cases hd : s.db.findDevice e.id with
    | none => exact ih ids h
    | some d =>
      dsimp only
      by_cases hn : d.name = n
      · subst hn
        have hkeep : (mapOtherDevices existing { s with
            deviceNameToId := ids.set d.name d.id }).deviceNameToId d.name = some d.id :=
          mapOtherDevices_of_some (s := { s with deviceNameToId := ids.set d.name d.id })
            (Dict.set_self ..)
        simpa [h, mapOtherDevices] using hkeep
      · simp only [List.find?_cons, hn, decide_false]
        apply ih
        split
        next => exact h
        next => exact (Dict.set_of_ne _ _ (Ne.symm hn)).trans h

theorem mapOtherDevices_of_none (h : s.deviceNameToId n = none)
    (hi : (mapOtherDevices existing s).deviceNameToId n = some i) :
    ∃ d ∈ s.db.devices, d.id = i ∧ d.name = n := by
  rw [mapOtherDevices_find h] at hi
  obtain ⟨d, hd, rfl⟩ := Option.map_eq_some_iff.1 hi
  obtain ⟨e, -, he⟩ := List.mem_filterMap.1 (List.mem_of_find?_eq_some hd)
  exact ⟨d, Table.mem_of_find he, rfl, by simpa using List.find?_some hd⟩

/-- A name stands for a device, once all are mapped. -/
theorem DevicesDone.row_of_name {done : List DeviceExport} (h : DevicesDone s₁ done s)
    (hi : (mapOtherDevices existing s).deviceNameToId n = some i) :
    ∃ d ∈ s.db.devices, d.id = i := by
  cases hlast : s.deviceNameToId n with
  | none =>
    obtain ⟨d, hd, hid, -⟩ := mapOtherDevices_of_none hlast hi
    exact ⟨d, hd, hid⟩
  | some j =>
    rw [mapOtherDevices_of_some hlast] at hi
    obtain rfl := Option.some.inj hi
    rw [h.ids, Option.bind_eq_some_iff] at hlast
    obtain ⟨e, -, hid⟩ := hlast
    obtain ⟨d, hd, hid⟩ := Option.map_eq_some_iff.1 hid
    exact ⟨d, Table.mem_of_find hd, hid⟩

end OtherDevices

/-- A listed config of a device that has no name yet is passed over, and of another replaces a
row. -/
theorem importSimulationConfig_ok {c : SimulationConfigExport}
    (h : importSimulationConfig s c = .ok s') :
    (s.deviceNameToId c.deviceName = none ∧ s' = s) ∨
      ∃ row rows cleared, s.deviceNameToId c.deviceName = some row.deviceId ∧
        row.toConfigEntry = c.toEntry ∧
        replaceRow SimulationConfig.key s.db.simulationConfigs s.simDevicesCleared c.deviceName
          row = .ok (rows, cleared) ∧
        s' = { s with
          db := { s.db with simulationConfigs := rows, nextId := s.db.nextId + 1 }
          simDevicesCleared := cleared
          result := s'.result } := by
  unfold importSimulationConfig at h
  cases hid : s.deviceNameToId c.deviceName with
  | none =>
    rw [hid] at h
    exact .inl ⟨rfl, (Except.ok.inj h).symm⟩
  | some device =>
    simp only [hid, bind_ok_iff] at h
    obtain ⟨⟨rows, cleared⟩, hreplace, h⟩ := h
    obtain rfl := Except.ok.inj h
    exact .inr ⟨_, rows, cleared, rfl, rfl, hreplace, rfl⟩

/-- The state after the simulation configs `done`, from `s₂`. -/
structure ConfigsDone (s₂ : ImportState) (done : List SimulationConfigExport) (s : ImportState) :
    Prop where
  frame : s.db = { s₂.db with
    simulationConfigs := s.db.simulationConfigs, nextId := s.db.nextId }
  next : s₂.db.nextId ≤ s.db.nextId
  ids : s.deviceNameToId = s₂.deviceNameToId
  schedules : s.schedDevicesCleared = s₂.schedDevicesCleared
  rows : RowsDone SimulationConfig.key (·.toConfigEntry) (·.deviceName) (·.toEntry)
    s₂.deviceNameToId s₂.db.simulationConfigs done s.db.simulationConfigs s.simDevicesCleared

theorem ConfigsDone.step {done : List SimulationConfigExport} {c : SimulationConfigExport}
    (h : ConfigsDone s₂ done s) (hs : importSimulationConfig s c = .ok s') :
    ConfigsDone s₂ (done ++ [c]) s' := by
  rcases importSimulationConfig_ok hs with
    ⟨hid, rfl⟩ | ⟨row, rows, cleared, hid, hrow, hreplace, hs'⟩
  · exact { h with rows := h.rows.skip (h.ids ▸ hid) }
  · rw [hs']
    exact {
      frame := by
        have := h.frame
        rw [this]
      next := h.next.trans (Nat.le_succ _)
      ids := h.ids
      schedules := h.schedules
      rows := h.rows.replace (h.ids ▸ hid) rfl hrow hreplace }

theorem configsDone (hcleared : s₂.simDevicesCleared = []) {listed : List SimulationConfigExport}
    (hs : listed.foldlM importSimulationConfig s₂ = .ok s) : ConfigsDone s₂ listed s :=
  foldlM_invariant (P := ConfigsDone s₂) (fun _ _ _ _ hP hf => hP.step hf)
    ⟨rfl, le_rfl, rfl, rfl, hcleared ▸ rowsDone_nil⟩ hs

/-- A listed schedule of a device that has no name yet is passed over, and of another replaces a
row. -/
theorem importAnomalySchedule_ok {e : AnomalyScheduleExport}
    (h : importAnomalySchedule s e = .ok s') :
    (s.deviceNameToId e.deviceName = none ∧ s' = s) ∨
      ∃ row rows cleared, s.deviceNameToId e.deviceName = some row.deviceId ∧
        row.toEntry = e.toEntry ∧
        replaceRow AnomalySchedule.key s.db.anomalySchedules s.schedDevicesCleared e.deviceName
          row = .ok (rows, cleared) ∧
        s' = { s with
          db := { s.db with anomalySchedules := rows, nextId := s.db.nextId + 1 }
          schedDevicesCleared := cleared
          result := s'.result } := by
  unfold importAnomalySchedule at h
  cases hid : s.deviceNameToId e.deviceName with
  | none =>
    rw [hid] at h
    exact .inl ⟨rfl, (Except.ok.inj h).symm⟩
  | some device =>
    simp only [hid, bind_ok_iff] at h
    obtain ⟨⟨rows, cleared⟩, hreplace, h⟩ := h
    obtain rfl := Except.ok.inj h
    exact .inr ⟨_, rows, cleared, rfl, rfl, hreplace, rfl⟩

/-- The state after the anomaly schedules `done`, from `s₃`. -/
structure SchedulesDone (s₃ : ImportState) (done : List AnomalyScheduleExport) (s : ImportState) :
    Prop where
  frame : s.db = { s₃.db with
    anomalySchedules := s.db.anomalySchedules, nextId := s.db.nextId }
  next : s₃.db.nextId ≤ s.db.nextId
  ids : s.deviceNameToId = s₃.deviceNameToId
  rows : RowsDone AnomalySchedule.key AnomalySchedule.toEntry (·.deviceName) (·.toEntry)
    s₃.deviceNameToId s₃.db.anomalySchedules done s.db.anomalySchedules s.schedDevicesCleared

theorem SchedulesDone.step {done : List AnomalyScheduleExport} {e : AnomalyScheduleExport}
    (h : SchedulesDone s₃ done s) (hs : importAnomalySchedule s e = .ok s') :
    SchedulesDone s₃ (done ++ [e]) s' := by
  rcases importAnomalySchedule_ok hs with
    ⟨hid, rfl⟩ | ⟨row, rows, cleared, hid, hrow, hreplace, hs'⟩
  · exact { h with rows := h.rows.skip (h.ids ▸ hid) }
  · rw [hs']
    exact {
      frame := by
        have := h.frame
        rw [this]
      next := h.next.trans (Nat.le_succ _)
      ids := h.ids
      rows := h.rows.replace (h.ids ▸ hid) rfl hrow hreplace }

theorem schedulesDone (hcleared : s₃.schedDevicesCleared = [])
    {listed : List AnomalyScheduleExport}
    (hs : listed.foldlM importAnomalySchedule s₃ = .ok s) : SchedulesDone s₃ listed s :=
  foldlM_invariant (P := SchedulesDone s₃) (fun _ _ _ _ hP hf => hP.step hf)
    ⟨rfl, le_rfl, rfl, hcleared ▸ rowsDone_nil⟩ hs

/-- Steps 3 and 4 do not look at the brokers. -/
theorem brokerNameToId_configs {listed : List SimulationConfigExport}
    (hs : listed.foldlM importSimulationConfig s = .ok s') :
    s'.brokerNameToId = s.brokerNameToId := by
  refine foldlM_invariant (P := fun _ s' => s'.brokerNameToId = s.brokerNameToId) ?_ rfl hs
  intro _ c s₁ s₂ hP hf
  rcases importSimulationConfig_ok hf with ⟨-, rfl⟩ | ⟨row, rows, cleared, -, -, -, hs₂⟩
  · exact hP
  · rw [hs₂]
    exact hP

theorem brokerNameToId_schedules {listed : List AnomalyScheduleExport}
    (hs : listed.foldlM importAnomalySchedule s = .ok s') :
    s'.brokerNameToId = s.brokerNameToId := by
  refine foldlM_invariant (P := fun _ s' => s'.brokerNameToId = s.brokerNameToId) ?_ rfl hs
  intro _ e s₁ s₂ hP hf
  rcases importAnomalySchedule_ok hf with ⟨-, rfl⟩ | ⟨row, rows, cleared, -, -, -, hs₂⟩
  · exact hP
  · rw [hs₂]
    exact hP

/-- The steps about MQTT change its two tables alone. -/
structure OnlyMqtt (db db' : Database) : Prop where
  frame : db' = { db with
    mqttBrokers := db'.mqttBrokers
    mqttPublishConfigs := db'.mqttPublishConfigs
    nextId := db'.nextId }
  next : db.nextId ≤ db'.nextId

theorem OnlyMqtt.trans {db db₁ db₂ : Database} (h : OnlyMqtt db db₁) (h' : OnlyMqtt db₁ db₂) :
    OnlyMqtt db db₂ where
  frame := by
    have hframe := h'.frame
    rw [h.frame] at hframe
    exact hframe
  next := h.next.trans h'.next

theorem onlyMqtt_importBroker (s : ImportState) (b : MqttBrokerSettingsExport) :
    OnlyMqtt s.db (importBroker s b).db := by
  unfold importBroker
  cases s.db.brokerNamed b.name with
  | none => exact ⟨rfl, Nat.le_succ _⟩
  | some e => exact ⟨rfl, le_rfl⟩

theorem onlyMqtt_importPublishConfig (s : ImportState) (m : MqttPublishConfigExport) :
    OnlyMqtt s.db (importPublishConfig s m).db := by
  unfold importPublishConfig
  split
  next =>
    dsimp only
    split
    next => exact ⟨rfl, Nat.le_succ _⟩
    next => exact ⟨rfl, le_rfl⟩
  next => exact ⟨rfl, le_rfl⟩

theorem onlyMqtt_foldl {α : Type} {f : ImportState → α → ImportState}
    (hf : ∀ s a, OnlyMqtt s.db (f s a).db) (l : List α) (s : ImportState) :
    OnlyMqtt s.db (l.foldl f s).db :=
  foldl_invariant (P := fun _ s' => OnlyMqtt s.db s'.db)
    (fun _ a _ s' _ h => h.trans (hf s' a)) ⟨rfl, le_rfl⟩

/-- The stages of an accepted import. -/
structure Imported (db : Database) (data : SystemImport) (db' : Database)
    (s₁ s₂ s₃ s₄ : ImportState) : Prop where
  listings : ∃ s, data.templates.foldlM (importTemplate db.templateNamed) { db } = .ok s ∧
    s₁ = mapOtherTemplates db.templates s
  templates : TemplatesImported db data.templates s₁
  devices : DevicesDone s₁ data.devices s₂
  configs : ConfigsDone (mapOtherDevices db.devices s₂) data.simulationConfigs s₃
  schedules : SchedulesDone s₃ data.anomalySchedules s₄
  mqtt : OnlyMqtt s₄.db db'

/-- The stages of an accepted import, and its last two steps. -/
theorem stages_of_importSystem {db db' : Database} {data : SystemImport} {r : ImportResult}
    (h : db.Keyed) (himport : importSystem db data = .ok (db', r)) :
    ∃ s₁ s₂ s₃ s₄, Imported db data db' s₁ s₂ s₃ s₄ ∧ s₄.brokerNameToId = Dict.empty ∧
      (data.mqttPublishConfigs.foldl importPublishConfig
        (mapOtherBrokers ((brokerExports data).foldl importBroker s₄))).db = db' := by
  simp only [importSystem, bind_ok_iff] at himport
  obtain ⟨s₀, h₀, s₂, h₂, s₃, h₃, s₄, h₄, himport⟩ := himport
  have htemplates := templatesImported h h₀
  have hdevices : (mapOtherTemplates db.templates s₀).db.deviceAt = db.deviceAt := by
    rw [Database.deviceAt, htemplates.frame]
    rfl
  rw [← hdevices] at h₂
  have hdone := devicesDone htemplates.keyed htemplates.rest.1 htemplates.mapped h₂
  have hcleared : (mapOtherDevices db.devices s₂).simDevicesCleared = [] :=
    hdone.rest.2.2.1.trans htemplates.rest.2.2.1
  have hconfigs := configsDone hcleared h₃
  have hscheduled : s₃.schedDevicesCleared = [] :=
    hconfigs.schedules.trans (hdone.rest.2.2.2.trans htemplates.rest.2.2.2)
  have hdb : _ = db' := (Prod.mk.inj (Except.ok.inj himport)).1
  refine ⟨_, s₂, s₃, s₄, ⟨⟨s₀, h₀, rfl⟩, htemplates, hdone, hconfigs, schedulesDone hscheduled h₄,
    ?_⟩, ?_, hdb⟩
  · rw [← hdb]
    have hbrokers := onlyMqtt_foldl onlyMqtt_importBroker (brokerExports data) s₄
    exact hbrokers.trans (onlyMqtt_foldl onlyMqtt_importPublishConfig data.mqttPublishConfigs
      (mapOtherBrokers ((brokerExports data).foldl importBroker s₄)))
  · rw [brokerNameToId_schedules h₄, brokerNameToId_configs h₃]
    exact hdone.rest.2.1.trans htemplates.rest.2.1

theorem imported_of_importSystem {db db' : Database} {data : SystemImport} {r : ImportResult}
    (h : db.Keyed) (himport : importSystem db data = .ok (db', r)) :
    ∃ s₁ s₂ s₃ s₄, Imported db data db' s₁ s₂ s₃ s₄ := by
  obtain ⟨s₁, s₂, s₃, s₄, himp, -⟩ := stages_of_importSystem h himport
  exact ⟨s₁, s₂, s₃, s₄, himp⟩

/-- What an import makes of a template. -/
structure AfterImport (db : Database) (data : SystemImport) (db' : Database)
    (t t' : DeviceTemplate) : Prop where
  id : t'.id = t.id
  protocol : t'.protocol = (lastUser data.templates t.name).elim t.protocol (·.protocol)
  registers : ∀ name, db'.storedRegister t.id name =
    match lastUser data.templates t.name with
    | some e => (Table.find RegisterExport.name e.registers name).map (·.toRow)
    | none => db.storedRegister t.id name

namespace Imported

variable {db db' : Database} {data : SystemImport} {s₁ s₂ s₃ s₄ : ImportState}
  (h : Imported db data db' s₁ s₂ s₃ s₄)

include h

theorem templates_eq : db'.templates = s₁.db.templates := by
  rw [h.mqtt.frame, h.schedules.frame, h.configs.frame]
  change s₂.db.templates = _
  rw [h.devices.frame]

theorem registers_eq : db'.registers = s₁.db.registers := by
  rw [h.mqtt.frame, h.schedules.frame, h.configs.frame]
  change s₂.db.registers = _
  rw [h.devices.frame]

theorem devices_eq : db'.devices = s₂.db.devices := by
  rw [h.mqtt.frame, h.schedules.frame, h.configs.frame]
  rfl

theorem profiles_eq : db'.simulationProfiles = db.simulationProfiles := by
  rw [h.mqtt.frame, h.schedules.frame, h.configs.frame]
  change s₂.db.simulationProfiles = _
  rw [h.devices.frame, h.templates.frame]

theorem scenarios_eq : db'.scenarios = db.scenarios := by
  rw [h.mqtt.frame, h.schedules.frame, h.configs.frame]
  change s₂.db.scenarios = _
  rw [h.devices.frame, h.templates.frame]

theorem configRows : RowsDone SimulationConfig.key (·.toConfigEntry) (·.deviceName) (·.toEntry)
    (mapOtherDevices db.devices s₂).deviceNameToId db.simulationConfigs data.simulationConfigs
    db'.simulationConfigs s₃.simDevicesCleared := by
  have hold : (mapOtherDevices db.devices s₂).db.simulationConfigs = db.simulationConfigs := by
    change s₂.db.simulationConfigs = _
    rw [h.devices.frame, h.templates.frame]
  have hnew : db'.simulationConfigs = s₃.db.simulationConfigs := by
    rw [h.mqtt.frame, h.schedules.frame]
  rw [hnew, ← hold]
  exact h.configs.rows

theorem scheduleRows : RowsDone AnomalySchedule.key AnomalySchedule.toEntry (·.deviceName)
    (·.toEntry) (mapOtherDevices db.devices s₂).deviceNameToId db.anomalySchedules
    data.anomalySchedules db'.anomalySchedules s₄.schedDevicesCleared := by
  have hold : s₃.db.anomalySchedules = db.anomalySchedules := by
    rw [h.configs.frame]
    change s₂.db.anomalySchedules = _
    rw [h.devices.frame, h.templates.frame]
  have hnew : db'.anomalySchedules = s₄.db.anomalySchedules := by
    rw [h.mqtt.frame]
  rw [hnew, ← hold, ← h.configs.ids]
  exact h.schedules.rows

theorem next_devices : s₂.db.nextId ≤ db'.nextId :=
  h.configs.next.trans (h.schedules.next.trans h.mqtt.next)

theorem next : db.nextId ≤ db'.nextId :=
  h.templates.next.trans (h.devices.next.trans h.next_devices)

theorem keyed : db'.Keyed := by
  refine h.devices.keyed.of_same ?_ ?_ h.devices_eq h.next_devices
  · rw [h.templates_eq, h.devices.frame]
  · rw [h.registers_eq, h.devices.frame]

/-- The devices before the second step. -/
theorem deviceAt_before : s₁.db.deviceAt = db.deviceAt := by
  rw [Database.deviceAt, h.templates.frame]
  rfl

/-- The devices that an import leaves are those of its second step. -/
theorem deviceAt_eq : db'.deviceAt = s₂.db.deviceAt := by
  rw [Database.deviceAt, h.devices_eq]
  rfl

theorem templateNamed_eq : db'.templateNamed = s₁.db.templateNamed := by
  rw [Database.templateNamed, h.templates_eq]
  rfl

theorem registerNamed_eq : db'.registerNamed = s₁.db.registerNamed := by
  rw [Database.registerNamed, h.registers_eq]
  rfl

theorem afterImport
    {t t' : DeviceTemplate} {n : String} (ht : db.templateNamed n = some t)
    (ht' : db'.templateNamed n = some t') :
    AfterImport db data db' t t' ∧ t'.isBuiltin = t.isBuiltin := by
  rw [h.templateNamed_eq] at ht'
  obtain ⟨t₁, ht₁, hid⟩ := h.templates.kept n t ht
  obtain rfl := Option.some.inj (ht₁.symm.trans ht')
  have hname : t.name = n := Table.key_of_find ht
  have hbare := h.templates.named n
  rw [ht', ht] at hbare
  have hregisters := h.templates.registers n t₁
  have hrow : t₁.protocol = (lastUser data.templates n).elim t.protocol (·.protocol) ∧
      t₁.isBuiltin = t.isBuiltin := by
    cases hlast : lastUser data.templates n with
    | none =>
      rw [hlast] at hbare
      have heq : t₁.bare = t.bare := Option.some.inj hbare
      have hprotocol := congrArg DeviceTemplate.protocol heq
      have hbuiltin := congrArg DeviceTemplate.isBuiltin heq
      exact ⟨hprotocol, hbuiltin⟩
    | some e =>
      rw [hlast] at hbare
      have heq : t₁.bare = ⟨0, e.name, e.protocol, e.description, t.isBuiltin⟩ :=
        Option.some.inj hbare
      have hprotocol := congrArg DeviceTemplate.protocol heq
      have hbuiltin := congrArg DeviceTemplate.isBuiltin heq
      exact ⟨hprotocol, hbuiltin⟩
  refine ⟨⟨hid, hname ▸ hrow.1, fun name => ?_⟩, hrow.2⟩
  rw [hname, ← hid, Database.storedRegister, h.registerNamed_eq, hregisters name ht₁]
  rfl

end Imported

end Services

end GhostMeter
