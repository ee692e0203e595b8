import GhostMeter.Services.DeviceCalls

/-! Histories of API calls: the constraints on the tables, and the rules of the services on their
rows, in every database that a history reaches. -/

namespace GhostMeter

open GhostMeter.Lib GhostMeter.Simulation GhostMeter.Protocols GhostMeter.Schemas

namespace Services

/-- The calls that write the tables. -/
inductive ApiCall
  | library (call : LibraryCall)
  | createDevice (data : DeviceCreate)
  | batchCreateDevices (data : DeviceBatchCreate)
  | updateDevice (device : UUID) (data : DeviceUpdate)
  /-- What a start, a stop or the engine writes. -/
  | setStatus (device : UUID) (status : DeviceStatus)
  | deleteDevice (device : UUID)
  | setConfigs (device : UUID) (configs : List SimulationConfigCreate)
  | updateConfig (device : UUID) (registerName : String) (data : SimulationConfigCreate)
  | deleteConfigs (device : UUID)
  | setSchedules (device : UUID) (schedules : List AnomalyScheduleWrite)
  | deleteSchedules (device : UUID)
  | createBroker (data : MqttBrokerWrite)
  | updateBroker (broker : UUID) (data : MqttBrokerWrite)
  | deleteBroker (broker : UUID)
  | upsertPublishConfig (key : PublishKey) (data : MqttPublishConfigWrite)
  | deletePublishConfig (key : PublishKey)
  | setPublishEnabled (key : PublishKey) (enabled : Bool)

/-- The database after a transaction, which is rolled back if the call raises. -/
def committed {ε : Type} (db : Database) : Except ε Database → Database
  | .ok db' => db'
  | .error _ => db

namespace ApiCall

def after (settings : Settings) (db : Database) : ApiCall → Database
  | library call => committed db (call.perform db)
  | createDevice data => (Services.createDevice settings db data).1
  | batchCreateDevices data => (Services.batchCreateDevices settings db data).1
  | updateDevice device data => committed db (Services.updateDevice settings db device data)
  | setStatus device status => db.setStatus device status
  | deleteDevice device => committed db (Services.deleteDevice db device)
  | setConfigs device configs =>
    checked (checkConfigs db device configs) (Services.setConfigs · device configs) db
  | updateConfig device registerName data => checked (checkConfig db device registerName)
    (upsertConfig · device registerName data.toConfigEntry) db
  | deleteConfigs device => checked ((db.getDeviceOr404 device).map fun _ => ())
    (Services.deleteConfigs · device) db
  | setSchedules device schedules => committed db (Services.setSchedules db device schedules)
  | deleteSchedules device => committed db (Services.deleteSchedules db device)
  | createBroker data => committed db ((Services.createBroker db data).map (·.1))
  | updateBroker broker data => committed db ((Services.updateBroker db broker data).map (·.1))
  | deleteBroker broker => committed db (Services.deleteBroker db broker)
  | upsertPublishConfig key data => committed db (Services.upsertPublishConfig db key data)
  | deletePublishConfig key => (Services.deletePublishConfig db key).getD db
  | setPublishEnabled key enabled => Services.setPublishEnabled db key enabled

def step (settings : Settings) (db : Database) (call : ApiCall) : Option Database :=
  some (call.after settings db)

end ApiCall

variable {settings : Settings} {db db' : Database} {device template : UUID}

/-- What a transaction keeps. -/
theorem committed_of {ε : Type} {P : Database → Prop} {x : Except ε Database} (h : P db)
    (hok : ∀ db', x = .ok db' → P db') : P (committed db x) := by
  cases x with
  | ok db' => exact hok db' rfl
  | error e => exact h

theorem checked_of {P : Database → Prop} {check : Except AppException Unit}
    {write : Database → Database} (h : P db) (hok : check = .ok () → P (write db)) :
    P (checked check write db) := by
  cases check with
  | ok u => exact hok rfl
  | error e => exact h

theorem map_ok {ε α β : Type} {f : α → β} {x : Except ε α} {b : β} (h : x.map f = .ok b) :
    ∃ a, x = .ok a ∧ f a = b := by
  cases x with
  | ok a => exact ⟨a, rfl, Except.ok.inj h⟩
  | error e => cases h

section Consistent

theorem consistent_perform {call : LibraryCall} (h : db.Consistent)
    (hok : call.perform db = .ok db') : db'.Consistent := by
  cases call with
  | createTemplate data e => exact consistent_createTemplate h hok
  | updateTemplate template data e => exact consistent_updateTemplate h hok
  | deleteTemplate template => exact consistent_deleteTemplate h ((mapError_ok_iff _ _ _).1 hok)
  | cloneTemplate template newName e =>
    obtain ⟨data, hok⟩ := cloneTemplate_ok hok
    exact consistent_createTemplate h hok
  | importTemplateFile data e => exact consistent_createTemplate h hok
  | createProfile data e => exact consistent_createProfile h ((mapError_ok_iff _ _ _).1 hok)
  | updateProfile profile data newFirst e =>
    exact consistent_updateProfile h ((mapError_ok_iff _ _ _).1 hok)
  | deleteProfile profile => exact consistent_deleteProfile h ((mapError_ok_iff _ _ _).1 hok)
  | importProfile template data e =>
    obtain ⟨data, hok⟩ := importProfile_ok hok
    exact consistent_createProfile h hok
  | createScenario data => exact consistent_createScenario h hok
  | updateScenario scenario data => exact consistent_updateScenario h hok
  | deleteScenario scenario => exact consistent_deleteScenario h ((mapError_ok_iff _ _ _).1 hok)
  | importScenario data =>
    obtain ⟨data, hok⟩ := importScenario_ok hok
    exact consistent_createScenario h hok
  | importSystem data =>
    obtain ⟨r, hok⟩ := LibraryCall.perform_importSystem hok
    exact consistent_importSystem h hok

theorem ApiCall.consistent_after (h : db.Consistent) (call : ApiCall) :
    (call.after settings db).Consistent := by
  cases call with
  | library call => exact committed_of h fun _ hok => consistent_perform h hok
  | createDevice data =>
    obtain ⟨rows, -, done, happlied⟩ := @createDevice_newDevices db settings h data
    exact happlied.consistent
  | batchCreateDevices data =>
    obtain ⟨rows, -, done, happlied⟩ := @batchCreateDevices_newDevices db settings h data
    exact happlied.consistent
  | updateDevice device data => exact committed_of h fun _ hok => consistent_updateDevice h hok
  | setStatus device status => exact consistent_setStatus h status
  | deleteDevice device =>
    refine committed_of h fun db' hok => ?_
    obtain ⟨d, -, -, rfl⟩ := deleteDevice_ok_iff.1 hok
    exact consistent_deleteRow h
  | setConfigs device configs =>
    rw [after]
    refine checked_of h fun hok => ?_
    exact consistent_setConfigs h hok
  | updateConfig device registerName data =>
    rw [after]
    refine checked_of h fun hok => ?_
    exact consistent_upsertConfig h hok
  | deleteConfigs device =>
    rw [after]
    refine checked_of h fun _ => ?_
    exact consistent_deleteConfigs h
  | setSchedules device schedules => exact committed_of h fun _ hok => consistent_setSchedules h hok
  | deleteSchedules device =>
    exact committed_of h fun _ hok => deleteSchedules_ok hok ▸ consistent_removeSchedules h
  | createBroker data =>
    refine committed_of h fun db' hok => ?_
    obtain ⟨⟨_, row⟩, hrow, rfl⟩ := map_ok hok
    exact consistent_createBroker h hrow
  | updateBroker broker data =>
    refine committed_of h fun db' hok => ?_
    obtain ⟨⟨_, row⟩, hrow, rfl⟩ := map_ok hok
    exact consistent_updateBroker h hrow
  | deleteBroker broker => exact committed_of h fun _ hok => consistent_deleteBroker h hok
  | upsertPublishConfig key data =>
    exact committed_of h fun _ hok => consistent_upsertPublishConfig h hok
  | deletePublishConfig key =>
    rw [after]
    cases hok : Services.deletePublishConfig db key with
    | none => exact h
    | some db' => exact consistent_deletePublishConfig h hok
  | setPublishEnabled key enabled => exact consistent_setPublishEnabled h enabled

theorem ApiCall.consistent_step {call : ApiCall} (h : db.Consistent)
    (hstep : step settings db call = some db') : db'.Consistent :=
  Option.some.inj hstep ▸ call.consistent_after h

/-- Whatever is called, every database that a history reaches is within its constraints. -/
theorem ApiCall.always_consistent (settings : Settings) (h : db.Consistent)
    (calls : List ApiCall) : Always (step settings) Database.Consistent db calls :=
  ⟨h, (EachStep.invariant (fun _ _ _ h hstep => consistent_step h hstep) h).mono
    fun _ _ _ hboth => hboth.2⟩

theorem consistent_ruledDatabase : ruledDatabase.Consistent :=
  { valid_ruledDatabase with
    rowIds := by
      constructor
      all_goals exact ⟨by decide, by decide⟩
    brokerFresh := by decide
    profileIds := by decide
    profileFresh := by decide
    profileTemplates := by decide
    profileNames := by decide
    profileDefaults := by decide
    scenarioIds := by decide
    scenarioFresh := by decide
    scenarioTemplates := by decide
    scenarioNames := by decide }

/-- The device goes, and then its template. -/
theorem ApiCall.always_consistent_cleared :
    Always (step {}) Database.Consistent ruledDatabase
      [.deleteDevice 2, .library (.deleteTemplate 0)] :=
  always_consistent {} consistent_ruledDatabase _

end Consistent

/-- The rules on a stored scenario: its steps do not overlap, within a register, and end within
its duration. -/
structure ValidScenario (s : Scenario) : Prop where
  times : ∀ step ∈ s.steps, 0 ≤ step.triggerAtSeconds ∧ 0 < step.durationSeconds
  ends : ∀ step ∈ s.steps, step.triggerAtSeconds + step.durationSeconds ≤ s.totalDurationSeconds
  no_overlap : s.steps.Pairwise fun a b => a.registerName = b.registerName →
    ¬ Window.Overlap (fun step : ScenarioStep => step.triggerAtSeconds)
      (fun step => step.triggerAtSeconds + step.durationSeconds) a b

/-- The rules on registers, on the slave id ceiling and the port of a device, on the data mode and
the interval of a config, on the schedules of a device, on the configs of a profile and on the
times of a scenario's steps. That rows name registers of the template is not among them: an update
of a template may drop one. -/
structure Ruled (settings : Settings) (db : Database) : Prop extends WellFormed settings db where
  profiles : ∀ p ∈ db.simulationProfiles, ∀ c ∈ p.configs, ValidConfig c
  scenarios : ∀ s ∈ db.scenarios, ValidScenario s

section Templates

theorem validConfig_create (c : SimulationConfigCreate) : ValidConfig c.toConfigEntry :=
  ⟨c.mode_valid, c.interval_ge, c.interval_le⟩

/-- Registers that are accepted follow the rules. -/
theorem validRegisters_build {protocol : Protocol} {data : List RegisterDefinitionCreate}
    (hne : data ≠ []) (hoverlap : protocol = .modbusTcp → validateNoAddressOverlap data = .ok ())
    (first : UUID) :
    ValidRegisters protocol (registerRows template first (buildRegisters data)) := by
  have hbuilt : ValidRegisters protocol (buildRegisters data) := by
    constructor
    · rwa [buildRegisters, Ne, List.map_eq_nil_iff]
    · intro r hr
      obtain ⟨reg, -, rfl⟩ := List.mem_map.1 hr
      exact ⟨reg.data_type_valid, reg.byte_order_valid, reg.function_code_valid,
        reg.address_nonneg⟩
    · intro hmodbus a ha b hb hname hcode
      obtain ⟨reg, hreg, rfl⟩ := List.mem_map.1 ha
      obtain ⟨reg', hreg', rfl⟩ := List.mem_map.1 hb
      exact not_overlap_of_validate (hoverlap hmodbus) hreg hreg' (fun heq => hname (heq ▸ rfl))
        hcode
  refine .of_bare (fun r => ?_) hbuilt
  rw [bare_registerRows]

theorem filter_putRegisters {registers : List RegisterDefinition} {first t : UUID} :
    (db.registers.filter (·.templateId ≠ template) ++
        registerRows template first registers).filter (·.templateId = t) =
      if t = template then registerRows template first registers
      else db.registers.filter (·.templateId = t) := by
  rw [List.filter_append, List.filter_filter]
  split
  next ht =>
    subst ht
    rw [List.filter_eq_nil_iff.2 (by simp), List.nil_append, List.filter_eq_self]
    exact fun r hr => by simpa using registerRows_template hr
  next ht =>
    have hnone : (registerRows template first registers).filter (·.templateId = t) = [] :=
      List.filter_eq_nil_iff.2 fun r hr => by simpa [registerRows_template hr] using Ne.symm ht
    rw [hnone, List.append_nil]
    refine List.filter_congr fun r _ => ?_
    by_cases hr : r.templateId = t <;> simp [hr, ht]

/-- The registers of a template are replaced by ones that follow the rules. -/
theorem Ruled.of_registers {templates : List DeviceTemplate} {registers : List RegisterDefinition}
    {first next : UUID} (h : Ruled settings db)
    (hnew : ∀ t ∈ templates, t.id = template →
      ValidRegisters t.protocol (registerRows template first registers))
    (hold : ∀ t ∈ templates, t.id ≠ template → t ∈ db.templates)
    (hsuits : ∀ d ∈ db.devices, d.templateId = template → ∀ t ∈ templates, t.id = template →
      Suits settings t.protocol d.slaveId d.port) :
    Ruled settings { db with
      templates
      registers := db.registers.filter (·.templateId ≠ template) ++
        registerRows template first registers
      nextId := next } :=
  { h with
    templates := fun t ht => by
      rw [filter_putRegisters]
      split
      next hid => exact hnew t ht hid
      next hid => exact h.templates t (hold t ht hid)
    devices := fun d hd t ht hid => by
      by_cases htemplate : t.id = template
      · exact hsuits d hd (hid.symm.trans htemplate) t ht htemplate
      · exact h.devices d hd t (hold t ht htemplate) hid }

theorem ruled_createTemplate {data : TemplateCreate} {e : String} (hkeyed : db.Keyed)
    (h : Ruled settings db) (hok : createTemplate db data false e = .ok db') :
    Ruled settings db' := by
  obtain ⟨hoverlap, -, -⟩ := createTemplate_checked hok
  obtain ⟨-, rfl⟩ := createTemplate_ok hok
  rw [← filter_registers_next hkeyed]
  refine h.of_registers (fun t ht hid => ?_) (fun t ht hne => ?_) fun d hd hid => ?_
  · rcases List.mem_append.1 ht with ht | ht
    · exact absurd hid (hkeyed.templateFresh t ht).ne
    · rw [List.mem_singleton.1 ht]
      exact validRegisters_build data.registers_not_empty hoverlap _
  · rcases List.mem_append.1 ht with ht | ht
    · exact ht
    · rw [List.mem_singleton.1 ht] at hne
      exact absurd rfl hne
  · obtain ⟨t, ht, htemplate⟩ := hkeyed.deviceTemplates d hd
    exact absurd (htemplate.trans hid) (hkeyed.templateFresh t ht).ne

/-- An accepted update of a template follows the rules just if its protocol suits the devices. -/
theorem ruled_updateTemplate_iff {data : TemplateUpdate} {e : String} (hkeyed : db.Keyed)
    (h : Ruled settings db) (hok : updateTemplate db template data e = .ok db') :
    Ruled settings db' ↔ ∀ d ∈ db.devices, d.templateId = template →
      Suits settings data.protocol d.slaveId d.port := by
  obtain ⟨t₀, hfound, -, hoverlap, -, -, rfl⟩ := updateTemplate_ok hok
  obtain ⟨ht₀, hid₀⟩ := hkeyed.findTemplate_iff.1 hfound
  constructor
  · intro hnew d hd hid
    have hmem := @Table.mem_update _ _ _ DeviceTemplate.id db.templates template t₀ (fun row =>
      { row with name := data.name, protocol := data.protocol, description := data.description })
      ht₀
    rw [if_pos hid₀] at hmem
    exact hnew.devices d hd _ hmem (hid₀.trans hid.symm)
  · intro hsuits
    have hrow : ∀ t ∈ Table.update DeviceTemplate.id db.templates template (fun row =>
        { row with name := data.name, protocol := data.protocol, description := data.description }),
        (t.id = template → t.protocol = data.protocol) ∧ (t.id ≠ template → t ∈ db.templates) := by
      intro t ht
      obtain ⟨t', ht', rfl⟩ := List.mem_map.1 ht
      split
      next hid => exact ⟨fun _ => rfl, fun hne => absurd hid hne⟩
      next hne => exact ⟨fun hid => absurd hid hne, fun _ => ht'⟩
    refine h.of_registers (fun t ht hid => ?_) (fun t ht => (hrow t ht).2)
      fun d hd hid t ht hid' => ?_
    · rw [(hrow t ht).1 hid]
      exact validRegisters_build data.registers_not_empty hoverlap _
    · rw [(hrow t ht).1 hid']
      exact hsuits d hd hid

theorem ruled_deleteTemplate (h : Ruled settings db)
    (hok : deleteTemplate db template = .ok db') : Ruled settings db' := by
  obtain ⟨t₀, -, -, -, rfl⟩ := deleteTemplate_ok hok
  exact { h with
    templates := fun t ht => by
      obtain ⟨ht, hne⟩ := List.mem_filter.1 ht
      have hfilter : (db.registers.filter (·.templateId ≠ template)).filter
          (·.templateId = t.id) = db.registers.filter (·.templateId = t.id) := by
        rw [List.filter_filter]
        refine List.filter_congr fun r _ => ?_
        by_cases hr : r.templateId = t.id
        · simpa [hr] using hne
        · simp [hr]
      exact (congrArg (ValidRegisters t.protocol) hfilter).mpr (h.templates t ht)
    devices := fun d hd t ht => h.devices d hd t (List.mem_of_mem_filter ht)
    profiles := fun p hp => h.profiles p (List.mem_of_mem_filter hp)
    scenarios := fun s hs => h.scenarios s (List.mem_of_mem_filter hs) }

end Templates

section Profiles

theorem Ruled.of_profiles {profiles : List SimulationProfile} {next : UUID} (h : Ruled settings db)
    (hprofiles : ∀ p ∈ profiles, (∃ p₀ ∈ db.simulationProfiles, p.configs = p₀.configs) ∨
      ∃ configs : List SimulationConfigCreate, p.configs = configs.map (·.toConfigEntry)) :
    Ruled settings { db with simulationProfiles := profiles, nextId := next } :=
  { h with
    profiles := fun p hp c hc => by
      rcases hprofiles p hp with ⟨p₀, hp₀, hconfigs⟩ | ⟨configs, hconfigs⟩
      · exact h.profiles p₀ hp₀ c (hconfigs ▸ hc)
      · rw [hconfigs] at hc
        obtain ⟨cfg, -, rfl⟩ := List.mem_map.1 hc
        exact validConfig_create cfg }

theorem ruled_createProfile {data : SimulationProfileCreate} {e : String} (h : Ruled settings db)
    (hok : createProfile db data e = .ok db') : Ruled settings db' := by
  obtain ⟨-, profiles, hold, p, -, hconfigs, rfl⟩ := createProfile_ok hok
  refine h.of_profiles fun q hq => ?_
  rcases List.mem_append.1 hq with hq | hq
  · obtain ⟨p₀, hp₀, -, hsame⟩ := hold q hq
    exact Or.inl ⟨p₀, hp₀, hsame.symm⟩
  · rw [List.mem_singleton.1 hq]
    exact Or.inr ⟨_, hconfigs⟩

theorem ruled_updateProfile {profile : UUID} {data : SimulationProfileUpdate} {newFirst : Bool}
    {e : String} (h : Ruled settings db)
    (hok : updateProfile db profile data newFirst e = .ok db') : Ruled settings db' := by
  obtain ⟨profiles, hold, rfl⟩ := updateProfile_ok hok
  refine h.of_profiles fun p hp => ?_
  obtain ⟨p₀, hp₀, -, hconfigs⟩ := hold p hp
  exact hconfigs.imp_left fun hsame => ⟨p₀, hp₀, hsame⟩

theorem ruled_deleteProfile {profile : UUID} (h : Ruled settings db)
    (hok : deleteProfile db profile = .ok db') : Ruled settings db' := by
  obtain rfl := deleteProfile_ok hok
  exact h.of_profiles fun p hp => Or.inl ⟨p, List.mem_of_mem_filter hp, rfl⟩

end Profiles

section Scenarios

theorem buildSteps_times {next : UUID} (steps : List ScenarioStepCreate) :
    (buildSteps next steps).map (fun s => (s.registerName, s.triggerAtSeconds, s.durationSeconds)) =
      steps.map fun s => (s.registerName, s.triggerAtSeconds, s.durationSeconds) := by
  induction steps generalizing next with
  | nil => rfl
  | cons s steps ih => rw [buildSteps, List.map_cons, List.map_cons, ih]

theorem mem_scenarioSteps {next : UUID} {steps : List ScenarioStepCreate} {step : ScenarioStep}
    (h : step ∈ scenarioSteps next steps) : ∃ s ∈ steps, s.registerName = step.registerName ∧
      s.triggerAtSeconds = step.triggerAtSeconds ∧ s.durationSeconds = step.durationSeconds := by
  have hmem := List.mem_map_of_mem
    (f := fun s : ScenarioStep => (s.registerName, s.triggerAtSeconds, s.durationSeconds))
    (List.mem_mergeSort.1 h)
  rw [buildSteps_times] at hmem
  obtain ⟨s, hs, heq⟩ := List.mem_map.1 hmem
  exact ⟨s, hs, congrArg (·.1) heq, congrArg (·.2.1) heq, congrArg (·.2.2) heq⟩

/-- Steps that are accepted follow the rules. -/
theorem validScenario_steps {s : Scenario} {steps : List ScenarioStepCreate}
    {registerNames : List String} {next : UUID} (hsteps : s.steps = scenarioSteps next steps)
    (htotal : s.totalDurationSeconds = computeTotalDuration steps)
    (hok : validateSteps steps registerNames = .ok ()) : ValidScenario s := by
  constructor
  · intro step hstep
    rw [hsteps] at hstep
    obtain ⟨c, -, -, htrigger, hduration⟩ := mem_scenarioSteps hstep
    exact ⟨htrigger ▸ c.trigger_nonneg, hduration ▸ c.duration_pos⟩
  · intro step hstep
    rw [hsteps] at hstep
    obtain ⟨c, hc, -, htrigger, hduration⟩ := mem_scenarioSteps hstep
    rw [htotal, ← htrigger, ← hduration]
    exact le_computeTotalDuration hc
  · have hpairs : steps.Pairwise fun a b => a.registerName = b.registerName →
        ¬ Window.Overlap ScenarioStepCreate.start ScenarioStepCreate.stop a b :=
      Window.pairwise_groups_iff.1 fun regName => validateSteps_pairwise hok regName
    -- the rule is about the three values that `buildSteps` copies
    let R : String × ℤ × ℤ → String × ℤ × ℤ → Prop := fun a b => a.1 = b.1 →
      ¬ Window.Overlap (fun v : String × ℤ × ℤ => v.2.1) (fun v => v.2.1 + v.2.2) a b
    have hbuilt : (buildSteps next steps).Pairwise fun a b =>
        R (a.registerName, a.triggerAtSeconds, a.durationSeconds)
          (b.registerName, b.triggerAtSeconds, b.durationSeconds) := by
      refine List.pairwise_map.1 ?_
      rw [buildSteps_times]
      exact List.pairwise_map.2 hpairs
    have hperm : (buildSteps next steps).Perm s.steps := by
      rw [hsteps]
      exact (List.mergeSort_perm _ _).symm
    exact (hperm.pairwise_iff fun {a b} hab hname ho => hab hname.symm ho.symm).1 hbuilt

theorem Ruled.of_scenarios {scenarios : List Scenario} {next : UUID} (h : Ruled settings db)
    (hscenarios : ∀ s ∈ scenarios, s ∈ db.scenarios ∨ ValidScenario s) :
    Ruled settings { db with scenarios, nextId := next } :=
  { h with scenarios := fun s hs => (hscenarios s hs).elim (h.scenarios s) id }

theorem ruled_createScenario {data : ScenarioCreate} (h : Ruled settings db)
    (hok : createScenario db data false = .ok db') : Ruled settings db' := by
  simp only [createScenario, bind_ok_iff, mapError_ok_iff] at hok
  obtain ⟨t, -, _, hsteps, _, -, hok⟩ := hok
  obtain rfl := Except.ok.inj hok
  refine h.of_scenarios fun s hs => ?_
  rcases List.mem_append.1 hs with hs | hs
  · exact Or.inl hs
  · rw [List.mem_singleton.1 hs]
    exact Or.inr (validScenario_steps rfl rfl hsteps)

theorem ruled_updateScenario {scenario : UUID} {data : ScenarioUpdate} (h : Ruled settings db)
    (hok : updateScenario db scenario data = .ok db') : Ruled settings db' := by
  simp only [updateScenario, bind_ok_iff, mapError_ok_iff] at hok
  obtain ⟨s₀, -, _, -, t, -, _, hsteps, _, -, hok⟩ := hok
  obtain rfl := Except.ok.inj hok
  refine h.of_scenarios fun s' hs' => ?_
  obtain ⟨s, hs, rfl⟩ := List.mem_map.1 hs'
  split
  · exact Or.inr (validScenario_steps rfl rfl hsteps)
  · exact Or.inl hs

theorem ruled_deleteScenario {scenario : UUID} (h : Ruled settings db)
    (hok : deleteScenario db scenario = .ok db') : Ruled settings db' := by
  simp only [deleteScenario, bind_ok_iff] at hok
  obtain ⟨-, -, -, -, hok⟩ := hok
  obtain rfl := Except.ok.inj hok
  exact h.of_scenarios fun s hs => Or.inl (List.mem_of_mem_filter hs)

end Scenarios

section Devices

/-- The rows of devices that are new follow the rules. -/
theorem NewDevices.ruled {rows : List DeviceInstance} (hkeyed : db.Keyed) (h : Ruled settings db)
    (hnew : NewDevices settings db rows db') : Ruled settings db' := by
  obtain ⟨done, happlied⟩ := hnew.applied
  rw [happlied.frame]
  exact { h with
    devices := fun d hd t ht hid => by
      rcases List.mem_append.1 hd with hd | hd
      · exact h.devices d hd t ht hid
      · obtain ⟨t', ht', hsuits⟩ := hnew.suits d hd
        obtain ⟨hmem, hid'⟩ := hkeyed.findTemplate_iff.1 ht'
        rwa [hkeyed.template_ext ht hmem (hid.trans hid'.symm)]
    configs := fun c hc => by
      rcases happlied.configs c hc with hc | ⟨-, p, hp, hentry⟩
      · exact h.configs c hc
      · exact h.profiles p hp _ hentry }

theorem ruled_updateDevice {data : DeviceUpdate} (hkeyed : db.Keyed) (h : Ruled settings db)
    (hok : updateDevice settings db device data = .ok db') : Ruled settings db' := by
  simp only [updateDevice, bind_ok_iff, mapError_ok_iff] at hok
  obtain ⟨d₀, hd₀, _, -, t₀, ht₀, port, hcheck, hok⟩ := hok
  obtain rfl := Except.ok.inj hok
  rw [getDeviceOr404_ok_iff] at hd₀
  rw [Database.getTemplate_ok_iff] at ht₀
  obtain ⟨hmem₀, hid₀⟩ := hkeyed.findDevice_iff.1 hd₀
  obtain ⟨ht₀, htid₀⟩ := hkeyed.findTemplate_iff.1 ht₀
  exact { h with
    devices := fun d hd t ht hid => by
      obtain ⟨d', hd', rfl⟩ := List.mem_map.1 hd
      split at hid
      next hdevice =>
        rw [hkeyed.device_ext hd' hmem₀ (hdevice.trans hid₀.symm)] at hid
        rw [if_pos hdevice, hkeyed.template_ext ht ht₀ (hid.trans htid₀.symm)]
        exact checkDevice_suits hcheck
      next hdevice =>
        rw [if_neg hdevice]
        exact h.devices d' hd' t ht hid }

theorem ruled_setStatus (h : Ruled settings db) (status : DeviceStatus) :
    Ruled settings (db.setStatus device status) :=
  { h with
    devices := fun d hd t ht hid => by
      obtain ⟨d', hd', rfl⟩ := List.mem_map.1 hd
      have hsuits := h.devices d' hd' t ht
      split at hid
      next hdevice =>
        rw [if_pos hdevice]
        exact hsuits hid
      next hdevice =>
        rw [if_neg hdevice]
        exact hsuits hid }

end Devices

section Configs

variable {configs : List SimulationConfigCreate} {registerName : String}

theorem ruled_setConfigs (h : Ruled settings db) :
    Ruled settings (setConfigs db device configs) := by
  obtain ⟨rows, hrows, -, -, hdb⟩ := setConfigs_eq db device configs
  rw [hdb]
  exact { h with
    configs := fun c hc => by
      rcases List.mem_append.1 hc with hc | hc
      · exact h.configs c (List.mem_of_mem_filter hc)
      · have hentry := List.mem_map_of_mem (f := fun r : SimulationConfig => r.toConfigEntry) hc
        rw [hrows] at hentry
        obtain ⟨cfg, -, heq⟩ := List.mem_map.1 hentry
        exact heq ▸ validConfig_create cfg }

theorem ruled_upsertConfig {data : ConfigEntry} (h : Ruled settings db) (hdata : ValidConfig data) :
    Ruled settings (upsertConfig db device registerName data) := by
  have hnamed : ∀ name, ValidConfig { data with registerName := name } :=
    fun _ => ⟨hdata.mode_valid, hdata.interval_ge, hdata.interval_le⟩
  unfold upsertConfig
  split
  next =>
    exact { h with
      configs := fun c hc => by
        obtain ⟨c₀, hc₀, rfl⟩ := List.mem_map.1 hc
        split
        · exact hnamed _
        · exact h.configs c₀ hc₀ }
  next =>
    exact { h with
      configs := fun c hc => by
        rcases List.mem_append.1 hc with hc | hc
        · exact h.configs c hc
        · exact List.mem_singleton.1 hc ▸ hnamed _ }

theorem ruled_deleteConfigs (h : Ruled settings db) : Ruled settings (deleteConfigs db device) :=
  { h with configs := fun c hc => h.configs c (List.mem_of_mem_filter hc) }

end Configs

section Schedules

variable {α ι : Type} {key : α → UUID × ι}

/-- The rows of a device are replaced. -/
theorem ofDevice_put {rows new : List α} (hnew : ∀ r ∈ new, (key r).1 = device) (d : UUID) :
    ofDevice key (rows.filter (fun r => (key r).1 ≠ device) ++ new) d =
      if d = device then new else ofDevice key rows d := by
  rw [ofDevice, List.filter_append, List.filter_filter]
  split
  next hd =>
    subst hd
    rw [List.filter_eq_nil_iff.2 (by simp), List.nil_append, List.filter_eq_self]
    exact fun r hr => by simpa using hnew r hr
  next hd =>
    have hnone : new.filter (fun r => (key r).1 = d) = [] :=
      List.filter_eq_nil_iff.2 fun r hr => by simpa [hnew r hr] using Ne.symm hd
    rw [hnone, List.append_nil]
    refine List.filter_congr fun r _ => ?_
    by_cases hr : (key r).1 = d <;> simp [hr, hd]

theorem validSchedules_nil : ValidSchedules [] := ⟨by simp, List.Pairwise.nil⟩

/-- A batch of schedules that is accepted follows the rules. -/
theorem validSchedules_write {schedules : List AnomalyScheduleWrite}
    (hpairs : (schedules.map (·.toAnomalyScheduleCreate)).Pairwise fun a b =>
      a.registerName = b.registerName →
        ¬ Window.Overlap AnomalyScheduleCreate.aStart AnomalyScheduleCreate.aEnd a b) :
    ValidSchedules (schedules.map fun s => (s.toScheduleEntry, s.isEnabled)) := by
  constructor
  · intro e he
    obtain ⟨s, -, rfl⟩ := List.mem_map.1 he
    have htrigger := s.trigger_nonneg
    have hduration := s.duration_pos
    simp only [validateSchedule, andThen_ok_iff, raiseIf_ok_iff]
    exact ⟨s.params_valid.validType, not_lt.2 htrigger, not_le.2 hduration,
      s.params_valid.validParams⟩
  · exact List.pairwise_map.2 (List.pairwise_map.1 hpairs)

theorem Ruled.of_schedules {new : List AnomalySchedule} {next : UUID} (h : Ruled settings db)
    (hnew : ∀ r ∈ new, r.deviceId = device) (hvalid : ValidSchedules (new.map (·.toEntry))) :
    Ruled settings { db with
      anomalySchedules := db.anomalySchedules.filter (·.deviceId ≠ device) ++ new
      nextId := next } :=
  { h with
    schedules := fun d => by
      have hof := @ofDevice_put device _ _ AnomalySchedule.key db.anomalySchedules new hnew d
      refine (congrArg (fun rows => ValidSchedules (rows.map (·.toEntry))) hof).mpr ?_
      split
      · exact hvalid
      · exact h.schedules d }

theorem ruled_setSchedules {schedules : List AnomalyScheduleWrite} (h : Ruled settings db)
    (hok : setSchedules db device schedules = .ok db') : Ruled settings db' := by
  obtain ⟨-, hpairs, rows, hrows, -, hdevice, rfl⟩ := setSchedules_ok hok
  exact h.of_schedules hdevice (hrows ▸ validSchedules_write hpairs)

theorem ruled_removeSchedules (h : Ruled settings db) :
    Ruled settings (removeSchedules db device) := by
  have hremoved := @Ruled.of_schedules settings db device [] db.nextId h
    (fun _ hr => absurd hr List.not_mem_nil) validSchedules_nil
  rwa [List.append_nil] at hremoved

theorem ruled_deleteRow (h : Ruled settings db) : Ruled settings (deleteRow db device) := by
  have hschedules := (@ruled_removeSchedules settings db device h).schedules
  exact { h with
    devices := fun d hd => h.devices d (List.mem_of_mem_filter hd)
    configs := fun c hc => h.configs c (List.mem_of_mem_filter hc)
    schedules := hschedules }

end Schedules

section Mqtt

variable {key : PublishKey}

/-- The rules do not look at the two tables of MQTT. -/
theorem Ruled.of_onlyMqtt (h : Ruled settings db) (honly : OnlyMqtt db db') :
    Ruled settings db' := by
  rw [honly.frame]
  exact { h with }

theorem onlyMqtt_createBroker {data : MqttBrokerWrite} {row : MqttBrokerSettings}
    (hok : createBroker db data = .ok (db', row)) : OnlyMqtt db db' := by
  simp only [createBroker, andThen_ok_iff] at hok
  obtain ⟨rfl, -⟩ := Prod.mk.inj (Except.ok.inj hok.2)
  exact ⟨rfl, Nat.le_succ _⟩

theorem onlyMqtt_updateBroker {broker : UUID} {data : MqttBrokerWrite} {row : MqttBrokerSettings}
    (hok : updateBroker db broker data = .ok (db', row)) : OnlyMqtt db db' := by
  simp only [updateBroker, bind_ok_iff] at hok
  obtain ⟨old, -, _, -, hok⟩ := hok
  obtain ⟨rfl, -⟩ := Prod.mk.inj (Except.ok.inj hok)
  exact ⟨rfl, le_rfl⟩

theorem onlyMqtt_deleteBroker {broker : UUID} (hok : deleteBroker db broker = .ok db') :
    OnlyMqtt db db' := by
  obtain ⟨row, -, hok⟩ := bind_ok_iff.1 hok
  rw [andThen_ok_iff] at hok
  obtain rfl := Except.ok.inj hok.2
  exact ⟨rfl, le_rfl⟩

theorem onlyMqtt_upsertPublishConfig {data : MqttPublishConfigWrite}
    (hok : upsertPublishConfig db key data = .ok db') : OnlyMqtt db db' := by
  obtain ⟨rows, next, rfl, hnext, -⟩ := upsertPublishConfig_frame hok
  exact ⟨rfl, hnext⟩

theorem onlyMqtt_deletePublishConfig (db : Database) (key : PublishKey) :
    OnlyMqtt db ((deletePublishConfig db key).getD db) := by
  rw [deletePublishConfig]
  cases db.publishConfigFor key with
  | none => exact ⟨rfl, le_rfl⟩
  | some m => exact ⟨rfl, le_rfl⟩

end Mqtt

section Import

theorem forall_configs_iff {rows : List SimulationConfig} {P : ConfigEntry → Prop} :
    (∀ c ∈ rows, P c.toConfigEntry) ↔ ∀ device, ∀ c ∈
      (ofDevice SimulationConfig.key rows device).map (·.toConfigEntry), P c := by
  constructor
  · intro h device c hc
    obtain ⟨row, hrow, rfl⟩ := List.mem_map.1 hc
    exact h row (List.mem_of_mem_filter hrow)
  · intro h c hc
    exact h c.deviceId _ (List.mem_map_of_mem (List.mem_filter.2 ⟨hc, decide_eq_true rfl⟩))

/-- An accepted import follows the rules just if its document does, as far as it counts. -/
theorem ruled_importSystem_iff {data : SystemImport} {r : ImportResult} (hvalid : db.Valid)
    (h : Ruled settings db) (hok : importSystem db data = .ok (db', r)) :
    Ruled settings db' ↔ FollowsRules settings db data := by
  obtain ⟨s₁, s₂, s₃, s₄, himp⟩ := imported_of_importSystem hvalid.toKeyed hok
  have htemplates := himp.templates_iff hvalid h.templates
  have hdevices := @Imported.devices_iff settings _ _ _ _ _ _ _ himp hvalid.toKeyed h.devices
  have hschedules := himp.forall_device_iff hvalid.toKeyed himp.scheduleRows (Q := ValidSchedules)
    validSchedules_nil h.schedules
  have hconfigs := himp.forall_device_iff hvalid.toKeyed himp.configRows
    (Q := fun l => ∀ c ∈ l, ValidConfig c) (by simp) (forall_configs_iff.1 h.configs)
  rw [← forall_configs_iff] at hconfigs
  simp only [List.forall_mem_map] at hconfigs
  constructor
  · intro hnew
    obtain ⟨hlisted, hunlisted⟩ := hdevices.1 hnew.devices
    exact ⟨htemplates.1 hnew.templates, hlisted, hunlisted, hconfigs.1 hnew.configs,
      hschedules.1 hnew.schedules⟩
  · intro hdata
    refine ⟨⟨htemplates.2 hdata.templates, hdevices.2 ⟨hdata.listed, hdata.unlisted⟩,
      hconfigs.2 hdata.configs, hschedules.2 hdata.schedules⟩, ?_, ?_⟩
    · rw [himp.profiles_eq]
      exact h.profiles
    · rw [himp.scenarios_eq]
      exact h.scenarios

end Import

namespace ApiCall

/-- The two calls that can leave the rules, when they are accepted: the update of a template whose
protocol does not suit its devices, and the import of a document that breaks a rule. -/
def KeepsRules (settings : Settings) (db : Database) : ApiCall → Prop
  | library (.updateTemplate template data e) =>
    (Services.updateTemplate db template data e).isOk → ∀ d ∈ db.devices,
      d.templateId = template → Suits settings data.protocol d.slaveId d.port
  | library (.importSystem data) =>
    (Services.importSystem db data).isOk → FollowsRules settings db data
  | _ => True

theorem ruled_library_iff {call : LibraryCall} (hvalid : db.Valid) (h : Ruled settings db) :
    Ruled settings (after settings db (library call)) ↔
      (library call).KeepsRules settings db := by
  have hsafe : (∀ db', call.perform db = .ok db' → Ruled settings db') →
      Ruled settings (after settings db (library call)) := committed_of h
  cases call with
  | createTemplate data e =>
    exact iff_of_true (hsafe fun _ hok => ruled_createTemplate hvalid.toKeyed h hok) trivial
  | updateTemplate template data e =>
    rw [after, KeepsRules, LibraryCall.perform]
    cases hok : Services.updateTemplate db template data e with
    | ok db' =>
      exact (ruled_updateTemplate_iff hvalid.toKeyed h hok).trans (imp_iff_right rfl).symm
    | error e => exact iff_of_true h fun hno => by cases hno
  | deleteTemplate template =>
    exact iff_of_true (hsafe fun _ hok => ruled_deleteTemplate h ((mapError_ok_iff _ _ _).1 hok))
      trivial
  | cloneTemplate template newName e =>
    refine iff_of_true (hsafe fun _ hok => ?_) trivial
    obtain ⟨data, hok⟩ := cloneTemplate_ok hok
    exact ruled_createTemplate hvalid.toKeyed h hok
  | importTemplateFile data e =>
    exact iff_of_true (hsafe fun _ hok => ruled_createTemplate hvalid.toKeyed h hok) trivial
  | createProfile data e =>
    exact iff_of_true (hsafe fun _ hok => ruled_createProfile h ((mapError_ok_iff _ _ _).1 hok))
      trivial
  | updateProfile profile data newFirst e =>
    exact iff_of_true (hsafe fun _ hok => ruled_updateProfile h ((mapError_ok_iff _ _ _).1 hok))
      trivial
  | deleteProfile profile =>
    exact iff_of_true (hsafe fun _ hok => ruled_deleteProfile h ((mapError_ok_iff _ _ _).1 hok))
      trivial
  | importProfile template data e =>
    refine iff_of_true (hsafe fun _ hok => ?_) trivial
    obtain ⟨data, hok⟩ := importProfile_ok hok
    exact ruled_createProfile h hok
  | createScenario data =>
    exact iff_of_true (hsafe fun _ hok => ruled_createScenario h hok) trivial
  | updateScenario scenario data =>
    exact iff_of_true (hsafe fun _ hok => ruled_updateScenario h hok) trivial
  | deleteScenario scenario =>
    exact iff_of_true (hsafe fun _ hok => ruled_deleteScenario h ((mapError_ok_iff _ _ _).1 hok))
      trivial
  | importScenario data =>
    refine iff_of_true (hsafe fun _ hok => ?_) trivial
    obtain ⟨data, hok⟩ := importScenario_ok hok
    exact ruled_createScenario h hok
  | importSystem data =>
    rw [after, KeepsRules, LibraryCall.perform]
    cases hok : Services.importSystem db data with
    | ok result => exact (ruled_importSystem_iff hvalid h hok).trans (imp_iff_right rfl).symm
    | error e => exact iff_of_true h fun hno => by cases hno

theorem ruled_after_iff (hconsistent : db.Consistent) (h : Ruled settings db) (call : ApiCall) :
    Ruled settings (call.after settings db) ↔ call.KeepsRules settings db := by
  cases call with
  | library call => exact ruled_library_iff hconsistent.toValid h
  | createDevice data =>
    obtain ⟨rows, hnew⟩ := @createDevice_newDevices db settings hconsistent data
    exact iff_of_true (hnew.ruled hconsistent.toKeyed h) trivial
  | batchCreateDevices data =>
    obtain ⟨rows, hnew⟩ := @batchCreateDevices_newDevices db settings hconsistent data
    exact iff_of_true (hnew.ruled hconsistent.toKeyed h) trivial
  | updateDevice device data =>
    exact iff_of_true (committed_of h fun _ hok => ruled_updateDevice hconsistent.toKeyed h hok)
      trivial
  | setStatus device status => exact iff_of_true (ruled_setStatus h status) trivial
  | deleteDevice device =>
    refine iff_of_true (committed_of h fun db' hok => ?_) trivial
    obtain ⟨d, -, -, rfl⟩ := deleteDevice_ok_iff.1 hok
    exact ruled_deleteRow h
  | setConfigs device configs =>
    refine iff_of_true ?_ trivial
    rw [after]
    exact checked_of h fun _ => ruled_setConfigs h
  | updateConfig device registerName data =>
    refine iff_of_true ?_ trivial
    rw [after]
    exact checked_of h fun _ => ruled_upsertConfig h (validConfig_create data)
  | deleteConfigs device =>
    refine iff_of_true ?_ trivial
    rw [after]
    exact checked_of h fun _ => ruled_deleteConfigs h
  | setSchedules device schedules =>
    exact iff_of_true (committed_of h fun _ hok => ruled_setSchedules h hok) trivial
  | deleteSchedules device =>
    refine iff_of_true (committed_of h fun _ hok => ?_) trivial
    exact deleteSchedules_ok hok ▸ ruled_removeSchedules h
  | createBroker data =>
    refine iff_of_true (committed_of h fun db' hok => ?_) trivial
    obtain ⟨⟨_, row⟩, hrow, rfl⟩ := map_ok hok
    exact h.of_onlyMqtt (onlyMqtt_createBroker hrow)
  | updateBroker broker data =>
    refine iff_of_true (committed_of h fun db' hok => ?_) trivial
    obtain ⟨⟨_, row⟩, hrow, rfl⟩ := map_ok hok
    exact h.of_onlyMqtt (onlyMqtt_updateBroker hrow)
  | deleteBroker broker =>
    refine iff_of_true (committed_of h fun _ hok => ?_) trivial
    exact h.of_onlyMqtt (onlyMqtt_deleteBroker hok)
  | upsertPublishConfig key data =>
    refine iff_of_true (committed_of h fun _ hok => ?_) trivial
    exact h.of_onlyMqtt (onlyMqtt_upsertPublishConfig hok)
  | deletePublishConfig key =>
    exact iff_of_true (h.of_onlyMqtt (onlyMqtt_deletePublishConfig db key)) trivial
  | setPublishEnabled key enabled => exact iff_of_true (h.of_onlyMqtt ⟨rfl, le_rfl⟩) trivial

/-- From a database that follows the rules, every database that a history reaches does, exactly if
each of its calls keeps them. -/
theorem always_ruled_iff (hconsistent : db.Consistent) (h : Ruled settings db)
    (calls : List ApiCall) : Always (step settings) (Ruled settings) db calls ↔
      EachStep (step settings) (fun db call _ => call.KeepsRules settings db) db calls :=
  always_iff_eachStep (J := Database.Consistent) (fun _ _ _ h hstep => consistent_step h hstep)
    (fun _ call _ hconsistent h hstep => Option.some.inj hstep ▸
      ruled_after_iff hconsistent h call) hconsistent h

theorem ruled_ruledDatabase : Ruled {} ruledDatabase :=
  { wellFormed_ruledDatabase with
    profiles := fun _ hp => absurd hp List.not_mem_nil
    scenarios := fun _ hs => absurd hs List.not_mem_nil }

theorem always_ruled_iff_cleared :
    Always (step {}) (Ruled {}) ruledDatabase [.deleteDevice 2, .library (.deleteTemplate 0)] ↔
      EachStep (step {}) (fun db call _ => call.KeepsRules {} db) ruledDatabase
        [.deleteDevice 2, .library (.deleteTemplate 0)] :=
  always_ruled_iff consistent_ruledDatabase ruled_ruledDatabase _

end ApiCall

section Files

def LibraryCall.writesProfile : LibraryCall → Bool
  | createProfile _ _ | updateProfile _ _ _ _ | importProfile _ _ _ => true
  | _ => false

def LibraryCall.writesScenario : LibraryCall → Bool
  | createScenario _ | updateScenario _ _ | importScenario _ => true
  | _ => false

def ApiCall.writesProfile : ApiCall → Bool
  | library call => call.writesProfile
  | _ => false

def ApiCall.writesScenario : ApiCall → Bool
  | library call => call.writesScenario
  | _ => false

/-- A call that writes no profile leaves the ones that stay as they were, and so for scenarios. -/
structure FilesKept (call : ApiCall) (db db' : Database) : Prop where
  profiles : call.writesProfile = false →
    ∀ p ∈ db'.simulationProfiles, p ∈ db.simulationProfiles
  scenarios : call.writesScenario = false → ∀ s ∈ db'.scenarios, s ∈ db.scenarios

theorem FilesKept.of_eq {call : ApiCall}
    (hprofiles : db'.simulationProfiles = db.simulationProfiles)
    (hscenarios : db'.scenarios = db.scenarios) : FilesKept call db db' :=
  ⟨fun _ _ hp => hprofiles ▸ hp, fun _ _ hs => hscenarios ▸ hs⟩

theorem FilesKept.of_onlyMqtt {call : ApiCall} (h : OnlyMqtt db db') : FilesKept call db db' := by
  rw [h.frame]
  exact .of_eq rfl rfl

theorem filesKept_perform {call : LibraryCall} (h : db.Consistent)
    (hok : call.perform db = .ok db') : FilesKept (.library call) db db' := by
  cases call with
  | createTemplate data e =>
    obtain ⟨-, rfl⟩ := createTemplate_ok hok
    exact .of_eq rfl rfl
  | updateTemplate template data e =>
    obtain ⟨_, -, -, -, -, -, rfl⟩ := updateTemplate_ok hok
    exact .of_eq rfl rfl
  | deleteTemplate template =>
    obtain ⟨_, -, -, -, rfl⟩ := deleteTemplate_ok ((mapError_ok_iff _ _ _).1 hok)
    exact ⟨fun _ _ hp => List.mem_of_mem_filter hp, fun _ _ hs => List.mem_of_mem_filter hs⟩
  | cloneTemplate template newName e =>
    obtain ⟨data, hok⟩ := cloneTemplate_ok hok
    obtain ⟨-, rfl⟩ := createTemplate_ok hok
    exact .of_eq rfl rfl
  | importTemplateFile data e =>
    obtain ⟨-, rfl⟩ := createTemplate_ok hok
    exact .of_eq rfl rfl
  | createProfile data e =>
    obtain ⟨-, _, -, _, -, -, rfl⟩ := createProfile_ok ((mapError_ok_iff _ _ _).1 hok)
    exact ⟨Bool.noConfusion, fun _ _ hs => hs⟩
  | updateProfile profile data newFirst e =>
    obtain ⟨_, -, rfl⟩ := updateProfile_ok ((mapError_ok_iff _ _ _).1 hok)
    exact ⟨Bool.noConfusion, fun _ _ hs => hs⟩
  | deleteProfile profile =>
    obtain rfl := deleteProfile_ok ((mapError_ok_iff _ _ _).1 hok)
    exact ⟨fun _ _ hp => List.mem_of_mem_filter hp, fun _ _ hs => hs⟩
  | importProfile template data e =>
    obtain ⟨data, hok⟩ := importProfile_ok hok
    obtain ⟨-, _, -, _, -, -, rfl⟩ := createProfile_ok hok
    exact ⟨Bool.noConfusion, fun _ _ hs => hs⟩
  | createScenario data =>
    simp only [LibraryCall.perform, createScenario, bind_ok_iff] at hok
    obtain ⟨_, -, _, -, _, -, hok⟩ := hok
    obtain rfl := Except.ok.inj hok
    exact ⟨fun _ _ hp => hp, Bool.noConfusion⟩
  | updateScenario scenario data =>
    simp only [LibraryCall.perform, updateScenario, bind_ok_iff] at hok
    obtain ⟨_, -, _, -, _, -, _, -, _, -, hok⟩ := hok
    obtain rfl := Except.ok.inj hok
    exact ⟨fun _ _ hp => hp, Bool.noConfusion⟩
  | deleteScenario scenario =>
    simp only [LibraryCall.perform, mapError_ok_iff, deleteScenario, bind_ok_iff] at hok
    obtain ⟨-, -, -, -, hok⟩ := hok
    obtain rfl := Except.ok.inj hok
    exact ⟨fun _ _ hp => hp, fun _ _ hs => List.mem_of_mem_filter hs⟩
  | importScenario data =>
    obtain ⟨data, hok⟩ := importScenario_ok hok
    simp only [createScenario, bind_ok_iff] at hok
    obtain ⟨_, -, _, -, _, -, hok⟩ := hok
    obtain rfl := Except.ok.inj hok
    exact ⟨fun _ _ hp => hp, Bool.noConfusion⟩
  | importSystem data =>
    obtain ⟨r, hok⟩ := LibraryCall.perform_importSystem hok
    obtain ⟨_, _, _, _, himp⟩ := imported_of_importSystem h.toKeyed hok
    exact .of_eq himp.profiles_eq himp.scenarios_eq

theorem ApiCall.filesKept_after (h : db.Consistent) (call : ApiCall) :
    FilesKept call db (call.after settings db) := by
  cases call with
  | library call => exact committed_of (.of_eq rfl rfl) fun _ hok => filesKept_perform h hok
  | createDevice data =>
    obtain ⟨rows, -, _, happlied⟩ := @createDevice_newDevices db settings h data
    rw [after, happlied.frame]
    exact .of_eq rfl rfl
  | batchCreateDevices data =>
    obtain ⟨rows, -, _, happlied⟩ := @batchCreateDevices_newDevices db settings h data
    rw [after, happlied.frame]
    exact .of_eq rfl rfl
  | updateDevice device data =>
    refine committed_of (.of_eq rfl rfl) fun db' hok => ?_
    simp only [Services.updateDevice, bind_ok_iff] at hok
    obtain ⟨_, -, _, -, _, -, _, -, hok⟩ := hok
    obtain rfl := Except.ok.inj hok
    exact .of_eq rfl rfl
  | setStatus device status => exact .of_eq rfl rfl
  | deleteDevice device =>
    refine committed_of (.of_eq rfl rfl) fun db' hok => ?_
    obtain ⟨d, -, -, rfl⟩ := deleteDevice_ok_iff.1 hok
    exact .of_eq rfl rfl
  | setConfigs device configs =>
    rw [after]
    refine checked_of (.of_eq rfl rfl) fun _ => ?_
    obtain ⟨rows, -, -, -, hrows⟩ := setConfigs_eq db device configs
    rw [hrows]
    exact .of_eq rfl rfl
  | updateConfig device registerName data =>
    rw [after]
    refine checked_of (.of_eq rfl rfl) fun _ => ?_
    rw [upsertConfig]
    split <;> exact .of_eq rfl rfl
  | deleteConfigs device =>
    rw [after]
    exact checked_of (.of_eq rfl rfl) fun _ => .of_eq rfl rfl
  | setSchedules device schedules =>
    refine committed_of (.of_eq rfl rfl) fun db' hok => ?_
    obtain ⟨-, -, _, -, -, -, rfl⟩ := setSchedules_ok hok
    exact .of_eq rfl rfl
  | deleteSchedules device =>
    refine committed_of (.of_eq rfl rfl) fun db' hok => ?_
    obtain rfl := deleteSchedules_ok hok
    exact .of_eq rfl rfl
  | createBroker data =>
    refine committed_of (.of_eq rfl rfl) fun db' hok => ?_
    obtain ⟨⟨_, row⟩, hrow, rfl⟩ := map_ok hok
    exact .of_onlyMqtt (onlyMqtt_createBroker hrow)
  | updateBroker broker data =>
    refine committed_of (.of_eq rfl rfl) fun db' hok => ?_
    obtain ⟨⟨_, row⟩, hrow, rfl⟩ := map_ok hok
    exact .of_onlyMqtt (onlyMqtt_updateBroker hrow)
  | deleteBroker broker =>
    exact committed_of (.of_eq rfl rfl) fun _ hok => .of_onlyMqtt (onlyMqtt_deleteBroker hok)
  | upsertPublishConfig key data =>
    exact committed_of (.of_eq rfl rfl) fun _ hok => .of_onlyMqtt (onlyMqtt_upsertPublishConfig hok)
  | deletePublishConfig key => exact .of_onlyMqtt (onlyMqtt_deletePublishConfig db key)
  | setPublishEnabled key enabled => exact .of_onlyMqtt ⟨rfl, le_rfl⟩

end Files

end Services

end GhostMeter
