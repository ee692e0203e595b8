import GhostMeter.Services.AcceptedAnomalies
import GhostMeter.Services.ComputedCycles
import GhostMeter.Services.Constraints
import GhostMeter.Services.ImportRules

/-! The constraints on all tables, under the calls for devices, their configs and schedules,
brokers and publish configs. -/

namespace GhostMeter

open GhostMeter.Lib GhostMeter.Simulation GhostMeter.Protocols GhostMeter.Schemas

namespace Services

/-- A schedule as `AnomalyScheduleBatchSet` accepts it. -/
structure AnomalyScheduleWrite extends AnomalyScheduleCreate where
  params_valid : AnomalyParamsBase anomalyType anomalyParams

def insertSchedule (device : UUID) (db : Database) (sched : AnomalyScheduleWrite) : Database :=
  { db with
    anomalySchedules := db.anomalySchedules ++ [{
      toScheduleEntry := sched.toScheduleEntry
      id := db.nextId
      deviceId := device
      isEnabled := sched.isEnabled }]
    nextId := db.nextId + 1 }

def removeSchedules (db : Database) (device : UUID) : Database :=
  { db with anomalySchedules := db.anomalySchedules.filter (·.deviceId ≠ device) }

/-- The seconds are `Integer` columns, and the names are looked up with `scalar_one`. -/
def setSchedules (db : Database) (device : UUID) (schedules : List AnomalyScheduleWrite) :
    Except RequestError Database := do
  let d ← (db.getDeviceOr404 device).mapError .app
  constraint (db.findTemplate d.templateId).isSome
  (checkSchedules (templateRegisterNames db d.templateId)
    (schedules.map (·.toAnomalyScheduleCreate))).mapError .app
  constraint (∀ s ∈ schedules, s.triggerAfterSeconds < 2 ^ 31 ∧ s.durationSeconds < 2 ^ 31)
  return schedules.foldl (insertSchedule device) (removeSchedules db device)

def deleteSchedules (db : Database) (device : UUID) : Except AppException Database := do
  let _ ← db.getDeviceOr404 device
  return removeSchedules db device

variable {db db' : Database} {device : UUID}

theorem getDeviceOr404_ok_iff {d : DeviceInstance} :
    db.getDeviceOr404 device = .ok d ↔ db.findDevice device = some d := by
  rw [Database.getDeviceOr404]
  cases db.findDevice device <;> simp

section Devices

variable {settings : Settings}

/-- The slave id and the port suit the protocol. -/
theorem checkDevice_suits {protocol : Protocol} {slave port : ℤ} {exclude : Option UUID}
    (hok : checkDevice settings db protocol slave exclude = .ok port) :
    Suits settings protocol slave port := by
  unfold checkDevice at hok
  rw [andThen_ok_iff, mapError_ok_iff] at hok
  obtain ⟨hceiling, hok⟩ := hok
  split at hok
  next => cases hok
  next port' hport =>
    rw [andThen_ok_iff] at hok
    obtain rfl := Except.ok.inj hok.2
    exact ⟨hceiling, hport⟩

theorem consistent_updateDevice {data : DeviceUpdate} (h : db.Consistent)
    (hok : updateDevice settings db device data = .ok db') : db'.Consistent := by
  obtain ⟨port, hno, rfl⟩ := updateDevice_ok hok
  refine h.of_devices le_rfl (h.toKeyed.updateDevice (fun _ => rfl) (fun _ => rfl) ?_)
    fun d hd => ⟨_, Table.mem_update hd, ?_⟩
  · intro d _ _ d' hd' hne hkey
    refine hno ⟨d', hd', congrArg Prod.fst hkey, congrArg Prod.snd hkey, ?_⟩
    exact fun heq => hne (Option.some.inj heq)
  · split <;> rfl

theorem consistent_setStatus (h : db.Consistent) (status : DeviceStatus) :
    (db.setStatus device status).Consistent := by
  refine h.of_devices le_rfl (h.toKeyed.setStatus status) fun d hd => ⟨_, Table.mem_update hd, ?_⟩
  split <;> rfl

/-- The rows of other devices still refer to one. -/
theorem consistent_deleteRow (h : db.Consistent) : (deleteRow db device).Consistent := by
  have hold : ∀ {i : UUID}, i ≠ device → (∃ d ∈ db.devices, d.id = i) →
      ∃ d ∈ db.devices.filter (·.id ≠ device), d.id = i := by
    rintro i hne ⟨d, hd, rfl⟩
    exact ⟨d, List.mem_filter.2 ⟨hd, by simpa using hne⟩, rfl⟩
  exact { h with
    toKeyed := h.toKeyed.deleteRow
    configKeys := h.configKeys.sublist (List.filter_sublist.map _)
    configDevices := fun c hc => by
      obtain ⟨hc, hne⟩ := List.mem_filter.1 hc
      exact hold (by simpa using hne) (h.configDevices c hc)
    rowIds := { h.rowIds with
      configs := h.rowIds.configs.sublist List.filter_sublist
      schedules := h.rowIds.schedules.sublist List.filter_sublist
      publishConfigs := h.rowIds.publishConfigs.sublist List.filter_sublist }
    scheduleKeys := h.scheduleKeys.sublist (List.filter_sublist.map _)
    scheduleDevices := fun s hs => by
      obtain ⟨hs, hne⟩ := List.mem_filter.1 hs
      exact hold (by simpa using hne) (h.scheduleDevices s hs)
    publishKeys := h.publishKeys.sublist (List.filter_sublist.map _)
    publishDevices := fun m hm => by
      obtain ⟨hm, hne⟩ := List.mem_filter.1 hm
      exact hold (by simpa using hne) (h.publishDevices m hm)
    publishBrokers := fun m hm => h.publishBrokers m (List.mem_of_mem_filter hm) }

theorem consistent_insertDevice {row : DeviceInstance} (h : db.Consistent)
    (htemplate : (db.findTemplate row.templateId).isSome)
    (hkey : ∀ d ∈ db.devices, d.key ≠ row.key) : (insertDevice db row).Consistent :=
  h.of_devices (Nat.le_succ _) (h.toKeyed.insertDevice htemplate hkey)
    fun d hd => ⟨d, List.mem_append_left _ hd, rfl⟩

theorem consistent_insertDevices {rows : List DeviceInstance} (h : db.Consistent)
    (htemplate : ∀ row ∈ rows, (db.findTemplate row.templateId).isSome)
    (hkey : ∀ row ∈ rows, ∀ d ∈ db.devices, d.key ≠ row.key) (hkeys : (rows.map (·.key)).Nodup) :
    (rows.foldl insertDevice db).Consistent := by
  induction rows generalizing db with
  | nil => exact h
  | cons row rows ih =>
    obtain ⟨hrow, hkeys⟩ := List.nodup_cons.1 hkeys
    have hinsert := consistent_insertDevice h (htemplate row List.mem_cons_self)
      (hkey row List.mem_cons_self)
    refine ih hinsert (fun r hr => htemplate r (List.mem_cons_of_mem _ hr)) (fun r hr d hd => ?_)
      hkeys
    rcases List.mem_append.1 hd with hd | hd
    · exact hkey r (List.mem_cons_of_mem _ hr) d hd
    · rw [List.mem_singleton.1 hd]
      exact fun heq => hrow (List.mem_map.2 ⟨r, hr, heq.symm⟩)

/-- What a resolved profile adds to a device. -/
theorem resolveAndApplyProfile_cases {template : UUID} {profileId : Option (Option UUID)}
    (hok : resolveAndApplyProfile template profileId db device = .ok db') :
    ∃ rows : List SimulationConfig, (∀ r ∈ rows, r.deviceId = device) ∧
      rows.map (·.id) = List.range' db.nextId rows.length ∧ (rows.map (·.registerName)).Nodup ∧
      (∀ r ∈ rows, ∃ p ∈ db.simulationProfiles, r.toConfigEntry ∈ p.configs) ∧
      db' = { db with
        simulationConfigs := db.simulationConfigs ++ rows
        nextId := db.nextId + rows.length } := by
  simp only [resolveAndApplyProfile, bind_ok_iff, mapError_ok_iff] at hok
  obtain ⟨profile, hprofile, hok⟩ := hok
  cases profile with
  | none =>
    obtain rfl := Except.ok.inj hok
    exact ⟨[], by simp, by simp, by simp, by simp, by simp⟩
  | some p =>
    have hmem : p ∈ db.simulationProfiles := by
      unfold resolveProfile at hprofile
      split at hprofile
      next => cases hprofile
      next =>
        split at hprofile
        next => cases hprofile
        next hfind =>
          split at hprofile
          next => cases hprofile
          next => exact Option.some.inj (Except.ok.inj hprofile) ▸ List.mem_of_find?_eq_some hfind
      next => exact List.mem_of_find?_eq_some (Except.ok.inj hprofile)
    dsimp only [applyProfileToDevice] at hok
    split at hok
    next hexpand =>
      obtain ⟨rows, hrows, hids, hdevice, hdb⟩ := Database.insertConfigs db device p.configs
      obtain rfl := Except.ok.inj hok
      refine ⟨rows, hdevice, hids, ?_, fun r hr => ⟨p, hmem, ?_⟩, ?_⟩
      · have hnames := hexpand.1
        rw [← hrows, List.map_map] at hnames
        exact hnames
      · rw [← hrows]
        exact List.mem_map_of_mem hr
      · rw [hdb, ← hrows, List.length_map]
    next => cases hok

/-- The profile has been applied to the devices `done`, from `db₁` on. -/
structure ProfilesApplied (db₁ : Database) (done : List UUID) (s : Database) : Prop where
  frame : s = { db₁ with simulationConfigs := s.simulationConfigs, nextId := s.nextId }
  consistent : s.Consistent
  configs : ∀ c ∈ s.simulationConfigs, c ∈ db₁.simulationConfigs ∨
    c.deviceId ∈ done ∧ ∃ p ∈ db₁.simulationProfiles, c.toConfigEntry ∈ p.configs

theorem ProfilesApplied.step {db₁ : Database} {done : List UUID} {template : UUID}
    {profileId : Option (Option UUID)} (h : ProfilesApplied db₁ done db)
    (hnew : ∀ c ∈ db₁.simulationConfigs, c.deviceId ≠ device) (hdone : device ∉ done)
    (hdevice : ∃ d ∈ db₁.devices, d.id = device)
    (hok : resolveAndApplyProfile template profileId db device = .ok db') :
    ProfilesApplied db₁ (done ++ [device]) db' := by
  obtain ⟨rows, hrows, hids, hnames, hentries, rfl⟩ := resolveAndApplyProfile_cases hok
  have hdevices : db.devices = db₁.devices := by rw [h.frame]
  have hprofiles : db.simulationProfiles = db₁.simulationProfiles := by rw [h.frame]
  have hold : ∀ c ∈ db.simulationConfigs, c.deviceId ≠ device := by
    intro c hc heq
    rcases h.configs c hc with hc | ⟨hmem, -⟩
    · exact hnew c hc heq
    · exact hdone (heq ▸ hmem)
  refine ⟨?_, h.consistent.of_configs (Nat.le_add_right _ _) ?_ ?_ fun c hc => ?_, fun c hc => ?_⟩
  · rw [h.frame]
  · exact h.consistent.rowIds.configs.append_range' hids le_rfl
  · rw [List.map_append, List.nodup_append]
    refine ⟨h.consistent.configKeys, ?_, fun k hk k' hk' heq => ?_⟩
    · refine List.Nodup.of_map Prod.snd ?_
      rw [List.map_map]
      exact hnames
    · obtain ⟨c, hc, rfl⟩ := List.mem_map.1 hk
      obtain ⟨r, hr, rfl⟩ := List.mem_map.1 hk'
      exact hold c hc ((congrArg Prod.fst heq).trans (hrows r hr))
  · rcases List.mem_append.1 hc with hc | hc
    · exact h.consistent.configDevices c hc
    · rw [hrows c hc, hdevices]
      exact hdevice
  · rcases List.mem_append.1 hc with hc | hc
    · exact (h.configs c hc).imp_right fun ⟨hmem, hp⟩ => ⟨List.mem_append_left _ hmem, hp⟩
    · refine Or.inr ⟨?_, hprofiles ▸ hentries c hc⟩
      rw [hrows c hc]
      exact List.mem_append_right _ (List.mem_singleton_self _)

/-- What a creation leaves, whether or not its profile applies. -/
theorem createRows_applied {template : UUID} {profileId : Option (Option UUID)}
    {rows : List DeviceInstance} (h : db.Consistent)
    (hids : rows.map (·.id) = List.range' db.nextId rows.length)
    (htemplate : ∀ row ∈ rows, (db.findTemplate row.templateId).isSome)
    (hkey : ∀ row ∈ rows, ∀ d ∈ db.devices, d.key ≠ row.key) (hkeys : (rows.map (·.key)).Nodup) :
    ∃ done, ProfilesApplied
      { db with devices := db.devices ++ rows, nextId := db.nextId + rows.length } done
      (createRows db template profileId rows).1 := by
  have hinsert := foldl_insertDevice hids
  have hconsistent := consistent_insertDevices h htemplate hkey hkeys
  rw [hinsert] at hconsistent
  unfold createRows
  rw [hinsert]
  generalize hdb₁ : ({ db with
    devices := db.devices ++ rows, nextId := db.nextId + rows.length } : Database) = db₁
    at hconsistent
  have hstart : ProfilesApplied db₁ [] db₁ := ⟨rfl, hconsistent, fun c hc => Or.inl hc⟩
  have hnodup : (rows.map (·.id)).Nodup := hids ▸ List.nodup_range' ..
  have hnew : ∀ i ∈ rows.map (·.id), ∀ c ∈ db₁.simulationConfigs, c.deviceId ≠ i := by
    intro i hi c hc heq
    rw [hids, List.mem_range'_1] at hi
    rw [← hdb₁] at hc
    have hlt := h.configFresh c hc
    rw [heq] at hlt
    exact hi.1.not_gt hlt
  have hdevice : ∀ i ∈ rows.map (·.id), ∃ d ∈ db₁.devices, d.id = i := by
    intro i hi
    obtain ⟨row, hrow, rfl⟩ := List.mem_map.1 hi
    rw [← hdb₁]
    exact ⟨row, List.mem_append_right _ hrow, rfl⟩
  dsimp only
  cases hloop : (rows.map (·.id)).foldlM (resolveAndApplyProfile template profileId) db₁ with
  | error e => exact ⟨[], hstart⟩
  | ok s =>
    -- a new device has no config before its turn
    refine ⟨_, foldlM_invariant (P := fun done s => done <+: rows.map (·.id) →
      ProfilesApplied db₁ done s) (fun done i s s' hP hf hprefix => ?_) (fun _ => hstart) hloop
      (List.prefix_refl _)⟩
    have hi : i ∈ rows.map (·.id) :=
      hprefix.subset (List.mem_append_right _ (List.mem_singleton_self _))
    refine (hP ((List.prefix_append _ _).trans hprefix)).step (hnew i hi) (fun hmem => ?_)
      (hdevice i hi) hf
    exact (List.nodup_append.1 (hnodup.sublist hprefix.sublist)).2.2 i hmem i
      (List.mem_singleton_self _) rfl

/-- A creation is refused, or makes its row. -/
theorem createDevice_made (settings : Settings) (db : Database) (data : DeviceCreate) :
    (createDevice settings db data).1 = db ∨ ∃ t port row,
      db.findTemplate data.templateId = some t ∧
      checkDevice settings db t.protocol data.slaveId none = .ok port ∧ row.id = db.nextId ∧
      row.templateId = data.templateId ∧ row.key = (data.slaveId, port) ∧
      (createDevice settings db data).1 =
        (createRows db data.templateId data.profileId [row]).1 := by
  unfold createDevice
  cases htemplate : db.getTemplate data.templateId with
  | error e => exact Or.inl rfl
  | ok t =>
    cases hcheck : checkDevice settings db t.protocol data.slaveId none with
    | error e =>
      simp only [mapError_ok, hcheck]
      exact Or.inl trivial
    | ok port =>
      by_cases hstorable : Storable data.name data.slaveId data.description
      · refine Or.inr ⟨t, port, ⟨db.nextId, data.templateId, data.name, data.slaveId, .stopped,
          port, data.description⟩, Database.getTemplate_ok_iff.1 htemplate, hcheck, rfl, rfl, rfl,
          ?_⟩
        rw [createRows_singleton, resolveAndApplyProfile]
        simp only [mapError_ok, hcheck, hstorable, not_true_eq_false, if_false]
        generalize insertDevice db _ = db₁
        cases resolveProfile db₁ data.templateId data.profileId with
        | error e => rfl
        | ok profile =>
          cases profile with
          | none => rfl
          | some p =>
            simp only [bind, Except.bind, mapError_ok]
            cases applyProfileToDevice db₁ p db.nextId <;> rfl
      · refine Or.inl ?_
        simp [mapError_ok, hcheck, hstorable]

/-- What the checks of a batch say of each slave id. -/
theorem checkBatch_suits {data : DeviceBatchCreate} {t : DeviceTemplate} {port : ℤ}
    (hok : checkBatch settings db data = .ok (t, port)) : ∀ slave ∈ data.slaveIds,
      Suits settings t.protocol slave port ∧ ∀ d ∈ db.devices, d.key ≠ (slave, port) := by
  simp only [checkBatch, bind_ok_iff, mapError_ok_iff] at hok
  obtain ⟨_, -, _, -, t', ht', _, hceiling, hok⟩ := hok
  split at hok
  next => cases hok
  next port' hport =>
    simp only [bind_ok_iff] at hok
    obtain ⟨_, hslaves, _, -, hok⟩ := hok
    obtain ⟨rfl, rfl⟩ := Prod.mk.inj (Except.ok.inj hok)
    rw [checkAll_ok_iff] at hslaves
    intro slave hslave
    refine ⟨⟨?_, hport⟩, fun d hd hkey => ?_⟩
    · have hle : slave ≤ data.slaveIdEnd := by
        simp only [DeviceBatchCreate.slaveIds, List.mem_map, List.mem_range] at hslave
        obtain ⟨i, hi, rfl⟩ := hslave
        omega
      unfold validateSlaveIdCeiling at hceiling ⊢
      split at hceiling
      next => rfl
      next limit =>
        rw [raiseIf_ok_iff] at hceiling ⊢
        omega
    · have hfree := hslaves slave hslave
      unfold checkSlaveId at hfree
      split at hfree
      next =>
        rw [mapError_ok_iff, checkSlaveIdAvailable, raiseIf_ok_iff] at hfree
        exact hfree ⟨d, hd, congrArg Prod.fst hkey, congrArg Prod.snd hkey, by simp⟩
      next => cases hfree

theorem nodup_slaveIds (data : DeviceBatchCreate) : data.slaveIds.Nodup := by
  refine List.Nodup.map (fun i j hij => ?_) List.nodup_range
  simpa using hij

theorem keys_rows {data : DeviceBatchCreate} {t : DeviceTemplate} {port : ℤ} (first : UUID) :
    (data.rows t port first).map (·.key) = data.slaveIds.map fun slave => (slave, port) := by
  conv_rhs => rw [← List.zipIdx_map_fst 0 data.slaveIds]
  rw [DeviceBatchCreate.rows, List.map_map, List.map_map]
  rfl

/-- New devices, as the checks before them leave them. -/
structure NewDevices (settings : Settings) (db : Database) (rows : List DeviceInstance)
    (db' : Database) : Prop where
  suits : ∀ row ∈ rows, ∃ t, db.findTemplate row.templateId = some t ∧
    Suits settings t.protocol row.slaveId row.port
  applied : ∃ done, ProfilesApplied
    { db with devices := db.devices ++ rows, nextId := db.nextId + rows.length } done db'

/-- What a creation does, of one device or of a batch. -/
theorem createDevice_newDevices (h : db.Consistent) (data : DeviceCreate) :
    ∃ rows, NewDevices settings db rows (createDevice settings db data).1 := by
  rcases createDevice_made settings db data with
    heq | ⟨t, port, row, ht, hcheck, hid, htemplate, hkey, heq⟩
  · exact ⟨[], by simp, [], by rw [heq, List.append_nil]; exact ⟨rfl, h, fun c hc => Or.inl hc⟩⟩
  · refine ⟨[row], ?_, ?_⟩
    · intro r hr
      obtain rfl := List.mem_singleton.1 hr
      have hslave : r.slaveId = data.slaveId := congrArg Prod.fst hkey
      have hport : r.port = port := congrArg Prod.snd hkey
      exact ⟨t, htemplate ▸ ht, by rw [hslave, hport]; exact checkDevice_suits hcheck⟩
    · rw [heq]
      refine createRows_applied h (by simp [hid]) ?_ ?_ (List.nodup_singleton _)
      · intro r hr
        rw [List.mem_singleton.1 hr, htemplate, ht]
        rfl
      · intro r hr d hd hsame
        rw [List.mem_singleton.1 hr, hkey] at hsame
        exact checkDevice_ok hcheck
          ⟨d, hd, congrArg Prod.fst hsame, congrArg Prod.snd hsame, by simp⟩

theorem batchCreateDevices_newDevices (h : db.Consistent) (data : DeviceBatchCreate) :
    ∃ rows, NewDevices settings db rows (batchCreateDevices settings db data).1 := by
  rcases batchCreateDevices_eq settings db data with
    ⟨-, e, heq⟩ | ⟨-, t, port, hcheck, heq⟩
  · exact ⟨[], by simp, [], by rw [heq, List.append_nil]; exact ⟨rfl, h, fun c hc => Or.inl hc⟩⟩
  · have ht := Database.getTemplate_ok_iff.1 (checkBatch_ok hcheck).2
    have hmem : ∀ row ∈ data.rows t port db.nextId, row.templateId = data.templateId ∧
        ∃ slave ∈ data.slaveIds, row.key = (slave, port) := by
      intro row hrow
      obtain ⟨⟨slave, i⟩, hentry, rfl⟩ := List.mem_map.1 hrow
      exact ⟨rfl, slave, (List.mem_zipIdx hentry).2.2 ▸ List.getElem_mem _, rfl⟩
    refine ⟨data.rows t port db.nextId, ?_, ?_⟩
    · intro row hrow
      obtain ⟨htemplate, slave, hslave, hkey⟩ := hmem row hrow
      have hid : row.slaveId = slave := congrArg Prod.fst hkey
      have hport : row.port = port := congrArg Prod.snd hkey
      exact ⟨t, htemplate ▸ ht, by rw [hid, hport]; exact (checkBatch_suits hcheck slave hslave).1⟩
    · rw [heq]
      refine createRows_applied h (ids_rows _) ?_ ?_ ?_
      · intro row hrow
        rw [(hmem row hrow).1, ht]
        rfl
      · intro row hrow d hd
        obtain ⟨-, slave, hslave, hkey⟩ := hmem row hrow
        rw [hkey]
        exact (checkBatch_suits hcheck slave hslave).2 d hd
      · rw [keys_rows]
        exact (nodup_slaveIds data).map fun a b hab => congrArg Prod.fst hab

end Devices

section Configs

variable {configs : List SimulationConfigCreate} {registerName : String}

theorem checkDuplicates_ok_iff {seen : List String} : checkDuplicates seen configs = .ok () ↔
    (configs.map (·.registerName)).Nodup ∧ ∀ cfg ∈ configs, cfg.registerName ∉ seen := by
  induction configs generalizing seen with
  | nil => simp [checkDuplicates]
  | cons cfg configs ih =>
    rw [checkDuplicates]
    split
    next hseen => simp [hseen]
    next hseen =>
      rw [ih, List.map_cons, List.nodup_cons]
      constructor
      · rintro ⟨hnodup, hnew⟩
        refine ⟨⟨fun hmem => ?_, hnodup⟩, ?_⟩
        · obtain ⟨c, hc, hname⟩ := List.mem_map.1 hmem
          exact hnew c hc (hname ▸ List.mem_cons_self)
        · intro c hc
          rcases List.mem_cons.1 hc with rfl | hc
          · exact hseen
          · exact fun hmem => hnew c hc (List.mem_cons_of_mem _ hmem)
      · rintro ⟨⟨hcfg, hnodup⟩, hnew⟩
        refine ⟨hnodup, fun c hc hmem => ?_⟩
        rcases List.mem_cons.1 hmem with hname | hmem
        · exact hcfg (List.mem_map.2 ⟨c, hc, hname⟩)
        · exact hnew c (List.mem_cons_of_mem _ hc) hmem

/-- The configs of a device are the new ones, and the others stay. -/
theorem setConfigs_eq (db : Database) (device : UUID) (configs : List SimulationConfigCreate) :
    ∃ rows : List SimulationConfig, rows.map (·.toConfigEntry) = configs.map (·.toConfigEntry) ∧
      rows.map (·.id) = List.range' db.nextId rows.length ∧
      (∀ r ∈ rows, r.deviceId = device) ∧ setConfigs db device configs = { db with
        simulationConfigs := db.simulationConfigs.filter (·.deviceId ≠ device) ++ rows
        nextId := db.nextId + rows.length } := by
  obtain ⟨rows, hrows, hids, hdevice, hdb⟩ :=
    Database.insertConfigs (deleteConfigs db device) device (configs.map (·.toConfigEntry))
  rw [List.foldl_map, ← hrows, List.length_map] at hdb
  exact ⟨rows, hrows, hids, hdevice, hdb⟩

theorem consistent_setConfigs (h : db.Consistent)
    (hcheck : checkConfigs db device configs = .ok ()) :
    (setConfigs db device configs).Consistent := by
  obtain ⟨d, hd, hcheck⟩ := bind_ok_iff.1 hcheck
  simp only [andThen_ok_iff, checkDuplicates_ok_iff] at hcheck
  rw [getDeviceOr404_ok_iff] at hd
  obtain ⟨rows, hrows, hids, hdevice, hdb⟩ := setConfigs_eq db device configs
  have hnames : (rows.map (·.registerName)).Nodup := by
    have hmap := congrArg (List.map (·.registerName)) hrows
    rw [List.map_map, List.map_map] at hmap
    exact hmap ▸ hcheck.2.1
  rw [hdb]
  refine h.of_configs (Nat.le_add_right _ _) ?_ ?_ fun c hc => ?_
  · exact (h.rowIds.configs.sublist List.filter_sublist).append_range' hids le_rfl
  · rw [List.map_append, List.nodup_append]
    refine ⟨h.configKeys.sublist (List.filter_sublist.map _), ?_, fun k hk k' hk' heq => ?_⟩
    · refine List.Nodup.of_map Prod.snd ?_
      rw [List.map_map]
      exact hnames
    · obtain ⟨c, hc, rfl⟩ := List.mem_map.1 hk
      obtain ⟨r, hr, rfl⟩ := List.mem_map.1 hk'
      have hne : c.deviceId ≠ device := by simpa using List.of_mem_filter hc
      exact hne ((congrArg Prod.fst heq).trans (hdevice r hr))
  · rcases List.mem_append.1 hc with hc | hc
    · exact h.configDevices c (List.mem_of_mem_filter hc)
    · rw [hdevice c hc]
      exact ⟨d, Table.mem_of_find hd, Table.key_of_find hd⟩

theorem consistent_upsertConfig {data : ConfigEntry} (h : db.Consistent)
    (hcheck : checkConfig db device registerName = .ok ()) :
    (upsertConfig db device registerName data).Consistent := by
  obtain ⟨d, hd, -⟩ := bind_ok_iff.1 hcheck
  rw [getDeviceOr404_ok_iff] at hd
  unfold upsertConfig
  split
  next =>
    have hsame : ∀ c : SimulationConfig,
        (if c.deviceId = device ∧ c.registerName = registerName then
        { c with toConfigEntry := { data with registerName := c.registerName } } else c).key =
          c.key := by
      intro c
      split <;> rfl
    have hid : ∀ c : SimulationConfig, (if c.deviceId = device ∧ c.registerName = registerName then
        { c with toConfigEntry := { data with registerName := c.registerName } } else c).id =
          c.id := by
      intro c
      split <;> rfl
    refine h.of_configs le_rfl (h.rowIds.configs.of_ids ?_) ?_ fun c hc => ?_
    · rw [List.map_map]
      exact List.map_congr_left fun c _ => hid c
    · have hkeys := h.configKeys
      rwa [← List.map_congr_left fun c _ => hsame c, ← Function.comp_def,
        ← List.map_map] at hkeys
    · obtain ⟨c₀, hc₀, rfl⟩ := List.mem_map.1 hc
      obtain ⟨d, hd, hid⟩ := h.configDevices c₀ hc₀
      exact ⟨d, hd, hid.trans (congrArg Prod.fst (hsame c₀)).symm⟩
  next hnone =>
    refine h.of_configs (Nat.le_succ _) (h.rowIds.configs.append_new rfl)
      (Table.nodup_append_new h.configKeys fun c hc heq => ?_) fun c hc => ?_
    · refine hnone (List.any_eq_true.2 ⟨c, hc, decide_eq_true ?_⟩)
      exact ⟨congrArg Prod.fst heq, congrArg Prod.snd heq⟩
    · rcases List.mem_append.1 hc with hc | hc
      · exact h.configDevices c hc
      · rw [List.mem_singleton.1 hc]
        exact ⟨d, Table.mem_of_find hd, Table.key_of_find hd⟩

theorem consistent_deleteConfigs (h : db.Consistent) : (deleteConfigs db device).Consistent :=
  h.of_configs le_rfl (h.rowIds.configs.sublist List.filter_sublist)
    (h.configKeys.sublist (List.filter_sublist.map _))
    fun c hc => h.configDevices c (List.mem_of_mem_filter hc)

end Configs

section Schedules

variable {schedules : List AnomalyScheduleWrite}

theorem consistent_removeSchedules (h : db.Consistent) : (removeSchedules db device).Consistent :=
  h.of_schedules le_rfl (h.rowIds.schedules.sublist List.filter_sublist)
    (h.scheduleKeys.sublist (List.filter_sublist.map _))
    fun s hs => h.scheduleDevices s (List.mem_of_mem_filter hs)

/-- The rows that a run of inserts appends. -/
theorem insertSchedules (db : Database) (device : UUID) (schedules : List AnomalyScheduleWrite) :
    ∃ rows : List AnomalySchedule, rows.map AnomalySchedule.toEntry =
        schedules.map (fun s => (s.toScheduleEntry, s.isEnabled)) ∧
      rows.map (·.id) = List.range' db.nextId rows.length ∧
      (∀ r ∈ rows, r.deviceId = device) ∧ schedules.foldl (insertSchedule device) db =
        { db with
          anomalySchedules := db.anomalySchedules ++ rows
          nextId := db.nextId + rows.length } := by
  induction schedules generalizing db with
  | nil => exact ⟨[], rfl, rfl, by simp, by simp⟩
  | cons s schedules ih =>
    obtain ⟨rows, hrows, hids, hdevice, hdb⟩ := ih (insertSchedule device db s)
    refine ⟨⟨s.toScheduleEntry, db.nextId, device, s.isEnabled⟩ :: rows,
      by simp [hrows, AnomalySchedule.toEntry], ?_, by simpa using hdevice, ?_⟩
    · rw [List.map_cons, hids, List.length_cons, List.range'_succ]
      rfl
    · rw [List.foldl_cons, hdb]
      simp [insertSchedule, Nat.add_assoc, Nat.add_comm 1]

theorem checkSchedules_pairwise {validNames : List String} {schedules : List AnomalyScheduleCreate}
    (hok : checkSchedules validNames schedules = .ok ()) :
    schedules.Pairwise fun a b => a.registerName = b.registerName →
      ¬ Window.Overlap AnomalyScheduleCreate.aStart AnomalyScheduleCreate.aEnd a b := by
  rw [checkSchedules, andThen_ok_iff, checkAll_ok_iff, checkAll_ok_iff] at hok
  have hgroups := (@Window.forall_groups_iff _ _ _
    (fun s : AnomalyScheduleCreate => s.registerName)
    (fun name l => checkPairs name l = .ok ()) (fun _ => rfl) schedules).1 hok.2
  exact Window.pairwise_groups_iff.1 fun name => (checkPairs_ok_iff _ _).1 (hgroups name)

/-- What an accepted batch of schedules stores. -/
theorem setSchedules_ok (hok : setSchedules db device schedules = .ok db') :
    (∃ d ∈ db.devices, d.id = device) ∧
      ((schedules.map (·.toAnomalyScheduleCreate)).Pairwise fun a b =>
        a.registerName = b.registerName →
          ¬ Window.Overlap AnomalyScheduleCreate.aStart AnomalyScheduleCreate.aEnd a b) ∧
      ∃ rows : List AnomalySchedule, rows.map AnomalySchedule.toEntry =
          schedules.map (fun s => (s.toScheduleEntry, s.isEnabled)) ∧
        rows.map (·.id) = List.range' db.nextId rows.length ∧
        (∀ r ∈ rows, r.deviceId = device) ∧ db' = { db with
          anomalySchedules := db.anomalySchedules.filter (·.deviceId ≠ device) ++ rows
          nextId := db.nextId + rows.length } := by
  unfold setSchedules at hok
  rw [bind_ok_iff] at hok
  obtain ⟨d, hd, hok⟩ := hok
  simp only [andThen_ok_iff, mapError_ok_iff] at hok
  obtain ⟨-, hcheck, -, hok⟩ := hok
  rw [mapError_ok_iff, getDeviceOr404_ok_iff] at hd
  obtain ⟨rows, hrows, hids, hdevice, hdb⟩ :=
    insertSchedules (removeSchedules db device) device schedules
  exact ⟨⟨d, Table.mem_of_find hd, Table.key_of_find hd⟩, checkSchedules_pairwise hcheck, rows,
    hrows, hids, hdevice, (Except.ok.inj hok).symm.trans hdb⟩

theorem consistent_setSchedules (h : db.Consistent)
    (hok : setSchedules db device schedules = .ok db') : db'.Consistent := by
  obtain ⟨hfound, hpairs, rows, hrows, hids, hdevice, rfl⟩ := setSchedules_ok hok
  have hkey : rows.map (·.key) =
      schedules.map fun s => (device, s.registerName, s.triggerAfterSeconds) := by
    have hmap := congrArg
      (List.map fun e => (device, e.1.registerName, e.1.triggerAfterSeconds)) hrows
    rw [List.map_map, List.map_map] at hmap
    refine Eq.trans (List.map_congr_left fun r hr => ?_) hmap
    rw [Function.comp_apply, ← hdevice r hr]
    rfl
  refine h.of_schedules (Nat.le_add_right _ _) ?_ ?_ fun s hs => ?_
  · exact (h.rowIds.schedules.sublist List.filter_sublist).append_range' hids le_rfl
  · rw [List.map_append, List.nodup_append]
    refine ⟨h.scheduleKeys.sublist (List.filter_sublist.map _), ?_, fun k hk k' hk' heq => ?_⟩
    · -- two schedules that start together overlap
      rw [hkey]
      refine List.pairwise_map.2 ((List.pairwise_map.1 hpairs).imp fun {a b} hab heq => ?_)
      have hname : a.registerName = b.registerName := congrArg (·.2.1) heq
      have hstart : a.triggerAfterSeconds = b.triggerAfterSeconds := congrArg (·.2.2) heq
      have ha := a.duration_pos
      have hb := b.duration_pos
      refine hab hname ⟨?_, ?_⟩
      · simp only [AnomalyScheduleCreate.aStart, AnomalyScheduleCreate.aEnd]
        omega
      · simp only [AnomalyScheduleCreate.aStart, AnomalyScheduleCreate.aEnd]
        omega
    · obtain ⟨s, hs, rfl⟩ := List.mem_map.1 hk
      obtain ⟨r, hr, rfl⟩ := List.mem_map.1 hk'
      have hne : s.deviceId ≠ device := by simpa using List.of_mem_filter hs
      exact hne ((congrArg Prod.fst heq).trans (hdevice r hr))
  · rcases List.mem_append.1 hs with hs | hs
    · exact h.scheduleDevices s (List.mem_of_mem_filter hs)
    · rw [hdevice s hs]
      exact hfound

theorem deleteSchedules_ok (hok : deleteSchedules db device = .ok db') :
    db' = removeSchedules db device := by
  obtain ⟨_, -, hok⟩ := bind_ok_iff.1 hok
  exact (Except.ok.inj hok).symm

end Schedules

section Brokers

variable {key : PublishKey} {broker : UUID} {row : MqttBrokerSettings}

theorem ensureUniqueName_ok_iff {name : String} {exclude : Option UUID} :
    ensureUniqueName db name exclude = .ok () ↔
      ∀ b ∈ db.mqttBrokers, b.name = name → some b.id = exclude := by
  rw [ensureUniqueName, raiseIf_ok_iff]
  push Not
  rfl

theorem consistent_createBroker {data : MqttBrokerWrite} (h : db.Consistent)
    (hok : createBroker db data = .ok (db', row)) : db'.Consistent := by
  simp only [createBroker, andThen_ok_iff, ensureUniqueName_ok_iff] at hok
  obtain ⟨hname, hok⟩ := hok
  obtain ⟨rfl, -⟩ := Prod.mk.inj (Except.ok.inj hok)
  exact h.of_newBroker rfl fun b hb heq => by cases hname b hb heq

theorem consistent_updateBroker {data : MqttBrokerWrite} (h : db.Consistent)
    (hok : updateBroker db broker data = .ok (db', row)) : db'.Consistent := by
  simp only [updateBroker, bind_ok_iff] at hok
  obtain ⟨old, hold, _, hname, hok⟩ := hok
  obtain ⟨rfl, -⟩ := Prod.mk.inj (Except.ok.inj hok)
  rw [ensureUniqueName_ok_iff] at hname
  have hfound : db.findBroker broker = some old := by
    unfold getBrokerOr404 at hold
    split at hold
    next b hb => exact hb.trans (congrArg some (Except.ok.inj hold))
    next => cases hold
  refine h.of_updateBroker (fun _ => rfl)
    (Table.nodup_update_of_key h.brokerIds h.brokerNames hfound fun b hb hne heq => ?_)
  exact hne (Option.some.inj (hname b hb heq))

theorem consistent_deleteBroker (h : db.Consistent) (hok : deleteBroker db broker = .ok db') :
    db'.Consistent := by
  have hkeyed := (deleteBroker_ok h.mqttKeyed hok).1
  obtain ⟨row, -, hok⟩ := bind_ok_iff.1 hok
  rw [andThen_ok_iff] at hok
  obtain rfl := Except.ok.inj hok.2
  exact h.of_mqtt le_rfl hkeyed (h.rowIds.publishConfigs.sublist List.filter_sublist)
    (h.brokerIds.sublist (List.filter_sublist.map _))
    (h.brokerNames.sublist (List.filter_sublist.map _))

theorem upsertPublishConfig_frame {data : MqttPublishConfigWrite}
    (hok : upsertPublishConfig db key data = .ok db') :
    ∃ rows next, db' = { db with mqttPublishConfigs := rows, nextId := next } ∧
      db.nextId ≤ next ∧
      (Table.Allotted MqttPublishConfig.id db.mqttPublishConfigs db.nextId →
        Table.Allotted MqttPublishConfig.id rows next) := by
  simp only [upsertPublishConfig, bind_ok_iff] at hok
  obtain ⟨b, -, hok⟩ := hok
  split at hok
  next =>
    split at hok
    next => cases hok
    next =>
      obtain rfl := Except.ok.inj hok
      exact ⟨_, _, rfl, Nat.le_succ _, fun h => h.append_new rfl⟩
  next =>
    obtain rfl := Except.ok.inj hok
    exact ⟨_, _, rfl, le_rfl, fun h => h.of_ids (Table.map_update fun _ => rfl)⟩

theorem consistent_upsertPublishConfig {data : MqttPublishConfigWrite} (h : db.Consistent)
    (hok : upsertPublishConfig db key data = .ok db') : db'.Consistent := by
  have hkeyed := (upsertPublishConfig_ok h.mqttKeyed hok).1
  obtain ⟨rows, next, rfl, hnext, hids⟩ := upsertPublishConfig_frame hok
  exact h.of_mqtt hnext hkeyed (hids h.rowIds.publishConfigs) h.brokerIds h.brokerNames

theorem consistent_deletePublishConfig (h : db.Consistent)
    (hok : deletePublishConfig db key = some db') : db'.Consistent := by
  have hkeyed := (deletePublishConfig_ok h.mqttKeyed hok).1
  obtain ⟨_, -, rfl⟩ := Option.map_eq_some_iff.1 hok
  exact h.of_mqtt le_rfl hkeyed (h.rowIds.publishConfigs.sublist List.filter_sublist) h.brokerIds
    h.brokerNames

theorem consistent_setPublishEnabled (h : db.Consistent) (on : Bool) :
    (setPublishEnabled db key on).Consistent :=
  h.of_mqtt le_rfl (mqttKeyed_setPublishEnabled h.mqttKeyed on)
    (h.rowIds.publishConfigs.of_ids (Table.map_update fun _ => rfl)) h.brokerIds h.brokerNames

end Brokers

end Services

end GhostMeter
