import GhostMeter.Services.DeviceRows

/-! Whether the creation of devices is all or nothing, for one device and for a batch. -/

namespace GhostMeter

open GhostMeter.Lib GhostMeter.Simulation GhostMeter.Protocols

/-- The constraints, with those that tell the profiles apart: their primary key, and one default
for each template. -/
structure Database.Profiled (db : Database) : Prop extends db.Valid where
  profileIds : (db.simulationProfiles.map (·.id)).Nodup
  profileDefaults : ((db.simulationProfiles.filter (·.isDefault)).map (·.templateId)).Nodup

/-- What the simulation configs of a device say. -/
def Database.configsOf (db : Database) (device : UUID) : List ConfigEntry :=
  (db.simulationConfigs.filter (·.deviceId = device)).map (·.toConfigEntry)

namespace Services

structure DeviceBatchCreate where
  templateId : UUID
  slaveIdStart : ℤ
  slaveIdEnd : ℤ
  namePrefix : Option String := none
  description : Option String := none
  /-- Absent, null, or an id. -/
  profileId : Option (Option UUID) := none
  start_pos : 1 ≤ slaveIdStart
  end_pos : 1 ≤ slaveIdEnd

namespace DeviceBatchCreate

variable (data : DeviceBatchCreate)

/-- The slave ids from the first to the last. -/
def slaveIds : List ℤ :=
  (List.range (data.slaveIdEnd + 1 - data.slaveIdStart).toNat).map fun i : ℕ =>
    data.slaveIdStart + i

/-- An empty prefix is none. -/
def nameOf (template : DeviceTemplate) (slave : ℤ) : String :=
  match data.namePrefix.filter (· ≠ "") with
  | some pre => s!"{pre}{slave}"
  | none => s!"{template.name} - Slave {slave}"

def row (template : DeviceTemplate) (port : ℤ) (id : UUID) (slave : ℤ) : DeviceInstance where
  id := id
  templateId := data.templateId
  name := data.nameOf template slave
  slaveId := slave
  status := .stopped
  port := port
  description := data.description

/-- The rows of the batch, with fresh ids from the first on. -/
def rows (template : DeviceTemplate) (port : ℤ) (first : UUID) : List DeviceInstance :=
  data.slaveIds.zipIdx.map fun (slave, i) => data.row template port (first + i) slave

end DeviceBatchCreate

/-- The driver refuses to look for a slave id that is no `Integer`. -/
def checkSlaveId (db : Database) (port slave : ℤ) : Except RequestError Unit :=
  if slave < 2 ^ 31 then (checkSlaveIdAvailable db slave port none).mapError .app
  else .error .unhandled

def checkName (name : String) : Except RequestError Unit :=
  raiseIf (200 < name.length)
    (.app (validationException s!"Generated name '{name}' exceeds 200 character limit"))

/-- The template and the port of a batch, once the checks before its commit pass. -/
def checkBatch (settings : Settings) (db : Database) (data : DeviceBatchCreate) :
    Except RequestError (DeviceTemplate × ℤ) := do
  raiseIf (data.slaveIdEnd < data.slaveIdStart)
    (.app (validationException "slave_id_start must be <= slave_id_end"))
  raiseIf (50 < data.slaveIdEnd - data.slaveIdStart + 1)
    (.app (validationException "Batch create limited to 50 devices"))
  let template ← (db.getTemplate data.templateId).mapError .app
  (validateSlaveIdCeiling template.protocol data.slaveIdEnd).mapError .app
  match settings.resolvePort template.protocol with
  | none => .error .unhandled
  | some port =>
    checkAll (checkSlaveId db port) data.slaveIds
    checkAll (fun slave => checkName (data.nameOf template slave)) data.slaveIds
    return (template, port)

def resolveAndApplyProfile (template : UUID) (profileId : Option (Option UUID)) (db : Database)
    (device : UUID) : Except RequestError Database := do
  match ← (resolveProfile db template profileId).mapError RequestError.app with
  | none => return db
  | some profile => applyProfileToDevice db profile device

/-- From the commit of the rows on: the profile is applied to all devices before the next commit. -/
def createRows (db : Database) (template : UUID) (profileId : Option (Option UUID))
    (rows : List DeviceInstance) : Database × Except RequestError (List UUID) :=
  let db := rows.foldl insertDevice db
  match (rows.map (·.id)).foldlM (resolveAndApplyProfile template profileId) db with
  | .error e => (db, .error e)
  | .ok db => (db, .ok (rows.map (·.id)))

def batchCreateDevices (settings : Settings) (db : Database) (data : DeviceBatchCreate) :
    Database × Except RequestError (List UUID) :=
  match checkBatch settings db data with
  | .error e => (db, .error e)
  | .ok (template, port) =>
    let rows := data.rows template port db.nextId
    if ¬ ∀ row ∈ rows, Storable row.name row.slaveId row.description then (db, .error .unhandled)
    else createRows db data.templateId data.profileId rows

/-- The profile of a request: the given one, which is of the template, none if the field is null,
and the default of the template if the field is absent. -/
inductive Resolves (db : Database) (template : UUID) :
    Option (Option UUID) → Option SimulationProfile → Prop
  | given {p : SimulationProfile} : p ∈ db.simulationProfiles → p.templateId = template →
      Resolves db template (some (some p.id)) (some p)
  | null : Resolves db template (some none) none
  | byDefault {p : SimulationProfile} : p ∈ db.simulationProfiles → p.templateId = template →
      p.isDefault → Resolves db template none (some p)
  | noDefault : (∀ p ∈ db.simulationProfiles, p.templateId = template → ¬ p.isDefault) →
      Resolves db template none none

/-- A call that raises adds no device and no config, and one that returns adds the requested
devices, with exactly the configs of the resolved profile. -/
structure AllOrNothing (db : Database) (template : UUID) (profileId : Option (Option UUID))
    (requested : List DeviceInstance → Prop)
    (result : Database × Except RequestError (List UUID)) : Prop where
  raised : ∀ e, result.2 = .error e →
    result.1.devices = db.devices ∧ result.1.simulationConfigs = db.simulationConfigs
  returned : ∀ ids, result.2 = .ok ids → ∃ rows profile,
    requested rows ∧ rows.map (·.id) = ids ∧ result.1.devices = db.devices ++ rows ∧
      Resolves db template profileId profile ∧
      ∀ device, result.1.configsOf device =
        if device ∈ ids then profile.elim [] (·.configs) else db.configsOf device

/-- The request has a profile that can be expanded, or none. -/
def ProfileApplies (db : Database) (template : UUID) (profileId : Option (Option UUID)) : Prop :=
  ∃ profile, Resolves db template profileId profile ∧ ∀ p ∈ profile, p.Expandable

/-- What the service resolves can be expanded. -/
def Resolvable (db : Database) (template : UUID) (profileId : Option (Option UUID)) : Prop :=
  ∃ profile, resolveProfile db template profileId = .ok profile ∧ ∀ p ∈ profile, p.Expandable

/-- The row is as the request has it. -/
def DeviceCreate.Describes (data : DeviceCreate) (row : DeviceInstance) : Prop :=
  row.templateId = data.templateId ∧ row.name = data.name ∧ row.slaveId = data.slaveId ∧
    row.description = data.description ∧ row.status = .stopped

/-- The rows are as the request has them, with the slave ids in their order. -/
def DeviceBatchCreate.Describes (data : DeviceBatchCreate) (db : Database)
    (rows : List DeviceInstance) : Prop :=
  ∃ t, db.getTemplate data.templateId = .ok t ∧ List.Forall₂ (fun slave row =>
    row.templateId = data.templateId ∧ row.name = data.nameOf t slave ∧ row.slaveId = slave ∧
      row.description = data.description ∧ row.status = .stopped) data.slaveIds rows

/-- The request passes all checks before the commit of its row, and the row can be stored. -/
def Accepts (settings : Settings) (db : Database) (data : DeviceCreate) : Prop :=
  (∃ t port, db.getTemplate data.templateId = .ok t ∧
    checkDevice settings db t.protocol data.slaveId none = .ok port) ∧
    Storable data.name data.slaveId data.description

def AcceptsBatch (settings : Settings) (db : Database) (data : DeviceBatchCreate) : Prop :=
  ∃ t port, checkBatch settings db data = .ok (t, port) ∧
    ∀ slave ∈ data.slaveIds, Storable (data.nameOf t slave) slave data.description

variable {db db' : Database} {template device : UUID} {profileId : Option (Option UUID)}
  {rows : List DeviceInstance} {requested : List DeviceInstance → Prop}

theorem AllOrNothing.refused (e : RequestError) :
    AllOrNothing db template profileId requested (db, .error e) where
  raised _ _ := ⟨rfl, rfl⟩
  returned := by rintro ids ⟨⟩

theorem foldl_insertDevice (hids : rows.map (·.id) = List.range' db.nextId rows.length) :
    rows.foldl insertDevice db =
      { db with devices := db.devices ++ rows, nextId := db.nextId + rows.length } := by
  induction rows generalizing db with
  | nil => simp
  | cons row rows ih =>
    obtain ⟨hid, hids⟩ : row.id = db.nextId ∧
        rows.map (·.id) = List.range' (db.nextId + 1) rows.length := by
      simpa [List.range'_succ] using hids
    have hrow : insertDevice db row =
        { db with devices := db.devices ++ [row], nextId := db.nextId + 1 } := by
      rw [insertDevice, ← hid]
    rw [List.foldl_cons, hrow, ih hids]
    simp [Nat.add_assoc, Nat.add_comm 1]

theorem configsOf_insertConfigs (entries : List ConfigEntry) (d : UUID) :
    (entries.foldl (·.insertConfig device) db).configsOf d =
      db.configsOf d ++ if d = device then entries else [] := by
  obtain ⟨rows, hrows, -, hdevice, hdb⟩ := Database.insertConfigs db device entries
  rw [hdb, Database.configsOf, Database.configsOf, List.filter_append, List.map_append]
  congr 1
  split
  next hd =>
    rw [List.filter_eq_self.2 fun r hr => by simpa [hd] using hdevice r hr, hrows]
  next hd =>
    rw [List.filter_eq_nil_iff.2 fun r hr => by simpa [hdevice r hr] using Ne.symm hd]
    rfl

theorem default_of_find {p : SimulationProfile}
    (h : (db.simulationProfiles.find? fun p => p.templateId = template ∧ p.isDefault) = some p) :
    p ∈ db.simulationProfiles ∧ p.templateId = template ∧ p.isDefault :=
  ⟨List.mem_of_find?_eq_some h, by simpa using List.find?_some h⟩

/-- The service resolves the profile of the request. -/
theorem resolveProfile_ok_iff {profile : Option SimulationProfile} (hdb : db.Profiled) :
    resolveProfile db template profileId = .ok profile ↔
      Resolves db template profileId profile := by
  constructor
  · intro h
    unfold resolveProfile at h
    split at h
    next =>
      obtain rfl := Except.ok.inj h
      exact .null
    next i =>
      split at h
      next => cases h
      next p hfind =>
        split at h
        next => cases h
        next htemplate =>
          obtain rfl := Except.ok.inj h
          obtain ⟨hp, rfl⟩ := (Table.find_eq_some_iff hdb.profileIds).1 hfind
          exact .given hp (not_not.1 htemplate)
    next =>
      obtain rfl := Except.ok.inj h
      cases hfind : db.simulationProfiles.find? fun p => p.templateId = template ∧ p.isDefault with
      | none => exact .noDefault fun p hp => by simpa using List.find?_eq_none.1 hfind p hp
      | some p =>
        obtain ⟨hp, htemplate, hdefault⟩ := default_of_find hfind
        exact .byDefault hp htemplate hdefault
  · rintro (@⟨p, hp, htemplate⟩ | _ | @⟨p, hp, htemplate, hdefault⟩ | hnone)
    · have hfind : db.simulationProfiles.find? (·.id = p.id) = some p :=
        (Table.find_eq_some_iff hdb.profileIds).2 ⟨hp, rfl⟩
      rw [resolveProfile, hfind]
      exact if_neg (not_not.2 htemplate)
    · rfl
    · -- no other default is of the template
      cases hfind : db.simulationProfiles.find? fun p => p.templateId = template ∧ p.isDefault with
      | none =>
        have hno := List.find?_eq_none.1 hfind p hp
        simp [htemplate, hdefault] at hno
      | some q =>
        obtain ⟨hq, htemplate', hdefault'⟩ := default_of_find hfind
        have hq : q = p := List.inj_on_of_nodup_map hdb.profileDefaults
          (List.mem_filter.2 ⟨hq, hdefault'⟩) (List.mem_filter.2 ⟨hp, hdefault⟩)
          (htemplate'.trans htemplate.symm)
        rw [resolveProfile, hfind, hq]
    · rw [resolveProfile, List.find?_eq_none.2 fun p hp => by simpa using hnone p hp]

theorem resolvable_iff (hdb : db.Profiled) :
    Resolvable db template profileId ↔ ProfileApplies db template profileId := by
  simp only [Resolvable, ProfileApplies, resolveProfile_ok_iff hdb]

theorem resolveProfile_congr (h : db'.simulationProfiles = db.simulationProfiles) :
    resolveProfile db' template profileId = resolveProfile db template profileId := by
  unfold resolveProfile
  rw [h]

/-- A profile that applies gives a device its configs, and leaves all others theirs. -/
theorem resolveAndApplyProfile_ok {profile : Option SimulationProfile}
    (hprofile : resolveProfile db template profileId = .ok profile)
    (hexpand : ∀ p ∈ profile, p.Expandable) (device : UUID) :
    ∃ db', resolveAndApplyProfile template profileId db device = .ok db' ∧
      db'.devices = db.devices ∧ db'.simulationProfiles = db.simulationProfiles ∧
      db.nextId ≤ db'.nextId ∧ ∀ d, db'.configsOf d =
        db.configsOf d ++ if d = device then profile.elim [] (·.configs) else [] := by
  unfold resolveAndApplyProfile
  rw [hprofile]
  cases profile with
  | none => exact ⟨db, rfl, rfl, rfl, le_rfl, by simp⟩
  | some p =>
    obtain ⟨rows, -, -, -, hdb⟩ := Database.insertConfigs db device p.configs
    refine ⟨p.configs.foldl (·.insertConfig device) db, ?_, by rw [hdb], by rw [hdb], ?_, ?_⟩
    · exact if_pos (hexpand p rfl)
    · rw [hdb]
      exact Nat.le_add_right _ _
    · exact configsOf_insertConfigs p.configs

theorem resolveAndApplyProfile_error (h : ¬ Resolvable db template profileId) (device : UUID) :
    ∃ e, resolveAndApplyProfile template profileId db device = .error e := by
  unfold resolveAndApplyProfile
  cases hprofile : resolveProfile db template profileId with
  | error e => exact ⟨.app e, rfl⟩
  | ok profile =>
    cases profile with
    | none => exact absurd ⟨none, hprofile, by simp⟩ h
    | some p =>
      have hexpand : ¬ p.Expandable := fun hp => h ⟨some p, hprofile, by simpa using hp⟩
      exact ⟨.unhandled, if_neg hexpand⟩

/-- The loop over the new devices: each gets the configs once. -/
theorem foldlM_resolveAndApplyProfile {profile : Option SimulationProfile} {ids : List UUID}
    (hprofile : resolveProfile db template profileId = .ok profile)
    (hexpand : ∀ p ∈ profile, p.Expandable) (hids : ids.Nodup) :
    ∃ db', ids.foldlM (resolveAndApplyProfile template profileId) db = .ok db' ∧
      db'.devices = db.devices ∧ db.nextId ≤ db'.nextId ∧ ∀ d, db'.configsOf d =
        db.configsOf d ++ if d ∈ ids then profile.elim [] (·.configs) else [] := by
  induction ids generalizing db with
  | nil => exact ⟨db, rfl, rfl, le_rfl, by simp⟩
  | cons device ids ih =>
    obtain ⟨hdevice, hids⟩ := List.nodup_cons.1 hids
    obtain ⟨db₁, hdb₁, hdevices₁, hprofiles₁, hnext₁, hconfigs₁⟩ :=
      resolveAndApplyProfile_ok hprofile hexpand device
    obtain ⟨db₂, hdb₂, hdevices₂, hnext₂, hconfigs₂⟩ :=
      ih ((resolveProfile_congr hprofiles₁).trans hprofile) hids
    refine ⟨db₂, ?_, hdevices₂.trans hdevices₁, hnext₁.trans hnext₂, fun d => ?_⟩
    · rw [List.foldlM_cons, hdb₁]
      exact hdb₂
    · rw [hconfigs₂, hconfigs₁, List.append_assoc]
      congr 1
      by_cases hd : d = device
      · simp [hd, hdevice]
      · simp [hd]

/-- The configs of a device that is not there. -/
theorem configsOf_new (h : ∀ c ∈ db.simulationConfigs, c.deviceId < db.nextId)
    (hdevice : db.nextId ≤ device) : db.configsOf device = [] := by
  rw [Database.configsOf, List.map_eq_nil_iff, List.filter_eq_nil_iff]
  intro c hc heq
  have hlt := h c hc
  rw [of_decide_eq_true heq] at hlt
  exact hlt.not_ge hdevice

/-- A profile that applies is given to all new devices. -/
theorem createRows_ok {profile : Option SimulationProfile}
    (hprofile : resolveProfile db template profileId = .ok profile)
    (hexpand : ∀ p ∈ profile, p.Expandable)
    (hids : rows.map (·.id) = List.range' db.nextId rows.length) :
    ∃ db', createRows db template profileId rows = (db', .ok (rows.map (·.id))) ∧
      db'.devices = db.devices ++ rows ∧ db.nextId + rows.length ≤ db'.nextId ∧
      ∀ d, db'.configsOf d = db.configsOf d ++
        if d ∈ rows.map (·.id) then profile.elim [] (·.configs) else [] := by
  have hinsert := foldl_insertDevice hids
  have hresolve : resolveProfile (rows.foldl insertDevice db) template profileId =
      resolveProfile db template profileId := resolveProfile_congr (by rw [hinsert])
  have hnodup : (rows.map (·.id)).Nodup := hids ▸ List.nodup_range' ..
  obtain ⟨db', hdb', hdevices, hnext, hconfigs⟩ :=
    foldlM_resolveAndApplyProfile (hresolve.trans hprofile) hexpand hnodup
  rw [hinsert] at hdevices hnext hconfigs
  exact ⟨db', by rw [createRows, hdb'], hdevices, hnext, hconfigs⟩

/-- Otherwise the rows are there without configs. -/
theorem createRows_error (h : ¬ Resolvable db template profileId) (hrows : rows ≠ [])
    (hids : rows.map (·.id) = List.range' db.nextId rows.length) :
    ∃ e, createRows db template profileId rows =
      ({ db with devices := db.devices ++ rows, nextId := db.nextId + rows.length }, .error e) := by
  have hinsert := foldl_insertDevice hids
  obtain ⟨row, rows', rfl⟩ := List.exists_cons_of_ne_nil hrows
  obtain ⟨e, he⟩ : ∃ e, resolveAndApplyProfile template profileId
      ((row :: rows').foldl insertDevice db) row.id = .error e := by
    refine resolveAndApplyProfile_error ?_ row.id
    rwa [Resolvable, resolveProfile_congr (by rw [hinsert])]
  refine ⟨e, ?_⟩
  rw [createRows, List.map_cons, List.foldlM_cons, he, hinsert]
  rfl

/-- Once the rows are committed, all depends on the profile. -/
theorem createRows_allOrNothing_iff (hdb : db.Profiled) (hrows : rows ≠ [])
    (hids : rows.map (·.id) = List.range' db.nextId rows.length) (hrequested : requested rows) :
    AllOrNothing db template profileId requested (createRows db template profileId rows) ↔
      ProfileApplies db template profileId := by
  rw [← resolvable_iff hdb]
  constructor
  · intro h
    by_contra hnot
    obtain ⟨e, hcreate⟩ := createRows_error hnot hrows hids
    have hdevices := (h.raised e (by rw [hcreate])).1
    rw [hcreate] at hdevices
    exact hrows (List.append_right_eq_self.1 hdevices)
  · rintro ⟨profile, hprofile, hexpand⟩
    obtain ⟨db', hcreate, hdevices, -, hconfigs⟩ := createRows_ok hprofile hexpand hids
    rw [hcreate]
    constructor
    · rintro e ⟨⟩
    · rintro ids ⟨⟩
      refine ⟨rows, profile, hrequested, rfl, hdevices, (resolveProfile_ok_iff hdb).1 hprofile,
        fun device => ?_⟩
      rw [hconfigs]
      split
      next hmem =>
        rw [hids, List.mem_range'_1] at hmem
        rw [configsOf_new hdb.toValid.configFresh hmem.1, List.nil_append]
      next => exact List.append_nil _

theorem createRows_singleton (row : DeviceInstance) :
    createRows db template profileId [row] =
      match resolveAndApplyProfile template profileId (insertDevice db row) row.id with
      | .error e => (insertDevice db row, .error e)
      | .ok db => (db, .ok [row.id]) := by
  simp only [createRows, List.foldl_cons, List.foldl_nil, List.map_cons, List.map_nil,
    List.foldlM_cons, List.foldlM_nil, bind_pure]

/-- A single creation is refused, or makes its one row. -/
theorem createDevice_eq (settings : Settings) (db : Database) (data : DeviceCreate) :
    (¬ Accepts settings db data ∧ ∃ e, createDevice settings db data = (db, .error e)) ∨
      Accepts settings db data ∧ ∃ row, row.id = db.nextId ∧ data.Describes row ∧
        (createDevice settings db data).map id (·.map ([·])) =
          createRows db data.templateId data.profileId [row] := by
  unfold createDevice Accepts
  cases htemplate : db.getTemplate data.templateId with
  | error e => exact Or.inl ⟨by rintro ⟨⟨t, port, ⟨⟩, -⟩, -⟩, _, rfl⟩
  | ok t =>
    cases hcheck : checkDevice settings db t.protocol data.slaveId none with
    | error e =>
      refine Or.inl ⟨?_, e, by simp [Except.mapError, hcheck]⟩
      rintro ⟨⟨t', port, ht', hport⟩, -⟩
      obtain rfl := Except.ok.inj ht'
      cases hcheck.symm.trans hport
    | ok port =>
      by_cases hstorable : Storable data.name data.slaveId data.description
      · refine Or.inr ⟨⟨⟨t, port, rfl, hcheck⟩, hstorable⟩, ⟨db.nextId, data.templateId, data.name,
          data.slaveId, .stopped, port, data.description⟩, rfl, ⟨rfl, rfl, rfl, rfl, rfl⟩, ?_⟩
        rw [createRows_singleton, resolveAndApplyProfile]
        simp only [Except.mapError, hcheck, hstorable, not_true_eq_false, if_false]
        generalize insertDevice db _ = db₁
        cases resolveProfile db₁ data.templateId data.profileId with
        | error e => rfl
        | ok profile =>
          cases profile with
          | none => rfl
          | some p =>
            simp only [bind, Except.bind]
            cases applyProfileToDevice db₁ p db.nextId <;> rfl
      · refine Or.inl ⟨fun h => hstorable h.2, .unhandled, ?_⟩
        simp [Except.mapError, hcheck, hstorable]

section Batch

variable {settings : Settings} {data : DeviceBatchCreate} {t : DeviceTemplate} {port : ℤ}

theorem checkBatch_ok (h : checkBatch settings db data = .ok (t, port)) :
    data.slaveIdStart ≤ data.slaveIdEnd ∧ db.getTemplate data.templateId = .ok t := by
  simp only [checkBatch, bind_ok_iff, mapError_ok_iff] at h
  obtain ⟨_, hrange, _, -, t', ht', _, -, h⟩ := h
  rw [raiseIf_ok_iff] at hrange
  split at h
  next => cases h
  next =>
    obtain ⟨_, -, h⟩ := bind_ok_iff.1 h
    obtain ⟨_, -, h⟩ := bind_ok_iff.1 h
    obtain ⟨rfl, rfl⟩ := Prod.mk.inj (Except.ok.inj h)
    exact ⟨not_lt.1 hrange, ht'⟩

theorem rows_ne_nil (h : data.slaveIdStart ≤ data.slaveIdEnd) (first : UUID) :
    data.rows t port first ≠ [] := by
  rw [DeviceBatchCreate.rows, DeviceBatchCreate.slaveIds, Ne, List.map_eq_nil_iff,
    List.zipIdx_eq_nil_iff, List.map_eq_nil_iff, List.range_eq_nil]
  omega

theorem ids_rows (first : UUID) :
    (data.rows t port first).map (·.id) =
      List.range' first (data.rows t port first).length := by
  have hids : (data.rows t port first).map (·.id) =
      (data.slaveIds.zipIdx.map Prod.snd).map (first + ·) := by
    rw [DeviceBatchCreate.rows, List.map_map, List.map_map]
    rfl
  rw [hids, List.zipIdx_map_snd, List.map_add_range', DeviceBatchCreate.rows, List.length_map,
    List.length_zipIdx]
  rfl

theorem describes_rows (h : db.getTemplate data.templateId = .ok t) (first : UUID) :
    data.Describes db (data.rows t port first) := by
  refine ⟨t, h, ?_⟩
  conv => arg 2; rw [← List.zipIdx_map_fst 0 data.slaveIds]
  rw [DeviceBatchCreate.rows, List.forall₂_map_left_iff, List.forall₂_map_right_iff,
    List.forall₂_same]
  exact fun _ _ => ⟨rfl, rfl, rfl, rfl, rfl⟩

theorem storable_rows_iff (first : UUID) :
    (∀ row ∈ data.rows t port first, Storable row.name row.slaveId row.description) ↔
      ∀ slave ∈ data.slaveIds, Storable (data.nameOf t slave) slave data.description := by
  have hslave : (∀ slave ∈ data.slaveIds, Storable (data.nameOf t slave) slave data.description) ↔
      ∀ entry ∈ data.slaveIds.zipIdx,
        Storable (data.nameOf t entry.1) entry.1 data.description := by
    conv_lhs => rw [← List.zipIdx_map_fst 0 data.slaveIds]
    exact List.forall_mem_map
  rw [hslave, DeviceBatchCreate.rows]
  exact List.forall_mem_map

/-- A batch is refused, or makes its rows. -/
theorem batchCreateDevices_eq (settings : Settings) (db : Database) (data : DeviceBatchCreate) :
    (¬ AcceptsBatch settings db data ∧ ∃ e, batchCreateDevices settings db data = (db, .error e)) ∨
      AcceptsBatch settings db data ∧ ∃ t port, checkBatch settings db data = .ok (t, port) ∧
        batchCreateDevices settings db data =
          createRows db data.templateId data.profileId (data.rows t port db.nextId) := by
  unfold batchCreateDevices AcceptsBatch
  cases hcheck : checkBatch settings db data with
  | error e => exact Or.inl ⟨by rintro ⟨t, port, ⟨⟩, -⟩, e, rfl⟩
  | ok checked =>
    obtain ⟨t, port⟩ := checked
    by_cases hstorable : ∀ slave ∈ data.slaveIds,
        Storable (data.nameOf t slave) slave data.description
    · refine Or.inr ⟨⟨t, port, rfl, hstorable⟩, t, port, rfl, if_neg (not_not.2 ?_)⟩
      exact (storable_rows_iff db.nextId).2 hstorable
    · refine Or.inl ⟨?_, .unhandled, if_pos fun h => hstorable ((storable_rows_iff _).1 h)⟩
      rintro ⟨_, _, ⟨⟩, h⟩
      exact hstorable h

/-- For a batch, in a database within its constraints. -/
theorem batchCreateDevices_allOrNothing_iff (hdb : db.Profiled) :
    AllOrNothing db data.templateId data.profileId (data.Describes db)
        (batchCreateDevices settings db data) ↔
      (AcceptsBatch settings db data → ProfileApplies db data.templateId data.profileId) := by
  rcases batchCreateDevices_eq settings db data with
    ⟨hnot, e, he⟩ | ⟨haccepts, t, port, hcheck, heq⟩
  · rw [he]
    exact iff_of_true (AllOrNothing.refused e) fun h => absurd h hnot
  · obtain ⟨hrange, ht⟩ := checkBatch_ok hcheck
    rw [heq, createRows_allOrNothing_iff hdb (rows_ne_nil hrange _) (ids_rows _)
      (describes_rows ht _)]
    exact (imp_iff_right haccepts).symm

end Batch

/-- For every database within its constraints and every request: all or nothing exactly if, once
the checks before the commit have passed, the profile applies. -/
theorem create_allOrNothing_iff (settings : Settings) (db : Database) (hdb : db.Profiled) :
    (∀ data : DeviceCreate,
      AllOrNothing db data.templateId data.profileId (fun rows => ∃ row, rows = [row] ∧
          data.Describes row) ((createDevice settings db data).map id (·.map ([·]))) ↔
        (Accepts settings db data → ProfileApplies db data.templateId data.profileId)) ∧
      ∀ data : DeviceBatchCreate,
        AllOrNothing db data.templateId data.profileId (data.Describes db)
            (batchCreateDevices settings db data) ↔
          (AcceptsBatch settings db data → ProfileApplies db data.templateId data.profileId) := by
  refine ⟨fun data => ?_, fun data => batchCreateDevices_allOrNothing_iff hdb⟩
  rcases createDevice_eq settings db data with ⟨hnot, e, he⟩ | ⟨haccepts, row, hid, hrow, heq⟩
  · rw [he]
    exact iff_of_true (AllOrNothing.refused e) fun h => absurd h hnot
  · have hids : [row].map (·.id) = List.range' db.nextId [row].length := by simp [hid]
    rw [heq, createRows_allOrNothing_iff hdb (List.cons_ne_nil _ _) hids ⟨row, rfl, hrow⟩]
    exact (imp_iff_right haccepts).symm

/-- Two templates: the first has a default profile, the second one that is no default. -/
def twoProfiles : Database where
  templates := [⟨0, "Power Meter", .modbusTcp, none, false⟩,
    ⟨1, "Water Meter", .modbusTcp, none, false⟩]
  simulationProfiles := [
    ⟨2, 0, "Normal", none, true, true, [{ registerName := "voltage", dataMode := .random }]⟩,
    ⟨3, 1, "Leak", none, false, false, []⟩]
  nextId := 4

theorem profiled_twoProfiles : twoProfiles.Profiled := by
  constructor
  · constructor
    · constructor <;> simp [twoProfiles]
    all_goals simp [twoProfiles]
  all_goals decide

theorem create_allOrNothing_iff_twoProfiles :
    (∀ data : DeviceCreate,
      AllOrNothing twoProfiles data.templateId data.profileId (fun rows => ∃ row, rows = [row] ∧
          data.Describes row) ((createDevice {} twoProfiles data).map id (·.map ([·]))) ↔
        (Accepts {} twoProfiles data →
          ProfileApplies twoProfiles data.templateId data.profileId)) ∧
      ∀ data : DeviceBatchCreate,
        AllOrNothing twoProfiles data.templateId data.profileId (data.Describes twoProfiles)
            (batchCreateDevices {} twoProfiles data) ↔
          (AcceptsBatch {} twoProfiles data →
            ProfileApplies twoProfiles data.templateId data.profileId) :=
  create_allOrNothing_iff {} twoProfiles profiled_twoProfiles

/-- One template and no profiles. -/
def unprofiled : Database where
  templates := [⟨0, "Power Meter", .modbusTcp, none, false⟩]
  nextId := 1

theorem profiled_unprofiled : unprofiled.Profiled := by
  constructor
  · constructor
    · constructor <;> simp [unprofiled]
    all_goals simp [unprofiled]
  all_goals simp [unprofiled]

/-- A batch of two meters with a profile that does not exist. -/
def missingProfile : DeviceBatchCreate where
  templateId := 0
  slaveIdStart := 1
  slaveIdEnd := 2
  profileId := some (some 9)
  start_pos := by decide
  end_pos := by decide

theorem devices_stay : ¬ ∀ (settings : Settings) (db : Database), db.Profiled →
    (∀ data : DeviceCreate,
      AllOrNothing db data.templateId data.profileId (fun rows => ∃ row, rows = [row] ∧
        data.Describes row) ((createDevice settings db data).map id (·.map ([·])))) ∧
      ∀ data : DeviceBatchCreate,
        AllOrNothing db data.templateId data.profileId (data.Describes db)
          (batchCreateDevices settings db data) := by
  intro h
  have hraised := ((h {} unprofiled profiled_unprofiled).2 missingProfile).raised _ rfl
  exact absurd (congrArg List.length hraised.1) (by decide +kernel)

end Services

end GhostMeter
