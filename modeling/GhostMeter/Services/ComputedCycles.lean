import GhostMeter.Lib.Graph
import GhostMeter.Lib.Run
import GhostMeter.Services.DeviceCreation
import GhostMeter.Services.SimulationService
import GhostMeter.Simulation.DataGenerator

/-! Whether the computed registers of a device can refer to each other in a circle, over all
writes of its simulation configs. -/

namespace GhostMeter.Services

open GhostMeter.Lib GhostMeter.Simulation Relation

section Graph

variable (isWord : Char → Bool) (configs : List ConfigEntry)

/-- The expression of a config for `a` names `b`. -/
def Mentions (a b : String) : Prop :=
  ∃ c ∈ configs, c.registerName = a ∧ b ∈ referencesOf isWord c

/-- A computed register and the configured computed registers that its expression names. -/
def Names (a b : String) : Prop :=
  Mentions isWord configs a b ∧ ∃ c ∈ configs, c.registerName = b ∧ c.dataMode = .computed

variable {isWord configs} {configs' : List ConfigEntry} {a b : String}

theorem dataMode_of_mem_referencesOf {c : ConfigEntry} (h : b ∈ referencesOf isWord c) :
    c.dataMode = .computed := by
  unfold referencesOf expressionOf at h
  split at h
  next hmode _ => exact hmode
  next => cases h

theorem acyclic_names_iff :
    Acyclic (Names isWord configs) ↔ Acyclic (Mentions isWord configs) := by
  constructor
  · intro h
    rw [← acyclic_continued_iff]
    refine h.mono ?_
    rintro a b ⟨hab, d, c, hc, hname, hd⟩
    exact ⟨hab, c, hc, hname, dataMode_of_mem_referencesOf hd⟩
  · exact Acyclic.mono fun _ _ h => h.1

theorem acyclic_mentions_of_subset (hsub : ∀ c ∈ configs', c ∈ configs)
    (h : Acyclic (Mentions isWord configs)) : Acyclic (Mentions isWord configs') :=
  h.mono fun _ _ ⟨c, hc, hab⟩ => ⟨c, hsub c hc, hab⟩

theorem acyclic_names_nil : Acyclic (Names isWord []) := by
  intro a ha
  obtain ⟨b, ⟨⟨c, hc, -⟩, -⟩, -⟩ := TransGen.head'_iff.1 ha
  cases hc

end Graph

/-- The stored computed registers of no device refer to each other in a circle. -/
def NoCycles (isWord : Char → Bool) (db : Database) : Prop :=
  ∀ device, Acyclic (Names isWord (db.configsOf device))

/-- What writes simulation configs, and everything else that happens to the database. -/
inductive ConfigWrite
  | setConfigs (device : UUID) (configs : List SimulationConfigCreate)
  | updateConfig (device : UUID) (registerName : String) (data : SimulationConfigCreate)
  | createDevice (data : DeviceCreate)
  | batchCreateDevices (data : DeviceBatchCreate)
  /-- The configs that are not kept go, and the other tables are any others. -/
  | elsewhere (keep : SimulationConfig → Bool) (rest : Database)

/-- The devices are older than the next id, and so are those of the configs. -/
def Fresh (db : Database) : Prop :=
  (∀ d ∈ db.devices, d.id < db.nextId) ∧ ∀ c ∈ db.simulationConfigs, c.deviceId < db.nextId

instance (db : Database) : Decidable (Fresh db) := inferInstanceAs (Decidable (_ ∧ _))

/-- The database after a write whose checks are before it. -/
def checked (check : Except AppException Unit) (write : Database → Database) (db : Database) :
    Database :=
  match check with
  | .ok () => write db
  | .error _ => db

namespace ConfigWrite

def step (settings : Settings) (db : Database) : ConfigWrite → Option Database
  | .setConfigs device configs =>
    some (checked (checkConfigs db device configs) (Services.setConfigs · device configs) db)
  | .updateConfig device registerName data =>
    some (checked (checkConfig db device registerName)
      (upsertConfig · device registerName data.toConfigEntry) db)
  | .createDevice data => some (Services.createDevice settings db data).1
  | .batchCreateDevices data => some (Services.batchCreateDevices settings db data).1
  | .elsewhere keep rest =>
    let db := { rest with simulationConfigs := db.simulationConfigs.filter keep }
    if Fresh db then some db else none

/-- The configs of a profile that a new device would get are free of cycles. -/
def AcyclicProfile (isWord : Char → Bool) (db : Database) (template : UUID)
    (profileId : Option (Option UUID)) : Prop :=
  ∀ p, resolveProfile db template profileId = .ok (some p) → p.Expandable →
    Acyclic (Names isWord p.configs)

/-- A list of configs and a profile are free of cycles, and from no register that a new
expression names do the stored expressions lead back to its own. -/
def Safe (isWord : Char → Bool) (settings : Settings) (db : Database) : ConfigWrite → Prop
  | .setConfigs device configs => checkConfigs db device configs = .ok () →
    Acyclic (Names isWord (configs.map (·.toConfigEntry)))
  | .updateConfig device registerName data => checkConfig db device registerName = .ok () →
    ∀ b ∈ referencesOf isWord data.toConfigEntry,
      ¬ ReflTransGen (Mentions isWord (db.configsOf device)) b registerName
  | .createDevice data => Accepts settings db data →
    AcyclicProfile isWord db data.templateId data.profileId
  | .batchCreateDevices data => AcceptsBatch settings db data →
    AcyclicProfile isWord db data.templateId data.profileId
  | .elsewhere _ _ => True

end ConfigWrite

variable {isWord : Char → Bool} {settings : Settings} {db db' : Database} {device d : UUID}
  {configs : List SimulationConfigCreate} {registerName : String} {data : ConfigEntry}

theorem reloadIfRunning_db {α : Type} (s : Backend α) (device : UUID) :
    (reloadIfRunning s device).1.db = s.db := by
  rw [reloadIfRunning]
  split
  · cases hreload : s.reloadSimulation device with
    | mk s' returned =>
      have hdb : s'.db = s.db := congrArg (·.1.db) hreload.symm
      cases returned <;> exact hdb
  · rfl

/-- The database after `set_simulation_configs` and `update_simulation_config`. -/
theorem writeConfigs_db {α β : Type} (s : Backend α) (device : UUID)
    (check : Except AppException Unit) (write : Database → Database) (answer : Database → β) :
    (writeConfigs s device check write answer).1.db = checked check write s.db := by
  cases check with
  | error e => rfl
  | ok => exact reloadIfRunning_db _ device

theorem configsOf_deleteConfigs :
    (deleteConfigs db device).configsOf d = if d = device then [] else db.configsOf d := by
  simp only [Database.configsOf, deleteConfigs, List.filter_filter]
  split
  next hd =>
    subst hd
    rw [List.map_eq_nil_iff, List.filter_eq_nil_iff]
    simp +contextual
  next hd =>
    refine congrArg _ (List.filter_congr fun c _ => ?_)
    by_cases hc : c.deviceId = d
    · simp [hc, hd]
    · simp [hc]

theorem configsOf_setConfigs : (setConfigs db device configs).configsOf d =
    if d = device then configs.map (·.toConfigEntry) else db.configsOf d := by
  have hfold : setConfigs db device configs = (configs.map (·.toConfigEntry)).foldl
      (·.insertConfig device) (deleteConfigs db device) := by
    rw [setConfigs, List.foldl_map]
  rw [hfold, configsOf_insertConfigs, configsOf_deleteConfigs]
  split
  · rfl
  · exact List.append_nil _

theorem mem_configsOf {c : ConfigEntry} : c ∈ db.configsOf d ↔
    ∃ row ∈ db.simulationConfigs, row.deviceId = d ∧ row.toConfigEntry = c := by
  simp only [Database.configsOf, List.mem_map, List.mem_filter, decide_eq_true_eq, and_assoc]

theorem mentions_configsOf {a b : String} : Mentions isWord (db.configsOf d) a b ↔
    ∃ row ∈ db.simulationConfigs, row.deviceId = d ∧ row.registerName = a ∧
      b ∈ referencesOf isWord row.toConfigEntry := by
  constructor
  · rintro ⟨c, hc, hab⟩
    obtain ⟨row, hrow, hd, rfl⟩ := mem_configsOf.1 hc
    exact ⟨row, hrow, hd, hab⟩
  · rintro ⟨row, hrow, hd, hab⟩
    exact ⟨row.toConfigEntry, mem_configsOf.2 ⟨row, hrow, hd, rfl⟩, hab⟩

theorem configsOf_upsertConfig_of_ne (h : d ≠ device) :
    (upsertConfig db device registerName data).configsOf d = db.configsOf d := by
  unfold upsertConfig
  split
  next =>
    refine congrArg _ (Table.filter_map_of_fixed (fun c _ => ?_) fun c _ hc => ?_)
    · split <;> simp_all
    · simp only [decide_eq_true_eq] at hc
      rw [if_neg]
      exact fun hc' => h (hc.symm.trans hc'.1)
  next =>
    refine (configsOf_insertConfigs [{ data with registerName }] d).trans ?_
    rw [if_neg h, List.append_nil]

/-- An update redirects the edges of one register. -/
theorem mentions_upsertConfig {a b : String} :
    Mentions isWord ((upsertConfig db device registerName data).configsOf device) a b ↔
      redirect (Mentions isWord (db.configsOf device)) registerName
        (· ∈ referencesOf isWord data) a b := by
  rw [mentions_configsOf, redirect, mentions_configsOf]
  unfold upsertConfig
  split
  next hany =>
    constructor
    · rintro ⟨_, hmem, hd, hname, hb⟩
      obtain ⟨row, hrow, rfl⟩ := List.mem_map.1 hmem
      by_cases hkey : row.deviceId = device ∧ row.registerName = registerName
      · rw [if_pos hkey] at hname hb
        exact Or.inl ⟨hname.symm.trans hkey.2, hb⟩
      · rw [if_neg hkey] at hd hname hb
        exact Or.inr ⟨fun ha => hkey ⟨hd, hname.trans ha⟩, row, hrow, hd, hname, hb⟩
    · rintro (⟨rfl, hb⟩ | ⟨ha, row, hrow, hd, hname, hb⟩)
      · obtain ⟨row, hrow, hkey⟩ := List.any_eq_true.1 hany
        refine ⟨_, List.mem_map_of_mem hrow, ?_⟩
        rw [if_pos (of_decide_eq_true hkey)]
        exact ⟨(of_decide_eq_true hkey).1, (of_decide_eq_true hkey).2, hb⟩
      · refine ⟨_, List.mem_map_of_mem hrow, ?_⟩
        rw [if_neg fun hkey => ha (hname.symm.trans hkey.2)]
        exact ⟨hd, hname, hb⟩
  next hnone =>
    have hother : ∀ row ∈ db.simulationConfigs, row.deviceId = device →
        row.registerName ≠ registerName := by
      intro row hrow hd hname
      exact hnone (List.any_eq_true.2 ⟨row, hrow, decide_eq_true ⟨hd, hname⟩⟩)
    simp only [Database.insertConfig, List.mem_append, List.mem_singleton]
    constructor
    · rintro ⟨row, hrow | rfl, hd, hname, hb⟩
      · exact Or.inr ⟨hname ▸ hother row hrow hd, row, hrow, hd, hname, hb⟩
      · exact Or.inl ⟨hname.symm, hb⟩
    · rintro (⟨rfl, hb⟩ | ⟨-, row, hrow, hd, hname, hb⟩)
      · exact ⟨_, Or.inr rfl, rfl, rfl, hb⟩
      · exact ⟨row, Or.inl hrow, hd, hname, hb⟩

/-! The devices of configs stay older than the next id. -/

theorem fresh_iff : Fresh db ↔
    (∀ d ∈ db.devices, d.id < db.nextId) ∧
      ∀ device, db.configsOf device ≠ [] → device < db.nextId := by
  refine and_congr_right fun _ => ?_
  constructor
  · intro h device hne
    obtain ⟨c, hc⟩ := List.exists_mem_of_ne_nil _ hne
    obtain ⟨row, hrow, hdevice, -⟩ := mem_configsOf.1 hc
    exact hdevice ▸ h row hrow
  · intro h row hrow
    exact h row.deviceId (List.ne_nil_of_mem (mem_configsOf.2 ⟨row, hrow, rfl, rfl⟩))

theorem Fresh.write (h : Fresh db) (hfound : ∃ row, db.getDeviceOr404 device = .ok row)
    (hdevices : db'.devices = db.devices) (hnext : db.nextId ≤ db'.nextId)
    (hother : ∀ d ≠ device, db'.configsOf d = db.configsOf d) : Fresh db' := by
  obtain ⟨hold, hconfigs⟩ := fresh_iff.1 h
  refine fresh_iff.2 ⟨fun d hd => (hold d (hdevices ▸ hd)).trans_le hnext, fun d hd => ?_⟩
  by_cases hdd : d = device
  · obtain ⟨row, hrow⟩ := hfound
    unfold Database.getDeviceOr404 at hrow
    split at hrow
    next d' hfind =>
      have hlt := hold d' (Table.mem_of_find hfind)
      rw [Table.key_of_find hfind, ← hdd] at hlt
      exact hlt.trans_le hnext
    next => cases hrow
  · exact (hconfigs d (hother d hdd ▸ hd)).trans_le hnext

theorem Fresh.setConfigs (h : Fresh db) (hcheck : checkConfigs db device configs = .ok ()) :
    Fresh (setConfigs db device configs) := by
  obtain ⟨row, hrow, -⟩ := bind_ok_iff.1 hcheck
  obtain ⟨rows, -, -, -, hdb⟩ := Database.insertConfigs (deleteConfigs db device) device
    (configs.map (·.toConfigEntry))
  rw [List.foldl_map] at hdb
  refine h.write ⟨row, hrow⟩ ?_ ?_ fun d hd => configsOf_setConfigs.trans (if_neg hd)
  · rw [Services.setConfigs, hdb]
    rfl
  · rw [Services.setConfigs, hdb]
    exact Nat.le_add_right _ _

theorem Fresh.upsertConfig (h : Fresh db) (hcheck : checkConfig db device registerName = .ok ()) :
    Fresh (upsertConfig db device registerName data) := by
  obtain ⟨row, hrow, -⟩ := bind_ok_iff.1 hcheck
  refine h.write ⟨row, hrow⟩ ?_ ?_ fun d hd => configsOf_upsertConfig_of_ne hd
  · unfold Services.upsertConfig
    split <;> rfl
  · unfold Services.upsertConfig
    split
    · exact le_rfl
    · exact Nat.le_succ _

section Creation

variable {template : UUID} {profileId : Option (Option UUID)} {rows : List DeviceInstance}

/-- New devices get the configs of a profile that applies, or none. -/
theorem createRows_configs (hrows : rows ≠ [])
    (hids : rows.map (·.id) = List.range' db.nextId rows.length) :
    ∃ entries, (createRows db template profileId rows).1.devices = db.devices ++ rows ∧
      db.nextId + rows.length ≤ (createRows db template profileId rows).1.nextId ∧
      (∀ d, (createRows db template profileId rows).1.configsOf d =
        db.configsOf d ++ if d ∈ rows.map (·.id) then entries else []) ∧
      ∀ isWord, Acyclic (Names isWord entries) ↔
        ConfigWrite.AcyclicProfile isWord db template profileId := by
  by_cases happlies : Resolvable db template profileId
  · obtain ⟨profile, hprofile, hexpand⟩ := happlies
    obtain ⟨db', hcreate, hdevices, hnext, hconfigs⟩ := createRows_ok hprofile hexpand hids
    rw [hcreate]
    refine ⟨profile.elim [] (·.configs), hdevices, hnext, hconfigs, fun isWord => ?_⟩
    rw [ConfigWrite.AcyclicProfile, hprofile]
    cases profile with
    | none => exact iff_of_true acyclic_names_nil nofun
    | some p => simp [hexpand p rfl]
  · obtain ⟨e, hcreate⟩ := createRows_error happlies hrows hids
    rw [hcreate]
    refine ⟨[], rfl, le_rfl, fun d => by rw [ite_self, List.append_nil]; rfl, fun isWord => ?_⟩
    refine iff_of_true acyclic_names_nil fun p hp hexpand => absurd ⟨some p, hp, ?_⟩ happlies
    rintro _ ⟨⟩
    exact hexpand

variable (h : Fresh db) (hrows : rows ≠ [])
  (hids : rows.map (·.id) = List.range' db.nextId rows.length)

include h hrows hids

theorem Fresh.createRows : Fresh (createRows db template profileId rows).1 := by
  obtain ⟨entries, hdevices, hnext, hconfigs, -⟩ :=
    @createRows_configs db template profileId rows hrows hids
  have hlt : ∀ d ∈ rows.map (·.id), d < db.nextId + rows.length := by
    intro d hd
    rw [hids, List.mem_range'_1] at hd
    exact hd.2
  obtain ⟨hold, holdConfigs⟩ := fresh_iff.1 h
  refine fresh_iff.2 ⟨fun d hd => ?_, fun d hd => ?_⟩
  · refine lt_of_lt_of_le ?_ hnext
    rw [hdevices, List.mem_append] at hd
    rcases hd with hd | hd
    · exact (hold d hd).trans_le (Nat.le_add_right _ _)
    · exact hlt d.id (List.mem_map_of_mem hd)
  · refine lt_of_lt_of_le ?_ hnext
    rw [hconfigs] at hd
    by_cases hmem : d ∈ rows.map (·.id)
    · exact hlt d hmem
    · rw [if_neg hmem, List.append_nil] at hd
      exact (holdConfigs d hd).trans_le (Nat.le_add_right _ _)

theorem noCycles_createRows_iff (hacyclic : NoCycles isWord db) :
    NoCycles isWord (Services.createRows db template profileId rows).1 ↔
      ConfigWrite.AcyclicProfile isWord db template profileId := by
  obtain ⟨entries, -, -, hconfigs, hprofile⟩ :=
    @createRows_configs db template profileId rows hrows hids
  rw [← hprofile]
  constructor
  · intro hall
    obtain ⟨row, rows', rfl⟩ := List.exists_cons_of_ne_nil hrows
    have hmem : row.id ∈ (row :: rows').map (·.id) := List.mem_cons_self
    have hrow := hall row.id
    rwa [hconfigs, if_pos hmem, configsOf_new h.2 (List.left_le_of_mem_range' (hids ▸ hmem)),
      List.nil_append] at hrow
  · intro hentries d
    rw [hconfigs]
    split
    next hmem =>
      rwa [configsOf_new h.2 (List.left_le_of_mem_range' (hids ▸ hmem)), List.nil_append]
    next =>
      rw [List.append_nil]
      exact hacyclic d

end Creation

/-- A creation is refused, or its rows are made. -/
theorem createDevice_rows (data : DeviceCreate) :
    (¬ Accepts settings db data ∧ (createDevice settings db data).1 = db) ∨
      Accepts settings db data ∧ ∃ rows ≠ [], rows.map (·.id) = List.range' db.nextId rows.length ∧
        (createDevice settings db data).1 =
          (createRows db data.templateId data.profileId rows).1 := by
  rcases createDevice_eq settings db data with ⟨hnot, e, he⟩ | ⟨haccepts, row, hid, -, heq⟩
  · exact Or.inl ⟨hnot, by rw [he]⟩
  · exact Or.inr ⟨haccepts, [row], List.cons_ne_nil _ _, by simp [hid], congrArg Prod.fst heq⟩

theorem batchCreateDevices_rows (data : DeviceBatchCreate) :
    (¬ AcceptsBatch settings db data ∧ (batchCreateDevices settings db data).1 = db) ∨
      AcceptsBatch settings db data ∧ ∃ rows ≠ [],
        rows.map (·.id) = List.range' db.nextId rows.length ∧
        (batchCreateDevices settings db data).1 =
          (createRows db data.templateId data.profileId rows).1 := by
  rcases batchCreateDevices_eq settings db data with
    ⟨hnot, e, he⟩ | ⟨haccepts, t, port, hcheck, heq⟩
  · exact Or.inl ⟨hnot, by rw [he]⟩
  · exact Or.inr ⟨haccepts, _, rows_ne_nil (checkBatch_ok hcheck).1 _, ids_rows _, by rw [heq]⟩

/-- What both creations keep, and when they make no cycle. -/
theorem creation_spec {accepts : Prop} {template : UUID} {profileId : Option (Option UUID)}
    (h : Fresh db) (hcreate : (¬ accepts ∧ db' = db) ∨
      accepts ∧ ∃ rows ≠ [], rows.map (·.id) = List.range' db.nextId rows.length ∧
        db' = (createRows db template profileId rows).1) :
    Fresh db' ∧ ∀ isWord, NoCycles isWord db → (NoCycles isWord db' ↔
      (accepts → ConfigWrite.AcyclicProfile isWord db template profileId)) := by
  rcases hcreate with ⟨hnot, rfl⟩ | ⟨haccepts, rows, hrows, hids, rfl⟩
  · exact ⟨h, fun isWord hacyclic => iff_of_true hacyclic fun ha => absurd ha hnot⟩
  · refine ⟨h.createRows hrows hids, fun isWord hacyclic => ?_⟩
    rw [noCycles_createRows_iff h hrows hids hacyclic]
    exact (imp_iff_right haccepts).symm

namespace ConfigWrite

theorem fresh_step {w : ConfigWrite} (h : Fresh db) (hstep : step settings db w = some db') :
    Fresh db' := by
  cases w with
  | setConfigs device configs =>
    obtain rfl := Option.some.inj hstep
    unfold checked
    split
    next hcheck => exact h.setConfigs hcheck
    next => exact h
  | updateConfig device registerName data =>
    obtain rfl := Option.some.inj hstep
    unfold checked
    split
    next hcheck => exact h.upsertConfig hcheck
    next => exact h
  | createDevice data =>
    obtain rfl := Option.some.inj hstep
    exact (creation_spec h (createDevice_rows data)).1
  | batchCreateDevices data =>
    obtain rfl := Option.some.inj hstep
    exact (creation_spec h (batchCreateDevices_rows data)).1
  | elsewhere keep rest =>
    obtain ⟨hfresh, ⟨⟩⟩ := Option.ite_none_right_eq_some.1 hstep
    exact hfresh

theorem noCycles_setConfigs_iff (hacyclic : NoCycles isWord db) :
    NoCycles isWord (Services.setConfigs db device configs) ↔
      Acyclic (Names isWord (configs.map (·.toConfigEntry))) := by
  constructor
  · intro h
    have hdevice := h device
    rwa [configsOf_setConfigs, if_pos rfl] at hdevice
  · intro h d
    rw [configsOf_setConfigs]
    split
    · exact h
    · exact hacyclic d

theorem noCycles_upsertConfig_iff (hacyclic : NoCycles isWord db) :
    NoCycles isWord (upsertConfig db device registerName data) ↔
      ∀ b ∈ referencesOf isWord data,
        ¬ ReflTransGen (Mentions isWord (db.configsOf device)) b registerName := by
  have hother : ∀ d ≠ device,
      Acyclic (Names isWord ((upsertConfig db device registerName data).configsOf d)) := by
    intro d hd
    rw [configsOf_upsertConfig_of_ne hd]
    exact hacyclic d
  rw [← acyclic_redirect_iff (acyclic_names_iff.1 (hacyclic device)),
    ← acyclic_congr fun a b => mentions_upsertConfig, ← acyclic_names_iff]
  constructor
  · exact fun h => h device
  · intro h d
    by_cases hd : d = device
    · exact hd ▸ h
    · exact hother d hd

/-- A step from a database without cycles makes one exactly if it is not safe. -/
theorem noCycles_step_iff {w : ConfigWrite} (h : Fresh db) (hacyclic : NoCycles isWord db)
    (hstep : step settings db w = some db') :
    NoCycles isWord db' ↔ w.Safe isWord settings db := by
  cases w with
  | setConfigs device configs =>
    obtain rfl := Option.some.inj hstep
    unfold checked Safe
    split
    next hcheck => simp only [hcheck, noCycles_setConfigs_iff hacyclic, true_imp_iff]
    next hcheck => exact iff_of_true hacyclic fun h => by simp [h] at hcheck
  | updateConfig device registerName data =>
    obtain rfl := Option.some.inj hstep
    unfold checked Safe
    split
    next hcheck => simp only [hcheck, noCycles_upsertConfig_iff hacyclic, true_imp_iff]
    next hcheck => exact iff_of_true hacyclic fun h => by simp [h] at hcheck
  | createDevice data =>
    obtain rfl := Option.some.inj hstep
    exact (creation_spec h (createDevice_rows data)).2 isWord hacyclic
  | batchCreateDevices data =>
    obtain rfl := Option.some.inj hstep
    exact (creation_spec h (batchCreateDevices_rows data)).2 isWord hacyclic
  | elsewhere keep rest =>
    obtain ⟨-, ⟨⟩⟩ := Option.ite_none_right_eq_some.1 hstep
    refine iff_of_true (fun d => ?_) trivial
    refine acyclic_names_iff.2 (acyclic_mentions_of_subset (fun c hc => ?_)
      (acyclic_names_iff.1 (hacyclic d)))
    obtain ⟨row, hrow, hd, rfl⟩ := mem_configsOf.1 hc
    exact mem_configsOf.2 ⟨row, (List.mem_filter.1 hrow).1, hd, rfl⟩

/-- The steps are what the service functions leave of the database. -/
theorem step_setConfigs {α : Type} (s : Backend α) :
    step settings s.db (.setConfigs device configs) =
      some (setSimulationConfigs s device configs).1.db :=
  congrArg some (writeConfigs_db s device _ _ _).symm

theorem step_updateConfig {α : Type} (s : Backend α) (data : SimulationConfigCreate) :
    step settings s.db (.updateConfig device registerName data) =
      some (updateSimulationConfig s device registerName data).1.db :=
  congrArg some (writeConfigs_db s device _ _ _).symm

/-- The code never looks for a cycle: there is none exactly as long as every write is safe. -/
theorem noCycles_always_iff {ws : List ConfigWrite} (h : Fresh db)
    (hacyclic : NoCycles isWord db) :
    Always (step settings) (NoCycles isWord) db ws ↔
      EachStep (step settings) (fun db w _ => w.Safe isWord settings db) db ws :=
  always_iff_eachStep (fun _ _ _ => fresh_step) (fun _ _ _ => noCycles_step_iff) h hacyclic

/-- A device with two registers and no configs. -/
def twoRegisters : Database where
  templates := [⟨0, "Meter", .modbusTcp, none, false⟩]
  registers := [⟨1, 0, "a", 0, 3, .uint16, .bigEndian, .fin false 1, none, none, 0, none⟩,
    ⟨2, 0, "b", 1, 3, .uint16, .bigEndian, .fin false 1, none, none, 1, none⟩]
  devices := [⟨3, 0, "Meter 1", 1, .stopped, 502, none⟩]
  nextId := 4

/-- The register takes the value of another one. -/
def follow (registerName other : String) : SimulationConfigCreate where
  registerName := registerName
  dataMode := .computed
  modeParams := [("expression", .str other)]
  mode_valid := computed_known
  interval_ge := default_interval_ge
  interval_le := default_interval_le

theorem noCycles_twoRegisters (isWord : Char → Bool) : NoCycles isWord twoRegisters :=
  fun _ => acyclic_names_nil

def threeRegisters : Database :=
  { twoRegisters with
    registers := twoRegisters.registers ++
      [⟨4, 0, "c", 2, 3, .uint16, .bigEndian, .fin false 1, none, none, 2, none⟩]
    nextId := 5 }

/-- Each register follows the next one. -/
def chain : List ConfigWrite := [
  .updateConfig 3 "a" (follow "a" "{b}"), .updateConfig 3 "b" (follow "b" "{c}")]

theorem noCycles_always_iff_chain :
    Always (step {}) (NoCycles asciiWord) threeRegisters chain ↔
      EachStep (step {}) (fun db w _ => w.Safe asciiWord {} db) threeRegisters chain :=
  noCycles_always_iff (by decide) fun _ => acyclic_names_nil

/-- The registers follow each other. -/
def circle : Database :=
  { twoRegisters with
    simulationConfigs := [⟨(follow "a" "{b}").toConfigEntry, 4, 3⟩,
      ⟨(follow "b" "{a}").toConfigEntry, 5, 3⟩]
    nextId := 6 }

theorem exec_circle : exec (step {}) twoRegisters
    [.updateConfig 3 "a" (follow "a" "{b}"), .updateConfig 3 "b" (follow "b" "{a}")] =
      some circle := by
  have hcheck : ∀ db : Database, db.devices = twoRegisters.devices →
      db.registers = twoRegisters.registers → ∀ name ∈ ["a", "b"],
        checkConfig db 3 name = .ok () := by
    intro db hdevices hregisters name hname
    have hdevice : db.getDeviceOr404 3 = twoRegisters.getDeviceOr404 3 := by
      rw [Database.getDeviceOr404, Database.getDeviceOr404, Database.findDevice,
        Database.findDevice, hdevices]
    refine bind_ok_iff.2 ⟨_, hdevice, ?_⟩
    rw [raiseIf_ok_iff, not_not, templateRegisterNames, Database.registersOf, hregisters,
      List.mem_map]
    simp only [List.mem_mergeSort]
    rw [List.mem_cons, List.mem_singleton] at hname
    obtain rfl | rfl := hname
    · exact ⟨_, List.mem_cons_self, rfl⟩
    · exact ⟨_, List.mem_cons_of_mem _ List.mem_cons_self, rfl⟩
  have hfirst := hcheck twoRegisters rfl rfl "a" (by simp)
  have hsecond := hcheck (upsertConfig twoRegisters 3 "a" (follow "a" "{b}").toConfigEntry) rfl rfl
    "b" (by simp)
  simp only [exec, step, checked, hfirst, hsecond, Option.bind_some]
  rfl

/-- Two updates that are both accepted: one register follows the other, and the other way. -/
theorem circle_accepted : ¬ ∀ db ws, Fresh db → NoCycles asciiWord db →
    Always (step {}) (NoCycles asciiWord) db ws := by
  intro h
  have hacyclic : Acyclic (Names asciiWord (circle.configsOf 3)) :=
    (h twoRegisters _ (by decide) (noCycles_twoRegisters _)).of_exec exec_circle 3
  have hab : Names asciiWord (circle.configsOf 3) "a" "b" :=
    ⟨⟨_, List.mem_cons_self, rfl, by decide⟩,
      _, List.mem_cons_of_mem _ List.mem_cons_self, rfl, rfl⟩
  have hba : Names asciiWord (circle.configsOf 3) "b" "a" :=
    ⟨⟨_, List.mem_cons_of_mem _ List.mem_cons_self, rfl, by decide⟩,
      _, List.mem_cons_self, rfl, rfl⟩
  exact hacyclic "a" (.tail (.single hab) hba)

end ConfigWrite

end GhostMeter.Services
