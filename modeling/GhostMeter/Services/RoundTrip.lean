import GhostMeter.Services.Builtins
import GhostMeter.Services.ExportRows
import GhostMeter.Services.ImportProgress
import GhostMeter.Services.ImportRules

/-! The export of a database, imported into a freshly seeded one and back into the same one. -/

namespace GhostMeter

open GhostMeter.Lib GhostMeter.Simulation GhostMeter.Protocols GhostMeter.Schemas

namespace Services

/-! What a database says about each thing, without its ids. -/

/-- The user template with the name, and its registers by their names. -/
def userTemplate (db : Database) : Dict String (DeviceTemplate × Dict String RegisterDefinition) :=
  fun n => ((db.templateNamed n).filter (!·.isBuiltin)).map fun t =>
    (t.bare, db.storedRegister t.id)

/-- The device under the key, with the name of its template and without its status. -/
def deviceListing (db : Database) : Dict (ℤ × ℤ) DeviceExport :=
  fun k => (db.deviceAt k).map (listing db)

def configsAt (db : Database) (k : ℤ × ℤ) : List ConfigEntry :=
  (rowsAt SimulationConfig.key db db.simulationConfigs k).map (·.toConfigEntry)

def schedulesAt (db : Database) (k : ℤ × ℤ) : List (ScheduleEntry × Bool) :=
  (rowsAt AnomalySchedule.key db db.anomalySchedules k).map AnomalySchedule.toEntry

def brokerListing (db : Database) : Dict String MqttBrokerSettingsExport :=
  fun n => (db.brokerNamed n).map (·.toExport)

/-- The publish config of the device under the key for the broker with the name. -/
def publishAt (db : Database) (k : ℤ × ℤ) (n : String) : Option MqttPublishConfig :=
  (db.deviceAt k).bind fun d => (db.brokerNamed n).bind fun b =>
    (db.publishConfigFor (d.id, b.id)).map (·.bare)

/-- Both databases say the same, up to ids and the status of the devices. -/
structure SameConfiguration (db db' : Database) : Prop where
  templates : userTemplate db' = userTemplate db
  devices : deviceListing db' = deviceListing db
  configs : ∀ k, (configsAt db' k).Perm (configsAt db k)
  schedules : ∀ k, (schedulesAt db' k).Perm (schedulesAt db k)
  brokers : brokerListing db' = brokerListing db
  publishConfigs : publishAt db' = publishAt db

/-- An import of the export of `db` into `target` succeeds, and gives what `db` says. -/
def RoundTrips (target db : Database) : Prop :=
  ∃ db' r, importSystem target (exported db) = .ok (db', r) ∧ SameConfiguration db db'

/-- No register of a user template has an oid, and every row that belongs to a device belongs to
the last one of its name. -/
structure Portable (db : Database) : Prop where
  oids : ∀ t ∈ db.templates, t.isBuiltin = false → ∀ r ∈ db.registers, r.templateId = t.id →
    r.oid = none
  configs : ∀ c ∈ db.simulationConfigs, Addressed db c.deviceId
  schedules : ∀ s ∈ db.anomalySchedules, Addressed db s.deviceId
  publishConfigs : ∀ m ∈ db.mqttPublishConfigs, Addressed db m.deviceId

/-- A database that holds nothing but the built-in templates, and library rows. -/
structure Seeded (fresh : Database) : Prop where
  valid : fresh.Valid
  builtin : ∀ t ∈ fresh.templates, t.isBuiltin = true
  devices : fresh.devices = []
  brokers : fresh.mqttBrokers = []

/-- The built-in templates of both databases have the same names. -/
def SameBuiltins (fresh db : Database) : Prop :=
  ∀ n, (∃ t ∈ fresh.templates, t.name = n ∧ t.isBuiltin = true) ↔
    ∃ t ∈ db.templates, t.name = n ∧ t.isBuiltin = true

/-- What `target` holds does not get in the way of an import of the export of `db`. -/
structure Receives (target db : Database) : Prop where
  valid : target.Valid
  builtins : SameBuiltins target db
  users : ∀ t' ∈ target.templates, t'.isBuiltin = false → ∃ t ∈ db.templates, t.name = t'.name
  devices : ∀ d' ∈ target.devices, ∃ d ∈ db.devices, d.key = d'.key
  configs : ∀ k, configsAt db k = [] → configsAt target k = []
  schedules : ∀ k, schedulesAt db k = [] → schedulesAt target k = []
  brokers : ∀ b' ∈ target.mqttBrokers, ∃ b ∈ db.mqttBrokers, b.name = b'.name
  passwords : ∀ b ∈ db.mqttBrokers, ∀ b' ∈ target.mqttBrokers, b'.name = b.name →
    b'.password = b.password
  brokerIds : ∀ b ∈ db.mqttBrokers, (target.brokerNamed b.name).isSome ∨
    ∀ r ∈ target.mqttBrokers, r.id < target.nextId
  publishConfigs : ∀ k n, publishAt db k n = none → publishAt target k n = none

theorem receives_self {db : Database} (h : db.Valid) : Receives db db where
  valid := h
  builtins _ := Iff.rfl
  users t ht _ := ⟨t, ht, rfl⟩
  devices d hd := ⟨d, hd, rfl⟩
  configs _ := id
  schedules _ := id
  brokers b hb := ⟨b, hb, rfl⟩
  passwords b hb b' hb' hname := by
    rw [List.inj_on_of_nodup_map h.brokerNames hb' hb hname]
  brokerIds b hb := Or.inl (by
    rw [Database.brokerNamed, (Table.find_eq_some_iff h.brokerNames).2 ⟨hb, rfl⟩]
    rfl)
  publishConfigs _ _ := id

section Seeded

variable {fresh db : Database} (h : Seeded fresh)

include h

theorem Seeded.deviceAt (k : ℤ × ℤ) : fresh.deviceAt k = none := by
  rw [Database.deviceAt, h.devices]
  rfl

theorem Seeded.receives (hsame : SameBuiltins fresh db) : Receives fresh db where
  valid := h.valid
  builtins := hsame
  users t ht hb := by simp [h.builtin t ht] at hb
  devices d hd := by simp [h.devices] at hd
  configs k _ := by rw [configsAt, rowsAt, h.deviceAt]; rfl
  schedules k _ := by rw [schedulesAt, rowsAt, h.deviceAt]; rfl
  brokers b hb := by simp [h.brokers] at hb
  passwords b _ b' hb' := by simp [h.brokers] at hb'
  brokerIds b _ := Or.inr (by simp [h.brokers])
  publishConfigs k n _ := by rw [publishAt, h.deviceAt]; rfl

end Seeded

section Acceptable

variable {target db : Database}

theorem acceptable_exported (h : db.Valid) (hr : Receives target db) (hp : Portable db) :
    Acceptable target (exported db) where
  templateNames := templateNames_exported h.toKeyed
  registerNames t ht := by
    obtain ⟨t, -, rfl⟩ := List.mem_map.1 ht
    rw [DeviceTemplate.toExport, List.map_map]
    exact registersOf_nodup (·.name) h.registerNames t.id
  registerAddresses t ht := by
    obtain ⟨t, -, rfl⟩ := List.mem_map.1 ht
    rw [DeviceTemplate.toExport, List.map_map]
    exact registersOf_nodup (fun r => (r.address, r.functionCode)) h.registerAddresses t.id
  deviceKeys := deviceKeys_exported h.toKeyed
  deviceTemplates e he := by
    rw [devices_exported h.toKeyed] at he
    obtain ⟨d, hd, rfl⟩ := List.mem_map.1 he
    obtain ⟨t, ht, -, hname⟩ := findTemplate_of_device h.toKeyed hd
    have hlisted : (listing db d).templateName = t.name := hname
    rw [hlisted]
    cases hb : t.isBuiltin with
    | true =>
      obtain ⟨t', ht', hname', -⟩ := (hr.builtins t.name).2 ⟨t, ht, rfl, hb⟩
      left
      rw [hr.valid.templateNamed_iff.2 ⟨ht', hname'⟩]
      rfl
    | false =>
      right
      rw [lastUser_exported h.toKeyed, h.templateNamed_iff.2 ⟨ht, rfl⟩]
      simp [hb]
  configs := by
    have hrows : (exported db).simulationConfigs = _ :=
      exportRows_eq h.toKeyed fun c hc => h.configDevices c hc
    rw [hrows, List.map_map]
    exact nodup_exported h.toKeyed hp.configs h.configKeys
  schedules := by
    have hrows : (exported db).anomalySchedules = _ :=
      exportRows_eq h.toKeyed fun s hs => h.scheduleDevices s hs
    rw [hrows, List.map_map]
    exact nodup_exported h.toKeyed hp.schedules h.scheduleKeys

end Acceptable

section Imported

variable {target db db' : Database} {s₁ s₂ s₃ s₄ : ImportState}
  (himport : Imported target (exported db) db' s₁ s₂ s₃ s₄) (h : db.Valid)

include himport h

/-- A user template after the import: its registers have lost their oids. -/
theorem Imported.userTemplate_after (hr : Receives target db) {t : DeviceTemplate}
    (ht : t ∈ db.templates) (hb : t.isBuiltin = false) :
    userTemplate db' t.name = some (t.bare, fun name =>
      (db.storedRegister t.id name).map fun r => { r with oid := none }) := by
  have hfind := h.templateNamed_iff.2 ⟨ht, rfl⟩
  have hlast : lastUser (exported db).templates t.name = some (t.toExport db) := by
    rw [lastUser_exported h.toKeyed, hfind]
    simp [hb]
  have hold : (target.templateNamed t.name).elim false (·.isBuiltin) = false := by
    cases hfound : target.templateNamed t.name with
    | none => rfl
    | some t' =>
      obtain ⟨ht', hname⟩ := hr.valid.templateNamed_iff.1 hfound
      rw [Option.elim_some, Bool.eq_false_iff]
      intro hb'
      obtain ⟨t₀, ht₀, hname₀, hb₀⟩ := (hr.builtins t.name).1 ⟨t', ht', hname, hb'⟩
      rw [List.inj_on_of_nodup_map h.templateNames ht₀ ht hname₀, hb] at hb₀
      cases hb₀
  have hnamed := himport.templates.named t.name
  rw [hlast, templateAfter, hold, ← himport.templateNamed_eq] at hnamed
  obtain ⟨t', ht', hbare⟩ := Option.map_eq_some_iff.1 hnamed
  have hbare' : t'.bare = t.bare := by
    rw [hbare, DeviceTemplate.bare, hb]
    rfl
  have hbuiltin : t'.isBuiltin = false := congrArg DeviceTemplate.isBuiltin hbare
  have hregisters : db'.storedRegister t'.id = fun name =>
      (db.storedRegister t.id name).map fun r => { r with oid := none } := by
    funext name
    have hrow := himport.templates.registers t.name t' name (himport.templateNamed_eq ▸ ht')
    rw [hlast] at hrow
    rw [Database.storedRegister, himport.registerNamed_eq, hrow]
    have hof : Table.find RegisterDefinition.name (db.registersOf t.id) name =
        db.registerNamed (t.id, name) := by
      refine Option.ext fun r => ?_
      rw [Table.find_eq_some_iff (registersOf_nodup (·.name) h.registerNames t.id),
        Database.registerNamed, Table.find_eq_some_iff h.registerNames, Database.registersOf,
        (List.mergeSort_perm _ _).mem_iff, List.mem_filter, decide_eq_true_eq, and_assoc]
      exact and_congr_right fun _ => (@Prod.ext_iff _ _ r.key (t.id, name)).symm
    change (Table.find _ ((db.registersOf t.id).map (·.toExport)) name).map _ = _
    rw [Table.find_map, Option.map_map]
    change (Table.find RegisterDefinition.name (db.registersOf t.id) name).map _ = _
    rw [hof, Database.storedRegister, Option.map_map]
    rfl
  rw [userTemplate, ht', ← hbare', ← hregisters]
  simp [hbuiltin]

/-- No other user template comes of the import. -/
theorem Imported.userTemplate_none (hr : Receives target db) {n : String}
    (hno : ∀ t ∈ db.templates, t.name = n → t.isBuiltin = true) : userTemplate db' n = none := by
  have hlast : lastUser (exported db).templates n = none := by
    rw [lastUser_exported h.toKeyed]
    cases hfound : db.templateNamed n with
    | none => rfl
    | some t =>
      obtain ⟨ht, hname⟩ := h.templateNamed_iff.1 hfound
      simp [hno t ht hname]
  have hnamed := himport.templates.named n
  rw [hlast, templateAfter, ← himport.templateNamed_eq] at hnamed
  rw [userTemplate, Option.map_eq_none_iff, Option.filter_eq_none_iff]
  intro t' ht'
  rw [ht', Option.map_some] at hnamed
  obtain ⟨t₀, ht₀, hbare⟩ := Option.map_eq_some_iff.1 hnamed.symm
  obtain ⟨hmem, hname⟩ := hr.valid.templateNamed_iff.1 ht₀
  have hbuiltin : t₀.isBuiltin = true := by
    by_contra hb
    rw [Bool.not_eq_true] at hb
    obtain ⟨t, ht, hname'⟩ := hr.users t₀ hmem hb
    obtain ⟨t₁, ht₁, hname₁, hb₁⟩ :=
      (hr.builtins n).2 ⟨t, ht, hname'.trans hname, hno t ht (hname'.trans hname)⟩
    rw [List.inj_on_of_nodup_map hr.valid.templateNames ht₁ hmem (hname₁.trans hname.symm),
      hb] at hb₁
    cases hb₁
  have hsame : t₀.bare.isBuiltin = t'.bare.isBuiltin := congrArg _ hbare
  have hbuiltin' : t'.isBuiltin = true := hsame.symm.trans hbuiltin
  simp [hbuiltin']

theorem Imported.templates_same (hr : Receives target db) (hp : Portable db) :
    userTemplate db' = userTemplate db := by
  funext n
  by_cases huser : ∃ t ∈ db.templates, t.name = n ∧ t.isBuiltin = false
  · obtain ⟨t, ht, rfl, hb⟩ := huser
    rw [himport.userTemplate_after h hr ht hb, userTemplate, h.templateNamed_iff.2 ⟨ht, rfl⟩]
    simp only [Option.filter_some, hb, Bool.not_false, if_true, Option.map_some, Option.some_inj,
      Prod.mk.injEq, true_and]
    funext name
    cases hrow : db.registerNamed (t.id, name) with
    | none => simp [Database.storedRegister, hrow]
    | some r =>
      obtain ⟨hmem, hkey⟩ := (Table.find_eq_some_iff h.registerNames).1 hrow
      have hoid := hp.oids t ht hb r hmem (congrArg Prod.fst hkey)
      simp [Database.storedRegister, hrow, RegisterDefinition.bare, hoid]
  · have hno : ∀ t ∈ db.templates, t.name = n → t.isBuiltin = true := by
      intro t ht hname
      by_contra hb
      exact huser ⟨t, ht, hname, Bool.eq_false_iff.2 hb⟩
    rw [himport.userTemplate_none h hr hno, userTemplate]
    symm
    rw [Option.map_eq_none_iff, Option.filter_eq_none_iff]
    intro t ht
    obtain ⟨hmem, hname⟩ := h.templateNamed_iff.1 ht
    simp [hno t hmem hname]

/-- The device under the key after the import. -/
theorem Imported.deviceAt_after {k : ℤ × ℤ} {d : DeviceInstance} (hd : db.deviceAt k = some d) :
    ∃ d', db'.deviceAt k = some d' ∧ listing db' d' = listing db d ∧
      match target.deviceAt k with
      | some d₀ => d'.id = d₀.id
      | none => target.nextId ≤ d'.id := by
  have hlast : lastListed (exported db).devices k = some (listing db d) := by
    rw [lastListed_exported h.toKeyed, hd]
    rfl
  have hkey : (listing db d).key = k := (h.deviceAt_iff.1 hd).2
  obtain ⟨d', hd', hlisted⟩ := himport.devices.listed _ _ hlast
  rw [← himport.deviceAt_eq] at hd'
  obtain ⟨hmem, hkey'⟩ := himport.keyed.deviceAt_iff.1 hd'
  obtain ⟨t, ht, hid, hname⟩ := himport.device_listed (hkey ▸ hlast) hmem (hkey'.trans hkey.symm)
  have htemplate : templateName db' d' = (listing db d).templateName := by
    rw [templateName, himport.keyed.findTemplate_iff.2 ⟨ht, hid⟩]
    exact hname
  have hkeys : d'.key = d.key := hkey'.trans hkey.symm
  refine ⟨d', hd', ?_, ?_⟩
  · have hslave : d'.slaveId = d.slaveId := congrArg Prod.fst hkeys
    have hport : d'.port = d.port := congrArg Prod.snd hkeys
    rw [listing, DeviceInstance.toExport, htemplate, hlisted.name, hlisted.description, hslave,
      hport]
    rfl
  · have hids := hlisted.id
    rw [hkey, himport.deviceAt_before] at hids
    cases hold : target.deviceAt k with
    | some d₀ =>
      rw [hold] at hids
      exact hids
    | none =>
      rw [hold] at hids
      exact himport.templates.next.trans hids

theorem Imported.deviceAt_none (hr : Receives target db) {k : ℤ × ℤ} (hd : db.deviceAt k = none) :
    db'.deviceAt k = none := by
  have hlast : lastListed (exported db).devices k = none := by
    rw [lastListed_exported h.toKeyed, hd]
    rfl
  rw [himport.deviceAt_eq, himport.devices.unlisted k hlast, himport.deviceAt_before]
  refine Table.find_eq_none_iff.2 fun d' hd' hkey => ?_
  obtain ⟨d₀, hd₀, hkey₀⟩ := hr.devices d' hd'
  exact Table.find_eq_none_iff.1 hd d₀ hd₀ (hkey₀.trans hkey)

theorem Imported.devices_same (hr : Receives target db) : deviceListing db' = deviceListing db := by
  funext k
  rw [deviceListing, deviceListing]
  cases hd : db.deviceAt k with
  | none =>
    rw [himport.deviceAt_none h hr hd]
    rfl
  | some d =>
    obtain ⟨d', hd', hsame, -⟩ := himport.deviceAt_after h hd
    rw [hd', Option.map_some, hsame]
    rfl

section Rows

variable {α β γ ι : Type} {key : α → UUID × ι} {content : α → γ} {name : β → String}
  {entry : β → γ} {toExport : α → String → β} {rows old new : List α} {cleared : List String}

/-- The rows of every device after the import, if they can be told from its name. -/
theorem Imported.rows_same (hr : Receives target db)
    (hdone : RowsDone key content name entry (mapOtherDevices target.devices s₂).deviceNameToId old
      (exportRows (deviceIdToName db) (fun r => (key r).1) toExport rows) new cleared)
    (hold : ∀ r ∈ old, ∃ d ∈ target.devices, d.id = (key r).1)
    (hname : ∀ r n, name (toExport r n) = n) (hentry : ∀ r n, entry (toExport r n) = content r)
    (haddr : ∀ r ∈ rows, Addressed db (key r).1) {k : ℤ × ℤ}
    (hkeep : (rowsAt key db rows k).map content = [] → (rowsAt key target old k).map content = []) :
    (rowsAt key db' new k).map content = (rowsAt key db rows k).map content := by
  cases hd : db.deviceAt k with
  | none =>
    rw [rowsAt, rowsAt, himport.deviceAt_none h hr hd, hd]
    rfl
  | some d =>
    obtain ⟨hmem, hkey⟩ := listing_mem h.toKeyed hd
    have hrows := hdone.rowsAt_listed himport hold hr.valid.toKeyed hmem
    have hat := entriesAt_exported h.toKeyed hname hentry hd haddr
    have hsome : rowsAt key db rows k = ofDevice key rows d.id := by
      rw [rowsAt, hd]
      rfl
    rw [hkey] at hrows
    rw [hsome] at hkeep ⊢
    rw [hrows]
    split
    next hnil =>
      rw [hnil, List.map_nil] at hat
      rw [hkeep hat.symm, ← hat]
    next =>
      rw [remaining_eq_self, hat]
      -- the entries at the key have one name
      intro b hb b' hb'
      have hb := List.of_mem_filter hb
      have hb' := List.of_mem_filter hb'
      rw [decide_eq_true_eq, lastNamed_key_iff h.toKeyed hd] at hb hb'
      rw [← (lastOfName_mem hb).2, (lastOfName_mem hb').2]

/-- A device that is not the last of its name is left with the rows that it had. -/
theorem Imported.rows_lost
    (hdone : RowsDone key content name entry (mapOtherDevices target.devices s₂).deviceNameToId old
      (exportRows (deviceIdToName db) (fun r => (key r).1) toExport rows) new cleared)
    (hold : ∀ r ∈ old, ∃ d ∈ target.devices, d.id = (key r).1) (ht : target.Keyed) {k : ℤ × ℤ}
    {d : DeviceInstance} (hd : db.deviceAt k = some d) (hlast : lastOfName db d.name ≠ some d) :
    (rowsAt key db' new k).map content = (rowsAt key target old k).map content := by
  obtain ⟨hmem, hkey⟩ := listing_mem h.toKeyed hd
  have hrows := hdone.rowsAt_listed himport hold ht hmem
  rw [hkey] at hrows
  rw [hrows, if_pos]
  rw [entriesAt, List.filter_eq_nil_iff]
  intro b _ hb
  rw [decide_eq_true_eq, lastNamed_key_iff h.toKeyed hd] at hb
  rw [(lastOfName_mem hb).2] at hlast
  exact hlast hb

end Rows

section Mqtt

variable {s₅ s₆ : ImportState} (hbrokers : BrokersImported s₄ (brokerExports (exported db)) s₅)

include hbrokers

omit h in
theorem Imported.broker_after (hr : Receives target db) {b : MqttBrokerSettings}
    (hb : b ∈ db.mqttBrokers) : ∃ b', s₅.db.brokerNamed b.name = some b' ∧
      b'.toExport = b.toExport ∧
      ∀ old, target.brokerNamed b.name = some old → b'.id = old.id := by
  have hbefore : s₄.db.brokerNamed = target.brokerNamed := by
    rw [Database.brokerNamed, himport.mqtt_before.1]
    rfl
  obtain ⟨row, hrow, hexport⟩ :=
    hbrokers.listed b.toExport (mem_brokerExports_exported.2 ⟨b, hb, rfl⟩)
  rw [hbefore] at hexport
  have hname : b.toExport.name = b.name := rfl
  rw [hname] at hrow hexport
  refine ⟨row, hrow, ?_, fun old hold => ?_⟩
  · rw [hexport, brokerAfter]
    split
    next => rfl
    next =>
      cases hold : target.brokerNamed b.name with
      | none => rfl
      | some old =>
        have hsame := hr.passwords b hb old (Table.mem_of_find hold) (Table.key_of_find hold)
        rw [Option.elim_some, hsame]
        rfl
  · obtain ⟨b', hb', hid⟩ := hbrokers.kept b.name old (hbefore ▸ hold)
    obtain rfl := Option.some.inj (hrow.symm.trans hb')
    exact hid

omit h in
theorem Imported.brokers_same (hr : Receives target db) :
    brokerListing s₅.db = brokerListing db := by
  funext n
  rw [brokerListing, brokerListing]
  cases hb : db.brokerNamed n with
  | some b =>
    obtain rfl := Table.key_of_find hb
    obtain ⟨b', hb', hexport, -⟩ := himport.broker_after hbrokers hr (Table.mem_of_find hb)
    rw [hb', Option.map_some, hexport]
    rfl
  | none =>
    have hno : n ∉ (brokerExports (exported db)).map (·.name) := by
      intro hn
      obtain ⟨e, he, rfl⟩ := List.mem_map.1 hn
      obtain ⟨b, hmem, rfl⟩ := mem_brokerExports_exported.1 he
      exact Table.find_eq_none_iff.1 hb b hmem rfl
    have hbefore : Table.find MqttBrokerSettings.name target.mqttBrokers n = none := by
      refine Table.find_eq_none_iff.2 fun b' hb' hname => ?_
      obtain ⟨b, hmem, hname'⟩ := hr.brokers b' hb'
      exact Table.find_eq_none_iff.1 hb b hmem (hname'.trans hname)
    rw [hbrokers.unlisted n hno, Database.brokerNamed, himport.mqtt_before.1, hbefore]

/-- The names that stand for a device of the import. -/
theorem Imported.deviceName_iff {k : ℤ × ℤ} {d d' : DeviceInstance} (hd : db.deviceAt k = some d)
    (hd' : db'.deviceAt k = some d') (n : String) :
    s₅.deviceNameToId n = some d'.id ↔ lastOfName db n = some d := by
  obtain ⟨hmem, hkey⟩ := listing_mem h.toKeyed hd
  rw [hbrokers.ids, himport.mqtt_before.2.2.2,
    himport.name_iff hmem (hkey.symm ▸ himport.deviceAt_eq ▸ hd'), hkey]
  exact lastNamed_key_iff h.toKeyed hd

theorem Imported.publishConfigs_after
    (hpublish : PublishDone s₅ (exported db).mqttPublishConfigs s₆)
    (haddr : ∀ m ∈ db.mqttPublishConfigs, Addressed db m.deviceId) {k : ℤ × ℤ}
    {d d' : DeviceInstance} (hd : db.deviceAt k = some d) (hd' : db'.deviceAt k = some d')
    {b b' : MqttBrokerSettings} (hb : b ∈ db.mqttBrokers)
    (hb' : s₅.db.brokerNamed b.name = some b') :
    (s₆.db.publishConfigFor (d'.id, b'.id)).map (·.bare) =
      ((db.publishConfigFor (d.id, b.id)).map (·.bare)).or
        ((target.publishConfigFor (d'.id, b'.id)).map (·.bare)) := by
  have hbrokerName : ∀ n, s₅.brokerNameToId n = some b'.id ↔ n = b.name := by
    intro n
    rw [hbrokers.mapped]
    constructor
    · intro hn
      obtain ⟨b'', hb'', hid⟩ := Option.map_eq_some_iff.1 hn
      have hsame := List.inj_on_of_nodup_map hbrokers.rowIds (Table.mem_of_find hb'')
        (Table.mem_of_find hb') hid
      rw [← Table.key_of_find hb'', hsame, Table.key_of_find hb']
    · rintro rfl
      rw [hb', Option.map_some]
  have hrows := hpublish.rows (d'.id, b'.id)
  rw [lastFor_exported h (h.deviceAt_iff.1 hd).1 hb (himport.deviceName_iff h hbrokers hd hd')
    hbrokerName haddr] at hrows
  rw [hrows, Database.publishConfigFor, Database.publishConfigFor, hbrokers.publish,
    himport.mqtt_before.2.1]
  rfl

/-- The publish config of a pair that the database does not have is not in the target either. -/
theorem Imported.publishConfig_old (hr : Receives target db) {k : ℤ × ℤ} {d d' : DeviceInstance}
    (hd : db.deviceAt k = some d) (hd' : db'.deviceAt k = some d') {b b' : MqttBrokerSettings}
    (hb' : s₅.db.brokerNamed b.name = some b')
    (hnone : publishAt db k b.name = none) : target.publishConfigFor (d'.id, b'.id) = none := by
  rw [Database.publishConfigFor]
  refine Table.find_eq_none_iff.2 fun m hm hkey => ?_
  have hmd : m.deviceId = d'.id := congrArg Prod.fst hkey
  have hmb : m.brokerId = b'.id := congrArg Prod.snd hkey
  obtain ⟨d₀, hd₀, hid₀⟩ := hr.valid.publishDevices m hm
  obtain ⟨b₀, hb₀, hbid₀⟩ := hr.valid.publishBrokers m hm
  -- both are rows of the target, so they are the ones under the key and the name
  have hdevice : target.deviceAt k = some d₀ := by
    obtain ⟨d'', hd'', -, hid⟩ := himport.deviceAt_after h hd
    obtain rfl := Option.some.inj (hd'.symm.trans hd'')
    cases hfound : target.deviceAt k with
    | some d₁ =>
      rw [hfound] at hid
      have hsame : d₁.id = d₀.id := hid.symm.trans (hmd.symm.trans hid₀.symm)
      rw [hr.valid.device_ext (Table.mem_of_find hfound) hd₀ hsame]
    | none =>
      rw [hfound] at hid
      have hlt := hr.valid.deviceFresh d₀ hd₀
      rw [hid₀, hmd] at hlt
      exact absurd hlt (not_lt.2 hid)
  have hbroker : target.brokerNamed b.name = some b₀ := by
    obtain ⟨b₁, hb₁, hname₁⟩ := hr.brokers b₀ hb₀
    have hfound : target.brokerNamed b₁.name = some b₀ :=
      (Table.find_eq_some_iff hr.valid.brokerNames).2 ⟨hb₀, hname₁.symm⟩
    obtain ⟨b₂, hb₂, -, hid⟩ := himport.broker_after hbrokers hr hb₁
    have hid₂ := hid b₀ hfound
    have hsame := List.inj_on_of_nodup_map hbrokers.rowIds (Table.mem_of_find hb₂)
      (Table.mem_of_find hb') (hid₂.trans (hbid₀.trans hmb))
    have hname : b₁.name = b.name := by
      rw [← Table.key_of_find hb₂, hsame, Table.key_of_find hb']
    rw [← hname, hfound]
  have hgone := hr.publishConfigs k b.name hnone
  rw [publishAt, hdevice, hbroker, Option.bind_some, Option.bind_some,
    Option.map_eq_none_iff] at hgone
  refine Table.find_eq_none_iff.1 hgone m hm ?_
  exact Prod.ext hid₀.symm hbid₀.symm

theorem Imported.publishConfigs_same (hr : Receives target db) (hp : Portable db)
    (hpublish : PublishDone s₅ (exported db).mqttPublishConfigs s₆) (hdb : s₆.db = db') :
    publishAt db' = publishAt db := by
  funext k n
  have hnamed : db'.brokerNamed = s₅.db.brokerNamed := hdb ▸ hpublish.brokerNamed
  cases hd : db.deviceAt k with
  | none =>
    rw [publishAt, publishAt, himport.deviceAt_none h hr hd, hd]
    rfl
  | some d =>
    obtain ⟨d', hd', -⟩ := himport.deviceAt_after h hd
    cases hb : db.brokerNamed n with
    | none =>
      have hlisting := congrFun (himport.brokers_same hbrokers hr) n
      rw [brokerListing, brokerListing, hb, Option.map_none, Option.map_eq_none_iff] at hlisting
      rw [publishAt, publishAt, hnamed, hd, hd', hlisting, hb]
      rfl
    | some b =>
      obtain rfl := Table.key_of_find hb
      have hmem := Table.mem_of_find hb
      obtain ⟨b', hb', -⟩ := himport.broker_after hbrokers hr hmem
      have hafter :=
        himport.publishConfigs_after h hbrokers hpublish hp.publishConfigs hd hd' hmem hb'
      have hnew :
          publishAt db' k b.name = (s₆.db.publishConfigFor (d'.id, b'.id)).map (·.bare) := by
        rw [publishAt, hnamed, hd', hb', hdb]
        rfl
      have hold : publishAt db k b.name = (db.publishConfigFor (d.id, b.id)).map (·.bare) := by
        rw [publishAt, hd, hb]
        rfl
      rw [hnew, hafter, hold]
      cases hsome : (db.publishConfigFor (d.id, b.id)).map (·.bare) with
      | some m => rfl
      | none =>
        rw [himport.publishConfig_old h hbrokers hr hd hd' hb' (hold.trans hsome)]
        rfl

end Mqtt

end Imported

section Builtins

variable {db db₀ db' : Database} {call : LibraryCall}

/-- A call that neither writes templates nor imports a system leaves the templates alone. -/
theorem templates_perform (hcall : match call with
      | .createTemplate .. | .updateTemplate .. | .deleteTemplate .. | .cloneTemplate ..
      | .importTemplateFile .. | .importSystem .. => False
      | _ => True) (hok : call.perform db = .ok db') : db'.templates = db.templates := by
  have hcreate : ∀ {data e db'}, createProfile db data e = .ok db' →
      db'.templates = db.templates := by
    intro data e db' hok
    simp only [createProfile, bind_ok_iff] at hok
    obtain ⟨-, -, hok⟩ := hok
    obtain rfl := commitOrRaiseConflict_ok hok
    split <;> rfl
  have hscenario : ∀ {data db'}, createScenario db data false = .ok db' →
      db'.templates = db.templates := by
    intro data db' hok
    simp only [createScenario, bind_ok_iff] at hok
    obtain ⟨-, -, -, -, -, -, hok⟩ := hok
    exact Except.ok.inj hok ▸ rfl
  cases call with
  | createTemplate | updateTemplate | deleteTemplate | cloneTemplate | importTemplateFile
  | importSystem => exact hcall.elim
  | createProfile data e => exact hcreate ((mapError_ok_iff _ _ _).1 hok)
  | updateProfile profile data newFirst e =>
    replace hok := (mapError_ok_iff _ _ _).1 hok
    rw [updateProfile, bind_ok_iff] at hok
    obtain ⟨p, -, hok⟩ := hok
    simp only [andThen_ok_iff] at hok
    obtain rfl := commitOrRaiseConflict_ok hok.2.2
    split <;> rfl
  | deleteProfile profile =>
    replace hok := (mapError_ok_iff _ _ _).1 hok
    simp only [deleteProfile, bind_ok_iff] at hok
    obtain ⟨-, -, -, -, hok⟩ := hok
    exact Except.ok.inj hok ▸ rfl
  | importProfile template data e =>
    simp only [LibraryCall.perform, importProfile, bind_ok_iff] at hok
    obtain ⟨-, -, -, -, configs, -, hok⟩ := hok
    split at hok
    next => exact hcreate ((mapError_ok_iff _ _ _).1 hok)
    next => cases hok
  | createScenario data => exact hscenario hok
  | updateScenario scenario data =>
    simp only [LibraryCall.perform, updateScenario, bind_ok_iff] at hok
    obtain ⟨-, -, -, -, -, -, -, -, -, -, hok⟩ := hok
    exact Except.ok.inj hok ▸ rfl
  | deleteScenario scenario =>
    replace hok := (mapError_ok_iff _ _ _).1 hok
    simp only [deleteScenario, bind_ok_iff] at hok
    obtain ⟨-, -, -, -, hok⟩ := hok
    exact Except.ok.inj hok ▸ rfl
  | importScenario data =>
    simp only [LibraryCall.perform, importScenario] at hok
    split at hok
    next => cases hok
    next => exact hscenario hok

theorem SameBuiltins.of_templates (h : db'.templates = db.templates) : SameBuiltins db db' :=
  fun n => by rw [h]

theorem sameBuiltins_createTemplate {data : TemplateCreate} {e : String}
    (hok : createTemplate db data false e = .ok db') : SameBuiltins db db' := by
  obtain ⟨-, rfl⟩ := createTemplate_ok hok
  intro n
  constructor
  · rintro ⟨t, ht, hrest⟩
    exact ⟨t, List.mem_append_left _ ht, hrest⟩
  · rintro ⟨t, ht, hname, hb⟩
    rcases List.mem_append.1 ht with ht | ht
    · exact ⟨t, ht, hname, hb⟩
    · rw [List.mem_singleton.1 ht] at hb
      cases hb

/-- No call makes, renames or takes away a built-in template. -/
theorem sameBuiltins_perform (h : db.Identified) (hok : call.perform db = .ok db') :
    SameBuiltins db db' := by
  cases call with
  | createTemplate data e => exact sameBuiltins_createTemplate hok
  | importTemplateFile data e => exact sameBuiltins_createTemplate hok
  | cloneTemplate template newName e =>
    obtain ⟨data, hok⟩ := cloneTemplate_ok hok
    exact sameBuiltins_createTemplate hok
  | updateTemplate template data e =>
    obtain ⟨t₀, hfound, hb₀, -, -, -, rfl⟩ := updateTemplate_ok hok
    have hno : ∀ t ∈ db.templates, t.isBuiltin = true → t.id ≠ template := by
      intro t ht hb hid
      rw [h.findTemplate_iff.2 ⟨ht, hid⟩] at hfound
      rw [Option.some.inj hfound, hb₀] at hb
      cases hb
    intro n
    constructor
    · rintro ⟨t, ht, hname, hb⟩
      refine ⟨t, List.mem_map.2 ⟨t, ht, if_neg (hno t ht hb)⟩, hname, hb⟩
    · rintro ⟨t', ht', hname, hb⟩
      obtain ⟨t, ht, rfl⟩ := List.mem_map.1 ht'
      have hbuiltin : t.isBuiltin = true := by split at hb <;> exact hb
      rw [if_neg (hno t ht hbuiltin)] at hname
      exact ⟨t, ht, hname, hbuiltin⟩
  | deleteTemplate template =>
    obtain ⟨t₀, hfound, hb₀, -, rfl⟩ := deleteTemplate_ok ((mapError_ok_iff _ _ _).1 hok)
    intro n
    constructor
    · rintro ⟨t, ht, hname, hb⟩
      refine ⟨t, List.mem_filter.2 ⟨ht, ?_⟩, hname, hb⟩
      rw [decide_eq_true_eq]
      intro hid
      rw [h.findTemplate_iff.2 ⟨ht, hid⟩] at hfound
      rw [Option.some.inj hfound, hb₀] at hb
      cases hb
    · rintro ⟨t, ht, hrest⟩
      exact ⟨t, List.mem_of_mem_filter ht, hrest⟩
  | importSystem data =>
    obtain ⟨r, himport⟩ := LibraryCall.perform_importSystem hok
    obtain ⟨s₁, s₂, s₃, s₄, himp⟩ := imported_of_importSystem h.toKeyed himport
    intro n
    constructor
    · rintro ⟨t, ht, rfl, hb⟩
      have hnamed := h.templateNamed_iff.2 ⟨ht, rfl⟩
      obtain ⟨t', ht', -⟩ := himp.templates.kept _ _ hnamed
      rw [← himp.templateNamed_eq] at ht'
      have hbuiltin := (himp.afterImport hnamed ht').2
      exact ⟨t', Table.mem_of_find ht', Table.key_of_find ht', hbuiltin.trans hb⟩
    · rintro ⟨t', ht', rfl, hb⟩
      obtain ⟨t, ht, hb₀, hafter⟩ := himp.builtin_before ht' hb
      obtain ⟨t'', ht'', hid⟩ := himp.templates.kept _ _ (h.templateNamed_iff.2 ⟨ht, rfl⟩)
      rw [← himp.templateNamed_eq] at ht''
      obtain rfl := himp.keyed.template_ext (Table.mem_of_find ht'') ht' (hid.trans hafter.id.symm)
      exact ⟨t, ht, (Table.key_of_find ht'').symm, hb₀⟩
  | _ => exact .of_templates (templates_perform trivial hok)

theorem sameBuiltins_exec (h : db₀.Identified) {calls : List LibraryCall}
    (hexec : exec LibraryCall.step db₀ calls = some db) : SameBuiltins db₀ db := by
  refine (exec_invariant (J := fun db => db.Identified ∧ SameBuiltins db₀ db) ?_
    ⟨h, fun _ => Iff.rfl⟩ hexec).2
  rintro db₁ call db₂ ⟨hidentified, hsame⟩ hstep
  refine ⟨LibraryCall.identified_step hidentified hstep, fun n => (hsame n).trans ?_⟩
  rcases LibraryCall.step_cases hstep with rfl | hok
  · exact Iff.rfl
  · exact sameBuiltins_perform hidentified hok n

end Builtins

section Main

variable {target fresh db db' : Database} {r : ImportResult}

/-- The stages of an import of an export. -/
theorem stages_exported (h : db.Valid) (hr : Receives target db)
    (himport : importSystem target (exported db) = .ok (db', r)) :
    ∃ s₁ s₂ s₃ s₄ s₅ s₆, Imported target (exported db) db' s₁ s₂ s₃ s₄ ∧
      BrokersImported s₄ (brokerExports (exported db)) s₅ ∧
      PublishDone s₅ (exported db).mqttPublishConfigs s₆ ∧ s₆.db = db' := by
  obtain ⟨s₁, s₂, s₃, s₄, himp, hempty, hdb⟩ := stages_of_importSystem hr.valid.toKeyed himport
  obtain ⟨hbrokers, -, hnext, -⟩ := himp.mqtt_before
  refine ⟨s₁, s₂, s₃, s₄, _, _, himp, ?_, publishDone _ _, hdb⟩
  refine brokersImported (hbrokers ▸ hr.valid.brokerIds) (brokerNames_exported h) hempty ?_
  intro e he
  obtain ⟨b, hb, rfl⟩ := mem_brokerExports_exported.1 he
  rw [Database.brokerNamed, hbrokers]
  refine (hr.brokerIds b hb).imp_right fun hlow row hrow => (hlow row hrow).trans_le hnext

theorem roundTrips_of_portable (h : db.Valid) (hr : Receives target db) (hp : Portable db) :
    RoundTrips target db := by
  obtain ⟨db', r, himport⟩ :=
    importSystem_progress hr.valid.toKeyed (acceptable_exported h hr hp)
  obtain ⟨s₁, s₂, s₃, s₄, s₅, s₆, himp, hbrokers, hpublish, hdb⟩ := stages_exported h hr himport
  refine ⟨db', r, himport, ?_⟩
  constructor
  · exact himp.templates_same h hr hp
  · exact himp.devices_same h hr
  · intro k
    rw [configsAt, configsAt, himp.rows_same h hr himp.configRows
      (fun c hc => hr.valid.configDevices c hc) (fun _ _ => rfl) (fun _ _ => rfl) hp.configs
      (hr.configs k)]
  · intro k
    rw [schedulesAt, schedulesAt, himp.rows_same h hr himp.scheduleRows
      (fun s hs => hr.valid.scheduleDevices s hs) (fun _ _ => rfl) (fun _ _ => rfl) hp.schedules
      (hr.schedules k)]
  · funext n
    rw [brokerListing, ← hdb, hpublish.brokerNamed]
    exact congrFun (himp.brokers_same hbrokers hr) n
  · exact himp.publishConfigs_same h hbrokers hr hp hpublish hdb

theorem oids_of_roundTrips (h : db.Valid) (hr : Receives target db)
    (hround : RoundTrips target db) :
    ∀ t ∈ db.templates, t.isBuiltin = false → ∀ r ∈ db.registers, r.templateId = t.id →
      r.oid = none := by
  obtain ⟨db', r, himport, hconfig⟩ := hround
  obtain ⟨s₁, s₂, s₃, s₄, -, -, himp, -⟩ := stages_exported h hr himport
  intro t ht hb row hrow hid
  have htemplates := congrFun hconfig.templates t.name
  rw [himp.userTemplate_after h hr ht hb, userTemplate,
    h.templateNamed_iff.2 ⟨ht, rfl⟩] at htemplates
  simp only [Option.filter_some, hb, Bool.not_false, if_true, Option.map_some, Option.some_inj,
    Prod.mk.injEq, true_and] at htemplates
  have hregister := congrFun htemplates row.name
  have hfound : db.registerNamed (t.id, row.name) = some row :=
    (Table.find_eq_some_iff h.registerNames).2 ⟨hrow, Prod.ext hid rfl⟩
  rw [Database.storedRegister, hfound, Option.map_some, Option.map_some,
    Option.some_inj] at hregister
  exact (congrArg RegisterDefinition.oid hregister).symm

/-- The rows of a table that come back belong to devices that are the last of their names. -/
theorem addressed_of_perm {α β γ ι : Type} {key : α → UUID × ι} {content : α → γ}
    {name : β → String} {entry : β → γ} {toExport : α → String → β} {rows old new : List α}
    {cleared : List String}
    {s₁ s₂ s₃ s₄ : ImportState} (h : db.Valid) (hfresh : Seeded fresh)
    (himp : Imported fresh (exported db) db' s₁ s₂ s₃ s₄)
    (hdone : RowsDone key content name entry (mapOtherDevices fresh.devices s₂).deviceNameToId old
      (exportRows (deviceIdToName db) (fun r => (key r).1) toExport rows) new cleared)
    (hold : ∀ r ∈ old, ∃ d ∈ fresh.devices, d.id = (key r).1)
    (hrows : ∀ r ∈ rows, ∃ d ∈ db.devices, d.id = (key r).1)
    (hperm : ∀ k, ((rowsAt key db' new k).map content).Perm ((rowsAt key db rows k).map content)) :
    ∀ r ∈ rows, Addressed db (key r).1 := by
  intro r hr
  obtain ⟨d, hd, hid⟩ := hrows r hr
  have hat := h.deviceAt_iff.2 ⟨hd, rfl⟩
  refine ⟨d, hd, hid, ?_⟩
  by_contra hlast
  have hnil : rowsAt key fresh old d.key = [] := by
    rw [rowsAt, hfresh.deviceAt]
    rfl
  have hgone := hperm d.key
  rw [himp.rows_lost h hdone hold hfresh.valid.toKeyed hat hlast, hnil, List.map_nil] at hgone
  -- the row itself is there
  have hmem : r ∈ rowsAt key db rows d.key := by
    rw [rowsAt, hat]
    exact List.mem_filter.2 ⟨hr, by rw [decide_eq_true_eq, hid]⟩
  exact List.ne_nil_of_mem (List.mem_map_of_mem hmem) hgone.nil_eq.symm

/-- So do the publish configs. -/
theorem addressed_of_publishAt {s₁ s₂ s₃ s₄ s₅ s₆ : ImportState} (h : db.Valid)
    (hfresh : Seeded fresh) (hr : Receives fresh db)
    (himp : Imported fresh (exported db) db' s₁ s₂ s₃ s₄)
    (hbrokers : BrokersImported s₄ (brokerExports (exported db)) s₅)
    (hpublish : PublishDone s₅ (exported db).mqttPublishConfigs s₆) (hdb : s₆.db = db')
    (hsame : publishAt db' = publishAt db) :
    ∀ m ∈ db.mqttPublishConfigs, Addressed db m.deviceId := by
  intro m hm
  obtain ⟨d, hd, hid⟩ := h.publishDevices m hm
  obtain ⟨b, hb, hbid⟩ := h.publishBrokers m hm
  refine ⟨d, hd, hid, ?_⟩
  have hat := h.deviceAt_iff.2 ⟨hd, rfl⟩
  have hnamed : db.brokerNamed b.name = some b :=
    (Table.find_eq_some_iff h.brokerNames).2 ⟨hb, rfl⟩
  have hrow : db.publishConfigFor (d.id, b.id) = some m :=
    (Table.find_eq_some_iff h.publishKeys).2 ⟨hm, Prod.ext hid.symm hbid.symm⟩
  obtain ⟨d', hd', -⟩ := himp.deviceAt_after h hat
  obtain ⟨b', hb', -⟩ := himp.broker_after hbrokers hr hb
  have hnone : s₅.db.publishConfigFor (d'.id, b'.id) = none := by
    rw [Database.publishConfigFor, hbrokers.publish, himp.mqtt_before.2.1]
    refine Table.find_eq_none_iff.2 fun m' hm' => ?_
    obtain ⟨d₀, hd₀, -⟩ := hr.valid.publishDevices m' hm'
    simp [hfresh.devices] at hd₀
  have hrows := hpublish.rows (d'.id, b'.id)
  rw [hnone, Option.map_none, Option.or_none] at hrows
  have hpublished := congrFun (congrFun hsame d.key) b.name
  rw [publishAt, publishAt, hd', hat, hnamed, ← hdb, hpublish.brokerNamed, hb'] at hpublished
  simp only [Option.bind_some] at hpublished
  rw [hrow, Option.map_some, hrows] at hpublished
  obtain ⟨m', hm', -⟩ := Option.map_eq_some_iff.1 hpublished
  -- the listing that the row comes from names the device
  have hnames := List.find?_some hm'
  rw [decide_eq_true_eq] at hnames
  have hlast := (himp.deviceName_iff h hbrokers hat hd' m'.deviceName).1 hnames.1
  rw [(lastOfName_mem hlast).2]
  exact hlast

theorem portable_of_roundTrips (h : db.Valid) (hfresh : Seeded fresh)
    (hsame : SameBuiltins fresh db) (hround : RoundTrips fresh db) : Portable db := by
  have hr := hfresh.receives hsame
  have hoids := oids_of_roundTrips h hr hround
  obtain ⟨db', r, himport, hconfig⟩ := hround
  obtain ⟨s₁, s₂, s₃, s₄, s₅, s₆, himp, hbrokers, hpublish, hdb⟩ := stages_exported h hr himport
  constructor
  · exact hoids
  · exact addressed_of_perm h hfresh himp himp.configRows (fun c hc => hr.valid.configDevices c hc)
      (fun c hc => h.configDevices c hc) hconfig.configs
  · exact addressed_of_perm h hfresh himp himp.scheduleRows
      (fun s hs => hr.valid.scheduleDevices s hs) (fun s hs => h.scheduleDevices s hs)
      hconfig.schedules
  · exact addressed_of_publishAt h hfresh hr himp hbrokers hpublish hdb hconfig.publishConfigs

/-- The export of a database round trips exactly when no register of a user template has an oid
and every row of a device belongs to the last device of its name. -/
theorem roundTrips_iff (h : db.Valid) (hfresh : Seeded fresh) (hsame : SameBuiltins fresh db) :
    RoundTrips fresh db ∧ RoundTrips db db ↔ Portable db :=
  ⟨fun hround => portable_of_roundTrips h hfresh hsame hround.1,
    fun hp => ⟨roundTrips_of_portable h (hfresh.receives hsame) hp,
      roundTrips_of_portable h (receives_self h) hp⟩⟩

end Main

theorem seeded_seeded : Seeded LibraryCall.seeded := by
  refine ⟨?_, by decide, rfl, rfl⟩
  constructor <;> first | decide | (constructor <;> decide)

/-- The seeded database, with a template, two devices and a broker of the user's. -/
def plantDatabase : Database :=
  { LibraryCall.seeded with
    templates := LibraryCall.seeded.templates ++ [⟨2, "Pump", .modbusTcp, none, false⟩]
    registers := LibraryCall.seeded.registers ++
      [⟨3, 2, "pressure", 0, 3, .uint16, .bigEndian, .fin false 1, none, none, 0, none⟩,
        ⟨4, 2, "speed", 1, 3, .uint16, .bigEndian, .fin false 1, none, none, 1, none⟩]
    devices := [⟨5, 2, "P1", 1, .running, 502, none⟩, ⟨6, 0, "M1", 2, .stopped, 502, none⟩]
    simulationConfigs := [{ registerName := "speed", dataMode := .random, id := 7, deviceId := 5 }]
    anomalySchedules := [{
      registerName := "pressure", anomalyType := .dataLoss, anomalyParams := []
      triggerAfterSeconds := 60, durationSeconds := 10, id := 8, deviceId := 5, isEnabled := true }]
    mqttBrokers := [⟨9, "local", "localhost", 1883, "", "", "ghostmeter", false⟩]
    mqttPublishConfigs := [⟨10, 6, 9, "telemetry", .batch, 5, 0, false, true⟩]
    nextId := 11 }

theorem valid_plantDatabase : plantDatabase.Valid := by
  constructor <;> first | decide | (constructor <;> decide)

/-- The export goes to a seeded database, and back into its own. -/
theorem roundTrips_iff_meter : RoundTrips LibraryCall.seeded plantDatabase ∧
    RoundTrips plantDatabase plantDatabase := by
  refine (roundTrips_iff valid_plantDatabase seeded_seeded fun n => ?_).2 ⟨?_, ?_, ?_, ?_⟩
  · simp [plantDatabase, LibraryCall.seeded]
  · decide
  · intro c hc
    obtain rfl := List.mem_singleton.1 hc
    exact ⟨_, List.mem_cons_self, rfl, rfl⟩
  · intro s hs
    obtain rfl := List.mem_singleton.1 hs
    exact ⟨_, List.mem_cons_self, rfl, rfl⟩
  · intro m hm
    obtain rfl := List.mem_singleton.1 hm
    exact ⟨_, List.mem_cons_of_mem _ (List.mem_singleton_self _), rfl, rfl⟩

/-- An SNMP template with an oid. -/
def upsTemplate : TemplateCreate where
  name := "UPS"
  protocol := .snmp
  registers := [{
    name := "battery", address := 0, dataType := .uint16, oid := some "1.3.6.1.2.1.33.1.2.4.0"
    data_type_valid := uint16_known, byte_order_valid := bigEndian_known
    function_code_valid := holding_valid, address_nonneg := first_address }]
  registers_not_empty := by simp

/-- Neither import of the export gives the oid back. -/
theorem export_loses_oid : Seeded LibraryCall.seeded ∧
    ∃ db, exec LibraryCall.step LibraryCall.seeded [.createTemplate upsTemplate ""] = some db ∧
      db.Valid ∧ ¬ RoundTrips LibraryCall.seeded db ∧ ¬ RoundTrips db db := by
  have hvalid : ∀ db, exec LibraryCall.step LibraryCall.seeded [.createTemplate upsTemplate ""] =
      some db → db.Valid := by
    intro db hdb
    obtain rfl := Option.some.inj hdb
    constructor <;> first | decide | (constructor <;> decide)
  have hsame := @sameBuiltins_exec _ _ LibraryCall.identified_seeded
    [.createTemplate upsTemplate ""] rfl
  refine ⟨seeded_seeded, _, rfl, hvalid _ rfl, fun h => ?_, fun h => ?_⟩
  · have hoid := oids_of_roundTrips (hvalid _ rfl) (seeded_seeded.receives hsame) h _
      (List.mem_cons_of_mem _ List.mem_cons_self) rfl _
      (List.mem_cons_of_mem _ List.mem_cons_self) rfl
    cases hoid
  · have hoid := oids_of_roundTrips (hvalid _ rfl) (receives_self (hvalid _ rfl)) h _
      (List.mem_cons_of_mem _ List.mem_cons_self) rfl _
      (List.mem_cons_of_mem _ List.mem_cons_self) rfl
    cases hoid

end Services

end GhostMeter
