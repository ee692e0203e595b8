import GhostMeter.Services.ImportMqtt
import GhostMeter.Services.ImportReplaces
import Mathlib.Data.List.Find

/-! What an export lists of a database, and what an import looks up there. -/

namespace GhostMeter

open GhostMeter.Lib GhostMeter.Simulation GhostMeter.Protocols GhostMeter.Schemas

namespace Services

/-- The export of a database, read back as a document. -/
def exported (db : Database) : SystemImport := (exportSystem db).toImport rfl

/-- The name of the device's template. -/
def templateName (db : Database) (d : DeviceInstance) : String :=
  (db.findTemplate d.templateId).elim "" (·.name)

/-- What an export says about the device. -/
def listing (db : Database) (d : DeviceInstance) : DeviceExport := d.toExport (templateName db d)

/-- The last device with the name. -/
def lastOfName (db : Database) (name : String) : Option DeviceInstance :=
  Table.find DeviceInstance.name db.devices.reverse name

section Devices

variable {db : Database} {d : DeviceInstance} {i : UUID} {n : String} {k : ℤ × ℤ}

theorem findTemplate_of_device (h : db.Keyed) (hd : d ∈ db.devices) :
    ∃ t ∈ db.templates, db.findTemplate d.templateId = some t ∧ templateName db d = t.name := by
  obtain ⟨t, ht, hid⟩ := h.deviceTemplates d hd
  have hfind := h.findTemplate_iff.2 ⟨ht, hid⟩
  exact ⟨t, ht, hfind, by rw [templateName, hfind]; rfl⟩

theorem deviceRows_eq (h : db.Keyed) :
    deviceRows db = db.devices.map fun d => (d, templateName db d) := by
  rw [deviceRows, ← List.filterMap_eq_map]
  refine List.filterMap_congr fun d hd => ?_
  obtain ⟨t, -, ht, hname⟩ := findTemplate_of_device h hd
  rw [ht, Option.map_some, Function.comp_apply, hname]

theorem devices_exported (h : db.Keyed) : (exported db).devices = db.devices.map (listing db) := by
  change (deviceRows db).map _ = _
  rw [deviceRows_eq h, List.map_map]
  rfl

theorem deviceKeys_exported (h : db.Keyed) : ((exported db).devices.map (·.key)).Nodup := by
  rw [devices_exported h, List.map_map]
  exact h.deviceKeys

theorem lastListed_exported (h : db.Keyed) :
    lastListed (exported db).devices k = (db.deviceAt k).map (listing db) := by
  rw [lastListed, Table.find_reverse (deviceKeys_exported h), devices_exported h, Table.find_map]
  rfl

theorem lastNamed_exported (h : db.Keyed) :
    lastNamed (exported db).devices n = (lastOfName db n).map (listing db) := by
  rw [lastNamed, devices_exported h, ← List.map_reverse, Table.find_map]
  rfl

theorem listing_mem (h : db.Keyed) (hd : db.deviceAt k = some d) :
    listing db d ∈ (exported db).devices ∧ (listing db d).key = k := by
  obtain ⟨hmem, hkey⟩ := h.deviceAt_iff.1 hd
  rw [devices_exported h]
  exact ⟨List.mem_map_of_mem hmem, hkey⟩

theorem deviceIdToName_eq (h : db.Keyed) :
    deviceIdToName db i = (db.findDevice i).map (·.name) := by
  rw [deviceIdToName, deviceRows_eq h, List.foldl_map, Table.foldl_set, Dict.empty_apply,
    Option.or_none, Table.find_reverse h.deviceIds]
  rfl

theorem lastOfName_mem (hlast : lastOfName db n = some d) : d ∈ db.devices ∧ d.name = n :=
  ⟨List.mem_reverse.1 (Table.mem_of_find hlast), Table.key_of_find hlast⟩

/-- The names whose last listing is under the key. -/
theorem lastNamed_key_iff (h : db.Keyed) (hd : db.deviceAt k = some d) :
    (lastNamed (exported db).devices n).map (·.key) = some k ↔ lastOfName db n = some d := by
  obtain ⟨hmem, hkey⟩ := h.deviceAt_iff.1 hd
  rw [lastNamed_exported h, Option.map_map]
  constructor
  · intro hlast
    obtain ⟨d', hd', hk⟩ := Option.map_eq_some_iff.1 hlast
    rw [hd',
      ← List.inj_on_of_nodup_map h.deviceKeys hmem (lastOfName_mem hd').1 (hkey.trans hk.symm)]
  · intro hlast
    rw [hlast]
    exact congrArg some hkey

end Devices

section Templates

variable {db : Database} {n : String}

theorem lastUser_of_nodup {done : List TemplateExport} (h : (done.map (·.name)).Nodup) :
    lastUser done n = (Table.find TemplateExport.name done n).filter (!·.isBuiltin) := by
  refine Option.ext fun t => ?_
  rw [Option.filter_eq_some_iff, Table.find_eq_some_iff h, Bool.not_eq_true']
  constructor
  · intro ht
    obtain ⟨hmem, hname, hb⟩ := mem_of_lastUser ht
    exact ⟨⟨hmem, hname⟩, hb⟩
  · rintro ⟨⟨hmem, hname⟩, hb⟩
    cases hlast : lastUser done n with
    | none =>
      have hno := List.find?_eq_none.1 hlast t (List.mem_reverse.2 hmem)
      simp [hname, hb] at hno
    | some t' =>
      obtain ⟨hmem', hname', -⟩ := mem_of_lastUser hlast
      rw [List.inj_on_of_nodup_map h hmem' hmem (hname'.trans hname.symm)]

theorem templateNames_exported (h : db.Keyed) :
    ((exported db).templates.map (·.name)).Nodup := by
  change ((db.templates.map (·.toExport db)).map (·.name)).Nodup
  rw [List.map_map]
  exact h.templateNames

/-- The user templates of a database, as an import of its export sees them. -/
theorem lastUser_exported (h : db.Keyed) : lastUser (exported db).templates n =
    ((db.templateNamed n).filter (!·.isBuiltin)).map (·.toExport db) := by
  rw [lastUser_of_nodup (templateNames_exported h)]
  change (Table.find _ (db.templates.map (·.toExport db)) n).filter _ = _
  rw [Table.find_map, Option.filter_map]
  rfl

end Templates

section Rows

variable {db : Database} {d : DeviceInstance} {k : ℤ × ℤ}

/-- The name that an export gives the device with the id. -/
def deviceName (db : Database) (device : UUID) : String :=
  (db.findDevice device).elim "" (·.name)

def brokerName (db : Database) (broker : UUID) : String :=
  (Table.find MqttBrokerSettings.id db.mqttBrokers broker).elim "" (·.name)

/-- The device is found by its name: no later one has it too. -/
def Addressed (db : Database) (device : UUID) : Prop :=
  ∃ d ∈ db.devices, d.id = device ∧ lastOfName db d.name = some d

theorem Addressed.name_iff {device : UUID} (haddr : Addressed db device) (h : db.Keyed)
    (hd : d ∈ db.devices) : lastOfName db (deviceName db device) = some d ↔ device = d.id := by
  obtain ⟨d', hd', rfl, hlast⟩ := haddr
  rw [deviceName, h.findDevice_iff.2 ⟨hd', rfl⟩, Option.elim_some, hlast, Option.some_inj]
  exact ⟨congrArg _, h.device_ext hd' hd⟩

theorem Addressed.name_inj {device device' : UUID} (haddr : Addressed db device)
    (haddr' : Addressed db device') (h : db.Keyed)
    (hname : deviceName db device = deviceName db device') : device = device' := by
  obtain ⟨d, hd, rfl, hlast⟩ := haddr'
  refine (haddr.name_iff h hd).1 ?_
  rw [hname, deviceName, h.findDevice_iff.2 ⟨hd, rfl⟩]
  exact hlast

variable {α β γ ι : Type} {key : α → UUID × ι} {content : α → γ} {name : β → String}
  {entry : β → γ} {toExport : α → String → β} {rows : List α}

theorem exportRows_eq {deviceId : α → UUID} (h : db.Keyed)
    (hrows : ∀ r ∈ rows, ∃ d ∈ db.devices, d.id = deviceId r) :
    exportRows (deviceIdToName db) deviceId toExport rows =
      rows.map fun r => toExport r (deviceName db (deviceId r)) := by
  rw [exportRows, ← List.filterMap_eq_map]
  refine List.filterMap_congr fun r hr => ?_
  obtain ⟨d, hd, hid⟩ := hrows r hr
  have hfind := h.findDevice_iff.2 ⟨hd, hid⟩
  rw [deviceIdToName_eq h, Function.comp_apply, deviceName, hfind]
  rfl

/-- An import takes to the device at the key the rows that it has in the export. -/
theorem entriesAt_exported (h : db.Keyed) (hname : ∀ r n, name (toExport r n) = n)
    (hentry : ∀ r n, entry (toExport r n) = content r) (hd : db.deviceAt k = some d)
    (hrows : ∀ r ∈ rows, Addressed db (key r).1) :
    (entriesAt (exported db).devices name
      (exportRows (deviceIdToName db) (fun r => (key r).1) toExport rows) k).map entry =
      (ofDevice key rows d.id).map content := by
  have hdevices : ∀ r ∈ rows, ∃ d ∈ db.devices, d.id = (key r).1 := by
    intro r hr
    obtain ⟨d, hd, hid, -⟩ := hrows r hr
    exact ⟨d, hd, hid⟩
  rw [exportRows_eq h hdevices, entriesAt, ofDevice, List.filter_map, List.map_map]
  have hfilter : rows.filter ((fun b => decide ((lastNamed (exported db).devices (name b)).map
      (·.key) = some k)) ∘ fun r => toExport r (deviceName db (key r).1)) =
      rows.filter fun r => decide ((key r).1 = d.id) := by
    refine List.filter_congr fun r hr => ?_
    rw [Function.comp_apply, decide_eq_decide, hname, lastNamed_key_iff h hd]
    exact (hrows r hr).name_iff h (h.deviceAt_iff.1 hd).1
  rw [hfilter]
  exact List.map_congr_left fun r _ => hentry r _

/-- The rows are told apart by the names of their devices. -/
theorem nodup_exported (h : db.Keyed) (hrows : ∀ r ∈ rows, Addressed db (key r).1)
    (hkeys : (rows.map key).Nodup) :
    (rows.map fun r => (deviceName db (key r).1, (key r).2)).Nodup := by
  have hmap : (rows.map fun r => (deviceName db (key r).1, (key r).2)) =
      (rows.map key).map fun p => (deviceName db p.1, p.2) := by
    rw [List.map_map]
    rfl
  rw [hmap]
  refine hkeys.map_on ?_
  intro p hp p' hp' heq
  obtain ⟨r, hr, rfl⟩ := List.mem_map.1 hp
  obtain ⟨r', hr', rfl⟩ := List.mem_map.1 hp'
  obtain ⟨hname, hrest⟩ := Prod.ext_iff.1 heq
  exact Prod.ext ((hrows r hr).name_inj (hrows r' hr') h hname) hrest

end Rows

section PublishConfigs

variable {db : Database} {d : DeviceInstance} {b : MqttBrokerSettings} {i j : UUID}

theorem brokerExports_exported :
    brokerExports (exported db) =
      (db.mqttBrokers.mergeSort (·.name ≤ ·.name)).map (·.toExport) :=
  List.append_nil _

theorem mem_brokerExports_exported {e : MqttBrokerSettingsExport} :
    e ∈ brokerExports (exported db) ↔ ∃ b ∈ db.mqttBrokers, b.toExport = e := by
  rw [brokerExports_exported, List.mem_map]
  exact exists_congr fun b => and_congr_left fun _ => (List.mergeSort_perm _ _).mem_iff

theorem brokerNames_exported (h : db.Valid) :
    ((brokerExports (exported db)).map (·.name)).Nodup := by
  rw [brokerExports_exported, List.map_map]
  exact (((List.mergeSort_perm _ _).map _).nodup_iff).2 h.brokerNames

theorem brokerIdToName_eq (h : db.Valid) :
    brokerIdToName db j = (Table.find MqttBrokerSettings.id db.mqttBrokers j).map (·.name) := by
  rw [brokerIdToName, Table.foldl_set, Dict.empty_apply, Option.or_none,
    Table.find_reverse h.brokerIds]

theorem publishConfigs_exported (h : db.Valid) : (exported db).mqttPublishConfigs =
    db.mqttPublishConfigs.map fun m =>
      m.toExport (deviceName db m.deviceId) (brokerName db m.brokerId) := by
  change db.mqttPublishConfigs.filterMap _ = _
  rw [← List.filterMap_eq_map]
  refine List.filterMap_congr fun m hm => ?_
  obtain ⟨d, hd, hid⟩ := h.publishDevices m hm
  obtain ⟨b, hb, hbid⟩ := h.publishBrokers m hm
  have hdevice := h.findDevice_iff.2 ⟨hd, hid⟩
  have hbroker := (Table.find_eq_some_iff h.brokerIds).2 ⟨hb, hbid⟩
  rw [deviceIdToName_eq h.toKeyed, brokerIdToName_eq h, Function.comp_apply, deviceName, brokerName,
    hdevice, hbroker]
  rfl

/-- An import takes to a device and a broker the publish config that they have in the export. -/
theorem lastFor_exported (h : db.Valid) {s : ImportState} (hd : d ∈ db.devices)
    (hb : b ∈ db.mqttBrokers)
    (hdevice : ∀ n, s.deviceNameToId n = some i ↔ lastOfName db n = some d)
    (hbroker : ∀ n, s.brokerNameToId n = some j ↔ n = b.name)
    (haddr : ∀ m ∈ db.mqttPublishConfigs, Addressed db m.deviceId) :
    (lastFor s (exported db).mqttPublishConfigs (i, j)).map (·.toRow) =
      (db.publishConfigFor (d.id, b.id)).map (·.bare) := by
  have hbrokerName : ∀ m ∈ db.mqttPublishConfigs, brokerName db m.brokerId = b.name ↔
      m.brokerId = b.id := by
    intro m hm
    obtain ⟨b', hb', hid⟩ := h.publishBrokers m hm
    rw [brokerName, (Table.find_eq_some_iff h.brokerIds).2 ⟨hb', hid⟩, Option.elim_some, ← hid]
    constructor
    · intro hname
      rw [List.inj_on_of_nodup_map h.brokerNames hb' hb hname]
    · intro hid'
      rw [List.inj_on_of_nodup_map h.brokerIds hb' hb hid']
  rw [lastFor, publishConfigs_exported h, ← List.map_reverse, List.find?_map, Option.map_map]
  have hfind : (db.mqttPublishConfigs.reverse.find? ((fun m : MqttPublishConfigExport =>
      decide (s.deviceNameToId m.deviceName = some i ∧ s.brokerNameToId m.brokerName = some j)) ∘
        fun m => m.toExport (deviceName db m.deviceId) (brokerName db m.brokerId))) =
      db.publishConfigFor (d.id, b.id) := by
    rw [Database.publishConfigFor, ← Table.find_reverse h.publishKeys]
    refine List.find?_congr fun m hm => ?_
    have hrow := List.mem_reverse.1 hm
    rw [Function.comp_apply, decide_eq_decide]
    have hids := and_congr ((hdevice _).trans ((haddr m hrow).name_iff h.toKeyed hd))
      ((hbroker _).trans (hbrokerName m hrow))
    exact hids.trans (@Prod.ext_iff _ _ m.key (d.id, b.id)).symm
  rw [hfind]
  rfl

end PublishConfigs

end Services

end GhostMeter
