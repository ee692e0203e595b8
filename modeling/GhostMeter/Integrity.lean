import GhostMeter.Models

/-! The constraints of the database: primary keys, unique keys and references. -/

namespace GhostMeter.Database

open GhostMeter.Lib

/-- The constraints on templates and devices, with all ids below the next one. -/
structure Keyed (db : Database) : Prop where
  templateIds : (db.templates.map (·.id)).Nodup
  templateNames : (db.templates.map (·.name)).Nodup
  deviceIds : (db.devices.map (·.id)).Nodup
  deviceKeys : (db.devices.map (·.key)).Nodup
  deviceTemplates : ∀ d ∈ db.devices, ∃ t ∈ db.templates, t.id = d.templateId
  templateFresh : ∀ t ∈ db.templates, t.id < db.nextId
  deviceFresh : ∀ d ∈ db.devices, d.id < db.nextId
  registerFresh : ∀ r ∈ db.registers, r.templateId < db.nextId

/-- The constraints on the rows that belong to templates and devices too, and on the brokers. -/
structure Valid (db : Database) : Prop extends Keyed db where
  registerNames : (db.registers.map (·.key)).Nodup
  registerAddresses :
    (db.registers.map fun r => (r.templateId, r.address, r.functionCode)).Nodup
  registerTemplates : ∀ r ∈ db.registers, ∃ t ∈ db.templates, t.id = r.templateId
  configKeys : (db.simulationConfigs.map (·.key)).Nodup
  configDevices : ∀ c ∈ db.simulationConfigs, ∃ d ∈ db.devices, d.id = c.deviceId
  scheduleKeys : (db.anomalySchedules.map (·.key)).Nodup
  scheduleDevices : ∀ s ∈ db.anomalySchedules, ∃ d ∈ db.devices, d.id = s.deviceId
  brokerIds : (db.mqttBrokers.map (·.id)).Nodup
  brokerNames : (db.mqttBrokers.map (·.name)).Nodup
  publishKeys : (db.mqttPublishConfigs.map (·.key)).Nodup
  publishDevices : ∀ m ∈ db.mqttPublishConfigs, ∃ d ∈ db.devices, d.id = m.deviceId
  publishBrokers : ∀ m ∈ db.mqttPublishConfigs, ∃ b ∈ db.mqttBrokers, b.id = m.brokerId

namespace Keyed

variable {db : Database} (h : db.Keyed)

include h

theorem findTemplate_iff {i : UUID} {t : DeviceTemplate} :
    db.findTemplate i = some t ↔ t ∈ db.templates ∧ t.id = i :=
  Table.find_eq_some_iff h.templateIds

theorem templateNamed_iff {n : String} {t : DeviceTemplate} :
    db.templateNamed n = some t ↔ t ∈ db.templates ∧ t.name = n :=
  Table.find_eq_some_iff h.templateNames

theorem findDevice_iff {i : UUID} {d : DeviceInstance} :
    db.findDevice i = some d ↔ d ∈ db.devices ∧ d.id = i :=
  Table.find_eq_some_iff h.deviceIds

theorem deviceAt_iff {k : ℤ × ℤ} {d : DeviceInstance} :
    db.deviceAt k = some d ↔ d ∈ db.devices ∧ d.key = k :=
  Table.find_eq_some_iff h.deviceKeys

theorem template_ext {t t' : DeviceTemplate} (ht : t ∈ db.templates) (ht' : t' ∈ db.templates)
    (hid : t.id = t'.id) : t = t' := List.inj_on_of_nodup_map h.templateIds ht ht' hid

theorem device_ext {d d' : DeviceInstance} (hd : d ∈ db.devices) (hd' : d' ∈ db.devices)
    (hid : d.id = d'.id) : d = d' := List.inj_on_of_nodup_map h.deviceIds hd hd' hid

/-- Calls that leave the templates and devices alone keep their constraints. -/
theorem of_same {db' : Database} (htemplates : db'.templates = db.templates)
    (hregisters : db'.registers = db.registers) (hdevices : db'.devices = db.devices)
    (hnext : db.nextId ≤ db'.nextId) : db'.Keyed where
  templateIds := htemplates ▸ h.templateIds
  templateNames := htemplates ▸ h.templateNames
  deviceIds := hdevices ▸ h.deviceIds
  deviceKeys := hdevices ▸ h.deviceKeys
  deviceTemplates := by
    rw [htemplates, hdevices]
    exact h.deviceTemplates
  templateFresh t ht := (h.templateFresh t (htemplates ▸ ht)).trans_le hnext
  deviceFresh d hd := (h.deviceFresh d (hdevices ▸ hd)).trans_le hnext
  registerFresh r hr := (h.registerFresh r (hregisters ▸ hr)).trans_le hnext

end Keyed

/-- A config's device has been created. -/
theorem Valid.configFresh {db : Database} (h : db.Valid) :
    ∀ c ∈ db.simulationConfigs, c.deviceId < db.nextId := by
  intro c hc
  obtain ⟨d, hd, hid⟩ := h.configDevices c hc
  exact hid ▸ h.deviceFresh d hd

end GhostMeter.Database
