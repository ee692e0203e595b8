import GhostMeter.Services.DeviceRows
import GhostMeter.Services.ImportMqtt
import GhostMeter.Services.MqttService

/-! What the requests do to the tables of brokers and publish configs. -/

namespace GhostMeter

open GhostMeter.Lib GhostMeter.Simulation GhostMeter.Protocols GhostMeter.Schemas

namespace Database

/-- The constraints on brokers and publish configs, with all ids below the next one. -/
structure MqttKeyed (db : Database) : Prop extends Keyed db where
  brokerFresh : ∀ b ∈ db.mqttBrokers, b.id < db.nextId
  publishKeys : (db.mqttPublishConfigs.map (·.key)).Nodup
  publishDevices : ∀ m ∈ db.mqttPublishConfigs, ∃ d ∈ db.devices, d.id = m.deviceId
  publishBrokers : ∀ m ∈ db.mqttPublishConfigs, ∃ b ∈ db.mqttBrokers, b.id = m.brokerId

variable {db db' : Database} {key key' : PublishKey} {m : MqttPublishConfig}

theorem Enabled.mem (h : db.Enabled key) :
    ∃ m ∈ db.mqttPublishConfigs, m.key = key ∧ m.enabled = true := by
  obtain ⟨m, hm, hon⟩ := h
  exact ⟨m, Table.mem_of_find hm, Table.key_of_find hm, hon⟩

theorem Enabled.of_same (h : db'.mqttPublishConfigs = db.mqttPublishConfigs) :
    db'.Enabled key ↔ db.Enabled key := by
  rw [Enabled, Enabled, publishConfigFor, publishConfigFor, h]

namespace MqttKeyed

variable (h : db.MqttKeyed)

include h

theorem enabled_of_mem (hm : m ∈ db.mqttPublishConfigs) (hon : m.enabled = true) :
    db.Enabled m.key :=
  ⟨m, (Table.find_eq_some_iff h.publishKeys).2 ⟨hm, rfl⟩, hon⟩

/-- The ids of an enabled pair are not new ones. -/
theorem fresh_of_enabled (hkey : db.Enabled key) : key.1 < db.nextId ∧ key.2 < db.nextId := by
  obtain ⟨m, hm, rfl, -⟩ := hkey.mem
  obtain ⟨d, hd, hid⟩ := h.publishDevices m hm
  obtain ⟨b, hb, hid'⟩ := h.publishBrokers m hm
  refine ⟨?_, ?_⟩
  · exact lt_of_eq_of_lt hid.symm (h.deviceFresh d hd)
  · exact lt_of_eq_of_lt hid'.symm (h.brokerFresh b hb)

/-- Requests that leave the MQTT tables alone keep their constraints. -/
theorem of_devices (hkeyed : db'.Keyed)
    (hdevices : ∀ d ∈ db.devices, ∃ d' ∈ db'.devices, d'.id = d.id)
    (hbrokers : db'.mqttBrokers = db.mqttBrokers)
    (hconfigs : db'.mqttPublishConfigs = db.mqttPublishConfigs) (hnext : db.nextId ≤ db'.nextId) :
    db'.MqttKeyed := by
  refine ⟨hkeyed, fun b hb => ?_, ?_, fun m hm => ?_, ?_⟩
  · exact (h.brokerFresh b (hbrokers ▸ hb)).trans_le hnext
  · exact hconfigs ▸ h.publishKeys
  · obtain ⟨d, hd, hid⟩ := h.publishDevices m (hconfigs ▸ hm)
    obtain ⟨d', hd', hid'⟩ := hdevices d hd
    exact ⟨d', hd', hid'.trans hid⟩
  · rw [hbrokers, hconfigs]
    exact h.publishBrokers

/-- Requests that only change publish configs. -/
theorem of_configs {configs : List MqttPublishConfig} {nextId : UUID}
    (hnext : db.nextId ≤ nextId) (hkeys : (configs.map (·.key)).Nodup)
    (hconfigs : ∀ m ∈ configs, (∃ m₀ ∈ db.mqttPublishConfigs, m₀.key = m.key) ∨
      (∃ d ∈ db.devices, d.id = m.deviceId) ∧ ∃ b ∈ db.mqttBrokers, b.id = m.brokerId) :
    ({ db with mqttPublishConfigs := configs, nextId } : Database).MqttKeyed := by
  refine ⟨h.toKeyed.of_same rfl rfl rfl hnext, fun b hb => ?_, hkeys, fun m hm => ?_,
    fun m hm => ?_⟩
  · exact (h.brokerFresh b hb).trans_le hnext
  · rcases hconfigs m hm with ⟨m₀, hm₀, hkey⟩ | ⟨hdevice, -⟩
    · obtain ⟨d, hd, hid⟩ := h.publishDevices m₀ hm₀
      exact ⟨d, hd, hid.trans (congrArg Prod.fst hkey)⟩
    · exact hdevice
  · rcases hconfigs m hm with ⟨m₀, hm₀, hkey⟩ | ⟨-, hbroker⟩
    · obtain ⟨b, hb, hid⟩ := h.publishBrokers m₀ hm₀
      exact ⟨b, hb, hid.trans (congrArg Prod.snd hkey)⟩
    · exact hbroker

theorem update {f : MqttPublishConfig → MqttPublishConfig} (hf : ∀ m, (f m).key = m.key) :
    ({ db with mqttPublishConfigs :=
      Table.update MqttPublishConfig.key db.mqttPublishConfigs key f } : Database).MqttKeyed := by
  refine h.of_configs le_rfl ?_ fun m hm => Or.inl ?_
  · rw [Table.map_update hf]
    exact h.publishKeys
  · obtain ⟨m₀, hm₀, rfl⟩ := List.mem_map.1 hm
    exact ⟨m₀, hm₀, (Table.key_update hf m₀).symm⟩

theorem filter (p : MqttPublishConfig → Bool) :
    ({ db with mqttPublishConfigs := db.mqttPublishConfigs.filter p } : Database).MqttKeyed := by
  refine h.of_configs le_rfl ?_ fun m hm => Or.inl ⟨m, List.mem_of_mem_filter hm, rfl⟩
  exact h.publishKeys.sublist (List.filter_sublist.map _)

theorem append {row : MqttPublishConfig} (hrow : db.publishConfigFor row.key = none)
    (hdevice : ∃ d ∈ db.devices, d.id = row.deviceId)
    (hbroker : ∃ b ∈ db.mqttBrokers, b.id = row.brokerId) :
    ({ db with mqttPublishConfigs := db.mqttPublishConfigs ++ [row], nextId := db.nextId + 1 } :
      Database).MqttKeyed := by
  refine h.of_configs (Nat.le_succ _) ?_ fun m hm => ?_
  · exact Table.nodup_append_new h.publishKeys fun r hr => Table.find_eq_none_iff.1 hrow r hr
  · rcases List.mem_append.1 hm with hm | hm
    · exact Or.inl ⟨m, hm, rfl⟩
    · obtain rfl := List.mem_singleton.1 hm
      exact Or.inr ⟨hdevice, hbroker⟩

/-- Requests that only change brokers: each keeps its id. -/
theorem of_brokers {brokers : List MqttBrokerSettings} {nextId : UUID}
    (hnext : db.nextId ≤ nextId) (hfresh : ∀ b ∈ brokers, b.id < nextId)
    (hkept : ∀ b ∈ db.mqttBrokers, ∃ b' ∈ brokers, b'.id = b.id) :
    ({ db with mqttBrokers := brokers, nextId } : Database).MqttKeyed := by
  refine ⟨h.toKeyed.of_same rfl rfl rfl hnext, hfresh, h.publishKeys, h.publishDevices,
    fun m hm => ?_⟩
  · obtain ⟨b, hb, hid⟩ := h.publishBrokers m hm
    obtain ⟨b', hb', hid'⟩ := hkept b hb
    exact ⟨b', hb', hid'.trans hid⟩

end MqttKeyed

end Database

namespace Services

variable {db db' : Database} {key key' : PublishKey} {device broker : UUID}

section Configs

theorem publishConfigFor_setPublishEnabled (on : Bool) :
    (setPublishEnabled db key on).publishConfigFor key' =
      (db.publishConfigFor key').map fun m =>
        if m.key = key then { m with enabled := on } else m :=
  Table.find_update fun _ => rfl

theorem publishConfigFor_setPublishEnabled_of_ne (on : Bool) (hne : key' ≠ key) :
    (setPublishEnabled db key on).publishConfigFor key' = db.publishConfigFor key' :=
  Table.find_update_of_ne (fun _ => rfl) hne

theorem publishConfigFor_setPublishEnabled_self (on : Bool) :
    (setPublishEnabled db key on).publishConfigFor key =
      (db.publishConfigFor key).map fun m => { m with enabled := on } :=
  Table.find_update_self fun _ => rfl

theorem enabled_setPublishEnabled_of_ne (on : Bool) (hne : key' ≠ key) :
    (setPublishEnabled db key on).Enabled key' ↔ db.Enabled key' := by
  rw [Database.Enabled, Database.Enabled, publishConfigFor_setPublishEnabled_of_ne on hne]

theorem enabled_setPublishEnabled_self (on : Bool) :
    (setPublishEnabled db key on).Enabled key ↔
      (db.publishConfigFor key).isSome ∧ on = true := by
  rw [Database.Enabled, publishConfigFor_setPublishEnabled_self]
  cases db.publishConfigFor key <;> simp

theorem mqttKeyed_setPublishEnabled (h : db.MqttKeyed) (on : Bool) :
    (setPublishEnabled db key on).MqttKeyed := h.update fun _ => rfl

theorem mem_listPublishConfigs {m : MqttPublishConfig} (h : m ∈ listPublishConfigs db device) :
    m ∈ db.mqttPublishConfigs ∧ m.deviceId = device := by
  simp only [listPublishConfigs, List.mem_map, List.mem_mergeSort, List.mem_filterMap,
    List.mem_filter, Option.map_eq_some_iff, decide_eq_true_eq] at h
  obtain ⟨_, ⟨c, ⟨hc, hdevice⟩, b, -, rfl⟩, rfl⟩ := h
  exact ⟨hc, hdevice⟩

theorem mem_targetConfigs {configs : List MqttPublishConfig} {b : Option UUID}
    {m : MqttPublishConfig} (h : targetConfigs db device b = .ok configs) (hm : m ∈ configs) :
    m ∈ db.mqttPublishConfigs := by
  unfold targetConfigs at h
  simp only at h
  split at h
  next => cases h
  next =>
    obtain rfl := Except.ok.inj h
    exact (mem_listPublishConfigs (List.mem_of_mem_filter hm)).1

/-- What a save stores: its pair keeps its flag. -/
theorem upsertPublishConfig_ok {data : MqttPublishConfigWrite} (h : db.MqttKeyed)
    (hok : upsertPublishConfig db key data = .ok db') :
    db'.MqttKeyed ∧ ∀ k, db.Enabled k → db'.Enabled k := by
  simp only [upsertPublishConfig, bind_ok_iff, mapError_ok_iff] at hok
  obtain ⟨b, hb, hok⟩ := hok
  have hbroker : ∃ b ∈ db.mqttBrokers, b.id = key.2 := by
    unfold getBrokerOr404 at hb
    split at hb
    next b' hfind => exact ⟨b', Table.mem_of_find hfind, Table.key_of_find hfind⟩
    next => cases hb
  split at hok
  next hnone =>
    split at hok
    next => cases hok
    next hdevice =>
      obtain rfl := Except.ok.inj hok
      rw [Option.isNone_iff_eq_none] at hdevice
      obtain ⟨d, hd⟩ := Option.ne_none_iff_exists'.1 hdevice
      refine ⟨h.append hnone ⟨d, Table.mem_of_find hd, Table.key_of_find hd⟩ hbroker, ?_⟩
      rintro k ⟨m, hm, hon⟩
      refine ⟨m, ?_, hon⟩
      rw [Database.publishConfigFor, Table.find_append]
      exact Option.or_eq_some_iff.2 (Or.inl hm)
  next =>
    obtain rfl := Except.ok.inj hok
    refine ⟨h.update fun _ => rfl, ?_⟩
    rintro k ⟨m, hm, hon⟩
    have hfind := @Table.find_update _ _ _ MqttPublishConfig.key db.mqttPublishConfigs key k
      (fun row => { row with
        topicTemplate := data.topicTemplate
        payloadMode := data.payloadMode
        publishIntervalSeconds := data.publishIntervalSeconds
        qos := data.qos
        retain := data.retain }) fun _ => rfl
    refine ⟨_, hfind.trans (congrArg _ hm), ?_⟩
    rw [← hon]
    dsimp only
    split <;> rfl

theorem deletePublishConfig_ok (h : db.MqttKeyed) (hok : deletePublishConfig db key = some db') :
    db'.MqttKeyed ∧ ∀ k, k ≠ key → db.Enabled k → db'.Enabled k := by
  obtain ⟨_, -, rfl⟩ := Option.map_eq_some_iff.1 hok
  refine ⟨h.filter _, fun k hk ⟨m, hm, hon⟩ => ⟨m, ?_, hon⟩⟩
  have hfilter := @Table.find_filter _ _ _ MqttPublishConfig.key db.mqttPublishConfigs k _ _ id key
  rw [id_eq, if_neg hk] at hfilter
  exact hfilter.trans hm

end Configs

section Devices

theorem createDevice_mqtt (h : db.MqttKeyed) (settings : Settings) (data : DeviceCreate) :
    (createDevice settings db data).1.MqttKeyed ∧
      (createDevice settings db data).1.mqttPublishConfigs = db.mqttPublishConfigs := by
  rcases createDevice_cases settings db data with
    heq | ⟨row, -, htemplate, hkey, configs, nextId, hnext, heq⟩
  · rw [heq]
    exact ⟨h, rfl⟩
  · rw [heq]
    have hkeyed := h.toKeyed.insertDevice htemplate hkey
    refine ⟨h.of_devices (hkeyed.of_same rfl rfl rfl hnext) ?_ rfl rfl ?_, rfl⟩
    · exact fun d hd => ⟨d, List.mem_append_left _ hd, rfl⟩
    · exact (Nat.le_succ _).trans hnext

theorem setStatus_mqtt (h : db.MqttKeyed) (status : DeviceStatus) :
    (db.setStatus device status).MqttKeyed := by
  refine h.of_devices (h.toKeyed.setStatus status) (fun d hd => ?_) rfl rfl le_rfl
  refine ⟨_, Table.mem_update hd, ?_⟩
  split <;> rfl

theorem deleteDevice_mqtt (h : db.MqttKeyed) (hok : deleteDevice db device = .ok db') :
    db'.MqttKeyed ∧ ∀ k, k.1 ≠ device → db.Enabled k → db'.Enabled k := by
  obtain ⟨d, -, -, rfl⟩ := deleteDevice_ok_iff.1 hok
  constructor
  · refine ⟨h.toKeyed.deleteRow, h.brokerFresh, ?_, fun m hm => ?_, fun m hm => ?_⟩
    · exact h.publishKeys.sublist (List.filter_sublist.map _)
    · obtain ⟨hm, hne⟩ := List.mem_filter.1 hm
      obtain ⟨d, hd, hid⟩ := h.publishDevices m hm
      exact ⟨d, List.mem_filter.2 ⟨hd, by simpa [hid] using hne⟩, hid⟩
    · exact h.publishBrokers m (List.mem_of_mem_filter hm)
  · rintro k hk ⟨m, hm, hon⟩
    refine ⟨m, ?_, hon⟩
    have hfilter := @Table.find_filter _ _ _ MqttPublishConfig.key db.mqttPublishConfigs k _ _
      Prod.fst device
    rw [if_neg hk] at hfilter
    exact hfilter.trans hm

end Devices

section Brokers

theorem createBroker_ok {data : MqttBrokerWrite} {row : MqttBrokerSettings} (h : db.MqttKeyed)
    (hok : createBroker db data = .ok (db', row)) :
    db'.MqttKeyed ∧ db'.mqttPublishConfigs = db.mqttPublishConfigs := by
  simp only [createBroker, andThen_ok_iff] at hok
  obtain ⟨-, hok⟩ := hok
  obtain ⟨rfl, -⟩ := Prod.mk.inj (Except.ok.inj hok)
  refine ⟨h.of_brokers (Nat.le_succ _) (fun b hb => ?_)
    fun b hb => ⟨b, List.mem_append_left _ hb, rfl⟩, rfl⟩
  rcases List.mem_append.1 hb with hb | hb
  · exact (h.brokerFresh b hb).trans (Nat.lt_succ_self _)
  · rw [List.mem_singleton.1 hb]
    exact Nat.lt_succ_self _

theorem updateBroker_ok {data : MqttBrokerWrite} {row : MqttBrokerSettings} (h : db.MqttKeyed)
    (hok : updateBroker db broker data = .ok (db', row)) :
    db'.MqttKeyed ∧ row.id = broker ∧
      db' = { db with
        mqttBrokers := Table.update MqttBrokerSettings.id db.mqttBrokers broker data.apply } := by
  simp only [updateBroker, bind_ok_iff] at hok
  obtain ⟨old, hold, _, -, hok⟩ := hok
  obtain ⟨rfl, rfl⟩ := Prod.mk.inj (Except.ok.inj hok)
  refine ⟨h.of_brokers le_rfl (fun b hb => ?_) (fun b hb => ?_), ?_, rfl⟩
  · obtain ⟨b₀, hb₀, rfl⟩ := List.mem_map.1 hb
    have hid := @Table.key_update _ _ _ MqttBrokerSettings.id broker data.apply (fun _ => rfl) b₀
    exact lt_of_eq_of_lt hid (h.brokerFresh b₀ hb₀)
  · refine ⟨_, Table.mem_update hb, ?_⟩
    split <;> rfl
  · unfold getBrokerOr404 at hold
    split at hold
    next b' hfind =>
      obtain rfl := Except.ok.inj hold
      exact (Table.key_of_find hfind : b'.id = broker)
    next => cases hold

theorem deleteBroker_ok (h : db.MqttKeyed) (hok : deleteBroker db broker = .ok db') :
    db'.MqttKeyed ∧ db'.mqttPublishConfigs = db.mqttPublishConfigs := by
  obtain ⟨row, -, hok⟩ := bind_ok_iff.1 hok
  rw [andThen_ok_iff, raiseIf_ok_iff] at hok
  obtain ⟨hunused, hok⟩ := hok
  obtain rfl := Except.ok.inj hok
  have hnone : ∀ m ∈ db.mqttPublishConfigs, m.brokerId ≠ broker := by
    intro m hm hbroker
    have hmem : m ∈ db.mqttPublishConfigs.filter (·.brokerId = broker) :=
      List.mem_filter.2 ⟨hm, by simpa using hbroker⟩
    exact hunused (List.length_pos_of_mem hmem)
  have hconfigs : db.mqttPublishConfigs.filter (·.brokerId ≠ broker) = db.mqttPublishConfigs :=
    List.filter_eq_self.2 fun m hm => by simpa using hnone m hm
  refine ⟨⟨h.toKeyed.of_same rfl rfl rfl le_rfl, fun b hb => ?_, ?_, fun m hm => ?_,
    fun m hm => ?_⟩, hconfigs⟩
  · exact h.brokerFresh b (List.mem_of_mem_filter hb)
  · exact h.publishKeys.sublist (List.filter_sublist.map _)
  · exact h.publishDevices m (List.mem_of_mem_filter hm)
  · obtain ⟨hm, hne⟩ := List.mem_filter.1 hm
    obtain ⟨b, hb, hid⟩ := h.publishBrokers m hm
    exact ⟨b, List.mem_filter.2 ⟨hb, by simpa [hid] using hne⟩, hid⟩

end Brokers

section Example

open MqttRun

def meterConfig (enabled : Bool) : MqttPublishConfig where
  id := 8
  deviceId := 7
  brokerId := 1
  topicTemplate := "telemetry/\x7bdevice_name\x7d"
  payloadMode := .batch
  publishIntervalSeconds := 5
  qos := 0
  retain := false
  enabled := enabled

/-- A device with a config for a broker, as the runs that serve as examples have it. -/
def workshop (status : DeviceStatus) (enabled : Bool) : Database where
  templates := [⟨0, "Meter", .modbusTcp, none, false⟩]
  devices := [⟨7, 0, "M1", 1, status, 502, none⟩]
  mqttBrokers := [localhost]
  mqttPublishConfigs := [meterConfig enabled]
  nextId := 9

theorem mqttKeyed_workshop (status : DeviceStatus) (enabled : Bool) :
    (workshop status enabled).MqttKeyed := by
  cases status <;> cases enabled <;> constructor <;> first | decide | (constructor <;> decide)

theorem targetConfigs_workshop (status : DeviceStatus) (enabled : Bool) :
    targetConfigs (workshop status enabled) 7 none = .ok [meterConfig enabled] := by
  simp [targetConfigs, listPublishConfigs, workshop, meterConfig, Database.findBroker, Table.find,
    localhost]

end Example

end Services

end GhostMeter
