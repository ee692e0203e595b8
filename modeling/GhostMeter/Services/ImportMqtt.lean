import GhostMeter.Services.ImportConfigs

/-! Steps 5 and 6 of an import: what it makes of the MQTT brokers, by their names, and of the
publish configs. -/

namespace GhostMeter

open GhostMeter.Lib GhostMeter.Simulation GhostMeter.Protocols GhostMeter.Schemas

/-- The row without its ids. -/
def MqttPublishConfig.bare (m : MqttPublishConfig) : MqttPublishConfig :=
  { m with id := 0, deviceId := 0, brokerId := 0 }

/-- The row that an import makes of the listing; its ids are still to come. -/
def Schemas.MqttPublishConfigExport.toRow (m : MqttPublishConfigExport) : MqttPublishConfig where
  id := 0
  deviceId := 0
  brokerId := 0
  topicTemplate := m.topicTemplate
  payloadMode := m.payloadMode
  publishIntervalSeconds := m.publishIntervalSeconds
  qos := m.qos
  retain := m.retain
  enabled := m.enabled

namespace Services

section Brokers

variable {s₀ s : ImportState} {done : List MqttBrokerSettingsExport} {b : MqttBrokerSettingsExport}
  {n : String}

/-- A listed broker after the import: a masked password leaves the stored one. -/
def brokerAfter (old : Option MqttBrokerSettings) (b : MqttBrokerSettingsExport) :
    MqttBrokerSettingsExport :=
  { b with password := if b.password ≠ "****" then b.password
      else old.elim b.password (·.password) }

/-- The state after the brokers `done`, from `s₀`. -/
structure BrokersDone (s₀ : ImportState) (done : List MqttBrokerSettingsExport) (s : ImportState) :
    Prop where
  ids : s.deviceNameToId = s₀.deviceNameToId
  publish : s.db.mqttPublishConfigs = s₀.db.mqttPublishConfigs
  unlisted : ∀ n, n ∉ done.map (·.name) → s.db.brokerNamed n = s₀.db.brokerNamed n ∧
    s.brokerNameToId n = s₀.brokerNameToId n
  listed : ∀ b ∈ done, ∃ row, s.db.brokerNamed b.name = some row ∧
    row.toExport = brokerAfter (s₀.db.brokerNamed b.name) b ∧
    s.brokerNameToId b.name = some row.id
  kept : ∀ n b, s₀.db.brokerNamed n = some b → ∃ b', s.db.brokerNamed n = some b' ∧ b'.id = b.id
  rowIds : (s.db.mqttBrokers.map (·.id)).Nodup
  fresh : (∀ r ∈ s₀.db.mqttBrokers, r.id < s₀.db.nextId) →
    ∀ r ∈ s.db.mqttBrokers, r.id < s.db.nextId

theorem brokersDone_nil (h : (s.db.mqttBrokers.map (·.id)).Nodup) : BrokersDone s [] s where
  ids := rfl
  publish := rfl
  unlisted _ _ := ⟨rfl, rfl⟩
  listed _ hb := nomatch hb
  kept _ b hb := ⟨b, hb, rfl⟩
  rowIds := h
  fresh := id

/-- A listing sets the row under its name, and its name to that row. -/
theorem BrokersDone.set (h : BrokersDone s₀ done s) (hnew : b.name ∉ done.map (·.name))
    (row : MqttBrokerSettings) {brokers : List MqttBrokerSettings} {next i : UUID}
    {result : ImportResult} (hset : Table.find MqttBrokerSettings.name brokers =
      Dict.set s.db.brokerNamed b.name row) (hi : row.id = i)
    (hrow : row.toExport = brokerAfter (s₀.db.brokerNamed b.name) b)
    (hkept : ∀ old, s₀.db.brokerNamed b.name = some old → row.id = old.id)
    (hids : (brokers.map (·.id)).Nodup)
    (hfresh : (∀ r ∈ s₀.db.mqttBrokers, r.id < s₀.db.nextId) → ∀ r ∈ brokers, r.id < next) :
    BrokersDone s₀ (done ++ [b]) { s with
      db := { s.db with mqttBrokers := brokers, nextId := next }
      brokerNameToId := s.brokerNameToId.set b.name i
      result } where
  ids := h.ids
  publish := h.publish
  unlisted n hn := by
    rw [List.map_append, List.mem_append, not_or] at hn
    have hne : n ≠ b.name := fun heq => hn.2 (List.mem_singleton.2 heq)
    obtain ⟨hnamed, hmapped⟩ := h.unlisted n hn.1
    refine ⟨?_, (Dict.set_of_ne _ _ hne).trans hmapped⟩
    rw [Database.brokerNamed, hset, Dict.set_of_ne _ _ hne, hnamed]
  listed b' hb' := by
    rcases List.mem_append.1 hb' with hb' | hb'
    · have hne : b'.name ≠ b.name := fun heq => hnew (heq ▸ List.mem_map_of_mem hb')
      obtain ⟨row', hrow', hexport, hmapped⟩ := h.listed b' hb'
      refine ⟨row', ?_, hexport, (Dict.set_of_ne _ _ hne).trans hmapped⟩
      rw [Database.brokerNamed, hset, Dict.set_of_ne _ _ hne, hrow']
    · obtain rfl := List.mem_singleton.1 hb'
      refine ⟨row, ?_, hrow, hi ▸ Dict.set_self ..⟩
      rw [Database.brokerNamed, hset, Dict.set_self]
  kept n old hold := by
    rw [Database.brokerNamed, hset, Dict.set_apply]
    split
    next hn => exact ⟨row, rfl, hkept old (hn ▸ hold)⟩
    next => exact h.kept n old hold
  rowIds := hids
  fresh := hfresh

/-- A new row needs an id that no broker has. -/
theorem BrokersDone.step (h : BrokersDone s₀ done s) (hnew : b.name ∉ done.map (·.name))
    (hfresh : (s₀.db.brokerNamed b.name).isSome ∨ ∀ r ∈ s₀.db.mqttBrokers, r.id < s₀.db.nextId) :
    BrokersDone s₀ (done ++ [b]) (importBroker s b) := by
  have hsame := (h.unlisted b.name hnew).1
  unfold importBroker
  cases hold : s.db.brokerNamed b.name with
  | none =>
    rw [hold] at hsame
    have hlow := hfresh.resolve_left (by simp [← hsame])
    have hlt := h.fresh hlow
    refine h.set hnew {
      id := s.db.nextId
      name := b.name
      host := b.host
      port := b.port
      username := b.username
      password := b.password
      clientId := b.clientId
      useTls := b.useTls } ?_ rfl ?_ ?_ ?_ ?_
    · exact Table.find_append_new fun r hr => Table.find_eq_none_iff.1 hold r hr
    · rw [← hsame, brokerAfter, Option.elim_none, ite_self]
      rfl
    · rw [← hsame]
      nofun
    · exact Table.nodup_append_new h.rowIds fun r hr => (hlt r hr).ne
    · intro _ r hr
      rcases List.mem_append.1 hr with hr | hr
      · exact (hlt r hr).trans (Nat.lt_succ_self _)
      · rw [List.mem_singleton.1 hr]
        exact Nat.lt_succ_self _
  | some e =>
    have hname : e.name = b.name := Table.key_of_find hold
    refine h.set hnew _ (Table.find_update_set (fun row => { row with
      host := b.host
      port := b.port
      username := b.username
      password := if b.password ≠ "****" then b.password else row.password
      clientId := b.clientId
      useTls := b.useTls }) (fun _ => rfl) hold) ?_ ?_ ?_ ?_ ?_
    · rfl
    · rw [← hsame, hold, MqttBrokerSettings.toExport, hname]
      rfl
    · intro old hold'
      rw [← hsame, hold] at hold'
      obtain rfl := Option.some.inj hold'
      rfl
    · have hsameIds := @Table.map_update _ _ _ MqttBrokerSettings.name s.db.mqttBrokers b.name
        (fun row => { row with
          host := b.host
          port := b.port
          username := b.username
          password := if b.password ≠ "****" then b.password else row.password
          clientId := b.clientId
          useTls := b.useTls }) _ (·.id) fun _ => rfl
      exact hsameIds ▸ h.rowIds
    · intro hlow r hr
      obtain ⟨r₀, hr₀, rfl⟩ := List.mem_map.1 hr
      have hlt := h.fresh hlow r₀ hr₀
      split <;> exact hlt

/-- The brokers of an import, with every name mapped. -/
structure BrokersImported (s₀ : ImportState) (listed : List MqttBrokerSettingsExport)
    (s : ImportState) : Prop where
  ids : s.deviceNameToId = s₀.deviceNameToId
  publish : s.db.mqttPublishConfigs = s₀.db.mqttPublishConfigs
  unlisted : ∀ n, n ∉ listed.map (·.name) → s.db.brokerNamed n = s₀.db.brokerNamed n
  listed : ∀ b ∈ listed, ∃ row, s.db.brokerNamed b.name = some row ∧
    row.toExport = brokerAfter (s₀.db.brokerNamed b.name) b
  kept : ∀ n b, s₀.db.brokerNamed n = some b → ∃ b', s.db.brokerNamed n = some b' ∧ b'.id = b.id
  rowIds : (s.db.mqttBrokers.map (·.id)).Nodup
  mapped : ∀ n, s.brokerNameToId n = (s.db.brokerNamed n).map (·.id)

theorem mapOtherBrokers_ids (n : String) :
    (mapOtherBrokers s).brokerNameToId n =
      (s.brokerNameToId n).or ((s.db.brokerNamed n).map (·.id)) :=
  Table.foldl_enter MqttBrokerSettings.id s.db.mqttBrokers s.brokerNameToId n

theorem brokersImported {listed : List MqttBrokerSettingsExport}
    (hids : (s.db.mqttBrokers.map (·.id)).Nodup) (hnames : (listed.map (·.name)).Nodup)
    (hmapped : s.brokerNameToId = Dict.empty)
    (hfresh : ∀ b ∈ listed, (s.db.brokerNamed b.name).isSome ∨
      ∀ r ∈ s.db.mqttBrokers, r.id < s.db.nextId) :
    BrokersImported s listed (mapOtherBrokers (listed.foldl importBroker s)) := by
  have hdone : BrokersDone s listed (listed.foldl importBroker s) := by
    refine foldl_invariant (P := BrokersDone s) ?_ (brokersDone_nil hids)
    intro done b rest s' hl hP
    rw [hl, List.map_append, List.map_cons, List.nodup_append] at hnames
    refine hP.step (fun hmem => ?_) (hfresh b (by simp [hl]))
    exact hnames.2.2 _ hmem _ List.mem_cons_self rfl
  exact {
    ids := hdone.ids
    publish := hdone.publish
    unlisted := fun n hn => (hdone.unlisted n hn).1
    listed := fun b hb => by
      obtain ⟨row, hrow, hexport, -⟩ := hdone.listed b hb
      exact ⟨row, hrow, hexport⟩
    kept := hdone.kept
    rowIds := hdone.rowIds
    mapped := fun n => by
      rw [mapOtherBrokers_ids]
      change _ = ((listed.foldl importBroker s).db.brokerNamed n).map (·.id)
      by_cases hn : n ∈ listed.map (·.name)
      · obtain ⟨b, hb, rfl⟩ := List.mem_map.1 hn
        obtain ⟨row, hrow, -, hid⟩ := hdone.listed b hb
        simp [hrow, hid]
      · simp [(hdone.unlisted n hn).2, hmapped] }

end Brokers

section PublishConfigs

variable {s₀ s : ImportState} {done : List MqttPublishConfigExport} {m : MqttPublishConfigExport}
  {k : UUID × UUID}

/-- The last listing for the device and the broker. -/
def lastFor (s : ImportState) (done : List MqttPublishConfigExport) (k : UUID × UUID) :
    Option MqttPublishConfigExport :=
  done.reverse.find? fun m =>
    s.deviceNameToId m.deviceName = some k.1 ∧ s.brokerNameToId m.brokerName = some k.2

theorem lastFor_append :
    lastFor s (done ++ [m]) k =
      if s.deviceNameToId m.deviceName = some k.1 ∧ s.brokerNameToId m.brokerName = some k.2 then
        some m
      else lastFor s done k := by
  simp only [lastFor, List.reverse_append, List.reverse_cons, List.reverse_nil, List.nil_append,
    List.singleton_append, List.find?_cons]
  split <;> simp_all

/-- The state after the publish configs `done`, from `s₀`. -/
structure PublishDone (s₀ : ImportState) (done : List MqttPublishConfigExport) (s : ImportState) :
    Prop where
  devices : s.deviceNameToId = s₀.deviceNameToId
  names : s.brokerNameToId = s₀.brokerNameToId
  brokers : s.db.mqttBrokers = s₀.db.mqttBrokers
  rows : ∀ k, (s.db.publishConfigFor k).map (·.bare) =
    ((lastFor s₀ done k).map (·.toRow)).or ((s₀.db.publishConfigFor k).map (·.bare))

theorem PublishDone.brokerNamed (h : PublishDone s₀ done s) :
    s.db.brokerNamed = s₀.db.brokerNamed := by
  rw [Database.brokerNamed, h.brokers]
  rfl

theorem PublishDone.step (h : PublishDone s₀ done s) :
    PublishDone s₀ (done ++ [m]) (importPublishConfig s m) := by
  unfold importPublishConfig
  split
  next device broker hdevice hbroker =>
    rw [h.devices] at hdevice
    rw [h.names] at hbroker
    have hlisted : ∀ k, lastFor s₀ (done ++ [m]) k =
        if k = (device, broker) then some m else lastFor s₀ done k := by
      intro k
      rw [lastFor_append, hdevice, hbroker]
      refine if_congr ?_ rfl rfl
      rw [Option.some_inj, Option.some_inj, Prod.ext_iff, eq_comm, @eq_comm _ broker]
    dsimp only
    split
    next hold =>
      refine ⟨h.devices, h.names, h.brokers, fun k => ?_⟩
      rw [hlisted, Database.publishConfigFor, Table.find_append_new fun r hr =>
        Table.find_eq_none_iff.1 hold r hr, Dict.set_apply]
      split
      next hk =>
        have hkey : k = (device, broker) := hk
        rw [if_pos hkey]
        rfl
      next hk =>
        have hkey : k ≠ (device, broker) := hk
        rw [if_neg hkey]
        exact h.rows k
    next e hold =>
      have hset := Table.find_update_set (fun row : MqttPublishConfig => { row with
        topicTemplate := m.topicTemplate
        payloadMode := m.payloadMode
        publishIntervalSeconds := m.publishIntervalSeconds
        qos := m.qos
        retain := m.retain
        enabled := m.enabled }) (fun _ => rfl) hold
      refine ⟨h.devices, h.names, h.brokers, fun k => ?_⟩
      rw [hlisted, Database.publishConfigFor, hset, Dict.set_apply]
      split
      next hk => rfl
      next hk => exact h.rows k
  next hno =>
    refine ⟨h.devices, h.names, h.brokers, fun k => ?_⟩
    rw [lastFor_append, if_neg]
    · exact h.rows k
    · exact fun hk => hno _ _ (h.devices ▸ hk.1) (h.names ▸ hk.2)

theorem publishDone (s : ImportState) (listed : List MqttPublishConfigExport) :
    PublishDone s listed (listed.foldl importPublishConfig s) :=
  foldl_invariant (P := PublishDone s) (fun _ _ _ _ _ hP => hP.step)
    ⟨rfl, rfl, rfl, fun _ => by simp [lastFor]⟩

end PublishConfigs

section Imported

variable {db db' : Database} {data : SystemImport} {s₁ s₂ s₃ s₄ : ImportState}
  (h : Imported db data db' s₁ s₂ s₃ s₄)

include h

/-- The brokers and publish configs before the last two steps. -/
theorem Imported.mqtt_before : s₄.db.mqttBrokers = db.mqttBrokers ∧
    s₄.db.mqttPublishConfigs = db.mqttPublishConfigs ∧ db.nextId ≤ s₄.db.nextId ∧
    s₄.deviceNameToId = (mapOtherDevices db.devices s₂).deviceNameToId := by
  refine ⟨?_, ?_, h.templates.next.trans (h.devices.next.trans
    (h.configs.next.trans h.schedules.next)), h.schedules.ids.trans h.configs.ids⟩
  · rw [h.schedules.frame, h.configs.frame]
    change s₂.db.mqttBrokers = _
    rw [h.devices.frame, h.templates.frame]
  · rw [h.schedules.frame, h.configs.frame]
    change s₂.db.mqttPublishConfigs = _
    rw [h.devices.frame, h.templates.frame]

end Imported

end Services

end GhostMeter
