import GhostMeter.Services.MqttRows

/-! What an import does to the publish configs that are there: whose flags it clears. -/

namespace GhostMeter.Services

open GhostMeter.Lib GhostMeter.Simulation GhostMeter.Protocols GhostMeter.Schemas

/-- After an import of the document, the name stands for the device. -/
def NamesDevice (db : Database) (data : SystemImport) (name : String) (device : UUID) : Prop :=
  match lastNamed data.devices name with
  | some e => ∃ d, db.deviceAt e.key = some d ∧ d.id = device
  | none => ∃ d ∈ db.devices, d.id = device ∧ d.name = name ∧ lastListed data.devices d.key = none

def NamesBroker (db : Database) (name : String) (broker : UUID) : Prop :=
  ∃ b ∈ db.mqttBrokers, b.name = name ∧ b.id = broker

/-- The document has a publish config for the pair that is not enabled. -/
def Disables (db : Database) (data : SystemImport) (key : PublishKey) : Prop :=
  ∃ m ∈ data.mqttPublishConfigs, m.enabled = false ∧
    NamesDevice db data m.deviceName key.1 ∧ NamesBroker db m.brokerName key.2

section Devices

variable {db db' : Database} {data : SystemImport} {s₁ s₂ s₃ s₄ : ImportState} {n : String}
  {i : UUID}

/-- A device keeps its id. -/
theorem Imported.device_kept (himp : Imported db data db' s₁ s₂ s₃ s₄) (h : db.Keyed)
    {d : DeviceInstance} (hd : d ∈ db.devices) : ∃ d' ∈ s₂.db.devices, d'.id = d.id := by
  have hat : s₁.db.deviceAt d.key = some d := by
    rw [himp.deviceAt_before]
    exact h.deviceAt_iff.2 ⟨hd, rfl⟩
  cases he : lastListed data.devices d.key with
  | none =>
    rw [← himp.devices.unlisted _ he] at hat
    exact ⟨d, Table.mem_of_find hat, rfl⟩
  | some e =>
    obtain ⟨d', hd', hlisted⟩ := himp.devices.listed _ _ he
    have hkey : e.key = d.key := Table.key_of_find he
    have hid := hlisted.id
    rw [hkey, hat] at hid
    exact ⟨d', Table.mem_of_find hd', hid⟩

theorem Imported.row_of_name (himp : Imported db data db' s₁ s₂ s₃ s₄)
    (hi : (mapOtherDevices db.devices s₂).deviceNameToId n = some i) :
    ∃ d ∈ s₂.db.devices, d.id = i := himp.devices.row_of_name hi

/-- A name that the import maps to a device that was there before. -/
theorem Imported.namesDevice (himp : Imported db data db' s₁ s₂ s₃ s₄) (hold : i < db.nextId)
    (hi : (mapOtherDevices db.devices s₂).deviceNameToId n = some i) :
    NamesDevice db data n i := by
  unfold NamesDevice
  cases hnamed : lastNamed data.devices n with
  | some e =>
    have hmem : e ∈ data.devices := List.mem_reverse.1 (Table.mem_of_find hnamed)
    obtain ⟨e', he'⟩ := Option.isSome_iff_exists.1 (lastListed_isSome hmem)
    obtain ⟨d', hd', hlisted⟩ := himp.devices.listed _ _ he'
    have hkey : e'.key = e.key := Table.key_of_find he'
    have hlast : s₂.deviceNameToId n = some d'.id := by
      rw [himp.devices.ids, hnamed, Option.bind_some, hd']
      rfl
    rw [mapOtherDevices_of_some hlast] at hi
    obtain rfl := Option.some.inj hi
    have hid := hlisted.id
    rw [hkey, himp.deviceAt_before] at hid
    cases hat : db.deviceAt e.key with
    | some d => exact ⟨d, hat, by rw [hat] at hid; exact hid.symm⟩
    | none =>
      rw [hat] at hid
      exact absurd (himp.templates.next.trans hid) (not_le.2 hold)
  | none =>
    have hlast : s₂.deviceNameToId n = none := by
      rw [himp.devices.ids, hnamed]
      rfl
    obtain ⟨d, hd, hid, hname⟩ := mapOtherDevices_of_none hlast hi
    have hat : s₂.db.deviceAt d.key = some d := himp.devices.keyed.deviceAt_iff.2 ⟨hd, rfl⟩
    cases he : lastListed data.devices d.key with
    | none =>
      rw [himp.devices.unlisted _ he, himp.deviceAt_before] at hat
      exact ⟨d, Table.mem_of_find hat, hid, hname, he⟩
    | some e =>
      obtain ⟨d', hd', hlisted⟩ := himp.devices.listed _ _ he
      obtain rfl := Option.some.inj (hat.symm.trans hd')
      refine absurd (hlisted.name.symm.trans hname) ?_
      exact Table.find_eq_none_iff.1 hnamed e (Table.mem_of_find he)

end Devices

section Brokers

variable {s₀ s : ImportState}

/-- The brokers of an import, from `s₀` on. -/
structure BrokersKept (s₀ s : ImportState) : Prop where
  frame : s.db = { s₀.db with mqttBrokers := s.db.mqttBrokers, nextId := s.db.nextId }
  ids : s.deviceNameToId = s₀.deviceNameToId
  next : s₀.db.nextId ≤ s.db.nextId
  fresh : ∀ b ∈ s.db.mqttBrokers, b.id < s.db.nextId
  kept : ∀ b ∈ s₀.db.mqttBrokers, ∃ b' ∈ s.db.mqttBrokers, b'.id = b.id
  old : ∀ b ∈ s.db.mqttBrokers, b.id < s₀.db.nextId →
    ∃ b₀ ∈ s₀.db.mqttBrokers, b₀.id = b.id ∧ b₀.name = b.name
  mapped : ∀ n i, s.brokerNameToId n = some i → ∃ b ∈ s.db.mqttBrokers, b.name = n ∧ b.id = i

theorem BrokersKept.importBroker (h : BrokersKept s₀ s) (b : MqttBrokerSettingsExport) :
    BrokersKept s₀ (importBroker s b) := by
  unfold Services.importBroker
  cases hfound : s.db.brokerNamed b.name with
  | none =>
    refine ⟨?_, h.ids, h.next.trans (Nat.le_succ _), fun b' hb' => ?_, fun b' hb' => ?_,
      fun b' hb' hlt => ?_, fun n i hi => ?_⟩
    · rw [h.frame]
    · rcases List.mem_append.1 hb' with hb' | hb'
      · exact (h.fresh b' hb').trans (Nat.lt_succ_self _)
      · rw [List.mem_singleton.1 hb']
        exact Nat.lt_succ_self _
    · obtain ⟨b'', hb'', hid⟩ := h.kept b' hb'
      exact ⟨b'', List.mem_append_left _ hb'', hid⟩
    · rcases List.mem_append.1 hb' with hb' | hb'
      · exact h.old b' hb' hlt
      · rw [List.mem_singleton.1 hb'] at hlt
        exact absurd hlt (not_lt.2 h.next)
    · simp only [Dict.set_apply] at hi
      split at hi
      next hn =>
        obtain rfl := Option.some.inj hi
        exact ⟨_, List.mem_append_right _ (List.mem_singleton_self _), hn.symm, rfl⟩
      next =>
        obtain ⟨b', hb', hname⟩ := h.mapped n i hi
        exact ⟨b', List.mem_append_left _ hb', hname⟩
  | some e =>
    have hupdated : ∀ b' ∈ Table.update MqttBrokerSettings.name s.db.mqttBrokers b.name
        (fun row => { row with
          host := b.host
          port := b.port
          username := b.username
          password := if b.password ≠ "****" then b.password else row.password
          clientId := b.clientId
          useTls := b.useTls }), ∃ b₀ ∈ s.db.mqttBrokers, b'.id = b₀.id ∧ b'.name = b₀.name := by
      intro b' hb'
      obtain ⟨b₀, hb₀, rfl⟩ := List.mem_map.1 hb'
      exact ⟨b₀, hb₀, by split <;> rfl, by split <;> rfl⟩
    have hstays : ∀ b₀ ∈ s.db.mqttBrokers, ∃ b' ∈ Table.update MqttBrokerSettings.name
        s.db.mqttBrokers b.name (fun row => { row with
          host := b.host
          port := b.port
          username := b.username
          password := if b.password ≠ "****" then b.password else row.password
          clientId := b.clientId
          useTls := b.useTls }), b'.name = b₀.name ∧ b'.id = b₀.id := fun b₀ hb₀ =>
      ⟨_, Table.mem_update hb₀, by split <;> rfl, by split <;> rfl⟩
    refine ⟨?_, h.ids, h.next, fun b' hb' => ?_, fun b' hb' => ?_, fun b' hb' hlt => ?_,
      fun n i hi => ?_⟩
    · rw [h.frame]
    · obtain ⟨b₀, hb₀, hid, -⟩ := hupdated b' hb'
      exact lt_of_eq_of_lt hid (h.fresh b₀ hb₀)
    · obtain ⟨b₀, hb₀, hid⟩ := h.kept b' hb'
      obtain ⟨b'', hb'', -, hid'⟩ := hstays b₀ hb₀
      exact ⟨b'', hb'', hid'.trans hid⟩
    · obtain ⟨b₀, hb₀, hid, hname⟩ := hupdated b' hb'
      obtain ⟨b₁, hb₁, hid₁, hname₁⟩ := h.old b₀ hb₀ (hid ▸ hlt)
      exact ⟨b₁, hb₁, hid₁.trans hid.symm, hname₁.trans hname.symm⟩
    · simp only [Dict.set_apply] at hi
      split at hi
      next hn =>
        obtain rfl := Option.some.inj hi
        obtain ⟨b', hb', hname, hid⟩ := hstays e (Table.mem_of_find hfound)
        exact ⟨b', hb', (hname.trans (Table.key_of_find hfound)).trans hn.symm, hid⟩
      next =>
        obtain ⟨b₀, hb₀, hname, hid⟩ := h.mapped n i hi
        obtain ⟨b', hb', hname', hid'⟩ := hstays b₀ hb₀
        exact ⟨b', hb', hname'.trans hname, hid'.trans hid⟩

theorem BrokersKept.mapOtherBrokers (h : BrokersKept s₀ s) :
    BrokersKept s₀ (mapOtherBrokers s) := by
  refine { h with mapped := fun n i hi => ?_ }
  rw [mapOtherBrokers_ids, Option.or_eq_some_iff] at hi
  rcases hi with hi | ⟨-, hi⟩
  · exact h.mapped n i hi
  · obtain ⟨b, hb, rfl⟩ := Option.map_eq_some_iff.1 hi
    exact ⟨b, Table.mem_of_find hb, Table.key_of_find hb, rfl⟩

theorem brokersKept (h : ∀ b ∈ s₀.db.mqttBrokers, b.id < s₀.db.nextId)
    (hnames : s₀.brokerNameToId = Dict.empty) (listed : List MqttBrokerSettingsExport) :
    BrokersKept s₀ (mapOtherBrokers (listed.foldl importBroker s₀)) := by
  refine BrokersKept.mapOtherBrokers ?_
  refine foldl_invariant (P := fun _ s => BrokersKept s₀ s)
    (fun _ b _ _ _ hs => hs.importBroker b) ⟨rfl, rfl, le_rfl, h, fun b hb => ⟨b, hb, rfl⟩,
      fun b hb _ => ⟨b, hb, rfl, rfl⟩, fun n i hi => ?_⟩
  rw [hnames] at hi
  cases hi

end Brokers

section Configs

variable {s s' : ImportState}

/-- Every name stands for a row. -/
def Mapped (s : ImportState) : Prop :=
  (∀ n i, s.deviceNameToId n = some i → ∃ d ∈ s.db.devices, d.id = i) ∧
    ∀ n i, s.brokerNameToId n = some i → ∃ b ∈ s.db.mqttBrokers, b.id = i

theorem importPublishConfig_keyed (h : s.db.MqttKeyed) (hmapped : Mapped s)
    (m : MqttPublishConfigExport) :
    (importPublishConfig s m).db.MqttKeyed ∧ Mapped (importPublishConfig s m) := by
  unfold importPublishConfig
  split
  next device broker hdevice hbroker =>
    dsimp only
    split
    next hnone =>
      exact ⟨h.append hnone (hmapped.1 _ _ hdevice) (hmapped.2 _ _ hbroker), hmapped⟩
    next => exact ⟨h.update fun _ => rfl, hmapped⟩
  next => exact ⟨h, hmapped⟩

end Configs

/-- An import keeps the constraints, and the flags that its document does not clear. -/
theorem importSystem_mqtt {db db' : Database} {data : SystemImport} {r : ImportResult}
    (h : db.MqttKeyed) (hok : importSystem db data = .ok (db', r)) :
    db'.MqttKeyed ∧ ∀ k, db.Enabled k → db'.Enabled k ∨ Disables db data k := by
  obtain ⟨s₁, s₂, s₃, s₄, himp, hnames, hdb⟩ := stages_of_importSystem h.toKeyed hok
  obtain ⟨hbrokers, hconfigs, hnext, hids⟩ := himp.mqtt_before
  have hdevices : s₄.db.devices = s₂.db.devices := by
    rw [himp.schedules.frame, himp.configs.frame]
    rfl
  have hkeyed₄ : s₄.db.MqttKeyed := by
    refine h.of_devices (himp.devices.keyed.of_same ?_ ?_ hdevices ?_) (fun d hd => ?_)
      hbrokers hconfigs hnext
    · rw [himp.schedules.frame, himp.configs.frame]
      rfl
    · rw [himp.schedules.frame, himp.configs.frame]
      rfl
    · exact himp.configs.next.trans himp.schedules.next
    · rw [hdevices]
      exact himp.device_kept h.toKeyed hd
  have hkept := brokersKept hkeyed₄.brokerFresh hnames (brokerExports data)
  generalize mapOtherBrokers ((brokerExports data).foldl importBroker s₄) = s₅ at hkept hdb
  have hkeyed₅ : s₅.db.MqttKeyed := by
    rw [hkept.frame]
    exact hkeyed₄.of_brokers hkept.next hkept.fresh hkept.kept
  have hsame : s₅.db.devices = s₂.db.devices ∧
      s₅.db.mqttPublishConfigs = db.mqttPublishConfigs := by
    rw [hkept.frame]
    exact ⟨hdevices, hconfigs⟩
  have hmapped : Mapped s₅ := by
    refine ⟨fun n i hi => ?_, fun n i hi => ?_⟩
    · rw [hkept.ids, hids] at hi
      rw [hsame.1]
      exact himp.row_of_name hi
    · obtain ⟨b, hb, -, hid⟩ := hkept.mapped n i hi
      exact ⟨b, hb, hid⟩
  refine ⟨?_, fun k hk => ?_⟩
  · have hfold := foldl_invariant (l := data.mqttPublishConfigs) (s := s₅)
      (P := fun _ s => s.db.MqttKeyed ∧ Mapped s)
      (fun _ m _ _ _ hs => importPublishConfig_keyed hs.1 hs.2 m) ⟨hkeyed₅, hmapped⟩
    exact hdb ▸ hfold.1
  · obtain ⟨hdevice, hbroker⟩ := h.fresh_of_enabled hk
    obtain ⟨m₀, hm₀, hon⟩ := hk
    have hrows := (publishDone s₅ data.mqttPublishConfigs).rows k
    rw [hdb] at hrows
    cases hlast : lastFor s₅ data.mqttPublishConfigs k with
    | none =>
      have hold : s₅.db.publishConfigFor k = some m₀ := by
        rw [Database.publishConfigFor, hsame.2]
        exact hm₀
      rw [hlast, hold] at hrows
      obtain ⟨m, hm, hbare⟩ := Option.map_eq_some_iff.1 hrows
      exact Or.inl ⟨m, hm, (congrArg (·.enabled) hbare).trans hon⟩
    | some e =>
      rw [hlast] at hrows
      obtain ⟨m, hm, hbare⟩ := Option.map_eq_some_iff.1 hrows
      have henabled : m.enabled = e.enabled := congrArg (·.enabled) hbare
      cases hflag : e.enabled with
      | true => exact Or.inl ⟨m, hm, henabled.trans hflag⟩
      | false =>
        have hfound := List.find?_some hlast
        simp only [Bool.decide_and, Bool.and_eq_true, decide_eq_true_eq] at hfound
        refine Or.inr ⟨e, List.mem_reverse.1 (List.mem_of_find?_eq_some hlast), hflag, ?_, ?_⟩
        · refine himp.namesDevice hdevice ?_
          rw [← hids, ← hkept.ids]
          exact hfound.1
        · obtain ⟨b, hb, hname, hid⟩ := hkept.mapped _ _ hfound.2
          obtain ⟨b₀, hb₀, hid₀, hname₀⟩ := hkept.old b hb (hid ▸ hbroker.trans_le hnext)
          rw [hbrokers] at hb₀
          exact ⟨b₀, hb₀, hname₀.trans hname, hid₀.trans hid⟩

end GhostMeter.Services
