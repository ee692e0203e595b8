import GhostMeter.Services.ImportConfigs

/-! Whether an import replaces the configs and schedules of each device it lists. -/

namespace GhostMeter

open GhostMeter.Lib GhostMeter.Simulation GhostMeter.Protocols GhostMeter.Schemas

namespace Services

section Table

variable {α β γ ι : Type}

/-- The entries that the document lists for a device. -/
def entriesNamed (name : β → String) (entries : List β) (n : String) : List β :=
  entries.filter fun b => name b = n

/-- The entries that an import takes to the row under the key: those with a name whose last
listing is there. -/
def entriesAt (devices : List DeviceExport) (name : β → String) (entries : List β)
    (key : ℤ × ℤ) : List β :=
  entries.filter fun b => (lastNamed devices (name b)).map (·.key) = some key

/-- The rows under the device key. -/
def rowsAt (key : α → UUID × ι) (db : Database) (rows : List α) (k : ℤ × ℤ) : List α :=
  (db.deviceAt k).elim [] fun d => ofDevice key rows d.id

/-- The rows of the listed device are those listed for it. -/
def Replaced (key : α → UUID × ι) (content : α → γ) (name : β → String) (entry : β → γ)
    (db : Database) (rows : List α) (entries : List β) (e : DeviceExport) : Prop :=
  ((rowsAt key db rows e.key).map content).Perm ((entriesNamed name entries e.name).map entry)

/-- Without entries for its row, the device had the rows that the document lists for it;
otherwise the entries that stay are the ones listed for it. -/
def Replaceable (key : α → UUID × ι) (content : α → γ) (name : β → String) (entry : β → γ)
    (db : Database) (rows : List α) (devices : List DeviceExport) (entries : List β)
    (e : DeviceExport) : Prop :=
  (if entriesAt devices name entries e.key = [] then (rowsAt key db rows e.key).map content
    else (remaining name (entriesAt devices name entries e.key)).map entry).Perm
      ((entriesNamed name entries e.name).map entry)

variable {key : α → UUID × ι} {content : α → γ} {name : β → String} {entry : β → γ}
  {db : Database} {rows : List α} {devices : List DeviceExport} {entries : List β}
  {e : DeviceExport}

/-- Under distinct names and keys: only a device without entries can keep old rows. -/
theorem replaceable_iff_of_distinct (hnames : (devices.map (·.name)).Nodup)
    (hkeys : (devices.map (·.key)).Nodup) (he : e ∈ devices) :
    Replaceable key content name entry db rows devices entries e ↔
      (entriesNamed name entries e.name = [] → rowsAt key db rows e.key = []) := by
  have hlast : ∀ n, (lastNamed devices n).map (·.key) = some e.key ↔ n = e.name := by
    intro n
    have hrev : (devices.reverse.map (·.name)).Nodup := by
      rw [List.map_reverse]
      exact List.nodup_reverse.2 hnames
    constructor
    · intro h
      obtain ⟨e', he', hk⟩ := Option.map_eq_some_iff.1 h
      obtain ⟨hmem, hn⟩ := (Table.find_eq_some_iff hrev).1 he'
      rw [← hn, List.inj_on_of_nodup_map hkeys (List.mem_reverse.1 hmem) he hk]
    · rintro rfl
      have hfind : lastNamed devices e.name = some e :=
        (Table.find_eq_some_iff hrev).2 ⟨List.mem_reverse.2 he, rfl⟩
      rw [hfind]
      rfl
  have hat : entriesAt devices name entries e.key = entriesNamed name entries e.name := by
    refine List.filter_congr fun b _ => ?_
    rw [decide_eq_decide]
    exact hlast (name b)
  have hstay : remaining name (entriesNamed name entries e.name) =
      entriesNamed name entries e.name := by
    apply remaining_eq_self
    intro b hb b' hb'
    have hn := List.of_mem_filter hb
    have hn' := List.of_mem_filter hb'
    rw [decide_eq_true_eq] at hn hn'
    rw [hn, hn']
  rw [Replaceable, hat, hstay]
  by_cases hnil : entriesNamed name entries e.name = []
  · simp [hnil]
  · simp [hnil]

end Table

/-- A device that the document neither lists nor names. -/
def Unmentioned (data : SystemImport) (d : DeviceInstance) : Prop :=
  lastListed data.devices d.key = none ∧ d.name ∉ data.devices.map (·.name) ∧
    d.name ∉ data.simulationConfigs.map (·.deviceName) ∧
    d.name ∉ data.anomalySchedules.map (·.deviceName)

/-- The listed devices have the configs and schedules listed for them, and the ones that are
not mentioned have those that they had. -/
structure ReplacesConfigs (db : Database) (data : SystemImport) (db' : Database) : Prop where
  configs : ∀ e ∈ data.devices, Replaced SimulationConfig.key (·.toConfigEntry) (·.deviceName)
    SimulationConfigExport.toEntry db' db'.simulationConfigs data.simulationConfigs e
  schedules : ∀ e ∈ data.devices, Replaced AnomalySchedule.key AnomalySchedule.toEntry
    (·.deviceName) AnomalyScheduleExport.toEntry db' db'.anomalySchedules data.anomalySchedules e
  unmentioned : ∀ d ∈ db.devices, Unmentioned data d →
    ofDevice SimulationConfig.key db'.simulationConfigs d.id =
      ofDevice SimulationConfig.key db.simulationConfigs d.id ∧
    ofDevice AnomalySchedule.key db'.anomalySchedules d.id =
      ofDevice AnomalySchedule.key db.anomalySchedules d.id

section Imported

variable {db db' : Database} {data : SystemImport} {s₁ s₂ s₃ s₄ : ImportState}
  {n : String} {i : UUID} {e : DeviceExport} {d : DeviceInstance}

/-- The names that stand for a listed device. -/
theorem Imported.name_iff (h : Imported db data db' s₁ s₂ s₃ s₄) (he : e ∈ data.devices)
    (hd : s₂.db.deviceAt e.key = some d) :
    (mapOtherDevices db.devices s₂).deviceNameToId n = some d.id ↔
      (lastNamed data.devices n).map (·.key) = some e.key := by
  have hdmem := (h.devices.keyed.deviceAt_iff).1 hd
  cases hlast : lastNamed data.devices n with
  | some e' =>
    obtain ⟨d', hd'⟩ := h.devices.found (List.mem_reverse.1 (Table.mem_of_find hlast))
    have hid : s₂.deviceNameToId n = some d'.id := by
      rw [h.devices.ids, hlast, Option.bind_some, hd']
      rfl
    have hdmem' := (h.devices.keyed.deviceAt_iff).1 hd'
    rw [mapOtherDevices_of_some hid, Option.map_some, Option.some_inj, Option.some_inj]
    constructor
    · intro heq
      rw [← hdmem'.2, ← hdmem.2, h.devices.keyed.device_ext hdmem'.1 hdmem.1 heq]
    · intro hkey
      rw [hkey, hd] at hd'
      rw [Option.some.inj hd']
  | none =>
    have hnone : s₂.deviceNameToId n = none := by
      rw [h.devices.ids, hlast]
      rfl
    refine ⟨fun hi => ?_, fun hkey => nomatch hkey⟩
    -- the row has the name of its last listing
    obtain ⟨d', hd', hid, rfl⟩ := mapOtherDevices_of_none hnone hi
    obtain rfl := h.devices.keyed.device_ext hd' hdmem.1 hid
    obtain ⟨e', he'⟩ := Option.isSome_iff_exists.1 (lastListed_isSome he)
    obtain ⟨d'', hd'', hlisted⟩ := h.devices.listed _ _ he'
    obtain rfl := Option.some.inj (hd.symm.trans hd'')
    exact absurd hlisted.name.symm (Table.find_eq_none_iff.1 hlast e' (Table.mem_of_find he'))

/-- No name stands for a device that is not listed, other than its own. -/
theorem Imported.name_of_unlisted (h : Imported db data db' s₁ s₂ s₃ s₄)
    (hd : s₂.db.deviceAt d.key = some d) (hun : lastListed data.devices d.key = none)
    (hi : (mapOtherDevices db.devices s₂).deviceNameToId n = some d.id) : d.name = n := by
  have hdmem := (h.devices.keyed.deviceAt_iff).1 hd
  cases hlast : s₂.deviceNameToId n with
  | some i =>
    rw [mapOtherDevices_of_some hlast, Option.some_inj] at hi
    rw [h.devices.ids, Option.bind_eq_some_iff] at hlast
    obtain ⟨e', he', hid⟩ := hlast
    obtain ⟨d', hd', rfl⟩ := Option.map_eq_some_iff.1 hid
    have hdmem' := (h.devices.keyed.deviceAt_iff).1 hd'
    have hkey := hdmem'.2
    rw [h.devices.keyed.device_ext hdmem'.1 hdmem.1 hi] at hkey
    exact absurd hkey.symm (Table.find_eq_none_iff.1 hun e' (Table.mem_of_find he'))
  | none =>
    obtain ⟨d', hd', hid, rfl⟩ := mapOtherDevices_of_none hlast hi
    rw [h.devices.keyed.device_ext hd' hdmem.1 hid]

/-- The rows under a listed key, after the import. -/
theorem RowsDone.rowsAt_listed {α β γ ι : Type} {key : α → UUID × ι} {content : α → γ}
    {name : β → String} {entry : β → γ} {old rows : List α} {entries : List β}
    {cleared : List String} (h : Imported db data db' s₁ s₂ s₃ s₄)
    (hrows : RowsDone key content name entry (mapOtherDevices db.devices s₂).deviceNameToId old
      entries rows cleared)
    (hdevices : ∀ r ∈ old, ∃ d ∈ db.devices, d.id = (key r).1) (hdb : db.Keyed)
    (he : e ∈ data.devices) :
    (rowsAt key db' rows e.key).map content =
      if entriesAt data.devices name entries e.key = [] then (rowsAt key db old e.key).map content
      else (remaining name (entriesAt data.devices name entries e.key)).map entry := by
  obtain ⟨d, hd⟩ := h.devices.found he
  have hentries : entriesFor name (mapOtherDevices db.devices s₂).deviceNameToId entries d.id =
      entriesAt data.devices name entries e.key := by
    refine List.filter_congr fun b _ => ?_
    rw [decide_eq_decide]
    exact h.name_iff he hd
  have hnew : rowsAt key db' rows e.key = ofDevice key rows d.id := by
    rw [rowsAt, h.deviceAt_eq, hd]
    rfl
  -- a device that the import creates had no rows
  have hold : rowsAt key db old e.key = ofDevice key old d.id := by
    obtain ⟨e', he'⟩ := Option.isSome_iff_exists.1 (lastListed_isSome he)
    obtain ⟨d', hd', hlisted⟩ := h.devices.listed _ _ he'
    obtain rfl := Option.some.inj (hd.symm.trans hd')
    have hid := hlisted.id
    have hkey : e'.key = e.key := Table.key_of_find he'
    rw [hkey, h.deviceAt_before] at hid
    rw [rowsAt]
    cases hfound : db.deviceAt e.key with
    | some d₀ =>
      rw [hfound] at hid
      rw [hid]
      rfl
    | none =>
      rw [hfound] at hid
      symm
      rw [ofDevice, Option.elim_none, List.filter_eq_nil_iff]
      intro r hr
      obtain ⟨d₀, hd₀, hid₀⟩ := hdevices r hr
      have hlt := hdb.deviceFresh d₀ hd₀
      have hle : db.nextId ≤ d.id := h.templates.next.trans hid
      rw [decide_eq_true_eq, ← hid₀]
      exact (hlt.trans_le hle).ne
  rw [hnew, hold, ← hentries]
  by_cases hnil : entriesFor name (mapOtherDevices db.devices s₂).deviceNameToId entries d.id = []
  · rw [if_pos hnil, hrows.kept d.id hnil]
  · rw [if_neg hnil, hrows.replaced d.id hnil]

/-- What the steps make of the rows of a listed device. -/
theorem RowsDone.listed {α β γ ι : Type} {key : α → UUID × ι} {content : α → γ}
    {name : β → String} {entry : β → γ} {old rows : List α} {entries : List β}
    {cleared : List String} (h : Imported db data db' s₁ s₂ s₃ s₄)
    (hrows : RowsDone key content name entry (mapOtherDevices db.devices s₂).deviceNameToId old
      entries rows cleared)
    (hdevices : ∀ r ∈ old, ∃ d ∈ db.devices, d.id = (key r).1) (hdb : db.Keyed)
    (he : e ∈ data.devices) :
    Replaced key content name entry db' rows entries e ↔
      Replaceable key content name entry db old data.devices entries e := by
  rw [Replaced, Replaceable, hrows.rowsAt_listed h hdevices hdb he]

theorem RowsDone.unmentioned {α β γ ι : Type} {key : α → UUID × ι} {content : α → γ}
    {name : β → String} {entry : β → γ} {old rows : List α} {entries : List β}
    {cleared : List String} (h : Imported db data db' s₁ s₂ s₃ s₄)
    (hrows : RowsDone key content name entry (mapOtherDevices db.devices s₂).deviceNameToId old
      entries rows cleared)
    (hdb : db.Keyed) (hd : d ∈ db.devices) (hun : lastListed data.devices d.key = none)
    (hno : d.name ∉ entries.map name) : ofDevice key rows d.id = ofDevice key old d.id := by
  have hcur : s₂.db.deviceAt d.key = some d := by
    rw [h.devices.unlisted d.key hun, h.deviceAt_before]
    exact hdb.deviceAt_iff.2 ⟨hd, rfl⟩
  apply hrows.kept
  rw [entriesFor, List.filter_eq_nil_iff]
  intro b hb hid
  rw [decide_eq_true_eq] at hid
  exact hno (List.mem_map.2 ⟨b, hb, (h.name_of_unlisted hcur hun hid).symm⟩)

theorem replacesConfigs_iff {r : ImportResult} (h : db.Valid)
    (himport : importSystem db data = .ok (db', r)) :
    ReplacesConfigs db data db' ↔ ∀ e ∈ data.devices,
      Replaceable SimulationConfig.key (·.toConfigEntry) (·.deviceName)
        SimulationConfigExport.toEntry db db.simulationConfigs data.devices
        data.simulationConfigs e ∧
      Replaceable AnomalySchedule.key AnomalySchedule.toEntry (·.deviceName)
        AnomalyScheduleExport.toEntry db db.anomalySchedules data.devices
        data.anomalySchedules e := by
  obtain ⟨s₁, s₂, s₃, s₄, himp⟩ := imported_of_importSystem h.toKeyed himport
  have hconfigs := himp.configRows
  have hschedules := himp.scheduleRows
  constructor
  · intro hrep e he
    exact ⟨(hconfigs.listed himp h.configDevices h.toKeyed he).1 (hrep.configs e he),
      (hschedules.listed himp h.scheduleDevices h.toKeyed he).1 (hrep.schedules e he)⟩
  · intro hrep
    constructor
    · intro e he
      exact (hconfigs.listed himp h.configDevices h.toKeyed he).2 (hrep e he).1
    · intro e he
      exact (hschedules.listed himp h.scheduleDevices h.toKeyed he).2 (hrep e he).2
    · intro d hd hun
      exact ⟨hconfigs.unmentioned himp h.toKeyed hd hun.1 hun.2.2.1,
        hschedules.unmentioned himp h.toKeyed hd hun.1 hun.2.2.2⟩

end Imported

/-- A stopped device with one config. -/
def meterDatabase : Database where
  templates := [⟨0, "Meter", .modbusTcp, none, false⟩]
  devices := [⟨1, 0, "M1", 1, .stopped, 502, none⟩]
  simulationConfigs := [{
    registerName := "voltage", dataMode := .random, id := 2, deviceId := 1 }]
  nextId := 3

theorem valid_meterDatabase : meterDatabase.Valid := by
  constructor <;> first | decide | (constructor <;> decide)

/-- The device, with these configs. -/
def meterDocument (simulationConfigs : List SimulationConfigExport) : SystemImport where
  version := "1.0"
  devices := [{ name := "M1", templateName := "Meter", slaveId := 1 }]
  simulationConfigs
  version_valid := rfl

theorem replacesConfigs_iff_meter :
    ∃ db' r, importSystem meterDatabase (meterDocument [⟨"M1", "power", .static, [], true, 1000⟩]) =
        .ok (db', r) ∧
      (ReplacesConfigs meterDatabase
          (meterDocument [⟨"M1", "power", .static, [], true, 1000⟩]) db' ↔
        ∀ e ∈ (meterDocument [⟨"M1", "power", .static, [], true, 1000⟩]).devices,
          Replaceable SimulationConfig.key (·.toConfigEntry) (·.deviceName)
            SimulationConfigExport.toEntry meterDatabase meterDatabase.simulationConfigs
            (meterDocument [⟨"M1", "power", .static, [], true, 1000⟩]).devices
            (meterDocument [⟨"M1", "power", .static, [], true, 1000⟩]).simulationConfigs e ∧
          Replaceable AnomalySchedule.key AnomalySchedule.toEntry (·.deviceName)
            AnomalyScheduleExport.toEntry meterDatabase meterDatabase.anomalySchedules
            (meterDocument [⟨"M1", "power", .static, [], true, 1000⟩]).devices
            (meterDocument [⟨"M1", "power", .static, [], true, 1000⟩]).anomalySchedules e) :=
  ⟨_, _, rfl, replacesConfigs_iff valid_meterDatabase rfl⟩

/-- A listed device without entries keeps the configs that it had. -/
theorem import_keeps_configs : meterDatabase.Valid ∧
    ∃ db' r, importSystem meterDatabase (meterDocument []) = .ok (db', r) ∧
      ¬ ReplacesConfigs meterDatabase (meterDocument []) db' := by
  refine ⟨valid_meterDatabase, _, _, rfl, fun h => ?_⟩
  have hperm := h.configs ⟨"M1", "Meter", 1, 502, none⟩ (List.mem_singleton.2 rfl)
  cases hperm.length_eq

end Services

end GhostMeter
