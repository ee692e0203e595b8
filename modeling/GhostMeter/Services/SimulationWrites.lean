import GhostMeter.Lib.Run
import GhostMeter.Protocols.ModbusTcp
import GhostMeter.Services.DeviceService
import GhostMeter.Services.SimulationService
import GhostMeter.Simulation.EngineServing

/-! When the writes of a device's simulation configs take effect, among starts, stops and
writes that are run one after another. -/

namespace GhostMeter.Services

open GhostMeter.Lib GhostMeter.Simulation GhostMeter.Protocols

section Writes

variable {db : Database} {device d : UUID}

theorem storedEnabled_deleteConfigs :
    (deleteConfigs db device).storedEnabled d =
      if d = device then [] else db.storedEnabled d := by
  simp only [Database.storedEnabled, deleteConfigs, List.filter_filter]
  split
  next hd =>
    subst hd
    rw [List.filter_eq_nil_iff]
    simp +contextual
  next hd =>
    apply List.filter_congr
    intro c _
    by_cases hc : c.deviceId = d
    · simp [hc, hd]
    · simp [hc]

theorem setConfigs_rows (db : Database) (device : UUID) (configs : List SimulationConfigCreate) :
    ∃ rows : List SimulationConfig,
      rows.map (·.toConfigEntry) = configs.map (·.toConfigEntry) ∧
      (∀ r ∈ rows, r.deviceId = device) ∧
      (setConfigs db device configs).devices = db.devices ∧
      (setConfigs db device configs).templates = db.templates ∧
      (setConfigs db device configs).simulationConfigs =
        (deleteConfigs db device).simulationConfigs ++ rows := by
  obtain ⟨rows, hrows, -, hdevice, hdb⟩ := Database.insertConfigs (deleteConfigs db device) device
    (configs.map (·.toConfigEntry))
  rw [List.foldl_map] at hdb
  refine ⟨rows, hrows, hdevice, ?_⟩
  rw [setConfigs, hdb]
  exact ⟨rfl, rfl, rfl⟩

theorem storedEnabled_setConfigs_of_ne (configs : List SimulationConfigCreate) (h : d ≠ device) :
    (setConfigs db device configs).storedEnabled d = db.storedEnabled d := by
  obtain ⟨rows, -, hdevice, -, -, hconfigs⟩ := setConfigs_rows db device configs
  have hnew : rows.filter (fun c => c.deviceId = d ∧ c.isEnabled) = [] := by
    rw [List.filter_eq_nil_iff]
    intro r hr
    simp [hdevice r hr, Ne.symm h]
  rw [Database.storedEnabled, hconfigs, List.filter_append, hnew, List.append_nil]
  exact storedEnabled_deleteConfigs.trans (if_neg h)

theorem storedEnabled_setConfigs_self (configs : List SimulationConfigCreate) :
    (setConfigs db device configs).storedEnabled device = [] ↔
      ∀ cfg ∈ configs, cfg.isEnabled = false := by
  obtain ⟨rows, hrows, hdevice, -, -, hconfigs⟩ := setConfigs_rows db device configs
  have hold : (deleteConfigs db device).simulationConfigs.filter
      (fun c => c.deviceId = device ∧ c.isEnabled) = [] :=
    storedEnabled_deleteConfigs.trans (if_pos rfl)
  rw [Database.storedEnabled, hconfigs, List.filter_append, hold, List.nil_append,
    List.filter_eq_nil_iff]
  have hentries : (∀ r ∈ rows, r.isEnabled = false) ↔
      ∀ e ∈ rows.map (·.toConfigEntry), e.isEnabled = false := by simp
  have hcfgs : (∀ cfg ∈ configs, cfg.isEnabled = false) ↔
      ∀ e ∈ configs.map (·.toConfigEntry), e.isEnabled = false := by simp
  rw [hcfgs, ← hrows, ← hentries]
  refine forall₂_congr fun r hr => ?_
  simp [hdevice r hr]

theorem storedEnabled_upsertConfig_of_ne (registerName : String) (data : ConfigEntry)
    (h : d ≠ device) :
    (upsertConfig db device registerName data).storedEnabled d = db.storedEnabled d := by
  unfold upsertConfig
  split
  next =>
    have hne : device ≠ d := Ne.symm h
    refine Table.filter_map_of_fixed (fun c _ => ?_) fun c _ hc => ?_
    · split <;> simp_all
    · simp only [decide_eq_true_eq] at hc
      rw [if_neg]
      exact fun hc' => h (hc.1.symm.trans hc'.1)
  next => simp [Database.storedEnabled, Database.insertConfig, Ne.symm h]

theorem storedEnabled_upsertConfig_self (registerName : String) (data : ConfigEntry)
    (h : db.storedEnabled device = []) :
    (upsertConfig db device registerName data).storedEnabled device = [] ↔
      data.isEnabled = false := by
  simp only [Database.storedEnabled, List.filter_eq_nil_iff, decide_eq_true_eq] at h
  unfold upsertConfig
  split
  next hany =>
    obtain ⟨c₀, hc₀, hmatch⟩ := List.any_eq_true.1 hany
    simp only [decide_eq_true_eq] at hmatch
    simp only [Database.storedEnabled, List.filter_eq_nil_iff, List.forall_mem_map,
      decide_eq_true_eq]
    constructor
    · intro hall
      simpa [hmatch] using hall c₀ hc₀
    · intro hdata c hc
      split
      · simp [hdata]
      · exact h c hc
  next =>
    have hold := List.filter_eq_nil_iff (p := fun c : SimulationConfig =>
      decide (c.deviceId = device ∧ c.isEnabled = true)) (l := db.simulationConfigs)
    rw [Database.storedEnabled, Database.insertConfig, List.filter_append,
      hold.2 (fun c hc => by simpa using h c hc)]
    simp

end Writes

namespace ConfigRun

variable {α : Type}

inductive ConfigEvent
  | startDevice (device : UUID)
  | stopDevice (device : UUID)
  | setConfigs (device : UUID) (configs : List SimulationConfigCreate)
  | updateConfig (device : UUID) (registerName : String) (data : SimulationConfigCreate)
  | deleteConfigs (device : UUID)
  | taskBegins (t : TaskRef)
  /-- A tick without an error. -/
  | tick (t : TaskRef) (values : Dict String PyFloat) (injector : AnomalyInjector)
  | onTaskDone (i : ℕ)

def ofEngine (s : Backend α) (e : EngineEvent) : Option (Backend α) :=
  (s.engine.step e).map fun engine => { s with engine }

def step (methods : AdapterMethods α) (s : Backend α) : ConfigEvent → Option (Backend α)
  | .startDevice device => some (startDevice methods s device).1
  | .stopDevice device => some (stopDevice methods s device).1
  | .setConfigs device configs => some (setSimulationConfigs s device configs).1
  | .updateConfig device registerName data =>
    some (updateSimulationConfig s device registerName data).1
  | .deleteConfigs device => some (deleteSimulationConfigs s device).1
  | .taskBegins t => ofEngine s (.taskBegins t)
  | .tick t values injector => ofEngine s (.tick t false values injector)
  | .onTaskDone i => ofEngine s (.onTaskDone i)

/-- The status of the device's row is running. -/
def Running (s : Backend α) (device : UUID) : Prop :=
  ∃ row, s.db.findDevice device = some row ∧ row.status = .running

/-- For a running device, the engine has a task exactly when a config is enabled, and it uses
the enabled ones. -/
def TakesEffect (s : Backend α) : Prop :=
  ∀ device, Running s device →
    ((∃ task, s.engine.Simulates device task) ↔ s.db.storedEnabled device ≠ []) ∧
      ∀ task, s.engine.Simulates device task → task.configs = s.db.storedEnabled device

/-- The device is running, and the engine has no task for it. -/
def Idle (s : Backend α) (device : UUID) : Prop :=
  Running s device ∧ s.engine.held device = none

/-- An accepted write leaves no enabled config to an idle device, and a device is not made
idle by a start while the protocol manager is not running. -/
def Heeded (s : Backend α) : ConfigEvent → Prop
  | .startDevice device => s.manager.isRunning = false →
    ∀ row, s.db.findDevice device = some row → row.status = .stopped →
      s.db.storedEnabled device = []
  | .setConfigs device configs => Idle s device → checkConfigs s.db device configs = .ok () →
    ∀ cfg ∈ configs, cfg.isEnabled = false
  | .updateConfig device registerName data => Idle s device →
    checkConfig s.db device registerName = .ok () → data.isEnabled = false
  | _ => True

/-- The invariant: the engine serves what is stored, and only for running devices. -/
structure Inv (s : Backend α) : Prop where
  serving : s.engine.Serving s.db.enabledConfigs
  running : ∀ d, (s.engine.held d).isSome → Running s d
  template : ∀ d row, s.db.findDevice d = some row → (s.db.findTemplate row.templateId).isSome

variable {methods : AdapterMethods α} {s s' : Backend α} {device : UUID}

theorem Running.found (h : Running s device) : (s.db.findDevice device).isSome := by
  obtain ⟨row, hrow, -⟩ := h
  simp [hrow]

theorem Running.storedEnabled (h : Running s device) :
    s.db.enabledConfigs device = s.db.storedEnabled device :=
  Database.enabledConfigs_of_found h.found

/-- Every running device with an enabled config has an entry. -/
def Served (s : Backend α) : Prop :=
  ∀ d, Running s d → s.db.storedEnabled d ≠ [] → (s.engine.held d).isSome

theorem takesEffect_iff (h : Inv s) : TakesEffect s ↔ Served s := by
  refine forall₂_congr fun d hd => ?_
  rw [h.serving.simulates_iff]
  constructor
  · exact fun he => he.1.2
  · intro hserved
    refine ⟨⟨fun hsome => ?_, hserved⟩, fun task htask => ?_⟩
    · obtain ⟨t, ht⟩ := Option.isSome_iff_exists.1 hsome
      exact hd.storedEnabled ▸ (h.serving.entry d t ht).1
    · exact hd.storedEnabled ▸ (h.serving.configs_eq htask).1

/-- An accepted write of one device's configs. -/
theorem Inv.write (h : Inv s) {db : Database} (hdevices : db.devices = s.db.devices)
    (htemplates : db.templates = s.db.templates)
    (hother : ∀ d ≠ device, db.storedEnabled d = s.db.storedEnabled d) :
    Inv (reloadIfRunning { s with db } device).1 ∧
      (reloadIfRunning { s with db } device).1.db = db ∧
      (∀ d ≠ device, (reloadIfRunning { s with db } device).1.engine.held d = s.engine.held d) ∧
      (((reloadIfRunning { s with db } device).1.engine.held device).isSome ↔
        (s.engine.held device).isSome ∧ db.enabledConfigs device ≠ []) := by
  have hfind : db.findDevice = s.db.findDevice := by
    funext d
    simp only [Database.findDevice, hdevices]
  have htemplate : ∀ d row, db.findDevice d = some row →
      (db.findTemplate row.templateId).isSome := by
    simpa only [Database.findDevice, Database.findTemplate, hdevices, htemplates] using h.template
  have hconfigs : ∀ d ≠ device, db.enabledConfigs d = s.db.enabledConfigs d := fun d hd =>
    Database.enabledConfigs_congr (congrFun hfind d) (hother d hd)
  cases hheld : s.engine.deviceStates device with
  | none =>
    have hnone : s.engine.held device = none := by simp [SimulationEngine.held, hheld]
    have hres : reloadIfRunning { s with db } device = ({ s with db }, .ok ()) := by
      simp [reloadIfRunning, SimulationEngine.isDeviceSimulating, hheld]
    rw [hres]
    refine ⟨⟨h.serving.congr hnone hconfigs, fun d hd => ?_, htemplate⟩, rfl, fun _ _ => rfl, ?_⟩
    · simpa only [Running, hfind] using h.running d hd
    · simp [hnone]
  | some state =>
    have hsome : s.engine.held device = some state.task := by
      simp [SimulationEngine.held, hheld]
    obtain ⟨hserving, hoth, hself⟩ := h.serving.reloadNow hconfigs (db.enabledSchedules device)
    have hres : (reloadIfRunning { s with db } device).1 =
        { s with db, engine := (s.engine.reloadNow device (db.enabledConfigs device)
          (db.enabledSchedules device)).1 } := by
      simp only [reloadIfRunning, SimulationEngine.isDeviceSimulating, hheld, Option.isSome_some,
        if_true, Backend.reloadSimulation]
      cases (s.engine.reloadNow device (db.enabledConfigs device)
        (db.enabledSchedules device)).2 <;> rfl
    rw [hres]
    refine ⟨⟨hserving, fun d hd => ?_, htemplate⟩, rfl, hoth, ?_⟩
    · by_cases hdd : d = device
      · subst hdd
        simpa only [Running, hfind] using h.running d (by simp [hsome])
      · rw [hoth d hdd] at hd
        simpa only [Running, hfind] using h.running d hd
    · rw [hself]
      simp [hsome]

/-- The write leaves every running device served unless it gives configs to an idle one. -/
theorem Inv.write_served (h : Inv s) (hserved : Served s) {db : Database}
    (hdevices : db.devices = s.db.devices) (htemplates : db.templates = s.db.templates)
    (hother : ∀ d ≠ device, db.storedEnabled d = s.db.storedEnabled d) :
    Served (reloadIfRunning { s with db } device).1 ↔
      (Idle s device → db.storedEnabled device = []) := by
  obtain ⟨-, hdb, hheld, hself⟩ := h.write hdevices htemplates hother
  have hrun : ∀ d, Running (reloadIfRunning { s with db } device).1 d ↔ Running s d := by
    intro d
    simp only [Running, hdb, Database.findDevice, hdevices]
  simp only [Served, hrun, hdb]
  constructor
  · intro hs hidle
    by_contra hne
    have := hself.1 (hs device hidle.1 hne)
    simp [hidle.2] at this
  · intro hidle d hd hne
    by_cases hdd : d = device
    · subst hdd
      have hsome : (s.engine.held d).isSome := by
        by_contra hnone
        exact hne (hidle ⟨hd, Option.not_isSome_iff_eq_none.1 hnone⟩)
      rw [hself]
      refine ⟨hsome, ?_⟩
      rwa [Database.enabledConfigs_of_found]
      simpa only [Database.findDevice, hdevices] using hd.found
    · rw [hheld d hdd]
      exact hserved d hd (hother d hdd ▸ hne)

theorem running_setStatus {d : UUID} {status : DeviceStatus} {engine : SimulationEngine}
    {manager : ProtocolManager α} :
    Running { db := s.db.setStatus device status, engine, manager } d ↔
      if d = device then (s.db.findDevice device).isSome ∧ status = .running else Running s d := by
  unfold Running
  split
  next hd =>
    subst hd
    rw [Database.findDevice_setStatus_self]
    cases s.db.findDevice d <;> simp
  next hd => rw [Database.findDevice_setStatus_of_ne _ hd]

/-- A change of one device's status, with an engine that serves it accordingly. -/
theorem Inv.setStatus (h : Inv s) {status : DeviceStatus} {engine : SimulationEngine}
    {manager : ProtocolManager α} (hserving : engine.Serving s.db.enabledConfigs)
    (hother : ∀ d ≠ device, engine.held d = s.engine.held d)
    (hself : (engine.held device).isSome → (s.db.findDevice device).isSome ∧ status = .running) :
    Inv { db := s.db.setStatus device status, engine, manager } := by
  refine ⟨by simpa only [Database.enabledConfigs_setStatus] using hserving, fun d hd => ?_, ?_⟩
  · rw [running_setStatus]
    split
    next hdd =>
      subst hdd
      exact hself hd
    next hdd => exact h.running d (hother d hdd ▸ hd)
  · intro d row hrow
    simp only [Database.findDevice_setStatus, Option.map_eq_some_iff] at hrow
    obtain ⟨row, hrow, rfl⟩ := hrow
    have := h.template d row hrow
    split <;> exact this

theorem Inv.setStatus_served (hserved : Served s) {status : DeviceStatus}
    {engine : SimulationEngine} {manager : ProtocolManager α}
    (hother : ∀ d ≠ device, engine.held d = s.engine.held d) :
    Served { db := s.db.setStatus device status, engine, manager } ↔
      ((s.db.findDevice device).isSome → status = .running → s.db.storedEnabled device ≠ [] →
        (engine.held device).isSome) := by
  have hstored : (s.db.setStatus device status).storedEnabled = s.db.storedEnabled := rfl
  simp only [Served, running_setStatus, hstored]
  constructor
  · intro hall hfound hrun
    exact hall device (by simp [hfound, hrun])
  · intro hself d hd
    split at hd
    next hdd =>
      subst hdd
      exact hself hd.1 hd.2
    next hdd =>
      rw [hother d hdd]
      exact hserved d hd

section Steps

/-- The step keeps the invariant, and if everything was served it stays so exactly when the
event is heeded. -/
def Correct (s : Backend α) (e : ConfigEvent) (s' : Backend α) : Prop :=
  Inv s' ∧ (Served s → (Served s' ↔ Heeded s e))

theorem Inv.not_held (h : Inv s) {row : DeviceInstance} (hrow : s.db.findDevice device = some row)
    (hstatus : row.status ≠ .running) : s.engine.held device = none := by
  by_contra hsome
  obtain ⟨row', hrow', hrun⟩ := h.running device (Option.isSome_iff_ne_none.2 hsome)
  obtain rfl := Option.some.inj (hrow.symm.trans hrow')
  exact hstatus hrun

theorem Inv.startDevice (h : Inv s) :
    Correct s (.startDevice device) (startDevice methods s device).1 := by
  rcases startDevice_cases methods s device with
    ⟨hres, hno⟩ | ⟨d, template, hd, hstatus, -, hres⟩
  · rw [hres]
    refine ⟨h, fun hserved => iff_of_true hserved ?_⟩
    intro _ row hrow hstopped
    simpa [hno row hrow hstopped] using h.template device row hrow
  · have hnone : s.engine.held device = none := h.not_held hd (by simp [hstatus])
    rcases hres with ⟨hrun, hres⟩ | ⟨hrun, -, hres⟩ | ⟨hrun, -, hres⟩
    · rw [hres]
      refine ⟨h.setStatus h.serving (fun _ _ => rfl) (by simp [hnone]), fun hserved => ?_⟩
      rw [Inv.setStatus_served hserved (fun _ _ => rfl)]
      simp [Heeded, hd, hnone, hrun, hstatus]
    · rw [hres]
      refine ⟨h.setStatus h.serving (fun _ _ => rfl) (by simp [hnone]), fun hserved => ?_⟩
      rw [Inv.setStatus_served hserved (fun _ _ => rfl)]
      simp [Heeded, hrun]
    · have hheld : ∀ e, (s.startSimulation device).engine.held e =
          if e = device ∧ s.engine.held device = none ∧ s.db.enabledConfigs device ≠ [] then
            some s.engine.tasks.length
          else s.engine.held e := fun e => SimulationEngine.held_startNow _ _
      have hother : ∀ e ≠ device,
          (s.startSimulation device).engine.held e = s.engine.held e := fun e he => by
        rw [hheld, if_neg fun hc => he hc.1]
      rw [hres]
      refine ⟨h.setStatus (h.serving.startNow _) hother (by simp [hd]), fun hserved => ?_⟩
      rw [Inv.setStatus_served hserved hother, hheld]
      have hstored : s.db.enabledConfigs device = s.db.storedEnabled device :=
        Database.enabledConfigs_of_found (by simp [hd])
      simp +contextual [Heeded, hrun, hnone, hstored]

theorem Inv.stopDevice (h : Inv s) :
    Correct s (.stopDevice device) (stopDevice methods s device).1 := by
  obtain ⟨hserving, -, hheld⟩ := h.serving.stopNow fun _ (_ : _ ≠ device) => rfl
  have hother : ∀ e ≠ device, (s.stopSimulation device).1.engine.held e = s.engine.held e :=
    fun e he => (hheld e).trans (if_neg he)
  have hnone : (s.stopSimulation device).1.engine.held device = none :=
    (hheld device).trans (if_pos rfl)
  rcases stopDevice_cases methods s device with ⟨hres, -⟩ | ⟨d, hd, -, hres⟩
  · rw [hres]
    exact ⟨h, fun hserved => iff_of_true hserved trivial⟩
  · rcases hres with ⟨-, ht, -⟩ | ⟨-, hres⟩ | ⟨template, -, -, hres⟩
    · simpa [ht] using h.template device d hd
    all_goals
      rw [hres]
      refine ⟨h.setStatus hserving hother (by simp [hnone]), fun hserved => ?_⟩
      rw [Inv.setStatus_served hserved hother]
      simp [Heeded]

theorem Inv.writeConfigs {β : Type} (h : Inv s) {e : ConfigEvent}
    {check : Except AppException Unit} {write : Database → Database} {answer : Database → β}
    (hdevices : (write s.db).devices = s.db.devices)
    (htemplates : (write s.db).templates = s.db.templates)
    (hother : ∀ d ≠ device, (write s.db).storedEnabled d = s.db.storedEnabled d)
    (hrefused : check ≠ .ok () → Heeded s e)
    (hheeded : Served s → check = .ok () →
      (Heeded s e ↔ (Idle s device → (write s.db).storedEnabled device = []))) :
    Correct s e (writeConfigs s device check write answer).1 := by
  unfold Services.writeConfigs
  cases check with
  | error err => exact ⟨h, fun hserved => iff_of_true hserved (hrefused (by simp))⟩
  | ok u =>
    refine ⟨(h.write hdevices htemplates hother).1, fun hserved => ?_⟩
    rw [hheeded hserved rfl]
    exact h.write_served hserved hdevices htemplates hother

theorem Idle.storedEnabled (hidle : Idle s device) (hserved : Served s) :
    s.db.storedEnabled device = [] := by
  by_contra hne
  simpa [hidle.2] using hserved device hidle.1 hne

theorem upsertConfig_frame {db : Database} (registerName : String) (data : ConfigEntry) :
    (upsertConfig db device registerName data).devices = db.devices ∧
      (upsertConfig db device registerName data).templates = db.templates := by
  unfold upsertConfig
  split <;> exact ⟨rfl, rfl⟩

theorem Inv.calm (h : Inv s) {e : ConfigEvent} {ev : EngineEvent}
    (hev : SimulationEngine.Calm ev) (hs : ofEngine s ev = some s') (htrue : Heeded s e) :
    Correct s e s' := by
  obtain ⟨engine, hengine, rfl⟩ := Option.map_eq_some_iff.1 hs
  obtain ⟨hserving, hheld⟩ := h.serving.calm hev hengine
  refine ⟨⟨hserving, fun d hd => h.running d (hheld ▸ hd), h.template⟩, fun hserved => ?_⟩
  exact iff_of_true (fun d hd hne => by rw [hheld]; exact hserved d hd hne) htrue

theorem Inv.step (h : Inv s) {e : ConfigEvent} (hs : step methods s e = some s') :
    Correct s e s' := by
  cases e with
  | startDevice device => exact Option.some.inj hs ▸ h.startDevice
  | stopDevice device => exact Option.some.inj hs ▸ h.stopDevice
  | setConfigs device configs =>
    obtain ⟨rows, -, -, hdevices, htemplates, -⟩ := setConfigs_rows s.db device configs
    refine Option.some.inj hs ▸ h.writeConfigs hdevices htemplates
      (fun d hd => storedEnabled_setConfigs_of_ne configs hd) ?_ ?_
    · exact fun hno _ hok => absurd hok hno
    · intro _ hok
      rw [storedEnabled_setConfigs_self]
      exact ⟨fun hh hidle => hh hidle hok, fun hh hidle _ => hh hidle⟩
  | updateConfig device registerName data =>
    refine Option.some.inj hs ▸ h.writeConfigs (upsertConfig_frame _ _).1
      (upsertConfig_frame _ _).2 (fun d hd => storedEnabled_upsertConfig_of_ne _ _ hd) ?_ ?_
    · exact fun hno _ hok => absurd hok hno
    · intro hserved hok
      refine ⟨fun hh hidle => ?_, fun hh hidle _ => ?_⟩
      · exact (storedEnabled_upsertConfig_self _ _ (hidle.storedEnabled hserved)).2 (hh hidle hok)
      · exact (storedEnabled_upsertConfig_self _ _ (hidle.storedEnabled hserved)).1 (hh hidle)
  | deleteConfigs device =>
    refine Option.some.inj hs ▸ h.writeConfigs rfl rfl
      (fun d hd => storedEnabled_deleteConfigs.trans (if_neg hd)) (fun _ => trivial) ?_
    intro _ _
    exact iff_of_true trivial fun _ => storedEnabled_deleteConfigs.trans (if_pos rfl)
  | taskBegins t => exact h.calm (.taskBegins t) hs trivial
  | tick t values injector => exact h.calm (.tick t values injector) hs trivial
  | onTaskDone i => exact h.calm (.onTaskDone i) hs trivial

end Steps

/-- A backend whose engine has done nothing, with no running device. -/
structure Fresh (s : Backend α) : Prop where
  engine : s.engine = {}
  stopped : ∀ d, ¬ Running s d
  template : ∀ d row, s.db.findDevice d = some row → (s.db.findTemplate row.templateId).isSome

theorem Fresh.inv (h : Fresh s) : Inv s := by
  have hheld : ∀ d, s.engine.held d = none := fun d => by rw [h.engine]; rfl
  refine ⟨⟨fun d t ht => ?_, ?_⟩, fun d hd => ?_, h.template⟩
  · simp [hheld] at ht
  · rw [h.engine]
    simp
  · simp [hheld] at hd

theorem Fresh.served (h : Fresh s) : Served s := fun d hd => absurd hd (h.stopped d)

/-- In every run without errors, the writes of simulation configs take effect throughout
exactly when every write and start is heeded. -/
theorem always_takesEffect_iff (methods : AdapterMethods α) (s : Backend α) (h : Fresh s)
    (es : List ConfigEvent) :
    Always (step methods) TakesEffect s es ↔
      EachStep (step methods) (fun s e _ => Heeded s e) s es := by
  refine always_iff_eachStep (J := Inv) (fun s e s' hinv hs => (hinv.step hs).1) ?_ h.inv
    ((takesEffect_iff h.inv).2 h.served)
  intro s e s' hinv heffect hs
  rw [takesEffect_iff (hinv.step hs).1]
  exact (hinv.step hs).2 ((takesEffect_iff hinv).1 heffect)

/-- The Modbus TCP adapter under the manager. -/
def modbusMethods : AdapterMethods ModbusTcpAdapter where
  doAddDevice _ a device slave registers :=
    match a.doAddDevice device slave registers with
    | (a, .ok ()) => (a, .ok ())
    | (a, .error (.valueError message)) => (a, .error message)
    | (a, .error (.runtimeError message)) => (a, .error message)
    | (a, .error _) => (a, .error "")
  doRemoveDevice _ a device := (a.doRemoveDevice device, .ok ())
  setDeviceMeta a _ _ := a

/-- One stopped meter, with one register and no simulation configs. -/
def oneMeter : Backend ModbusTcpAdapter where
  db := {
    templates := [{
      id := 0, name := "Meter", protocol := .modbusTcp, description := none, isBuiltin := false }]
    registers := [{
      id := 1, templateId := 0, name := "voltage", address := 0, functionCode := 3,
      dataType := .uint16, byteOrder := .bigEndian, scaleFactor := .fin false 1, unit := none,
      description := none, sortOrder := 0, oid := none }]
    devices := [{
      id := 2, templateId := 0, name := "M1", slaveId := 1, status := .stopped, port := 502,
      description := none }]
    nextId := 3 }
  manager := {
    adapters := Dict.empty.set .modbusTcp { state := ModbusTcpAdapter.start {} }
    isRunning := true }

def staticVoltage : SimulationConfigCreate where
  registerName := "voltage"
  dataMode := .static
  mode_valid := static_known
  interval_ge := default_interval_ge
  interval_le := default_interval_le

theorem fresh_oneMeter : Fresh oneMeter := by
  have hmeter : ∀ d row, oneMeter.db.findDevice d = some row →
      row.status = .stopped ∧ row.templateId = 0 := by
    intro d row hrow
    have hmem := Table.mem_of_find hrow
    simp only [oneMeter, List.mem_singleton] at hmem
    simp [hmem]
  refine ⟨rfl, ?_, fun d row hrow => by rw [(hmeter d row hrow).2]; rfl⟩
  rintro d ⟨row, hrow, hrun⟩
  simp [(hmeter d row hrow).1] at hrun

theorem always_takesEffect_configured :
    Always (step modbusMethods) TakesEffect oneMeter
        [.setConfigs 2 [staticVoltage], .startDevice 2, .taskBegins 0] ↔
      EachStep (step modbusMethods) (fun s e _ => Heeded s e) oneMeter
        [.setConfigs 2 [staticVoltage], .startDevice 2, .taskBegins 0] :=
  always_takesEffect_iff modbusMethods oneMeter fresh_oneMeter _

/-- The meter is started before it gets its configs. -/
def startThenConfigure : List ConfigEvent := [.startDevice 2, .setConfigs 2 [staticVoltage]]

theorem configs_ignored :
    ¬ ∀ (methods : AdapterMethods ModbusTcpAdapter) (s : Backend ModbusTcpAdapter), Fresh s →
      ∀ es, Always (step methods) TakesEffect s es := by
  intro h
  have hall := (h modbusMethods oneMeter fresh_oneMeter startThenConfigure).2
  have heffect := ((hall _ rfl).2 _ rfl).1 2
  have hstatus : (((setSimulationConfigs (startDevice modbusMethods oneMeter 2).1 2
      [staticVoltage]).1.db.findDevice 2).map (·.status)) = some .running := by decide +kernel
  have hheld : (setSimulationConfigs (startDevice modbusMethods oneMeter 2).1 2
      [staticVoltage]).1.engine.held 2 = none := by decide +kernel
  have hstored : ((setSimulationConfigs (startDevice modbusMethods oneMeter 2).1 2
      [staticVoltage]).1.db.storedEnabled 2).length = 1 := by decide +kernel
  obtain ⟨row, hrow, hrun⟩ := Option.map_eq_some_iff.1 hstatus
  obtain ⟨task, t, ht, -⟩ := (heffect ⟨row, hrow, hrun⟩).1.2 fun hnil => by
    simp [hnil] at hstored
  simp [hheld] at ht

end ConfigRun

end GhostMeter.Services
