import GhostMeter.Services.ImportConfigs

/-! An import does not raise on a document that keeps the constraints. -/

namespace GhostMeter

open GhostMeter.Lib GhostMeter.Simulation GhostMeter.Protocols GhostMeter.Schemas

namespace Services

/-- What the document lists keeps the constraints, and its devices have templates. -/
structure Acceptable (db : Database) (data : SystemImport) : Prop where
  templateNames : (data.templates.map (·.name)).Nodup
  registerNames : ∀ t ∈ data.templates, (t.registers.map (·.name)).Nodup
  registerAddresses : ∀ t ∈ data.templates,
    (t.registers.map fun r => (r.address, r.functionCode)).Nodup
  deviceKeys : (data.devices.map (·.key)).Nodup
  deviceTemplates : ∀ e ∈ data.devices, (db.templateNamed e.templateName).isSome ∨
    (lastUser data.templates e.templateName).isSome
  configs : (data.simulationConfigs.map fun c => (c.deviceName, c.registerName)).Nodup
  schedules : (data.anomalySchedules.map fun e =>
    (e.deviceName, e.registerName, e.triggerAfterSeconds)).Nodup

section Templates

variable {db : Database} {s : ImportState}

theorem templates_progress (h : db.Keyed) {listed : List TemplateExport}
    (hnames : (listed.map (·.name)).Nodup)
    (hregisters : ∀ t ∈ listed, (t.registers.map (·.name)).Nodup)
    (haddresses : ∀ t ∈ listed, (t.registers.map fun r => (r.address, r.functionCode)).Nodup) :
    ∃ s, listed.foldlM (importTemplate db.templateNamed) { db } = .ok s := by
  have hstep : ∀ done t rest s, listed = done ++ t :: rest → TemplatesDone db done s →
      ∃ s', importTemplate db.templateNamed s t = .ok s' ∧ TemplatesDone db (done ++ [t]) s' := by
    intro done t rest s hl hP
    rw [hl, List.map_append, List.map_cons, List.nodup_append] at hnames
    have hmem : t ∈ listed := by simp [hl]
    obtain ⟨s', hs'⟩ := hP.progress (fun hin => hnames.2.2 _ hin _ List.mem_cons_self rfl)
      (hregisters t hmem) (haddresses t hmem)
    exact ⟨s', hs', hP.step hs'⟩
  obtain ⟨s, hs, -⟩ := foldlM_progress hstep (templatesDone_nil h)
  exact ⟨s, hs⟩

end Templates

section Devices

variable {s₁ s : ImportState} {done : List DeviceExport} {e : DeviceExport} {n : String} {i : UUID}

theorem DevicesDone.progress (h : DevicesDone s₁ done s) (hnew : e.key ∉ done.map (·.key))
    (htemplate : (s₁.templateNameToId e.templateName).isSome) :
    ∃ s', importDevice s₁.db.deviceAt s e = .ok s' := by
  obtain ⟨template, htemplate⟩ := Option.isSome_iff_exists.1 htemplate
  unfold importDevice
  rw [h.rest.1, htemplate]
  cases hfound : s₁.db.deviceAt (e.slaveId, e.port) with
  | some d => exact ⟨_, rfl⟩
  | none =>
    have hunlisted : lastListed done e.key = none := by
      refine Table.find_eq_none_iff.2 fun e' he' hkey => ?_
      exact hnew (hkey ▸ List.mem_map_of_mem (List.mem_reverse.1 he'))
    have hnone : s.db.deviceAt e.key = none := (h.unlisted e.key hunlisted).trans hfound
    simp only [andThen_ok_iff, constraint_ok_iff]
    exact ⟨_, Table.find_eq_none_iff.1 hnone, rfl⟩

theorem devices_progress (h : s₁.db.Keyed) (hnames : s₁.deviceNameToId = Dict.empty)
    (hmapped : ∀ n, s₁.templateNameToId n = (s₁.db.templateNamed n).map (·.id))
    {listed : List DeviceExport} (hkeys : (listed.map (·.key)).Nodup)
    (htemplates : ∀ e ∈ listed, (s₁.templateNameToId e.templateName).isSome) :
    ∃ s, listed.foldlM (importDevice s₁.db.deviceAt) s₁ = .ok s := by
  have hstep : ∀ done e rest s, listed = done ++ e :: rest → DevicesDone s₁ done s →
      ∃ s', importDevice s₁.db.deviceAt s e = .ok s' ∧ DevicesDone s₁ (done ++ [e]) s' := by
    intro done e rest s hl hP
    rw [hl, List.map_append, List.map_cons, List.nodup_append] at hkeys
    obtain ⟨s', hs'⟩ := hP.progress (fun hin => hkeys.2.2 _ hin _ List.mem_cons_self rfl)
      (htemplates e (by simp [hl]))
    exact ⟨s', hs', hP.step hmapped hs'⟩
  obtain ⟨s, hs, -⟩ := foldlM_progress hstep (devicesDone_nil h hnames)
  exact ⟨s, hs⟩

/-- Under distinct keys a name stands for a device that has it. -/
theorem DevicesDone.name_of_id (h : DevicesDone s₁ done s) (hkeys : (done.map (·.key)).Nodup)
    {existing : List DeviceInstance}
    (hi : (mapOtherDevices existing s).deviceNameToId n = some i) :
    ∃ d ∈ s.db.devices, d.id = i ∧ d.name = n := by
  cases hlast : s.deviceNameToId n with
  | none => exact mapOtherDevices_of_none hlast hi
  | some j =>
    rw [mapOtherDevices_of_some hlast] at hi
    obtain rfl := Option.some.inj hi
    rw [h.ids, Option.bind_eq_some_iff] at hlast
    obtain ⟨e, he, hid⟩ := hlast
    obtain ⟨d, hd, hid⟩ := Option.map_eq_some_iff.1 hid
    have hmem : e ∈ done := List.mem_reverse.1 (Table.mem_of_find he)
    have hlisted : lastListed done e.key = some e := by
      rw [lastListed, Table.find_reverse hkeys]
      exact (Table.find_eq_some_iff hkeys).2 ⟨hmem, rfl⟩
    obtain ⟨d', hd', hrow⟩ := h.listed _ _ hlisted
    obtain rfl := Option.some.inj (hd.symm.trans hd')
    exact ⟨d, Table.mem_of_find hd, hid, hrow.name.trans (Table.key_of_find he)⟩

/-- Two names stand for two devices. -/
theorem DevicesDone.name_inj (h : DevicesDone s₁ done s) (hkeys : (done.map (·.key)).Nodup)
    {existing : List DeviceInstance} {n' : String}
    (hi : (mapOtherDevices existing s).deviceNameToId n = some i)
    (hi' : (mapOtherDevices existing s).deviceNameToId n' = some i) : n = n' := by
  obtain ⟨d, hd, hid, rfl⟩ := h.name_of_id hkeys hi
  obtain ⟨d', hd', hid', rfl⟩ := h.name_of_id hkeys hi'
  rw [h.keyed.device_ext hd hd' (hid.trans hid'.symm)]

end Devices

section Rows

variable {α β γ ι : Type} {key : α → UUID × ι} {content : α → γ} {name : β → String}
  {entry : β → γ} {ids : Dict String UUID} {old rows : List α} {done : List β}
  {cleared : List String} {b : β} {device : UUID}

theorem mem_of_mem_remaining {entries : List β} (h : b ∈ remaining name entries) : b ∈ entries := by
  induction entries using List.reverseRecOn with
  | nil => cases h
  | append_singleton entries a ih =>
    rw [remaining_append] at h
    split at h
    next =>
      rcases List.mem_append.1 h with h | h
      · exact List.mem_append_left _ (ih h)
      · exact List.mem_append_right _ h
    next => exact List.mem_append_right _ h

/-- A row is accepted if no entry before it is for the same row. -/
theorem RowsDone.progress [DecidableEq ι]
    (h : RowsDone key content name entry ids old done rows cleared) {row : α}
    (hb : ids (name b) = some device) (hkey : (key row).1 = device)
    (hcontent : content row = entry b) {π : γ → ι} (hπ : ∀ r, (key r).2 = π (content r))
    (hnew : ∀ b' ∈ done, ids (name b') = some device → π (entry b') ≠ π (entry b)) :
    ∃ p, replaceRow key rows cleared (name b) row = .ok p := by
  by_cases hmem : name b ∈ cleared
  · simp only [replaceRow, hmem, if_true, andThen_ok_iff, constraint_ok_iff]
    refine ⟨_, fun r hr heq => ?_, rfl⟩
    obtain ⟨b₀, hb₀, hname⟩ := List.mem_map.1 ((h.cleared _).1 hmem).1
    have hne : entriesFor name ids done device ≠ [] := by
      refine List.ne_nil_of_mem (a := b₀) (List.mem_filter.2 ⟨hb₀, ?_⟩)
      rw [decide_eq_true_eq, hname, hb]
    have hin : content r ∈ (ofDevice key rows device).map content := by
      refine List.mem_map_of_mem (List.mem_filter.2 ⟨hr, ?_⟩)
      rw [decide_eq_true_eq, heq, hkey]
    rw [h.replaced device hne] at hin
    obtain ⟨b', hb', hentry⟩ := List.mem_map.1 hin
    obtain ⟨hdone, hid⟩ := List.mem_filter.1 (mem_of_mem_remaining hb')
    rw [decide_eq_true_eq] at hid
    apply hnew b' hdone hid
    rw [hentry, ← hπ, heq, hπ, hcontent]
  · simp only [replaceRow, hmem, if_false, andThen_ok_iff, constraint_ok_iff]
    refine ⟨_, fun r hr heq => ?_, rfl⟩
    have hother := List.of_mem_filter hr
    rw [decide_eq_true_eq] at hother
    exact hother (congrArg Prod.fst heq)

end Rows

section Entries

variable {s s' : ImportState}

theorem configs_progress (hcleared : s.simDevicesCleared = [])
    (hinj : ∀ n n' i, s.deviceNameToId n = some i → s.deviceNameToId n' = some i → n = n')
    {listed : List SimulationConfigExport}
    (hlisted : (listed.map fun c => (c.deviceName, c.registerName)).Nodup) :
    ∃ s', listed.foldlM importSimulationConfig s = .ok s' := by
  have hstep : ∀ done c rest s', listed = done ++ c :: rest → ConfigsDone s done s' →
      ∃ s'', importSimulationConfig s' c = .ok s'' ∧ ConfigsDone s (done ++ [c]) s'' := by
    intro done c rest s' hl hP
    rw [hl, List.map_append, List.map_cons, List.nodup_append] at hlisted
    have hok : ∃ s'', importSimulationConfig s' c = .ok s'' := by
      unfold importSimulationConfig
      rw [hP.ids]
      cases hid : s.deviceNameToId c.deviceName with
      | none => exact ⟨_, rfl⟩
      | some device =>
        simp only [bind_ok_iff]
        obtain ⟨p, hp⟩ := @RowsDone.progress _ _ _ _ _ _ _ _ _ _ _ _ _ c device _ hP.rows {
            id := s'.db.nextId
            deviceId := device
            registerName := c.registerName
            dataMode := c.dataMode
            modeParams := c.modeParams
            isEnabled := c.isEnabled
            updateIntervalMs := c.updateIntervalMs } hid rfl rfl (·.registerName) (fun _ => rfl)
          fun c' hc' hid' heq => hlisted.2.2 _ (List.mem_map_of_mem hc') _ List.mem_cons_self
            (Prod.ext (hinj _ _ _ hid' hid) heq)
        exact ⟨_, p, hp, rfl⟩
    obtain ⟨s'', hs''⟩ := hok
    exact ⟨s'', hs'', hP.step hs''⟩
  obtain ⟨s', hs', -⟩ := foldlM_progress hstep
    ⟨rfl, le_rfl, rfl, rfl, hcleared ▸ rowsDone_nil⟩
  exact ⟨s', hs'⟩

theorem schedules_progress (hcleared : s.schedDevicesCleared = [])
    (hinj : ∀ n n' i, s.deviceNameToId n = some i → s.deviceNameToId n' = some i → n = n')
    {listed : List AnomalyScheduleExport}
    (hlisted : (listed.map fun e =>
      (e.deviceName, e.registerName, e.triggerAfterSeconds)).Nodup) :
    ∃ s', listed.foldlM importAnomalySchedule s = .ok s' := by
  have hstep : ∀ done e rest s', listed = done ++ e :: rest → SchedulesDone s done s' →
      ∃ s'', importAnomalySchedule s' e = .ok s'' ∧ SchedulesDone s (done ++ [e]) s'' := by
    intro done e rest s' hl hP
    rw [hl, List.map_append, List.map_cons, List.nodup_append] at hlisted
    have hok : ∃ s'', importAnomalySchedule s' e = .ok s'' := by
      unfold importAnomalySchedule
      rw [hP.ids]
      cases hid : s.deviceNameToId e.deviceName with
      | none => exact ⟨_, rfl⟩
      | some device =>
        simp only [bind_ok_iff]
        obtain ⟨p, hp⟩ := @RowsDone.progress _ _ _ _ _ _ _ _ _ _ _ _ _ e device _ hP.rows {
            id := s'.db.nextId
            deviceId := device
            registerName := e.registerName
            anomalyType := e.anomalyType
            anomalyParams := e.anomalyParams
            triggerAfterSeconds := e.triggerAfterSeconds
            durationSeconds := e.durationSeconds
            isEnabled := e.isEnabled } hid rfl rfl
          (fun x => (x.1.registerName, x.1.triggerAfterSeconds)) (fun _ => rfl)
          fun e' he' hid' heq => hlisted.2.2 _ (List.mem_map_of_mem he') _ List.mem_cons_self
            (Prod.ext (hinj _ _ _ hid' hid) heq)
        exact ⟨_, p, hp, rfl⟩
    obtain ⟨s'', hs''⟩ := hok
    exact ⟨s'', hs'', hP.step hs''⟩
  obtain ⟨s', hs', -⟩ := foldlM_progress hstep ⟨rfl, le_rfl, rfl, hcleared ▸ rowsDone_nil⟩
  exact ⟨s', hs'⟩

end Entries

theorem importSystem_progress {db : Database} {data : SystemImport} (h : db.Keyed)
    (hdoc : Acceptable db data) : ∃ db' r, importSystem db data = .ok (db', r) := by
  obtain ⟨s₀, h₀⟩ := templates_progress h hdoc.templateNames hdoc.registerNames
    hdoc.registerAddresses
  have htemplates := templatesImported h h₀
  have hdeviceAt : (mapOtherTemplates db.templates s₀).db.deviceAt = db.deviceAt := by
    rw [Database.deviceAt, htemplates.frame]
    rfl
  have hmapped : ∀ e ∈ data.devices,
      ((mapOtherTemplates db.templates s₀).templateNameToId e.templateName).isSome := by
    intro e he
    rw [htemplates.mapped, Option.isSome_map]
    have hnamed := htemplates.named e.templateName
    cases hlast : lastUser data.templates e.templateName with
    | some t =>
      rw [hlast] at hnamed
      obtain ⟨t', ht', -⟩ := Option.map_eq_some_iff.1 hnamed
      rw [ht']
      rfl
    | none =>
      have hold := (hdoc.deviceTemplates e he).resolve_right (by simp [hlast])
      obtain ⟨t, ht⟩ := Option.isSome_iff_exists.1 hold
      obtain ⟨t', ht', -⟩ := htemplates.kept _ t ht
      rw [ht']
      rfl
  obtain ⟨s₂, h₂⟩ := devices_progress htemplates.keyed htemplates.rest.1 htemplates.mapped
    hdoc.deviceKeys hmapped
  have hdone := devicesDone htemplates.keyed htemplates.rest.1 htemplates.mapped h₂
  have hinj : ∀ n n' i, (mapOtherDevices db.devices s₂).deviceNameToId n = some i →
      (mapOtherDevices db.devices s₂).deviceNameToId n' = some i → n = n' :=
    fun _ _ _ => hdone.name_inj hdoc.deviceKeys
  have hcleared : (mapOtherDevices db.devices s₂).simDevicesCleared = [] :=
    hdone.rest.2.2.1.trans htemplates.rest.2.2.1
  obtain ⟨s₃, h₃⟩ := configs_progress hcleared hinj hdoc.configs
  have hconfigs := configsDone hcleared h₃
  have hscheduled : s₃.schedDevicesCleared = [] :=
    hconfigs.schedules.trans (hdone.rest.2.2.2.trans htemplates.rest.2.2.2)
  obtain ⟨s₄, h₄⟩ := schedules_progress hscheduled (hconfigs.ids ▸ hinj) hdoc.schedules
  simp only [importSystem, bind_ok_iff]
  rw [hdeviceAt] at h₂
  exact ⟨_, _, s₀, h₀, s₂, h₂, s₃, h₃, s₄, h₄, rfl⟩

end Services

end GhostMeter
