import GhostMeter.Services.DeviceRows
import GhostMeter.Services.ImportRules
import GhostMeter.Services.SimulationWrites

/-! The status of the devices against what the process has of them, among the calls for devices
and templates, imports and restarts, run one after another, and the steps of the engine that
nobody calls for. -/

namespace GhostMeter

open GhostMeter.Lib GhostMeter.Simulation GhostMeter.Protocols GhostMeter.Schemas

namespace Backend

variable {α : Type}

/-- The device is registered with an adapter or has a simulation task. -/
def InUse (s : Backend α) (device : UUID) : Prop :=
  (∃ protocol, s.manager.Registered protocol device) ∨ s.engine.HasTask device

/-- The device has a row, is not stopped, and is registered with the adapter of its template's
protocol. -/
def InService (s : Backend α) (device : UUID) : Prop :=
  ∃ d t, s.db.findDevice device = some d ∧ d.status ≠ .stopped ∧
    s.db.findTemplate d.templateId = some t ∧ s.manager.Registered t.protocol device

/-- The statuses agree with the process. -/
structure StatusAgrees (s : Backend α) : Prop where
  used : ∀ device, s.InUse device → s.InService device
  running : ∀ d ∈ s.db.devices, d.status = .running → s.InService d.id

end Backend

namespace Services

namespace Imported

variable {db db' : Database} {data : SystemImport} {s₁ s₂ s₃ s₄ : ImportState}
  (himport : Imported db data db' s₁ s₂ s₃ s₄)

include himport

/-- A stored device that the document lists: it is stopped if it was running. -/
theorem device_relisted (h : db.Keyed) {d : DeviceInstance} (hd : d ∈ db.devices)
    {e : DeviceExport} (he : lastListed data.devices d.key = some e) :
    ∃ d' ∈ db'.devices, d'.id = d.id ∧
      d'.status = (if d.status = .running then .stopped else d.status) ∧
      ∃ t ∈ db'.templates, t.id = d'.templateId ∧ t.name = e.templateName := by
  have hkey : e.key = d.key := Table.key_of_find he
  obtain ⟨d', hd', hlisted⟩ := himport.devices.listed _ _ he
  rw [← himport.deviceAt_eq] at hd'
  obtain ⟨hmem, hkey'⟩ := himport.keyed.deviceAt_iff.1 hd'
  have hold : s₁.db.deviceAt e.key = some d := by
    rw [himport.deviceAt_before]
    exact h.deviceAt_iff.2 ⟨hd, hkey.symm⟩
  have hid := hlisted.id
  have hstatus := hlisted.status
  rw [hold] at hid hstatus
  exact ⟨d', hmem, hid, hstatus, himport.device_listed (hkey ▸ he) hmem (hkey'.trans hkey.symm)⟩

/-- An import leaves no device running that the document lists. -/
theorem unlisted_of_running {d : DeviceInstance} (hd : d ∈ db'.devices)
    (hrun : d.status = .running) : lastListed data.devices d.key = none := by
  cases he : lastListed data.devices d.key with
  | none => rfl
  | some e =>
    obtain ⟨d', hd', hlisted⟩ := himport.devices.listed _ _ he
    rw [← himport.deviceAt_eq, himport.keyed.deviceAt_iff.2 ⟨hd, rfl⟩] at hd'
    obtain rfl := Option.some.inj hd'
    have hstatus := hlisted.status
    rw [hrun] at hstatus
    split at hstatus
    next d₀ _ =>
      split at hstatus
      next => cases hstatus
      next hne => exact absurd hstatus.symm hne
    next => cases hstatus

end Imported

namespace StatusRun

variable {α : Type}

inductive StatusEvent (α : Type)
  | createDevice (data : DeviceCreate)
  | updateDevice (device : UUID) (data : DeviceUpdate)
  | startDevice (device : UUID)
  | stopDevice (device : UUID)
  | deleteDevice (device : UUID)
  | updateTemplate (template : UUID) (data : TemplateUpdate) (e : String)
  | deleteTemplate (template : UUID)
  | importSystem (data : SystemImport)
  /-- The process starts again, with these adapters, and resumes the running devices. -/
  | restart (adapters : Dict Protocol α)
  /-- A step of the engine. -/
  | engine (e : EngineEvent)

/-- The device that `_set_device_error` writes to. -/
def setsError (s : SimulationEngine) : EngineEvent → Option UUID
  | .taskErrorSet t true => (s.tasks[t]?).map (·.device)
  | .errorSet i true =>
    match s.coroutines[i]? with
    | some (.settingError device) => some device
    | _ => none
  | _ => none

/-- A step that nobody calls for. -/
def goesOn : EngineEvent → Bool
  | .startDevice _ | .stopDevice _ | .reloadDevice _ => false
  | _ => true

/-- The process before it resumes its devices. -/
def restarted (db : Database) (adapters : Dict Protocol α) : Backend α where
  db
  manager := {
    adapters := fun protocol => (adapters protocol).map fun state => { state }
    isRunning := true }

/-- A rejected call changes nothing. -/
def commit {ε : Type} (s : Backend α) : Except ε Database → Backend α
  | .ok db => { s with db }
  | .error _ => s

variable (methods : AdapterMethods α) (settings : Settings)

def step (s : Backend α) : StatusEvent α → Option (Backend α)
  | .createDevice data => some { s with db := (createDevice settings s.db data).1 }
  | .updateDevice device data => some (commit s (updateDevice settings s.db device data))
  | .startDevice device => some (startDevice methods s device).1
  | .stopDevice device => some (stopDevice methods s device).1
  | .deleteDevice device => some (commit s (deleteDevice s.db device))
  | .updateTemplate template data e => some (commit s (updateTemplate s.db template data e))
  | .deleteTemplate template => some (commit s (deleteTemplate s.db template))
  | .importSystem data => some (commit s ((importSystem s.db data).map Prod.fst))
  | .restart adapters => some (resumeRunningDevices methods (restarted s.db adapters))
  | .engine e =>
    if goesOn e then
      (s.engine.step e).map fun engine => { s with
        engine
        db := match setsError s.engine e with
          | some device => s.db.setStatus device .error
          | none => s.db }
    else none

/-- The adapters accept the devices, one after another. -/
def Accepts (s : Backend α) : List DeviceInstance → Prop
  | [] => True
  | d :: rest =>
    (∀ t, s.db.findTemplate d.templateId = some t → (addToAdapter methods s d t).2 = .ok ()) ∧
      Accepts (resumeDevice methods s d) rest

/-- The import leaves a device that is in use its protocol, and does not stop it. -/
def Spares (db : Database) (data : SystemImport) (d : DeviceInstance) (t : DeviceTemplate) :
    Prop :=
  match lastListed data.devices d.key with
  | some e => d.status ≠ .running ∧ protocolNamed db data e.templateName = some t.protocol
  | none => protocolNamed db data t.name = some t.protocol

/-- The event does not touch what is in use; what is stopped goes for good. -/
def Heeds (s : Backend α) : StatusEvent α → Prop
  | .stopDevice device => ∀ d, s.db.findDevice device = some d → d.status ≠ .stopped →
      (∀ t, s.engine.Live t device → s.engine.held device = some t) ∧
      ∀ t, s.db.findTemplate d.templateId = some t →
        s.manager.TearsDown methods t.protocol device
  | .deleteDevice device => ∀ d, s.db.findDevice device = some d → d.status ≠ .running →
      ¬ s.InUse device
  | .updateTemplate template data e => ∀ db, updateTemplate s.db template data e = .ok db →
      ∀ t, s.db.findTemplate template = some t → t.protocol ≠ data.protocol →
        ∀ d ∈ s.db.devices, d.templateId = template → ¬ s.InUse d.id
  | .importSystem data => ∀ db r, importSystem s.db data = .ok (db, r) →
      ∀ d ∈ s.db.devices, s.InUse d.id → ∀ t, s.db.findTemplate d.templateId = some t →
        Spares s.db data d t
  | .restart adapters => Accepts methods (restarted s.db adapters)
      (s.db.devices.filter (·.status = .running))
  | .engine e => ∀ device, s.engine.launches e = some device → s.InService device
  | _ => True

structure Inv (s : Backend α) : Prop where
  keyed : s.db.Keyed
  isRunning : s.manager.isRunning = true
  one : ∀ p p' device, s.manager.Registered p device → s.manager.Registered p' device → p = p'

section Steps

variable {methods settings} {s s' : Backend α} {device template : UUID}

/-- A change of a row that keeps its ids, and does not stop the device. -/
theorem inService_updateDevice {f : DeviceInstance → DeviceInstance} {d : UUID}
    (hid : ∀ r, (f r).id = r.id) (htemplate : ∀ r, (f r).templateId = r.templateId)
    (hstatus : d = device → ∀ r, r.status ≠ .stopped → (f r).status ≠ .stopped)
    (h : s.InService d) :
    ({ s with db := s.db.updateDevice device f } : Backend α).InService d := by
  obtain ⟨row, t, hrow, hrun, ht, hreg⟩ := h
  refine ⟨if row.id = device then f row else row, t, ?_, ?_, ?_, hreg⟩
  · rw [Database.findDevice_updateDevice hid, hrow]
    rfl
  · split
    next hdevice => exact hstatus (Table.key_of_find hrow |>.symm.trans hdevice) row hrun
    next => exact hrun
  · split
    next => exact htemplate row ▸ ht
    next => exact ht

/-- From agreement, the step keeps the invariant if the event is heeded, and then exactly it keeps
the agreement. -/
structure Correct (methods : AdapterMethods α) (s : Backend α) (e : StatusEvent α)
    (s' : Backend α) : Prop where
  inv : Heeds methods s e → Inv s'
  agrees : s'.StatusAgrees ↔ Heeds methods s e

/-- A write to the database that the devices in service survive. -/
theorem agrees_write (h : s.StatusAgrees) {db : Database}
    (hservice : ∀ device, s.InUse device → s.InService device →
      ({ s with db } : Backend α).InService device)
    (hrunning : ∀ d ∈ db.devices, d.status = .running →
      ∃ d₀ ∈ s.db.devices, d₀.status = .running ∧ d₀.id = d.id) :
    ({ s with db } : Backend α).StatusAgrees where
  used device hused := hservice device hused (h.used device hused)
  running d hd hrun := by
    obtain ⟨d₀, hd₀, hrun₀, hid⟩ := hrunning d hd hrun
    have hin := h.running d₀ hd₀ hrun₀
    rw [hid] at hin
    have hused : s.InUse d.id := by
      obtain ⟨_, t, -, -, -, hreg⟩ := hin
      exact Or.inl ⟨t.protocol, hreg⟩
    exact hservice d.id hused hin

theorem Inv.write (h : Inv s) {db : Database} (hkeyed : db.Keyed) :
    Inv ({ s with db } : Backend α) where
  keyed := hkeyed
  isRunning := h.isRunning
  one := h.one

theorem Inv.createDevice (h : Inv s) (hagrees : s.StatusAgrees) (data : DeviceCreate) :
    Correct methods s (.createDevice data)
      { s with db := (Services.createDevice settings s.db data).1 } := by
  rcases createDevice_cases settings s.db data with
    heq | ⟨row, hstatus, htemplate, hkey, configs, nextId, hnext, heq⟩
  · rw [heq]
    exact ⟨fun _ => h, iff_of_true hagrees trivial⟩
  · rw [heq]
    have hkeyed : Database.Keyed { insertDevice s.db row with
        simulationConfigs := configs, nextId } :=
      (h.keyed.insertDevice htemplate hkey).of_same rfl rfl rfl hnext
    refine ⟨fun _ => h.write hkeyed, iff_of_true (agrees_write hagrees ?_ ?_) trivial⟩
    · rintro device - ⟨d, t, hd, hrest⟩
      refine ⟨d, t, ?_, hrest⟩
      exact Table.find_append _ |>.trans (by rw [show Table.find _ _ _ = _ from hd]; rfl)
    · intro d hd hrun
      rcases List.mem_append.1 hd with hd | hd
      · exact ⟨d, hd, hrun, rfl⟩
      · rw [List.mem_singleton.1 hd, hstatus] at hrun
        cases hrun

theorem Inv.updateDevice (h : Inv s) (hagrees : s.StatusAgrees) (data : DeviceUpdate) :
    Correct methods s (.updateDevice device data)
      (commit s (Services.updateDevice settings s.db device data)) := by
  cases hok : Services.updateDevice settings s.db device data with
  | error e => exact ⟨fun _ => h, iff_of_true hagrees trivial⟩
  | ok db =>
    obtain ⟨port, hno, rfl⟩ := updateDevice_ok hok
    refine ⟨fun _ => h.write ?_, iff_of_true (agrees_write hagrees ?_ ?_) trivial⟩
    · refine h.keyed.updateDevice (fun _ => rfl) (fun _ => rfl) ?_
      intro d hd hid d' hd' hne hkey
      refine hno ⟨d', hd', congrArg Prod.fst hkey, congrArg Prod.snd hkey, ?_⟩
      exact fun heq => hne (Option.some.inj heq)
    · intro d _ hservice
      exact inService_updateDevice (fun _ => rfl) (fun _ => rfl) (fun _ _ => id) hservice
    · intro d hd hrun
      obtain ⟨d₀, hd₀, rfl⟩ := List.mem_map.1 hd
      refine ⟨d₀, hd₀, ?_⟩
      split at hrun <;> exact ⟨hrun, by split <;> rfl⟩

theorem Inv.deleteDevice (h : Inv s) (hagrees : s.StatusAgrees) :
    Correct methods s (.deleteDevice device) (commit s (Services.deleteDevice s.db device)) := by
  cases hok : Services.deleteDevice s.db device with
  | error e =>
    refine ⟨fun _ => h, iff_of_true hagrees fun d hd hstatus => ?_⟩
    rw [deleteDevice_ok_iff.2 ⟨d, hd, hstatus, rfl⟩] at hok
    cases hok
  | ok db =>
    obtain ⟨row, hrow, hstatus, rfl⟩ := deleteDevice_ok_iff.1 hok
    have hfind : ∀ d, (deleteRow s.db device).findDevice d =
        if d = device then none else s.db.findDevice d := fun d =>
      Table.find_filter (fun i => i) device
    refine ⟨fun _ => h.write h.keyed.deleteRow, ?_, ?_⟩
    · intro hnew d hd _ hused
      obtain ⟨d', t, hd', -⟩ := hnew.used device hused
      have hnone : (deleteRow s.db device).findDevice device = none :=
        (hfind device).trans (if_pos rfl)
      cases hnone.symm.trans hd'
    · intro hheeds
      have hunused := hheeds row hrow hstatus
      refine agrees_write hagrees ?_ ?_
      · rintro d hused ⟨d', t, hd', hrest⟩
        refine ⟨d', t, ?_, hrest⟩
        have hne : d ≠ device := by
          rintro rfl
          exact hunused hused
        exact (hfind d).trans ((if_neg hne).trans hd')
      · intro d hd hrun
        exact ⟨d, List.mem_of_mem_filter hd, hrun, rfl⟩

theorem Inv.updateTemplate (h : Inv s) (hagrees : s.StatusAgrees) (data : TemplateUpdate)
    (e : String) : Correct methods s (.updateTemplate template data e)
      (commit s (Services.updateTemplate s.db template data e)) := by
  cases hok : Services.updateTemplate s.db template data e with
  | error e' =>
    refine ⟨fun _ => h, iff_of_true hagrees fun db hdb => ?_⟩
    rw [hok] at hdb
    cases hdb
  | ok db =>
    have hkeyed := h.keyed.updateTemplate hok
    obtain ⟨t, ht, -, -, -, -, hdb⟩ := updateTemplate_ok hok
    have hdevices : db.findDevice = s.db.findDevice := by
      rw [hdb]
      rfl
    -- a template has the new protocol if it is the one that is updated
    have hfind : ∀ i t', s.db.findTemplate i = some t' → ∃ t'', db.findTemplate i = some t'' ∧
        t''.protocol = if i = template then data.protocol else t'.protocol := by
      intro i t' ht'
      have hid : t'.id = i := Table.key_of_find ht'
      have hupdate : db.findTemplate i = (s.db.findTemplate i).map fun row =>
          if row.id = template then { row with
            name := data.name, protocol := data.protocol, description := data.description }
          else row := by
        rw [hdb]
        exact Table.find_update fun _ => rfl
      rw [ht', Option.map_some, hid] at hupdate
      refine ⟨_, hupdate, ?_⟩
      split <;> rfl
    refine ⟨fun _ => h.write hkeyed, ?_, ?_⟩
    · intro hnew db' _ t' ht' hprotocol d hd htemplate hused
      have hfound := h.keyed.findDevice_iff.2 ⟨hd, rfl⟩
      obtain ⟨d₁, t₁, hd₁, -, ht₁, hreg₁⟩ := hagrees.used d.id hused
      obtain rfl := Option.some.inj (hfound.symm.trans hd₁)
      rw [htemplate, ht'] at ht₁
      obtain rfl := Option.some.inj ht₁
      obtain ⟨d₂, t₂, hd₂, -, ht₂, hreg₂⟩ := hnew.used d.id hused
      obtain rfl := Option.some.inj (hfound.symm.trans ((congrFun hdevices d.id).symm.trans hd₂))
      obtain ⟨t₃, ht₃, hprotocol₃⟩ := hfind template t' ht'
      rw [htemplate] at ht₂
      obtain rfl := Option.some.inj (ht₃.symm.trans ht₂)
      rw [if_pos rfl] at hprotocol₃
      exact hprotocol (h.one _ _ _ hreg₁ (hprotocol₃ ▸ hreg₂))
    · intro hheeds
      refine agrees_write hagrees ?_ ?_
      · rintro device hused ⟨d, t₁, hd, hstatus, ht₁, hreg⟩
        obtain ⟨t₂, ht₂, hprotocol⟩ := hfind d.templateId t₁ ht₁
        refine ⟨d, t₂, (congrFun hdevices device).trans hd, hstatus, ht₂, ?_⟩
        have hsame : t₂.protocol = t₁.protocol := by
          rw [hprotocol]
          split
          next htemplate =>
            by_contra hne
            have hid : d.id = device := Table.key_of_find hd
            refine hheeds db hok t₁ (htemplate ▸ ht₁) (Ne.symm hne) d (Table.mem_of_find hd)
              htemplate ?_
            rwa [hid]
          next => rfl
        exact hsame ▸ hreg
      · intro d hd hrun
        rw [hdb] at hd
        exact ⟨d, hd, hrun, rfl⟩

theorem Inv.deleteTemplate (h : Inv s) (hagrees : s.StatusAgrees) :
    Correct methods s (.deleteTemplate template)
      (commit s (Services.deleteTemplate s.db template)) := by
  cases hok : Services.deleteTemplate s.db template with
  | error e => exact ⟨fun _ => h, iff_of_true hagrees trivial⟩
  | ok db =>
    have hkeyed := h.keyed.deleteTemplate hok
    obtain ⟨t, -, -, hunused, rfl⟩ := deleteTemplate_ok hok
    refine ⟨fun _ => h.write hkeyed, iff_of_true (agrees_write hagrees ?_ ?_) trivial⟩
    · rintro device - ⟨d, t, hd, hstatus, ht, hreg⟩
      refine ⟨d, t, hd, hstatus, ?_, hreg⟩
      have hfind : (deleteTemplateRow s.db template).findTemplate d.templateId =
          if d.templateId = template then none else s.db.findTemplate d.templateId :=
        Table.find_filter (fun i => i) template
      rw [if_neg (hunused d (Table.mem_of_find hd))] at hfind
      exact hfind.trans ht
    · exact fun d hd hrun => ⟨d, hd, hrun, rfl⟩

theorem Inv.importSystem (h : Inv s) (hagrees : s.StatusAgrees) (data : SystemImport) :
    Correct methods s (.importSystem data)
      (commit s ((Services.importSystem s.db data).map Prod.fst)) := by
  cases hok : Services.importSystem s.db data with
  | error e =>
    refine ⟨fun _ => h, iff_of_true hagrees fun db r hdb => ?_⟩
    rw [hok] at hdb
    cases hdb
  | ok result =>
    obtain ⟨db, r⟩ := result
    obtain ⟨s₁, s₂, s₃, s₄, himport⟩ := imported_of_importSystem h.keyed hok
    refine ⟨fun _ => h.write himport.keyed, ?_, ?_⟩
    · intro hnew db' r' _ d hd hused t ht
      have hfound := h.keyed.findDevice_iff.2 ⟨hd, rfl⟩
      obtain ⟨d₁, t₁, hd₁, -, ht₁, hreg₁⟩ := hagrees.used d.id hused
      obtain rfl := Option.some.inj (hfound.symm.trans hd₁)
      obtain rfl := Option.some.inj (ht.symm.trans ht₁)
      obtain ⟨d₂, t₂, hd₂, hstatus, ht₂, hreg₂⟩ := hnew.used d.id hused
      have hprotocol := h.one _ _ _ hreg₁ hreg₂
      obtain ⟨hmem₂, hid₂⟩ := himport.keyed.findTemplate_iff.1 ht₂
      have hafter := himport.template_after hmem₂
      obtain ⟨hmem, hid⟩ := himport.keyed.findDevice_iff.1 hd₂
      rw [Spares]
      split
      next e he =>
        obtain ⟨d', hd', hid', hstatus', t', ht', htid, hname⟩ :=
          himport.device_relisted h.keyed hd he
        obtain rfl := himport.keyed.device_ext hmem hd' (hid.trans hid'.symm)
        obtain rfl := himport.keyed.template_ext hmem₂ ht' (hid₂.trans htid.symm)
        rw [hname, ← hprotocol] at hafter
        refine ⟨fun hrun => ?_, hafter⟩
        rw [if_pos hrun] at hstatus'
        exact hstatus hstatus'
      next hun =>
        have hd' := (himport.device_unlisted h.keyed hun).2 hd
        obtain rfl := himport.keyed.device_ext hmem hd' hid
        obtain ⟨hmem₁, hid₁⟩ := h.keyed.findTemplate_iff.1 ht
        have hname := himport.template_kept h.keyed hmem₁ hmem₂ (hid₂.trans hid₁.symm)
        rw [hname, ← hprotocol] at hafter
        exact hafter
    · intro hheeds
      refine agrees_write hagrees ?_ ?_
      · rintro device hused ⟨d, t, hd, hstatus, ht, hreg⟩
        obtain ⟨hmem, rfl⟩ := h.keyed.findDevice_iff.1 hd
        obtain ⟨hmem₁, hid₁⟩ := h.keyed.findTemplate_iff.1 ht
        have hspares := hheeds db r hok d hmem hused t ht
        rw [Spares] at hspares
        split at hspares
        next e he =>
          obtain ⟨hrun, hprotocol⟩ := hspares
          obtain ⟨d', hd', hid', hstatus', t', ht', htid, hname⟩ :=
            himport.device_relisted h.keyed hmem he
          rw [if_neg hrun] at hstatus'
          have hafter := himport.template_after ht'
          rw [hname, hprotocol] at hafter
          refine ⟨d', t', himport.keyed.findDevice_iff.2 ⟨hd', hid'⟩, hstatus' ▸ hstatus,
            himport.keyed.findTemplate_iff.2 ⟨ht', htid⟩, ?_⟩
          exact Option.some.inj hafter ▸ hreg
        next hun =>
          have hd' := (himport.device_unlisted h.keyed hun).2 hmem
          obtain ⟨t', ht', htid⟩ := himport.keyed.deviceTemplates d hd'
          have hname := himport.template_kept h.keyed hmem₁ ht' (htid.trans hid₁.symm)
          have hafter := himport.template_after ht'
          rw [hname, hspares] at hafter
          refine ⟨d, t', himport.keyed.findDevice_iff.2 ⟨hd', rfl⟩, hstatus,
            himport.keyed.findTemplate_iff.2 ⟨ht', htid⟩, ?_⟩
          exact Option.some.inj hafter ▸ hreg
      · intro d hd hrun
        have hun := himport.unlisted_of_running hd hrun
        exact ⟨d, (himport.device_unlisted h.keyed hun).1 hd, hrun, rfl⟩

/-- A change of one device's status. -/
theorem agrees_setStatus (h : s.StatusAgrees) {status : DeviceStatus}
    (hdb : s'.db = s.db.setStatus device status) (hused : ∀ d ≠ device, s'.InUse d → s.InUse d)
    (hregistered : ∀ p, ∀ d ≠ device, s.manager.Registered p d → s'.manager.Registered p d)
    (hself : s'.InUse device ∨ status = .running ∧ (s.db.findDevice device).isSome →
      s'.InService device) : s'.StatusAgrees := by
  have hother : ∀ d ≠ device, s.InService d → s'.InService d := by
    rintro d hne ⟨row, t, hrow, hstatus, ht, hreg⟩
    refine ⟨row, t, ?_, hstatus, ?_, hregistered _ d hne hreg⟩
    · rw [hdb, Database.findDevice_setStatus_of_ne _ hne]
      exact hrow
    · rw [hdb]
      exact ht
  constructor
  · intro d hd
    by_cases hne : d = device
    · subst hne
      exact hself (Or.inl hd)
    · exact hother d hne (h.used d (hused d hne hd))
  · intro d hd hrun
    rw [hdb] at hd
    obtain ⟨d₀, hd₀, rfl⟩ := List.mem_map.1 hd
    split at hrun
    next hid =>
      rw [if_pos hid]
      refine (congrArg s'.InService hid).mpr (hself (Or.inr ⟨hrun, ?_⟩))
      rw [Option.isSome_iff_ne_none]
      exact fun hnone => Table.find_eq_none_iff.1 hnone d₀ hd₀ hid
    next hid =>
      rw [if_neg hid]
      exact hother d₀.id hid (h.running d₀ hd₀ hrun)

theorem Inv.startDevice (h : Inv s) (hagrees : s.StatusAgrees) :
    Correct methods s (.startDevice device) (Services.startDevice methods s device).1 := by
  rcases startDevice_cases methods s device with ⟨hres, -⟩ | ⟨d, t, hd, hstatus, ht, hres⟩
  · rw [hres]
    exact ⟨fun _ => h, iff_of_true hagrees trivial⟩
  · have hid : d.id = device := Table.key_of_find hd
    have hunused : ¬ s.InUse device := by
      intro hused
      obtain ⟨d', _, hd', hstatus', -⟩ := hagrees.used device hused
      obtain rfl := Option.some.inj (hd.symm.trans hd')
      exact hstatus' hstatus
    have hno : ∀ p, ¬ s.manager.Registered p device := fun p hreg => hunused (Or.inl ⟨p, hreg⟩)
    have hregistered := registered_addToAdapter methods s d t
    rw [hid] at hregistered
    rcases hres with ⟨hrun, -⟩ | ⟨-, ⟨e, he⟩, hres⟩ | ⟨-, hok, hres⟩
    · rw [h.isRunning] at hrun
      cases hrun
    · rw [hres]
      rcases hregistered with ⟨-, -, hsame⟩ | ⟨hok, -⟩
      · have hsame := hsame (hno _)
        refine ⟨fun _ => ⟨h.keyed.setStatus _, ?_, ?_⟩, iff_of_true ?_ trivial⟩
        · exact (isRunning_addToAdapter methods s d t).trans h.isRunning
        · intro p p' d' hp hp'
          exact h.one p p' d' ((hsame p d').1 hp) ((hsame p' d').1 hp')
        · refine agrees_setStatus hagrees rfl ?_ ?_ ?_
          · intro d' _ hused
            exact hused.imp_left fun ⟨p, hp⟩ => ⟨p, (hsame p d').1 hp⟩
          · exact fun p d' _ => (hsame p d').2
          · rintro (hused | ⟨herror, -⟩)
            · exact absurd (hused.imp_left fun ⟨p, hp⟩ => ⟨p, (hsame p device).1 hp⟩) hunused
            · cases herror
      · cases he.symm.trans hok
    · rw [hres]
      rcases hregistered with ⟨e, he, -⟩ | ⟨-, hadded⟩
      · cases he.symm.trans hok
      · refine ⟨fun _ => ⟨h.keyed.setStatus _, ?_, ?_⟩, iff_of_true ?_ trivial⟩
        · exact (isRunning_addToAdapter methods s d t).trans h.isRunning
        · intro p p' d' hp hp'
          rcases (hadded p d').1 hp with ⟨rfl, rfl⟩ | hold
          · rcases (hadded p' d').1 hp' with ⟨rfl, -⟩ | hold'
            · rfl
            · exact absurd hold' (hno p')
          · rcases (hadded p' d').1 hp' with ⟨rfl, rfl⟩ | hold'
            · exact absurd hold (hno p)
            · exact h.one p p' d' hold hold'
        · refine agrees_setStatus hagrees rfl ?_ ?_ ?_
          · rintro d' hne (⟨p, hp⟩ | htask)
            · rcases (hadded p d').1 hp with ⟨-, rfl⟩ | hp
              · exact absurd rfl hne
              · exact Or.inl ⟨p, hp⟩
            · rcases SimulationEngine.hasTask_startNow htask with rfl | htask
              · exact absurd rfl hne
              · exact Or.inr htask
          · exact fun p d' _ hp => (hadded p d').2 (Or.inr hp)
          · intro _
            refine ⟨{ d with status := .running }, t, ?_, nofun, ht,
              (hadded _ device).2 (Or.inl ⟨rfl, rfl⟩)⟩
            rw [Database.findDevice_setStatus_self, hd]
            rfl

variable (methods) in
/-- A stop of a device that is not stopped. -/
theorem Inv.stopDevice_eq {d : DeviceInstance} (h : Inv s) (hd : s.db.findDevice device = some d)
    (hstatus : d.status ≠ .stopped) :
    ∃ t, s.db.findTemplate d.templateId = some t ∧
      (Services.stopDevice methods s device).1 = { s with
        engine := (s.stopSimulation device).1.engine
        db := s.db.setStatus device .stopped
        manager := (s.manager.removeDevice methods t.protocol device).1 } := by
  rcases stopDevice_cases methods s device with ⟨-, hstopped⟩ | ⟨d', hd', -, hres⟩
  · exact absurd (hstopped d hd) hstatus
  obtain rfl := Option.some.inj (hd.symm.trans hd')
  rcases hres with ⟨-, hnone, -⟩ | ⟨hrun, -⟩ | ⟨t, -, ht, hres⟩
  · obtain ⟨hmem, -⟩ := h.keyed.findDevice_iff.1 hd
    obtain ⟨t, ht, hid⟩ := h.keyed.deviceTemplates d hmem
    cases hnone.symm.trans (h.keyed.findTemplate_iff.2 ⟨ht, hid⟩)
  · rw [h.isRunning] at hrun
    cases hrun
  · exact ⟨t, ht, hres⟩

/-- What a stop leaves of its device: a task that the entry does not hold, or a registration whose
teardown raises. -/
theorem inUse_stopDevice_iff {d : DeviceInstance} (h : Inv s) (hagrees : s.StatusAgrees)
    (hd : s.db.findDevice device = some d) (hstatus : d.status ≠ .stopped) :
    (Services.stopDevice methods s device).1.InUse device ↔
      ¬ Heeds methods s (.stopDevice device) := by
  obtain ⟨t, ht, hres⟩ := h.stopDevice_eq methods hd hstatus
  have hheeds : Heeds methods s (.stopDevice device) ↔
      (∀ τ, s.engine.Live τ device → s.engine.held device = some τ) ∧
        s.manager.TearsDown methods t.protocol device := by
    constructor
    · exact fun hheeds => ⟨(hheeds d hd hstatus).1, (hheeds d hd hstatus).2 t ht⟩
    · rintro ⟨hheld, htears⟩ d' hd' -
      obtain rfl := Option.some.inj (hd.symm.trans hd')
      exact ⟨hheld, fun t' ht' => Option.some.inj (ht.symm.trans ht') ▸ htears⟩
  have hremoved := @ProtocolManager.registered_removeDevice _ methods s.manager t.protocol
  have htask := (@SimulationEngine.hasTask_stopNow s.engine device device).1
  rw [hres, hheeds, not_and_or, Backend.InUse, or_comm]
  refine or_congr (htask.trans ?_) ⟨?_, ?_⟩
  · simp only [not_forall, exists_prop]
  · rintro ⟨p, hp⟩ htears
    obtain ⟨hp, hne⟩ := hremoved.1 hp
    obtain ⟨d', t', hd', -, ht', hreg⟩ := hagrees.used device (Or.inl ⟨p, hp⟩)
    obtain rfl := Option.some.inj (hd.symm.trans hd')
    obtain rfl := Option.some.inj (ht.symm.trans ht')
    exact hne ⟨h.one _ _ _ hp hreg, rfl, htears⟩
  · intro hraises
    have hreg := ProtocolManager.registered_of_not_tearsDown hraises
    exact ⟨t.protocol, hremoved.2 ⟨hreg, fun hboth => hraises hboth.2.2⟩⟩

theorem Inv.stopDevice (h : Inv s) (hagrees : s.StatusAgrees) :
    Correct methods s (.stopDevice device) (Services.stopDevice methods s device).1 := by
  rcases stopDevice_cases methods s device with ⟨hres, hstopped⟩ | ⟨d, hd, hstatus, -⟩
  · rw [hres]
    refine ⟨fun _ => h, iff_of_true hagrees fun d hd hstatus => ?_⟩
    exact absurd (hstopped d hd) hstatus
  · have hleft := @inUse_stopDevice_iff _ methods _ _ _ h hagrees hd hstatus
    obtain ⟨t, ht, hres⟩ := h.stopDevice_eq methods hd hstatus
    rw [hres] at hleft ⊢
    have hremoved := @ProtocolManager.registered_removeDevice _ methods s.manager t.protocol
    refine ⟨fun _ => ⟨h.keyed.setStatus _, ?_, ?_⟩, ?_, ?_⟩
    · exact ProtocolManager.isRunning_removeDevice.trans h.isRunning
    · intro p p' d' hp hp'
      exact h.one p p' d' (hremoved.1 hp).1 (hremoved.1 hp').1
    · intro hnew
      by_contra hnot
      -- the row is stopped, so nothing of the device may be left
      obtain ⟨row, _, hrow, hrunning, -⟩ := hnew.used device (hleft.2 hnot)
      rw [Database.findDevice_setStatus_self, hd] at hrow
      obtain rfl := Option.some.inj hrow
      exact hrunning rfl
    · intro hheeds
      refine agrees_setStatus hagrees rfl ?_ ?_ ?_
      · rintro d' - (⟨p, hp⟩ | htask)
        · exact Or.inl ⟨p, (hremoved.1 hp).1⟩
        · exact Or.inr ((@SimulationEngine.hasTask_stopNow s.engine device d').2 htask)
      · exact fun p d' hne hp => hremoved.2 ⟨hp, fun hboth => hne hboth.2.1⟩
      · rintro (hused | ⟨hrun, -⟩)
        · exact absurd hheeds (hleft.1 hused)
        · cases hrun

theorem Inv.engine (h : Inv s) (hagrees : s.StatusAgrees) {e : EngineEvent}
    {engine : SimulationEngine} (hs : s.engine.step e = some engine) :
    Correct methods s (.engine e) { s with
      engine
      db := match setsError s.engine e with
        | some device => s.db.setStatus device .error
        | none => s.db } := by
  obtain ⟨htask, hlaunched⟩ := SimulationEngine.hasTask_step hs
  have hused : Heeds methods s (.engine e) → ∀ d, ({ s with engine } : Backend α).InUse d →
      s.InService d := by
    rintro hheeds d (hreg | htask')
    · exact hagrees.used d (Or.inl hreg)
    · rcases htask d htask' with htask' | hlaunch
      · exact hagrees.used d (Or.inr htask')
      · exact hheeds d hlaunch
  cases herror : setsError s.engine e with
  | none =>
    simp only
    refine ⟨fun _ => ⟨h.keyed, h.isRunning, h.one⟩, ?_, ?_⟩
    · intro hnew device hlaunch
      exact hnew.used device (Or.inr (hlaunched device hlaunch))
    · exact fun hheeds => ⟨hused hheeds, hagrees.running⟩
  | some device =>
    simp only
    have hnone : ∀ d, s.engine.launches e ≠ some d := by
      intro d hd
      cases e <;> first | cases hd | cases herror
    refine ⟨fun _ => ⟨h.keyed.setStatus _, h.isRunning, h.one⟩, ?_, ?_⟩
    · intro _ d hd
      exact absurd hd (hnone d)
    · intro hheeds
      have hservice : ∀ d, s.InService d → ({ s with
          engine
          db := s.db.setStatus device .error } : Backend α).InService d := fun d hd =>
        inService_updateDevice (fun _ => rfl) (fun _ => rfl) (fun _ _ _ => nofun) hd
      constructor
      · exact fun d hd => hservice d (hused hheeds d hd)
      · intro d hd hrun
        obtain ⟨d₀, hd₀, rfl⟩ := List.mem_map.1 hd
        split at hrun
        next => cases hrun
        next hne =>
          rw [if_neg hne]
          exact hservice d₀.id (hagrees.running d₀ hd₀ hrun)

variable (methods) in
/-- One round of the resume. -/
theorem resumeDevice_cases (hrun : s.manager.isRunning = true) (d : DeviceInstance)
    {t : DeviceTemplate} (ht : s.db.findTemplate d.templateId = some t) :
    ((∃ e, (addToAdapter methods s d t).2 = .error e) ∧
      resumeDevice methods s d = { s with manager := (addToAdapter methods s d t).1 }) ∨
    ((addToAdapter methods s d t).2 = .ok () ∧
      resumeDevice methods s d = { s with
        manager := (addToAdapter methods s d t).1
        engine := (s.startSimulation d.id).engine }) := by
  simp only [resumeDevice, Database.getTemplate, ht, registerDeviceRuntime, hrun,
    not_true_eq_false, if_false]
  rcases addToAdapter methods s d t with ⟨manager, e | u⟩
  · exact Or.inl ⟨⟨e, rfl⟩, rfl⟩
  · exact Or.inr ⟨rfl, rfl⟩

/-- The resume of `l`, from `s`. -/
structure Resumed (methods : AdapterMethods α) (s : Backend α) (l : List DeviceInstance)
    (s' : Backend α) : Prop where
  db : s'.db = s.db
  isRunning : s'.manager.isRunning = true
  kept : ∀ p d, s.manager.Registered p d → s'.manager.Registered p d
  added : ∀ p d, s'.manager.Registered p d → s.manager.Registered p d ∨
    ∃ row ∈ l, row.id = d ∧ ∃ t, s.db.findTemplate row.templateId = some t ∧ t.protocol = p
  tasks : ∀ d, s'.engine.HasTask d → s.engine.HasTask d ∨ ∃ p, s'.manager.Registered p d
  accepts : Accepts methods s l ↔ ∀ row ∈ l, ∀ t, s.db.findTemplate row.templateId = some t →
    s'.manager.Registered t.protocol row.id

variable (methods) in
theorem resumed {l : List DeviceInstance} (hrun : s.manager.isRunning = true)
    (hids : (l.map (·.id)).Nodup) (hno : ∀ row ∈ l, ∀ p, ¬ s.manager.Registered p row.id)
    (htemplates : ∀ row ∈ l, ∃ t, s.db.findTemplate row.templateId = some t) :
    Resumed methods s l (l.foldl (resumeDevice methods) s) := by
  induction l generalizing s with
  | nil =>
    exact ⟨rfl, hrun, fun _ _ => id, fun _ _ => Or.inl, fun _ => Or.inl,
      iff_of_true trivial (by simp)⟩
  | cons row l ih =>
    rw [List.map_cons, List.nodup_cons] at hids
    obtain ⟨t, ht⟩ := htemplates row List.mem_cons_self
    have hnew : ∀ row' ∈ l, row'.id ≠ row.id := by
      intro row' hrow' hid
      exact hids.1 (List.mem_map.2 ⟨row', hrow', hid⟩)
    -- what the round does to the registrations
    obtain ⟨s₁, hs₁⟩ : ∃ s₁, resumeDevice methods s row = s₁ := ⟨_, rfl⟩
    have hround : s₁.db = s.db ∧ s₁.manager.isRunning = true ∧
        (∀ p d, s₁.manager.Registered p d ↔ ((addToAdapter methods s row t).2 = .ok () ∧
          p = t.protocol ∧ d = row.id) ∨ s.manager.Registered p d) ∧
        ∀ d, s₁.engine.HasTask d → s.engine.HasTask d ∨ ∃ p, s₁.manager.Registered p d := by
      have hregistered := registered_addToAdapter methods s row t
      have hrunning := (isRunning_addToAdapter methods s row t).trans hrun
      rcases resumeDevice_cases methods hrun row ht with ⟨⟨e, he⟩, hres⟩ | ⟨hok, hres⟩
      · rw [hs₁] at hres
        rcases hregistered with ⟨-, -, hsame⟩ | ⟨hok, -⟩
        · have hsame := hsame (hno row List.mem_cons_self _)
          rw [hres]
          refine ⟨rfl, hrunning, fun p d => ?_, fun d => Or.inl⟩
          rw [hsame, he]
          simp
        · cases he.symm.trans hok
      · rw [hs₁] at hres
        rcases hregistered with ⟨e, he, -⟩ | ⟨-, hadded⟩
        · cases he.symm.trans hok
        · rw [hres]
          refine ⟨rfl, hrunning, fun p d => ?_, fun d htask => ?_⟩
          · rw [hadded, hok]
            simp
          · rcases SimulationEngine.hasTask_startNow htask with rfl | htask
            · exact Or.inr ⟨t.protocol, (hadded _ _).2 (Or.inl ⟨rfl, rfl⟩)⟩
            · exact Or.inl htask
    obtain ⟨hdb, hrun₁, hreg₁, htask₁⟩ := hround
    have hno₁ : ∀ row' ∈ l, ∀ p, ¬ s₁.manager.Registered p row'.id := by
      intro row' hrow' p hp
      rcases (hreg₁ p row'.id).1 hp with ⟨-, -, hid⟩ | hp
      · exact hnew row' hrow' hid
      · exact hno row' (List.mem_cons_of_mem _ hrow') p hp
    have hrest := ih (s := s₁) hrun₁ hids.2 hno₁ fun row' hrow' =>
      hdb ▸ htemplates row' (List.mem_cons_of_mem _ hrow')
    rw [List.foldl_cons, hs₁]
    constructor
    · exact hrest.db.trans hdb
    · exact hrest.isRunning
    · exact fun p d hp => hrest.kept p d ((hreg₁ p d).2 (Or.inr hp))
    · intro p d hp
      rcases hrest.added p d hp with hp | ⟨row', hrow', hid, t', ht', hprotocol⟩
      · rcases (hreg₁ p d).1 hp with ⟨-, rfl, rfl⟩ | hp
        · exact Or.inr ⟨row, List.mem_cons_self, rfl, t, ht, rfl⟩
        · exact Or.inl hp
      · exact Or.inr ⟨row', List.mem_cons_of_mem _ hrow', hid, t', hdb ▸ ht', hprotocol⟩
    · intro d hd
      rcases hrest.tasks d hd with hd | hd
      · exact (htask₁ d hd).imp_right fun ⟨p, hp⟩ => ⟨p, hrest.kept p d hp⟩
      · exact Or.inr hd
    · rw [List.forall_mem_cons, Accepts, hs₁, hrest.accepts, hdb]
      refine and_congr_left fun _ => ?_
      constructor
      · intro hok t' ht'
        obtain rfl := Option.some.inj (ht.symm.trans ht')
        exact hrest.kept _ _ ((hreg₁ _ _).2 (Or.inl ⟨hok t ht, rfl, rfl⟩))
      · intro hreg t' ht'
        obtain rfl := Option.some.inj (ht.symm.trans ht')
        rcases hrest.added _ _ (hreg t ht) with hp | ⟨row', hrow', hid, -⟩
        · rcases (hreg₁ _ _).1 hp with ⟨hok, -⟩ | hp
          · exact hok
          · exact absurd hp (hno row List.mem_cons_self _)
        · exact absurd hid (hnew row' hrow')

theorem Inv.restart (h : Inv s) (adapters : Dict Protocol α) :
    Correct methods s (.restart adapters)
      (resumeRunningDevices methods (restarted s.db adapters)) := by
  have hfresh : ∀ p d, ¬ (restarted s.db adapters).manager.Registered p d := by
    rintro p d ⟨a, stats, ha, hstats⟩
    obtain ⟨state, -, rfl⟩ := Option.map_eq_some_iff.1 ha
    cases hstats
  have hidle : ∀ d, ¬ (restarted s.db adapters).engine.HasTask d := by
    rintro d (hd | ⟨t, task, htask, -⟩)
    · cases hd
    · cases htask
  have hsub : (s.db.devices.filter (·.status = .running)).Sublist s.db.devices :=
    List.filter_sublist
  have hfound : ∀ d ∈ s.db.devices, ∃ t, s.db.findTemplate d.templateId = some t := by
    intro d hd
    obtain ⟨t, ht, hid⟩ := h.keyed.deviceTemplates d hd
    exact ⟨t, h.keyed.findTemplate_iff.2 ⟨ht, hid⟩⟩
  have hresumed := resumed methods (s := restarted s.db adapters) rfl
    (h.keyed.deviceIds.sublist (hsub.map _)) (fun row _ p => hfresh p row.id)
    fun row hrow => hfound row (hsub.subset hrow)
  rw [resumeRunningDevices]
  have hdb : (restarted s.db adapters).db = s.db := rfl
  rw [hdb]
  generalize (s.db.devices.filter (·.status = .running)).foldl (resumeDevice methods)
    (restarted s.db adapters) = s' at *
  -- whatever is registered is a running device, with its template
  have hadded : ∀ p d, s'.manager.Registered p d → ∃ row ∈ s.db.devices, row.status = .running ∧
      row.id = d ∧ ∃ t, s.db.findTemplate row.templateId = some t ∧ t.protocol = p := by
    intro p d hp
    rcases hresumed.added p d hp with hp | ⟨row, hrow, hrest⟩
    · exact absurd hp (hfresh p d)
    · obtain ⟨hmem, hstatus⟩ := List.mem_filter.1 hrow
      exact ⟨row, hmem, by simpa using hstatus, hrest⟩
  refine ⟨fun _ => ⟨?_, hresumed.isRunning, ?_⟩, ?_⟩
  · rw [hresumed.db]
    exact h.keyed
  · intro p p' d hp hp'
    obtain ⟨row, hrow, -, rfl, t, ht, rfl⟩ := hadded p d hp
    obtain ⟨row', hrow', -, hid, t', ht', rfl⟩ := hadded p' _ hp'
    obtain rfl := h.keyed.device_ext hrow hrow' hid.symm
    rw [Option.some.inj (ht.symm.trans ht')]
  · have hservice : ∀ row ∈ s.db.devices, row.status = .running → ∀ t,
        s.db.findTemplate row.templateId = some t → s'.manager.Registered t.protocol row.id →
          s'.InService row.id := by
      intro row hrow hstatus t ht hreg
      refine ⟨row, t, ?_, by rw [hstatus]; nofun, ?_, hreg⟩
      · rw [hresumed.db]
        exact h.keyed.findDevice_iff.2 ⟨hrow, rfl⟩
      · rw [hresumed.db]
        exact ht
    rw [Heeds, hresumed.accepts]
    constructor
    · intro hnew row hrow t ht
      obtain ⟨hmem, hstatus⟩ := List.mem_filter.1 hrow
      obtain ⟨d, t', hd, -, ht', hreg⟩ :=
        hnew.running row (hresumed.db ▸ hmem) (by simpa using hstatus)
      rw [hresumed.db] at hd ht'
      obtain rfl := Option.some.inj ((h.keyed.findDevice_iff.2 ⟨hmem, rfl⟩).symm.trans hd)
      obtain rfl := Option.some.inj (ht.symm.trans ht')
      exact hreg
    · intro haccepts
      have hregistered : ∀ p d, s'.manager.Registered p d → s'.InService d := by
        intro p d hp
        obtain ⟨row, hrow, hstatus, rfl, t, ht, rfl⟩ := hadded p d hp
        exact hservice row hrow hstatus t ht hp
      constructor
      · rintro d (⟨p, hp⟩ | htask)
        · exact hregistered p d hp
        · rcases hresumed.tasks d htask with htask | ⟨p, hp⟩
          · exact absurd htask (hidle d)
          · exact hregistered p d hp
      · intro row hrow hstatus
        have hmem : row ∈ s.db.devices := hresumed.db ▸ hrow
        obtain ⟨t, ht⟩ := hfound row hmem
        refine hservice row hmem hstatus t ht (haccepts row ?_ t ht)
        exact List.mem_filter.2 ⟨hmem, by simpa using hstatus⟩

theorem Inv.step (h : Inv s) (hagrees : s.StatusAgrees) {e : StatusEvent α}
    (hs : step methods settings s e = some s') : Correct methods s e s' := by
  cases e with
  | createDevice data => exact Option.some.inj hs ▸ h.createDevice hagrees data
  | updateDevice device data => exact Option.some.inj hs ▸ h.updateDevice hagrees data
  | startDevice device => exact Option.some.inj hs ▸ h.startDevice hagrees
  | stopDevice device => exact Option.some.inj hs ▸ h.stopDevice hagrees
  | deleteDevice device => exact Option.some.inj hs ▸ h.deleteDevice hagrees
  | updateTemplate template data e => exact Option.some.inj hs ▸ h.updateTemplate hagrees data e
  | deleteTemplate template => exact Option.some.inj hs ▸ h.deleteTemplate hagrees
  | importSystem data => exact Option.some.inj hs ▸ h.importSystem hagrees data
  | restart adapters => exact Option.some.inj hs ▸ h.restart adapters
  | engine e =>
    simp only [StatusRun.step] at hs
    split at hs
    next =>
      obtain ⟨engine, hengine, rfl⟩ := Option.map_eq_some_iff.1 hs
      exact h.engine hagrees hengine
    next => cases hs

end Steps

/-- A process that has just started, with no running device. -/
structure Idle (s : Backend α) : Prop where
  keyed : s.db.Keyed
  isRunning : s.manager.isRunning = true
  unused : ∀ device, ¬ s.InUse device
  stopped : ∀ d ∈ s.db.devices, d.status ≠ .running

theorem Idle.inv {s : Backend α} (h : Idle s) : Inv s where
  keyed := h.keyed
  isRunning := h.isRunning
  one p _ device hp _ := absurd (Or.inl ⟨p, hp⟩) (h.unused device)

theorem Idle.agrees {s : Backend α} (h : Idle s) : s.StatusAgrees where
  used device hused := absurd hused (h.unused device)
  running d hd hrun := absurd hrun (h.stopped d hd)

/-- In every run the statuses agree with the process throughout exactly when no event touches
what is in use. -/
theorem always_statusAgrees_iff (methods : AdapterMethods α) (settings : Settings)
    {s : Backend α} (h : Idle s) (es : List (StatusEvent α)) :
    Always (step methods settings) Backend.StatusAgrees s es ↔
      EachStep (step methods settings) (fun s e _ => Heeds methods s e) s es := by
  rw [Always, and_iff_right h.agrees]
  refine eachStep_iff (J := fun s => Inv s ∧ s.StatusAgrees) ?_ ?_ ⟨h.inv, h.agrees⟩
  · intro s e s' hinv hs hheeds
    have hcorrect := hinv.1.step hinv.2 hs
    exact ⟨hcorrect.inv hheeds, hcorrect.agrees.2 hheeds⟩
  · intro s e s' hinv hs
    exact (hinv.1.step hinv.2 hs).agrees

open ConfigRun (oneMeter modbusMethods)

theorem idle_oneMeter : Idle oneMeter where
  keyed := by constructor <;> decide
  isRunning := rfl
  unused device := by
    rintro (⟨p, a, stats, ha, hstats⟩ | hd | ⟨t, task, htask, -⟩)
    · cases p <;> cases ha
      cases hstats
    · cases hd
    · cases htask
  stopped d hd := by
    obtain rfl := List.mem_singleton.1 hd
    nofun

theorem always_statusAgrees_stopped :
    Always (step modbusMethods {}) Backend.StatusAgrees oneMeter [.startDevice 2, .stopDevice 2] ↔
      EachStep (step modbusMethods {}) (fun s e _ => Heeds modbusMethods s e) oneMeter
        [.startDevice 2, .stopDevice 2] :=
  always_statusAgrees_iff modbusMethods {} idle_oneMeter _

/-- A document that lists the meter. -/
def listing : SystemImport where
  version := "1.0"
  devices := [{
    name := "M1", templateName := "Meter", slaveId := 1, port := 502, description := none }]
  version_valid := rfl

/-- The import stops the running meter in the database only. -/
theorem import_leaves_registered : Idle oneMeter ∧
    ¬ Always (step modbusMethods {}) Backend.StatusAgrees oneMeter
      [.startDevice 2, .importSystem listing] := by
  refine ⟨idle_oneMeter, fun h => ?_⟩
  have hstarted := (h.2 _ rfl).2
  have hagrees := (hstarted _ rfl).1
  have hreg : ((startDevice modbusMethods oneMeter 2).1.manager.Registered .modbusTcp 2) :=
    ⟨_, _, rfl, rfl⟩
  obtain ⟨d, t, hd, hrun, -⟩ := hagrees.used 2 (Or.inl ⟨.modbusTcp, hreg⟩)
  have hstatus : ((commit (startDevice modbusMethods oneMeter 2).1
      ((importSystem (startDevice modbusMethods oneMeter 2).1.db listing).map
        Prod.fst)).db.findDevice 2).map (·.status) = some .stopped := by decide +kernel
  rw [hd] at hstatus
  exact hrun (Option.some.inj hstatus)

end StatusRun

end Services

end GhostMeter
