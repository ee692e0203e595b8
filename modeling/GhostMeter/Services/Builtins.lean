import GhostMeter.Services.DeviceRows
import GhostMeter.Services.ImportConfigs
import GhostMeter.Services.ScenarioStore
import GhostMeter.Services.SimulationProfileService

/-! The built-in templates, profiles and scenarios, under the calls that write their tables. -/

namespace GhostMeter

open GhostMeter.Lib GhostMeter.Simulation GhostMeter.Protocols GhostMeter.Schemas

/-- The template was in `db₀`, and is still there. -/
def Database.StillHas (db₀ db : Database) (template : UUID) : Prop :=
  (∃ t ∈ db₀.templates, t.id = template) ∧ ∃ t ∈ db.templates, t.id = template

/-- The built-in templates of `db₀` are still there, and so are the built-in profiles and scenarios
of every template that is; no id is used again. -/
structure Database.BuiltinsStay (db₀ db : Database) : Prop where
  next : db₀.nextId ≤ db.nextId
  old : ∀ t ∈ db.templates, t.id < db₀.nextId → ∃ t₀ ∈ db₀.templates, t₀.id = t.id
  templatesStay : Table.Stays DeviceTemplate.id (·.isBuiltin) (fun _ => True) db₀.templates
    db.templates
  profilesStay : Table.Stays (fun p : SimulationProfile => (p.id, p.templateId)) (·.isBuiltin)
    (fun p => db₀.StillHas db p.templateId) db₀.simulationProfiles db.simulationProfiles
  scenariosStay : Table.Stays (fun s : Scenario => (s.id, s.templateId)) (·.isBuiltin)
    (fun s => db₀.StillHas db s.templateId) db₀.scenarios db.scenarios

/-- The built-in rows are the ones of `db₀`, and say what they say there; a user template that is
deleted takes its profiles and scenarios with it. -/
structure Database.KeepsBuiltins (db₀ db : Database) : Prop extends db₀.BuiltinsStay db where
  templates : Table.Keeps DeviceTemplate.id (·.isBuiltin) (·.protocol) db₀.templates db.templates
  registers : ∀ t ∈ db.templates, t.isBuiltin → db.storedRegister t.id = db₀.storedRegister t.id
  profiles : Table.Keeps SimulationProfile.id (·.isBuiltin) (·.configs) db₀.simulationProfiles
    db.simulationProfiles
  scenarios : Table.Keeps Scenario.id (·.isBuiltin) (·.steps) db₀.scenarios db.scenarios

/-- The rows of the tables that hold built-in rows are told apart by their ids. -/
structure Database.Identified (db : Database) : Prop extends db.Keyed where
  profileIds : (db.simulationProfiles.map (·.id)).Nodup
  profileFresh : ∀ p ∈ db.simulationProfiles, p.id < db.nextId
  scenarioIds : (db.scenarios.map (·.id)).Nodup
  scenarioFresh : ∀ s ∈ db.scenarios, s.id < db.nextId

namespace Database

variable {db₀ db db' : Database}

/-- No profile and no scenario comes, and some may go. -/
theorem Identified.of_sublist (h : db.Identified) (hkeyed : db'.Keyed)
    (hnext : db.nextId ≤ db'.nextId)
    (hprofiles : db'.simulationProfiles.Sublist db.simulationProfiles)
    (hscenarios : db'.scenarios.Sublist db.scenarios) : db'.Identified where
  toKeyed := hkeyed
  profileIds := h.profileIds.sublist (hprofiles.map _)
  profileFresh p hp := (h.profileFresh p (hprofiles.subset hp)).trans_le hnext
  scenarioIds := h.scenarioIds.sublist (hscenarios.map _)
  scenarioFresh s hs := (h.scenarioFresh s (hscenarios.subset hs)).trans_le hnext

/-- The templates have kept their ids, and nothing is gone. -/
theorem BuiltinsStay.of_ids (hnext : db.nextId ≤ db'.nextId)
    (hids : db'.templates.map (·.id) = db.templates.map (·.id))
    (htemplates : Table.Stays DeviceTemplate.id (·.isBuiltin) (fun _ => True) db.templates
      db'.templates)
    (hprofiles : Table.Stays (fun p : SimulationProfile => (p.id, p.templateId)) (·.isBuiltin)
      (fun p => db.StillHas db' p.templateId) db.simulationProfiles db'.simulationProfiles)
    (hscenarios : Table.Stays (fun s : Scenario => (s.id, s.templateId)) (·.isBuiltin)
      (fun s => db.StillHas db' s.templateId) db.scenarios db'.scenarios) :
    db.BuiltinsStay db' where
  next := hnext
  old t ht _ := by
    have hmem : t.id ∈ db'.templates.map (·.id) := List.mem_map_of_mem ht
    rw [hids] at hmem
    exact List.mem_map.1 hmem
  templatesStay := htemplates
  profilesStay := hprofiles
  scenariosStay := hscenarios

theorem BuiltinsStay.refl (db : Database) : db.BuiltinsStay db :=
  .of_ids le_rfl rfl (.refl _) (.refl _) (.refl _)

/-- A template that is still there was there in between. -/
theorem StillHas.split {template : UUID} (h₀ : db₀.Keyed) (h : db₀.BuiltinsStay db)
    (h' : db.BuiltinsStay db') (hhas : db₀.StillHas db' template) :
    db₀.StillHas db template ∧ db.StillHas db' template := by
  obtain ⟨⟨t₀, ht₀, hid₀⟩, t', ht', hid'⟩ := hhas
  have hlt : t'.id < db.nextId := by
    rw [hid', ← hid₀]
    exact (h₀.templateFresh t₀ ht₀).trans_le h.next
  obtain ⟨t, ht, hid⟩ := h'.old t' ht' hlt
  have hbetween : ∃ t ∈ db.templates, t.id = template := ⟨t, ht, hid.trans hid'⟩
  exact ⟨⟨⟨t₀, ht₀, hid₀⟩, hbetween⟩, hbetween, ⟨t', ht', hid'⟩⟩

theorem BuiltinsStay.trans (h₀ : db₀.Keyed) (h : db₀.BuiltinsStay db) (h' : db.BuiltinsStay db') :
    db₀.BuiltinsStay db' where
  next := h.next.trans h'.next
  old t' ht' hlt := by
    obtain ⟨t, ht, hid⟩ := h'.old t' ht' (hlt.trans_le h.next)
    obtain ⟨t₀, ht₀, hid₀⟩ := h.old t ht (hid ▸ hlt)
    exact ⟨t₀, ht₀, hid₀.trans hid⟩
  templatesStay t₀ ht₀ hb _ := by
    obtain ⟨t, ht, hb, hid⟩ := h.templatesStay t₀ ht₀ hb trivial
    obtain ⟨t', ht', hb', hid'⟩ := h'.templatesStay t ht hb trivial
    exact ⟨t', ht', hb', hid'.trans hid⟩
  profilesStay p₀ hp₀ hb hhas := by
    obtain ⟨hhas, hhas'⟩ := hhas.split h₀ h h'
    obtain ⟨p, hp, hb, hkey⟩ := h.profilesStay p₀ hp₀ hb hhas
    rw [← show p.templateId = p₀.templateId from congrArg Prod.snd hkey] at hhas'
    obtain ⟨p', hp', hb', hkey'⟩ := h'.profilesStay p hp hb hhas'
    exact ⟨p', hp', hb', hkey'.trans hkey⟩
  scenariosStay s₀ hs₀ hb hhas := by
    obtain ⟨hhas, hhas'⟩ := hhas.split h₀ h h'
    obtain ⟨s, hs, hb, hkey⟩ := h.scenariosStay s₀ hs₀ hb hhas
    rw [← show s.templateId = s₀.templateId from congrArg Prod.snd hkey] at hhas'
    obtain ⟨s', hs', hb', hkey'⟩ := h'.scenariosStay s hs hb hhas'
    exact ⟨s', hs', hb', hkey'.trans hkey⟩

theorem KeepsBuiltins.refl (db : Database) : db.KeepsBuiltins db where
  toBuiltinsStay := .refl db
  templates := .refl _
  registers _ _ _ := rfl
  profiles := .refl _
  scenarios := .refl _

theorem KeepsBuiltins.trans (h₀ : db₀.Keyed) (h : db₀.KeepsBuiltins db)
    (h' : db.KeepsBuiltins db') : db₀.KeepsBuiltins db' where
  toBuiltinsStay := h.toBuiltinsStay.trans h₀ h'.toBuiltinsStay
  templates := h.templates.trans h'.templates
  registers t ht hb := by
    obtain ⟨t₁, ht₁, hb₁, hid, -⟩ := h'.templates t ht hb
    rw [h'.registers t ht hb, ← hid, h.registers t₁ ht₁ hb₁]
  profiles := h.profiles.trans h'.profiles
  scenarios := h.scenarios.trans h'.scenarios

end Database

namespace Services

/-- The calls that write templates, profiles and scenarios, and the system import. -/
inductive LibraryCall
  | createTemplate (data : TemplateCreate) (e : String)
  | updateTemplate (template : UUID) (data : TemplateUpdate) (e : String)
  | deleteTemplate (template : UUID)
  | cloneTemplate (template : UUID) (newName : Option String) (e : String)
  | importTemplateFile (data : TemplateCreate) (e : String)
  | createProfile (data : SimulationProfileCreate) (e : String)
  | updateProfile (profile : UUID) (data : SimulationProfileUpdate) (newFirst : Bool) (e : String)
  | deleteProfile (profile : UUID)
  | importProfile (template : UUID) (data : ProfileFile) (e : String)
  | createScenario (data : ScenarioCreate)
  | updateScenario (scenario : UUID) (data : ScenarioUpdate)
  | deleteScenario (scenario : UUID)
  | importScenario (data : ScenarioExport)
  | importSystem (data : SystemImport)

namespace LibraryCall

def perform (db : Database) : LibraryCall → Except RequestError Database
  | createTemplate data e => Services.createTemplate db data false e
  | updateTemplate template data e => Services.updateTemplate db template data e
  | deleteTemplate template => (Services.deleteTemplate db template).mapError .app
  | cloneTemplate template newName e => Services.cloneTemplate db template newName e
  | importTemplateFile data e => Services.importTemplateFile db data e
  | createProfile data e => (Services.createProfile db data e).mapError .app
  | updateProfile profile data newFirst e =>
    (Services.updateProfile db profile data newFirst e).mapError .app
  | deleteProfile profile => (Services.deleteProfile db profile).mapError .app
  | importProfile template data e => Services.importProfile db template data e
  | createScenario data => Services.createScenario db data false
  | updateScenario scenario data => Services.updateScenario db scenario data
  | deleteScenario scenario => (Services.deleteScenario db scenario).mapError .app
  | importScenario data => Services.importScenario db data
  | importSystem data => (Services.importSystem db data).map (·.1)

/-- A call that raises leaves the database as it was. -/
def step (db : Database) (call : LibraryCall) : Option Database :=
  match call.perform db with
  | .ok db' => some db'
  | .error _ => some db

/-- An accepted import names a built-in template as a user's only with what is stored. -/
def LeavesBuiltins (db : Database) (data : SystemImport) : Prop :=
  (Services.importSystem db data).isOk → ∀ t ∈ db.templates, t.isBuiltin →
    ∀ e, lastUser data.templates t.name = some e →
      e.protocol = t.protocol ∧ ∀ name,
        (Table.find RegisterExport.name e.registers name).map (·.toRow) =
          db.storedRegister t.id name

end LibraryCall

section Templates

variable {db db' : Database} {template : UUID}

theorem safe_createTemplate {data : TemplateCreate} {e : String} (h : db.Identified)
    (hok : createTemplate db data false e = .ok db') :
    db'.Identified ∧ db.KeepsBuiltins db' := by
  obtain ⟨hname, rfl⟩ := createTemplate_ok hok
  have hnext : db.nextId ≤ db.nextId + 1 + (buildRegisters data.registers).length :=
    (Nat.le_succ _).trans (Nat.le_add_right _ _)
  have hnew : db.nextId < db.nextId + 1 + (buildRegisters data.registers).length :=
    (Nat.lt_succ_self _).trans_le (Nat.le_add_right _ _)
  constructor
  · refine h.of_sublist ?_ hnext (.refl _) (.refl _)
    constructor
    · exact Table.nodup_append_new h.templateIds fun t ht => (h.templateFresh t ht).ne
    · exact Table.nodup_append_new h.templateNames hname
    · exact h.deviceIds
    · exact h.deviceKeys
    · intro d hd
      obtain ⟨t, ht, hid⟩ := h.deviceTemplates d hd
      exact ⟨t, List.mem_append_left _ ht, hid⟩
    · intro t ht
      rcases List.mem_append.1 ht with ht | ht
      · exact (h.templateFresh t ht).trans_le hnext
      · rw [List.mem_singleton.1 ht]
        exact hnew
    · exact fun d hd => (h.deviceFresh d hd).trans_le hnext
    · intro r hr
      rcases List.mem_append.1 hr with hr | hr
      · exact (h.registerFresh r hr).trans_le hnext
      · rw [registerRows_template hr]
        exact hnew
  · constructor
    · refine ⟨hnext, fun t ht hlt => ?_, Table.stays_append _, .refl _, .refl _⟩
      rcases List.mem_append.1 ht with ht | ht
      · exact ⟨t, ht, rfl⟩
      · rw [List.mem_singleton.1 ht] at hlt
        exact absurd hlt (lt_irrefl _)
    · exact Table.keeps_append rfl
    · intro t ht hb
      rcases List.mem_append.1 ht with ht | ht
      · funext name
        rw [Database.storedRegister, Database.registerNamed, Table.find_append,
          find_registerRows_of_ne (h.templateFresh t ht).ne, Option.or_none]
        rfl
      · rw [List.mem_singleton.1 ht] at hb
        cases hb
    · exact .refl _
    · exact .refl _

theorem safe_updateTemplate {data : TemplateUpdate} {e : String} (h : db.Identified)
    (hok : updateTemplate db template data e = .ok db') :
    db'.Identified ∧ db.KeepsBuiltins db' := by
  have hkeyed := h.toKeyed.updateTemplate hok
  obtain ⟨t₀, hfound, hbuiltin, -, -, -, rfl⟩ := updateTemplate_ok hok
  have hnext : db.nextId ≤ db.nextId + (buildRegisters data.registers).length :=
    Nat.le_add_right _ _
  -- the row under the id is the user's
  have hold : ∀ t ∈ db.templates, t.isBuiltin → t.id ≠ template := fun t ht hb =>
    Table.ne_of_find (·.isBuiltin) h.templateIds hfound (by simp [hbuiltin]) ht hb
  constructor
  · exact h.of_sublist hkeyed hnext (.refl _) (.refl _)
  · constructor
    · exact .of_ids hnext (Table.map_update fun _ => rfl)
        (Table.stays_update (fun _ => rfl) fun _ => rfl) (.refl _) (.refl _)
    · exact Table.keeps_update (fun _ => rfl) (fun _ => rfl)
        fun t ht hid hb => absurd hid (hold t ht hb)
    · intro t' ht' hb
      obtain ⟨t, ht, rfl⟩ := List.mem_map.1 ht'
      have hne : t.id ≠ template := by
        refine hold t ht ?_
        split at hb <;> exact hb
      funext name
      rw [if_neg hne, Database.storedRegister, Database.registerNamed, Table.find_append,
        find_registerRows_of_ne hne, Option.or_none]
      have hfilter := @Table.find_filter _ _ _ RegisterDefinition.key db.registers (t.id, name) _ _
        Prod.fst template
      rw [if_neg hne] at hfilter
      exact congrArg (Option.map RegisterDefinition.bare) hfilter
    · exact .refl _
    · exact .refl _

theorem safe_deleteTemplate (h : db.Identified) (hok : deleteTemplate db template = .ok db') :
    db'.Identified ∧ db.KeepsBuiltins db' := by
  have hkeyed := h.toKeyed.deleteTemplate hok
  obtain ⟨t₀, hfound, hbuiltin, -, rfl⟩ := deleteTemplate_ok hok
  -- a row whose template is still there is not of the deleted one
  have hhas : ∀ i, db.StillHas (deleteTemplateRow db template) i → i ≠ template := by
    rintro i ⟨-, t, ht, rfl⟩
    simpa using List.of_mem_filter ht
  constructor
  · exact h.of_sublist hkeyed le_rfl List.filter_sublist List.filter_sublist
  · constructor
    · constructor
      · exact le_rfl
      · exact fun t ht _ => ⟨t, List.mem_of_mem_filter ht, rfl⟩
      · refine Table.stays_filter fun t ht hb _ => decide_eq_true ?_
        exact Table.ne_of_find (·.isBuiltin) h.templateIds hfound (by simp [hbuiltin]) ht hb
      · exact Table.stays_filter fun p _ _ hp => decide_eq_true (hhas _ hp)
      · exact Table.stays_filter fun s _ _ hs => decide_eq_true (hhas _ hs)
    · exact Table.keeps_filter _
    · intro t ht hb
      have hne : t.id ≠ template := by simpa using List.of_mem_filter ht
      funext name
      have hfilter := @Table.find_filter _ _ _ RegisterDefinition.key db.registers (t.id, name) _ _
        Prod.fst template
      rw [if_neg hne] at hfilter
      exact congrArg (Option.map RegisterDefinition.bare) hfilter
    · exact Table.keeps_filter _
    · exact Table.keeps_filter _

end Templates

section Profiles

variable {db db' : Database}

/-- A write to the profiles that keeps their ids, gives new ones from the next id on, and leaves
the built-in ones and their configs. -/
theorem safe_profiles {profiles : List SimulationProfile} {next : UUID} (h : db.Identified)
    (hnext : db.nextId ≤ next) (hids : (profiles.map (·.id)).Nodup)
    (hfresh : ∀ p ∈ profiles, p.id < next)
    (hkeeps : Table.Keeps SimulationProfile.id (·.isBuiltin) (·.configs) db.simulationProfiles
      profiles)
    (hstays : ∀ P, Table.Stays (fun p : SimulationProfile => (p.id, p.templateId)) (·.isBuiltin) P
      db.simulationProfiles profiles) :
    ({ db with simulationProfiles := profiles, nextId := next } : Database).Identified ∧
      db.KeepsBuiltins { db with simulationProfiles := profiles, nextId := next } := by
  constructor
  · exact {
      toKeyed := h.toKeyed.of_same rfl rfl rfl hnext
      profileIds := hids
      profileFresh := hfresh
      scenarioIds := h.scenarioIds
      scenarioFresh := fun s hs => (h.scenarioFresh s hs).trans_le hnext }
  · exact ⟨.of_ids hnext rfl (.refl _) (hstays _) (.refl _), .refl _, fun _ _ _ => rfl, hkeeps,
      .refl _⟩

theorem ids_clearExistingDefault (template : UUID) :
    (clearExistingDefault db template).simulationProfiles.map (·.id) =
      db.simulationProfiles.map (·.id) := by
  rw [clearExistingDefault, List.map_map]
  refine List.map_congr_left fun p _ => ?_
  rw [Function.comp_apply]
  split <;> rfl

theorem safe_clearExistingDefault (h : db.Identified) (template : UUID) :
    (clearExistingDefault db template).Identified ∧
      db.KeepsBuiltins (clearExistingDefault db template) := by
  refine safe_profiles h le_rfl ?_ ?_ ?_ fun P => ?_
  · exact @ids_clearExistingDefault db template ▸ h.profileIds
  · intro p' hp'
    obtain ⟨p, hp, rfl⟩ := List.mem_map.1 hp'
    have hlt := h.profileFresh p hp
    split <;> exact hlt
  · apply Table.keeps_map
    · intro p _
      split <;> rfl
    · intro p _
      split <;> rfl
    · intro p _ _
      split <;> rfl
  · apply Table.stays_map
    · intro p _
      split <;> rfl
    · intro p _
      split <;> rfl

theorem commitOrRaiseConflict_ok {name e : String}
    (hok : commitOrRaiseConflict db name e = .ok db') : db' = db := by
  simp only [commitOrRaiseConflict, andThen_ok_iff] at hok
  exact (Except.ok.inj hok.2.2).symm

theorem safe_appendProfile (h : db.Identified) {p : SimulationProfile} (hid : p.id = db.nextId)
    (hb : p.isBuiltin = false) :
    ({ db with
        simulationProfiles := db.simulationProfiles ++ [p], nextId := db.nextId + 1 } :
      Database).Identified ∧
      db.KeepsBuiltins { db with
        simulationProfiles := db.simulationProfiles ++ [p], nextId := db.nextId + 1 } := by
  refine safe_profiles h (Nat.le_succ _) ?_ ?_ (Table.keeps_append hb)
    fun P => Table.stays_append _
  · exact Table.nodup_append_new h.profileIds fun q hq => hid ▸ (h.profileFresh q hq).ne
  · intro q hq
    rcases List.mem_append.1 hq with hq | hq
    · exact (h.profileFresh q hq).trans (Nat.lt_succ_self _)
    · rw [List.mem_singleton.1 hq, hid]
      exact Nat.lt_succ_self db.nextId

theorem safe_createProfile {data : SimulationProfileCreate} {e : String} (h : db.Identified)
    (hok : createProfile db data e = .ok db') :
    db'.Identified ∧ db.KeepsBuiltins db' := by
  simp only [createProfile, bind_ok_iff] at hok
  obtain ⟨-, -, hok⟩ := hok
  obtain rfl := commitOrRaiseConflict_ok hok
  by_cases hdefault : data.isDefault
  · simp only [hdefault, if_true]
    obtain ⟨hclear, hkeeps⟩ := safe_clearExistingDefault h data.templateId
    exact ⟨(safe_appendProfile hclear rfl rfl).1,
      hkeeps.trans h.toKeyed (safe_appendProfile hclear rfl rfl).2⟩
  · simp only [hdefault]
    exact safe_appendProfile h rfl rfl

theorem getProfileOr404_ok {profile : UUID} {p : SimulationProfile}
    (hok : getProfileOr404 db profile = .ok p) :
    Table.find SimulationProfile.id db.simulationProfiles profile = some p := by
  rw [getProfileOr404] at hok
  split at hok
  next hfound => exact hfound.trans (congrArg some (Except.ok.inj hok))
  next => cases hok

/-- The update keeps the configs of a built-in profile. -/
theorem safe_applyProfileUpdate (h : db.Identified) {profile : UUID}
    {data : SimulationProfileUpdate}
    (hdata : ∀ p ∈ db.simulationProfiles, p.id = profile → p.isBuiltin → data.configs = none) :
    let db' := { db with
      simulationProfiles :=
        Table.update SimulationProfile.id db.simulationProfiles profile data.apply }
    db'.Identified ∧ db.KeepsBuiltins db' := by
  refine safe_profiles h le_rfl ?_ ?_ (Table.keeps_update (fun _ => rfl) (fun _ => rfl) ?_)
    fun P => Table.stays_update (fun _ => rfl) fun _ => rfl
  · have hids : (Table.update SimulationProfile.id db.simulationProfiles profile data.apply).map
        (·.id) = db.simulationProfiles.map (·.id) := Table.map_update fun _ => rfl
    exact hids ▸ h.profileIds
  · intro p' hp'
    obtain ⟨p, hp, rfl⟩ := List.mem_map.1 hp'
    have hlt := h.profileFresh p hp
    split <;> exact hlt
  · intro p hp hid hb
    rw [SimulationProfileUpdate.apply, hdata p hp hid hb]
    rfl

theorem safe_updateProfile {profile : UUID} {data : SimulationProfileUpdate} {newFirst : Bool}
    {e : String} (h : db.Identified) (hok : updateProfile db profile data newFirst e = .ok db') :
    db'.Identified ∧ db.KeepsBuiltins db' := by
  unfold updateProfile at hok
  rw [bind_ok_iff] at hok
  obtain ⟨p, hp, hok⟩ := hok
  simp only [andThen_ok_iff, raiseIf_ok_iff] at hok
  obtain ⟨hguard, -, hok⟩ := hok
  obtain rfl := commitOrRaiseConflict_ok hok
  have hdata : ∀ q ∈ db.simulationProfiles, q.id = profile → q.isBuiltin → data.configs = none := by
    intro q hq hid hb
    by_contra hconfigs
    refine Table.ne_of_find (·.isBuiltin) h.profileIds (getProfileOr404_ok hp)
      (fun hp₀ => ?_) hq hb hid
    simp [hp₀, hconfigs] at hguard
  by_cases hdefault : data.isDefault = some true
  · simp only [hdefault, if_true]
    obtain ⟨hclear, hkeeps⟩ := safe_clearExistingDefault h p.templateId
    obtain ⟨happly, hkeeps'⟩ := @safe_applyProfileUpdate _ hclear profile data
      (fun q' hq' hid hb => by
        obtain ⟨q, hq, rfl⟩ := List.mem_map.1 hq'
        refine hdata q hq ?_ ?_
        · split at hid <;> exact hid
        · split at hb <;> exact hb)
    exact ⟨happly, hkeeps.trans h.toKeyed hkeeps'⟩
  · simp only [hdefault]
    exact safe_applyProfileUpdate h hdata

theorem safe_deleteProfile {profile : UUID} (h : db.Identified)
    (hok : deleteProfile db profile = .ok db') : db'.Identified ∧ db.KeepsBuiltins db' := by
  simp only [deleteProfile, bind_ok_iff] at hok
  obtain ⟨p₀, hp₀, _, hguard, hok⟩ := hok
  obtain rfl := Except.ok.inj hok
  rw [raiseIf_ok_iff] at hguard
  refine safe_profiles h le_rfl (h.profileIds.sublist (List.filter_sublist.map _))
    (fun p hp => h.profileFresh p (List.mem_of_mem_filter hp)) (Table.keeps_filter _) fun P => ?_
  refine Table.stays_filter fun p hp hb _ => decide_eq_true ?_
  exact Table.ne_of_find (·.isBuiltin) h.profileIds (getProfileOr404_ok hp₀) hguard hp hb

theorem safe_importProfile {template : UUID} {data : ProfileFile} {e : String} (h : db.Identified)
    (hok : importProfile db template data e = .ok db') : db'.Identified ∧ db.KeepsBuiltins db' := by
  simp only [importProfile, bind_ok_iff] at hok
  obtain ⟨-, -, -, -, configs, -, hok⟩ := hok
  split at hok
  next => exact safe_createProfile h ((mapError_ok_iff _ _ _).1 hok)
  next => cases hok

end Profiles

section Scenarios

variable {db db' : Database} {scenario : UUID}

/-- A write to the scenarios that keeps their ids, gives new ones from the next id on, and
leaves the built-in ones and their steps. -/
theorem safe_scenarios {scenarios : List Scenario} {next : UUID} (h : db.Identified)
    (hnext : db.nextId ≤ next) (hids : (scenarios.map (·.id)).Nodup)
    (hfresh : ∀ s ∈ scenarios, s.id < next)
    (hkeeps : Table.Keeps Scenario.id (·.isBuiltin) (·.steps) db.scenarios scenarios)
    (hstays : ∀ P, Table.Stays (fun s : Scenario => (s.id, s.templateId)) (·.isBuiltin) P
      db.scenarios scenarios) :
    ({ db with scenarios, nextId := next } : Database).Identified ∧
      db.KeepsBuiltins { db with scenarios, nextId := next } := by
  constructor
  · exact {
      toKeyed := h.toKeyed.of_same rfl rfl rfl hnext
      profileIds := h.profileIds
      profileFresh := fun p hp => (h.profileFresh p hp).trans_le hnext
      scenarioIds := hids
      scenarioFresh := hfresh }
  · exact ⟨.of_ids hnext rfl (.refl _) (.refl _) (hstays _), .refl _, fun _ _ _ => rfl, .refl _,
      hkeeps⟩

theorem safe_createScenario {data : ScenarioCreate} (h : db.Identified)
    (hok : createScenario db data false = .ok db') : db'.Identified ∧ db.KeepsBuiltins db' := by
  simp only [createScenario, bind_ok_iff] at hok
  obtain ⟨-, -, -, -, -, -, hok⟩ := hok
  obtain rfl := Except.ok.inj hok
  have hnext : db.nextId ≤ db.nextId + 1 + data.steps.length :=
    (Nat.le_succ _).trans (Nat.le_add_right _ _)
  refine safe_scenarios h hnext ?_ ?_ (Table.keeps_append rfl) fun P => Table.stays_append _
  · exact Table.nodup_append_new h.scenarioIds fun s hs => (h.scenarioFresh s hs).ne
  · intro s hs
    rcases List.mem_append.1 hs with hs | hs
    · exact (h.scenarioFresh s hs).trans_le hnext
    · rw [List.mem_singleton.1 hs]
      exact (Nat.lt_succ_self db.nextId).trans_le (Nat.le_add_right _ _)

theorem getScenarioOr404_ok {s : Scenario} (hok : getScenarioOr404 db scenario = .ok s) :
    Table.find Scenario.id db.scenarios scenario = some s := by
  rw [getScenarioOr404] at hok
  split at hok
  next hfound => exact hfound.trans (congrArg some (Except.ok.inj hok))
  next => cases hok

theorem safe_updateScenario {data : ScenarioUpdate} (h : db.Identified)
    (hok : updateScenario db scenario data = .ok db') :
    db'.Identified ∧ db.KeepsBuiltins db' := by
  simp only [updateScenario, bind_ok_iff, mapError_ok_iff] at hok
  obtain ⟨s₀, hs₀, _, hguard, -, -, -, -, -, -, hok⟩ := hok
  obtain rfl := Except.ok.inj hok
  rw [raiseIf_ok_iff] at hguard
  refine safe_scenarios h (Nat.le_add_right _ _) ?_ ?_
    (Table.keeps_update (fun _ => rfl) (fun _ => rfl) ?_)
    fun P => Table.stays_update (fun _ => rfl) fun _ => rfl
  · have hids : (Table.update Scenario.id db.scenarios scenario fun s => { s with
        name := data.name
        description := data.description
        totalDurationSeconds := computeTotalDuration data.steps
        steps := scenarioSteps db.nextId data.steps }).map (·.id) = db.scenarios.map (·.id) :=
      Table.map_update fun _ => rfl
    exact hids ▸ h.scenarioIds
  · intro s' hs'
    obtain ⟨s, hs, rfl⟩ := List.mem_map.1 hs'
    have hlt := (h.scenarioFresh s hs).trans_le (Nat.le_add_right db.nextId data.steps.length)
    split <;> exact hlt
  · intro s hs hid hb
    -- the row under the id is the one that the guard has seen
    have hfound := getScenarioOr404_ok hs₀
    exact absurd hid (Table.ne_of_find (·.isBuiltin) h.scenarioIds hfound hguard hs hb)

theorem safe_deleteScenario (h : db.Identified) (hok : deleteScenario db scenario = .ok db') :
    db'.Identified ∧ db.KeepsBuiltins db' := by
  simp only [deleteScenario, bind_ok_iff] at hok
  obtain ⟨s₀, hs₀, _, hguard, hok⟩ := hok
  obtain rfl := Except.ok.inj hok
  rw [raiseIf_ok_iff] at hguard
  refine safe_scenarios h le_rfl (h.scenarioIds.sublist (List.filter_sublist.map _))
    (fun s hs => h.scenarioFresh s (List.mem_of_mem_filter hs)) (Table.keeps_filter _) fun P => ?_
  refine Table.stays_filter fun s hs hb _ => decide_eq_true ?_
  exact Table.ne_of_find (·.isBuiltin) h.scenarioIds (getScenarioOr404_ok hs₀) hguard hs hb

theorem safe_importScenario {data : ScenarioExport} (h : db.Identified)
    (hok : importScenario db data = .ok db') : db'.Identified ∧ db.KeepsBuiltins db' := by
  unfold importScenario at hok
  split at hok
  next => cases hok
  next => exact safe_createScenario h hok

end Scenarios

section Import

variable {db₀ db db' : Database} {data : SystemImport} {s₁ s₂ s₃ s₄ : ImportState}

theorem Imported.identified (h : db.Identified) (himport : Imported db data db' s₁ s₂ s₃ s₄) :
    db'.Identified where
  toKeyed := himport.keyed
  profileIds := himport.profiles_eq ▸ h.profileIds
  profileFresh p hp := (h.profileFresh p (himport.profiles_eq ▸ hp)).trans_le himport.next
  scenarioIds := himport.scenarios_eq ▸ h.scenarioIds
  scenarioFresh s hs := (h.scenarioFresh s (himport.scenarios_eq ▸ hs)).trans_le himport.next

/-- A built-in template of the database is there after an import. -/
theorem Imported.builtin_after (h : db.Keyed) (himport : Imported db data db' s₁ s₂ s₃ s₄)
    {t : DeviceTemplate} (ht : t ∈ db.templates) (hb : t.isBuiltin) :
    ∃ t' ∈ db'.templates, t'.isBuiltin ∧ AfterImport db data db' t t' := by
  have hnamed := h.templateNamed_iff.2 ⟨ht, rfl⟩
  obtain ⟨t', ht', -⟩ := himport.templates.kept _ _ hnamed
  rw [← himport.templateNamed_eq] at ht'
  obtain ⟨hafter, hbuiltin⟩ := himport.afterImport hnamed ht'
  exact ⟨t', Table.mem_of_find ht', hbuiltin.trans hb, hafter⟩

/-- A built-in template after an import was there before. -/
theorem Imported.builtin_before (himport : Imported db data db' s₁ s₂ s₃ s₄)
    {t' : DeviceTemplate} (ht' : t' ∈ db'.templates) (hb : t'.isBuiltin) :
    ∃ t ∈ db.templates, t.isBuiltin ∧ AfterImport db data db' t t' := by
  have hnamed' := himport.keyed.templateNamed_iff.2 ⟨ht', rfl⟩
  have hbare := himport.templates.named t'.name
  rw [← himport.templateNamed_eq, hnamed'] at hbare
  cases hnamed : db.templateNamed t'.name with
  | some t =>
    obtain ⟨hafter, hbuiltin⟩ := himport.afterImport hnamed hnamed'
    exact ⟨t, Table.mem_of_find hnamed, hbuiltin ▸ hb, hafter⟩
  | none =>
    rw [hnamed] at hbare
    cases hlast : lastUser data.templates t'.name with
    | none =>
      rw [hlast] at hbare
      cases hbare
    | some e =>
      rw [hlast] at hbare
      have hfalse : t'.isBuiltin = false :=
        congrArg DeviceTemplate.isBuiltin (Option.some.inj hbare)
      rw [hfalse] at hb
      cases hb

/-- An import deletes no template, and gives new ones new ids. -/
theorem Imported.builtinsStay (h : db.Keyed) (himport : Imported db data db' s₁ s₂ s₃ s₄) :
    db.BuiltinsStay db' where
  next := himport.next
  old t' ht' hlt := by
    have hnamed' := himport.keyed.templateNamed_iff.2 ⟨ht', rfl⟩
    cases hnamed : db.templateNamed t'.name with
    | some t =>
      obtain ⟨hafter, -⟩ := himport.afterImport hnamed hnamed'
      exact ⟨t, Table.mem_of_find hnamed, hafter.id.symm⟩
    | none =>
      rw [himport.templateNamed_eq] at hnamed'
      exact absurd hlt (himport.templates.created _ _ hnamed hnamed').not_gt
  templatesStay t ht hb _ := by
    obtain ⟨t', ht', hb', hafter⟩ := himport.builtin_after h ht hb
    exact ⟨t', ht', hb', hafter.id⟩
  profilesStay := himport.profiles_eq ▸ .refl _
  scenariosStay := himport.scenarios_eq ▸ .refl _

theorem Imported.keepsBuiltins_iff (h₀ : db₀.Keyed) (hkeeps : db₀.KeepsBuiltins db) (h : db.Keyed)
    (himport : Imported db data db' s₁ s₂ s₃ s₄) :
    db₀.KeepsBuiltins db' ↔ ∀ t ∈ db.templates, t.isBuiltin →
      ∀ e, lastUser data.templates t.name = some e →
        e.protocol = t.protocol ∧ ∀ name,
          (Table.find RegisterExport.name e.registers name).map (·.toRow) =
            db.storedRegister t.id name := by
  constructor
  · intro hafter t ht hb e he
    obtain ⟨t', ht', hb', hrow⟩ := himport.builtin_after h ht hb
    have hprotocol := hrow.protocol
    have hregisters := hrow.registers
    rw [he] at hprotocol
    simp only [he] at hregisters
    obtain ⟨u, hu, -, huid, huprotocol⟩ := hkeeps.templates t ht hb
    obtain ⟨u', hu', -, huid', huprotocol'⟩ := hafter.templates t' ht' hb'
    have hsame : u' = u := h₀.template_ext hu' hu (huid'.trans (hrow.id.trans huid.symm))
    refine ⟨?_, fun name => ?_⟩
    · calc
        e.protocol = t'.protocol := hprotocol.symm
        _ = u'.protocol := huprotocol'.symm
        _ = u.protocol := by rw [hsame]
        _ = t.protocol := huprotocol
    · rw [← hregisters name, ← hrow.id, hafter.registers t' ht' hb', hrow.id,
        hkeeps.registers t ht hb]
  · intro hguard
    refine hkeeps.trans h₀ ⟨himport.builtinsStay h, ?_, ?_, ?_, ?_⟩
    · intro t' ht' hb'
      obtain ⟨t, ht, hb, hrow⟩ := himport.builtin_before ht' hb'
      refine ⟨t, ht, hb, hrow.id.symm, ?_⟩
      have hprotocol := hrow.protocol
      cases hlast : lastUser data.templates t.name with
      | none =>
        rw [hlast] at hprotocol
        exact hprotocol.symm
      | some e =>
        rw [hlast] at hprotocol
        exact (hguard t ht hb e hlast).1.symm.trans hprotocol.symm
    · intro t' ht' hb'
      obtain ⟨t, ht, hb, hrow⟩ := himport.builtin_before ht' hb'
      funext name
      rw [hrow.id, hrow.registers name]
      cases hlast : lastUser data.templates t.name with
      | none => rfl
      | some e => exact (hguard t ht hb e hlast).2 name
    · rw [himport.profiles_eq]
      exact .refl _
    · rw [himport.scenarios_eq]
      exact .refl _

end Import

namespace LibraryCall

variable {db₀ db db' : Database} {call : LibraryCall}

theorem safe_perform (h : db.Identified) (hno : ∀ data, call ≠ .importSystem data)
    (hok : call.perform db = .ok db') : db'.Identified ∧ db.KeepsBuiltins db' := by
  cases call with
  | createTemplate data e => exact safe_createTemplate h hok
  | updateTemplate template data e => exact safe_updateTemplate h hok
  | deleteTemplate template => exact safe_deleteTemplate h ((mapError_ok_iff _ _ _).1 hok)
  | cloneTemplate template newName e =>
    obtain ⟨data, hok⟩ := cloneTemplate_ok hok
    exact safe_createTemplate h hok
  | importTemplateFile data e => exact safe_createTemplate h hok
  | createProfile data e => exact safe_createProfile h ((mapError_ok_iff _ _ _).1 hok)
  | updateProfile profile data newFirst e =>
    exact safe_updateProfile h ((mapError_ok_iff _ _ _).1 hok)
  | deleteProfile profile => exact safe_deleteProfile h ((mapError_ok_iff _ _ _).1 hok)
  | importProfile template data e => exact safe_importProfile h hok
  | createScenario data => exact safe_createScenario h hok
  | updateScenario scenario data => exact safe_updateScenario h hok
  | deleteScenario scenario => exact safe_deleteScenario h ((mapError_ok_iff _ _ _).1 hok)
  | importScenario data => exact safe_importScenario h hok
  | importSystem data => exact absurd rfl (hno data)

theorem step_cases (hstep : step db call = some db') : db' = db ∨ call.perform db = .ok db' := by
  unfold step at hstep
  split at hstep
  next hok => exact Or.inr (hok.trans (congrArg Except.ok (Option.some.inj hstep)))
  next => exact Or.inl (Option.some.inj hstep).symm

theorem perform_importSystem {data : SystemImport}
    (hok : (importSystem data).perform db = .ok db') :
    ∃ r, Services.importSystem db data = .ok (db', r) := by
  simp only [perform] at hok
  cases hs : Services.importSystem db data with
  | error e =>
    rw [hs] at hok
    cases hok
  | ok result =>
    rw [hs] at hok
    obtain rfl := Except.ok.inj hok
    exact ⟨result.2, rfl⟩

theorem identified_step (h : db.Identified) (hstep : step db call = some db') :
    db'.Identified := by
  rcases step_cases hstep with rfl | hok
  · exact h
  · by_cases hno : ∀ data, call ≠ .importSystem data
    · exact (safe_perform h hno hok).1
    · push Not at hno
      obtain ⟨data, rfl⟩ := hno
      obtain ⟨r, hs⟩ := perform_importSystem hok
      obtain ⟨s₁, s₂, s₃, s₄, himport⟩ := imported_of_importSystem h.toKeyed hs
      exact himport.identified h

theorem keepsBuiltins_step_iff (h₀ : db₀.Keyed) (h : db.Identified)
    (hkeeps : db₀.KeepsBuiltins db) (hstep : step db call = some db') :
    db₀.KeepsBuiltins db' ↔ ∀ data, call = .importSystem data → LeavesBuiltins db data := by
  by_cases hno : ∀ data, call ≠ .importSystem data
  · refine iff_of_true ?_ fun data hcall => absurd hcall (hno data)
    rcases step_cases hstep with rfl | hok
    · exact hkeeps
    · exact hkeeps.trans h₀ (safe_perform h hno hok).2
  · push Not at hno
    obtain ⟨data, rfl⟩ := hno
    simp only [importSystem.injEq, forall_eq']
    cases hs : Services.importSystem db data with
    | error e =>
      have hsame : db' = db := by
        rw [step, perform, hs] at hstep
        exact (Option.some.inj hstep).symm
      rw [hsame]
      refine iff_of_true hkeeps fun hok => ?_
      rw [hs] at hok
      cases hok
    | ok result =>
      have hdb : result.1 = db' := by
        rw [step, perform, hs] at hstep
        exact Option.some.inj hstep
      obtain ⟨s₁, s₂, s₃, s₄, himport⟩ := imported_of_importSystem (r := result.2) h.toKeyed hs
      rw [← hdb, himport.keepsBuiltins_iff h₀ hkeeps h.toKeyed]
      refine ⟨fun hguard _ => hguard, fun hguard => hguard ?_⟩
      rw [hs]
      rfl

theorem always_keepsBuiltins_iff (h₀ : db₀.Identified) (calls : List LibraryCall) :
    Always step db₀.KeepsBuiltins db₀ calls ↔
      EachStep step (fun db call _ => ∀ data, call = .importSystem data → LeavesBuiltins db data)
        db₀ calls :=
  always_iff_eachStep (J := Database.Identified) (fun _ _ _ h hstep => identified_step h hstep)
    (fun _ _ _ h hkeeps hstep => keepsBuiltins_step_iff h₀.toKeyed h hkeeps hstep) h₀ (.refl db₀)

/-- A built-in template with one register. -/
def seeded : Database where
  templates := [⟨0, "Meter", .modbusTcp, none, true⟩]
  registers := [⟨1, 0, "voltage", 0, 3, .uint16, .bigEndian, .fin false 1, none, none, 0, none⟩]
  nextId := 2

theorem identified_seeded : seeded.Identified := by
  constructor <;> first | decide | (constructor <;> decide)

/-- A document that lists a template under the built-in one's name. -/
def meterListing (isBuiltin : Bool) : SystemImport where
  version := "1.0"
  templates := [{ name := "Meter", protocol := .modbusTcp, isBuiltin, registers := [] }]
  version_valid := rfl

/-- A delete that is refused, a clone, and an import that lists the template as built-in. -/
theorem always_keepsBuiltins_seeded :
    Always step seeded.KeepsBuiltins seeded [.deleteTemplate 0, .cloneTemplate 0 none "",
      .importSystem (meterListing true)] := by
  refine (always_keepsBuiltins_iff identified_seeded _).2 fun s₁ _ => ⟨fun _ hcall => ?_,
    fun s₂ _ => ⟨fun _ hcall => ?_, fun s₃ _ => ⟨fun data hcall => ?_, trivial⟩⟩⟩
  · cases hcall
  · cases hcall
  · cases hcall
    intro _ t _ _ e he
    simp [lastUser, meterListing] at he

/-- The import goes by the flag in the document: a built-in template loses its registers. -/
theorem import_overwrites_builtin : seeded.Identified ∧
    ¬ Always step seeded.KeepsBuiltins seeded [.importSystem (meterListing false)] := by
  refine ⟨identified_seeded, fun h => ?_⟩
  obtain ⟨hkeeps, -⟩ := h.2 _ rfl
  have hregister := congrFun (hkeeps.registers ⟨0, "Meter", .modbusTcp, none, true⟩
    (List.mem_singleton.2 rfl) rfl) "voltage"
  cases hregister

end LibraryCall

end Services

end GhostMeter
