import GhostMeter.Services.ComputedCycles
import GhostMeter.Services.ScenarioFiles
import GhostMeter.Simulation.IncompleteConfigs

/-! Profiles in files: their export and import, and the blank profile of a template. -/

namespace GhostMeter

open GhostMeter.Lib GhostMeter.Simulation GhostMeter.Schemas

namespace Services

structure ProfileExport where
  name : String
  description : Option String
  templateName : String
  configs : List ConfigEntry

/-- What an import reads of it. -/
def ProfileExport.toFile (file : ProfileExport) : ProfileFile where
  name := file.name
  description := file.description
  configs := file.configs

def exportProfile (db : Database) (profile : UUID) : Except AppException ProfileExport := do
  let p ← getProfileOr404 db profile
  return {
    name := p.name
    description := p.description
    templateName := ((db.findTemplate p.templateId).map (·.name)).getD ""
    configs := p.configs }

def blankConfig (reg : RegisterDefinition) : ConfigEntry where
  registerName := reg.name
  dataMode := .static
  modeParams := []
  isEnabled := true
  updateIntervalMs := 1000

def generateBlankProfile (db : Database) (template : UUID) : Except AppException ProfileExport := do
  let t ← db.getTemplate template
  return {
    name := "My Profile"
    description := none
    templateName := t.name
    configs := ((db.registersOf t.id).mergeSort (·.sortOrder ≤ ·.sortOrder)).map blankConfig }

/-- A profile of `db` goes to a template of `target` by way of a file. -/
def transferProfile (db target : Database) (profile template : UUID) (e : String) :
    Except RequestError Database := do
  let file ← (exportProfile db profile).mapError .app
  importProfile target template file.toFile e

/-- A profile as the API stores it. -/
structure StoredProfile (p : SimulationProfile) : Prop where
  configs : ∀ c ∈ p.configs, ValidConfig c
  stripped : PyString.strip p.name = p.name
  not_empty : p.name ≠ ""
  length : p.name.length ≤ 200

/-- The target has the template, and no such profile of it; a profile without configs is refused. -/
structure ReceivesProfile (target : Database) (template : UUID) (name : String)
    (configs : List ConfigEntry) : Prop where
  configs : configs ≠ []
  known : ∃ t ∈ target.templates, t.id = template
  free : ∀ p ∈ target.simulationProfiles, p.templateId = template → p.name ≠ name

/-- The profile that an import makes. -/
def imported (target : Database) (template : UUID) (name : String) (description : Option String)
    (configs : List ConfigEntry) : SimulationProfile where
  id := target.nextId
  templateId := template
  name := name
  description := description
  isBuiltin := false
  isDefault := false
  configs := configs

def StoredProfiles (db : Database) : Prop := ∀ p ∈ db.simulationProfiles, StoredProfile p

/-- Every profile goes to every template of `target` by way of a file, exactly if `target`
receives it, and gives the same file there. -/
def TransfersProfiles (db target : Database) (e : String) : Prop :=
  ∀ p ∈ db.simulationProfiles, ∀ template,
    ((∃ target', transferProfile db target p.id template e = .ok target') ↔
      ReceivesProfile target template p.name p.configs) ∧
    ∀ target', transferProfile db target p.id template e = .ok target' →
      ∃ p', target' = { target with
          simulationProfiles := target.simulationProfiles ++ [p'], nextId := target.nextId + 1 } ∧
        p'.isBuiltin = false ∧ p'.isDefault = false ∧ p'.templateId = template ∧
        p'.configs = p.configs ∧ StoredProfile p' ∧ ∃ file t, exportProfile db p.id = .ok file ∧
          target.findTemplate template = some t ∧
          exportProfile target' p'.id = .ok { file with templateName := t.name }

section Import

variable {db db' target target' : Database} {template : UUID} {p : SimulationProfile} {e : String}
  {file : ProfileFile} {cfg : ConfigEntry} {c : SimulationConfigCreate}

/-- The schema accepts a config that keeps its rules, and nothing is lost. -/
theorem validateConfig_ok_iff :
    validateConfig cfg = .ok c ↔ ValidConfig cfg ∧ c.toConfigEntry = cfg := by
  unfold validateConfig
  split
  next h =>
    constructor
    · intro hok
      obtain rfl := Except.ok.inj hok
      exact ⟨⟨h.1, h.2.1, h.2.2⟩, rfl⟩
    · rintro ⟨-, rfl⟩
      rfl
  next h =>
    refine iff_of_false (fun hok => by cases hok) ?_
    rintro ⟨hvalid, -⟩
    exact h ⟨hvalid.mode_valid, hvalid.interval_ge, hvalid.interval_le⟩

theorem mapM_validateConfig {configs : List ConfigEntry} (h : ∀ c ∈ configs, ValidConfig c) :
    ∃ created, configs.mapM validateConfig = .ok created ∧
      created.map (·.toConfigEntry) = configs := by
  have hok : ∀ cfg ∈ configs, ∃ c, validateConfig cfg = .ok c := fun cfg hcfg =>
    ⟨_, validateConfig_ok_iff.2 ⟨h cfg hcfg,
      (rfl : (SimulationConfigCreate.mk cfg (h cfg hcfg).mode_valid (h cfg hcfg).interval_ge
        (h cfg hcfg).interval_le).toConfigEntry = cfg)⟩⟩
  obtain ⟨created, hcreated⟩ := mapM_isOk_iff.2 hok
  refine ⟨created, hcreated, ?_⟩
  rw [mapM_ok_iff] at hcreated
  induction hcreated with
  | nil => rfl
  | cons hc _ ih =>
    rw [List.map_cons, (validateConfig_ok_iff.1 hc).2, ih]
    · exact fun c hc => h c (List.mem_cons_of_mem _ hc)
    · exact fun c hc => hok c (List.mem_cons_of_mem _ hc)

theorem profileNames_new_iff (h : target.Consistent) {row : SimulationProfile} :
    ((target.simulationProfiles ++ [row]).map fun p => (p.templateId, p.name)).Nodup ↔
      ∀ p ∈ target.simulationProfiles, p.templateId = row.templateId → p.name ≠ row.name := by
  rw [List.map_append, List.map_singleton, List.nodup_append_comm, List.singleton_append,
    List.nodup_cons, and_iff_left h.profileNames, List.mem_map, not_exists]
  refine forall_congr' fun p => ?_
  rw [not_and]
  refine imp_congr_right fun _ => ⟨fun hne htemplate hname => hne ?_, fun hne heq => ?_⟩
  · exact Prod.ext htemplate hname
  · exact hne (congrArg Prod.fst heq) (congrArg Prod.snd heq)

/-- A profile that is not to be the default. -/
theorem createProfile_ok_iff (h : target.Consistent) {data : SimulationProfileCreate}
    (hdefault : data.isDefault = false) :
    createProfile target data e = .ok target' ↔
      (∃ t ∈ target.templates, t.id = data.templateId) ∧
        (∀ p ∈ target.simulationProfiles, p.templateId = data.templateId → p.name ≠ data.name) ∧
        { target with
          simulationProfiles := target.simulationProfiles ++ [imported target data.templateId
            data.name data.description (data.configs.map (·.toConfigEntry))]
          nextId := target.nextId + 1 } = target' := by
  set row := imported target data.templateId data.name data.description
    (data.configs.map (·.toConfigEntry))
  have hdefaults : (((target.simulationProfiles ++ [row]).filter (·.isDefault)).map
      (·.templateId)).Nodup := by
    rw [List.filter_append, show [row].filter (·.isDefault) = [] from rfl, List.append_nil]
    exact h.profileDefaults
  change _ ↔ _ ∧ (∀ p ∈ target.simulationProfiles, p.templateId = row.templateId →
    p.name ≠ row.name) ∧ _
  rw [← profileNames_new_iff h, createProfile, bind_ok_iff]
  simp only [Database.getTemplate_ok_iff, h.findTemplate_iff, commitOrRaiseConflict,
    andThen_ok_iff, raiseIf_ok_iff, not_not, hdefault, Bool.false_eq_true, if_false]
  constructor
  · rintro ⟨t, ht, hnodup, -, hok⟩
    exact ⟨⟨t, ht⟩, hnodup, Except.ok.inj hok⟩
  · rintro ⟨⟨t, ht⟩, hnodup, heq⟩
    exact ⟨t, ht, hnodup, hdefaults, congrArg Except.ok heq⟩

/-- An import of valid configs under a name that fits. -/
theorem importProfile_ok_iff (h : target.Consistent) (hconfigs : ∀ c ∈ file.configs, ValidConfig c)
    (hname : PyString.strip file.name ≠ "") (hlength : (PyString.strip file.name).length ≤ 200) :
    importProfile target template file e = .ok target' ↔
      ReceivesProfile target template (PyString.strip file.name) file.configs ∧
        { target with
          simulationProfiles := target.simulationProfiles ++ [imported target template
            (PyString.strip file.name) file.description file.configs]
          nextId := target.nextId + 1 } = target' := by
  obtain ⟨created, hcreated, hentries⟩ := mapM_validateConfig hconfigs
  set name := PyString.strip file.name
  have himport : importProfile target template file e = (do
      (raiseIf (name = "") (validationException "Profile name is required")).mapError .app
      (raiseIf (file.configs = []) (validationException
        "Profile must have at least one config entry")).mapError .app
      (createProfile target ⟨template, name, file.description, false, created, hname, hlength⟩
        e).mapError .app) := by
    rw [importProfile, hcreated]
    refine congrArg _ (funext fun _ => congrArg _ (funext fun _ => ?_))
    exact dif_pos ⟨hname, hlength⟩
  have hcreate := @createProfile_ok_iff target target' e h
    ⟨template, name, file.description, false, created, hname, hlength⟩ rfl
  rw [hentries] at hcreate
  rw [himport]
  simp only [andThen_ok_iff, mapError_ok_iff, raiseIf_ok_iff, hcreate]
  constructor
  · rintro ⟨-, hne, hknown, hfree, heq⟩
    exact ⟨⟨hne, hknown, hfree⟩, heq⟩
  · rintro ⟨⟨hne, hknown, hfree⟩, heq⟩
    exact ⟨hname, hne, hknown, hfree, heq⟩

theorem getProfileOr404_ok_iff (h : db.Consistent) {profile : UUID} :
    getProfileOr404 db profile = .ok p ↔ p ∈ db.simulationProfiles ∧ p.id = profile := by
  rw [← Table.find_eq_some_iff h.profileIds, getProfileOr404]
  split
  next hfound => rw [hfound, Except.ok.injEq, Option.some.injEq]
  next hnone =>
    refine iff_of_false (fun hok => by cases hok) fun hfound => ?_
    cases hnone.symm.trans hfound

theorem exportProfile_ok (h : db.Consistent) {t : DeviceTemplate} (hp : p ∈ db.simulationProfiles)
    (ht : db.findTemplate p.templateId = some t) :
    exportProfile db p.id = .ok ⟨p.name, p.description, t.name, p.configs⟩ := by
  rw [exportProfile, bind_ok_iff]
  refine ⟨p, (getProfileOr404_ok_iff h).2 ⟨hp, rfl⟩, ?_⟩
  rw [ht]
  rfl

theorem transfersProfiles_of_consistent (hdb : db.Consistent) (hstored : StoredProfiles db)
    (htarget : target.Consistent) : TransfersProfiles db target e := by
  intro p hp template
  have h := hstored p hp
  obtain ⟨t, ht, hid⟩ := hdb.profileTemplates p hp
  have hexport := exportProfile_ok hdb hp (hdb.findTemplate_iff.2 ⟨ht, hid⟩)
  have heq : transferProfile db target p.id template e =
      importProfile target template ⟨p.name, p.description, p.configs⟩ e := by
    rw [transferProfile, hexport]
    rfl
  have htransfer : ∀ target', transferProfile db target p.id template e = .ok target' ↔
      ReceivesProfile target template p.name p.configs ∧
        { target with
          simulationProfiles := target.simulationProfiles ++
            [imported target template p.name p.description p.configs]
          nextId := target.nextId + 1 } = target' := by
    intro target'
    have himport := @importProfile_ok_iff target target' template e
      ⟨p.name, p.description, p.configs⟩ htarget h.configs (h.stripped.symm ▸ h.not_empty)
      (h.stripped.symm ▸ h.length)
    rw [h.stripped] at himport
    exact heq ▸ himport
  refine ⟨?_, fun target' hok => ?_⟩
  · simp only [htransfer]
    constructor
    · rintro ⟨target', hreceives, -⟩
      exact hreceives
    · exact fun hreceives => ⟨_, hreceives, rfl⟩
  · obtain ⟨hreceives, htarget'⟩ := (htransfer target').1 hok
    have hconsistent : target'.Consistent := by
      obtain ⟨data, hcreate⟩ := importProfile_ok (heq ▸ hok)
      exact consistent_createProfile htarget hcreate
    subst htarget'
    obtain ⟨t', ht', hid'⟩ := hreceives.known
    have hfound := htarget.findTemplate_iff.2 ⟨ht', hid'⟩
    refine ⟨_, rfl, rfl, rfl, rfl, rfl, ⟨h.configs, h.stripped, h.not_empty, h.length⟩, _, t',
      hexport, hfound, ?_⟩
    exact exportProfile_ok hconsistent (List.mem_append_right _ (List.mem_singleton_self _)) hfound

end Import

section Runs

variable {settings : Settings} {db db' target : Database} {p p' : SimulationProfile} {e : String}

theorem StoredProfile.congr (h : StoredProfile p) (hname : p'.name = p.name)
    (hconfigs : p'.configs = p.configs) : StoredProfile p' :=
  ⟨hconfigs ▸ h.configs, hname ▸ h.stripped, hname ▸ h.not_empty, hname ▸ h.length⟩

theorem storedProfiles_clearDefault (h : StoredProfiles db) (template : UUID) :
    StoredProfiles (clearExistingDefault db template) := by
  intro p hp
  obtain ⟨p₀, hp₀, rfl⟩ := List.mem_map.1 hp
  refine (h p₀ hp₀).congr ?_ ?_
  · split <;> rfl
  · split <;> rfl

theorem storedProfiles_create {data : SimulationProfileCreate} (h : StoredProfiles db)
    (hdata : PyString.strip data.name = data.name) (hok : createProfile db data e = .ok db') :
    StoredProfiles db' := by
  simp only [createProfile, bind_ok_iff] at hok
  obtain ⟨-, -, hok⟩ := hok
  obtain rfl := commitOrRaiseConflict_ok hok
  intro p hp
  rcases List.mem_append.1 hp with hp | hp
  · split at hp
    · exact storedProfiles_clearDefault h _ p hp
    · exact h p hp
  · rw [List.mem_singleton.1 hp]
    refine ⟨fun c hc => ?_, hdata, data.name_not_empty, data.name_length⟩
    obtain ⟨created, -, rfl⟩ := List.mem_map.1 hc
    exact validConfig_create created

theorem StoredProfile.apply (h : StoredProfile p) {data : SimulationProfileUpdate}
    (hdata : ∀ name ∈ data.name, PyString.strip name = name) : StoredProfile (data.apply p) := by
  have hname := data.name_not_empty
  have hlength := data.name_length
  refine ⟨fun c hc => ?_, ?_, ?_, ?_⟩
  · rw [SimulationProfileUpdate.apply] at hc
    cases hconfigs : data.configs with
    | none =>
      rw [hconfigs] at hc
      exact h.configs c hc
    | some configs =>
      rw [hconfigs] at hc
      obtain ⟨created, -, rfl⟩ := List.mem_map.1 hc
      exact validConfig_create created
  all_goals
    rw [SimulationProfileUpdate.apply]
    cases hnew : data.name with
    | none => first | exact h.stripped | exact h.not_empty | exact h.length
    | some name =>
      rw [hnew] at hname
      first
        | exact hdata name hnew
        | exact fun heq => hname (congrArg some heq)
        | exact hlength name hnew

theorem storedProfiles_update {profile : UUID} {data : SimulationProfileUpdate} {newFirst : Bool}
    (h : StoredProfiles db) (hdata : ∀ name ∈ data.name, PyString.strip name = name)
    (hok : updateProfile db profile data newFirst e = .ok db') : StoredProfiles db' := by
  simp only [updateProfile, bind_ok_iff] at hok
  obtain ⟨_, -, -, -, -, -, hok⟩ := hok
  obtain rfl := commitOrRaiseConflict_ok hok
  intro p' hp'
  obtain ⟨p, hp, rfl⟩ := List.mem_map.1 hp'
  have hold : StoredProfile p := by
    split at hp
    · exact storedProfiles_clearDefault h _ p hp
    · exact h p hp
  split
  · exact hold.apply hdata
  · exact hold

theorem storedProfiles_import {template : UUID} {file : ProfileFile} (h : StoredProfiles db)
    (hok : importProfile db template file e = .ok db') : StoredProfiles db' := by
  simp only [importProfile, bind_ok_iff] at hok
  obtain ⟨-, -, -, -, configs, -, hok⟩ := hok
  split at hok
  next =>
    have hcreate := (mapError_ok_iff _ _ _).1 hok
    refine storedProfiles_create h ?_ hcreate
    exact PyString.strip_strip file.name
  next => cases hok

theorem ApiCall.storedProfiles_after {call : ApiCall} (hdb : db.Consistent)
    (h : StoredProfiles db) (hdata : call.FromSchema) :
    StoredProfiles (call.after settings db) := by
  cases hwrites : call.writesProfile with
  | false => exact fun p hp => h p (((filesKept_after hdb call).profiles hwrites) p hp)
  | true =>
    cases call with
    | library call =>
      refine committed_of h fun db' hok => ?_
      cases call with
      | createProfile data e => exact storedProfiles_create h hdata ((mapError_ok_iff _ _ _).1 hok)
      | updateProfile profile data newFirst e =>
        exact storedProfiles_update h hdata ((mapError_ok_iff _ _ _).1 hok)
      | importProfile template file e => exact storedProfiles_import h hok
      | _ => cases hwrites
    | _ => cases hwrites

/-- Profiles that the API has written go to any template of any database by way of files. -/
theorem ApiCall.always_transfersProfiles (hdb : db.Consistent) (h : StoredProfiles db)
    {calls : List ApiCall}
    (hdata : EachStep (step settings) (fun _ call _ => call.FromSchema) db calls) :
    Always (step settings)
      (fun db => ∀ target : Database, target.Consistent → ∀ e, TransfersProfiles db target e)
      db calls := by
  refine ⟨fun target htarget e => transfersProfiles_of_consistent hdb h htarget,
    EachStep.guarded (J := fun db => db.Consistent ∧ StoredProfiles db) ?_ ⟨hdb, h⟩ hdata⟩
  rintro db call db' ⟨hdb, h⟩ hstep hcall
  have hdb' := consistent_step hdb hstep
  have h' : StoredProfiles db' := Option.some.inj hstep ▸ storedProfiles_after hdb h hcall
  exact ⟨⟨hdb', h'⟩, fun target htarget e => transfersProfiles_of_consistent hdb' h' htarget⟩

def officeHours : SimulationProfileCreate where
  templateId := 0
  name := "Office hours"
  configs := [{
      registerName := "voltage"
      dataMode := .static
      modeParams := [("value", .int 230)]
      mode_valid := static_known
      interval_ge := default_interval_ge
      interval_le := default_interval_le }, {
      registerName := "current"
      dataMode := .static
      modeParams := [("value", .int 5)]
      isEnabled := false
      mode_valid := static_known
      interval_ge := default_interval_ge
      interval_le := default_interval_le }]
  name_not_empty := by decide
  name_length := by decide

/-- The profile that a call stores goes to a template of another database by way of a file, with
both its configs. -/
theorem ApiCall.always_transfersProfiles_officeHours :
    ∃ target', transferProfile
        (ApiCall.after {} ruledDatabase (.library (.createProfile officeHours ""))) spareDatabase 3
        7 "" = .ok target' ∧
      target'.simulationProfiles.map (·.configs) = [officeHours.configs.map (·.toConfigEntry)] := by
  have hname : PyString.strip officeHours.name = officeHours.name := by decide
  have hrun := @always_transfersProfiles {} _ consistent_ruledDatabase
    (fun _ hp => absurd hp List.not_mem_nil) [.library (.createProfile officeHours "")]
    (fun _ _ => ⟨hname, trivial⟩)
  have hstored := (hrun.2 _ rfl).1 spareDatabase consistent_spareDatabase ""
  set p := imported ruledDatabase 0 officeHours.name none
    (officeHours.configs.map (·.toConfigEntry))
  have hafter : ApiCall.after {} ruledDatabase (.library (.createProfile officeHours "")) =
      { ruledDatabase with simulationProfiles := [p], nextId := 4 } := by
    rfl
  rw [hafter] at hstored ⊢
  obtain ⟨hreceives, hmakes⟩ := hstored p (List.mem_singleton_self _) 7
  have hreceived : ReceivesProfile spareDatabase 7 p.name p.configs := by
    refine ⟨List.cons_ne_nil _ _, ⟨_, List.mem_singleton_self _, rfl⟩, ?_⟩
    exact fun p' hp' => (List.not_mem_nil hp').elim
  obtain ⟨target', hok⟩ := hreceives.2 hreceived
  obtain ⟨p', rfl, -, -, -, hconfigs, -⟩ := hmakes target' hok
  exact ⟨_, hok, congrArg (fun configs => [configs]) hconfigs⟩

end Runs

section Blank

variable {settings : Settings} {db : Database} {t : DeviceTemplate} {e : String}

/-- The registers of a template as the blank profile lists them. -/
def blankConfigs (db : Database) (template : UUID) : List ConfigEntry :=
  ((db.registersOf template).mergeSort (·.sortOrder ≤ ·.sortOrder)).map blankConfig

theorem generateBlankProfile_ok (ht : db.findTemplate t.id = some t) :
    generateBlankProfile db t.id = .ok ⟨"My Profile", none, t.name, blankConfigs db t.id⟩ := by
  rw [generateBlankProfile, Database.getTemplate_ok_iff.2 ht]
  rfl

theorem mem_blankConfigs {template : UUID} {c : ConfigEntry} :
    c ∈ blankConfigs db template ↔ ∃ r ∈ db.registersOf template, blankConfig r = c := by
  rw [blankConfigs, List.mem_map]
  simp only [List.mem_mergeSort]

theorem blankConfigs_eq_nil_iff {template : UUID} :
    blankConfigs db template = [] ↔ db.registersOf template = [] := by
  simp [blankConfigs, ← List.length_eq_zero_iff]

theorem blankConfig_valid (r : RegisterDefinition) : ValidConfig (blankConfig r) :=
  ⟨static_known, default_interval_ge, default_interval_le⟩

theorem blankConfig_incomplete (r : RegisterDefinition) : (blankConfig r).Incomplete :=
  ⟨"value", List.mem_singleton_self _, rfl⟩

theorem registerMap_ne_none {rows : List RegisterDefinition} {r : RegisterDefinition}
    (hr : r ∈ rows) : registerMap rows r.name ≠ none := by
  have hfind : Table.find RegisterDefinition.name rows.reverse r.name ≠ none := fun hnone =>
    Table.find_eq_none_iff.1 hnone r (List.mem_reverse.2 hr) rfl
  obtain ⟨r', hr'⟩ := Option.ne_none_iff_exists'.1 hfind
  have hmap := @Table.foldl_set _ _ _ RegisterDefinition.name rows r.name _
    RegisterDefinition.toMeta Dict.empty
  rw [hr'] at hmap
  intro hnone
  cases hmap.symm.trans hnone

/-- What a device that is created with a profile has. -/
theorem createDevice_profile {db' : Database} {p : SimulationProfile} {data : DeviceCreate}
    {device : UUID} (h : db.Consistent) (hp : p ∈ db.simulationProfiles)
    (hprofile : data.profileId = some (some p.id))
    (hok : createDevice settings db data = (db', .ok device)) :
    db'.configsOf device = p.configs ∧ (db'.findDevice device).isSome ∧
      db'.registers = db.registers := by
  obtain ⟨rows, -, done, happlied⟩ := @createDevice_newDevices db settings h data
  have hregisters : db'.registers = db.registers := by
    have hframe := congrArg (·.registers) happlied.frame
    rwa [hok] at hframe
  rcases createDevice_eq settings db data with ⟨-, e, herror⟩ | ⟨-, row, hid, -, hcreate⟩
  · cases hok.symm.trans herror
  have hrow : createRows db data.templateId data.profileId [row] = (db', .ok [device]) := by
    rw [← hcreate, hok]
    rfl
  have hids : [row].map (·.id) = List.range' db.nextId [row].length := by
    simp [hid]
  by_cases happlies : Resolvable db data.templateId data.profileId
  · obtain ⟨profile, hresolve, hexpand⟩ := happlies
    obtain ⟨db'', hrow', hdevices, -, hconfigs⟩ := createRows_ok hresolve hexpand hids
    obtain ⟨rfl, hdevice⟩ := Prod.mk.inj (hrow'.symm.trans hrow)
    obtain rfl : row.id = device := by simpa using hdevice
    have hfound : db.simulationProfiles.find? (·.id = p.id) = some p :=
      (Table.find_eq_some_iff h.profileIds).2 ⟨hp, rfl⟩
    rw [hprofile, resolveProfile, hfound] at hresolve
    dsimp only at hresolve
    split at hresolve
    · cases hresolve
    obtain rfl := Except.ok.inj hresolve
    refine ⟨?_, ?_, hregisters⟩
    · rw [hconfigs, configsOf_new h.toValid.configFresh hid.ge]
      simp
    · rw [Database.findDevice, Table.find, hdevices]
      simp
  · obtain ⟨e, herror⟩ := createRows_error happlies (by simp) hids
    cases hrow.symm.trans herror

/-- The device that is created with the profile. -/
structure BlankDevice (db : Database) (template : UUID) (db' : Database) (device : UUID) :
    Prop where
  configs : db'.configsOf device = blankConfigs db template
  fails : FailsWithFifthTick device (registerMap (db'.registersOf template))
    (db'.enabledConfigs device)

/-- Such a device has the configs of the blank profile, and none of them has the value that a
static register requires. -/
theorem blankDevice_of_created {db₁ db₂ : Database} {template : UUID} {p : SimulationProfile}
    {data : DeviceCreate} {device : UUID} (h : db₁.Consistent) (hp : p ∈ db₁.simulationProfiles)
    (hconfigs : p.configs = blankConfigs db template) (hnonempty : db.registersOf template ≠ [])
    (hsame : db₁.registersOf template = db.registersOf template)
    (hprofile : data.profileId = some (some p.id))
    (hdevice : createDevice settings db₁ data = (db₂, .ok device)) :
    BlankDevice db template db₂ device := by
  obtain ⟨hblank, hfound, hregisters⟩ := createDevice_profile h hp hprofile hdevice
  rw [hconfigs] at hblank
  refine ⟨hblank, ?_⟩
  have hrows : db₂.registersOf template = db.registersOf template := by
    rw [← hsame, Database.registersOf, hregisters]
    rfl
  obtain ⟨r, hr⟩ := List.exists_mem_of_ne_nil _ hnonempty
  have hmem : blankConfig r ∈ db₂.configsOf device := hblank ▸ mem_blankConfigs.2 ⟨r, hr, rfl⟩
  obtain ⟨c, hc, hentry⟩ := List.mem_map.1 hmem
  have hname : c.registerName = r.name := congrArg ConfigEntry.registerName hentry
  obtain ⟨hc, hdevice⟩ := List.mem_filter.1 hc
  have henabled : c ∈ db₂.enabledConfigs device := by
    rw [Database.enabledConfigs_of_found hfound]
    refine List.mem_filter.2 ⟨hc, decide_eq_true ⟨of_decide_eq_true hdevice, ?_⟩⟩
    exact congrArg ConfigEntry.isEnabled hentry
  refine failsWithFifthTick henabled ?_ ?_
  · rw [hentry]
    exact blankConfig_incomplete r
  · rw [hrows, hname]
    exact registerMap_ne_none hr

/-- An import of the blank profile. -/
theorem importProfile_blank_iff (h : db.Consistent) (ht : t ∈ db.templates) {db₁ : Database} :
    importProfile db t.id ⟨"My Profile", none, blankConfigs db t.id⟩ e = .ok db₁ ↔
      (db.registersOf t.id ≠ [] ∧
        ∀ p ∈ db.simulationProfiles, p.templateId = t.id → p.name ≠ "My Profile") ∧
      { db with
        simulationProfiles := db.simulationProfiles ++ [imported db t.id "My Profile" none
          (blankConfigs db t.id)]
        nextId := db.nextId + 1 } = db₁ := by
  have hstrip : PyString.strip "My Profile" = "My Profile" := by decide
  have himport := @importProfile_ok_iff db db₁ t.id e ⟨"My Profile", none, blankConfigs db t.id⟩ h
    (fun c hc => by obtain ⟨r, -, rfl⟩ := mem_blankConfigs.1 hc; exact blankConfig_valid r)
    (by rw [hstrip]; decide) (by rw [hstrip]; decide)
  simp only [hstrip] at himport
  rw [himport]
  refine and_congr_left fun _ => ?_
  constructor
  · intro hreceives
    exact ⟨fun hnil => hreceives.configs (blankConfigs_eq_nil_iff.2 hnil), hreceives.free⟩
  · rintro ⟨hregisters, hfree⟩
    exact ⟨fun hnil => hregisters (blankConfigs_eq_nil_iff.1 hnil), ⟨t, ht, rfl⟩, hfree⟩

/-- The blank profile of a template can be imported as it is, once, if the template has registers;
a device that is created with it has a config for each register, and ends in error with the fifth
tick of its simulation. -/
theorem blankProfile_fails (h : db.Consistent) (ht : t ∈ db.templates) (e : String) :
    ∃ file, generateBlankProfile db t.id = .ok file ∧
      ((∃ db₁, importProfile db t.id file.toFile e = .ok db₁) ↔ db.registersOf t.id ≠ [] ∧
        ∀ p ∈ db.simulationProfiles, p.templateId = t.id → p.name ≠ "My Profile") ∧
      ∀ db₁, importProfile db t.id file.toFile e = .ok db₁ →
        ∃ p ∈ db₁.simulationProfiles, p.templateId = t.id ∧ p.name = "My Profile" ∧
          ∀ (settings : Settings) (data : DeviceCreate) (db₂ : Database) (device : UUID),
            data.profileId = some (some p.id) →
            createDevice settings db₁ data = (db₂, .ok device) →
              BlankDevice db t.id db₂ device := by
  refine ⟨_, generateBlankProfile_ok (h.findTemplate_iff.2 ⟨ht, rfl⟩), ?_, ?_⟩
  · simp only [ProfileExport.toFile, importProfile_blank_iff h ht]
    constructor
    · rintro ⟨db₁, haccepted, -⟩
      exact haccepted
    · exact fun haccepted => ⟨_, haccepted, rfl⟩
  · intro db₁ hok
    obtain ⟨data, hcreated⟩ := importProfile_ok hok
    have hconsistent := consistent_createProfile h hcreated
    obtain ⟨⟨hregisters, -⟩, rfl⟩ := (importProfile_blank_iff h ht).1 hok
    have hmem := List.mem_append_right db.simulationProfiles (List.mem_singleton_self
      (imported db t.id "My Profile" none (blankConfigs db t.id)))
    refine ⟨_, hmem, rfl, rfl, fun settings data db₂ device hprofile hdevice => ?_⟩
    exact blankDevice_of_created hconsistent hmem rfl hregisters rfl hprofile hdevice

/-- The meter has a register, so its blank profile is imported. -/
theorem blankProfile_fails_meter :
    ∃ file, generateBlankProfile ruledDatabase 0 = .ok file ∧
      ∃ db₁, importProfile ruledDatabase 0 file.toFile "" = .ok db₁ ∧
        ∃ p ∈ db₁.simulationProfiles, p.name = "My Profile" ∧
          ∀ (settings : Settings) (data : DeviceCreate) (db₂ : Database) (device : UUID),
            data.profileId = some (some p.id) →
            createDevice settings db₁ data = (db₂, .ok device) →
              BlankDevice ruledDatabase 0 db₂ device := by
  obtain ⟨file, hfile, himport, hdevices⟩ :=
    blankProfile_fails consistent_ruledDatabase (List.mem_singleton_self _) ""
  have hregisters : ruledDatabase.registersOf 0 ≠ [] := by
    simp [Database.registersOf, ruledDatabase]
  obtain ⟨db₁, hok⟩ := himport.2 ⟨hregisters, fun _ hp => absurd hp List.not_mem_nil⟩
  obtain ⟨p, hp, -, hname, hdevice⟩ := hdevices db₁ hok
  exact ⟨file, hfile, db₁, hok, p, hp, hname, hdevice⟩

end Blank

end Services

end GhostMeter
