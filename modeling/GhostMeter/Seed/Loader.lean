import GhostMeter.Services.Builtins

/-! The built-in templates, profiles and scenarios, as they are loaded at each start. -/

namespace GhostMeter.Seed

open GhostMeter.Lib GhostMeter.Services

/-- A profile file. -/
structure ProfileSeed where
  templateName : String
  name : String
  description : Option String := none
  isDefault : Bool := false
  configs : List ConfigEntry

/-- The files that the schemas accept, in the order of their names. -/
structure SeedFiles where
  templates : List TemplateCreate
  profiles : List ProfileSeed
  scenarios : List ScenarioExport

/-- The loop over the files, in one session: an error is logged.  A commit that has failed leaves
the session unusable where nothing rolls it back. -/
def seedEach {α : Type} (seed : Database → α → Except RequestError Database) :
    Database → List α → Database
  | db, [] => db
  | db, file :: files =>
    match seed db file with
    | .ok db' => seedEach seed db' files
    | .error (.app _) => seedEach seed db files
    | .error .unhandled => db

/-- One round of `seed_builtin_templates`. -/
def seedTemplate (e : String) (db : Database) (file : TemplateCreate) :
    Except RequestError Database :=
  if ∃ t ∈ db.templates, t.name = file.name ∧ t.isBuiltin then .ok db
  else createTemplate db file true e

/-- One round of `seed_builtin_profiles`. -/
def seedProfile (db : Database) (file : ProfileSeed) : Except RequestError Database :=
  match db.templateNamed file.templateName with
  | none => .ok db
  | some template =>
    if ∃ p ∈ db.simulationProfiles, p.templateId = template.id ∧ p.name = file.name then .ok db
    else do
      let db := if file.isDefault then clearExistingDefault db template.id else db
      (commitOrRaiseConflict { db with
          simulationProfiles := db.simulationProfiles ++ [{
            id := db.nextId
            templateId := template.id
            name := file.name
            description := file.description
            isBuiltin := true
            isDefault := file.isDefault
            configs := file.configs }]
          nextId := db.nextId + 1 } file.name "").mapError fun _ => .unhandled

/-- One round of `seed_builtin_scenarios`. -/
def seedScenario (db : Database) (file : ScenarioExport) : Except RequestError Database :=
  match db.templateNamed file.templateName with
  | none => .ok db
  | some template =>
    if ∃ s ∈ db.scenarios, s.templateId = template.id ∧ s.name = file.name ∧ s.isBuiltin then
      .ok db
    else
      createScenario db {
          templateId := template.id
          name := file.name
          description := file.description
          steps := file.steps } true

/-- The three loaders, as a start runs them. -/
def seedBuiltins (e : String) (files : SeedFiles) (db : Database) : Database :=
  let db := seedEach (seedTemplate e) db files.templates
  let db := seedEach seedProfile db files.profiles
  seedEach seedScenario db files.scenarios

/-- The built-in template of a name. -/
def Home (db : Database) (name : String) (t : DeviceTemplate) : Prop :=
  t ∈ db.templates ∧ t.name = name ∧ t.isBuiltin

/-- Everything that the files describe is there, built-in. -/
structure Seeded (files : SeedFiles) (db : Database) : Prop where
  templates : ∀ file ∈ files.templates, ∃ t, Home db file.name t
  profiles : ∀ file ∈ files.profiles, ∃ t, Home db file.templateName t ∧
    ∃ p ∈ db.simulationProfiles, p.templateId = t.id ∧ p.name = file.name ∧ p.isBuiltin
  scenarios : ∀ file ∈ files.scenarios, ∃ t, Home db file.templateName t ∧
    ∃ s ∈ db.scenarios, s.templateId = t.id ∧ s.name = file.name ∧ s.isBuiltin

/-- The constraints on profiles. -/
structure ProfilesUnique (db : Database) : Prop where
  names : (db.simulationProfiles.map fun p => (p.templateId, p.name)).Nodup
  defaults : ((db.simulationProfiles.filter (·.isDefault)).map (·.templateId)).Nodup

variable {e : String} {files : SeedFiles} {db db' : Database} {call : LibraryCall}

section Loop

variable {α : Type} {seed : Database → α → Except RequestError Database} {l : List α}

/-- A loop whose files are all loaded does nothing. -/
theorem seedEach_of_loaded (h : ∀ file ∈ l, seed db file = .ok db) : seedEach seed db l = db := by
  induction l with
  | nil => rfl
  | cons file l ih =>
    obtain ⟨hfile, hrest⟩ := List.forall_mem_cons.1 h
    rw [seedEach, hfile]
    exact ih hrest

theorem seedEach_invariant {P : Database → Prop}
    (h : ∀ db file db', P db → seed db file = .ok db' → P db') (h0 : P db) :
    P (seedEach seed db l) := by
  induction l generalizing db with
  | nil => exact h0
  | cons file l ih =>
    rw [seedEach]
    split
    next db' hok => exact ih (h _ _ _ h0 hok)
    next => exact ih h0
    next => exact h0

end Loop

section Reseeding

theorem Home.named {name : String} {t : DeviceTemplate} (h : Home db name t) (hdb : db.Keyed) :
    db.templateNamed name = some t :=
  hdb.templateNamed_iff.2 ⟨h.1, h.2.1⟩

theorem seedTemplates_of_loaded (h : ∀ file ∈ files.templates, ∃ t, Home db file.name t) :
    seedEach (seedTemplate e) db files.templates = db := by
  refine seedEach_of_loaded fun file hfile => ?_
  obtain ⟨t, ht, hname, hb⟩ := h file hfile
  exact if_pos ⟨t, ht, hname, hb⟩

/-- What is there is not loaded again. -/
theorem Seeded.reseed (h : Seeded files db) (hdb : db.Keyed) : seedBuiltins e files db = db := by
  have hprofiles : seedEach seedProfile db files.profiles = db := by
    refine seedEach_of_loaded fun file hfile => ?_
    obtain ⟨t, ht, p, hp, hid, hname, -⟩ := h.profiles file hfile
    simp only [seedProfile, ht.named hdb]
    exact if_pos ⟨p, hp, hid, hname⟩
  have hscenarios : seedEach seedScenario db files.scenarios = db := by
    refine seedEach_of_loaded fun file hfile => ?_
    obtain ⟨t, ht, s, hs, hid, hname, hb⟩ := h.scenarios file hfile
    simp only [seedScenario, ht.named hdb]
    exact if_pos ⟨s, hs, hid, hname, hb⟩
  simp only [seedBuiltins, seedTemplates_of_loaded h.templates, hprofiles, hscenarios]

theorem commitOrRaiseConflict_ok_iff {name : String} :
    commitOrRaiseConflict db name e = .ok db' ↔ ProfilesUnique db ∧ db' = db := by
  simp only [commitOrRaiseConflict, andThen_ok_iff, raiseIf_ok_iff, not_not]
  constructor
  · rintro ⟨hnames, hdefaults, hdb⟩
    exact ⟨⟨hnames, hdefaults⟩, (Except.ok.inj hdb).symm⟩
  · rintro ⟨⟨hnames, hdefaults⟩, rfl⟩
    exact ⟨hnames, hdefaults, rfl⟩

/-- A round adds a profile or leaves the table. -/
theorem length_seedProfile {file : ProfileSeed} (h : seedProfile db file = .ok db') :
    db.simulationProfiles.length ≤ db'.simulationProfiles.length := by
  unfold seedProfile at h
  split at h
  next =>
    obtain rfl := Except.ok.inj h
    exact le_rfl
  next template _ =>
    split at h
    next =>
      obtain rfl := Except.ok.inj h
      exact le_rfl
    next =>
      simp only [mapError_ok_iff, commitOrRaiseConflict_ok_iff] at h
      obtain ⟨-, rfl⟩ := h
      split <;> simp [clearExistingDefault]

theorem profiles_seedScenario {file : ScenarioExport} (h : seedScenario db file = .ok db') :
    db'.simulationProfiles = db.simulationProfiles := by
  unfold seedScenario at h
  split at h
  next => rw [Except.ok.inj h]
  next =>
    split at h
    next => rw [Except.ok.inj h]
    next =>
      simp only [createScenario, bind_ok_iff] at h
      obtain ⟨-, -, -, -, -, -, h⟩ := h
      rw [← Except.ok.inj h]

theorem names_clearExistingDefault (template : UUID) :
    (clearExistingDefault db template).simulationProfiles.map (fun p => (p.templateId, p.name)) =
      db.simulationProfiles.map fun p => (p.templateId, p.name) := by
  rw [clearExistingDefault, List.map_map]
  refine List.map_congr_left fun p _ => ?_
  rw [Function.comp_apply]
  split <;> rfl

theorem defaults_clearExistingDefault (template : UUID) :
    ((clearExistingDefault db template).simulationProfiles.filter (·.isDefault)).map
        (·.templateId) =
      ((db.simulationProfiles.filter (·.isDefault)).map (·.templateId)).filter (· ≠ template) := by
  rw [clearExistingDefault]
  induction db.simulationProfiles with
  | nil => rfl
  | cons p l ih =>
    simp only [List.map_cons, List.filter_cons]
    by_cases hdefault : p.isDefault
    · by_cases ht : p.templateId = template
      · simpa [hdefault, ht] using ih
      · simpa [hdefault, ht] using ih
    · simpa [hdefault] using ih

theorem ProfilesUnique.congr (h : ProfilesUnique db)
    (hprofiles : db'.simulationProfiles = db.simulationProfiles) : ProfilesUnique db' :=
  ⟨hprofiles ▸ h.names, hprofiles ▸ h.defaults⟩

/-- A row under a new name is added as the default, after the old one is cleared. -/
theorem ProfilesUnique.add_default (h : ProfilesUnique db) (row : SimulationProfile)
    (hdefault : row.isDefault = true)
    (hnew : ∀ p ∈ db.simulationProfiles, p.templateId = row.templateId → p.name ≠ row.name) :
    ProfilesUnique { db with
      simulationProfiles :=
        (clearExistingDefault db row.templateId).simulationProfiles ++ [row] } := by
  constructor
  · simp only [List.map_append, names_clearExistingDefault]
    refine List.nodup_append.2 ⟨h.names, by simp, fun r hr r' hr' heq => ?_⟩
    obtain ⟨p, hp, rfl⟩ := List.mem_map.1 hr
    rw [List.map_singleton, List.mem_singleton] at hr'
    rw [hr'] at heq
    exact hnew p hp (congrArg Prod.fst heq) (congrArg Prod.snd heq)
  · simp only [List.filter_append, List.map_append, defaults_clearExistingDefault]
    refine List.nodup_append.2 ⟨h.defaults.filter _, by simp [hdefault], fun r hr r' hr' => ?_⟩
    simp only [List.filter_cons, List.filter_nil, hdefault, if_true, List.map_cons, List.map_nil,
      List.mem_singleton] at hr'
    simpa [hr'] using List.of_mem_filter hr

/-- A profile that is not there is added. -/
theorem seedProfile_of_missing (h : ProfilesUnique db) {file : ProfileSeed} {t : DeviceTemplate}
    (ht : db.templateNamed file.templateName = some t)
    (hmissing : ∀ p ∈ db.simulationProfiles, p.templateId = t.id → p.name ≠ file.name) :
    ∃ db', seedProfile db file = .ok db' ∧
      db.simulationProfiles.length < db'.simulationProfiles.length := by
  have hnot : ¬ ∃ p ∈ db.simulationProfiles, p.templateId = t.id ∧ p.name = file.name :=
    fun ⟨p, hp, hid, hname⟩ => hmissing p hp hid hname
  simp only [seedProfile, ht, if_neg hnot, mapError_ok_iff, commitOrRaiseConflict_ok_iff]
  refine ⟨_, ⟨?_, rfl⟩, ?_⟩
  · have hnew : ∀ r ∈ db.simulationProfiles.map (fun p => (p.templateId, p.name)),
        r ≠ (t.id, file.name) := by
      intro r hr heq
      obtain ⟨p, hp, rfl⟩ := List.mem_map.1 hr
      exact hmissing p hp (congrArg Prod.fst heq) (congrArg Prod.snd heq)
    cases hdefault : file.isDefault with
    | true =>
      exact (h.add_default ⟨db.nextId, t.id, file.name, file.description, true, true, file.configs⟩
        rfl hmissing).congr rfl
    | false =>
      constructor
      · simp only [Bool.false_eq_true, if_false, List.map_append]
        exact List.nodup_append.2 ⟨h.names, by simp, fun r hr r' hr' => by
          rw [List.mem_singleton.1 hr']
          exact hnew r hr⟩
      · simpa using h.defaults
  · split <;> simp [clearExistingDefault]

theorem length_seedProfiles {l : List ProfileSeed} (h : ProfilesUnique db)
    (hmissing : ∃ file ∈ l, ∃ t, db.templateNamed file.templateName = some t ∧
      ∀ p ∈ db.simulationProfiles, p.templateId = t.id → p.name ≠ file.name) :
    db.simulationProfiles.length < (seedEach seedProfile db l).simulationProfiles.length := by
  induction l with
  | nil => simp at hmissing
  | cons file l ih =>
    rw [seedEach]
    by_cases hfirst : ∃ t, db.templateNamed file.templateName = some t ∧
        ∀ p ∈ db.simulationProfiles, p.templateId = t.id → p.name ≠ file.name
    · obtain ⟨t, ht, hfile⟩ := hfirst
      obtain ⟨db', hok, hlt⟩ := seedProfile_of_missing h ht hfile
      rw [hok]
      refine lt_of_lt_of_le hlt (seedEach_invariant
        (P := fun d => db'.simulationProfiles.length ≤ d.simulationProfiles.length) ?_ le_rfl)
      exact fun _ _ _ hle hround => hle.trans (length_seedProfile hround)
    · -- the file is loaded already, or has no template
      have hrest : ∃ file ∈ l, ∃ t, db.templateNamed file.templateName = some t ∧
          ∀ p ∈ db.simulationProfiles, p.templateId = t.id → p.name ≠ file.name := by
        obtain ⟨f, hf, hmiss⟩ := hmissing
        rcases List.mem_cons.1 hf with rfl | hf
        · exact absurd hmiss hfirst
        · exact ⟨f, hf, hmiss⟩
      have hsame : seedProfile db file = .ok db := by
        unfold seedProfile
        split
        next => rfl
        next t ht =>
          refine if_pos ?_
          by_contra hnot
          exact hfirst ⟨t, ht, fun p hp hid hname => hnot ⟨p, hp, hid, hname⟩⟩
      rw [hsame]
      exact ih hrest

/-- A profile file whose row is gone is loaded once more. -/
theorem reseed_ne (h : ProfilesUnique db) (hdb : db.Keyed)
    (htemplates : ∀ file ∈ files.templates, ∃ t, Home db file.name t) {file : ProfileSeed}
    (hfile : file ∈ files.profiles) {t : DeviceTemplate} (ht : Home db file.templateName t)
    (hmissing : ∀ p ∈ db.simulationProfiles, p.templateId = t.id → p.name ≠ file.name) :
    seedBuiltins e files db ≠ db := by
  intro hsame
  have hlt := length_seedProfiles h ⟨file, hfile, t, ht.named hdb, hmissing⟩
  have hprofiles : (seedBuiltins e files db).simulationProfiles =
      (seedEach seedProfile db files.profiles).simulationProfiles := by
    simp only [seedBuiltins, seedTemplates_of_loaded htemplates]
    exact seedEach_invariant (P := fun d => d.simulationProfiles = _)
      (fun _ _ _ heq hround => (profiles_seedScenario hround).trans heq) rfl
  rw [← hprofiles, hsame] at hlt
  exact lt_irrefl _ hlt

end Reseeding

/-- The built-in rows that the files describe are still there. -/
structure Retains (files : SeedFiles) (db db' : Database) : Prop where
  templates : ∀ t ∈ db.templates, t.isBuiltin → t ∈ db'.templates
  profiles : ∀ file ∈ files.profiles, ∀ t, Home db file.templateName t →
    ∀ p ∈ db.simulationProfiles, p.templateId = t.id → p.name = file.name → p.isBuiltin →
      ∃ p' ∈ db'.simulationProfiles, p'.templateId = t.id ∧ p'.name = file.name ∧ p'.isBuiltin
  scenarios : ∀ t ∈ db.templates, t.isBuiltin → ∀ s ∈ db.scenarios, s.templateId = t.id →
    s.isBuiltin → s ∈ db'.scenarios

theorem Seeded.retained (h : Seeded files db) (hretains : Retains files db db') :
    Seeded files db' := by
  have hhome : ∀ {name t}, Home db name t → Home db' name t := fun ⟨ht, hname, hb⟩ =>
    ⟨hretains.templates _ ht hb, hname, hb⟩
  constructor
  · intro file hfile
    obtain ⟨t, ht⟩ := h.templates file hfile
    exact ⟨t, hhome ht⟩
  · intro file hfile
    obtain ⟨t, ht, p, hp, hid, hname, hb⟩ := h.profiles file hfile
    exact ⟨t, hhome ht, hretains.profiles file hfile t ht p hp hid hname hb⟩
  · intro file hfile
    obtain ⟨t, ht, s, hs, hid, hname, hb⟩ := h.scenarios file hfile
    exact ⟨t, hhome ht, s, hretains.scenarios t ht.1 ht.2.2 s hs hid hb, hid, hname, hb⟩

section Calls

variable {template profile scenario : UUID}

theorem Retains.of_subset (htemplates : ∀ t ∈ db.templates, t.isBuiltin → t ∈ db'.templates)
    (hprofiles : ∀ t ∈ db.templates, t.isBuiltin → ∀ p ∈ db.simulationProfiles,
      p.templateId = t.id → p.isBuiltin → p ∈ db'.simulationProfiles)
    (hscenarios : ∀ t ∈ db.templates, t.isBuiltin → ∀ s ∈ db.scenarios, s.templateId = t.id →
      s.isBuiltin → s ∈ db'.scenarios) : Retains files db db' where
  templates := htemplates
  profiles _ _ t ht p hp hid hname hb := ⟨p, hprofiles t ht.1 ht.2.2 p hp hid hb, hid, hname, hb⟩
  scenarios := hscenarios

theorem ProfilesUnique.filter (h : ProfilesUnique db) (q : SimulationProfile → Bool)
    (hdb : db'.simulationProfiles = db.simulationProfiles.filter q) : ProfilesUnique db' := by
  constructor
  · rw [hdb]
    exact h.names.sublist (List.filter_sublist.map _)
  · rw [hdb]
    exact h.defaults.sublist ((List.filter_sublist.filter _).map _)

/-- A template that a call may change is a user's. -/
theorem ne_of_user (hdb : db.Keyed) {t₀ t : DeviceTemplate}
    (hfound : db.findTemplate template = some t₀) (huser : t₀.isBuiltin = false)
    (ht : t ∈ db.templates) (hb : t.isBuiltin) : t.id ≠ template :=
  Table.ne_of_find (·.isBuiltin) hdb.templateIds hfound (by simp [huser]) ht hb

theorem retains_createTemplate {data : TemplateCreate}
    (hok : createTemplate db data false e = .ok db') : Retains files db db' := by
  obtain ⟨-, rfl⟩ := createTemplate_ok hok
  exact .of_subset (fun _ ht _ => List.mem_append_left _ ht) (fun _ _ _ _ hp _ _ => hp)
    fun _ _ _ _ hs _ _ => hs

theorem retains_updateTemplate (hdb : db.Keyed) {data : TemplateUpdate}
    (hok : updateTemplate db template data e = .ok db') : Retains files db db' := by
  obtain ⟨t₀, hfound, huser, -, -, -, rfl⟩ := updateTemplate_ok hok
  refine .of_subset (fun t ht hb => ?_) (fun _ _ _ _ hp _ _ => hp) fun _ _ _ _ hs _ _ => hs
  refine List.mem_map.2 ⟨t, ht, ?_⟩
  exact if_neg (ne_of_user hdb hfound huser ht hb)

theorem retains_deleteTemplate (hdb : db.Keyed) (hok : deleteTemplate db template = .ok db') :
    Retains files db db' := by
  obtain ⟨t₀, hfound, huser, -, rfl⟩ := deleteTemplate_ok hok
  have hne : ∀ t ∈ db.templates, t.isBuiltin → t.id ≠ template := fun t ht hb =>
    ne_of_user hdb hfound huser ht hb
  refine .of_subset (fun t ht hb => ?_) (fun t ht hb p hp hid _ => ?_)
    fun t ht hb s hs hid _ => ?_
  · exact List.mem_filter.2 ⟨ht, by simpa using hne t ht hb⟩
  · exact List.mem_filter.2 ⟨hp, by simpa [hid] using hne t ht hb⟩
  · exact List.mem_filter.2 ⟨hs, by simpa [hid] using hne t ht hb⟩

/-- The old default of a template is written, and nothing else of it. -/
theorem retains_clearExistingDefault (template : UUID) :
    Retains files db (clearExistingDefault db template) where
  templates _ ht _ := ht
  profiles file _ t _ p hp hid hname hb := by
    refine ⟨_, List.mem_map_of_mem hp, ?_⟩
    split <;> exact ⟨hid, hname, hb⟩
  scenarios _ _ _ _ hs _ _ := hs

theorem Retains.trans {db₁ : Database} (h : Retains files db db₁) (h' : Retains files db₁ db') :
    Retains files db db' where
  templates t ht hb := h'.templates t (h.templates t ht hb) hb
  profiles file hfile t ht p hp hid hname hb := by
    obtain ⟨p₁, hp₁, hid₁, hname₁, hb₁⟩ := h.profiles file hfile t ht p hp hid hname hb
    exact h'.profiles file hfile t ⟨h.templates t ht.1 ht.2.2, ht.2⟩ p₁ hp₁ hid₁ hname₁ hb₁
  scenarios t ht hb s hs hid hbs :=
    h'.scenarios t (h.templates t ht hb) hb s (h.scenarios t ht hb s hs hid hbs) hid hbs

theorem retains_createProfile {data : SimulationProfileCreate}
    (hok : createProfile db data e = .ok db') : Retains files db db' ∧ ProfilesUnique db' := by
  simp only [createProfile, bind_ok_iff, commitOrRaiseConflict_ok_iff] at hok
  obtain ⟨-, -, hunique, hdb⟩ := hok
  rw [← hdb] at hunique
  refine ⟨?_, hunique⟩
  have happend : ∀ (d : Database) (p : SimulationProfile) (next : UUID), Retains files d
      { d with simulationProfiles := d.simulationProfiles ++ [p], nextId := next } :=
    fun d p next => .of_subset (fun _ ht _ => ht) (fun _ _ _ _ hp _ _ => List.mem_append_left _ hp)
      fun _ _ _ _ hs _ _ => hs
  rw [hdb]
  split
  next => exact (retains_clearExistingDefault _).trans (happend _ _ _)
  next => exact happend _ _ _

theorem retains_deleteProfile (hdb : db.Identified) (h : ProfilesUnique db)
    (hok : deleteProfile db profile = .ok db') : Retains files db db' ∧ ProfilesUnique db' := by
  simp only [deleteProfile, bind_ok_iff] at hok
  obtain ⟨p₀, hp₀, _, huser, hok⟩ := hok
  rw [raiseIf_ok_iff] at huser
  obtain rfl := Except.ok.inj hok
  refine ⟨.of_subset (fun _ ht _ => ht) (fun t _ _ p hp _ hb => ?_) fun _ _ _ _ hs _ _ => hs,
    h.filter _ rfl⟩
  have hne : p.id ≠ profile :=
    Table.ne_of_find (·.isBuiltin) hdb.profileIds (getProfileOr404_ok hp₀) huser hp hb
  exact List.mem_filter.2 ⟨hp, by simpa using hne⟩

theorem retains_createScenario {data : ScenarioCreate}
    (hok : createScenario db data false = .ok db') :
    Retains files db db' ∧ db'.simulationProfiles = db.simulationProfiles := by
  simp only [createScenario, bind_ok_iff] at hok
  obtain ⟨-, -, -, -, -, -, hok⟩ := hok
  obtain rfl := Except.ok.inj hok
  exact ⟨.of_subset (fun _ ht _ => ht) (fun _ _ _ _ hp _ _ => hp)
    fun _ _ _ _ hs _ _ => List.mem_append_left _ hs, rfl⟩

theorem retains_updateScenario (hdb : db.Identified) {data : ScenarioUpdate}
    (hok : updateScenario db scenario data = .ok db') :
    Retains files db db' ∧ db'.simulationProfiles = db.simulationProfiles := by
  simp only [updateScenario, bind_ok_iff, mapError_ok_iff] at hok
  obtain ⟨s₀, hs₀, _, huser, -, -, -, -, -, -, hok⟩ := hok
  rw [raiseIf_ok_iff] at huser
  obtain rfl := Except.ok.inj hok
  refine ⟨.of_subset (fun _ ht _ => ht) (fun _ _ _ _ hp _ _ => hp) fun _ _ _ s hs _ hb => ?_, rfl⟩
  have hne : s.id ≠ scenario :=
    Table.ne_of_find (·.isBuiltin) hdb.scenarioIds (getScenarioOr404_ok hs₀) huser hs hb
  refine List.mem_map.2 ⟨s, hs, ?_⟩
  rw [if_neg hne]

theorem retains_deleteScenario (hdb : db.Identified)
    (hok : deleteScenario db scenario = .ok db') :
    Retains files db db' ∧ db'.simulationProfiles = db.simulationProfiles := by
  simp only [deleteScenario, bind_ok_iff] at hok
  obtain ⟨s₀, hs₀, _, huser, hok⟩ := hok
  rw [raiseIf_ok_iff] at huser
  obtain rfl := Except.ok.inj hok
  refine ⟨.of_subset (fun _ ht _ => ht) (fun _ _ _ _ hp _ _ => hp) fun _ _ _ s hs _ hb => ?_, rfl⟩
  have hne : s.id ≠ scenario :=
    Table.ne_of_find (·.isBuiltin) hdb.scenarioIds (getScenarioOr404_ok hs₀) huser hs hb
  exact List.mem_filter.2 ⟨hs, by simpa using hne⟩

/-- An accepted update changes rows in place, and names only of its own. -/
theorem updateProfile_ok {data : SimulationProfileUpdate} {newFirst : Bool}
    (hok : updateProfile db profile data newFirst e = .ok db') :
    ProfilesUnique db' ∧ db'.templates = db.templates ∧ db'.scenarios = db.scenarios ∧
      ∃ f : SimulationProfile → SimulationProfile,
        db'.simulationProfiles = db.simulationProfiles.map f ∧
        ∀ p, (f p).templateId = p.templateId ∧ (f p).isBuiltin = p.isBuiltin ∧
          (f p).name = if p.id = profile then data.name.getD p.name else p.name := by
  unfold updateProfile at hok
  rw [bind_ok_iff] at hok
  obtain ⟨p, -, hok⟩ := hok
  simp only [andThen_ok_iff, commitOrRaiseConflict_ok_iff] at hok
  obtain ⟨-, -, hunique, rfl⟩ := hok
  refine ⟨hunique, ?_, ?_, ?_⟩
  · split <;> rfl
  · split <;> rfl
  · by_cases hdefault : data.isDefault = some true
    · simp only [hdefault, if_true, clearExistingDefault, Table.update, List.map_map]
      refine ⟨_, rfl, fun q => ?_⟩
      simp only [Function.comp_apply]
      by_cases hcleared : q.templateId = p.templateId ∧ q.isDefault = true
      · rw [if_pos hcleared]
        split <;> exact ⟨rfl, rfl, rfl⟩
      · rw [if_neg hcleared]
        split <;> exact ⟨rfl, rfl, rfl⟩
    · simp only [hdefault, if_false, Table.update]
      refine ⟨_, rfl, fun q => ?_⟩
      split <;> exact ⟨rfl, rfl, rfl⟩

end Calls

/-- The row of a profile file. -/
def SeedRow (files : SeedFiles) (db : Database) (p : SimulationProfile) : Prop :=
  ∃ file ∈ files.profiles, ∃ t, Home db file.templateName t ∧ p.templateId = t.id ∧
    p.name = file.name

/-- An accepted update of a profile that came from a file leaves it its name. -/
def KeepsSeedNames (files : SeedFiles) (db : Database) (call : LibraryCall) : Prop :=
  ∀ profile data newFirst e, call = .updateProfile profile data newFirst e →
    (call.perform db).isOk → ∀ p ∈ db.simulationProfiles, p.id = profile → SeedRow files db p →
      ∀ name, data.name = some name → name = p.name

/-- A database that the files have been loaded into. -/
structure Installed (files : SeedFiles) (db : Database) : Prop where
  identified : db.Identified
  unique : ProfilesUnique db
  seeded : Seeded files db

section Steps

theorem retains_updateProfile {profile : UUID} {data : SimulationProfileUpdate} {newFirst : Bool}
    (hok : updateProfile db profile data newFirst e = .ok db')
    (hkeep : ∀ p ∈ db.simulationProfiles, p.id = profile → SeedRow files db p →
      ∀ name, data.name = some name → name = p.name) :
    Retains files db db' := by
  obtain ⟨-, htemplates, hscenarios, f, hprofiles, hf⟩ := updateProfile_ok hok
  constructor
  · exact fun t ht _ => htemplates ▸ ht
  · intro file hfile t ht p hp hid hname hb
    refine ⟨f p, hprofiles ▸ List.mem_map_of_mem hp, (hf p).1.trans hid, ?_, (hf p).2.1.trans hb⟩
    rw [(hf p).2.2, ← hname]
    split
    next hprofile =>
      cases hnew : data.name with
      | none => rfl
      | some name => exact hkeep p hp hprofile ⟨file, hfile, t, ht, hid, hname⟩ name hnew
    next => rfl
  · exact fun _ _ _ s hs _ _ => hscenarios ▸ hs

/-- A profile that came from a file is renamed: it is loaded once more. -/
theorem reseed_ne_of_renamed (h : Installed files db) (hdb' : db'.Identified) {profile : UUID}
    {data : SimulationProfileUpdate} {newFirst : Bool} {text : String}
    (hok : updateProfile db profile data newFirst text = .ok db') {p : SimulationProfile}
    (hp : p ∈ db.simulationProfiles) (hid : p.id = profile) (hrow : SeedRow files db p)
    {name : String} (hname : data.name = some name) (hne : name ≠ p.name) :
    seedBuiltins e files db' ≠ db' := by
  obtain ⟨hunique, htemplates, -, f, hprofiles, hf⟩ := updateProfile_ok hok
  obtain ⟨file, hfile, t, ht, htid, hfname⟩ := hrow
  have hhome : ∀ {name t}, Home db name t → Home db' name t := fun ⟨ht, hn, hb⟩ =>
    ⟨htemplates ▸ ht, hn, hb⟩
  refine reseed_ne hunique hdb'.toKeyed (fun file hfile => ?_) hfile (hhome ht) ?_
  · obtain ⟨t, ht⟩ := h.seeded.templates file hfile
    exact ⟨t, hhome ht⟩
  · intro q' hq' hqid hqname
    rw [hprofiles] at hq'
    obtain ⟨q, hq, rfl⟩ := List.mem_map.1 hq'
    rw [(hf q).1] at hqid
    rw [(hf q).2.2] at hqname
    split at hqname
    next hqprofile =>
      have hids := h.identified.profileIds
      obtain rfl := List.inj_on_of_nodup_map hids hq hp (hqprofile.trans hid.symm)
      rw [hname, Option.getD_some] at hqname
      exact hne (hqname.trans hfname.symm)
    next hqprofile =>
      have hpair : (q.templateId, q.name) = (p.templateId, p.name) := by
        rw [hqid, htid, hqname, hfname]
      obtain rfl := List.inj_on_of_nodup_map h.unique.names hq hp hpair
      exact hqprofile hid

/-- Every call of the three APIs but a renaming update keeps the built-in rows of the files. -/
theorem retains_perform (h : Installed files db) (hno : ∀ data, call ≠ .importSystem data)
    (hkeep : KeepsSeedNames files db call) (hok : call.perform db = .ok db') :
    Retains files db db' ∧ ProfilesUnique db' := by
  have hdb := h.identified
  cases call with
  | createTemplate data e =>
    obtain ⟨-, hprofiles⟩ := createTemplate_ok hok
    exact ⟨retains_createTemplate hok, h.unique.congr (by rw [hprofiles])⟩
  | updateTemplate template data e =>
    obtain ⟨_, -, -, -, -, -, hprofiles⟩ := updateTemplate_ok hok
    exact ⟨retains_updateTemplate hdb.toKeyed hok, h.unique.congr (by rw [hprofiles])⟩
  | deleteTemplate template =>
    have hok := (mapError_ok_iff _ _ _).1 hok
    obtain ⟨_, -, -, -, hprofiles⟩ := deleteTemplate_ok hok
    exact ⟨retains_deleteTemplate hdb.toKeyed hok, h.unique.filter _ (by rw [hprofiles]; rfl)⟩
  | cloneTemplate template newName e =>
    obtain ⟨data, hok⟩ := cloneTemplate_ok hok
    obtain ⟨-, hprofiles⟩ := createTemplate_ok hok
    exact ⟨retains_createTemplate hok, h.unique.congr (by rw [hprofiles])⟩
  | importTemplateFile data e =>
    obtain ⟨-, hprofiles⟩ := createTemplate_ok hok
    exact ⟨retains_createTemplate hok, h.unique.congr (by rw [hprofiles])⟩
  | createProfile data e => exact retains_createProfile ((mapError_ok_iff _ _ _).1 hok)
  | updateProfile profile data newFirst e =>
    have hupdate := (mapError_ok_iff _ _ _).1 hok
    refine ⟨retains_updateProfile hupdate fun p hp hid hrow name hname => ?_,
      (updateProfile_ok hupdate).1⟩
    exact hkeep profile data newFirst e rfl (by rw [hok]; rfl) p hp hid hrow name hname
  | deleteProfile profile =>
    exact retains_deleteProfile hdb h.unique ((mapError_ok_iff _ _ _).1 hok)
  | importProfile template data e =>
    simp only [LibraryCall.perform, importProfile, bind_ok_iff] at hok
    obtain ⟨-, -, -, -, configs, -, hok⟩ := hok
    split at hok
    next => exact retains_createProfile ((mapError_ok_iff _ _ _).1 hok)
    next => cases hok
  | createScenario data =>
    obtain ⟨hretains, hprofiles⟩ := retains_createScenario hok
    exact ⟨hretains, h.unique.congr hprofiles⟩
  | updateScenario scenario data =>
    obtain ⟨hretains, hprofiles⟩ := retains_updateScenario hdb hok
    exact ⟨hretains, h.unique.congr hprofiles⟩
  | deleteScenario scenario =>
    obtain ⟨hretains, hprofiles⟩ := retains_deleteScenario hdb ((mapError_ok_iff _ _ _).1 hok)
    exact ⟨hretains, h.unique.congr hprofiles⟩
  | importScenario data =>
    simp only [LibraryCall.perform, importScenario] at hok
    split at hok
    next => cases hok
    next =>
      obtain ⟨hretains, hprofiles⟩ := retains_createScenario hok
      exact ⟨hretains, h.unique.congr hprofiles⟩
  | importSystem data => exact absurd rfl (hno data)

theorem Installed.step (h : Installed files db) (hno : ∀ data, call ≠ .importSystem data)
    (hkeep : KeepsSeedNames files db call) (hstep : LibraryCall.step db call = some db') :
    Installed files db' := by
  have hdb' := LibraryCall.identified_step h.identified hstep
  rcases LibraryCall.step_cases hstep with rfl | hok
  · exact h
  · obtain ⟨hretains, hunique⟩ := retains_perform h hno hkeep hok
    exact ⟨hdb', hunique, h.seeded.retained hretains⟩

theorem reseed_step_iff (h : Installed files db) (hno : ∀ data, call ≠ .importSystem data)
    (hstep : LibraryCall.step db call = some db') :
    seedBuiltins e files db' = db' ↔ KeepsSeedNames files db call := by
  constructor
  · rintro hsame profile data newFirst text rfl hok p hp hid hrow name hname
    have hdb' := LibraryCall.identified_step h.identified hstep
    by_contra hne
    cases hperform : (LibraryCall.updateProfile profile data newFirst text).perform db with
    | error error =>
      rw [hperform] at hok
      cases hok
    | ok updated =>
      rw [LibraryCall.step, hperform] at hstep
      obtain rfl := Option.some.inj hstep
      exact reseed_ne_of_renamed h hdb' ((mapError_ok_iff _ _ _).1 hperform) hp hid hrow hname hne
        hsame
  · intro hkeep
    have h' := h.step hno hkeep hstep
    exact h'.seeded.reseed h'.identified.toKeyed

/-- Loading the files again does nothing, in every state of a run, exactly when no update renames
a profile that came from a file. -/
theorem always_reseeded_iff (h : Installed files db) (calls : List LibraryCall)
    (hcalls : ∀ call ∈ calls, ∀ data, call ≠ .importSystem data) :
    Always LibraryCall.step (fun db => seedBuiltins e files db = db) db calls ↔
      EachStep LibraryCall.step (fun db call _ => KeepsSeedNames files db call) db calls := by
  rw [Always, and_iff_right (h.seeded.reseed h.identified.toKeyed)]
  exact EachStep.exchange (J := Installed files)
    (H := fun _ call _ => ∀ data, call ≠ .importSystem data)
    (fun _ _ _ h hstep hno hkeep => h.step hno hkeep hstep)
    (fun _ _ _ h hstep hno => reseed_step_iff h hno hstep) h (eachStep_of_forall hcalls)

end Steps

/-- One template with one register, and its default profile. -/
def meterFiles : SeedFiles where
  templates := [{
    name := "Energy Meter"
    protocol := .opcua
    registers := [{
      name := "voltage"
      address := 0
      dataType := .float32
      data_type_valid := float32_known
      byte_order_valid := bigEndian_known
      function_code_valid := holding_valid
      address_nonneg := first_address }]
    registers_not_empty := by simp }]
  profiles := [{
    templateName := "Energy Meter"
    name := "Normal Operation"
    isDefault := true
    configs := [⟨"voltage", .static, [("value", .int 230)], true, 1000⟩] }]
  scenarios := []

/-- The first start. -/
def meterDatabase : Database := seedBuiltins "" meterFiles {}

theorem installed_meterDatabase : Installed meterFiles meterDatabase := by
  have hhome : ∃ t, Home meterDatabase "Energy Meter" t ∧ t.id = 0 :=
    ⟨⟨0, "Energy Meter", .opcua, none, true⟩, ⟨List.mem_singleton.2 rfl, rfl, rfl⟩, rfl⟩
  obtain ⟨t, ht, hid⟩ := hhome
  constructor
  · constructor <;> first | decide | (constructor <;> decide)
  · constructor <;> decide
  · constructor
    · intro file hfile
      obtain rfl := List.mem_singleton.1 hfile
      exact ⟨t, ht⟩
    · intro file hfile
      obtain rfl := List.mem_singleton.1 hfile
      exact ⟨t, ht, _, List.mem_singleton.2 rfl, hid.symm, rfl, rfl⟩
    · rintro file ⟨⟩

/-- Deletes that are refused, and a clone. -/
def triedDeletes : List LibraryCall :=
  [.deleteTemplate 0, .cloneTemplate 0 none "", .deleteProfile 2]

theorem always_reseeded_iff_deleted :
    Always LibraryCall.step (fun db => seedBuiltins "" meterFiles db = db) meterDatabase
        triedDeletes ↔
      EachStep LibraryCall.step (fun db call _ => KeepsSeedNames meterFiles db call) meterDatabase
        triedDeletes :=
  always_reseeded_iff installed_meterDatabase _ (by simp [triedDeletes])

/-- The built-in profile, under a name of the user's. -/
def renamed : LibraryCall :=
  .updateProfile 2 { name := some "Mine", name_not_empty := by decide, name_length := by decide }
    false ""

/-- After the rename the next start adds a second profile and takes the default from the first. -/
theorem rename_seeds_again : Installed meterFiles meterDatabase ∧
    ¬ Always LibraryCall.step (fun db => seedBuiltins "" meterFiles db = db) meterDatabase
      [renamed] := by
  refine ⟨installed_meterDatabase, fun h => ?_⟩
  obtain ⟨hsame, -⟩ := h.2 _ rfl
  have hdefaults := congrArg (fun db => db.simulationProfiles.map (·.isDefault)) hsame
  exact absurd hdefaults (by decide)

end GhostMeter.Seed
