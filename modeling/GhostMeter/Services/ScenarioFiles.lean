import GhostMeter.Schemas.Anomaly
import GhostMeter.Services.ApiHistories

/-! Scenarios that are exported to a file and imported from it, into any database. -/

namespace GhostMeter

open GhostMeter.Lib GhostMeter.Simulation GhostMeter.Schemas

namespace Services

/-- A step in a file. -/
structure StepExport where
  registerName : String
  anomalyType : AnomalyType
  anomalyParams : Params
  triggerAtSeconds : ℤ
  durationSeconds : ℤ
  sortOrder : ℤ

structure ScenarioFile where
  name : String
  description : Option String
  templateName : String
  steps : List StepExport

end Services

/-- `_step_to_dict`, without the id. -/
def ScenarioStep.toDict (step : ScenarioStep) : Services.StepExport where
  registerName := step.registerName
  anomalyType := step.anomalyType
  anomalyParams := step.anomalyParams
  triggerAtSeconds := step.triggerAtSeconds
  durationSeconds := step.durationSeconds
  sortOrder := step.sortOrder

namespace Services

def ScenarioStepCreate.toDict (step : ScenarioStepCreate) : StepExport where
  registerName := step.registerName
  anomalyType := step.anomalyType
  anomalyParams := step.anomalyParams
  triggerAtSeconds := step.triggerAtSeconds
  durationSeconds := step.durationSeconds
  sortOrder := step.sortOrder

def exportScenario (db : Database) (scenario : UUID) : Except AppException ScenarioFile := do
  let s ← getScenarioOr404 db scenario
  let template ← db.getTemplate s.templateId
  return {
    name := s.name
    description := s.description
    templateName := template.name
    steps := s.steps.map (·.toDict) }

/-- `ScenarioStepCreate(**step)`. -/
def recreateStep (step : StepExport) : Except PyError ScenarioStepCreate := do
  validateAnomalyType step.anomalyType
  if htrigger : step.triggerAtSeconds < 0 then
    .error (.valueError "trigger_at_seconds must be >= 0")
  else if hduration : step.durationSeconds ≤ 0 then
    .error (.valueError "duration_seconds must be > 0")
  else do
    validateParams step.anomalyType step.anomalyParams
    return {
      registerName := step.registerName
      anomalyType := step.anomalyType
      anomalyParams := step.anomalyParams
      triggerAtSeconds := step.triggerAtSeconds
      durationSeconds := step.durationSeconds
      sortOrder := step.sortOrder
      trigger_nonneg := not_lt.1 htrigger
      duration_pos := not_le.1 hduration }

/-- `ScenarioExport(**data)`, which reads requests and writes responses. -/
def ScenarioFile.validate (file : ScenarioFile) : Except PyError ScenarioExport := do
  let steps ← file.steps.mapM recreateStep
  return { file with steps }

/-- Where a transfer ends early. -/
inductive TransferError
  | exporting (e : AppException)
  | response (e : PyError)
  | request (e : PyError)
  | importing (e : RequestError)

/-- A scenario's name is a `VARCHAR(255)`, and no text holds a NUL. -/
def ScenarioNameFits (name : String) : Prop := name.length ≤ 255 ∧ '\x00' ∉ name.toList

instance (name : String) : Decidable (ScenarioNameFits name) :=
  inferInstanceAs (Decidable (_ ∧ _))

/-- A scenario of `db` goes to `target` by way of a file, which may get a new name. -/
def transferScenario (db target : Database) (scenario : UUID) (name : String) :
    Except TransferError Database := do
  let file ← (exportScenario db scenario).mapError .exporting
  let response ← file.validate.mapError .response
  let data ← ({ file with name, steps := response.steps.map (·.toDict) } :
    ScenarioFile).validate.mapError .request
  let target ← (importScenario target data).mapError .importing
  raiseIf (¬ ScenarioNameFits name) (.importing .unhandled)
  return target

/-- A scenario as the API stores it. -/
structure StoredScenario (s : Scenario) : Prop extends ValidScenario s where
  anomalies : ∀ step ∈ s.steps, AnomalyParamsBase step.anomalyType step.anomalyParams
  total : (s.steps = [] ∧ s.totalDurationSeconds = 0) ∨
    ∃ step ∈ s.steps, step.triggerAtSeconds + step.durationSeconds = s.totalDurationSeconds
  ordered : s.steps.Pairwise (·.sortOrder ≤ ·.sortOrder)

/-- The target has the template, with the registers of the steps, and no such scenario of it. -/
def ReceivesScenario (target : Database) (templateName : String) (s : Scenario) (name : String) :
    Prop :=
  ScenarioNameFits name ∧ ∃ t, target.templateNamed templateName = some t ∧
    (∀ step ∈ s.steps, step.registerName ∈ templateRegisterNames target t.id) ∧
    ∀ s' ∈ target.scenarios, s'.templateId = t.id → s'.name ≠ name

/-- The new scenario gives the file of the old one under its new name, where only steps with one
sort order may stand in another order. -/
structure SameScenario (db : Database) (s : Scenario) (name : String) (target' : Database)
    (s' : Scenario) : Prop where
  file : ∃ file steps, exportScenario db s.id = .ok file ∧
    exportScenario target' s'.id = .ok { file with name, steps } ∧ steps.Perm file.steps ∧
      steps.map (·.sortOrder) = file.steps.map (·.sortOrder)
  isBuiltin : s'.isBuiltin = false
  total : s'.totalDurationSeconds = s.totalDurationSeconds
  stored : StoredScenario s'

section Steps

variable {next : UUID} {steps : List ScenarioStepCreate} {s : Scenario}

theorem toDict_scenarioSteps (next : UUID) (steps : List ScenarioStepCreate) :
    ((scenarioSteps next steps).map (·.toDict)).Perm (steps.map (·.toDict)) := by
  have hbuilt : (buildSteps next steps).map (·.toDict) = steps.map (·.toDict) := by
    induction steps generalizing next with
    | nil => rfl
    | cons step steps ih =>
      rw [buildSteps, List.map_cons, List.map_cons, ih]
      rfl
  rw [← hbuilt]
  exact (List.mergeSort_perm _ _).map _

/-- The schema accepts a step that keeps its rules, and nothing is lost. -/
theorem recreateStep_ok_iff {step : StepExport} {c : ScenarioStepCreate} :
    recreateStep step = .ok c ↔
      AnomalyParamsBase step.anomalyType step.anomalyParams ∧ c.toDict = step := by
  rw [recreateStep, andThen_ok_iff]
  constructor
  · rintro ⟨htype, h⟩
    split at h
    · cases h
    split at h
    · cases h
    obtain ⟨hparams, h⟩ := (andThen_ok_iff _ _ _).1 h
    obtain rfl := Except.ok.inj h
    exact ⟨⟨htype, hparams⟩, rfl⟩
  · rintro ⟨⟨htype, hparams⟩, rfl⟩
    refine ⟨htype, ?_⟩
    refine (dif_neg (not_lt.2 c.trigger_nonneg)).trans ?_
    refine (dif_neg (not_le.2 c.duration_pos)).trans ?_
    exact (andThen_ok_iff _ _ _).2 ⟨hparams, rfl⟩

theorem toDict_of_mapM {file : List StepExport} (h : file.mapM recreateStep = .ok steps) :
    steps.map (·.toDict) = file := by
  rw [mapM_ok_iff] at h
  induction h with
  | nil => rfl
  | cons hc _ ih => rw [List.map_cons, ih, (recreateStep_ok_iff.1 hc).2]

/-- The steps of a stored scenario, as a request would give them. -/
theorem StoredScenario.recreated (h : StoredScenario s) :
    ∃ steps, (s.steps.map (·.toDict)).mapM recreateStep = .ok steps ∧
      steps.map (·.toDict) = s.steps.map (·.toDict) := by
  have hok : ∀ step ∈ s.steps.map (·.toDict), ∃ c, recreateStep step = .ok c := by
    intro step hstep
    obtain ⟨row, hrow, rfl⟩ := List.mem_map.1 hstep
    obtain ⟨htrigger, hduration⟩ := h.times row hrow
    refine ⟨{
      registerName := row.registerName
      anomalyType := row.anomalyType
      anomalyParams := row.anomalyParams
      triggerAtSeconds := row.triggerAtSeconds
      durationSeconds := row.durationSeconds
      sortOrder := row.sortOrder
      trigger_nonneg := htrigger
      duration_pos := hduration }, recreateStep_ok_iff.2 ⟨h.anomalies row hrow, rfl⟩⟩
  obtain ⟨steps, hsteps⟩ := mapM_isOk_iff.2 hok
  exact ⟨steps, hsteps, toDict_of_mapM hsteps⟩

/-- What a step says about its time. -/
def StepExport.ends (step : StepExport) : ℤ := step.triggerAtSeconds + step.durationSeconds

theorem computeTotalDuration_mem (hne : steps ≠ []) :
    ∃ step ∈ steps, step.stop = computeTotalDuration steps := by
  have hfold : ∀ (l : List ScenarioStepCreate) (m : ℤ),
      l.foldl (fun m s => max m s.stop) m = m ∨
        ∃ s ∈ l, s.stop = l.foldl (fun m s => max m s.stop) m := by
    intro l
    induction l with
    | nil => exact fun m => Or.inl rfl
    | cons a l ih =>
      intro m
      rw [List.foldl_cons]
      rcases ih (max m a.stop) with h | ⟨s, hs, h⟩
      · rw [h]
        rcases max_choice m a.stop with hm | ha
        · exact Or.inl hm
        · exact Or.inr ⟨a, List.mem_cons_self, ha.symm⟩
      · exact Or.inr ⟨s, List.mem_cons_of_mem _ hs, h⟩
  cases steps with
  | nil => exact absurd rfl hne
  | cons a l =>
    rcases hfold l a.stop with h | ⟨s, hs, h⟩
    · exact ⟨a, List.mem_cons_self, h.symm⟩
    · exact ⟨s, List.mem_cons_of_mem _ hs, h⟩

/-- The total duration is the same for the same steps. -/
theorem StoredScenario.total_eq (h : StoredScenario s)
    (hsteps : steps.map (·.toDict) = s.steps.map (·.toDict)) :
    computeTotalDuration steps = s.totalDurationSeconds := by
  have hends : steps.map (·.stop) = s.steps.map fun step =>
      step.triggerAtSeconds + step.durationSeconds := by
    have hmap := congrArg (List.map StepExport.ends) hsteps
    rw [List.map_map, List.map_map] at hmap
    exact hmap
  by_cases hne : steps = []
  · subst hne
    have hnil : s.steps = [] := by simpa using hsteps.symm
    rcases h.total with ⟨-, htotal⟩ | ⟨step, hstep, -⟩
    · exact htotal.symm
    · rw [hnil] at hstep
      cases hstep
  · apply le_antisymm
    · obtain ⟨c, hc, htotal⟩ := computeTotalDuration_mem hne
      have hmem := List.mem_map_of_mem (f := (·.stop)) hc
      rw [hends] at hmem
      obtain ⟨step, hstep, heq⟩ := List.mem_map.1 hmem
      rw [← htotal, ← heq]
      exact h.ends step hstep
    · rcases h.total with ⟨hnil, -⟩ | ⟨step, hstep, htotal⟩
      · rw [hnil] at hsteps
        exact absurd (List.map_eq_nil_iff.1 hsteps) hne
      · have hmem := List.mem_map_of_mem
          (f := fun step : ScenarioStep => step.triggerAtSeconds + step.durationSeconds) hstep
        rw [← hends] at hmem
        obtain ⟨c, hc, heq⟩ := List.mem_map.1 hmem
        rw [← htotal, ← heq]
        exact le_computeTotalDuration hc

theorem validateSteps_ok_iff_pairwise {registerNames : List String} :
    validateSteps steps registerNames = .ok () ↔
      (∀ step ∈ steps, step.registerName ∈ registerNames) ∧
        steps.Pairwise fun a b => a.registerName = b.registerName →
          ¬ Window.Overlap ScenarioStepCreate.start ScenarioStepCreate.stop a b := by
  rw [validateSteps_ok_iff]
  refine and_congr_right fun _ => Iff.trans (forall_congr' fun regName => ?_)
    Window.pairwise_groups_iff
  exact (checkNeighbours_ok_iff _ _).trans (Window.isChain_mergeSort_iff fun a _ => a.start_lt_stop)

/-- The steps of a stored scenario pass the checks of a template that has their registers. -/
theorem StoredScenario.validateSteps_ok_iff (h : StoredScenario s)
    (hsteps : steps.map (·.toDict) = s.steps.map (·.toDict)) {registerNames : List String} :
    validateSteps steps registerNames = .ok () ↔
      ∀ step ∈ s.steps, step.registerName ∈ registerNames := by
  -- both lists say the same about registers and times
  let R : StepExport → StepExport → Prop := fun a b => a.registerName = b.registerName →
    ¬ Window.Overlap StepExport.triggerAtSeconds StepExport.ends a b
  have hpairs : (steps.map (·.toDict)).Pairwise R := by
    rw [hsteps]
    exact List.pairwise_map.2 h.no_overlap
  have hpairs' : steps.Pairwise fun a b => a.registerName = b.registerName →
      ¬ Window.Overlap ScenarioStepCreate.start ScenarioStepCreate.stop a b :=
    List.pairwise_map.1 hpairs
  rw [validateSteps_ok_iff_pairwise, and_iff_left hpairs']
  have hknown : ∀ names : List String, (∀ step ∈ steps.map (·.toDict), step.registerName ∈ names) ↔
      ∀ step ∈ s.steps.map (·.toDict), step.registerName ∈ names := fun names => by rw [hsteps]
  have hnames := hknown registerNames
  rwa [List.forall_mem_map, List.forall_mem_map] at hnames

/-- What an accepted create or update stores. -/
theorem storedScenario_steps {registerNames : List String}
    (hsteps : s.steps = scenarioSteps next steps)
    (htotal : s.totalDurationSeconds = computeTotalDuration steps)
    (hok : validateSteps steps registerNames = .ok ())
    (hanomalies : ∀ c ∈ steps, AnomalyParamsBase c.anomalyType c.anomalyParams) :
    StoredScenario s := by
  have hperm := toDict_scenarioSteps next steps
  rw [← hsteps] at hperm
  refine { validScenario_steps hsteps htotal hok with
    anomalies := ?_
    total := ?_
    ordered := ?_ }
  · intro step hstep
    obtain ⟨c, hc, heq⟩ := List.mem_map.1 (hperm.mem_iff.1 (List.mem_map_of_mem hstep))
    have hc' := hanomalies c hc
    have htype : c.anomalyType = step.anomalyType := congrArg StepExport.anomalyType heq
    have hsame : c.anomalyParams = step.anomalyParams := congrArg StepExport.anomalyParams heq
    rwa [htype, hsame] at hc'
  · by_cases hne : steps = []
    · refine Or.inl ⟨?_, by rw [htotal, hne]; rfl⟩
      rw [hne] at hperm
      exact List.map_eq_nil_iff.1 hperm.eq_nil
    · obtain ⟨c, hc, htop⟩ := computeTotalDuration_mem hne
      obtain ⟨step, hstep, heq⟩ := List.mem_map.1 (hperm.mem_iff.2 (List.mem_map_of_mem hc))
      refine Or.inr ⟨step, hstep, ?_⟩
      rw [htotal, ← htop]
      exact congrArg StepExport.ends heq
  · rw [hsteps]
    exact Window.pairwise_mergeSort_key ScenarioStep.sortOrder _

end Steps

section Transfer

variable {db target target' : Database} {s : Scenario} {t t' : DeviceTemplate} {name : String}
  {steps : List ScenarioStepCreate}

/-- The scenario that a transfer makes. -/
def transferred (target : Database) (template : UUID) (s : Scenario) (name : String)
    (steps : List ScenarioStepCreate) : Scenario where
  id := target.nextId
  templateId := template
  name := name
  description := s.description
  isBuiltin := false
  totalDurationSeconds := computeTotalDuration steps
  steps := scenarioSteps (target.nextId + 1) steps

theorem exportScenario_ok (hs : getScenarioOr404 db s.id = .ok s)
    (ht : db.findTemplate s.templateId = some t) :
    exportScenario db s.id = .ok {
      name := s.name
      description := s.description
      templateName := t.name
      steps := s.steps.map (·.toDict) } := by
  rw [exportScenario, bind_ok_iff]
  exact ⟨s, hs, bind_ok_iff.2 ⟨t, Database.getTemplate_ok_iff.2 ht, rfl⟩⟩

theorem scenarioNameFree_new_iff {template : UUID} :
    scenarioNameFree target template name none = .ok () ↔
      ∀ s' ∈ target.scenarios, s'.templateId = template → s'.name ≠ name := by
  rw [scenarioNameFree_ok_iff]
  exact forall₂_congr fun s' _ => forall_congr' fun _ => imp_congr_right fun _ =>
    iff_of_false nofun nofun

/-- The import of the steps of a stored scenario. -/
theorem importScenario_ok_iff (h : StoredScenario s) (htarget : target.Keyed)
    (hsteps : steps.map (·.toDict) = s.steps.map (·.toDict)) {templateName : String} :
    importScenario target ⟨name, s.description, templateName, steps⟩ = .ok target' ↔
      ∃ t', target.templateNamed templateName = some t' ∧
        (∀ step ∈ s.steps, step.registerName ∈ templateRegisterNames target t'.id) ∧
        (∀ s' ∈ target.scenarios, s'.templateId = t'.id → s'.name ≠ name) ∧
        { target with
          scenarios := target.scenarios ++ [transferred target t'.id s name steps]
          nextId := target.nextId + 1 + steps.length } = target' := by
  rw [importScenario]
  split
  next hnone =>
    refine iff_of_false nofun ?_
    rintro ⟨t', ht', -⟩
    cases hnone.symm.trans ht'
  next t' ht' =>
    have hfound : target.getTemplate t'.id = .ok t' :=
      Database.getTemplate_ok_iff.2 (htarget.findTemplate_iff.2
        ⟨(htarget.templateNamed_iff.1 ht').1, rfl⟩)
    have hcreate : createScenario target ⟨t'.id, name, s.description, steps⟩ false = .ok target' ↔
        (∀ step ∈ s.steps, step.registerName ∈ templateRegisterNames target t'.id) ∧
        (∀ s' ∈ target.scenarios, s'.templateId = t'.id → s'.name ≠ name) ∧
        { target with
          scenarios := target.scenarios ++ [transferred target t'.id s name steps]
          nextId := target.nextId + 1 + steps.length } = target' := by
      rw [createScenario, hfound, ← h.validateSteps_ok_iff hsteps, ← scenarioNameFree_new_iff]
      refine (andThen_ok_iff ((validateSteps steps _).mapError RequestError.app) _ _).trans ?_
      rw [andThen_ok_iff, mapError_ok_iff]
      exact and_congr_right fun _ => and_congr_right fun _ => ⟨Except.ok.inj, congrArg Except.ok⟩
    rw [hcreate]
    constructor
    · exact fun h => ⟨t', ht', h⟩
    · rintro ⟨t'', ht'', h⟩
      cases ht'.symm.trans ht''
      exact h

theorem ScenarioFile.validate_ok {file : ScenarioFile}
    (h : file.steps.mapM recreateStep = .ok steps) :
    file.validate = .ok { file with steps } := by
  rw [ScenarioFile.validate, h]
  rfl

/-- What a transfer comes to: the import of the same steps. -/
theorem transferScenario_ok_iff (h : StoredScenario s) (hs : getScenarioOr404 db s.id = .ok s)
    (ht : db.findTemplate s.templateId = some t) :
    ∃ steps, steps.map (·.toDict) = s.steps.map (·.toDict) ∧
      ∀ target', transferScenario db target s.id name = .ok target' ↔
        importScenario target ⟨name, s.description, t.name, steps⟩ = .ok target' ∧
          ScenarioNameFits name := by
  obtain ⟨steps, hsteps, hdict⟩ := h.recreated
  refine ⟨steps, hdict, fun target' => ?_⟩
  have hresponse := @ScenarioFile.validate_ok steps
    ⟨s.name, s.description, t.name, s.steps.map (·.toDict)⟩ hsteps
  have hrequest := @ScenarioFile.validate_ok steps
    ⟨name, s.description, t.name, steps.map (·.toDict)⟩ (hdict ▸ hsteps)
  have htransfer : transferScenario db target s.id name =
      (importScenario target ⟨name, s.description, t.name, steps⟩).mapError .importing >>=
        fun target => raiseIf (¬ ScenarioNameFits name) (.importing .unhandled) >>=
          fun _ => .ok target := by
    rw [transferScenario, exportScenario_ok hs ht]
    show ((ScenarioFile.validate _).mapError _ >>= _) = _
    rw [hresponse]
    show ((ScenarioFile.validate _).mapError _ >>= _) = _
    rw [hrequest]
    rfl
  rw [htransfer, bind_ok_iff]
  simp only [mapError_ok_iff, andThen_ok_iff, raiseIf_ok_iff, not_not]
  constructor
  · rintro ⟨db', hdb', hfits, hok⟩
    exact ⟨Except.ok.inj hok ▸ hdb', hfits⟩
  · rintro ⟨hok, hfits⟩
    exact ⟨target', hok, hfits, rfl⟩

/-- What a transfer makes, in the database that it makes it in. -/
theorem sameScenario_transferred (h : StoredScenario s) (hs : getScenarioOr404 db s.id = .ok s)
    (ht : db.findTemplate s.templateId = some t) (htarget : target.Consistent)
    (ht' : target.templateNamed t.name = some t')
    (hsteps : steps.map (·.toDict) = s.steps.map (·.toDict))
    (hok : validateSteps steps (templateRegisterNames target t'.id) = .ok ()) {next : UUID} :
    SameScenario db s name
      { target with
        scenarios := target.scenarios ++ [transferred target t'.id s name steps]
        nextId := next }
      (transferred target t'.id s name steps) := by
  set s' := transferred target t'.id s name steps
  have hperm : (s'.steps.map (·.toDict)).Perm (s.steps.map (·.toDict)) :=
    hsteps ▸ toDict_scenarioSteps (target.nextId + 1) steps
  have hanomalies : ∀ c ∈ steps, AnomalyParamsBase c.anomalyType c.anomalyParams := by
    intro c hc
    have hmem := List.mem_map_of_mem (f := (·.toDict)) hc
    rw [hsteps] at hmem
    obtain ⟨step, hstep, heq⟩ := List.mem_map.1 hmem
    have hparams := h.anomalies step hstep
    have htype : step.anomalyType = c.anomalyType := congrArg StepExport.anomalyType heq
    have hsame : step.anomalyParams = c.anomalyParams := congrArg StepExport.anomalyParams heq
    rwa [htype, hsame] at hparams
  have hstored : StoredScenario s' := storedScenario_steps rfl rfl hok hanomalies
  have hfind : getScenarioOr404 { target with
      scenarios := target.scenarios ++ [s']
      nextId := next } s'.id = .ok s' := by
    have hnew := @Table.find_append_new _ _ _ Scenario.id target.scenarios s' fun r hr =>
      (htarget.scenarioFresh r hr).ne
    rw [getScenarioOr404, hnew, Dict.set_self]
  have hnamed := htarget.templateNamed_iff.1 ht'
  have hexport := exportScenario_ok hfind (htarget.findTemplate_iff.2 ⟨hnamed.1, rfl⟩)
  rw [hnamed.2] at hexport
  refine ⟨⟨_, _, exportScenario_ok hs ht, hexport, hperm, ?_⟩, rfl, h.total_eq hsteps, hstored⟩
  have hle : ∀ l : List ScenarioStep, l.Pairwise (·.sortOrder ≤ ·.sortOrder) →
      ((l.map (·.toDict)).map (·.sortOrder)).Pairwise (· ≤ ·) := fun l hl => by
    rw [List.map_map]
    exact List.pairwise_map.2 hl
  exact (hperm.map _).eq_of_pairwise (fun _ _ _ _ => le_antisymm) (hle _ hstored.ordered)
    (hle _ h.ordered)

end Transfer

section Runs

variable {settings : Settings} {db db' target target' : Database} {s : Scenario}

def StoredScenarios (db : Database) : Prop := ∀ s ∈ db.scenarios, StoredScenario s

/-- Every scenario goes to `target` by way of a file, under any name, exactly if `target` receives
it, and it is the same there. -/
def Transfers (db target : Database) : Prop :=
  ∀ s ∈ db.scenarios, ∃ t ∈ db.templates, t.id = s.templateId ∧ ∀ name,
    ((∃ target', transferScenario db target s.id name = .ok target') ↔
      ReceivesScenario target t.name s name) ∧
    ∀ target', transferScenario db target s.id name = .ok target' →
      ∃ s' next, target' = { target with scenarios := target.scenarios ++ [s'], nextId := next } ∧
        SameScenario db s name target' s'

theorem transfers_of_consistent (hdb : db.Consistent) (hstored : StoredScenarios db)
    (htarget : target.Consistent) : Transfers db target := by
  intro s hs
  have h := hstored s hs
  obtain ⟨t, ht, hid⟩ := hdb.scenarioTemplates s hs
  have hfind : getScenarioOr404 db s.id = .ok s := by
    rw [getScenarioOr404, (Table.find_eq_some_iff hdb.scenarioIds).2 ⟨hs, rfl⟩]
  have hfound := hdb.findTemplate_iff.2 ⟨ht, hid⟩
  refine ⟨t, ht, hid, fun name => ?_⟩
  obtain ⟨steps, hsteps, htransfer⟩ :=
    @transferScenario_ok_iff db target s t name h hfind hfound
  simp only [htransfer, importScenario_ok_iff h htarget.toKeyed hsteps]
  refine ⟨?_, ?_⟩
  · constructor
    · rintro ⟨target', ⟨t', ht', hregisters, hfree, -⟩, hfits⟩
      exact ⟨hfits, t', ht', hregisters, hfree⟩
    · rintro ⟨hfits, t', ht', hregisters, hfree⟩
      exact ⟨_, ⟨t', ht', hregisters, hfree, rfl⟩, hfits⟩
  · rintro target' ⟨⟨t', ht', hregisters, -, rfl⟩, -⟩
    exact ⟨_, _, rfl, sameScenario_transferred h hfind hfound htarget ht' hsteps
      ((h.validateSteps_ok_iff hsteps).2 hregisters)⟩

/-- What the schemas leave of the steps of scenarios and of the names of profiles. -/
def LibraryCall.FromSchema : LibraryCall → Prop
  | createScenario data => ∀ c ∈ data.steps, AnomalyParamsBase c.anomalyType c.anomalyParams
  | updateScenario _ data => ∀ c ∈ data.steps, AnomalyParamsBase c.anomalyType c.anomalyParams
  | importScenario data => ∀ c ∈ data.steps, AnomalyParamsBase c.anomalyType c.anomalyParams
  | createProfile data _ => PyString.strip data.name = data.name
  | updateProfile _ data _ _ => ∀ name ∈ data.name, PyString.strip name = name
  | _ => True

def ApiCall.FromSchema : ApiCall → Prop
  | library call => call.FromSchema
  | _ => True

theorem storedScenarios_create {data : ScenarioCreate} (h : StoredScenarios db)
    (hdata : ∀ c ∈ data.steps, AnomalyParamsBase c.anomalyType c.anomalyParams)
    (hok : createScenario db data false = .ok db') : StoredScenarios db' := by
  simp only [createScenario, bind_ok_iff, mapError_ok_iff] at hok
  obtain ⟨t, -, _, hsteps, _, -, hok⟩ := hok
  obtain rfl := Except.ok.inj hok
  intro s hs
  rcases List.mem_append.1 hs with hs | hs
  · exact h s hs
  · rw [List.mem_singleton.1 hs]
    exact storedScenario_steps rfl rfl hsteps hdata

theorem storedScenarios_update {scenario : UUID} {data : ScenarioUpdate} (h : StoredScenarios db)
    (hdata : ∀ c ∈ data.steps, AnomalyParamsBase c.anomalyType c.anomalyParams)
    (hok : updateScenario db scenario data = .ok db') : StoredScenarios db' := by
  simp only [updateScenario, bind_ok_iff, mapError_ok_iff] at hok
  obtain ⟨s₀, -, _, -, t, -, _, hsteps, _, -, hok⟩ := hok
  obtain rfl := Except.ok.inj hok
  intro s' hs'
  obtain ⟨s, hs, rfl⟩ := List.mem_map.1 hs'
  split
  · exact storedScenario_steps rfl rfl hsteps hdata
  · exact h s hs

theorem ApiCall.storedScenarios_after {call : ApiCall} (hdb : db.Consistent)
    (h : StoredScenarios db) (hdata : call.FromSchema) :
    StoredScenarios (call.after settings db) := by
  cases hwrites : call.writesScenario with
  | false => exact fun s hs => h s (((filesKept_after hdb call).scenarios hwrites) s hs)
  | true =>
    cases call with
    | library call =>
      refine committed_of h fun db' hok => ?_
      cases call with
      | createScenario data => exact storedScenarios_create h hdata hok
      | updateScenario scenario data => exact storedScenarios_update h hdata hok
      | importScenario data =>
        simp only [LibraryCall.perform, importScenario] at hok
        split at hok
        next => cases hok
        next t _ => exact @storedScenarios_create _ _ ⟨t.id, _, _, data.steps⟩ h hdata hok
      | _ => cases hwrites
    | _ => cases hwrites

/-- Scenarios that the API has written go to any database by way of files, whatever has been
called. -/
theorem ApiCall.always_transfers (hdb : db.Consistent) (h : StoredScenarios db)
    {calls : List ApiCall}
    (hdata : EachStep (step settings) (fun _ call _ => call.FromSchema) db calls) :
    Always (step settings) (fun db => ∀ target : Database, target.Consistent → Transfers db target)
      db calls := by
  refine ⟨fun target => transfers_of_consistent hdb h,
    EachStep.guarded (J := fun db => db.Consistent ∧ StoredScenarios db) ?_ ⟨hdb, h⟩ hdata⟩
  rintro db call db' ⟨hdb, h⟩ hstep hcall
  have hdb' := consistent_step hdb hstep
  have h' : StoredScenarios db' := Option.some.inj hstep ▸ storedScenarios_after hdb h hcall
  exact ⟨⟨hdb', h'⟩, fun target => transfers_of_consistent hdb' h'⟩

/-- Two failures of one register, given in another order than their own. -/
def outage : ScenarioCreate where
  templateId := 0
  name := "Outage"
  steps := [{
      registerName := "voltage"
      anomalyType := .dataLoss
      anomalyParams := []
      triggerAtSeconds := 60
      durationSeconds := 30
      sortOrder := 1
      trigger_nonneg := by decide
      duration_pos := by decide }, {
      registerName := "voltage"
      anomalyType := .outOfRange
      anomalyParams := [("value", .int 0)]
      triggerAtSeconds := 0
      durationSeconds := 60
      trigger_nonneg := by decide
      duration_pos := by decide }]

def spareDatabase : Database where
  templates := [⟨7, "Meter", .modbusTcp, none, false⟩]
  registers := [
    ⟨8, 7, "current", 2, 3, .uint16, .bigEndian, .fin false 1, none, none, 0, none⟩,
    ⟨9, 7, "voltage", 0, 3, .uint16, .bigEndian, .fin false 1, none, none, 1, none⟩]
  nextId := 10

theorem consistent_spareDatabase : spareDatabase.Consistent where
  toValid := by
    constructor <;> first | decide | (constructor <;> decide)
  profileIds := by decide
  profileDefaults := by decide
  rowIds := by
    constructor
    all_goals exact ⟨by decide, by decide⟩
  brokerFresh := by decide
  profileFresh := by decide
  profileTemplates := by decide
  profileNames := by decide
  scenarioIds := by decide
  scenarioFresh := by decide
  scenarioTemplates := by decide
  scenarioNames := by decide

def storedOutage : Scenario where
  id := 3
  templateId := 0
  name := "Outage"
  description := none
  isBuiltin := false
  totalDurationSeconds := 90
  steps := scenarioSteps 4 outage.steps

theorem createScenario_outage : createScenario ruledDatabase outage false =
    .ok { ruledDatabase with scenarios := [storedOutage], nextId := 6 } := by
  have hvalid : validateSteps outage.steps (templateRegisterNames ruledDatabase 0) = .ok () := by
    refine validateSteps_ok_iff_pairwise.2 ⟨?_, ?_⟩
    · intro step hstep
      have hname : step.registerName = "voltage" := by
        rcases List.mem_pair.1 hstep with rfl | rfl
        · rfl
        · rfl
      simp [hname, templateRegisterNames, Database.registersOf, ruledDatabase]
    · refine List.pairwise_pair.2 fun _ => ?_
      unfold Window.Overlap
      decide
  rw [createScenario, bind_ok_iff]
  refine ⟨⟨0, "Meter", .modbusTcp, none, false⟩, rfl, (andThen_ok_iff _ _ _).2 ⟨?_, rfl⟩⟩
  exact (mapError_ok_iff _ _ _).2 hvalid

/-- The scenario that a call stores goes to another database by way of a file. -/
theorem ApiCall.always_transfers_outage :
    ∃ target', transferScenario
      (ApiCall.after {} ruledDatabase (.library (.createScenario outage))) spareDatabase 3
      "Outage again" = .ok target' := by
  have hrun := @always_transfers {} _ consistent_ruledDatabase
    (fun _ hs => absurd hs List.not_mem_nil) [.library (.createScenario outage)] (by
      refine fun _ _ => ⟨fun c hc => ?_, trivial⟩
      rcases List.mem_pair.1 hc with rfl | rfl
      · exact ⟨rfl, rfl⟩
      · exact ⟨rfl, rfl⟩)
  have hstored := (hrun.2 _ rfl).1 spareDatabase consistent_spareDatabase
  have hafter : ApiCall.after {} ruledDatabase (.library (.createScenario outage)) =
      { ruledDatabase with scenarios := [storedOutage], nextId := 6 } :=
    congrArg (committed ruledDatabase) createScenario_outage
  rw [hafter] at hstored ⊢
  obtain ⟨t, ht, -, htransfers⟩ := hstored storedOutage (List.mem_singleton_self _)
  obtain rfl := List.mem_singleton.1 ht
  refine (htransfers "Outage again").1.2 ⟨by decide, _, rfl, ?_, by decide⟩
  intro step hstep
  have hname : step.registerName = "voltage" := by
    have hmem := (toDict_scenarioSteps 4 outage.steps).mem_iff.1 (List.mem_map_of_mem hstep)
    rcases List.mem_pair.1 hmem with heq | heq
    · exact congrArg StepExport.registerName heq
    · exact congrArg StepExport.registerName heq
  simp [hname, templateRegisterNames, Database.registersOf, spareDatabase]

end Runs

end Services

end GhostMeter
