import GhostMeter.Exceptions
import GhostMeter.Lib.Check
import GhostMeter.Lib.Window
import GhostMeter.Simulation.AnomalyInjector

/-! Validation of scenario steps. -/

namespace GhostMeter.Services

open GhostMeter.Lib GhostMeter.Simulation

/-- A step as the schema accepts it. -/
structure ScenarioStepCreate where
  registerName : String
  anomalyType : AnomalyType
  anomalyParams : Params
  triggerAtSeconds : ℤ
  durationSeconds : ℤ
  sortOrder : ℤ := 0
  trigger_nonneg : 0 ≤ triggerAtSeconds
  duration_pos : 0 < durationSeconds

namespace ScenarioStepCreate

def start (s : ScenarioStepCreate) : ℤ := s.triggerAtSeconds
def stop (s : ScenarioStepCreate) : ℤ := s.triggerAtSeconds + s.durationSeconds

theorem start_lt_stop (s : ScenarioStepCreate) : s.start < s.stop := by
  have := s.duration_pos
  unfold start stop
  omega

end ScenarioStepCreate

/-- The loop over the neighbours of one register's sorted steps. -/
def checkNeighbours (regName : String) :
    List ScenarioStepCreate → Except AppException Unit
  | a :: b :: rest =>
    if a.stop > b.start then
      .error (validationException
        (s!"Overlapping steps on register '{regName}': " ++
          s!"step ending at {a.stop}s overlaps step starting at {b.start}s"))
    else checkNeighbours regName (b :: rest)
  | _ => .ok ()

def sortedSteps (steps : List ScenarioStepCreate) (regName : String) :
    List ScenarioStepCreate :=
  (steps.filter (·.registerName = regName)).mergeSort fun a b => a.start ≤ b.start

def validateSteps (steps : List ScenarioStepCreate) (registerNames : List String) :
    Except AppException Unit := do
  checkAll (fun step => raiseIf (step.registerName ∉ registerNames)
    (validationException s!"Register '{step.registerName}' not found in template")) steps
  checkAll (fun regName => checkNeighbours regName (sortedSteps steps regName))
    (steps.map (·.registerName)).eraseDups

def computeTotalDuration (steps : List ScenarioStepCreate) : ℤ :=
  match steps with
  | [] => 0
  | s :: rest => rest.foldl (fun m s => max m s.stop) s.stop

theorem checkNeighbours_ok_iff (regName : String) (l : List ScenarioStepCreate) :
    checkNeighbours regName l = .ok () ↔ l.IsChain fun a b => a.stop ≤ b.start := by
  induction l with
  | nil => simp [checkNeighbours]
  | cons a l ih =>
    cases l with
    | nil => simp [checkNeighbours]
    | cons b rest =>
      rw [checkNeighbours, List.isChain_cons_cons]
      split
      · simp; omega
      · rw [ih]
        exact (and_iff_right (by omega)).symm

theorem validateSteps_ok_iff (steps : List ScenarioStepCreate) (registerNames : List String) :
    validateSteps steps registerNames = .ok () ↔
      (∀ s ∈ steps, s.registerName ∈ registerNames) ∧
        ∀ regName, checkNeighbours regName (sortedSteps steps regName) = .ok () := by
  simp only [validateSteps, andThen_ok_iff, checkAll_ok_iff, raiseIf_ok_iff, not_not]
  exact and_congr_right fun _ => Window.forall_groups_iff (fun regName l =>
    checkNeighbours regName (l.mergeSort fun a b => a.start ≤ b.start) = .ok ())
      fun _ => by simp [checkNeighbours]

/-- Steps of one register, in the order of the request, never overlap once accepted. -/
theorem validateSteps_pairwise {steps : List ScenarioStepCreate} {registerNames : List String}
    (h : validateSteps steps registerNames = .ok ()) (regName : String) :
    (steps.filter (·.registerName = regName)).Pairwise fun a b =>
      ¬ Window.Overlap ScenarioStepCreate.start ScenarioStepCreate.stop a b := by
  have hcheck := ((validateSteps_ok_iff _ _).1 h).2 regName
  exact (Window.isChain_mergeSort_iff fun a _ => a.start_lt_stop).1
    ((checkNeighbours_ok_iff _ _).1 hcheck)

theorem le_computeTotalDuration {steps : List ScenarioStepCreate} {s : ScenarioStepCreate}
    (h : s ∈ steps) : s.stop ≤ computeTotalDuration steps := by
  have hfold : ∀ (l : List ScenarioStepCreate) (m : ℤ),
      m ≤ l.foldl (fun m s => max m s.stop) m ∧
        ∀ s ∈ l, s.stop ≤ l.foldl (fun m s => max m s.stop) m := by
    intro l
    induction l with
    | nil => simp
    | cons a l ih =>
      intro m
      obtain ⟨hm, hl⟩ := ih (max m a.stop)
      refine ⟨(le_max_left ..).trans hm, fun b hb => ?_⟩
      rcases List.mem_cons.1 hb with rfl | hb
      · exact (le_max_right ..).trans hm
      · exact hl b hb
  cases steps with
  | nil => cases h
  | cons a l =>
    rcases List.mem_cons.1 h with rfl | h
    · exact (hfold l s.stop).1
    · exact (hfold l a.stop).2 s h

end GhostMeter.Services
