import GhostMeter.Services.AnomalyService
import GhostMeter.Services.ScenarioService
import GhostMeter.Services.TemplateService
import Mathlib.Order.CompletePartialOrder
import Mathlib.Order.Interval.Set.Disjoint

/-! The overlap checks of the services are exact: the one of the addresses of a template, and the
two of the times of anomalies. -/

namespace GhostMeter.Services

open GhostMeter.Lib GhostMeter.Simulation

section Addresses

/-- The register occupies the address. -/
def RegisterDefinitionCreate.Occupies (r : RegisterDefinitionCreate) (address : ℤ) : Prop :=
  r.address ≤ address ∧ address ≤ r.address + r.dataType.registerCount - 1

theorem exists_occupies_iff {a b : RegisterDefinitionCreate} :
    (∃ address, a.Occupies address ∧ b.Occupies address) ↔
      Window.Overlap (fun r : RegisterDefinitionCreate => r.address)
        (fun r => r.address + r.dataType.registerCount) a b := by
  have ha := registerCount_pos a.dataType
  have hb := registerCount_pos b.dataType
  rw [Window.overlap_iff_exists_inside (by omega) (by omega)]
  refine exists_congr fun address => and_congr ?_ ?_
  · rw [RegisterDefinitionCreate.Occupies, Window.Inside, Int.le_sub_one_iff]
  · rw [RegisterDefinitionCreate.Occupies, Window.Inside, Int.le_sub_one_iff]

/-- The check raises just if two registers of a function code share an address. -/
theorem validateNoAddressOverlap_raises_iff (registers : List RegisterDefinitionCreate) :
    (∃ e, validateNoAddressOverlap registers = .error e) ↔
      ∃ i j : Fin registers.length, i ≠ j ∧
        registers[i].functionCode = registers[j].functionCode ∧
        ∃ address, registers[i].Occupies address ∧ registers[j].Occupies address := by
  have hsymm : ∀ a b : RegisterDefinitionCreate,
      (a.functionCode = b.functionCode ∧ ∃ address, a.Occupies address ∧ b.Occupies address) →
      b.functionCode = a.functionCode ∧ ∃ address, b.Occupies address ∧ a.Occupies address :=
    fun a b ⟨hcode, address, ha, hb⟩ => ⟨hcode.symm, address, hb, ha⟩
  rw [exists_error_iff, validateNoAddressOverlap_ok_iff, ← Window.not_pairwise_not_iff hsymm]
  simp only [exists_occupies_iff, not_and]

end Addresses

section Times

/-- A register with a half-open interval of time. -/
structure Interval where
  registerName : String
  start : ℤ
  duration : ℤ
  start_nonneg : 0 ≤ start
  duration_pos : 0 < duration

/-- The moments of the interval. -/
def Interval.moments (i : Interval) : Set ℚ :=
  Set.Ico (i.start : ℚ) ((i.start + i.duration : ℤ) : ℚ)

def ScenarioStepCreate.interval (s : ScenarioStepCreate) : Interval where
  registerName := s.registerName
  start := s.triggerAtSeconds
  duration := s.durationSeconds
  start_nonneg := s.trigger_nonneg
  duration_pos := s.duration_pos

def AnomalyScheduleCreate.interval (s : AnomalyScheduleCreate) : Interval where
  registerName := s.registerName
  start := s.triggerAfterSeconds
  duration := s.durationSeconds
  start_nonneg := s.trigger_nonneg
  duration_pos := s.duration_pos

/-- The intervals of each register are pairwise disjoint. -/
def DisjointPerRegister (intervals : List Interval) : Prop :=
  intervals.Pairwise fun a b => a.registerName = b.registerName → Disjoint a.moments b.moments

theorem disjoint_moments_iff {a b : Interval} : Disjoint a.moments b.moments ↔
    ¬ Window.Overlap Interval.start (fun i => i.start + i.duration) a b := by
  have ha := a.duration_pos
  have hb := b.duration_pos
  simp only [Interval.moments, Set.Ico_disjoint_Ico, min_le_iff, le_max_iff, Int.cast_le,
    Window.Overlap]
  omega

theorem validateSteps_ok_iff_disjoint {steps : List ScenarioStepCreate}
    {registerNames : List String} (hknown : ∀ s ∈ steps, s.registerName ∈ registerNames) :
    validateSteps steps registerNames = .ok () ↔
      DisjointPerRegister (steps.map (·.interval)) := by
  have hpairs : ∀ regName, checkNeighbours regName (sortedSteps steps regName) = .ok () ↔
      (steps.filter (·.registerName = regName)).Pairwise fun a b =>
        Disjoint a.interval.moments b.interval.moments := by
    intro regName
    refine (checkNeighbours_ok_iff _ _).trans
      ((Window.isChain_mergeSort_iff fun a _ => a.start_lt_stop).trans ?_)
    simp only [disjoint_moments_iff]
    rfl
  rw [validateSteps_ok_iff, and_iff_right hknown, DisjointPerRegister, List.pairwise_map]
  exact (forall_congr' hpairs).trans Window.pairwise_groups_iff

theorem checkSchedules_ok_iff_disjoint {schedules : List AnomalyScheduleCreate}
    {validNames : List String} (hknown : ∀ s ∈ schedules, s.registerName ∈ validNames) :
    checkSchedules validNames schedules = .ok () ↔
      DisjointPerRegister (schedules.map (·.interval)) := by
  have hpairs : ∀ name, checkOverlap schedules name = .ok () ↔
      (schedules.filter (·.registerName = name)).Pairwise fun a b =>
        Disjoint a.interval.moments b.interval.moments := by
    intro name
    refine (checkPairs_ok_iff _ _).trans ?_
    simp only [disjoint_moments_iff]
    rfl
  have hgroups := @Window.forall_groups_iff _ _ _ (fun s : AnomalyScheduleCreate => s.registerName)
    (fun name l => checkPairs name l = .ok ()) (fun _ => rfl) schedules
  rw [checkSchedules, andThen_ok_iff, checkAll_ok_iff, checkAll_ok_iff, DisjointPerRegister,
    List.pairwise_map]
  simp only [raiseIf_ok_iff, not_not, and_iff_right hknown]
  exact hgroups.trans ((forall_congr' hpairs).trans Window.pairwise_groups_iff)

/-- The scenario check and the schedule check accept the same intervals of known registers, those
that are disjoint per register. -/
theorem overlap_checks_agree {steps : List ScenarioStepCreate}
    {schedules : List AnomalyScheduleCreate} {registerNames : List String}
    (hsame : steps.map (·.interval) = schedules.map (·.interval))
    (hknown : ∀ i ∈ steps.map (·.interval), i.registerName ∈ registerNames) :
    (validateSteps steps registerNames = .ok () ↔
        checkSchedules registerNames schedules = .ok ()) ∧
      (validateSteps steps registerNames = .ok () ↔
        DisjointPerRegister (steps.map (·.interval))) := by
  have hsteps := validateSteps_ok_iff_disjoint fun s hs => hknown _ (List.mem_map_of_mem hs)
  have hschedules := @checkSchedules_ok_iff_disjoint schedules registerNames fun s hs =>
    hknown _ (hsame ▸ List.mem_map_of_mem hs)
  exact ⟨hsteps.trans (hsame ▸ hschedules.symm), hsteps⟩

/-- A step and a schedule for voltage, from `start` for ten seconds. -/
def voltageStep (start : ℕ) : ScenarioStepCreate where
  registerName := "voltage"
  anomalyType := .flatline
  anomalyParams := []
  triggerAtSeconds := start
  durationSeconds := 10
  trigger_nonneg := Int.natCast_nonneg start
  duration_pos := tenSeconds_pos

def voltageSchedule (start : ℕ) : AnomalyScheduleCreate where
  registerName := "voltage"
  anomalyType := .dataLoss
  anomalyParams := []
  triggerAfterSeconds := start
  durationSeconds := 10
  trigger_nonneg := Int.natCast_nonneg start
  duration_pos := tenSeconds_pos

theorem overlap_checks_agree_touching :
    (validateSteps [voltageStep 10, voltageStep 0] ["voltage"] = .ok () ↔
        checkSchedules ["voltage"] [voltageSchedule 10, voltageSchedule 0] = .ok ()) ∧
      (validateSteps [voltageStep 10, voltageStep 0] ["voltage"] = .ok () ↔
        DisjointPerRegister ([voltageStep 10, voltageStep 0].map (·.interval))) :=
  overlap_checks_agree rfl (by simp [voltageStep, ScenarioStepCreate.interval])

end Times

end GhostMeter.Services
