import GhostMeter.Simulation.ScheduledAnomalies

/-! Anomaly schedules: what the service accepts, and what the injector makes of it. -/

namespace GhostMeter.Services

open GhostMeter.Lib GhostMeter.Simulation

/-- A schedule as the schema accepts it. -/
structure AnomalyScheduleCreate extends ScheduleEntry where
  isEnabled : Bool := true
  trigger_nonneg : 0 ≤ triggerAfterSeconds
  duration_pos : 0 < durationSeconds

namespace AnomalyScheduleCreate

def aStart (s : AnomalyScheduleCreate) : ℤ := s.triggerAfterSeconds
def aEnd (s : AnomalyScheduleCreate) : ℤ := s.aStart + s.durationSeconds

end AnomalyScheduleCreate

/-- The two loops over the pairs of one register's schedules. -/
def checkPairs (registerName : String) : List AnomalyScheduleCreate → Except AppException Unit
  | [] => .ok ()
  | a :: rest => do
    checkAll (fun b => raiseIf (a.aStart < b.aEnd ∧ b.aStart < a.aEnd)
      (validationException (s!"Overlapping schedule for register '{registerName}': " ++
        s!"[{a.aStart}s-{a.aEnd}s) and [{b.aStart}s-{b.aEnd}s)"))) rest
    checkPairs registerName rest

def checkOverlap (schedules : List AnomalyScheduleCreate) (registerName : String) :
    Except AppException Unit :=
  checkPairs registerName (schedules.filter (·.registerName = registerName))

/-- The checks of `set_schedules`, before anything is written. -/
def checkSchedules (validNames : List String) (schedules : List AnomalyScheduleCreate) :
    Except AppException Unit := do
  checkAll (fun s => raiseIf (s.registerName ∉ validNames)
    (validationException s!"Register '{s.registerName}' not found in device template")) schedules
  checkAll (checkOverlap schedules) (schedules.map (·.registerName)).eraseDups

theorem checkPairs_ok_iff (registerName : String) (l : List AnomalyScheduleCreate) :
    checkPairs registerName l = .ok () ↔ l.Pairwise fun a b =>
      ¬ Window.Overlap AnomalyScheduleCreate.aStart AnomalyScheduleCreate.aEnd a b := by
  induction l with
  | nil => simp [checkPairs]
  | cons a l ih => simp [checkPairs, ih, Window.Overlap]

/-- The in-memory entries of the schedules. -/
def toEntries (schedules : List AnomalyScheduleCreate) : List ScheduleEntry :=
  schedules.map (·.toScheduleEntry)

theorem disjoint_toEntries {schedules : List AnomalyScheduleCreate}
    (h : ∀ s ∈ schedules, checkOverlap schedules s.registerName = .ok ()) :
    OnePerMoment (toEntries schedules) := by
  simp only [OnePerMoment, toEntries, List.forall_mem_map]
  intro a ha b hb hname t hat hbt
  have hpair := (checkPairs_ok_iff _ _).1 (h a ha)
  have hmem : ∀ c ∈ schedules, c.registerName = a.registerName →
      c ∈ schedules.filter (·.registerName = a.registerName) := by
    intro c hc hname
    simpa using ⟨hc, hname⟩
  exact congrArg _ (Window.eq_of_inside_cast hpair (hmem a ha rfl) (hmem b hb hname.symm) hat hbt)

/-- From freshly loaded schedules: every call is served by the anomaly it should be exactly
when no `apply` call that finds no real-time anomaly falls into the window of another
schedule of its register than the last such call did. -/
theorem apply_serves_iff {schedules : List AnomalyScheduleCreate}
    (hcheck : ∀ s ∈ schedules, checkOverlap schedules s.registerName = .ok ())
    (inj : AnomalyInjector) (device : UUID) (register : String) (calls : List InjectorCall) :
    EachStep (Watch.step device register)
        (Watch.Serves device register (toEntries schedules))
        { injector := inj.loadSchedules device (toEntries schedules) } calls ↔
      EachStep (Watch.step device register)
        (fun w c _ => Watch.Resumes device register (toEntries schedules) w c)
        { injector := inj.loadSchedules device (toEntries schedules) } calls :=
  Watch.eachStep_serves_iff (disjoint_toEntries hcheck) (Watch.cached_load inj) calls

/-- Two touching schedules of one register. -/
def touchingSchedules : List AnomalyScheduleCreate := [
  { registerName := "voltage", anomalyType := .dataLoss, anomalyParams := [],
    triggerAfterSeconds := 0, durationSeconds := 10,
    trigger_nonneg := atStart_nonneg, duration_pos := tenSeconds_pos },
  { registerName := "voltage", anomalyType := .outOfRange, anomalyParams := [("value", .int 1)],
    triggerAfterSeconds := 10, durationSeconds := 10,
    trigger_nonneg := tenSeconds_nonneg, duration_pos := tenSeconds_pos }]

theorem checkOverlap_touching :
    ∀ s ∈ touchingSchedules, checkOverlap touchingSchedules s.registerName = .ok () := by
  decide

/-- The second schedule starts under a real-time anomaly. -/
def touchingCalls : List InjectorCall := [
  .apply 1 "voltage" .zero 5 .zero, .inject 1 "voltage" .flatline [],
  .apply 1 "voltage" .zero 12 .zero, .remove 1 "voltage", .apply 1 "voltage" .zero 14 .zero]

theorem apply_serves_touching :
    EachStep (Watch.step 1 "voltage")
        (Watch.Serves 1 "voltage" (toEntries touchingSchedules))
        { injector := AnomalyInjector.loadSchedules {} 1 (toEntries touchingSchedules) }
        touchingCalls ↔
      EachStep (Watch.step 1 "voltage")
        (fun w c _ => Watch.Resumes 1 "voltage" (toEntries touchingSchedules) w c)
        { injector := AnomalyInjector.loadSchedules {} 1 (toEntries touchingSchedules) }
        touchingCalls :=
  apply_serves_iff checkOverlap_touching _ _ _ _

theorem apply_keeps_ended_schedule :
    ¬ ∀ schedules : List AnomalyScheduleCreate,
      (∀ s ∈ schedules, checkOverlap schedules s.registerName = .ok ()) →
      ∀ (inj : AnomalyInjector) (device : UUID) (register : String) (calls : List InjectorCall),
        (calls.filterMap InjectorCall.elapsed).Pairwise (· ≤ ·) →
        EachStep (Watch.step device register)
          (Watch.Serves device register (toEntries schedules))
          { injector := inj.loadSchedules device (toEntries schedules) } calls := by
  intro h
  have hcalls := h touchingSchedules checkOverlap_touching {} 1 "voltage"
    [.apply 1 "voltage" .zero 5 .zero, .apply 1 "voltage" .zero 10 .zero]
    (by simp [InjectorCall.elapsed]; norm_num)
  obtain ⟨-, hserved, -⟩ := ((hcalls _ rfl).2 _ rfl).1 .zero 10 .zero rfl
  obtain ⟨st, hst, hcarry⟩ := hserved _ (List.mem_cons_of_mem _ (List.mem_singleton.2 rfl)) rfl
    ⟨by decide +kernel, by decide +kernel⟩
  have htype := congrArg (Option.map AnomalyState.anomalyType) hst
  rw [Option.map_some, hcarry.anomalyType] at htype
  exact absurd htype (by decide +kernel)

end GhostMeter.Services
