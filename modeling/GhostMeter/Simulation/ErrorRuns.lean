import GhostMeter.Lib.Run
import GhostMeter.Lib.Streak
import GhostMeter.Simulation.Engine
import GhostMeter.Simulation.TickOrder

/-! The error count of `_run_device` over its ticks: the loop ends with the fifth tick in a row
that is not clean. -/

namespace GhostMeter.Simulation

open GhostMeter.Lib GhostMeter.Protocols

/-- What the `try` block of a tick comes to. -/
inductive TickOutcome
  | clean | registerRaised | tickRaised
  deriving DecidableEq

def TickOutcome.nonClean (o : TickOutcome) : Bool := o ≠ .clean

structure RunLoop where
  tickCount : ℕ := 0
  errorCount : ℕ := 0
  /-- The status in the device's row, if the database has one. -/
  row : Option DeviceStatus
  returned : Bool := false

/-- `_set_device_error`; what its session raises is logged. -/
def setDeviceError (raises : Bool) (row : Option DeviceStatus) : Option DeviceStatus :=
  if raises then row else row.map fun _ => .error

namespace RunLoop

/-- The counters after the `try` statement. -/
def count (s : RunLoop) : TickOutcome → RunLoop
  | .clean => { s with tickCount := s.tickCount + 1, errorCount := 0 }
  | .registerRaised => { s with tickCount := s.tickCount + 1, errorCount := s.errorCount + 1 }
  | .tickRaised => { s with errorCount := s.errorCount + 1 }

def tick (raises : Bool) (s : RunLoop) (outcome : TickOutcome) : Option RunLoop :=
  if s.returned then none
  else
    let s := s.count outcome
    some (if s.errorCount ≥ 5 then
      { s with row := setDeviceError raises s.row, returned := true } else s)

/-- The loop ticks on, and has left the device's row alone. -/
structure Ticking (row : Option DeviceStatus) (s : RunLoop) : Prop where
  returned : s.returned = false
  row : s.row = row

/-- The loop has returned, and the device's row has the status error, unless the session raised. -/
structure Ended (raises : Bool) (row : Option DeviceStatus) (s : RunLoop) : Prop where
  returned : s.returned = true
  written : raises = false → s.row = row.map fun _ => .error
  unwritten : raises = true → s.row = row

end RunLoop

section Loop

open RunLoop TickOutcome

variable {raises : Bool} {row : Option DeviceStatus} {s s' : RunLoop} {ls : List TickOutcome}
  {o : TickOutcome}

/-- The counter of errors is the length of the current run of them. -/
theorem count_errorCount (h : s.errorCount = streak nonClean ls) :
    (s.count o).errorCount = streak nonClean (ls ++ [o]) := by
  rw [streak_concat, ← h]
  cases o <;> rfl

/-- A tick of a loop that ticks: it is the last one if it completes five errors. -/
theorem tick_cases (raises : Bool) (o : TickOutcome) (hs : s.Ticking row)
    (h : s.errorCount = streak nonClean ls) :
    (EndsInStreak nonClean 5 (ls ++ [o]) ∧
        ∃ s', s.tick raises o = some s' ∧ s'.Ended raises row) ∨
      (¬ EndsInStreak nonClean 5 (ls ++ [o]) ∧
        ∃ s', s.tick raises o = some s' ∧ s'.Ticking row ∧
          s'.errorCount = streak nonClean (ls ++ [o])) := by
  have hcount := count_errorCount (o := o) h
  have hkept : (s.count o).returned = false ∧ (s.count o).row = row := by
    obtain ⟨hreturned, hrow⟩ := hs
    cases o <;> exact ⟨hreturned, hrow⟩
  have hends : EndsInStreak nonClean 5 (ls ++ [o]) ↔ 5 ≤ (s.count o).errorCount := by
    rw [endsInStreak_iff, hcount]
  have htick : s.tick raises o = some (if (s.count o).errorCount ≥ 5 then
      { s.count o with row := setDeviceError raises (s.count o).row, returned := true }
      else s.count o) := by
    rw [RunLoop.tick, hs.returned, if_neg (by simp)]
  by_cases hfive : 5 ≤ (s.count o).errorCount
  · refine .inl ⟨hends.2 hfive, _, htick, ?_⟩
    rw [if_pos hfive]
    refine ⟨rfl, ?_, ?_⟩
    · rintro rfl
      exact congrArg (Option.map fun _ => DeviceStatus.error) hkept.2
    · rintro rfl
      exact hkept.2
  · refine .inr ⟨fun h => hfive (hends.1 h), _, htick, ?_⟩
    rw [if_neg hfive]
    exact ⟨⟨hkept.1, hkept.2⟩, hcount⟩

theorem RunLoop.Ended.not_ticking (h : s.Ended raises row) : ¬ s.Ticking row := fun hticking => by
  cases h.returned.symm.trans hticking.returned

theorem tick_ended (h : s.Ended raises row) : s.tick raises o = none := by
  rw [RunLoop.tick, if_pos h.returned]

/-- Where the loop is after the ticks, if it has come so far. -/
theorem exec_cases (raises : Bool) (row : Option DeviceStatus) (ls : List TickOutcome) :
    (¬ HasStreak nonClean 5 ls ∧ ∃ s, exec (tick raises) { row } ls = some s ∧ s.Ticking row ∧
        s.errorCount = streak nonClean ls) ∨
      (CompletesStreak nonClean 5 ls ∧ ∃ s, exec (tick raises) { row } ls = some s ∧
        s.Ended raises row) ∨
      (HasStreak nonClean 5 ls.dropLast ∧ exec (tick raises) { row } ls = none) := by
  induction ls using List.reverseRecOn with
  | nil => exact .inl ⟨not_hasStreak_nil (by norm_num), _, rfl, ⟨rfl, rfl⟩, rfl⟩
  | append_singleton ls o ih =>
    simp only [exec_concat, completesStreak_concat, hasStreak_concat, List.dropLast_concat]
    rcases ih with ⟨hnone, s, hs, hticking, hcount⟩ | ⟨hcompletes, s, hs, hended⟩ | ⟨hearlier, hs⟩
    · rw [hs]
      rcases tick_cases raises o hticking hcount with
        ⟨hends, s', hs', hended⟩ | ⟨hends, s', hs', hticking', hcount'⟩
      · exact .inr (.inl ⟨⟨hends, hnone⟩, s', hs', hended⟩)
      · exact .inl ⟨not_or.2 ⟨hends, hnone⟩, s', hs', hticking', hcount'⟩
    · rw [hs]
      exact .inr (.inr ⟨hcompletes.hasStreak, tick_ended hended⟩)
    · rw [hs]
      exact .inr (.inr ⟨hearlier.of_dropLast, rfl⟩)

theorem exec_ended_iff : (∃ s, exec (tick raises) { row } ls = some s ∧ s.Ended raises row) ↔
    CompletesStreak nonClean 5 ls := by
  rcases exec_cases raises row ls with
    ⟨hnone, s, hs, hticking, -⟩ | ⟨hcompletes, hended⟩ | ⟨hearlier, hs⟩
  · refine iff_of_false ?_ fun h => hnone h.hasStreak
    rintro ⟨s', hs', hended⟩
    obtain rfl := Option.some.inj (hs.symm.trans hs')
    exact hended.not_ticking hticking
  · exact iff_of_true hended hcompletes
  · refine iff_of_false ?_ fun h => h.2 hearlier
    rintro ⟨s, hs', -⟩
    cases hs.symm.trans hs'

theorem exec_ticking_iff : (∃ s, exec (tick raises) { row } ls = some s ∧ s.Ticking row) ↔
    ¬ HasStreak nonClean 5 ls := by
  rcases exec_cases raises row ls with
    ⟨hnone, s, hs, hticking, -⟩ | ⟨hcompletes, s, hs, hended⟩ | ⟨hearlier, hs⟩
  · exact iff_of_true ⟨s, hs, hticking⟩ hnone
  · refine iff_of_false ?_ fun h => h hcompletes.hasStreak
    rintro ⟨s', hs', hticking⟩
    obtain rfl := Option.some.inj (hs.symm.trans hs')
    exact hended.not_ticking hticking
  · refine iff_of_false ?_ fun h => h hearlier.of_dropLast
    rintro ⟨s, hs', -⟩
    cases hs.symm.trans hs'

theorem nonClean_iff : o.nonClean = true ↔ o ≠ .clean := decide_eq_true_iff

/-- The loop sets the device to error and returns with the tick that completes the first run of
five that are not clean, and with no other; until then it ticks on, and every clean tick makes it
forget the errors before. -/
theorem returns_after_five_errors (raises : Bool) (row : Option DeviceStatus) :
    (∀ ls : List TickOutcome,
      ((∃ s, exec (tick raises) { row } ls = some s ∧ s.Ended raises row) ↔
        CompletesStreak nonClean 5 ls) ∧
      ((∃ s, exec (tick raises) { row } ls = some s ∧ s.Ticking row) ↔
        ¬ HasStreak nonClean 5 ls)) ∧
    (∀ ls ms : List TickOutcome,
      (∃ s, exec (tick raises) { row } (ls ++ .clean :: ms) = some s ∧ s.Ticking row) ↔
        (∃ s, exec (tick raises) { row } ls = some s ∧ s.Ticking row) ∧
        ∃ s, exec (tick raises) { row } ms = some s ∧ s.Ticking row) ∧
    ∀ outcomes : ℕ → TickOutcome,
      (∀ n, (∃ s, exec (tick raises) { row } (firsts outcomes (n + 1)) = some s ∧
          s.Ended raises row) ↔
        IsLeast {n | 4 ≤ n ∧ ∀ i, n - 4 ≤ i → i ≤ n → outcomes i ≠ .clean} n) ∧
      ((∀ n, ∃ s, exec (tick raises) { row } (firsts outcomes n) = some s ∧ s.Ticking row) ↔
        ∀ n, ∃ i, n ≤ i ∧ i < n + 5 ∧ outcomes i = .clean) := by
  have hfive : 0 < 5 := by norm_num
  refine ⟨fun ls => ⟨exec_ended_iff, exec_ticking_iff⟩, fun ls ms => ?_, fun outcomes => ⟨?_, ?_⟩⟩
  · rw [exec_ticking_iff, exec_ticking_iff, exec_ticking_iff, hasStreak_append_cons hfive rfl,
      not_or]
  · intro n
    have hset : {n | 5 ≤ n + 1 ∧ ∀ i, n + 1 - 5 ≤ i → i ≤ n → (outcomes i).nonClean} =
        {n | 4 ≤ n ∧ ∀ i, n - 4 ≤ i → i ≤ n → outcomes i ≠ .clean} := by
      ext n
      simp only [Set.mem_ofPred_eq, nonClean_iff, Nat.reduceLeDiff, Nat.reduceSubDiff]
    rw [exec_ended_iff, completesStreak_firsts_iff hfive, hset]
  · simp only [exec_ticking_iff, hasStreak_firsts_iff hfive, nonClean_iff]
    constructor
    · intro h n
      by_contra hnone
      push Not at hnone
      exact h (n + 5) ⟨n, le_rfl, hnone⟩
    · rintro h n ⟨m, -, hbad⟩
      obtain ⟨i, hi, hlt, hclean⟩ := h m
      exact hbad i hi hlt hclean

end Loop

section Rounds

variable (lib : PythonLib) (device : UUID) (elapsed : ℚ) (hour : PyFloat)
  (registers : Dict String RegisterMeta)

/-- The work on the register raises, from where the tick is. -/
def Tick.Raises (t : Tick) (p : SimulationConfig × Round) : Prop :=
  ∃ reg, registers p.1.registerName = some reg ∧
    ({ t with hadError := false }.round lib device elapsed hour p.1 reg p.2).hadError = true

/-- The outcome of a tick of the device, whose values are looked up before the registers are. -/
def tickOutcome (configs : List SimulationConfig) (values : Option (Dict String PyFloat))
    (injector : AnomalyInjector) (rounds : List Round) : TickOutcome :=
  match values with
  | none => .tickRaised
  | some values =>
    if (runTick lib device registers configs elapsed hour values injector rounds).hadError then
      .registerRaised
    else .clean

variable {lib device elapsed hour registers}

theorem round_hadError (t : Tick) (c : SimulationConfig) (reg : RegisterMeta) (r : Round) :
    (t.round lib device elapsed hour c reg r).hadError = (t.hadError ||
      ({ t with hadError := false }.round lib device elapsed hour c reg r).hadError) := by
  unfold Tick.round
  dsimp only
  split
  next => simp
  next value =>
    split
    next => simp
    next =>
      unfold Tick.store
      split
      next => simp
      next => simp

/-- A tick has had an error if the work on one of its registers has raised. -/
theorem run_hadError_iff (t : Tick) (work : List (SimulationConfig × Round)) :
    (t.run lib device elapsed hour registers work).hadError ↔
      t.hadError ∨ ∃ before p after, work = before ++ p :: after ∧
        (t.run lib device elapsed hour registers before).Raises lib device elapsed hour
          registers p := by
  induction work generalizing t with
  | nil => simp [Tick.run]
  | cons p work ih =>
    have hfirst : (t.run lib device elapsed hour registers [p]).hadError ↔
        t.hadError ∨ t.Raises lib device elapsed hour registers p := by
      unfold Tick.run Tick.Raises
      rw [List.foldl_cons, List.foldl_nil]
      cases hreg : registers p.1.registerName with
      | none => simp
      | some reg => simp [round_hadError t]
    have hrun (rest : List (SimulationConfig × Round)) :
        t.run lib device elapsed hour registers (p :: rest) =
          (t.run lib device elapsed hour registers [p]).run lib device elapsed hour registers
            rest := rfl
    rw [hrun, ih, hfirst, or_assoc]
    refine or_congr_right ⟨?_, ?_⟩
    · rintro (hraises | ⟨before, q, after, rfl, hraises⟩)
      · exact ⟨[], p, work, rfl, hraises⟩
      · exact ⟨p :: before, q, after, rfl, hraises⟩
    · rintro ⟨before, q, after, hsplit, hraises⟩
      cases before with
      | nil =>
        cases hsplit
        exact .inl hraises
      | cons p' before =>
        obtain ⟨rfl, rfl⟩ := List.cons.inj hsplit
        exact .inr ⟨before, q, after, rfl, hraises⟩

/-- A tick is clean if the device has values and the work on no register raises. -/
theorem tickOutcome_clean_iff {configs : List SimulationConfig}
    {values : Option (Dict String PyFloat)} {injector : AnomalyInjector} {rounds : List Round} :
    tickOutcome lib device elapsed hour registers configs values injector rounds = .clean ↔
      ∃ current, values = some current ∧
        ∀ before p after, (validConfigs registers configs).zip rounds = before ++ p :: after →
          ¬ (Tick.run lib device elapsed hour registers { values := current, injector }
            before).Raises lib device elapsed hour registers p := by
  unfold tickOutcome
  cases values with
  | none => simp
  | some current =>
    have hclean : (if (runTick lib device registers configs elapsed hour current injector
          rounds).hadError then TickOutcome.registerRaised else .clean) = .clean ↔
        ¬ (runTick lib device registers configs elapsed hour current injector
          rounds).hadError := by
      split <;> simp_all
    rw [hclean]
    unfold runTick
    rw [run_hadError_iff]
    simp

end Rounds

section Engine

variable {e : SimulationEngine} {t : TaskRef} {task : SimTask} {r : RunLoop}

/-- A tick of the loop is what the engine makes of the tick of the task. -/
theorem step_tick_simulates (htask : e.tasks[t]? = some task) (hrunning : task.status = .running)
    (hcount : r.errorCount = task.errorCount) (hreturned : r.returned = false) (raises : Bool)
    (o : TickOutcome) (values : Dict String PyFloat) (injector : AnomalyInjector) :
    ∃ r' e', r.tick raises o = some r' ∧
      e.step (.tick t o.nonClean values injector) = some e' ∧
      e'.tasks[t]? = some { task with
        errorCount := r'.errorCount
        status := if r'.returned then .settingError else .running } := by
  have hnext : SimulationEngine.nextErrorCount task o.nonClean = (r.count o).errorCount := by
    unfold SimulationEngine.nextErrorCount
    rw [← hcount]
    cases o <;> rfl
  have hkept : (r.count o).returned = false := by
    cases o <;> exact hreturned
  have hlt : t < e.tasks.length := (List.getElem?_eq_some_iff.1 htask).1
  simp only [RunLoop.tick, hreturned, SimulationEngine.step, htask, hrunning, hnext]
  refine ⟨_, _, rfl, rfl, ?_⟩
  by_cases hfive : 5 ≤ (r.count o).errorCount
  · simp [hfive, SimulationEngine.setTask, hlt]
  · simp [hfive, hkept, SimulationEngine.setTask, hlt]

end Engine

end GhostMeter.Simulation
