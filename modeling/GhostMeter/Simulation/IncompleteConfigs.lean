import GhostMeter.Simulation.ErrorRuns

/-! Configs that lack a param of their mode: the loop of the device ends with its fifth tick. -/

namespace GhostMeter

open GhostMeter.Lib GhostMeter.Simulation

/-- The params that the generator looks up without a default. -/
def DataMode.requiredParams : DataMode → List String
  | static => ["value"]
  | random | dailyCurve => ["base", "amplitude"]
  | computed => ["expression"]
  | accumulator => ["increment_per_second"]
  | other _ => []

def ConfigEntry.Incomplete (c : ConfigEntry) : Prop :=
  ∃ key ∈ c.dataMode.requiredParams, c.modeParams.lookup key = none

namespace Simulation

section Generate

variable {lib : PythonLib} {params : Params} {context : GeneratorContext} {draw : Draw}
  {key : String} {v : PyFloat}

theorem lookup_of_getItem {json : Json} (h : params.getItem key = .ok json) :
    params.lookup key ≠ none := by
  intro hnone
  rw [Params.getItem, hnone] at h
  cases h

theorem lookup_of_floatItem (h : floatItem params key = .ok v) : params.lookup key ≠ none := by
  obtain ⟨json, hjson, -⟩ := bind_ok_iff.1 h
  exact lookup_of_getItem hjson

/-- A value is generated only from all required params. -/
theorem lookup_of_generate {mode : DataMode} (h : generate lib mode params context draw = .ok v) :
    ∀ key ∈ mode.requiredParams, params.lookup key ≠ none := by
  cases mode with
  | static =>
    rw [generate, mapError_ok_iff] at h
    exact List.forall_mem_singleton.2 (lookup_of_floatItem h)
  | random =>
    simp only [generate, mapError_ok_iff, generateRandom, bind_ok_iff] at h
    obtain ⟨base, hbase, amplitude, hamplitude, -⟩ := h
    exact List.forall_mem_cons.2 ⟨lookup_of_floatItem hbase,
      List.forall_mem_singleton.2 (lookup_of_floatItem hamplitude)⟩
  | dailyCurve =>
    simp only [generate, mapError_ok_iff, generateDailyCurve, bind_ok_iff] at h
    obtain ⟨base, hbase, amplitude, hamplitude, -⟩ := h
    exact List.forall_mem_cons.2 ⟨lookup_of_floatItem hbase,
      List.forall_mem_singleton.2 (lookup_of_floatItem hamplitude)⟩
  | computed =>
    simp only [generate, generateComputed, bind_ok_iff, mapError_ok_iff] at h
    obtain ⟨json, hjson, -⟩ := h
    exact List.forall_mem_singleton.2 (lookup_of_getItem hjson)
  | accumulator =>
    simp only [generate, mapError_ok_iff, generateAccumulator, bind_ok_iff] at h
    obtain ⟨start, -, increment, hincrement, -⟩ := h
    exact List.forall_mem_singleton.2 (lookup_of_floatItem hincrement)
  | other name => exact fun key hkey => absurd hkey List.not_mem_nil

end Generate

/-- What a tick of a device starts from, and what surrounds its work. -/
structure TickInput where
  elapsed : ℚ
  hour : PyFloat
  values : Option (Dict String PyFloat)
  injector : AnomalyInjector
  rounds : List Round

/-- How each tick comes out, with a round for each of the valid configs. -/
def tickOutcomes (lib : PythonLib) (device : UUID) (registers : Dict String RegisterMeta)
    (configs : List SimulationConfig) (inputs : List TickInput) : List TickOutcome :=
  inputs.map fun i =>
    tickOutcome lib device i.elapsed i.hour registers configs i.values i.injector i.rounds

/-- Whatever the ticks meet, the fifth sets the device to error and is the last. -/
def FailsWithFifthTick (device : UUID) (registers : Dict String RegisterMeta)
    (configs : List SimulationConfig) : Prop :=
  ∀ (lib : PythonLib) (raises : Bool) (row : Option DeviceStatus) (inputs : List TickInput),
    (∀ i ∈ inputs, i.rounds.length = (validConfigs registers configs).length) →
      ((∃ s, exec (RunLoop.tick raises) { row }
          (tickOutcomes lib device registers configs inputs) = some s ∧ s.Ended raises row) ↔
        inputs.length = 5) ∧
      ((∃ s, exec (RunLoop.tick raises) { row }
          (tickOutcomes lib device registers configs inputs) = some s ∧ s.Ticking row) ↔
        inputs.length < 5)

section Ticks

variable {lib : PythonLib} {device : UUID} {registers : Dict String RegisterMeta}
  {configs : List SimulationConfig} {c : SimulationConfig}

theorem raises_of_incomplete {elapsed : ℚ} {hour : PyFloat} {t : Tick} {r : Round}
    (h : c.Incomplete) (hreg : registers c.registerName ≠ none) :
    t.Raises lib device elapsed hour registers (c, r) := by
  obtain ⟨reg, hreg⟩ := Option.ne_none_iff_exists'.1 hreg
  refine ⟨reg, hreg, ?_⟩
  obtain ⟨key, hkey, hnone⟩ := h
  unfold Tick.round
  dsimp only
  split
  next => rfl
  next value hvalue => exact absurd hnone (lookup_of_generate hvalue key hkey)

/-- A tick of a device with an incomplete config is not clean. -/
theorem not_clean_of_incomplete (hc : c ∈ configs) (h : c.Incomplete)
    (hreg : registers c.registerName ≠ none) {i : TickInput}
    (hrounds : i.rounds.length = (validConfigs registers configs).length) :
    tickOutcome lib device i.elapsed i.hour registers configs i.values i.injector i.rounds ≠
      .clean := by
  rw [Ne, tickOutcome_clean_iff]
  rintro ⟨current, -, hclean⟩
  have hvalid : c ∈ validConfigs registers configs :=
    mem_validConfigs.2 ⟨hc, Option.isSome_iff_ne_none.2 hreg⟩
  rw [← @List.map_fst_zip _ _ (validConfigs registers configs) i.rounds hrounds.ge] at hvalid
  obtain ⟨⟨c', r⟩, hmem, rfl⟩ := List.mem_map.1 hvalid
  obtain ⟨before, after, hsplit⟩ := List.append_of_mem hmem
  exact hclean before _ after hsplit (raises_of_incomplete h hreg)

theorem failsWithFifthTick (hc : c ∈ configs) (h : c.Incomplete)
    (hreg : registers c.registerName ≠ none) : FailsWithFifthTick device registers configs := by
  intro lib raises row inputs hrounds
  have hbad : ∀ o ∈ tickOutcomes lib device registers configs inputs, o.nonClean = true := by
    intro o ho
    obtain ⟨i, hi, rfl⟩ := List.mem_map.1 ho
    exact nonClean_iff.2 (not_clean_of_incomplete hc h hreg (hrounds i hi))
  have hlength : (tickOutcomes lib device registers configs inputs).length = inputs.length :=
    List.length_map _
  rw [exec_ended_iff, exec_ticking_iff, completesStreak_iff_of_all (by norm_num) hbad,
    hasStreak_iff_of_all hbad, hlength, not_le]
  exact ⟨Iff.rfl, Iff.rfl⟩

end Ticks

end Simulation

end GhostMeter
