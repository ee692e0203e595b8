import GhostMeter.Services.ScenarioRunner

/-! What the timeline loop leaves in the injector, at every elapsed time. -/

namespace GhostMeter.Services.Timeline

open GhostMeter.Lib GhostMeter.Simulation

variable {device : UUID} {elapsed : ℚ} {l : List (StepInfo × ℕ)} {s : Timeline}

/-- The device's real-time anomalies. -/
def realtime (device : UUID) (s : Timeline) : Dict String AnomalyState :=
  s.injector.getActive device

@[simp] theorem realtime_trigger (step : StepInfo) (i : ℕ) :
    (s.trigger device step i).realtime device =
      (s.realtime device).set step.registerName step.anomaly := by
  simp [trigger, realtime, StepInfo.anomaly]

@[simp] theorem activeAnomalies_trigger (step : StepInfo) (i : ℕ) :
    (s.trigger device step i).running.activeAnomalies =
      insert step.registerName s.running.activeAnomalies := rfl

@[simp] theorem triggered_trigger (step : StepInfo) (i : ℕ) :
    (s.trigger device step i).triggered = insert i s.triggered := rfl

@[simp] theorem steps_trigger (step : StepInfo) (i : ℕ) :
    (s.trigger device step i).running.steps = s.running.steps := rfl

@[simp] theorem realtime_release (step : StepInfo) :
    (s.release device step).realtime device = (s.realtime device).pop step.registerName := by
  simp [release, realtime]

@[simp] theorem activeAnomalies_release (step : StepInfo) :
    (s.release device step).running.activeAnomalies =
      s.running.activeAnomalies.erase step.registerName := rfl

@[simp] theorem triggered_release (step : StepInfo) :
    (s.release device step).triggered = s.triggered := rfl

@[simp] theorem steps_release (step : StepInfo) :
    (s.release device step).running.steps = s.running.steps := rfl

/-- The activation loop over `l`, started in `s`, triggers `step` at index `i`. -/
def Fires (elapsed : ℚ) (s : Timeline) (l : List (StepInfo × ℕ)) (step : StepInfo) (i : ℕ) :
    Prop :=
  (step, i) ∈ l ∧ i ∉ s.triggered ∧ (step.triggerAtSeconds : ℚ) ≤ elapsed

/-- The deactivation loop over `l`, started in `s`, finds a finished step on `r`. -/
def Expires (elapsed : ℚ) (s : Timeline) (l : List (StepInfo × ℕ)) (r : String) : Prop :=
  ∃ step i, (step, i) ∈ l ∧ step.registerName = r ∧ i ∈ s.triggered ∧ (step.endAt : ℚ) ≤ elapsed

theorem foldl_activate_steps (l : List (StepInfo × ℕ)) (s : Timeline) :
    (l.foldl (activateStep device elapsed) s).running.steps = s.running.steps := by
  induction l generalizing s with
  | nil => rfl
  | cons entry l ih =>
    rw [List.foldl_cons, ih, activateStep]
    split <;> simp

theorem foldl_activate_triggered (l : List (StepInfo × ℕ)) (s : Timeline) (i : ℕ) :
    i ∈ (l.foldl (activateStep device elapsed) s).triggered ↔
      i ∈ s.triggered ∨ ∃ step, (step, i) ∈ l ∧ (step.triggerAtSeconds : ℚ) ≤ elapsed := by
  induction l generalizing s with
  | nil => simp
  | cons entry l ih =>
    obtain ⟨step, j⟩ := entry
    have hhead : i ∈ (activateStep device elapsed s (step, j)).triggered ↔
        i ∈ s.triggered ∨ i = j ∧ (step.triggerAtSeconds : ℚ) ≤ elapsed := by
      unfold activateStep
      split
      next h => simp [h.2, or_comm]
      next h =>
        refine ⟨Or.inl, ?_⟩
        rintro (hi | ⟨rfl, ht⟩)
        · exact hi
        · exact not_not.1 fun hi => h ⟨hi, ht⟩
    rw [List.foldl_cons, ih, hhead]
    constructor
    · rintro ((h | ⟨rfl, h⟩) | ⟨step', h, h'⟩)
      · exact Or.inl h
      · exact Or.inr ⟨step, by simp, h⟩
      · exact Or.inr ⟨step', by simp [h], h'⟩
    · rintro (h | ⟨step', h, h'⟩)
      · exact Or.inl (Or.inl h)
      · rcases List.mem_cons.1 h with heq | h
        · obtain ⟨rfl, rfl⟩ := Prod.mk.inj heq
          exact Or.inl (Or.inr ⟨rfl, h'⟩)
        · exact Or.inr ⟨step', h, h'⟩

/-- After a head that fires, the same steps of the tail fire. -/
theorem fires_tail {step : StepInfo} {j : ℕ} (hl : j ∉ l.map Prod.snd) {step' : StepInfo}
    {i : ℕ} : Fires elapsed (s.trigger device step j) l step' i ↔ Fires elapsed s l step' i := by
  refine and_congr_right fun hmem => ?_
  have hne : i ≠ j := by
    rintro rfl
    exact hl (List.mem_map.2 ⟨(step', i), hmem, rfl⟩)
  simp [hne]

/-- A register no step fires on keeps its anomaly; otherwise it gets that of a firing step. -/
theorem foldl_activate_register (hl : (l.map Prod.snd).Nodup) (s : Timeline) (r : String) :
    let s' := l.foldl (activateStep device elapsed) s
    ((r ∈ s'.running.activeAnomalies ↔ r ∈ s.running.activeAnomalies) ∧
        s'.realtime device r = s.realtime device r ∧
        ∀ step i, Fires elapsed s l step i → step.registerName ≠ r) ∨
      r ∈ s'.running.activeAnomalies ∧
        ∃ step i, Fires elapsed s l step i ∧ step.registerName = r ∧
          s'.realtime device r = some step.anomaly := by
  induction l generalizing s with
  | nil => exact Or.inl ⟨Iff.rfl, rfl, fun _ _ h => absurd h.1 (by simp)⟩
  | cons entry l ih =>
    obtain ⟨step, j⟩ := entry
    simp only [List.map_cons, List.nodup_cons] at hl
    simp only [List.foldl_cons]
    by_cases hfire : j ∉ s.triggered ∧ (step.triggerAtSeconds : ℚ) ≤ elapsed
    · rw [show activateStep device elapsed s (step, j) = s.trigger device step j from if_pos hfire]
      rcases ih hl.2 (s.trigger device step j) with ⟨ha, hm, hno⟩ | ⟨ha, st, i, hf, hr, hm⟩
      · by_cases hr : step.registerName = r
        · subst hr
          exact Or.inr ⟨by simp [ha], step, j, ⟨by simp, hfire⟩, rfl, by simp [hm]⟩
        · refine Or.inl ⟨by simp [ha, Ne.symm hr], ?_, ?_⟩
          · rw [hm, realtime_trigger, Dict.set_of_ne _ _ (Ne.symm hr)]
          · rintro st i ⟨hmem, hrest⟩
            rcases List.mem_cons.1 hmem with heq | hmem
            · obtain ⟨rfl, rfl⟩ := Prod.mk.inj heq
              exact hr
            · exact hno st i ((fires_tail hl.1).2 ⟨hmem, hrest⟩)
      · have hf' := (fires_tail hl.1).1 hf
        exact Or.inr ⟨ha, st, i, ⟨List.mem_cons_of_mem _ hf'.1, hf'.2⟩, hr, hm⟩
    · rw [show activateStep device elapsed s (step, j) = s from if_neg hfire]
      rcases ih hl.2 s with ⟨ha, hm, hno⟩ | ⟨ha, st, i, hf, hr, hm⟩
      · refine Or.inl ⟨ha, hm, ?_⟩
        rintro st i ⟨hmem, hrest⟩
        rcases List.mem_cons.1 hmem with heq | hmem
        · obtain ⟨rfl, rfl⟩ := Prod.mk.inj heq
          exact absurd hrest hfire
        · exact hno st i ⟨hmem, hrest⟩
      · exact Or.inr ⟨ha, st, i, ⟨List.mem_cons_of_mem _ hf.1, hf.2⟩, hr, hm⟩

theorem foldl_deactivate_steps (l : List (StepInfo × ℕ)) (s : Timeline) :
    (l.foldl (deactivateStep device elapsed) s).running.steps = s.running.steps := by
  induction l generalizing s with
  | nil => rfl
  | cons entry l ih =>
    rw [List.foldl_cons, ih, deactivateStep]
    split <;> simp

theorem foldl_deactivate_triggered (l : List (StepInfo × ℕ)) (s : Timeline) :
    (l.foldl (deactivateStep device elapsed) s).triggered = s.triggered := by
  induction l generalizing s with
  | nil => rfl
  | cons entry l ih =>
    rw [List.foldl_cons, ih, deactivateStep]
    split <;> simp

theorem expires_cons {entry : StepInfo × ℕ} {r : String} :
    Expires elapsed s (entry :: l) r ↔
      (entry.1.registerName = r ∧ entry.2 ∈ s.triggered ∧ (entry.1.endAt : ℚ) ≤ elapsed) ∨
        Expires elapsed s l r := by
  constructor
  · rintro ⟨step, i, hmem, h⟩
    rcases List.mem_cons.1 hmem with rfl | hmem
    · exact Or.inl h
    · exact Or.inr ⟨step, i, hmem, h⟩
  · rintro (h | ⟨step, i, hmem, h⟩)
    · exact ⟨entry.1, entry.2, by simp, h⟩
    · exact ⟨step, i, List.mem_cons_of_mem _ hmem, h⟩

/-- The deactivation loop takes the registers with a finished step out of the active ones. -/
theorem foldl_deactivate_active (l : List (StepInfo × ℕ)) (s : Timeline) (r : String) :
    r ∈ (l.foldl (deactivateStep device elapsed) s).running.activeAnomalies ↔
      r ∈ s.running.activeAnomalies ∧ ¬ Expires elapsed s l r := by
  induction l generalizing s with
  | nil => simp [Expires]
  | cons entry l ih =>
    rw [List.foldl_cons, ih, expires_cons, deactivateStep]
    split
    next h =>
      have hexp : Expires elapsed (s.release device entry.1) l r ↔ Expires elapsed s l r := Iff.rfl
      rw [hexp, activeAnomalies_release, Finset.mem_erase]
      by_cases hr : entry.1.registerName = r
      · simp [hr, h.1, h.2.1]
      · simp [hr, Ne.symm hr]
    next h =>
      refine and_congr_right fun hr => ?_
      have hhead : ¬ (entry.1.registerName = r ∧ entry.2 ∈ s.triggered ∧
          (entry.1.endAt : ℚ) ≤ elapsed) := by
        rintro ⟨rfl, hi, he⟩
        exact h ⟨hi, he, hr⟩
      rw [or_iff_right hhead]

theorem foldl_deactivate_realtime (l : List (StepInfo × ℕ)) (s : Timeline) {r : String}
    (h : ¬ Expires elapsed s l r) :
    (l.foldl (deactivateStep device elapsed) s).realtime device r = s.realtime device r := by
  induction l generalizing s with
  | nil => rfl
  | cons entry l ih =>
    rw [expires_cons, not_or] at h
    rw [List.foldl_cons, deactivateStep]
    split
    next hc =>
      have hr : r ≠ entry.1.registerName := fun hr => h.1 ⟨hr.symm, hc.1, hc.2.1⟩
      rw [ih (s.release device entry.1) h.2, realtime_release, Dict.pop_of_ne _ hr]
    next => exact ih s h.2

/-- The scenario's active registers are the ones with a real-time anomaly. -/
def Synced (device : UUID) (s : Timeline) : Prop :=
  ∀ r, r ∈ s.running.activeAnomalies ↔ (s.realtime device r).isSome

theorem Synced.activateStep (h : Synced device s) (entry : StepInfo × ℕ) :
    Synced device (activateStep device elapsed s entry) := by
  unfold Timeline.activateStep
  split
  · intro r
    by_cases hr : r = entry.1.registerName
    · simp [hr]
    · simp [hr, Dict.set_of_ne, h r]
  · exact h

theorem Synced.deactivateStep (h : Synced device s) (entry : StepInfo × ℕ) :
    Synced device (deactivateStep device elapsed s entry) := by
  unfold Timeline.deactivateStep
  split
  · intro r
    by_cases hr : r = entry.1.registerName
    · simp [hr]
    · simp [hr, Dict.pop_of_ne, h r]
  · exact h

@[simp] theorem realtime_checkComplete :
    (s.checkComplete device elapsed).realtime device = s.realtime device := by
  unfold checkComplete
  split <;> rfl

@[simp] theorem activeAnomalies_checkComplete :
    (s.checkComplete device elapsed).running.activeAnomalies = s.running.activeAnomalies := by
  unfold checkComplete
  split <;> rfl

@[simp] theorem triggered_checkComplete :
    (s.checkComplete device elapsed).triggered = s.triggered := by
  unfold checkComplete
  split <;> rfl

@[simp] theorem steps_checkComplete :
    (s.checkComplete device elapsed).running.steps = s.running.steps := by
  unfold checkComplete
  split <;> rfl

/-- No two steps of one register cover a common moment. -/
def Separate (steps : List StepInfo) : Prop :=
  ∀ a ∈ steps, ∀ b ∈ steps, a.registerName = b.registerName →
    ∀ t, a.Covers t → b.Covers t → a = b

/-- The loop's state once its body has seen exactly the moments in `past`: a register holds
an anomaly when one of its steps has started and none has finished. -/
structure After (device : UUID) (past : Set ℤ) (s : Timeline) : Prop where
  synced : Synced device s
  triggered : ∀ step i, (step, i) ∈ s.running.steps.zipIdx →
    (i ∈ s.triggered ↔ step.triggerAtSeconds ∈ past)
  waiting : ∀ r, (∀ step ∈ s.running.steps, step.registerName = r →
    step.triggerAtSeconds ∉ past) → r ∉ s.running.activeAnomalies
  finished : ∀ step ∈ s.running.steps, step.endAt ∈ past →
    step.registerName ∉ s.running.activeAnomalies
  live : ∀ step ∈ s.running.steps, step.triggerAtSeconds ∈ past →
    (∀ b ∈ s.running.steps, b.registerName = step.registerName → b.endAt ∉ past) →
    s.realtime device step.registerName = some step.anomaly

/-- The moments an elapsed time has reached. -/
def reached (t : ℚ) : Set ℤ := {x | (x : ℚ) ≤ t}

section Body

variable {past : Set ℤ}

theorem zipIdx_nodup (steps : List StepInfo) : (steps.zipIdx.map Prod.snd).Nodup := by
  rw [List.zipIdx_map_snd]
  exact List.nodup_range' ..

theorem mem_zipIdx_right {steps : List StepInfo} {a b : StepInfo} {i : ℕ}
    (ha : (a, i) ∈ steps.zipIdx) (hb : (b, i) ∈ steps.zipIdx) : a = b := by
  rw [List.mem_zipIdx_iff_getElem?] at ha hb
  exact Option.some.inj (ha.symm.trans hb)

theorem exists_mem_zipIdx {steps : List StepInfo} {step : StepInfo} (h : step ∈ steps) :
    ∃ i, (step, i) ∈ steps.zipIdx := by
  obtain ⟨i, hi⟩ := List.mem_iff_getElem?.1 h
  exact ⟨i, List.mk_mem_zipIdx_iff_getElem?.2 hi⟩

theorem mem_activate_triggered (h : After device past s) (hpast : past ⊆ reached elapsed)
    {step : StepInfo} {i : ℕ} (hmem : (step, i) ∈ s.running.steps.zipIdx) :
    i ∈ (s.activate device elapsed).triggered ↔ step.triggerAtSeconds ∈ reached elapsed := by
  rw [activate, foldl_activate_triggered, h.triggered step i hmem]
  constructor
  · rintro (hp | ⟨step', hmem', hle⟩)
    · exact hpast hp
    · rwa [mem_zipIdx_right hmem hmem']
  · exact fun hle => Or.inr ⟨step, hmem, hle⟩

theorem expires_activate (hpos : ∀ step ∈ s.running.steps, 0 < step.durationSeconds)
    (h : After device past s) (hpast : past ⊆ reached elapsed) (r : String) :
    Expires elapsed (s.activate device elapsed) s.running.steps.zipIdx r ↔
      ∃ step ∈ s.running.steps, step.registerName = r ∧ step.endAt ∈ reached elapsed := by
  constructor
  · rintro ⟨step, i, hmem, hr, -, hend⟩
    exact ⟨step, List.fst_mem_of_mem_zipIdx hmem, hr, hend⟩
  · rintro ⟨step, hmem, hr, hend⟩
    obtain ⟨i, hi⟩ := exists_mem_zipIdx hmem
    refine ⟨step, i, hi, hr, (mem_activate_triggered h hpast hi).2 ?_, hend⟩
    have hlt : (step.triggerAtSeconds : ℚ) < step.endAt := by
      exact_mod_cast Int.lt_add_of_pos_right _ (hpos step hmem)
    exact hlt.le.trans hend

@[simp] theorem steps_activate :
    (s.activate device elapsed).running.steps = s.running.steps :=
  foldl_activate_steps ..

@[simp] theorem steps_body : (s.body device elapsed).running.steps = s.running.steps := by
  rw [body, steps_checkComplete, deactivate, foldl_deactivate_steps, steps_activate]

theorem triggered_body :
    (s.body device elapsed).triggered = (s.activate device elapsed).triggered := by
  rw [body, triggered_checkComplete, deactivate, foldl_deactivate_triggered]

theorem active_body (r : String) :
    r ∈ (s.body device elapsed).running.activeAnomalies ↔
      r ∈ (s.activate device elapsed).running.activeAnomalies ∧
        ¬ Expires elapsed (s.activate device elapsed) s.running.steps.zipIdx r := by
  rw [body, activeAnomalies_checkComplete, deactivate, foldl_deactivate_active, steps_activate]

theorem realtime_body {r : String}
    (h : ¬ Expires elapsed (s.activate device elapsed) s.running.steps.zipIdx r) :
    (s.body device elapsed).realtime device r = (s.activate device elapsed).realtime device r := by
  rw [body, realtime_checkComplete, deactivate, foldl_deactivate_realtime]
  rwa [steps_activate]

theorem synced_body (h : Synced device s) : Synced device (s.body device elapsed) := by
  have hact : Synced device (s.activate device elapsed) :=
    List.foldlRecOn _ _ h fun _ hb entry _ => hb.activateStep entry
  have hde : Synced device ((s.activate device elapsed).deactivate device elapsed) :=
    List.foldlRecOn _ _ hact fun _ hb entry _ => hb.deactivateStep entry
  intro r
  rw [body, activeAnomalies_checkComplete, realtime_checkComplete]
  exact hde r

theorem after_body (hsep : Separate s.running.steps)
    (hpos : ∀ step ∈ s.running.steps, 0 < step.durationSeconds)
    (hpast : past ⊆ reached elapsed) (h : After device past s) :
    After device (reached elapsed) (s.body device elapsed) := by
  have hexp := expires_activate hpos h hpast
  have hreg := @foldl_activate_register device elapsed _ (zipIdx_nodup s.running.steps) s
  refine ⟨synced_body h.synced, ?_, ?_, ?_, ?_⟩
  · intro step i hmem
    rw [steps_body] at hmem
    rw [triggered_body, mem_activate_triggered h hpast hmem]
  · intro r hr hmem
    rw [steps_body] at hr
    rcases hreg r with ⟨hact, -, -⟩ | ⟨-, step, i, hf, hname, -⟩
    · refine h.waiting r (fun step hs hname hp => hr step hs hname (hpast hp)) ?_
      exact hact.1 ((active_body r).1 hmem).1
    · exact hr step (List.fst_mem_of_mem_zipIdx hf.1) hname hf.2.2
  · intro step hs hend hmem
    rw [steps_body] at hs
    exact ((active_body _).1 hmem).2 ((hexp _).2 ⟨step, hs, rfl, hend⟩)
  · intro step hs hstart hends
    rw [steps_body] at hs hends
    have hnot : ¬ Expires elapsed (s.activate device elapsed) s.running.steps.zipIdx
        step.registerName := by
      rw [hexp]
      rintro ⟨b, hb, hname, hend⟩
      exact hends b hb hname hend
    rw [realtime_body hnot]
    rcases hreg step.registerName with ⟨-, hmap, hno⟩ | ⟨-, b, i, hf, hname, hmap⟩
    · -- no step fires on the register, so this one was triggered by an earlier body
      obtain ⟨i, hi⟩ := exists_mem_zipIdx hs
      have htrig : i ∈ s.triggered := not_not.1 fun hnt => hno step i ⟨hi, hnt, hstart⟩ rfl
      have hpaststart := (h.triggered step i hi).1 htrig
      rw [activate, hmap]
      exact h.live step hs hpaststart fun b hb hname hend => hends b hb hname (hpast hend)
    · have hb := List.fst_mem_of_mem_zipIdx hf.1
      have heq : b = step := hsep b hb step hs hname elapsed
        ⟨hf.2.2, not_le.1 (hends b hb hname)⟩ ⟨hstart, not_le.1 (hends step hs rfl)⟩
      rw [activate, hmap, heq]

end Body

/-- The injector holds, for every register of the device, exactly the anomaly of the step
whose window contains `t`. -/
def Follows (steps : List StepInfo) (device : UUID) (t : ℚ) (inj : AnomalyInjector) : Prop :=
  ∀ r anomalyType params,
    (∃ st, inj.getActive device r = some st ∧ st.anomalyType = anomalyType ∧
        st.params = params) ↔
      ∃ step ∈ steps, step.registerName = r ∧ step.Covers t ∧
        step.anomalyType = anomalyType ∧ step.anomalyParams = params

/-- No step has finished on a register whose next step is in its window at `t`. -/
def NoneFinished (steps : List StepInfo) (t : ℚ) : Prop :=
  ∀ a ∈ steps, a.Covers t → ∀ b ∈ steps, b.registerName = a.registerName → t < b.endAt

theorem follows_iff {t : ℚ} (h : After device (reached t) s) :
    Follows s.running.steps device t s.injector ↔ NoneFinished s.running.steps t := by
  constructor
  · intro hf a ha hcov b hb hname
    by_contra hend
    have hnone : s.realtime device a.registerName = none := by
      have hact := h.finished b hb (not_lt.1 hend)
      rw [hname, h.synced] at hact
      simpa using hact
    obtain ⟨st, hst, -⟩ := (hf a.registerName _ _).2 ⟨a, ha, rfl, hcov, rfl, rfl⟩
    exact absurd (hst.symm.trans hnone) (by simp)
  · intro hnf r anomalyType params
    constructor
    · rintro ⟨st, hst, htype, hparams⟩
      have hact : r ∈ s.running.activeAnomalies := by
        rw [h.synced, realtime, hst]
        rfl
      -- the register is active, so one of its steps has started and none has finished
      obtain ⟨step, hs, hname, hstart⟩ : ∃ step ∈ s.running.steps, step.registerName = r ∧
          step.triggerAtSeconds ∈ reached t := by
        by_contra hno
        refine h.waiting r (fun step hs hname hstart => ?_) hact
        exact hno ⟨step, hs, hname, hstart⟩
      have hends : ∀ b ∈ s.running.steps, b.registerName = r → b.endAt ∉ reached t := by
        rintro b hb rfl hend
        exact h.finished b hb hend hact
      subst hname
      have hlive := h.live step hs hstart hends
      have heq : st = step.anomaly := Option.some.inj (hst.symm.trans hlive)
      subst heq
      exact ⟨step, hs, rfl, ⟨hstart, not_le.1 (hends step hs rfl)⟩, htype, hparams⟩
    · rintro ⟨step, hs, rfl, hcov, rfl, rfl⟩
      refine ⟨step.anomaly, h.live step hs hcov.1 fun b hb hname hend => ?_, rfl, rfl⟩
      exact (hnf step hs hcov b hb hname).not_ge hend

theorem foldl_frame (f : Timeline → StepInfo × ℕ → Timeline)
    (hf : ∀ s entry, (f s entry).left = s.left ∧ (f s entry).entries = s.entries ∧
      (f s entry).running.totalDurationSeconds = s.running.totalDurationSeconds)
    (l : List (StepInfo × ℕ)) (s : Timeline) :
    (l.foldl f s).left = s.left ∧ (l.foldl f s).entries = s.entries ∧
      (l.foldl f s).running.totalDurationSeconds = s.running.totalDurationSeconds := by
  induction l generalizing s with
  | nil => exact ⟨rfl, rfl, rfl⟩
  | cons entry l ih =>
    obtain ⟨hleft, hentries, htotal⟩ := ih (f s entry)
    obtain ⟨hleft', hentries', htotal'⟩ := hf s entry
    exact ⟨hleft.trans hleft', hentries.trans hentries', htotal.trans htotal'⟩

theorem activateStep_frame (s : Timeline) (entry : StepInfo × ℕ) :
    (activateStep device elapsed s entry).left = s.left ∧
      (activateStep device elapsed s entry).entries = s.entries ∧
      (activateStep device elapsed s entry).running.totalDurationSeconds =
        s.running.totalDurationSeconds := by
  unfold activateStep
  split <;> exact ⟨rfl, rfl, rfl⟩

theorem deactivateStep_frame (s : Timeline) (entry : StepInfo × ℕ) :
    (deactivateStep device elapsed s entry).left = s.left ∧
      (deactivateStep device elapsed s entry).entries = s.entries ∧
      (deactivateStep device elapsed s entry).running.totalDurationSeconds =
        s.running.totalDurationSeconds := by
  unfold deactivateStep
  split <;> exact ⟨rfl, rfl, rfl⟩

theorem deactivate_activate_frame (s : Timeline) :
    ((s.activate device elapsed).deactivate device elapsed).left = s.left ∧
      ((s.activate device elapsed).deactivate device elapsed).entries = s.entries ∧
      ((s.activate device elapsed).deactivate device elapsed).running.totalDurationSeconds =
        s.running.totalDurationSeconds := by
  obtain ⟨hl, he, ht⟩ := foldl_frame _ (@activateStep_frame device elapsed)
    s.running.steps.zipIdx s
  obtain ⟨hl', he', ht'⟩ := foldl_frame _
    (@deactivateStep_frame device elapsed)
    (s.activate device elapsed).running.steps.zipIdx (s.activate device elapsed)
  exact ⟨hl'.trans hl, he'.trans he, ht'.trans ht⟩

@[simp] theorem total_body :
    (s.body device elapsed).running.totalDurationSeconds = s.running.totalDurationSeconds := by
  unfold body checkComplete
  split <;> exact (deactivate_activate_frame s).2.2

/-- The body leaves the loop only once the whole scenario has passed. -/
theorem total_le_of_left (hs : s.left = false) (h : (s.body device elapsed).left = true) :
    (s.running.totalDurationSeconds : ℚ) ≤ elapsed := by
  obtain ⟨hl, -, ht⟩ := @deactivate_activate_frame device elapsed s
  unfold body checkComplete at h
  split at h
  next hc => exact ht ▸ hc.1
  next => exact absurd (h.symm.trans (hl.trans hs)) (by simp)

theorem eachStep_follows_iff {past : Set ℤ} {times : List ℚ} (hsep : Separate s.running.steps)
    (hpos : ∀ step ∈ s.running.steps, 0 < step.durationSeconds)
    (htotal : ∀ step ∈ s.running.steps, step.endAt ≤ s.running.totalDurationSeconds)
    (hleft : s.left = false) (h : After device past s)
    (hpast : ∀ t ∈ times, past ⊆ reached t) (htimes : times.Pairwise (· < ·)) :
    EachStep (drive device) (fun _ t s' => Follows s.running.steps device t s'.injector) s times ↔
      ∀ t ∈ times, NoneFinished s.running.steps t := by
  induction times generalizing s past with
  | nil => simp [EachStep]
  | cons t times ih =>
    rw [List.pairwise_cons] at htimes
    have hdrive : drive device s t = some (s.body device t) := by simp [drive, hleft]
    have hafter := after_body hsep hpos (hpast t (by simp)) h
    have hfollows := follows_iff hafter
    rw [steps_body] at hfollows
    have hrest : EachStep (drive device)
        (fun _ t s' => Follows s.running.steps device t s'.injector) (s.body device t) times ↔
          ∀ t' ∈ times, NoneFinished s.running.steps t' := by
      cases hl : (s.body device t).left with
      | false =>
        have := ih (s := s.body device t) (by rwa [steps_body]) (by rwa [steps_body])
          (by rwa [steps_body, total_body]) hl hafter
          (fun t' ht' x hx => le_trans hx (htimes.1 t' ht').le) htimes.2
        rwa [steps_body] at this
      | true =>
        have hend := total_le_of_left hleft hl
        refine iff_of_true ?_ ?_
        · cases times with
          | nil => trivial
          | cons t' times =>
            intro s' hs'
            simp [drive, hl] at hs'
        · intro t' ht' a ha hcov
          have : (a.endAt : ℚ) ≤ s.running.totalDurationSeconds := by exact_mod_cast htotal a ha
          exact absurd hcov.2 (this.trans (hend.trans (htimes.1 t' ht').le)).not_gt
    simp only [EachStep, hdrive, Option.some.injEq, forall_eq', hfollows, hrest,
      List.forall_mem_cons]

theorem separate_of_validateSteps {steps : List ScenarioStepCreate} {registerNames : List String}
    (h : validateSteps steps registerNames = .ok ()) :
    Separate (steps.map ScenarioStepCreate.toStepInfo) := by
  simp only [Separate, List.forall_mem_map]
  intro a ha b hb hname t hat hbt
  have hpair := validateSteps_pairwise h a.registerName
  have hmem : ∀ c ∈ steps, c.registerName = a.registerName →
      c ∈ steps.filter (·.registerName = a.registerName) := by
    intro c hc hname
    simpa using ⟨hc, hname⟩
  exact congrArg _ (Window.eq_of_inside_cast hpair (hmem a ha rfl) (hmem b hb hname.symm) hat hbt)

theorem after_start {injector : AnomalyInjector} {entries : Dict UUID UUID}
    {scenarioId : UUID} {scenarioName : String} {total : ℤ} {steps : List StepInfo}
    (hclean : injector.getActive device = Dict.empty)
    (h : start injector entries device scenarioId scenarioName total steps = .ok s) :
    After device ∅ s ∧ s.running.steps = steps ∧ s.running.totalDurationSeconds = total ∧
      s.left = false := by
  unfold start at h
  split at h
  · cases h
  · cases h
    refine ⟨⟨fun r => ?_, ?_, ?_, ?_, ?_⟩, rfl, rfl, rfl⟩
    · simp [realtime, hclean]
    all_goals simp

/-- For accepted steps, from a device without real-time anomalies: the injector follows the
timeline after every body exactly when no body runs inside a step's window while another
step of that register has already finished. -/
theorem drive_follows_iff {steps : List ScenarioStepCreate} {registerNames : List String}
    {injector : AnomalyInjector} {entries : Dict UUID UUID} {device scenarioId : UUID}
    {scenarioName : String} {s : Timeline} {times : List ℚ}
    (hsteps : validateSteps steps registerNames = .ok ())
    (hclean : injector.getActive device = Dict.empty)
    (hstart : start injector entries device scenarioId scenarioName
      (computeTotalDuration steps) (steps.map ScenarioStepCreate.toStepInfo) = .ok s)
    (htimes : times.Pairwise (· < ·)) :
    EachStep (drive device)
        (fun _ t s' => Follows (steps.map ScenarioStepCreate.toStepInfo) device t s'.injector)
        s times ↔
      ∀ t ∈ times, NoneFinished (steps.map ScenarioStepCreate.toStepInfo) t := by
  obtain ⟨hafter, hinfos, htotal, hleft⟩ := after_start hclean hstart
  have hsep := separate_of_validateSteps hsteps
  rw [← hinfos] at hsep ⊢
  refine eachStep_follows_iff hsep ?_ ?_ hleft hafter (by simp) htimes
  · rw [hinfos]
    simp only [List.forall_mem_map]
    exact fun a _ => a.duration_pos
  · rw [hinfos, htotal]
    simp only [List.forall_mem_map]
    exact fun a ha => le_computeTotalDuration ha

/-- Two touching steps of one register. -/
def touchingSteps : List ScenarioStepCreate := [
  { registerName := "voltage", anomalyType := .outOfRange, anomalyParams := [("value", .int 0)],
    triggerAtSeconds := 0, durationSeconds := 10,
    trigger_nonneg := atStart_nonneg, duration_pos := tenSeconds_pos },
  { registerName := "voltage", anomalyType := .dataLoss, anomalyParams := [],
    triggerAtSeconds := 10, durationSeconds := 10,
    trigger_nonneg := tenSeconds_nonneg, duration_pos := tenSeconds_pos }]

theorem validateSteps_touching : validateSteps touchingSteps ["voltage"] = .ok () := by
  simp [validateSteps, touchingSteps, checkAll, raiseIf, sortedSteps, List.mergeSort,
    ScenarioStepCreate.start, ScenarioStepCreate.stop, checkNeighbours]

/-- The loop started for `touchingSteps` on a device without anomalies. -/
def touchingLoop : Timeline where
  injector := {}
  entries := Dict.empty.set 1 1
  running := {
    scenarioId := 1
    scenarioName := "sag"
    totalDurationSeconds := 20
    steps := touchingSteps.map ScenarioStepCreate.toStepInfo }

theorem start_touching :
    start {} Dict.empty 1 1 "sag" (computeTotalDuration touchingSteps)
      (touchingSteps.map ScenarioStepCreate.toStepInfo) = .ok touchingLoop := rfl

theorem drive_follows_touching :
    EachStep (drive 1)
        (fun _ t s' => Follows (touchingSteps.map ScenarioStepCreate.toStepInfo) 1 t s'.injector)
        touchingLoop [5, 20] ↔
      ∀ t ∈ [5, 20], NoneFinished (touchingSteps.map ScenarioStepCreate.toStepInfo) t :=
  drive_follows_iff validateSteps_touching rfl start_touching (by simp; norm_num)

theorem drive_loses_touching_step :
    ¬ ∀ (steps : List ScenarioStepCreate) (registerNames : List String)
      (injector : AnomalyInjector) (entries : Dict UUID UUID) (device scenarioId : UUID)
      (scenarioName : String) (s : Timeline) (times : List ℚ),
      validateSteps steps registerNames = .ok () →
      injector.getActive device = Dict.empty →
      start injector entries device scenarioId scenarioName
        (computeTotalDuration steps) (steps.map ScenarioStepCreate.toStepInfo) = .ok s →
      times.Pairwise (· < ·) →
      EachStep (drive device)
        (fun _ t s' => Follows (steps.map ScenarioStepCreate.toStepInfo) device t s'.injector)
        s times := by
  intro h
  have hsteps := h touchingSteps ["voltage"] {} Dict.empty 1 1 "sag" touchingLoop [5, 10]
    validateSteps_touching rfl start_touching (by simp; norm_num)
  have hat := ((hsteps _ rfl).2 _ rfl).1
  obtain ⟨st, hst, -⟩ := (hat "voltage" .dataLoss []).2
    ⟨_, List.mem_cons_of_mem _ (List.mem_singleton.2 rfl), rfl,
      by simp [StepInfo.Covers, StepInfo.endAt, ScenarioStepCreate.toStepInfo]; norm_num, rfl, rfl⟩
  have hnone : ((touchingLoop.body 1 5).body 1 10).injector.getActive 1 "voltage" = none := by
    decide +kernel
  exact absurd (hst.symm.trans hnone) (by simp)

end GhostMeter.Services.Timeline
