import GhostMeter.Lib.Check
import GhostMeter.Lib.Run
import GhostMeter.Lib.Window
import GhostMeter.Simulation.AnomalyInjector

/-! Which anomaly `apply` uses, and what the cache of scheduled anomalies holds along a run
of `apply`, `inject` and `remove` calls. -/

namespace GhostMeter.Simulation.AnomalyInjector

open GhostMeter.Lib

section Select

variable (inj : AnomalyInjector) (device : UUID) (register : String) (elapsed : ℚ)

/-- The state of the anomaly that a call of `apply` uses, if any. -/
def used : Option AnomalyState :=
  match inj.getActive device register with
  | some st => some st
  | none => (inj.updateScheduledAnomalies device register elapsed).getScheduled device register

/-- What an anomaly makes of a value; without one the value passes through. -/
def effect (used : Option AnomalyState) (value : PyFloat) (elapsed : ℚ) (random : PyFloat) :
    Except PyError PyFloat :=
  match used with
  | some st => (applyAnomaly st value elapsed random).map Prod.snd
  | none => .ok value

@[simp] theorem getSchedules_update (device' : UUID) :
    (inj.updateScheduledAnomalies device register elapsed).getSchedules device' =
      inj.getSchedules device' := by
  simp only [updateScheduledAnomalies]
  split <;> rfl

/-- The refresh keeps a cached state as long as any schedule of the register is active. -/
theorem getScheduled_update (h : inj.getSchedules device ≠ []) :
    (inj.updateScheduledAnomalies device register elapsed).getScheduled device register =
      (activeSchedule (inj.getSchedules device) register elapsed).map fun e =>
        (inj.getScheduled device register).getD
          { anomalyType := e.anomalyType, params := e.anomalyParams,
            activatedAt := some elapsed } := by
  have hne : (inj.getSchedules device).isEmpty = false := by simpa using h
  simp only [updateScheduledAnomalies, hne]
  cases activeSchedule (inj.getSchedules device) register elapsed with
  | none => simp [getScheduled]
  | some e =>
    cases hst : inj.getScheduled device register with
    | none => simp [getScheduled]
    | some st => simpa [getScheduled] using hst

theorem getScheduled_update_of_ne {device' : UUID} {register' : String}
    (h : ¬ (device = device' ∧ register = register')) :
    (inj.updateScheduledAnomalies device register elapsed).getScheduled device' register' =
      inj.getScheduled device' register' := by
  simp only [updateScheduledAnomalies]
  split
  · rfl
  by_cases hd : device' = device
  · subst hd
    have hr : register' ≠ register := fun hr => h ⟨rfl, hr.symm⟩
    simp only [getScheduled, Dict.set_self, Option.getD_some]
    cases activeSchedule (inj.getSchedules device') register elapsed with
    | none => exact Dict.pop_of_ne _ hr
    | some e =>
      by_cases hs : ((inj.scheduledActive device').getD Dict.empty register).isSome
      · exact congrFun (if_pos hs) register'
      · exact (congrFun (if_neg hs) register').trans (Dict.set_of_ne _ _ hr)
  · simp [getScheduled, Dict.set_of_ne _ _ hd]

variable {inj device register elapsed} in
/-- The anomaly used is injected, cached, or begins with its schedule. -/
theorem used_cases {st : AnomalyState} (h : inj.used device register elapsed = some st) :
    inj.getActive device register = some st ∨
      inj.getActive device register = none ∧
        (inj.getScheduled device register = some st ∨
          ∃ e ∈ inj.getSchedules device, e.registerName = register ∧
            st = { anomalyType := e.anomalyType, params := e.anomalyParams,
                   activatedAt := some elapsed }) := by
  cases hactive : inj.getActive device register with
  | some st' =>
    simp only [used, hactive] at h
    exact Or.inl h
  | none =>
    refine Or.inr ⟨rfl, ?_⟩
    simp only [used, hactive] at h
    by_cases hschedules : inj.getSchedules device = []
    · have hsame : inj.updateScheduledAnomalies device register elapsed = inj := by
        simp [updateScheduledAnomalies, hschedules]
      rw [hsame] at h
      exact Or.inl h
    · rw [getScheduled_update _ _ _ _ hschedules] at h
      obtain ⟨e, he, rfl⟩ := Option.map_eq_some_iff.1 h
      cases hst : inj.getScheduled device register with
      | some st => exact Or.inl rfl
      | none =>
        have hname : e.registerName = register := by
          have := List.find?_some he
          simp only [decide_eq_true_eq] at this
          exact this.1
        exact Or.inr ⟨e, List.mem_of_find?_eq_some he, hname, rfl⟩

variable (value random : PyFloat)

/-- `apply` returns the effect of the anomaly it uses. -/
theorem apply_snd :
    (inj.apply device register value elapsed random).2 =
      effect (inj.used device register elapsed) value elapsed random := by
  unfold apply used effect
  cases inj.getActive device register with
  | some st => cases h : applyAnomaly st value elapsed random <;> simp [h, Except.map]
  | none =>
    simp only
    cases (inj.updateScheduledAnomalies device register elapsed).getScheduled device register with
    | some st => cases h : applyAnomaly st value elapsed random <;> simp [h, Except.map]
    | none => rfl

@[simp] theorem getSchedules_apply (device' : UUID) :
    (inj.apply device register value elapsed random).1.getSchedules device' =
      inj.getSchedules device' := by
  unfold apply
  cases inj.getActive device register with
  | some st => cases h : applyAnomaly st value elapsed random <;> simp [h, getSchedules, setActive]
  | none =>
    simp only
    cases (inj.updateScheduledAnomalies device register elapsed).getScheduled device register with
    | some st =>
      cases h : applyAnomaly st value elapsed random
      · simp [h]
      · simpa [h, getSchedules, setScheduled] using
          inj.getSchedules_update device register elapsed device'
    | none => simp

theorem getActive_apply {d : UUID} {r : String} :
    (inj.apply device register value elapsed random).1.getActive d r =
      if d = device ∧ r = register then
        (inj.getActive device register).map fun st =>
          match applyAnomaly st value elapsed random with
          | .ok (st', _) => st'
          | .error _ => st
      else inj.getActive d r := by
  cases hst : inj.getActive device register with
  | some st =>
    unfold apply
    cases happly : applyAnomaly st value elapsed random with
    | error e =>
      simp only [hst, happly, Option.map_some]
      split
      next heq => rw [heq.1, heq.2, hst]
      next => rfl
    | ok out =>
      simp only [hst, happly, Option.map_some]
      by_cases hd : d = device
      · subst hd
        simp [Dict.set_apply]
      · rw [getActive_setActive_of_ne _ _ _ hd, if_neg fun heq => hd heq.1]
  | none =>
    have hsame : (inj.apply device register value elapsed random).1.getActive d r =
        inj.getActive d r := by
      unfold apply
      simp only [hst]
      cases (inj.updateScheduledAnomalies device register elapsed).getScheduled device register with
      | none => simp
      | some st => cases happly : applyAnomaly st value elapsed random <;> simp [happly]
    rw [hsame]
    split
    next heq => rw [heq.1, heq.2, hst, Option.map_none]
    next => rfl

/-- A real-time anomaly suspends the refresh. -/
theorem getScheduled_apply_of_active (h : (inj.getActive device register).isSome)
    (device' : UUID) :
    (inj.apply device register value elapsed random).1.getScheduled device' =
      inj.getScheduled device' := by
  obtain ⟨st, hst⟩ := Option.isSome_iff_exists.1 h
  unfold apply
  cases h : applyAnomaly st value elapsed random <;> simp [hst, h]

theorem getScheduled_apply_of_ne {device' : UUID} {register' : String}
    (h : ¬ (device = device' ∧ register = register')) :
    (inj.apply device register value elapsed random).1.getScheduled device' register' =
      inj.getScheduled device' register' := by
  cases hst : inj.getActive device register with
  | some st => rw [getScheduled_apply_of_active _ _ _ _ _ _ (by simp [hst])]
  | none =>
    have hup := getScheduled_update_of_ne inj device register elapsed h
    unfold apply
    simp only [hst]
    cases (inj.updateScheduledAnomalies device register elapsed).getScheduled device register with
    | none => exact hup
    | some st =>
      cases ha : applyAnomaly st value elapsed random with
      | error e => simpa [ha] using hup
      | ok out =>
        simp only [ha]
        by_cases hd : device' = device
        · subst hd
          rw [getScheduled_setScheduled, Dict.set_of_ne _ _ fun hr => h ⟨rfl, hr.symm⟩, hup]
        · rw [getScheduled_setScheduled_of_ne _ _ _ hd, hup]

/-- Without a real-time anomaly, the state used is the one that stays cached. -/
theorem getScheduled_apply (h : inj.getActive device register = none) :
    (inj.apply device register value elapsed random).1.getScheduled device register =
      (inj.used device register elapsed).map fun st =>
        match applyAnomaly st value elapsed random with
        | .ok (st', _) => st'
        | .error _ => st := by
  unfold apply used
  simp only [h]
  cases hst : (inj.updateScheduledAnomalies device register elapsed).getScheduled device
      register with
  | none => exact hst
  | some st => cases ha : applyAnomaly st value elapsed random <;> simp [ha, hst]

end Select

/-- An anomaly keeps its type and params; its start and its frozen value are set once. -/
theorem applyAnomaly_state {st st' : AnomalyState} {value out random : PyFloat} {elapsed : ℚ}
    (h : applyAnomaly st value elapsed random = .ok (st', out)) :
    st'.anomalyType = st.anomalyType ∧ st'.params = st.params ∧
      (st'.activatedAt = st.activatedAt ∨
        st.activatedAt = none ∧ st'.activatedAt = some elapsed) ∧
      (st'.frozenValue = st.frozenValue ∨
        st.frozenValue = none ∧ st'.frozenValue = some value) := by
  unfold applyAnomaly at h
  split at h
  case h_1 =>
    simp only [bind_ok_iff] at h
    obtain ⟨prob, -, mult, -, h⟩ := h
    cases h
    exact ⟨rfl, rfl, .inl rfl, .inl rfl⟩
  case h_2 =>
    simp only [bind_ok_iff] at h
    obtain ⟨_, -, rate, -, _, -, maxDrift, -, h⟩ := h
    cases h
    refine ⟨rfl, rfl, ?_, .inl rfl⟩
    cases hst : st.activatedAt <;> simp
  case h_3 =>
    split at h
    · simp only [bind_ok_iff] at h
      obtain ⟨v, -, h⟩ := h
      cases h
      exact ⟨rfl, rfl, .inl rfl, .inl rfl⟩
    · cases h
      refine ⟨rfl, rfl, .inl rfl, ?_⟩
      cases hst : st.frozenValue <;> simp
  case h_4 =>
    simp only [bind_ok_iff] at h
    obtain ⟨_, -, v, -, h⟩ := h
    cases h
    exact ⟨rfl, rfl, .inl rfl, .inl rfl⟩
  all_goals
    cases h
    exact ⟨rfl, rfl, .inl rfl, .inl rfl⟩

/-- So does the state that a call leaves. -/
theorem applied_same (st : AnomalyState) (value : PyFloat) (elapsed : ℚ) (random : PyFloat)
    {st' : AnomalyState} (h : (match applyAnomaly st value elapsed random with
      | .ok (st', _) => st'
      | .error _ => st) = st') : st'.anomalyType = st.anomalyType ∧ st'.params = st.params := by
  subst h
  split
  next happly =>
    obtain ⟨htype, hparams, -⟩ := applyAnomaly_state happly
    exact ⟨htype, hparams⟩
  next => exact ⟨rfl, rfl⟩

end GhostMeter.Simulation.AnomalyInjector

namespace GhostMeter.Simulation

open GhostMeter.Lib

/-- The elapsed time lies in the entry's window. -/
def ScheduleEntry.Covers (e : ScheduleEntry) (t : ℚ) : Prop := e.start ≤ t ∧ t < e.stop

/-- At most one schedule of a register covers a moment. -/
def OnePerMoment (entries : List ScheduleEntry) : Prop :=
  ∀ a ∈ entries, ∀ b ∈ entries, a.registerName = b.registerName →
    ∀ t, a.Covers t → b.Covers t → a = b

inductive InjectorCall
  | apply (device : UUID) (register : String) (value : PyFloat) (elapsed : ℚ) (random : PyFloat)
  | inject (device : UUID) (register : String) (anomalyType : AnomalyType) (params : Params)
  | remove (device : UUID) (register : String)

/-- The elapsed time of an `apply` call. -/
def InjectorCall.elapsed : InjectorCall → Option ℚ
  | .apply _ _ _ elapsed _ => some elapsed
  | _ => none

/-- The injector, watched at one register of one device: `seen` has the elapsed time and the
value of every `apply` call for it that found no real-time anomaly, the latest first. -/
structure Watch where
  injector : AnomalyInjector
  seen : List (ℚ × PyFloat) := []

namespace Watch

variable (device : UUID) (register : String)

/-- No real-time anomaly is injected on the register. -/
def Unforced (w : Watch) : Prop := w.injector.getActive device register = none

instance (w : Watch) : Decidable (w.Unforced device register) :=
  decidable_of_iff ((w.injector.getActive device register).isNone = true) (by simp [Unforced])

def call (w : Watch) : InjectorCall → Watch
  | .apply d r value elapsed random => {
      injector := (w.injector.apply d r value elapsed random).1
      seen :=
        if d = device ∧ r = register ∧ w.Unforced device register then (elapsed, value) :: w.seen
        else w.seen }
  | .inject d r anomalyType params =>
    { w with injector := w.injector.inject d r anomalyType params }
  | .remove d r => { w with injector := w.injector.remove d r }

def step (w : Watch) (c : InjectorCall) : Option Watch := some (w.call device register c)

variable (entries : List ScheduleEntry)

/-- `st` carries out the schedule `e`: its start and its frozen value come from calls inside
the window of `e`. -/
structure CarriesOut (e : ScheduleEntry) (seen : List (ℚ × PyFloat)) (st : AnomalyState) :
    Prop where
  anomalyType : st.anomalyType = e.anomalyType
  params : st.params = e.anomalyParams
  started : ∃ t, st.activatedAt = some t ∧ e.Covers t ∧ ∃ v, (t, v) ∈ seen
  frozen : ∀ v, st.frozenValue = some v → ∃ t, e.Covers t ∧ (t, v) ∈ seen

/-- What the injector owes to a call: an `apply` for the register uses the real-time anomaly,
else carries out the schedule that covers the elapsed time, else passes the value on. -/
def Serves (w : Watch) (c : InjectorCall) (w' : Watch) : Prop :=
  ∀ value t random, c = .apply device register value t random →
    (w.injector.apply device register value t random).2 =
        AnomalyInjector.effect (w.injector.used device register t) value t random ∧
      match w.injector.getActive device register with
      | some st => w.injector.used device register t = some st
      | none =>
        (∀ e ∈ entries, e.registerName = register → e.Covers t →
          ∃ st, w.injector.used device register t = some st ∧ CarriesOut e w'.seen st) ∧
        ((∀ e ∈ entries, e.registerName = register → ¬ e.Covers t) →
          w.injector.used device register t = none)

/-- The call is not an `apply` that finds another schedule active than the call before it. -/
def Resumes (w : Watch) (c : InjectorCall) : Prop :=
  ∀ value t random, c = .apply device register value t random → w.Unforced device register →
    ∀ last, w.seen.head? = some last →
      ∀ a ∈ entries, ∀ b ∈ entries, a.registerName = register → b.registerName = register →
        a.Covers last.1 → b.Covers t → a = b

/-- What the cache holds of the schedule that covered the last call. -/
structure Cached (w : Watch) : Prop where
  schedules : w.injector.getSchedules device = entries
  kept : ∀ st, w.injector.getScheduled device register = some st →
    ∃ e ∈ entries, e.registerName = register ∧ CarriesOut e w.seen st ∧
      ∃ last, w.seen.head? = some last ∧ e.Covers last.1
  dropped : w.injector.getScheduled device register = none →
    ∀ last, w.seen.head? = some last →
      ∀ e ∈ entries, e.registerName = register → ¬ e.Covers last.1

section

variable {device register entries} {w : Watch} {e : ScheduleEntry} {t : ℚ}

theorem activeSchedule_eq_none_iff :
    AnomalyInjector.activeSchedule entries register t = none ↔
      ∀ e ∈ entries, e.registerName = register → ¬ e.Covers t := by
  simp [AnomalyInjector.activeSchedule, ScheduleEntry.Covers]

theorem activeSchedule_eq_some_iff (hdisj : OnePerMoment entries) :
    AnomalyInjector.activeSchedule entries register t = some e ↔
      e ∈ entries ∧ e.registerName = register ∧ e.Covers t := by
  have hsome : ∀ e, AnomalyInjector.activeSchedule entries register t = some e →
      e ∈ entries ∧ e.registerName = register ∧ e.Covers t := by
    intro e he
    exact ⟨List.mem_of_find?_eq_some he, by simpa [ScheduleEntry.Covers] using List.find?_some he⟩
  refine ⟨hsome e, fun ⟨hmem, hname, hcov⟩ => ?_⟩
  cases h : AnomalyInjector.activeSchedule entries register t with
  | none => exact absurd hcov (activeSchedule_eq_none_iff.1 h e hmem hname)
  | some e' =>
    obtain ⟨hmem', hname', hcov'⟩ := hsome e' h
    rw [hdisj e hmem e' hmem' (hname.trans hname'.symm) t hcov hcov']

theorem CarriesOut.mono {seen seen' : List (ℚ × PyFloat)} {st : AnomalyState}
    (hsub : seen ⊆ seen') (h : CarriesOut e seen st) : CarriesOut e seen' st := by
  obtain ⟨t, ht, hcov, v, hv⟩ := h.started
  refine ⟨h.anomalyType, h.params, ⟨t, ht, hcov, v, hsub hv⟩, fun v hv => ?_⟩
  obtain ⟨t, hcov, hmem⟩ := h.frozen v hv
  exact ⟨t, hcov, hsub hmem⟩

/-- What `apply` makes of a state goes on carrying out the schedule. -/
theorem CarriesOut.applied {seen : List (ℚ × PyFloat)} {st st' : AnomalyState}
    {value out random : PyFloat} (h : CarriesOut e seen st) (hcov : e.Covers t)
    (hmem : (t, value) ∈ seen)
    (ha : AnomalyInjector.applyAnomaly st value t random = .ok (st', out)) :
    CarriesOut e seen st' := by
  obtain ⟨htype, hparams, hstart, hfrozen⟩ := AnomalyInjector.applyAnomaly_state ha
  refine ⟨htype.trans h.anomalyType, hparams.trans h.params, ?_, fun v hv => ?_⟩
  · rcases hstart with hstart | ⟨-, hstart⟩
    · rw [hstart]
      exact h.started
    · exact ⟨t, hstart, hcov, value, hmem⟩
  · rcases hfrozen with hfrozen | ⟨-, hfrozen⟩
    · exact h.frozen v (hfrozen ▸ hv)
    · rw [hfrozen, Option.some.injEq] at hv
      exact ⟨t, hcov, hv ▸ hmem⟩

/-- The state a schedule starts with. -/
def fresh (e : ScheduleEntry) (t : ℚ) : AnomalyState :=
  { anomalyType := e.anomalyType, params := e.anomalyParams, activatedAt := some t }

theorem Cached.used (h : Cached device register entries w) (hw : w.Unforced device register) :
    w.injector.used device register t =
      (AnomalyInjector.activeSchedule entries register t).map fun e =>
        (w.injector.getScheduled device register).getD (fresh e t) := by
  have hupdate : w.injector.used device register t =
      (w.injector.updateScheduledAnomalies device register t).getScheduled device register := by
    simp only [AnomalyInjector.used, show w.injector.getActive device register = none from hw]
  rw [hupdate]
  by_cases hne : w.injector.getSchedules device = []
  · have hnil : entries = [] := h.schedules ▸ hne
    have hnone : w.injector.getScheduled device register = none := by
      by_contra hsome
      obtain ⟨st, hst⟩ := Option.ne_none_iff_exists'.1 hsome
      obtain ⟨e, he, -⟩ := h.kept st hst
      simp [hnil] at he
    simp [AnomalyInjector.updateScheduledAnomalies, hne, hnone, hnil,
      AnomalyInjector.activeSchedule]
  · rw [AnomalyInjector.getScheduled_update _ _ _ _ hne, h.schedules]
    rfl

/-- The cached state carries out the schedule found active exactly when the schedule of the
last call, if there was one, is the same. -/
theorem Cached.carriesOut_iff (hdisj : OnePerMoment entries)
    (h : Cached device register entries w) (value : PyFloat)
    (he : e ∈ entries) (hname : e.registerName = register) (hcov : e.Covers t) :
    CarriesOut e ((t, value) :: w.seen)
        ((w.injector.getScheduled device register).getD (fresh e t)) ↔
      ∀ last, w.seen.head? = some last →
        ∀ a ∈ entries, a.registerName = register → a.Covers last.1 → a = e := by
  cases hst : w.injector.getScheduled device register with
  | none =>
    refine iff_of_true ?_ fun last hlast a ha hname hcov => ?_
    · exact ⟨rfl, rfl, ⟨t, rfl, hcov, value, by simp⟩, fun v hv => by simp [fresh] at hv⟩
    · exact absurd hcov (h.dropped hst last hlast a ha hname)
  | some st =>
    obtain ⟨e₀, he₀, hname₀, hcarry, last, hlast, hcov₀⟩ := h.kept st hst
    constructor
    · intro hc last' hlast' a ha hnamea hcova
      obtain rfl : last = last' := Option.some.inj (hlast.symm.trans hlast')
      obtain rfl : a = e₀ := hdisj a ha e₀ he₀ (hnamea.trans hname₀.symm) _ hcova hcov₀
      -- the start of the cached state lies in both windows
      obtain ⟨t₁, ht₁, hcov₁, -⟩ := hcarry.started
      obtain ⟨t₂, ht₂, hcov₂, -⟩ := hc.started
      obtain rfl : t₁ = t₂ := Option.some.inj (ht₁.symm.trans ht₂)
      exact hdisj a ha e he (hnamea.trans hname.symm) t₁ hcov₁ hcov₂
    · intro hsame
      obtain rfl : e₀ = e := hsame last hlast e₀ he₀ hname₀ hcov₀
      exact hcarry.mono (List.subset_cons_self _ _)

theorem serves_iff_resumes (hdisj : OnePerMoment entries) (h : Cached device register entries w)
    (c : InjectorCall) :
    Serves device register entries w c (w.call device register c) ↔
      Resumes device register entries w c := by
  refine forall_congr' fun value => forall_congr' fun t => forall_congr' fun random =>
    forall_congr' fun hc => ?_
  subst hc
  rw [and_iff_right (AnomalyInjector.apply_snd ..)]
  cases hact : w.injector.getActive device register with
  | some st =>
    refine iff_of_true (by simp [AnomalyInjector.used, hact]) fun hw => ?_
    exact absurd (hact.symm.trans hw) (by simp)
  | none =>
    have hseen : (w.call device register (.apply device register value t random)).seen =
        (t, value) :: w.seen := if_pos ⟨rfl, rfl, hact⟩
    simp only [h.used hact, hseen, hact, Unforced, forall_const]
    cases hactive : AnomalyInjector.activeSchedule entries register t with
    | none =>
      have hnone := activeSchedule_eq_none_iff.1 hactive
      refine iff_of_true ⟨?_, fun _ => rfl⟩ ?_
      · exact fun e he hname hcov => absurd hcov (hnone e he hname)
      · exact fun _ _ _ _ e he _ hname _ hcov => absurd hcov (hnone e he hname)
    | some e =>
      obtain ⟨he, hname, hcov⟩ := (activeSchedule_eq_some_iff hdisj).1 hactive
      have huniq : ∀ b ∈ entries, b.registerName = register → b.Covers t → b = e :=
        fun b hb hnameb hcovb => hdisj b hb e he (hnameb.trans hname.symm) t hcovb hcov
      have hcarry := h.carriesOut_iff hdisj value he hname hcov
      constructor
      · rintro ⟨hserved, -⟩ last hlast a ha b hb hnamea hnameb hcova hcovb
        obtain ⟨st, hst, hc⟩ := hserved e he hname hcov
        rw [Option.map_some, Option.some.injEq] at hst
        rw [huniq b hb hnameb hcovb]
        exact hcarry.1 (hst ▸ hc) last hlast a ha hnamea hcova
      · intro hresumes
        refine ⟨fun b hb hnameb hcovb => ?_, fun hno => absurd hcov (hno e he hname)⟩
        rw [huniq b hb hnameb hcovb]
        refine ⟨_, rfl, hcarry.2 fun last hlast a ha hnamea hcova => ?_⟩
        exact hresumes last hlast a ha e he hnamea hname hcova hcov

theorem Cached.congr {w' : Watch} (h : Cached device register entries w)
    (hschedules : w'.injector.getSchedules device = w.injector.getSchedules device)
    (hscheduled : w'.injector.getScheduled device register =
      w.injector.getScheduled device register)
    (hseen : w'.seen = w.seen) : Cached device register entries w' := by
  refine ⟨hschedules.trans h.schedules, ?_, ?_⟩
  · rw [hscheduled, hseen]
    exact h.kept
  · rw [hscheduled, hseen]
    exact h.dropped

/-- A call that refreshes the register and resumes its schedule keeps the cache right. -/
theorem Cached.refresh (hdisj : OnePerMoment entries) (h : Cached device register entries w)
    (hw : w.Unforced device register) {value random : PyFloat}
    (hresumes : Resumes device register entries w (.apply device register value t random)) :
    Cached device register entries
      (w.call device register (.apply device register value t random)) := by
  have hseen : (w.call device register (.apply device register value t random)).seen =
      (t, value) :: w.seen := if_pos ⟨rfl, rfl, hw⟩
  have hsched := AnomalyInjector.getScheduled_apply w.injector device register t value random hw
  have hschedules := (AnomalyInjector.getSchedules_apply w.injector device register t value random
    device).trans h.schedules
  rw [h.used hw] at hsched
  cases hactive : AnomalyInjector.activeSchedule entries register t with
  | none =>
    simp only [hactive, Option.map_none] at hsched
    refine ⟨hschedules, fun st hst => absurd (hst.symm.trans hsched) (by simp), ?_⟩
    rw [hseen]
    rintro - _ ⟨⟩
    exact activeSchedule_eq_none_iff.1 hactive
  | some e =>
    simp only [hactive, Option.map_some] at hsched
    obtain ⟨he, hname, hcov⟩ := (activeSchedule_eq_some_iff hdisj).1 hactive
    have hcarry := (h.carriesOut_iff hdisj value he hname hcov).2
      fun last hlast a ha hnamea hcova =>
        hresumes value t random rfl hw last hlast a ha e he hnamea hname hcova hcov
    refine ⟨hschedules, fun st hst => ?_, fun hnone => absurd (hnone.symm.trans hsched) (by simp)⟩
    rw [hseen]
    refine ⟨e, he, hname, ?_, _, rfl, hcov⟩
    have heq := Option.some.inj (hst.symm.trans hsched)
    split at heq
    next st' out ha => exact heq ▸ hcarry.applied hcov (by simp) ha
    next => exact heq ▸ hcarry

theorem Cached.call (hdisj : OnePerMoment entries) (h : Cached device register entries w)
    {c : InjectorCall} (hresumes : Resumes device register entries w c) :
    Cached device register entries (w.call device register c) := by
  cases c with
  | inject d r anomalyType params => exact h.congr rfl rfl rfl
  | remove d r =>
    refine h.congr (AnomalyInjector.getSchedules_remove ..) ?_ rfl
    simp [Watch.call]
  | apply d r value t random =>
    by_cases hwatched : d = device ∧ r = register
    · obtain ⟨rfl, rfl⟩ := hwatched
      by_cases hw : w.Unforced d r
      · exact h.refresh hdisj hw hresumes
      · refine h.congr (AnomalyInjector.getSchedules_apply ..) ?_ (by simp [Watch.call, hw])
        exact congrFun (AnomalyInjector.getScheduled_apply_of_active _ _ _ _ _ _
          (Option.isSome_iff_ne_none.2 hw) _) _
    · refine h.congr (AnomalyInjector.getSchedules_apply ..)
        (AnomalyInjector.getScheduled_apply_of_ne _ _ _ _ _ _ hwatched) ?_
      exact if_neg fun hc => hwatched ⟨hc.1, hc.2.1⟩

theorem eachStep_serves_iff (hdisj : OnePerMoment entries) (h : Cached device register entries w)
    (calls : List InjectorCall) :
    EachStep (step device register) (Serves device register entries) w calls ↔
      EachStep (step device register) (fun w c _ => Resumes device register entries w c)
        w calls := by
  refine eachStep_iff ?_ ?_ h
  · rintro w c _ hc ⟨⟩ hresumes
    exact hc.call hdisj hresumes
  · rintro w c _ hc ⟨⟩
    exact serves_iff_resumes hdisj hc c

theorem cached_load (inj : AnomalyInjector) :
    Cached device register entries { injector := inj.loadSchedules device entries } := by
  refine ⟨by simp, ?_, ?_⟩ <;> simp

end

end Watch

end GhostMeter.Simulation
