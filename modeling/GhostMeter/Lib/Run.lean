import Mathlib.Logic.Basic

/-! Runs of a labelled step function.  A label fixes every choice of a step; a step that
is not enabled returns `none`, and the rest of the run is then not taken. -/

universe u v

namespace GhostMeter.Lib

variable {σ : Type u} {α : Type v} {step : σ → α → Option σ}

/-- `R` holds of every step the run `ls` takes from `s`. -/
def EachStep (step : σ → α → Option σ) (R : σ → α → σ → Prop) : σ → List α → Prop
  | _, [] => True
  | s, a :: ls => ∀ s', step s a = some s' → R s a s' ∧ EachStep step R s' ls

/-- `P` holds at `s` and after every step of the run `ls`. -/
def Always (step : σ → α → Option σ) (P : σ → Prop) (s : σ) (ls : List α) : Prop :=
  P s ∧ EachStep step (fun _ _ s' => P s') s ls

/-- `Q` holds of every step of the run, together with the rest of the run after it. -/
def EachRest (step : σ → α → Option σ) (Q : σ → α → σ → List α → Prop) : σ → List α → Prop
  | _, [] => True
  | s, a :: ls => ∀ s', step s a = some s' → Q s a s' ls ∧ EachRest step Q s' ls

theorem EachRest.mono {Q Q' : σ → α → σ → List α → Prop} {s : σ} {ls : List α}
    (h : ∀ s a s' ls, step s a = some s' → Q s a s' ls → Q' s a s' ls)
    (hq : EachRest step Q s ls) : EachRest step Q' s ls := by
  induction ls generalizing s with
  | nil => trivial
  | cons a ls ih =>
    intro s' hs
    exact ⟨h _ _ _ _ hs (hq s' hs).1, ih (hq s' hs).2⟩

def exec (step : σ → α → Option σ) : σ → List α → Option σ
  | s, [] => some s
  | s, a :: ls => (step s a).bind fun s' => exec step s' ls

/-- A step that is taken, and the run after it. -/
theorem EachStep.cons {R : σ → α → σ → Prop} {s s' : σ} {a : α} {ls : List α}
    (hs : step s a = some s') (hR : R s a s') (h : EachStep step R s' ls) :
    EachStep step R s (a :: ls) := by
  intro s₁ hs₁
  obtain rfl := Option.some.inj (hs.symm.trans hs₁)
  exact ⟨hR, h⟩

theorem EachStep.mono {R R' : σ → α → σ → Prop} {s : σ} {ls : List α}
    (h : ∀ s a s', R s a s' → R' s a s') (hr : EachStep step R s ls) :
    EachStep step R' s ls := by
  induction ls generalizing s with
  | nil => trivial
  | cons a ls ih =>
    intro s' hs
    exact ⟨h _ _ _ (hr s' hs).1, ih (hr s' hs).2⟩

/-- The invariant rule: what every step preserves holds along every run. -/
theorem EachStep.invariant {J : σ → Prop} {s : σ} {ls : List α}
    (hJ : ∀ s a s', J s → step s a = some s' → J s') (h : J s) :
    EachStep step (fun s _ s' => J s ∧ J s') s ls := by
  induction ls generalizing s with
  | nil => trivial
  | cons a ls ih =>
    intro s' hs
    have hs' := hJ s a s' h hs
    exact ⟨⟨h, hs'⟩, ih hs'⟩

/-- The exchange rule: in a run whose steps all meet `H`, with an invariant that the guarded
steps preserve, the steps with the property `R` are exactly the guarded ones. -/
theorem EachStep.exchange {J : σ → Prop} {H R G : σ → α → σ → Prop} {s : σ} {ls : List α}
    (hJ : ∀ s a s', J s → step s a = some s' → H s a s' → G s a s' → J s')
    (h : ∀ s a s', J s → step s a = some s' → H s a s' → (R s a s' ↔ G s a s')) (hs : J s)
    (hH : EachStep step H s ls) :
    EachStep step R s ls ↔ EachStep step G s ls := by
  induction ls generalizing s with
  | nil => exact Iff.rfl
  | cons a ls ih =>
    refine forall_congr' fun s' => forall_congr' fun hstep => ?_
    obtain ⟨hHs, hrest⟩ := hH s' hstep
    rw [h s a s' hs hstep hHs]
    exact and_congr_right fun hG => ih (hJ s a s' hs hstep hHs hG) hrest

/-- The guarded form of the invariant rule: what every guarded step preserves gives a property
of every step of a run whose steps are all guarded. -/
theorem EachStep.guarded {J : σ → Prop} {G R : σ → α → σ → Prop} {s : σ} {ls : List α}
    (hJ : ∀ s a s', J s → step s a = some s' → G s a s' → J s' ∧ R s a s') (h : J s)
    (hG : EachStep step G s ls) : EachStep step R s ls := by
  induction ls generalizing s with
  | nil => trivial
  | cons a ls ih =>
    intro s' hs
    obtain ⟨hg, hrest⟩ := hG s' hs
    obtain ⟨hs', hr⟩ := hJ s a s' h hs hg
    exact ⟨hr, ih hs' hrest⟩

theorem eachStep_of_forall {C : α → Prop} {s : σ} {ls : List α} (h : ∀ a ∈ ls, C a) :
    EachStep step (fun _ a _ => C a) s ls := by
  induction ls generalizing s with
  | nil => trivial
  | cons a ls ih =>
    obtain ⟨ha, hls⟩ := List.forall_mem_cons.1 h
    exact fun s' _ => ⟨ha, ih hls⟩

theorem eachStep_true (s : σ) (ls : List α) : EachStep step (fun _ _ _ => True) s ls := by
  induction ls generalizing s with
  | nil => trivial
  | cons a ls ih => exact fun s' _ => ⟨trivial, ih s'⟩

theorem eachStep_iff {J : σ → Prop} {R G : σ → α → σ → Prop} {s : σ} {ls : List α}
    (hJ : ∀ s a s', J s → step s a = some s' → G s a s' → J s')
    (h : ∀ s a s', J s → step s a = some s' → (R s a s' ↔ G s a s')) (hs : J s) :
    EachStep step R s ls ↔ EachStep step G s ls :=
  EachStep.exchange (fun s a s' hs hstep _ => hJ s a s' hs hstep)
    (fun s a s' hs hstep _ => h s a s' hs hstep) hs (eachStep_true s ls)

/-- If from a good state a step leads to a good state exactly when it is guarded, then a
run stays good exactly when all its steps are guarded. -/
theorem always_iff_eachStep {J P : σ → Prop} {G : σ → α → Prop} {s : σ} {ls : List α}
    (hJ : ∀ s a s', J s → step s a = some s' → J s')
    (h : ∀ s a s', J s → P s → step s a = some s' → (P s' ↔ G s a)) (hs : J s) (hP : P s) :
    Always step P s ls ↔ EachStep step (fun s a _ => G s a) s ls := by
  rw [Always, and_iff_right hP]
  refine eachStep_iff (J := fun s => J s ∧ P s) ?_ ?_ ⟨hs, hP⟩
  · intro s a s' hinv hstep hG
    exact ⟨hJ s a s' hinv.1 hstep, (h s a s' hinv.1 hinv.2 hstep).2 hG⟩
  · intro s a s' hinv hstep
    exact h s a s' hinv.1 hinv.2 hstep

theorem Always.of_exec {P : σ → Prop} {s s' : σ} {ls : List α} (h : Always step P s ls)
    (he : exec step s ls = some s') : P s' := by
  induction ls generalizing s with
  | nil => cases he; exact h.1
  | cons a ls ih =>
    simp only [exec, Option.bind_eq_some_iff] at he
    obtain ⟨s₁, h₁, h₂⟩ := he
    exact ih (h.2 s₁ h₁) h₂

theorem EachStep.last {R : σ → α → σ → Prop} {s s₁ s₂ : σ} {ls : List α} {a : α}
    (h : EachStep step R s (ls ++ [a])) (he : exec step s ls = some s₁)
    (hs : step s₁ a = some s₂) : R s₁ a s₂ := by
  induction ls generalizing s with
  | nil => cases he; exact (h s₂ hs).1
  | cons b ls ih =>
    simp only [exec, Option.bind_eq_some_iff] at he
    obtain ⟨s', hb, he⟩ := he
    exact ih (h s' hb).2 he

theorem EachStep.of_append {R : σ → α → σ → Prop} {s : σ} {ls ms : List α}
    (h : EachStep step R s (ls ++ ms)) :
    EachStep step R s ls ∧ ∀ s₁, exec step s ls = some s₁ → EachStep step R s₁ ms := by
  induction ls generalizing s with
  | nil =>
    refine ⟨trivial, fun s₁ he => ?_⟩
    cases he
    exact h
  | cons b ls ih =>
    refine ⟨fun s' hs => ⟨(h s' hs).1, (ih (h s' hs).2).1⟩, fun s₁ he => ?_⟩
    simp only [exec, Option.bind_eq_some_iff] at he
    obtain ⟨s', hb, he⟩ := he
    exact (ih (h s' hb).2).2 s₁ he

/-- The invariant rule for runs whose steps are all guarded. -/
theorem EachStep.exec_invariant {J : σ → Prop} {G : σ → α → σ → Prop} {s s' : σ} {ls : List α}
    (hJ : ∀ s a s', J s → G s a s' → step s a = some s' → J s') (hG : EachStep step G s ls)
    (h : J s) (he : exec step s ls = some s') : J s' := by
  induction ls generalizing s with
  | nil => cases he; exact h
  | cons a ls ih =>
    simp only [exec, Option.bind_eq_some_iff] at he
    obtain ⟨s₁, h₁, h₂⟩ := he
    obtain ⟨hg, hrest⟩ := hG s₁ h₁
    exact ih hrest (hJ s a s₁ h hg h₁) h₂

theorem EachStep.and {R R' : σ → α → σ → Prop} {s : σ} {ls : List α} (h : EachStep step R s ls)
    (h' : EachStep step R' s ls) : EachStep step (fun s a s' => R s a s' ∧ R' s a s') s ls := by
  induction ls generalizing s with
  | nil => trivial
  | cons a ls ih =>
    intro s' hs
    exact ⟨⟨(h s' hs).1, (h' s' hs).1⟩, ih (h s' hs).2 (h' s' hs).2⟩

theorem exec_append (s : σ) (ls ms : List α) :
    exec step s (ls ++ ms) = (exec step s ls).bind fun s' => exec step s' ms := by
  induction ls generalizing s with
  | nil => rfl
  | cons a ls ih =>
    cases h : step s a with
    | none => simp [exec, h]
    | some s' => simp [exec, h, ih]

theorem exec_concat (s : σ) (ls : List α) (a : α) :
    exec step s (ls ++ [a]) = (exec step s ls).bind fun s' => step s' a := by
  rw [exec_append]
  congr 1
  funext s'
  cases h : step s' a <;> simp [exec, h]

theorem exec_invariant {J : σ → Prop} {s s' : σ} {ls : List α}
    (hJ : ∀ s a s', J s → step s a = some s' → J s') (h : J s)
    (he : exec step s ls = some s') : J s' := by
  induction ls generalizing s with
  | nil => cases he; exact h
  | cons a ls ih =>
    simp only [exec, Option.bind_eq_some_iff] at he
    obtain ⟨s₁, h₁, h₂⟩ := he
    exact ih (hJ s a s₁ h h₁) h₂

/-- The same over runs whose labels all have a property. -/
theorem exec_invariant_of_forall {J : σ → Prop} {C : α → Prop} {s s' : σ} {ls : List α}
    (hJ : ∀ s a s', C a → J s → step s a = some s' → J s') (hC : ∀ a ∈ ls, C a) (h : J s)
    (he : exec step s ls = some s') : J s' := by
  induction ls generalizing s with
  | nil => cases he; exact h
  | cons a ls ih =>
    simp only [exec, Option.bind_eq_some_iff] at he
    obtain ⟨s₁, h₁, h₂⟩ := he
    exact ih (fun b hb => hC b (List.mem_cons_of_mem _ hb))
      (hJ s a s₁ (hC a List.mem_cons_self) h h₁) h₂

/-- A property that a step loses exactly if it is not guarded, and that never comes back. -/
theorem exec_iff_eachStep {J P : σ → Prop} {G : σ → α → Prop} {s s' : σ} {ls : List α}
    (hJ : ∀ s a s', J s → step s a = some s' → J s')
    (h : ∀ s a s', J s → step s a = some s' → (P s' ↔ P s ∧ G s a)) (hs : J s)
    (he : exec step s ls = some s') :
    P s' ↔ P s ∧ EachStep step (fun s a _ => G s a) s ls := by
  induction ls generalizing s with
  | nil =>
    cases he
    exact (and_iff_left trivial).symm
  | cons a ls ih =>
    simp only [exec, Option.bind_eq_some_iff] at he
    obtain ⟨s₁, h₁, h₂⟩ := he
    rw [ih (hJ s a s₁ hs h₁) h₂, h s a s₁ hs h₁, and_assoc]
    refine and_congr_right fun _ => ⟨fun hstep => ?_, fun hstep => hstep s₁ h₁⟩
    exact EachStep.cons h₁ hstep.1 hstep.2

section Debts

variable {ι : Type*} (step) (C : α → Prop) (settles : σ → α → ι → Prop)

/-- The next checkpoint that the run comes to, if any, settles `i`. -/
def SettledNext (i : ι) : σ → List α → Prop
  | _, [] => True
  | s, a :: ls => ∀ s', step s a = some s' →
    (C a → settles s a i) ∧ (¬ C a → SettledNext i s' ls)

variable {step C settles}

/-- The rule of debts: steps between two checkpoints run into debts, and a checkpoint is passed
when it settles all of them.  Every checkpoint is passed exactly when every debt that a step
runs into is settled at the next one. -/
theorem eachStep_checkpoint_iff {R : σ → α → σ → Prop} {debt : σ → ι → Prop}
    {raises : σ → α → ι → Prop}
    (hcheck : ∀ s a s', step s a = some s' → C a →
      (R s a s' ↔ ∀ i, debt s i → settles s a i))
    (hclear : ∀ s a s', step s a = some s' → C a → R s a s' → ∀ i, ¬ debt s' i)
    (hraise : ∀ s a s', step s a = some s' → ¬ C a →
      ∀ i, debt s' i ↔ debt s i ∨ raises s a i) {s : σ} {ls : List α} :
    EachStep step (fun s a s' => C a → R s a s') s ls ↔
      (∀ i, debt s i → SettledNext step C settles i s ls) ∧
        EachRest step (fun s a s' ls =>
          ¬ C a → ∀ i, raises s a i → SettledNext step C settles i s' ls) s ls := by
  induction ls generalizing s with
  | nil => exact iff_of_true trivial ⟨fun _ _ => trivial, trivial⟩
  | cons a ls ih =>
    by_cases hC : C a
    · constructor
      · intro h
        refine ⟨fun i hi s' hs => ⟨fun _ => ?_, fun hn => absurd hC hn⟩, fun s' hs => ?_⟩
        · exact (hcheck s a s' hs hC).1 ((h s' hs).1 hC) i hi
        · exact ⟨fun hn => absurd hC hn, (ih.1 (h s' hs).2).2⟩
      · rintro ⟨hdebt, hrest⟩ s' hs
        have hR := (hcheck s a s' hs hC).2 fun i hi => (hdebt i hi s' hs).1 hC
        refine ⟨fun _ => hR, ih.2 ⟨fun i hi => ?_, (hrest s' hs).2⟩⟩
        exact absurd hi (hclear s a s' hs hC hR i)
    · constructor
      · intro h
        refine ⟨fun i hi s' hs => ⟨fun hc => absurd hc hC, fun _ => ?_⟩, fun s' hs => ?_⟩
        · exact (ih.1 (h s' hs).2).1 i ((hraise s a s' hs hC i).2 (Or.inl hi))
        · obtain ⟨hdebt, hrest⟩ := ih.1 (h s' hs).2
          exact ⟨fun _ i hi => hdebt i ((hraise s a s' hs hC i).2 (Or.inr hi)), hrest⟩
      · rintro ⟨hdebt, hrest⟩ s' hs
        refine ⟨fun hc => absurd hc hC, ih.2 ⟨fun i hi => ?_, (hrest s' hs).2⟩⟩
        rcases (hraise s a s' hs hC i).1 hi with hi | hi
        · exact (hdebt i hi s' hs).2 hC
        · exact (hrest s' hs).1 hC i hi

end Debts

end GhostMeter.Lib
