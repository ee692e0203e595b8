/-! Checks that raise on the first offending element of a list. -/

universe u v

namespace GhostMeter.Lib

variable {ε : Type u} {α : Type v}

def raiseIf (c : Prop) [Decidable c] (e : ε) : Except ε Unit :=
  if c then .error e else .ok ()

def checkAll (f : α → Except ε Unit) : List α → Except ε Unit
  | [] => .ok ()
  | a :: l =>
    match f a with
    | .ok _ => checkAll f l
    | .error e => .error e

@[simp] theorem raiseIf_ok_iff (c : Prop) [Decidable c] (e : ε) :
    raiseIf c e = .ok () ↔ ¬ c := by
  unfold raiseIf
  split <;> simp_all

@[simp] theorem checkAll_ok_iff (f : α → Except ε Unit) (l : List α) :
    checkAll f l = .ok () ↔ ∀ a ∈ l, f a = .ok () := by
  induction l with
  | nil => simp [checkAll]
  | cons a l ih =>
    cases h : f a with
    | ok => simp [checkAll, h, ih]
    | error e => simp [checkAll, h]

theorem bind_ok_iff {β : Type v} {x : Except ε α} {f : α → Except ε β} {b : β} :
    (x >>= f) = .ok b ↔ ∃ a, x = .ok a ∧ f a = .ok b := by
  cases x with
  | ok a => exact ⟨fun h => ⟨a, rfl, h⟩, by rintro ⟨_, ⟨⟩, h⟩; exact h⟩
  | error e => simp [bind, Except.bind]

theorem exists_bind_ok_iff {β : Type v} {x : Except ε α} {f : α → Except ε β} :
    (∃ b, (x >>= f) = .ok b) ↔ ∃ a, x = .ok a ∧ ∃ b, f a = .ok b := by
  simp only [bind_ok_iff]
  exact ⟨fun ⟨b, a, ha, hb⟩ => ⟨a, ha, b, hb⟩, fun ⟨a, ha, b, hb⟩ => ⟨b, a, ha, hb⟩⟩

@[simp] theorem andThen_ok_iff {β : Type v} (x : Except ε PUnit) (y : Except ε β) (b : β) :
    (x >>= fun _ => y) = .ok b ↔ x = .ok ⟨⟩ ∧ y = .ok b := by
  cases x with
  | ok u => exact ⟨fun h => ⟨rfl, h⟩, fun h => h.2⟩
  | error e => simp [bind, Except.bind]

@[simp] theorem mapError_ok_iff {ε' : Type u} (x : Except ε α) (f : ε → ε') (a : α) :
    x.mapError f = .ok a ↔ x = .ok a := by
  cases x with
  | ok b =>
    constructor
    · rintro ⟨⟩
      rfl
    · rintro ⟨⟩
      rfl
  | error e =>
    constructor
    · rintro ⟨⟩
    · rintro ⟨⟩

@[simp] theorem mapError_ok {ε' : Type u} (a : α) (f : ε → ε') :
    (Except.ok a : Except ε α).mapError f = .ok a := rfl

@[simp] theorem mapError_error {ε' : Type u} (e : ε) (f : ε → ε') :
    (Except.error e : Except ε α).mapError f = .error (f e) := rfl

theorem exists_error_iff (x : Except ε PUnit) : (∃ e, x = .error e) ↔ ¬ x = .ok ⟨⟩ := by
  cases x with
  | ok u => simp
  | error e => simp

end GhostMeter.Lib
