import Mathlib.Logic.Function.Basic

/-! Python dictionaries as lookup functions.  The updates are those of `Function.update`;
the names are the ones a Python programmer reads. -/

universe u v

namespace GhostMeter.Lib

abbrev Dict (K : Type u) (V : Type v) := K → Option V

namespace Dict

variable {K : Type u} {V : Type v} [DecidableEq K]

def empty : Dict K V := fun _ => none

def set (d : Dict K V) (k : K) (v : V) : Dict K V := Function.update d k (some v)

def pop (d : Dict K V) (k : K) : Dict K V := Function.update d k none

/-- `f` is applied to the value of a key that is there. -/
def modify (d : Dict K V) (k : K) (f : V → V) : Dict K V := Function.update d k ((d k).map f)

omit [DecidableEq K] in
@[simp] theorem empty_apply (k : K) : (empty : Dict K V) k = none := rfl

@[simp] theorem set_self (d : Dict K V) (k : K) (v : V) : d.set k v k = some v :=
  Function.update_self ..

theorem set_of_ne (d : Dict K V) {k k' : K} (v : V) (h : k' ≠ k) : d.set k v k' = d k' :=
  Function.update_of_ne h ..

@[simp] theorem pop_self (d : Dict K V) (k : K) : d.pop k k = none :=
  Function.update_self ..

theorem pop_of_ne (d : Dict K V) {k k' : K} (h : k' ≠ k) : d.pop k k' = d k' :=
  Function.update_of_ne h ..

theorem set_apply (d : Dict K V) (k k' : K) (v : V) :
    d.set k v k' = if k' = k then some v else d k' :=
  Function.update_apply ..

/-- What holds of the values and of the new one holds after an assignment. -/
theorem forall_set {d : Dict K V} {k : K} {v : V} {P : V → Prop}
    (h : ∀ k' v', d k' = some v' → P v') (hv : P v) : ∀ k' v', d.set k v k' = some v' → P v' := by
  intro k' v' hset
  rw [set_apply] at hset
  split at hset
  next => exact Option.some.inj hset ▸ hv
  next => exact h k' v' hset

theorem pop_apply (d : Dict K V) (k k' : K) :
    d.pop k k' = if k' = k then none else d k' :=
  Function.update_apply ..

theorem modify_apply (d : Dict K V) (k k' : K) (f : V → V) :
    d.modify k f k' = if k' = k then (d k).map f else d k' :=
  Function.update_apply ..

theorem pop_eq_none {d : Dict K V} {k k' : K} (h : d k' = none) : d.pop k k' = none := by
  rw [pop_apply, h, ite_self]

theorem pop_eq_self {d : Dict K V} {k : K} (h : d k = none) : d.pop k = d := by
  rw [pop, ← h, Function.update_eq_self]

theorem set_pop_self {d : Dict K V} {k : K} {v : V} (h : d k = some v) :
    (d.pop k).set k v = d := by
  rw [pop, set, Function.update_idem, ← h, Function.update_eq_self]

/-- `f` and `g` are maps in opposite directions between the same pairs. -/
def Inverse (f : Dict K V) (g : Dict V K) : Prop := ∀ k v, f k = some v ↔ g v = some k

section Inverse

variable [DecidableEq V] {f : Dict K V} {g : Dict V K} {k : K} {v : V}

theorem Inverse.set (h : Inverse f g) (hk : f k = none) (hv : g v = none) :
    Inverse (f.set k v) (g.set v k) := by
  intro k' v'
  by_cases hk' : k' = k <;> by_cases hv' : v' = v
  · simp [hk', hv']
  · subst hk'
    have hno : g v' ≠ some k' := fun hg => by simpa [hk] using (h k' v').2 hg
    simpa [set_of_ne _ _ hv', hno] using Ne.symm hv'
  · subst hv'
    have hno : f k' ≠ some v' := fun hf => by simpa [hv] using (h k' v').1 hf
    simpa [set_of_ne _ _ hk', hno] using Ne.symm hk'
  · rw [set_of_ne _ _ hk', set_of_ne _ _ hv', h k' v']

theorem Inverse.pop (h : Inverse f g) (hk : f k = some v) :
    Inverse (f.pop k) (g.pop v) := by
  have hv : g v = some k := (h k v).1 hk
  intro k' v'
  by_cases hk' : k' = k <;> by_cases hv' : v' = v
  · simp [hk', hv']
  · subst hk'
    have hno : g v' ≠ some k' := fun hg =>
      hv' (Option.some.inj (((h k' v').2 hg).symm.trans hk))
    simpa [pop_of_ne _ hv'] using hno
  · subst hv'
    have hno : f k' ≠ some v' := fun hf =>
      hk' (Option.some.inj (((h k' v').1 hf).symm.trans hv))
    simpa [pop_of_ne _ hk'] using hno
  · rw [pop_of_ne _ hk', pop_of_ne _ hv', h k' v']

end Inverse

end Dict

end GhostMeter.Lib
