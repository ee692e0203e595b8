import Mathlib.Logic.Relation

/-! Acyclic relations, and the change of all edges that leave one vertex. -/

universe u

namespace GhostMeter.Lib

open Relation

variable {α : Type u} {r s : α → α → Prop} {x : α} {t : α → Prop} {a b : α}

def Acyclic (r : α → α → Prop) : Prop := ∀ a, ¬ TransGen r a a

theorem Acyclic.mono (h : ∀ a b, r a b → s a b) (hs : Acyclic s) : Acyclic r :=
  fun a ha => hs a (TransGen.mono h _ _ ha)

theorem acyclic_congr (h : ∀ a b, r a b ↔ s a b) : Acyclic r ↔ Acyclic s :=
  ⟨fun hr => hr.mono fun a b => (h a b).2, fun hs => hs.mono fun a b => (h a b).1⟩

/-- The edges that end where another one starts. -/
def Continued (r : α → α → Prop) (a b : α) : Prop := r a b ∧ ∃ c, r b c

theorem transGen_continued (h : TransGen r a b) (hb : ∃ c, r b c) : TransGen (Continued r) a b := by
  induction h with
  | single hab => exact .single ⟨hab, hb⟩
  | tail _ hbc ih => exact (ih ⟨_, hbc⟩).tail ⟨hbc, hb⟩

/-- On a cycle every edge is continued. -/
theorem acyclic_continued_iff : Acyclic (Continued r) ↔ Acyclic r := by
  constructor
  · intro h a ha
    obtain ⟨b, hab, -⟩ := TransGen.head'_iff.1 ha
    exact h a (transGen_continued ha ⟨b, hab⟩)
  · exact Acyclic.mono fun a b hab => hab.1

/-- The edges that leave `x` are those to the targets, and all others stay. -/
def redirect (r : α → α → Prop) (x : α) (t : α → Prop) (a b : α) : Prop :=
  (a = x ∧ t b) ∨ (a ≠ x ∧ r a b)

/-- The paths to `x` that stop there stay. -/
theorem reflTransGen_redirect (h : ReflTransGen r a x) : ReflTransGen (redirect r x t) a x := by
  induction h using ReflTransGen.head_induction_on with
  | refl => exact .refl
  | @head a b hab _ ih =>
    by_cases ha : a = x
    · rw [ha]
    · exact .head (Or.inr ⟨ha, hab⟩) ih

/-- Away from `x` and from what leads to it, all paths are old. -/
theorem transGen_of_redirect (ha : ¬ ReflTransGen r a x) (h : TransGen (redirect r x t) a b) :
    TransGen r a b := by
  have hold : ∀ {a b}, ¬ ReflTransGen r a x → redirect r x t a b → r a b := by
    rintro a b ha (⟨rfl, -⟩ | ⟨-, hab⟩)
    · exact absurd .refl ha
    · exact hab
  induction h with
  | single hab => exact .single (hold ha hab)
  | tail _ hbc ih => exact ih.tail (hold (fun hb => ha (ih.to_reflTransGen.trans hb)) hbc)

/-- A path is old, or it went through `x` and no longer leads there. -/
theorem transGen_redirect_cases (ht : ∀ b, t b → ¬ ReflTransGen r b x)
    (h : TransGen (redirect r x t) a b) : TransGen r a b ∨ ¬ ReflTransGen r b x := by
  induction h with
  | single hab =>
    rcases hab with ⟨-, hb⟩ | ⟨-, hab⟩
    · exact Or.inr (ht _ hb)
    · exact Or.inl (.single hab)
  | @tail b c _ hbc ih =>
    rcases hbc with ⟨-, hc⟩ | ⟨-, hbc⟩
    · exact Or.inr (ht _ hc)
    · exact ih.imp (·.tail hbc) fun hb hc => hb (.head hbc hc)

/-- A change of the edges that leave `x` makes no cycle exactly if no target leads back to it. -/
theorem acyclic_redirect_iff (h : Acyclic r) :
    Acyclic (redirect r x t) ↔ ∀ b, t b → ¬ ReflTransGen r b x := by
  constructor
  · intro hacyclic b hb hback
    exact hacyclic x (.head' (Or.inl ⟨rfl, hb⟩) (reflTransGen_redirect hback))
  · intro ht a ha
    rcases transGen_redirect_cases ht ha with hold | haway
    · exact h a hold
    · exact h a (transGen_of_redirect haway ha)

end GhostMeter.Lib
