import Mathlib.Data.List.Nodup

/-! Sets that an iterator goes through while others change them: the entries stand in the order of
the table, and an addition may find a free place anywhere or make the table anew. -/

universe u

namespace GhostMeter.Lib

/-- The entries that the iterator has passed, and those that it would still come to. -/
structure IteratedSet (α : Type u) where
  passed : List α
  coming : List α
  nodup : (passed ++ coming).Nodup

namespace IteratedSet

variable {α : Type u} (s s' : IteratedSet α)

def entries : List α := s.passed ++ s.coming

def size : ℕ := s.entries.length

/-- With a new iterator. -/
def restart : IteratedSet α where
  passed := []
  coming := s.entries
  nodup := s.nodup

/-- The next entry, and the set with the iterator after it. -/
def next : Option (α × IteratedSet α) :=
  match h : s.coming with
  | [] => none
  | a :: rest => some (a, {
      passed := s.passed ++ [a]
      coming := rest
      nodup := by simpa [h] using s.nodup })

section Changes

variable [DecidableEq α]

def discard (a : α) : IteratedSet α where
  passed := s.passed.filter (· ≠ a)
  coming := s.coming.filter (· ≠ a)
  nodup := by
    rw [← List.filter_append]
    exact s.nodup.filter _

/-- `s'` is the set with a new entry. -/
def Adds (a : α) : Prop := s'.entries.Perm (a :: s.entries)

instance (a : α) : Decidable (s.Adds s' a) := inferInstanceAs (Decidable (List.Perm _ _))

end Changes

/-- No entry comes to the other side of the iterator. -/
def Keeps : Prop := s.passed ⊆ s'.passed ∧ s.coming ⊆ s'.coming

variable {s s'} {a b : α}

theorem next_eq_none_iff : s.next = none ↔ s.coming = [] := by
  unfold next
  split
  next h => exact iff_of_true rfl h
  next h => exact iff_of_false nofun (by simp [h])

theorem next_eq_some (h : s.next = some (a, s')) :
    s.coming = a :: s'.coming ∧ s'.passed = s.passed ++ [a] := by
  unfold next at h
  split at h
  next => cases h
  next hcoming =>
    obtain ⟨rfl, rfl⟩ := Prod.mk.inj (Option.some.inj h)
    exact ⟨hcoming, rfl⟩

theorem notMem_coming_of_next (h : s.next = some (a, s')) : a ∉ s.passed ∧ a ∉ s'.coming := by
  have hnodup := s.nodup
  rw [(next_eq_some h).1, List.nodup_append, List.nodup_cons] at hnodup
  exact ⟨fun ha => hnodup.2.2 a ha a List.mem_cons_self rfl, hnodup.2.1.1⟩

variable [DecidableEq α]

theorem mem_entries_discard : b ∈ (s.discard a).entries ↔ b ∈ s.entries ∧ b ≠ a := by
  simp only [entries, discard, ← List.filter_append, List.mem_filter, decide_eq_true_eq]

theorem mem_entries_foldl_discard {l : List α} :
    b ∈ (l.foldl (·.discard ·) s).entries ↔ b ∈ s.entries ∧ b ∉ l := by
  induction l generalizing s with
  | nil => simp
  | cons a l ih => rw [List.foldl_cons, ih, mem_entries_discard, List.mem_cons, not_or, and_assoc]

end IteratedSet

end GhostMeter.Lib
