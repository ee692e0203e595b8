import Mathlib.Data.List.DropRight
import Mathlib.Data.List.Infix
import Mathlib.Order.Bounds.Defs

/-! Streaks of elements with a property: at the end of a list, anywhere in it, and in the
prefixes of a sequence. -/

universe u

namespace GhostMeter.Lib

variable {α : Type u} (bad : α → Bool) {k : ℕ} {l : List α} {a : α}

/-- How many elements at the end of the list have the property. -/
def streak (l : List α) : ℕ := (l.rtakeWhile bad).length

/-- The last `k` elements are there and have the property. -/
def EndsInStreak (k : ℕ) (l : List α) : Prop :=
  ∃ run, run <:+ l ∧ run.length = k ∧ ∀ a ∈ run, bad a

/-- Somewhere, `k` elements in a row have the property. -/
def HasStreak (k : ℕ) (l : List α) : Prop :=
  ∃ run, run <:+: l ∧ run.length = k ∧ ∀ a ∈ run, bad a

/-- The last element completes the first streak of `k`. -/
def CompletesStreak (k : ℕ) (l : List α) : Prop :=
  EndsInStreak bad k l ∧ ¬ HasStreak bad k l.dropLast

variable {bad}

theorem streak_concat :
    streak bad (l ++ [a]) = if bad a then streak bad l + 1 else 0 := by
  rw [streak, List.rtakeWhile_concat]
  split
  next => rw [List.length_append, List.length_singleton, streak]
  next => rfl

/-- The longest streak at the end of a list has all the others as its ends. -/
theorem endsInStreak_iff : EndsInStreak bad k l ↔ k ≤ streak bad l := by
  constructor
  · rintro ⟨run, ⟨before, rfl⟩, rfl, hbad⟩
    induction run using List.reverseRecOn with
    | nil => exact Nat.zero_le _
    | append_singleton run a ih =>
      obtain ⟨hrun, ha⟩ := List.forall_mem_append.1 hbad
      rw [← List.append_assoc, streak_concat, if_pos (ha a (List.mem_singleton_self a)),
        List.length_append]
      exact Nat.succ_le_succ (ih hrun)
  · intro h
    refine ⟨(l.rtakeWhile bad).rtake k, ?_, ?_, fun a ha => ?_⟩
    · exact (List.drop_suffix _ _).trans (List.rtakeWhile_suffix _ _)
    · rw [List.rtake, List.length_drop]
      exact Nat.sub_sub_self h
    · exact List.mem_rtakeWhile_imp (List.mem_of_mem_drop ha)

theorem hasStreak_concat :
    HasStreak bad k (l ++ [a]) ↔ EndsInStreak bad k (l ++ [a]) ∨ HasStreak bad k l := by
  unfold HasStreak EndsInStreak
  simp only [List.infix_concat_iff, or_and_right, exists_or]

theorem completesStreak_concat :
    CompletesStreak bad k (l ++ [a]) ↔ EndsInStreak bad k (l ++ [a]) ∧ ¬ HasStreak bad k l := by
  rw [CompletesStreak, List.dropLast_concat]

theorem not_hasStreak_nil (hk : 0 < k) : ¬ HasStreak bad k ([] : List α) := by
  rintro ⟨run, hrun, rfl, -⟩
  rw [List.infix_nil.1 hrun] at hk
  exact absurd hk (by simp)

theorem CompletesStreak.hasStreak (h : CompletesStreak bad k l) : HasStreak bad k l := by
  obtain ⟨⟨run, hrun, h⟩, -⟩ := h
  exact ⟨run, hrun.isInfix, h⟩

theorem HasStreak.of_dropLast (h : HasStreak bad k l.dropLast) : HasStreak bad k l := by
  obtain ⟨run, hrun, h⟩ := h
  exact ⟨run, hrun.trans (List.dropLast_prefix l).isInfix, h⟩

/-- If all elements have the property, the count is the length. -/
theorem hasStreak_iff_of_all (h : ∀ a ∈ l, bad a) : HasStreak bad k l ↔ k ≤ l.length := by
  constructor
  · rintro ⟨run, hrun, rfl, -⟩
    exact hrun.length_le
  · intro hk
    refine ⟨l.take k, (List.take_prefix k l).isInfix, List.length_take_of_le hk, fun a ha => ?_⟩
    exact h a (List.mem_of_mem_take ha)

theorem completesStreak_iff_of_all (hk : 0 < k) (h : ∀ a ∈ l, bad a) :
    CompletesStreak bad k l ↔ l.length = k := by
  have hends : EndsInStreak bad k l ↔ k ≤ l.length := by
    constructor
    · rintro ⟨run, hrun, rfl, -⟩
      exact hrun.length_le
    · intro hle
      refine ⟨l.rtake k, List.drop_suffix _ _, ?_, fun a ha => h a (List.mem_of_mem_drop ha)⟩
      rw [List.rtake, List.length_drop]
      exact Nat.sub_sub_self hle
  rw [CompletesStreak, hends, hasStreak_iff_of_all fun a ha => h a (List.mem_of_mem_dropLast ha),
    List.length_dropLast]
  omega

/-- An element without the property starts the count anew. -/
theorem streak_append_cons (h : bad a = false) (l l' : List α) :
    streak bad (l ++ a :: l') = streak bad l' := by
  induction l' using List.reverseRecOn with
  | nil =>
    rw [streak_concat, h]
    rfl
  | append_singleton l' b ih =>
    rw [← List.cons_append, ← List.append_assoc, streak_concat, streak_concat, ih]

/-- Streaks that such an element separates do not add up. -/
theorem hasStreak_append_cons (hk : 0 < k) (h : bad a = false) (l l' : List α) :
    HasStreak bad k (l ++ a :: l') ↔ HasStreak bad k l ∨ HasStreak bad k l' := by
  induction l' using List.reverseRecOn with
  | nil =>
    have hends : ¬ EndsInStreak bad k (l ++ [a]) := by
      rw [endsInStreak_iff, streak_concat, h]
      exact hk.not_ge
    rw [hasStreak_concat, or_iff_right hends, or_iff_left (not_hasStreak_nil hk)]
  | append_singleton l' b ih =>
    have hends : EndsInStreak bad k (l ++ a :: l' ++ [b]) ↔ EndsInStreak bad k (l' ++ [b]) := by
      rw [endsInStreak_iff, endsInStreak_iff, streak_concat, streak_concat, streak_append_cons h]
    rw [← List.cons_append, ← List.append_assoc, hasStreak_concat, hasStreak_concat, hends, ih,
      or_left_comm]

section Sequence

variable {f : ℕ → α} {n : ℕ}

/-- The first `n` elements of a sequence. -/
def firsts (f : ℕ → α) (n : ℕ) : List α := (List.range n).map f

theorem firsts_succ : firsts f (n + 1) = firsts f n ++ [f n] := by
  rw [firsts, List.range_succ, List.map_append]
  rfl

theorem endsInStreak_firsts_iff :
    EndsInStreak bad k (firsts f n) ↔ k ≤ n ∧ ∀ i, n - k ≤ i → i < n → bad (f i) := by
  rw [endsInStreak_iff]
  induction n generalizing k with
  | zero => simp [firsts, streak]
  | succ n ih =>
    rw [firsts_succ, streak_concat]
    cases k with
    | zero => exact iff_of_true (Nat.zero_le _) ⟨Nat.zero_le _, fun i hi hlt => by omega⟩
    | succ k =>
      cases hn : bad (f n) with
      | false =>
        refine iff_of_false (by simp) fun h => ?_
        have hlast := h.2 n (by omega) (Nat.lt_succ_self n)
        rw [hn] at hlast
        cases hlast
      | true =>
        rw [if_pos rfl, Nat.succ_le_succ_iff, ih, Nat.succ_le_succ_iff, Nat.succ_sub_succ]
        refine and_congr_right fun _ => ⟨fun h i hi hlt => ?_, fun h i hi hlt => ?_⟩
        · rcases Nat.lt_succ_iff_lt_or_eq.1 hlt with hlt | rfl
          · exact h i hi hlt
          · exact hn
        · exact h i hi (hlt.trans (Nat.lt_succ_self n))

theorem hasStreak_firsts_iff (hk : 0 < k) :
    HasStreak bad k (firsts f n) ↔ ∃ m, m + k ≤ n ∧ ∀ i, m ≤ i → i < m + k → bad (f i) := by
  induction n with
  | zero =>
    refine iff_of_false (not_hasStreak_nil hk) ?_
    rintro ⟨m, hm, -⟩
    omega
  | succ n ih =>
    rw [firsts_succ, hasStreak_concat, ← firsts_succ, endsInStreak_firsts_iff, ih]
    constructor
    · rintro (⟨hle, hbad⟩ | ⟨m, hm, hbad⟩)
      · exact ⟨n + 1 - k, by omega, fun i hi hlt => hbad i hi (by omega)⟩
      · exact ⟨m, by omega, hbad⟩
    · rintro ⟨m, hm, hbad⟩
      rcases Nat.lt_or_eq_of_le hm with hlt | heq
      · exact .inr ⟨m, by omega, hbad⟩
      · exact .inl ⟨by omega, fun i hi hlt => hbad i (by omega) (by omega)⟩

/-- The element that completes the first streak of a sequence is the least end of one. -/
theorem completesStreak_firsts_iff (hk : 0 < k) :
    CompletesStreak bad k (firsts f (n + 1)) ↔
      IsLeast {n | k ≤ n + 1 ∧ ∀ i, n + 1 - k ≤ i → i ≤ n → bad (f i)} n := by
  rw [firsts_succ, completesStreak_concat, ← firsts_succ, endsInStreak_firsts_iff,
    hasStreak_firsts_iff hk]
  simp only [Nat.lt_succ_iff]
  refine and_congr_right fun _ => ⟨fun hnone m hm => ?_, fun hleast => ?_⟩
  · obtain ⟨hle, hbad⟩ := hm
    by_contra hlt
    exact hnone ⟨m + 1 - k, by omega, fun i hi hlt => hbad i hi (by omega)⟩
  · rintro ⟨m, hm, hbad⟩
    have hmem : m + k - 1 ∈ {n | k ≤ n + 1 ∧ ∀ i, n + 1 - k ≤ i → i ≤ n → bad (f i)} :=
      ⟨by omega, fun i hi hle => hbad i (by omega) (by omega)⟩
    have hle := hleast hmem
    omega

end Sequence

end GhostMeter.Lib
