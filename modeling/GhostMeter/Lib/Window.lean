import Mathlib.Order.Lattice
import Mathlib.Data.List.Chain
import Mathlib.Data.List.Pairwise
import Mathlib.Data.Rat.Cast.Order

/-! Half-open windows `[start, stop)` of arbitrary things, and the two ways to check that
the windows of a list do not overlap: pair by pair, and between neighbours in a sort. -/

universe u v

namespace GhostMeter.Lib.Window

variable {ι : Type u} {τ : Type v} [LinearOrder τ] {start stop : ι → τ}

/-- The moment `t` lies in the window of `a`. -/
def Inside (start stop : ι → τ) (t : τ) (a : ι) : Prop := start a ≤ t ∧ t < stop a

/-- The windows of `a` and `b` share a moment, provided both are nonempty. -/
def Overlap (start stop : ι → τ) (a b : ι) : Prop := start a < stop b ∧ start b < stop a

theorem Overlap.symm {a b : ι} (h : Overlap start stop a b) : Overlap start stop b a :=
  ⟨h.2, h.1⟩

theorem overlap_of_inside {t : τ} {a b : ι} (ha : Inside start stop t a)
    (hb : Inside start stop t b) : Overlap start stop a b :=
  ⟨ha.1.trans_lt hb.2, hb.1.trans_lt ha.2⟩

theorem not_overlap_of_stop_le {a b : ι} (h : stop a ≤ start b) :
    ¬ Overlap start stop a b :=
  fun ho => (ho.2.trans_le h).false

/-- In a list of nonempty windows whose neighbours do not overlap, every later window
starts only after every earlier one has stopped. -/
theorem pairwise_of_neighbours {l : List ι} (hne : ∀ a ∈ l, start a < stop a)
    (h : l.IsChain fun a b => stop a ≤ start b) :
    l.Pairwise fun a b => stop a ≤ start b := by
  induction l with
  | nil => exact List.Pairwise.nil
  | cons a l ih =>
    have hl := ih (fun b hb => hne b (List.mem_cons_of_mem _ hb)) h.tail
    refine List.pairwise_cons.2 ⟨?_, hl⟩
    cases l with
    | nil => intro b hb; cases hb
    | cons b l =>
      have hab : stop a ≤ start b := (List.isChain_cons_cons.1 h).1
      intro c hc
      rcases List.mem_cons.1 hc with rfl | hc
      · exact hab
      · have hbc := (List.pairwise_cons.1 hl).1 c hc
        exact hab.trans ((hne b (by simp)).le.trans hbc)

theorem pairwise_not_overlap {l : List ι} (hne : ∀ a ∈ l, start a < stop a)
    (h : l.IsChain fun a b => stop a ≤ start b) :
    l.Pairwise fun a b => ¬ Overlap start stop a b :=
  (pairwise_of_neighbours hne h).imp fun hab => not_overlap_of_stop_le hab

/-- In a list sorted by the starts, the neighbours tell about all pairs. -/
theorem isChain_iff_pairwise {l : List ι} (hne : ∀ a ∈ l, start a < stop a)
    (hsorted : l.Pairwise fun a b => start a ≤ start b) :
    (l.IsChain fun a b => stop a ≤ start b) ↔ l.Pairwise fun a b => ¬ Overlap start stop a b := by
  refine ⟨pairwise_not_overlap hne, fun h => List.Pairwise.isChain ?_⟩
  refine (List.pairwise_and_iff.2 ⟨hsorted, h⟩).imp_of_mem fun {a b} _ hb hab => ?_
  by_contra hlt
  exact hab.2 ⟨hab.1.trans_lt (hne b hb), not_le.1 hlt⟩

/-- A sort by a key is sorted by it. -/
theorem pairwise_mergeSort_key (key : ι → τ) (l : List ι) :
    (l.mergeSort fun a b => key a ≤ key b).Pairwise fun a b => key a ≤ key b := by
  refine (List.pairwise_mergeSort (fun a b c => ?_) (fun a b => ?_) l).imp of_decide_eq_true
  · simpa using le_trans
  · simpa using le_total (key a) (key b)

/-- A check of the neighbours in a sort by the starts is a check of all pairs. -/
theorem isChain_mergeSort_iff {l : List ι} (hne : ∀ a ∈ l, start a < stop a) :
    ((l.mergeSort fun a b => start a ≤ start b).IsChain fun a b => stop a ≤ start b) ↔
      l.Pairwise fun a b => ¬ Overlap start stop a b := by
  rw [isChain_iff_pairwise (fun a ha => hne a (List.mem_mergeSort.1 ha))
    (pairwise_mergeSort_key start l)]
  exact List.Perm.pairwise_iff (fun h hb => h hb.symm) (List.mergeSort_perm _ _)

/-- Nonempty windows overlap just if they share a moment. -/
theorem overlap_iff_exists_inside {a b : ι} (ha : start a < stop a) (hb : start b < stop b) :
    Overlap start stop a b ↔ ∃ t, Inside start stop t a ∧ Inside start stop t b := by
  refine ⟨fun h => ⟨max (start a) (start b), ?_, ?_⟩, fun ⟨t, hat, hbt⟩ =>
    overlap_of_inside hat hbt⟩
  · exact ⟨le_max_left _ _, max_lt ha h.2⟩
  · exact ⟨le_max_right _ _, max_lt h.1 hb⟩

/-- A group that is not there is empty. -/
theorem forall_groups_iff {γ : Type*} [DecidableEq γ] {group : ι → γ} (P : γ → List ι → Prop)
    (hnil : ∀ g, P g []) {l : List ι} :
    (∀ g ∈ (l.map group).eraseDups, P g (l.filter (group · = g))) ↔
      ∀ g, P g (l.filter (group · = g)) := by
  refine ⟨fun h g => ?_, fun h g _ => h g⟩
  by_cases hmem : g ∈ l.map group
  · exact h g (List.mem_eraseDups.2 hmem)
  · have hempty : l.filter (group · = g) = [] := by
      refine List.filter_eq_nil_iff.2 fun a ha => ?_
      simp only [decide_eq_true_eq]
      rintro rfl
      exact hmem (List.mem_map_of_mem ha)
    rw [hempty]
    exact hnil g

/-- A relation within each group of a list. -/
theorem pairwise_groups_iff {γ : Type*} [DecidableEq γ] {group : ι → γ} {R : ι → ι → Prop}
    {l : List ι} : (∀ g, (l.filter (group · = g)).Pairwise R) ↔
      l.Pairwise fun a b => group a = group b → R a b := by
  simp only [List.pairwise_filter, decide_eq_true_eq]
  constructor
  · intro h
    rw [List.pairwise_iff_getElem]
    exact fun i j hi hj hij heq => List.pairwise_iff_getElem.1 (h _) i j hi hj hij heq rfl
  · intro h g
    exact h.imp fun hR ha hb => hR (ha.trans hb.symm)

/-- Some pair is related, at two positions. -/
theorem not_pairwise_not_iff {S : ι → ι → Prop} (hsymm : ∀ a b, S a b → S b a) {l : List ι} :
    (¬ l.Pairwise fun a b => ¬ S a b) ↔ ∃ i j : Fin l.length, i ≠ j ∧ S l[i] l[j] := by
  rw [List.pairwise_iff_get]
  push Not
  constructor
  · rintro ⟨i, j, hij, h⟩
    exact ⟨i, j, Fin.ne_of_lt hij, h⟩
  · rintro ⟨i, j, hij, h⟩
    rcases Nat.lt_or_gt_of_ne (Fin.val_ne_of_ne hij) with hlt | hgt
    · exact ⟨i, j, hlt, h⟩
    · exact ⟨j, i, hgt, hsymm _ _ h⟩

theorem not_overlap_of_mem {l : List ι} (h : l.Pairwise fun a b => ¬ Overlap start stop a b)
    {a b : ι} (ha : a ∈ l) (hb : b ∈ l) (hne : a ≠ b) : ¬ Overlap start stop a b := by
  have : Std.Symm fun a b => ¬ Overlap start stop a b := ⟨fun _ _ h h' => h h'.symm⟩
  exact h.forall ha hb hne

/-- Windows that do not overlap pair by pair have at most one member at any moment. -/
theorem eq_of_inside {l : List ι} (h : l.Pairwise fun a b => ¬ Overlap start stop a b)
    {t : τ} {a b : ι} (ha : a ∈ l) (hb : b ∈ l) (hat : Inside start stop t a)
    (hbt : Inside start stop t b) : a = b := by
  by_contra hne
  exact not_overlap_of_mem h ha hb hne (overlap_of_inside hat hbt)

/-- The same for integer windows, read at rational moments. -/
theorem eq_of_inside_cast {start stop : ι → ℤ} {l : List ι}
    (h : l.Pairwise fun a b => ¬ Overlap start stop a b) {t : ℚ} {a b : ι} (ha : a ∈ l)
    (hb : b ∈ l) (hat : Inside (fun a => (start a : ℚ)) (fun a => (stop a : ℚ)) t a)
    (hbt : Inside (fun a => (start a : ℚ)) (fun a => (stop a : ℚ)) t b) : a = b := by
  refine eq_of_inside (h.imp ?_) ha hb hat hbt
  intro a b hno ho
  exact hno ⟨Int.cast_lt.1 ho.1, Int.cast_lt.1 ho.2⟩

end GhostMeter.Lib.Window
