import Mathlib.Order.Lattice
import Mathlib.Data.List.Pairwise

/-! Binary search in a sorted list. -/

universe u

namespace GhostMeter.Lib

variable {α : Type u} [LinearOrder α] {l : List α} {x : α}

/-- The loop of `bisect_right` between `lo` and `hi`. -/
def bisectLoop (l : List α) (x : α) (lo hi : ℕ) : ℕ :=
  if _h : lo < hi then
    let mid := (lo + hi) / 2
    match l[mid]? with
    | none => lo
    | some y => if x < y then bisectLoop l x lo mid else bisectLoop l x (mid + 1) hi
  else lo
termination_by hi - lo

/-- `bisect.bisect_right(l, x)`. -/
def bisectRight (l : List α) (x : α) : ℕ := bisectLoop l x 0 l.length

/-- The loop keeps what is before `lo` at most `x`, and what is from `hi` on greater. -/
theorem bisectLoop_spec (hl : l.Pairwise (· ≤ ·)) {lo hi : ℕ} (hlohi : lo ≤ hi)
    (hhi : hi ≤ l.length) (hbefore : ∀ i y, i < lo → l[i]? = some y → y ≤ x)
    (hafter : ∀ i y, hi ≤ i → l[i]? = some y → x < y) :
    bisectLoop l x lo hi ≤ l.length ∧
      (∀ i y, i < bisectLoop l x lo hi → l[i]? = some y → y ≤ x) ∧
      ∀ i y, bisectLoop l x lo hi ≤ i → l[i]? = some y → x < y := by
  induction lo, hi using bisectLoop.induct l x with
  | case1 lo hi h mid hnone =>
    exact absurd (List.getElem?_eq_none_iff.1 hnone) (by omega)
  | case2 lo hi h mid y hy hlt ih =>
    rw [bisectLoop, dif_pos h]
    simp only [mid] at hy
    simp only [hy, if_pos hlt]
    refine ih (by omega) (by omega) hbefore fun i z hi hz => ?_
    rcases Nat.eq_or_lt_of_le hi with rfl | hi
    · exact Option.some.inj (hy.symm.trans hz) ▸ hlt
    · refine lt_of_lt_of_le hlt ?_
      obtain ⟨hmid, rfl⟩ := List.getElem?_eq_some_iff.1 hy
      obtain ⟨hi', rfl⟩ := List.getElem?_eq_some_iff.1 hz
      exact List.pairwise_iff_getElem.1 hl _ _ hmid hi' hi
  | case3 lo hi h mid y hy hlt ih =>
    rw [bisectLoop, dif_pos h]
    simp only [mid] at hy
    simp only [hy, if_neg hlt]
    refine ih (by omega) hhi (fun i z hi hz => ?_) hafter
    rcases Nat.eq_or_lt_of_le (Nat.lt_succ_iff.1 hi) with rfl | hi
    · exact Option.some.inj (hy.symm.trans hz) ▸ not_lt.1 hlt
    · refine le_trans ?_ (not_lt.1 hlt)
      obtain ⟨hmid, rfl⟩ := List.getElem?_eq_some_iff.1 hy
      obtain ⟨hi', rfl⟩ := List.getElem?_eq_some_iff.1 hz
      exact List.pairwise_iff_getElem.1 hl _ _ hi' hmid hi
  | case4 lo hi h =>
    rw [bisectLoop, dif_neg h]
    exact ⟨by omega, hbefore, fun i y hi => hafter i y (by omega)⟩

/-- Where `x` would go: behind everything that is not greater. -/
theorem bisectRight_spec (hl : l.Pairwise (· ≤ ·)) (x : α) :
    bisectRight l x ≤ l.length ∧ (∀ i y, i < bisectRight l x → l[i]? = some y → y ≤ x) ∧
      ∀ i y, bisectRight l x ≤ i → l[i]? = some y → x < y :=
  bisectLoop_spec hl (Nat.zero_le _) (Nat.le_refl _) (fun _ _ h => absurd h (Nat.not_lt_zero _))
    fun i y hi h => absurd (List.getElem?_eq_some_iff.1 h).1 (by omega)

end GhostMeter.Lib
