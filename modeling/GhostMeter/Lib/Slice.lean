import Mathlib.Data.List.TakeDrop

/-! Slices of lists: read and overwritten by position. -/

universe u

namespace GhostMeter.Lib.Slice

variable {α : Type u} {l ws : List α} {i j n : ℕ}

/-- `l[i:i+n]`. -/
def get (l : List α) (i n : ℕ) : List α := (l.drop i).take n

/-- `l[i:i+len(ws)] = ws`. -/
def set (l : List α) (i : ℕ) (ws : List α) : List α := l.take i ++ ws ++ l.drop (i + ws.length)

theorem length_set (h : i + ws.length ≤ l.length) : (set l i ws).length = l.length := by
  simp only [set, List.length_append, List.length_take, List.length_drop]
  omega

theorem getElem?_set (h : i + ws.length ≤ l.length) (k : ℕ) :
    (set l i ws)[k]? = if i ≤ k ∧ k < i + ws.length then ws[k - i]? else l[k]? := by
  have hi : (l.take i).length = i := by rw [List.length_take]; omega
  rw [set, List.append_assoc, List.getElem?_append, hi]
  split
  next hk =>
    rw [if_neg (by omega), List.getElem?_take_of_lt hk]
  next hk =>
    rw [List.getElem?_append]
    split
    next hlt => rw [if_pos (by omega)]
    next hge =>
      rw [if_neg (by omega), List.getElem?_drop]
      congr 1
      omega

theorem getElem?_get (k : ℕ) : (get l i n)[k]? = if k < n then l[i + k]? else none := by
  rw [get, List.getElem?_take, List.getElem?_drop]

theorem get_set_self (h : i + ws.length ≤ l.length) : get (set l i ws) i ws.length = ws := by
  apply List.ext_getElem?
  intro k
  rw [getElem?_get, getElem?_set h]
  split
  next hk => rw [if_pos (by omega), Nat.add_sub_cancel_left]
  next hk => rw [List.getElem?_eq_none (by omega)]

/-- A slice that the written one does not meet. -/
theorem get_set_of_disjoint (h : i + ws.length ≤ l.length)
    (hd : j + n ≤ i ∨ i + ws.length ≤ j) : get (set l i ws) j n = get l j n := by
  apply List.ext_getElem?
  intro k
  rw [getElem?_get, getElem?_get, getElem?_set h]
  split
  next hk => rw [if_neg (by omega)]
  next hk => rfl

theorem get_replicate {x : α} {m : ℕ} (h : i + n ≤ m) :
    get (List.replicate m x) i n = List.replicate n x := by
  rw [get, List.drop_replicate, List.take_replicate, Nat.min_eq_left (by omega)]

end GhostMeter.Lib.Slice
