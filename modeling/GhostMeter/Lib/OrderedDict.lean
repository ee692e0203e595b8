import GhostMeter.Lib.Dict
import Mathlib.Data.List.Nodup

/-! Dictionaries that keep the order in which their keys came. -/

universe u v

namespace GhostMeter.Lib

structure OrderedDict (K : Type u) (V : Type v) where
  keys : List K
  get : Dict K V
  nodup : keys.Nodup
  mem_keys : ∀ k, k ∈ keys ↔ (get k).isSome

namespace OrderedDict

variable {K : Type u} {V : Type v}

def empty : OrderedDict K V where
  keys := []
  get := Dict.empty
  nodup := List.nodup_nil
  mem_keys := by simp

variable [DecidableEq K] (d : OrderedDict K V)

/-- A key that is there keeps its place. -/
def set (k : K) (v : V) : OrderedDict K V where
  keys := if k ∈ d.keys then d.keys else d.keys ++ [k]
  get := d.get.set k v
  nodup := by
    split
    next => exact d.nodup
    next h => exact List.nodup_append_comm.1 (List.nodup_cons.2 ⟨h, d.nodup⟩)
  mem_keys k' := by
    rw [Dict.set_apply]
    by_cases hk : k' = k
    · subst hk
      split
      next h => simpa using h
      next => simp
    · rw [if_neg hk, ← d.mem_keys]
      split
      next => rfl
      next => simp [hk]

def pop (k : K) : OrderedDict K V where
  keys := d.keys.erase k
  get := d.get.pop k
  nodup := d.nodup.erase k
  mem_keys k' := by
    rw [d.nodup.mem_erase_iff, Dict.pop_apply, d.mem_keys]
    by_cases hk : k' = k <;> simp [hk]

variable {d}

omit [DecidableEq K] in
@[ext] theorem ext {d d' : OrderedDict K V} (hkeys : d.keys = d'.keys) (hget : d.get = d'.get) :
    d = d' := by
  obtain ⟨keys, get⟩ := d
  obtain ⟨keys', get'⟩ := d'
  simp only at hkeys hget
  subst hkeys hget
  rfl

theorem keys_set_of_mem {k : K} (v : V) (h : k ∈ d.keys) : (d.set k v).keys = d.keys := if_pos h

omit [DecidableEq K] in
@[simp] theorem get_empty (k : K) : (empty : OrderedDict K V).get k = none := rfl

omit [DecidableEq K] in
@[simp] theorem keys_empty : (empty : OrderedDict K V).keys = [] := rfl

theorem get_set (k k' : K) (v : V) :
    (d.set k v).get k' = if k' = k then some v else d.get k' := Dict.set_apply ..

theorem get_pop (k k' : K) : (d.pop k).get k' = if k' = k then none else d.get k' :=
  Dict.pop_apply ..

theorem mem_keys_set (k k' : K) (v : V) : k' ∈ (d.set k v).keys ↔ k' = k ∨ k' ∈ d.keys := by
  rw [mem_keys, mem_keys, get_set]
  split <;> simp_all

theorem mem_keys_pop (k k' : K) : k' ∈ (d.pop k).keys ↔ k' ≠ k ∧ k' ∈ d.keys := by
  rw [mem_keys, mem_keys, get_pop]
  split <;> simp_all

end OrderedDict

end GhostMeter.Lib
