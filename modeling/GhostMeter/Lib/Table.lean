import GhostMeter.Lib.Dict
import Mathlib.Data.List.Flatten
import Mathlib.Data.List.Induction
import Mathlib.Data.List.Nodup

/-! Tables as lists of rows, looked up and updated by a key. -/

universe u v

namespace GhostMeter.Lib.Table

variable {α : Type u} {κ : Type v} [DecidableEq κ] {key : α → κ} {l : List α} {k k' : κ} {r : α}

/-- The first row with the key. -/
def find (key : α → κ) (l : List α) (k : κ) : Option α := l.find? (key · = k)

/-- Every row with the key, changed by `f`. -/
def update (key : α → κ) (l : List α) (k : κ) (f : α → α) : List α :=
  l.map fun r => if key r = k then f r else r

theorem key_of_find (h : find key l k = some r) : key r = k := by
  simpa using List.find?_some h

theorem mem_of_find (h : find key l k = some r) : r ∈ l := List.mem_of_find?_eq_some h

theorem find_eq_none_iff : find key l k = none ↔ ∀ r ∈ l, key r ≠ k := by
  simp [find]

theorem find_eq_some_iff (hn : (l.map key).Nodup) :
    find key l k = some r ↔ r ∈ l ∧ key r = k := by
  refine ⟨fun h => ⟨mem_of_find h, key_of_find h⟩, fun ⟨hr, hk⟩ => ?_⟩
  cases h : find key l k with
  | none => exact absurd hk (find_eq_none_iff.1 h r hr)
  | some r' =>
    rw [List.inj_on_of_nodup_map hn (mem_of_find h) hr ((key_of_find h).trans hk.symm)]

omit [DecidableEq κ] in
/-- Selected rows that are told apart by `g`, in a table with a key. -/
theorem nodup_filter_iff {β : Type*} (p : α → Bool) (g : α → β) (hn : (l.map key).Nodup) :
    ((l.filter p).map g).Nodup ↔
      ∀ r ∈ l, ∀ r' ∈ l, p r → p r' → g r = g r' → key r = key r' := by
  rw [List.nodup_map_iff_inj_on ((hn.of_map _).filter _)]
  constructor
  · intro h r hr r' hr' hp hp' hg
    rw [h r (List.mem_filter.2 ⟨hr, hp⟩) r' (List.mem_filter.2 ⟨hr', hp'⟩) hg]
  · intro h r hr r' hr' hg
    obtain ⟨hr, hp⟩ := List.mem_filter.1 hr
    obtain ⟨hr', hp'⟩ := List.mem_filter.1 hr'
    exact List.inj_on_of_nodup_map hn hr hr' (h r hr r' hr' hp hp' hg)

/-- A row has not the key when the row with the key lacks a property of it. -/
theorem ne_of_find (p : α → Bool) (hn : (l.map key).Nodup) {r₀ : α}
    (hfind : find key l k = some r₀) (hno : ¬ p r₀) (hr : r ∈ l) (hp : p r) : key r ≠ k := by
  intro hk
  rw [(find_eq_some_iff hn).2 ⟨hr, hk⟩] at hfind
  exact hno (Option.some.inj hfind ▸ hp)

theorem find_map {β : Type*} (f : β → α) (l : List β) :
    find key (l.map f) k = (find (fun b => key (f b)) l k).map f := by
  simp only [find, List.find?_map]
  rfl

section Update

variable {f : α → α}

theorem key_update (hf : ∀ r, key (f r) = key r) (r : α) :
    key (if key r = k then f r else r) = key r := by
  split
  · exact hf r
  · rfl

theorem map_update {β : Type*} {g : α → β} (hg : ∀ r, g (f r) = g r) :
    (update key l k f).map g = l.map g := by
  rw [update, List.map_map]
  exact List.map_congr_left fun r _ => by
    simp only [Function.comp_apply]
    split
    · exact hg r
    · rfl

theorem nodup_map_update {β : Type*} {g : α → β} (hg : ∀ r, g (f r) = g r)
    (hn : (l.map g).Nodup) : ((update key l k f).map g).Nodup := by rwa [map_update hg]

theorem mem_update (h : r ∈ l) : (if key r = k then f r else r) ∈ update key l k f :=
  List.mem_map_of_mem h

theorem find_update (hf : ∀ r, key (f r) = key r) :
    find key (update key l k f) k' =
      (find key l k').map fun r => if key r = k then f r else r := by
  rw [update, find_map, funext (key_update hf)]

theorem find_update_self (hf : ∀ r, key (f r) = key r) :
    find key (update key l k f) k = (find key l k).map f := by
  rw [find_update hf]
  cases h : find key l k with
  | none => rfl
  | some r => simp [key_of_find h]

theorem find_update_of_ne (hf : ∀ r, key (f r) = key r) (hk : k' ≠ k) :
    find key (update key l k f) k' = find key l k' := by
  rw [find_update hf]
  cases h : find key l k' with
  | none => rfl
  | some r => simp [key_of_find h, hk]

end Update

theorem find_append (l' : List α) : find key (l ++ l') k = (find key l k).or (find key l' k) :=
  List.find?_append

theorem find_cons (l : List α) (r : α) :
    find key (r :: l) k = if key r = k then some r else find key l k := by
  by_cases h : key r = k <;> simp [find, h]

/-- A row is entered into a dictionary under its key, unless there is one already. -/
theorem foldl_enter {β : Type*} (value : α → β) (l : List α) (d : Dict κ β) (k : κ) :
    (l.foldl (fun d r => if (d (key r)).isSome then d else d.set (key r) (value r)) d) k =
      (d k).or ((find key l k).map value) := by
  induction l generalizing d with
  | nil => simp [find]
  | cons r l ih =>
    rw [List.foldl_cons, ih, find_cons]
    by_cases hr : key r = k
    · subst hr
      cases hk : d (key r) <;> simp [hk]
    · by_cases hsome : (d (key r)).isSome = true
      · simp [hsome, hr]
      · simp [hsome, hr, Dict.set_of_ne _ _ (Ne.symm hr)]

theorem nodup_append_new {β : Type*} {g : α → β} (hn : (l.map g).Nodup)
    (h : ∀ r' ∈ l, g r' ≠ g r) : ((l ++ [r]).map g).Nodup := by
  rw [List.map_append, List.nodup_append]
  refine ⟨hn, by simp, fun b hb b' hb' => ?_⟩
  obtain ⟨r', hr', rfl⟩ := List.mem_map.1 hb
  rw [List.map_singleton, List.mem_singleton] at hb'
  exact hb' ▸ h r' hr'

/-- What is unique stays so when the row under a key gets a value that no other row has. -/
theorem nodup_update {β : Type*} {f : α → α} {g : α → β} (hn : (l.map key).Nodup)
    (hg : (l.map g).Nodup)
    (hnew : ∀ r ∈ l, key r = k → ∀ r' ∈ l, key r' ≠ k → g r' ≠ g (f r)) :
    ((update key l k f).map g).Nodup := by
  rw [update, List.map_map, List.nodup_map_iff_inj_on (hn.of_map _)]
  intro x hx y hy heq
  simp only [Function.comp_apply] at heq
  by_cases hxk : key x = k
  · by_cases hyk : key y = k
    · exact List.inj_on_of_nodup_map hn hx hy (hxk.trans hyk.symm)
    · rw [if_pos hxk, if_neg hyk] at heq
      exact absurd heq.symm (hnew x hx hxk y hy hyk)
  · by_cases hyk : key y = k
    · rw [if_neg hxk, if_pos hyk] at heq
      exact absurd heq (hnew y hy hyk x hx hxk)
    · rw [if_neg hxk, if_neg hyk] at heq
      exact List.inj_on_of_nodup_map hg hx hy heq

theorem nodup_update_of_key {β : Type*} {f : α → α} {g : α → β} (hn : (l.map key).Nodup)
    (hg : (l.map g).Nodup) (h : find key l k = some r)
    (hnew : ∀ r' ∈ l, key r' ≠ k → g r' ≠ g (f r)) : ((update key l k f).map g).Nodup := by
  refine nodup_update hn hg fun x hx hk => ?_
  obtain rfl := List.inj_on_of_nodup_map hn hx (mem_of_find h) (hk.trans (key_of_find h).symm)
  exact hnew

theorem find_reverse (hn : (l.map key).Nodup) : find key l.reverse k = find key l k := by
  have hrev : (l.reverse.map key).Nodup := by
    rw [List.map_reverse]
    exact List.nodup_reverse.2 hn
  refine Option.ext fun r => ?_
  rw [find_eq_some_iff hrev, find_eq_some_iff hn, List.mem_reverse]

/-- The dictionary that a loop over the rows builds. -/
theorem foldl_set {V : Type*} (val : α → V) (d : Dict κ V) :
    l.foldl (fun m r => m.set (key r) (val r)) d k = ((find key l.reverse k).map val).or (d k) := by
  induction l using List.reverseRecOn with
  | nil => rfl
  | append_singleton l r ih =>
    rw [List.foldl_append, List.foldl_cons, List.foldl_nil, Dict.set_apply, ih, List.reverse_append,
      List.reverse_singleton, List.singleton_append, find_cons]
    by_cases hk : key r = k
    · simp [hk]
    · simp [hk, Ne.symm hk]

/-- Such a loop changes nothing if the last row of each key is there already. -/
theorem foldl_set_eq_self_iff {V : Type*} {val : α → V} {d : Dict κ V} :
    l.foldl (fun m r => m.set (key r) (val r)) d = d ↔
      ∀ k r, find key l.reverse k = some r → d k = some (val r) := by
  constructor
  · intro h k r hr
    rw [← h, foldl_set, hr]
    rfl
  · intro h
    funext k
    rw [foldl_set]
    cases hr : find key l.reverse k with
    | none => rfl
    | some r => exact (h k r hr).symm

/-- A new row under a free key. -/
theorem find_append_new (h : ∀ r' ∈ l, key r' ≠ key r) :
    find key (l ++ [r]) = Dict.set (find key l) (key r) r := by
  funext k
  rw [find_append, Dict.set_apply, find_cons]
  split
  next hk => rw [find_eq_none_iff.2 fun r' hr' => hk ▸ h r' hr', Option.none_or, if_pos hk.symm]
  next hk => simp [find, Ne.symm hk]

theorem find_update_set (f : α → α) (hf : ∀ r, key (f r) = key r) (h : find key l k = some r) :
    find key (update key l k f) = Dict.set (find key l) k (f r) := by
  funext k'
  rw [Dict.set_apply]
  split
  next hk => rw [hk, find_update_self hf, h]; rfl
  next hk => exact find_update_of_ne hf hk

/-- The rows that remain when a part of the key must not be `i`. -/
theorem find_filter {ι : Type*} [DecidableEq ι] (π : κ → ι) (i : ι) :
    find key (l.filter fun r => π (key r) ≠ i) k = if π k = i then none else find key l k := by
  simp only [find, List.find?_filter]
  split
  next hk =>
    rw [List.find?_eq_none]
    intro r _ hr
    simp only [ne_eq, decide_not, Bool.not_eq_true', decide_eq_false_iff_not,
      decide_eq_true_eq] at hr
    exact hr.1 (hr.2 ▸ hk)
  next hk =>
    refine congrArg (List.find? · l) (funext fun r => ?_)
    by_cases hr : key r = k
    · simp [hr, hk]
    · simp [hr]

/-- A selection that a change of the rows does not touch. -/
theorem filter_map_of_fixed {p : α → Bool} {f : α → α} (hp : ∀ r ∈ l, p (f r) = p r)
    (hf : ∀ r ∈ l, p r → f r = r) : (l.map f).filter p = l.filter p := by
  have hcomp : l.filter (p ∘ f) = l.filter p := List.filter_congr hp
  rw [List.filter_map, hcomp]
  conv_rhs => rw [← List.map_id (l.filter p)]
  exact List.map_congr_left fun r hr => hf r (List.mem_of_mem_filter hr) (List.of_mem_filter hr)

/-- A search among the results of a lookup that finds what it looks up. -/
theorem find?_filterMap_self {f : α → Option α} {p q : α → Bool}
    (hq : ∀ r ∈ l, q r → f r = some r ∧ p r)
    (hno : ∀ r ∈ l, ¬ q r → ∀ r', f r = some r' → ¬ p r') :
    (l.filterMap f).find? p = l.find? q := by
  induction l with
  | nil => rfl
  | cons r l ih =>
    have hrest := ih (fun x hx => hq x (List.mem_cons_of_mem _ hx))
      (fun x hx => hno x (List.mem_cons_of_mem _ hx))
    rw [List.filterMap_cons, List.find?_cons]
    by_cases hr : q r
    · obtain ⟨hf, hp⟩ := hq r List.mem_cons_self hr
      simp [hf, hp, hr]
    · have hmiss := hno r List.mem_cons_self hr
      cases hf : f r with
      | none => simp [hr, hrest]
      | some r' => simp [hr, hmiss r' hf, hrest]

section Allotted

variable {id : α → ℕ} {rows rows' : List α} {first next next' : ℕ}

/-- The rows have ids of their own, all before the next one. -/
structure Allotted (id : α → ℕ) (rows : List α) (next : ℕ) : Prop where
  nodup : (rows.map id).Nodup
  fresh : ∀ r ∈ rows, id r < next

omit [DecidableEq κ]

theorem Allotted.mono (h : Allotted id rows next) (hnext : next ≤ next') :
    Allotted id rows next' :=
  ⟨h.nodup, fun r hr => Nat.lt_of_lt_of_le (h.fresh r hr) hnext⟩

theorem Allotted.sublist (h : Allotted id rows next) (hsub : rows'.Sublist rows) :
    Allotted id rows' next :=
  ⟨h.nodup.sublist (hsub.map _), fun r hr => h.fresh r (hsub.subset hr)⟩

theorem Allotted.perm (h : Allotted id rows next) (hperm : rows'.Perm rows) :
    Allotted id rows' next :=
  ⟨(hperm.map _).nodup_iff.2 h.nodup, fun r hr => h.fresh r (hperm.mem_iff.1 hr)⟩

/-- Changes of the rows but for their ids. -/
theorem Allotted.of_ids (h : Allotted id rows next) (hids : rows'.map id = rows.map id) :
    Allotted id rows' next := by
  refine ⟨hids ▸ h.nodup, fun r hr => ?_⟩
  obtain ⟨r₀, hr₀, hid⟩ := List.mem_map.1 (hids ▸ List.mem_map_of_mem (f := id) hr)
  exact hid ▸ h.fresh r₀ hr₀

/-- Rows that get the ids from `first` on. -/
theorem allotted_range' (hids : rows.map id = List.range' first rows.length) :
    Allotted id rows (first + rows.length) ∧ ∀ r ∈ rows, first ≤ id r := by
  have hmem : ∀ r ∈ rows, first ≤ id r ∧ id r < first + rows.length := by
    intro r hr
    have hid : id r ∈ rows.map id := List.mem_map_of_mem hr
    rwa [hids, List.mem_range'_1] at hid
  exact ⟨⟨hids ▸ List.nodup_range' .., fun r hr => (hmem r hr).2⟩, fun r hr => (hmem r hr).1⟩

/-- Newer rows come. -/
theorem Allotted.append (h : Allotted id rows next) (h' : Allotted id rows' next')
    (hnew : ∀ r ∈ rows', next ≤ id r) (hnext : next ≤ next') :
    Allotted id (rows ++ rows') next' := by
  constructor
  · rw [List.map_append, List.nodup_append]
    refine ⟨h.nodup, h'.nodup, fun i hi i' hi' heq => ?_⟩
    obtain ⟨r, hr, rfl⟩ := List.mem_map.1 hi
    obtain ⟨r', hr', rfl⟩ := List.mem_map.1 hi'
    exact absurd heq (Nat.ne_of_lt (Nat.lt_of_lt_of_le (h.fresh r hr) (hnew r' hr')))
  · intro r hr
    rcases List.mem_append.1 hr with hr | hr
    · exact Nat.lt_of_lt_of_le (h.fresh r hr) hnext
    · exact h'.fresh r hr

theorem Allotted.append_range' (h : Allotted id rows next)
    (hids : rows'.map id = List.range' first rows'.length) (hfirst : next ≤ first) :
    Allotted id (rows ++ rows') (first + rows'.length) :=
  h.append (allotted_range' hids).1
    (fun r hr => Nat.le_trans hfirst ((allotted_range' hids).2 r hr))
    (Nat.le_trans hfirst (Nat.le_add_right _ _))

theorem Allotted.append_new (h : Allotted id rows next) {r : α} (hid : id r = next) :
    Allotted id (rows ++ [r]) (next + 1) :=
  @Allotted.append_range' _ id rows [r] next next h (by simp [hid]) (Nat.le_refl _)

/-- The parts of the row under a key are exchanged for newer ones. -/
theorem Allotted.flatMap_update {β : Type*} [DecidableEq κ] {key : β → κ} {l : List β} {k : κ}
    {f : β → β} {parts : β → List α} (h : Allotted id (l.flatMap parts) next)
    (hkeys : (l.map key).Nodup) (hnext : next ≤ next')
    (hparts : ∀ r ∈ l, key r = k → Allotted id (parts (f r)) next' ∧
      ∀ x ∈ parts (f r), next ≤ id x) :
    Allotted id ((update key l k f).flatMap parts) next' := by
  have hold : ∀ r ∈ l, ∀ x ∈ parts r, id x < next := fun r hr x hx =>
    h.fresh x (List.mem_flatMap.2 ⟨r, hr, hx⟩)
  have hnodup := h.nodup
  rw [List.map_flatMap, List.nodup_flatMap] at hnodup
  obtain ⟨heach, happart⟩ := hnodup
  constructor
  · rw [List.map_flatMap, List.nodup_flatMap, update, List.pairwise_map]
    refine ⟨fun r' hr' => ?_, ?_⟩
    · obtain ⟨r, hr, rfl⟩ := List.mem_map.1 hr'
      split
      next hk => exact (hparts r hr hk).1.nodup
      next => exact heach r hr
    · -- of two rows at most one has the key
      refine (happart.and (List.pairwise_map.1 hkeys)).imp_of_mem fun {a b} ha hb hab => ?_
      intro i hi hi'
      split at hi
      next hak =>
        rw [if_neg fun hbk => hab.2 (hak.trans hbk.symm)] at hi'
        obtain ⟨x, hx, rfl⟩ := List.mem_map.1 hi
        obtain ⟨y, hy, hid⟩ := List.mem_map.1 hi'
        have hlt := Nat.lt_of_lt_of_le (hold b hb y hy) ((hparts a ha hak).2 x hx)
        exact Nat.ne_of_lt hlt hid
      next =>
        split at hi'
        next hbk =>
          obtain ⟨x, hx, rfl⟩ := List.mem_map.1 hi
          obtain ⟨y, hy, hid⟩ := List.mem_map.1 hi'
          have hlt := Nat.lt_of_lt_of_le (hold a ha x hx) ((hparts b hb hbk).2 y hy)
          exact Nat.ne_of_lt hlt hid.symm
        next => exact hab.1 hi hi'
  · intro x hx
    obtain ⟨r', hr', hx⟩ := List.mem_flatMap.1 hx
    obtain ⟨r, hr, rfl⟩ := List.mem_map.1 hr'
    split at hx
    next hk => exact (hparts r hr hk).1.fresh x hx
    next => exact Nat.lt_of_lt_of_le (hold r hr x hx) hnext

end Allotted

section Keeps

variable {γ : Type*} {marked : α → Bool} {content : α → γ} {old rows rows' : List α}

/-- The marked rows are rows of `old`, with the same content. -/
def Keeps (key : α → κ) (marked : α → Bool) (content : α → γ) (old rows : List α) : Prop :=
  ∀ r ∈ rows, marked r → ∃ r₀ ∈ old, marked r₀ ∧ key r₀ = key r ∧ content r₀ = content r

omit [DecidableEq κ]

theorem Keeps.refl (rows : List α) : Keeps key marked content rows rows :=
  fun r hr hm => ⟨r, hr, hm, rfl, rfl⟩

theorem Keeps.trans (h : Keeps key marked content old rows)
    (h' : Keeps key marked content rows rows') : Keeps key marked content old rows' := by
  intro r hr hm
  obtain ⟨r₁, hr₁, hm₁, hk₁, hc₁⟩ := h' r hr hm
  obtain ⟨r₀, hr₀, hm₀, hk₀, hc₀⟩ := h r₁ hr₁ hm₁
  exact ⟨r₀, hr₀, hm₀, hk₀.trans hk₁, hc₀.trans hc₁⟩

theorem keeps_filter (p : α → Bool) : Keeps key marked content rows (rows.filter p) :=
  fun r hr hm => ⟨r, List.mem_of_mem_filter hr, hm, rfl, rfl⟩

theorem keeps_append (hr : marked r = false) : Keeps key marked content rows (rows ++ [r]) := by
  intro x hx hm
  rcases List.mem_append.1 hx with hx | hx
  · exact ⟨x, hx, hm, rfl, rfl⟩
  · rw [List.mem_singleton.1 hx, hr] at hm
    cases hm

theorem keeps_map {f : α → α} (hkey : ∀ r ∈ rows, key (f r) = key r)
    (hmarked : ∀ r ∈ rows, marked (f r) = marked r)
    (hcontent : ∀ r ∈ rows, marked r → content (f r) = content r) :
    Keeps key marked content rows (rows.map f) := by
  intro x hx hm
  obtain ⟨r, hr, rfl⟩ := List.mem_map.1 hx
  rw [hmarked r hr] at hm
  exact ⟨r, hr, hm, (hkey r hr).symm, (hcontent r hr hm).symm⟩

/-- The marked rows of `old` that `P` holds of are still there. -/
def Stays (key : α → κ) (marked : α → Bool) (P : α → Prop) (old rows : List α) : Prop :=
  ∀ r₀ ∈ old, marked r₀ → P r₀ → ∃ r ∈ rows, marked r ∧ key r = key r₀

theorem Stays.refl {P : α → Prop} (rows : List α) : Stays key marked P rows rows :=
  fun r hr hm _ => ⟨r, hr, hm, rfl⟩

theorem stays_append {P : α → Prop} (new : List α) : Stays key marked P rows (rows ++ new) :=
  fun r hr hm _ => ⟨r, List.mem_append_left _ hr, hm, rfl⟩

theorem stays_filter {P : α → Prop} {p : α → Bool} (hp : ∀ r ∈ rows, marked r → P r → p r) :
    Stays key marked P rows (rows.filter p) :=
  fun r hr hm hP => ⟨r, List.mem_filter.2 ⟨hr, hp r hr hm hP⟩, hm, rfl⟩

theorem stays_map {P : α → Prop} {f : α → α} (hkey : ∀ r ∈ rows, key (f r) = key r)
    (hmarked : ∀ r ∈ rows, marked (f r) = marked r) : Stays key marked P rows (rows.map f) :=
  fun r hr hm _ => ⟨f r, List.mem_map_of_mem hr, hmarked r hr ▸ hm, hkey r hr⟩

/-- Changes of the rows under a key that leave the key and the mark of a row. -/
theorem keeps_update [DecidableEq κ] {f : α → α} (hkey : ∀ r, key (f r) = key r)
    (hmarked : ∀ r, marked (f r) = marked r)
    (hcontent : ∀ r ∈ rows, key r = k → marked r → content (f r) = content r) :
    Keeps key marked content rows (update key rows k f) := by
  refine keeps_map (fun r _ => key_update hkey r) (fun r _ => ?_) fun r hr hm => ?_
  · split
    · exact hmarked r
    · rfl
  · split
    next hk => exact hcontent r hr hk hm
    next => rfl

theorem stays_update [DecidableEq κ] {κ' : Type*} {key' : α → κ'} {P : α → Prop} {f : α → α}
    (hkey : ∀ r, key' (f r) = key' r) (hmarked : ∀ r, marked (f r) = marked r) :
    Stays key' marked P rows (update key rows k f) := by
  refine stays_map (fun r _ => ?_) fun r _ => ?_
  · split
    · exact hkey r
    · rfl
  · split
    · exact hmarked r
    · rfl

end Keeps

end GhostMeter.Lib.Table
