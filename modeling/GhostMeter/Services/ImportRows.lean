import GhostMeter.Services.ImportDevices

/-! Steps 3 and 4 of an import: the tables whose rows belong to devices. -/

namespace GhostMeter

open GhostMeter.Lib GhostMeter.Simulation GhostMeter.Protocols GhostMeter.Schemas

namespace Services

section Rows

variable {α β γ ι : Type} {key : α → UUID × ι} {name : β → String}

/-- `remaining`, of the entries from the last to the first. -/
def lastRun (name : β → String) : List β → List β
  | [] => []
  | b :: before => if name b ∈ before.map name then lastRun name before ++ [b] else [b]

/-- Of the entries for one device, those that stay: the first one under a name takes away
what has come before. -/
def remaining (name : β → String) (entries : List β) : List β := lastRun name entries.reverse

theorem remaining_append (entries : List β) (b : β) :
    remaining name (entries ++ [b]) =
      if name b ∈ entries.map name then remaining name entries ++ [b] else [b] := by
  rw [remaining, List.reverse_append, List.reverse_singleton, List.singleton_append, lastRun]
  simp only [List.map_reverse, List.mem_reverse]
  rfl

theorem remaining_eq_self {entries : List β}
    (h : ∀ b ∈ entries, ∀ b' ∈ entries, name b = name b') :
    remaining name entries = entries := by
  induction entries using List.reverseRecOn with
  | nil => rfl
  | append_singleton entries b ih =>
    have hbefore : ∀ x ∈ entries, ∀ y ∈ entries, name x = name y := fun x hx y hy =>
      h x (List.mem_append_left _ hx) y (List.mem_append_left _ hy)
    rw [remaining_append, ih hbefore]
    split
    next => rfl
    next hno =>
      cases entries with
      | nil => rfl
      | cons a entries => exact absurd (by simp [h b (by simp) a (by simp)]) hno

/-- The rows of a device. -/
def ofDevice (key : α → UUID × ι) (rows : List α) (device : UUID) : List α :=
  rows.filter fun r => (key r).1 = device

/-- The entries for a device, by the name they give it. -/
def entriesFor (name : β → String) (ids : Dict String UUID) (entries : List β) (device : UUID) :
    List β :=
  entries.filter fun b => ids (name b) = some device

/-- The rows after the entries `done`: those of a device with entries are the ones that stay,
and the others are the old ones. -/
structure RowsDone (key : α → UUID × ι) (content : α → γ) (name : β → String) (entry : β → γ)
    (ids : Dict String UUID) (old : List α) (done : List β) (rows : List α)
    (cleared : List String) : Prop where
  cleared : ∀ n, n ∈ cleared ↔ n ∈ done.map name ∧ (ids n).isSome
  replaced : ∀ device, entriesFor name ids done device ≠ [] →
    (ofDevice key rows device).map content =
      (remaining name (entriesFor name ids done device)).map entry
  kept : ∀ device, entriesFor name ids done device = [] →
    ofDevice key rows device = ofDevice key old device

variable {content : α → γ} {entry : β → γ} {ids : Dict String UUID} {old rows rows' : List α}
  {done : List β} {cleared cleared' : List String} {b : β} {device : UUID}

theorem rowsDone_nil : RowsDone key content name entry ids old [] old [] where
  cleared := by simp
  replaced := by simp [entriesFor]
  kept := by simp

theorem entriesFor_append (device : UUID) :
    entriesFor name ids (done ++ [b]) device =
      if ids (name b) = some device then entriesFor name ids done device ++ [b]
      else entriesFor name ids done device := by
  rw [entriesFor, List.filter_append, List.filter_singleton]
  split <;> simp_all [entriesFor]

/-- An entry for a name that stands for no device is passed over. -/
theorem RowsDone.skip (h : RowsDone key content name entry ids old done rows cleared)
    (hb : ids (name b) = none) :
    RowsDone key content name entry ids old (done ++ [b]) rows cleared := by
  have hsame : ∀ device,
      entriesFor name ids (done ++ [b]) device = entriesFor name ids done device :=
    fun device => by rw [entriesFor_append, hb, if_neg (by simp)]
  refine ⟨fun n => ?_, fun device => ?_, fun device => ?_⟩
  · rw [h.cleared, List.map_append, List.mem_append]
    refine and_congr_left fun hn => (or_iff_left ?_).symm
    rintro hmem
    rw [List.map_singleton, List.mem_singleton] at hmem
    simp [hmem, hb] at hn
  · rw [hsame]
    exact h.replaced device
  · rw [hsame]
    exact h.kept device

variable [DecidableEq ι]

theorem replaceRow_ok {row : α}
    (h : replaceRow key rows cleared (name b) row = .ok (rows', cleared')) :
    (name b ∈ cleared ∧ rows' = rows ++ [row] ∧ cleared' = cleared) ∨
      (name b ∉ cleared ∧ rows' = rows.filter (fun r => (key r).1 ≠ (key row).1) ++ [row] ∧
        cleared' = name b :: cleared) := by
  by_cases hmem : name b ∈ cleared
  · simp only [replaceRow, hmem, if_true, andThen_ok_iff] at h
    obtain ⟨rfl, rfl⟩ := Prod.mk.inj (Except.ok.inj h.2)
    exact Or.inl ⟨hmem, rfl, rfl⟩
  · simp only [replaceRow, hmem, if_false, andThen_ok_iff] at h
    obtain ⟨rfl, rfl⟩ := Prod.mk.inj (Except.ok.inj h.2)
    exact Or.inr ⟨hmem, rfl, rfl⟩

/-- An entry for a device adds its row, to none if it is the first under its name. -/
theorem RowsDone.replace (h : RowsDone key content name entry ids old done rows cleared)
    {row : α} (hb : ids (name b) = some device) (hkey : (key row).1 = device)
    (hcontent : content row = entry b)
    (hreplace : replaceRow key rows cleared (name b) row = .ok (rows', cleared')) :
    RowsDone key content name entry ids old (done ++ [b]) rows' cleared' := by
  have hrow : ∀ d, ofDevice key [row] d = if d = device then [row] else [] := by
    intro d
    rw [ofDevice, List.filter_singleton, hkey]
    by_cases hd : device = d <;> simp [hd, eq_comm]
  have hof : ∀ d, ofDevice key (rows.filter fun r => (key r).1 ≠ device) d =
      if d = device then [] else ofDevice key rows d := by
    intro d
    rw [ofDevice, List.filter_filter]
    split
    next hd =>
      rw [List.filter_eq_nil_iff]
      simp [hd]
    next hd =>
      refine List.filter_congr fun r _ => ?_
      by_cases hr : (key r).1 = d <;> simp [hr, hd]
  have hnames : name b ∈ cleared ↔ name b ∈ (entriesFor name ids done device).map name := by
    rw [h.cleared, hb]
    simp only [Option.isSome_some, and_true, List.mem_map, entriesFor, List.mem_filter,
      decide_eq_true_eq]
    constructor
    · rintro ⟨x, hx, hn⟩
      exact ⟨x, ⟨hx, hn ▸ hb⟩, hn⟩
    · rintro ⟨x, hx, hn⟩
      exact ⟨x, hx.1, hn⟩
  have happend : ∀ l d, ofDevice key (l ++ [row]) d = ofDevice key l d ++ ofDevice key [row] d :=
    fun l d => List.filter_append ..
  have hother : ∀ d, d ≠ device → ofDevice key rows' d = ofDevice key rows d := by
    intro d hd
    rcases replaceRow_ok hreplace with ⟨-, rfl, -⟩ | ⟨-, rfl, -⟩
    · rw [happend, hrow, if_neg hd, List.append_nil]
    · rw [hkey, happend, hrow, if_neg hd, List.append_nil, hof, if_neg hd]
  constructor
  · intro n
    have hlast : n ∈ (done ++ [b]).map name ↔ n ∈ done.map name ∨ n = name b := by simp
    rw [hlast]
    rcases replaceRow_ok hreplace with ⟨hmem, -, rfl⟩ | ⟨-, -, rfl⟩
    · rw [h.cleared]
      refine and_congr_left fun _ => (or_iff_left_of_imp ?_).symm
      rintro rfl
      exact ((h.cleared _).1 hmem).1
    · rw [List.mem_cons, h.cleared]
      constructor
      · rintro (rfl | hn)
        · exact ⟨Or.inr rfl, by rw [hb]; rfl⟩
        · exact ⟨Or.inl hn.1, hn.2⟩
      · rintro ⟨hn | rfl, hsome⟩
        · exact Or.inr ⟨hn, hsome⟩
        · exact Or.inl rfl
  · intro d hne
    rw [entriesFor_append, hb] at hne ⊢
    by_cases hd : d = device
    · subst hd
      rw [if_pos rfl, remaining_append]
      rcases replaceRow_ok hreplace with ⟨hmem, rfl, -⟩ | ⟨hmem, rfl, -⟩
      · have hin := hnames.1 hmem
        have hsome : entriesFor name ids done d ≠ [] := by
          intro hnil
          simp [hnil] at hin
        rw [if_pos hin, happend, hrow, if_pos rfl, List.map_append, h.replaced d hsome]
        simp [hcontent]
      · rw [if_neg (hnames.not.1 hmem), hkey, happend, hrow, if_pos rfl, hof, if_pos rfl]
        simp [hcontent]
    · have hne' : ¬ (some device = some d) := fun h => hd (Option.some.inj h).symm
      rw [if_neg hne'] at hne ⊢
      rw [hother d hd]
      exact h.replaced d hne
  · intro d hnil
    rw [entriesFor_append, hb] at hnil
    by_cases hd : d = device
    · simp [hd] at hnil
    · have hne' : ¬ (some device = some d) := fun h => hd (Option.some.inj h).symm
      rw [if_neg hne'] at hnil
      rw [hother d hd]
      exact h.kept d hnil

end Rows

end Services

end GhostMeter
