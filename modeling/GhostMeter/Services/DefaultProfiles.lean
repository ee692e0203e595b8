import GhostMeter.Seed.Loader
import Mathlib.Data.List.Sort

/-! The default profile of a template, switched by a call whose changed rows are written one after
the other, in the order of their ids. -/

namespace GhostMeter.Services

open GhostMeter.Lib GhostMeter.Seed

/-- A row that the session has changed. -/
structure RowUpdate where
  id : UUID
  change : SimulationProfile → SimulationProfile

def RowUpdate.write (u : RowUpdate) (db : Database) : Database :=
  { db with simulationProfiles :=
      Table.update SimulationProfile.id db.simulationProfiles u.id u.change }

/-- The updates of a flush; the constraints are checked after each row. -/
def flush (name e : String) : Database → List RowUpdate → Except AppException Database
  | db, [] => .ok db
  | db, u :: us => do
    let db ← commitOrRaiseConflict (u.write db) name e
    flush name e db us

/-- The row that `_clear_existing_default` finds. -/
def existingDefault (db : Database) (template : UUID) : Option SimulationProfile :=
  db.simulationProfiles.find? fun p => p.templateId = template ∧ p.isDefault

def clearDefault (old : SimulationProfile) : RowUpdate where
  id := old.id
  change p := { p with isDefault := false }

def ownUpdate (p : SimulationProfile) (data : SimulationProfileUpdate) : RowUpdate where
  id := p.id
  change := data.apply

/-- The changed rows of `update_profile`.  A profile that is the default itself is one row. -/
def pendingUpdates (db : Database) (p : SimulationProfile) (data : SimulationProfileUpdate) :
    List RowUpdate :=
  let old := if data.isDefault = some true then existingDefault db p.templateId else none
  let cleared := (old.filter fun q => q.id ≠ p.id).map clearDefault
  (cleared.toList ++ [ownUpdate p data]).insertionSort fun u v => u.id ≤ v.id

/-- The row that `create_profile` inserts. -/
def createdRow (db : Database) (data : SimulationProfileCreate) : SimulationProfile where
  id := db.nextId
  templateId := data.templateId
  name := data.name
  description := data.description
  isBuiltin := false
  isDefault := data.isDefault
  configs := data.configs.map (·.toConfigEntry)

/-- The two calls that can make a profile the default. -/
inductive DefaultCall
  | create (data : SimulationProfileCreate)
  | update (profile : UUID) (data : SimulationProfileUpdate)

namespace DefaultCall

/-- The call, with its flush; the updates come before the insert. -/
def run (db : Database) (e : String) : DefaultCall → Except AppException Database
  | create data => do
    let _ ← db.getTemplate data.templateId
    let old := if data.isDefault then existingDefault db data.templateId else none
    let db ← flush data.name e db (old.map clearDefault).toList
    commitOrRaiseConflict { db with
        simulationProfiles := db.simulationProfiles ++ [createdRow db data]
        nextId := db.nextId + 1 } data.name e
  | update profile data => do
    let p ← getProfileOr404 db profile
    raiseIf (p.isBuiltin = true ∧ data.configs.isSome) (forbiddenException
      "Cannot modify configs of a built-in profile" "BUILTIN_PROFILE_IMMUTABLE")
    flush (data.name.getD p.name) e db (pendingUpdates db p data)

def isDefault : DefaultCall → Bool
  | create data => data.isDefault
  | update _ data => data.isDefault = some true

/-- The name that the call writes is not the name of another profile of the template. -/
def NoNameClash (db : Database) : DefaultCall → Prop
  | create data => ∀ p ∈ db.simulationProfiles, p.templateId = data.templateId → p.name ≠ data.name
  | update profile data => ∀ p ∈ db.simulationProfiles, p.id = profile →
      ∀ q ∈ db.simulationProfiles, q.templateId = p.templateId → q.id ≠ profile →
        data.name ≠ some q.name

end DefaultCall

/-- The profile `i` is the one default of its template, and other templates have the profiles that
they had. -/
structure SwitchedTo (template i : UUID) (db db' : Database) : Prop where
  default : ∃ p ∈ db'.simulationProfiles, p.id = i ∧ p.templateId = template ∧ p.isDefault
  only : ∀ p ∈ db'.simulationProfiles, p.templateId = template → p.isDefault → p.id = i
  others : db'.simulationProfiles.filter (·.templateId ≠ template) =
    db.simulationProfiles.filter (·.templateId ≠ template)

namespace DefaultCall

/-- What the call is for. -/
def Switches (db : Database) (e : String) (call : DefaultCall) : Prop :=
  match call with
  | create data => ∃ db', call.run db e = .ok db' ∧ SwitchedTo data.templateId db.nextId db db'
  | update profile _ => ∃ p db', getProfileOr404 db profile = .ok p ∧ call.run db e = .ok db' ∧
      SwitchedTo p.templateId profile db db'

/-- The row is there, the call may write it, and the old default is written before it. -/
def ClearsFirst (db : Database) : DefaultCall → Prop
  | create data => ∃ t, db.getTemplate data.templateId = .ok t
  | update profile data => ∃ p, getProfileOr404 db profile = .ok p ∧
      ¬ (p.isBuiltin = true ∧ data.configs.isSome) ∧
      ∀ old ∈ db.simulationProfiles, old.templateId = p.templateId → old.isDefault →
        old.id ≤ profile

end DefaultCall

variable {db db' : Database} {e : String} {p : SimulationProfile} {template : UUID}

section Constraints

theorem names_nodup_iff (hids : (db.simulationProfiles.map (·.id)).Nodup) :
    (db.simulationProfiles.map fun p => (p.templateId, p.name)).Nodup ↔
      ∀ p ∈ db.simulationProfiles, ∀ q ∈ db.simulationProfiles,
        p.templateId = q.templateId → p.name = q.name → p.id = q.id := by
  have hiff := Table.nodup_filter_iff (fun _ => true)
    (fun p : SimulationProfile => (p.templateId, p.name)) hids
  rw [List.filter_true] at hiff
  rw [hiff]
  constructor
  · exact fun h p hp q hq ht hn => h p hp q hq rfl rfl (Prod.ext ht hn)
  · exact fun h p hp q hq _ _ heq => h p hp q hq (congrArg Prod.fst heq) (congrArg Prod.snd heq)

/-- The constraints, row by row. -/
theorem profilesUnique_iff (hids : (db.simulationProfiles.map (·.id)).Nodup) :
    ProfilesUnique db ↔
      (∀ p ∈ db.simulationProfiles, ∀ q ∈ db.simulationProfiles,
        p.templateId = q.templateId → p.name = q.name → p.id = q.id) ∧
      ∀ p ∈ db.simulationProfiles, ∀ q ∈ db.simulationProfiles, p.isDefault → q.isDefault →
        p.templateId = q.templateId → p.id = q.id := by
  rw [← names_nodup_iff hids, ← Table.nodup_filter_iff (·.isDefault) (·.templateId) hids]
  exact ⟨fun h => ⟨h.names, h.defaults⟩, fun h => ⟨h.1, h.2⟩⟩

theorem commitOrRaiseConflict_of_unique {name : String} (h : ProfilesUnique db) :
    commitOrRaiseConflict db name e = .ok db :=
  commitOrRaiseConflict_ok_iff.2 ⟨h, rfl⟩

theorem existingDefault_iff (h : ProfilesUnique db)
    (hids : (db.simulationProfiles.map (·.id)).Nodup) :
    existingDefault db template = some p ↔
      p ∈ db.simulationProfiles ∧ p.templateId = template ∧ p.isDefault := by
  rw [existingDefault]
  constructor
  · intro hfind
    exact ⟨List.mem_of_find?_eq_some hfind, by simpa using List.find?_some hfind⟩
  · rintro ⟨hp, ht, hdefault⟩
    cases hfind : db.simulationProfiles.find? fun p => p.templateId = template ∧ p.isDefault with
    | none => simpa [ht, hdefault] using List.find?_eq_none.1 hfind p hp
    | some q =>
      obtain ⟨hqt, hqd⟩ : q.templateId = template ∧ q.isDefault := by
        simpa using List.find?_some hfind
      have hq := List.mem_of_find?_eq_some hfind
      have hid := ((profilesUnique_iff hids).1 h).2 q hq p hp hqd hdefault (hqt.trans ht.symm)
      rw [List.inj_on_of_nodup_map hids hq hp hid]

/-- A later id of the default of the template. -/
theorem existingDefault_any_iff (h : ProfilesUnique db)
    (hids : (db.simulationProfiles.map (·.id)).Nodup) {i : UUID} :
    (existingDefault db template).any (i < ·.id) = true ↔
      ∃ old ∈ db.simulationProfiles, old.templateId = template ∧ old.isDefault = true ∧
        i < old.id := by
  rw [Option.any_eq_true]
  constructor
  · rintro ⟨old, hold, hlt⟩
    obtain ⟨hmem, ht, hod⟩ := (existingDefault_iff h hids).1 hold
    exact ⟨old, hmem, ht, hod, of_decide_eq_true hlt⟩
  · rintro ⟨old, hmem, ht, hod, hlt⟩
    exact ⟨old, (existingDefault_iff h hids).2 ⟨hmem, ht, hod⟩, decide_eq_true hlt⟩

end Constraints

section Writes

/-- The old default's write is what `_clear_existing_default` does to the table. -/
theorem write_clearDefault (h : ProfilesUnique db)
    (hids : (db.simulationProfiles.map (·.id)).Nodup)
    (hold : existingDefault db template = some p) :
    (clearDefault p).write db = clearExistingDefault db template := by
  obtain ⟨hp, ht, hdefault⟩ := (existingDefault_iff h hids).1 hold
  refine congrArg (fun rows => { db with simulationProfiles := rows }) ?_
  refine List.map_congr_left fun q hq => ?_
  by_cases hqd : q.templateId = template ∧ q.isDefault = true
  · have hid := ((profilesUnique_iff hids).1 h).2 q hq p hp hqd.2 hdefault (hqd.1.trans ht.symm)
    rw [if_pos hqd]
    exact if_pos hid
  · have hid : q.id ≠ p.id := fun hid =>
      hqd (List.inj_on_of_nodup_map hids hq hp hid ▸ ⟨ht, hdefault⟩)
    rw [if_neg hqd]
    exact if_neg hid

theorem clearExistingDefault_of_none (hold : existingDefault db template = none) :
    clearExistingDefault db template = db := by
  refine (congrArg (fun rows => { db with simulationProfiles := rows }) ?_).trans rfl
  refine (List.map_congr_left fun q hq => if_neg ?_).trans (List.map_id _)
  simpa using List.find?_eq_none.1 hold q hq

theorem profilesUnique_cleared (h : ProfilesUnique db) (template : UUID) :
    ProfilesUnique (clearExistingDefault db template) := by
  constructor
  · rw [names_clearExistingDefault]
    exact h.names
  · rw [defaults_clearExistingDefault]
    exact h.defaults.filter _

/-- `create_profile` clears the old default before it inserts. -/
theorem run_create (h : ProfilesUnique db) (hids : (db.simulationProfiles.map (·.id)).Nodup)
    (data : SimulationProfileCreate) :
    (DefaultCall.create data).run db e = createProfile db data e := by
  rw [DefaultCall.run, createProfile]
  refine congrArg (db.getTemplate data.templateId >>= ·) (funext fun _ => ?_)
  by_cases hdefault : data.isDefault = true
  · cases hold : existingDefault db data.templateId with
    | none =>
      simp only [if_pos hdefault, clearExistingDefault_of_none hold]
      rfl
    | some old =>
      have hflush : flush data.name e db [clearDefault old] =
          .ok (clearExistingDefault db data.templateId) := by
        rw [flush, write_clearDefault h hids hold,
          commitOrRaiseConflict_of_unique (profilesUnique_cleared h _)]
        rfl
      simp only [if_pos hdefault, Option.map_some, Option.toList_some, hflush]
      rfl
  · simp only [if_neg hdefault]
    rfl

/-- The table that an accepted `update_profile` with a new default leaves. -/
def switched (db : Database) (p : SimulationProfile) (data : SimulationProfileUpdate) : Database :=
  { clearExistingDefault db p.templateId with
    simulationProfiles := Table.update SimulationProfile.id
      (clearExistingDefault db p.templateId).simulationProfiles p.id data.apply }

section Own

variable {data : SimulationProfileUpdate} {profile : UUID}

theorem mem_write_own {q' : SimulationProfile}
    (hq' : q' ∈ ((ownUpdate p data).write db).simulationProfiles) :
    ∃ q ∈ db.simulationProfiles, q' = if q.id = p.id then data.apply q else q := by
  obtain ⟨q, hq, rfl⟩ := List.mem_map.1 hq'
  exact ⟨q, hq, rfl⟩

theorem mem_write_own_self (hp : p ∈ db.simulationProfiles) :
    data.apply p ∈ ((ownUpdate p data).write db).simulationProfiles :=
  List.mem_map.2 ⟨p, hp, if_pos rfl⟩

theorem mem_write_own_of_ne {q : SimulationProfile} (hq : q ∈ db.simulationProfiles)
    (hne : q.id ≠ p.id) : q ∈ ((ownUpdate p data).write db).simulationProfiles :=
  List.mem_map.2 ⟨q, hq, if_neg hne⟩

theorem ids_write_own : ((ownUpdate p data).write db).simulationProfiles.map (·.id) =
    db.simulationProfiles.map (·.id) :=
  Table.map_update fun _ => rfl

/-- What excludes the written row and any other one, and makes two old rows one, makes any two
rows of the written table one. -/
theorem pairs_write_own {C : SimulationProfile → SimulationProfile → Prop}
    (hsymm : ∀ q r, C q r → C r q) (hids : (db.simulationProfiles.map (·.id)).Nodup)
    (hp : p ∈ db.simulationProfiles)
    (hown : ∀ r ∈ db.simulationProfiles, r.id ≠ p.id → ¬ C (data.apply p) r)
    (hold : ∀ q ∈ db.simulationProfiles, ∀ r ∈ db.simulationProfiles, C q r → q.id = r.id) :
    ∀ q ∈ ((ownUpdate p data).write db).simulationProfiles,
      ∀ r ∈ ((ownUpdate p data).write db).simulationProfiles, C q r → q.id = r.id := by
  intro q' hq' r' hr' hC
  obtain ⟨q, hq, rfl⟩ := mem_write_own hq'
  obtain ⟨r, hr, rfl⟩ := mem_write_own hr'
  by_cases hqid : q.id = p.id <;> by_cases hrid : r.id = p.id
  · simp only [hqid, hrid, if_true]
    exact hqid.trans hrid.symm
  · obtain rfl := List.inj_on_of_nodup_map hids hq hp hqid
    rw [if_pos rfl, if_neg hrid] at hC
    exact absurd hC (hown r hr hrid)
  · obtain rfl := List.inj_on_of_nodup_map hids hr hp hrid
    rw [if_neg hqid, if_pos rfl] at hC
    exact absurd (hsymm _ _ hC) (hown q hq hqid)
  · rw [if_neg hqid, if_neg hrid] at hC ⊢
    exact hold q hq r hr hC

theorem names_write_own (h : ProfilesUnique db)
    (hids : (db.simulationProfiles.map (·.id)).Nodup) (hp : p ∈ db.simulationProfiles)
    (hname : (DefaultCall.update p.id data).NoNameClash db) :
    ∀ q ∈ ((ownUpdate p data).write db).simulationProfiles,
      ∀ r ∈ ((ownUpdate p data).write db).simulationProfiles,
        q.templateId = r.templateId → q.name = r.name → q.id = r.id := by
  have hnames := ((profilesUnique_iff hids).1 h).1
  -- the written row against another one
  have hown : ∀ r ∈ db.simulationProfiles, r.id ≠ p.id → r.templateId = p.templateId →
      (data.apply p).name ≠ r.name := by
    intro r hr hrid ht heq
    rw [SimulationProfileUpdate.apply] at heq
    cases hnew : data.name with
    | none =>
      rw [hnew] at heq
      exact hrid (hnames r hr p hp ht heq.symm)
    | some name =>
      rw [hnew] at heq
      exact hname p hp rfl r hr ht hrid (hnew.trans (congrArg some heq))
  intro q hq r hr ht hnameqr
  refine pairs_write_own (C := fun q r => q.templateId = r.templateId ∧ q.name = r.name)
    (fun q r hC => ⟨hC.1.symm, hC.2.symm⟩) hids hp ?_ ?_ q hq r hr ⟨ht, hnameqr⟩
  · exact fun r hr hrid hC => hown r hr hrid hC.1.symm hC.2
  · exact fun q hq r hr hC => hnames q hq r hr hC.1 hC.2

/-- The new default is written: no other default may be there. -/
theorem unique_write_own_iff (h : ProfilesUnique db)
    (hids : (db.simulationProfiles.map (·.id)).Nodup) (hp : p ∈ db.simulationProfiles)
    (hdefault : data.isDefault = some true)
    (hname : (DefaultCall.update p.id data).NoNameClash db) :
    ProfilesUnique ((ownUpdate p data).write db) ↔
      ∀ old ∈ db.simulationProfiles, old.templateId = p.templateId → old.isDefault →
        old.id = p.id := by
  have hids' := @ids_write_own db p data ▸ hids
  have hset : (data.apply p).isDefault = true := by simp [SimulationProfileUpdate.apply, hdefault]
  rw [profilesUnique_iff hids', and_iff_right (names_write_own h hids hp hname)]
  constructor
  · intro hd old hold ht hod
    by_contra hne
    have hnew := @mem_write_own_self _ _ data hp
    exact hne (hd old (mem_write_own_of_ne hold hne) (data.apply p) hnew hod hset ht)
  · intro hall q hq r hr hqd hrd ht
    refine pairs_write_own
      (C := fun q r => q.isDefault = true ∧ r.isDefault = true ∧ q.templateId = r.templateId)
      (fun q r hC => ⟨hC.2.1, hC.1, hC.2.2.symm⟩) hids hp ?_ ?_ q hq r hr ⟨hqd, hrd, ht⟩
    · exact fun r hr hrid hC => hrid (hall r hr hC.2.2.symm hC.2.1)
    · exact fun q hq r hr hC => ((profilesUnique_iff hids).1 h).2 q hq r hr hC.1 hC.2.1 hC.2.2

end Own

theorem mem_cleared {q' : SimulationProfile}
    (hq' : q' ∈ (clearExistingDefault db template).simulationProfiles) :
    ∃ q ∈ db.simulationProfiles, q'.id = q.id ∧ q'.templateId = q.templateId ∧ q'.name = q.name ∧
      (q'.isDefault = true → q.isDefault = true ∧ q.templateId ≠ template) := by
  obtain ⟨q, hq, rfl⟩ := List.mem_map.1 hq'
  refine ⟨q, hq, ?_⟩
  split
  next => exact ⟨rfl, rfl, rfl, nofun⟩
  next hkept => exact ⟨rfl, rfl, rfl, fun hd => ⟨hd, fun ht => hkept ⟨ht, hd⟩⟩⟩

theorem cleared_mem {q : SimulationProfile} (hq : q ∈ db.simulationProfiles) :
    ∃ q' ∈ (clearExistingDefault db template).simulationProfiles, q'.id = q.id ∧
      q'.templateId = q.templateId := by
  refine ⟨_, List.mem_map_of_mem hq, ?_⟩
  split <;> exact ⟨rfl, rfl⟩

/-- Clearing first makes room for the new default. -/
theorem unique_switched (h : ProfilesUnique db)
    (hids : (db.simulationProfiles.map (·.id)).Nodup) (hp : p ∈ db.simulationProfiles)
    {data : SimulationProfileUpdate} (hdefault : data.isDefault = some true)
    (hname : (DefaultCall.update p.id data).NoNameClash db) :
    ProfilesUnique (switched db p data) := by
  obtain ⟨p', hp', hid, ht⟩ := @cleared_mem db p.templateId p hp
  have hswitched : switched db p data =
      (ownUpdate p' data).write (clearExistingDefault db p.templateId) := by
    rw [switched, RowUpdate.write, ownUpdate, hid]
  rw [hswitched, unique_write_own_iff (profilesUnique_cleared h _) ?_ hp' hdefault ?_]
  · intro old' hold' ht' hd'
    obtain ⟨old, -, -, hot, -, hod⟩ := mem_cleared hold'
    exact absurd (hot.symm.trans (ht'.trans ht)) (hod hd').2
  · exact @ids_clearExistingDefault db p.templateId ▸ hids
  · intro q' hq' hqid r' hr' hrt hrid
    obtain ⟨q, hq, hqid', hqt', -⟩ := mem_cleared hq'
    obtain ⟨r, hr, hrid', hrt', hrn', -⟩ := mem_cleared hr'
    rw [hrn']
    exact hname q hq (hqid'.symm.trans (hqid.trans hid)) r hr (by rw [← hrt', ← hqt', hrt])
      fun hrp => hrid (hrid'.trans (hrp.trans hid.symm))

/-- Whether the flush writes the new default before the old one. -/
def newFirst (db : Database) (profile : UUID) : Bool :=
  match getProfileOr404 db profile with
  | .ok p => (existingDefault db p.templateId).any (profile < ·.id)
  | .error _ => false

/-- The constraint that a second default violates. -/
theorem commit_write_own_of_other (h : ProfilesUnique db)
    (hids : (db.simulationProfiles.map (·.id)).Nodup) (hp : p ∈ db.simulationProfiles)
    {data : SimulationProfileUpdate} {name : String} (hdefault : data.isDefault = some true)
    (hname : (DefaultCall.update p.id data).NoNameClash db) {old : SimulationProfile}
    (hold : existingDefault db p.templateId = some old) (hne : old.id ≠ p.id) :
    commitOrRaiseConflict ((ownUpdate p data).write db) name e =
      .error (validationException s!"Database constraint violation: {e}") := by
  obtain ⟨hold, ht, hod⟩ := (existingDefault_iff h hids).1 hold
  have hnames := (names_nodup_iff (@ids_write_own db p data ▸ hids)).2
    (names_write_own h hids hp hname)
  have hdefaults : ¬ ((((ownUpdate p data).write db).simulationProfiles.filter
      (·.isDefault)).map (·.templateId)).Nodup := fun hd =>
    hne ((unique_write_own_iff h hids hp hdefault hname).1 ⟨hnames, hd⟩ old hold ht hod)
  rw [commitOrRaiseConflict, raiseIf, raiseIf, if_neg (not_not.2 hnames), if_pos hdefaults]
  rfl

theorem pendingUpdates_eq {data : SimulationProfileUpdate}
    (hdefault : data.isDefault = some true) :
    pendingUpdates db p data =
      match existingDefault db p.templateId with
      | none => [ownUpdate p data]
      | some old =>
        if old.id = p.id then [ownUpdate p data]
        else if old.id < p.id then [clearDefault old, ownUpdate p data]
        else [ownUpdate p data, clearDefault old] := by
  rw [pendingUpdates, if_pos hdefault]
  cases existingDefault db p.templateId with
  | none => rfl
  | some old =>
    rw [Option.filter_some]
    by_cases hid : old.id = p.id
    · simp [hid]
    · by_cases hlt : old.id < p.id
      · simp [clearDefault, ownUpdate, hid, hlt, hlt.le]
      · have hnle : ¬ old.id ≤ p.id := fun hle => hlt (lt_of_le_of_ne hle hid)
        simp [List.orderedInsert, clearDefault, ownUpdate, hid, hlt, hnle]

/-- A profile that is the default already is written as if it had been cleared. -/
theorem write_own_of_default (h : ProfilesUnique db)
    (hids : (db.simulationProfiles.map (·.id)).Nodup) {data : SimulationProfileUpdate}
    (hdefault : data.isDefault = some true) (hold : existingDefault db p.templateId = some p) :
    (ownUpdate p data).write db = switched db p data := by
  rw [switched, ← write_clearDefault h hids hold]
  refine congrArg (fun rows => { db with simulationProfiles := rows }) ?_
  rw [RowUpdate.write, Table.update, Table.update, Table.update, List.map_map]
  refine List.map_congr_left fun q _ => ?_
  by_cases hid : q.id = p.id
  · simp [ownUpdate, clearDefault, hid, SimulationProfileUpdate.apply, hdefault]
  · simp [ownUpdate, clearDefault, hid]

theorem flush_pendingUpdates (h : ProfilesUnique db)
    (hids : (db.simulationProfiles.map (·.id)).Nodup) (hp : p ∈ db.simulationProfiles)
    {data : SimulationProfileUpdate} {name : String} (hdefault : data.isDefault = some true)
    (hname : (DefaultCall.update p.id data).NoNameClash db) :
    flush name e db (pendingUpdates db p data) =
      if (existingDefault db p.templateId).any (p.id < ·.id) then
        .error (validationException s!"Database constraint violation: {e}")
      else .ok (switched db p data) := by
  have hcommit : commitOrRaiseConflict (switched db p data) name e = .ok (switched db p data) :=
    commitOrRaiseConflict_of_unique (unique_switched h hids hp hdefault hname)
  rw [pendingUpdates_eq hdefault]
  cases hold : existingDefault db p.templateId with
  | none =>
    have hwrite : (ownUpdate p data).write db = switched db p data := by
      rw [switched, clearExistingDefault_of_none hold]
      rfl
    simp only [flush, hwrite, hcommit]
    rfl
  | some old =>
    obtain ⟨hold', ht, hod⟩ := (existingDefault_iff h hids).1 hold
    rcases lt_trichotomy old.id p.id with hlt | hid | hgt
    · have hclear : commitOrRaiseConflict ((clearDefault old).write db) name e =
          .ok (clearExistingDefault db p.templateId) := by
        rw [write_clearDefault h hids hold]
        exact commitOrRaiseConflict_of_unique (profilesUnique_cleared h _)
      have hown : (ownUpdate p data).write (clearExistingDefault db p.templateId) =
          switched db p data := rfl
      simp only [if_neg hlt.ne, if_pos hlt, flush, hclear, Option.any_some, decide_eq_true_eq,
        if_neg hlt.asymm]
      show flush name e (clearExistingDefault db p.templateId) [ownUpdate p data] = _
      rw [flush, hown, hcommit]
      rfl
    · obtain rfl := List.inj_on_of_nodup_map hids hold' hp hid
      simp only [if_true, flush, write_own_of_default h hids hdefault hold, hcommit,
        Option.any_some, lt_self_iff_false, decide_false, Bool.false_eq_true, if_false]
      rfl
    · simp only [if_neg hgt.ne', if_neg hgt.asymm, flush, Option.any_some, decide_eq_true_eq,
        if_pos hgt, commit_write_own_of_other h hids hp hdefault hname hold hgt.ne']
      rfl

/-- `update_profile` writes the row of the profile first if its id is the smaller one. -/
theorem run_update (h : ProfilesUnique db) (hids : (db.simulationProfiles.map (·.id)).Nodup)
    {profile : UUID} {data : SimulationProfileUpdate} (hdefault : data.isDefault = some true)
    (hname : (DefaultCall.update profile data).NoNameClash db) :
    (DefaultCall.update profile data).run db e =
      updateProfile db profile data (newFirst db profile) e := by
  rw [DefaultCall.run, updateProfile, newFirst]
  cases hfound : getProfileOr404 db profile with
  | error err => rfl
  | ok p =>
    have hfind := getProfileOr404_ok hfound
    obtain rfl := Table.key_of_find hfind
    have hp := Table.mem_of_find hfind
    refine congrArg (raiseIf _ _ >>= ·) (funext fun _ => ?_)
    rw [flush_pendingUpdates h hids hp hdefault hname, if_pos hdefault]
    by_cases hany : (existingDefault db p.templateId).any (p.id < ·.id) = true
    · obtain ⟨old, hmem, ht, hod, hlt⟩ := (existingDefault_any_iff h hids).1 hany
      rw [if_pos hany, raiseIf, if_pos ⟨hany, hdefault, old, hmem, ht, hod, hlt.ne'⟩]
      rfl
    · rw [if_neg hany, raiseIf, if_neg fun hc => hany hc.1]
      exact (commitOrRaiseConflict_of_unique (unique_switched h hids hp hdefault hname)).symm

end Writes

section Switching

variable {data : SimulationProfileUpdate}

theorem others_cleared : (clearExistingDefault db template).simulationProfiles.filter
    (·.templateId ≠ template) = db.simulationProfiles.filter (·.templateId ≠ template) := by
  refine Table.filter_map_of_fixed (fun q _ => ?_) fun q _ hq => if_neg fun hcleared => ?_
  · split <;> rfl
  · simp [hcleared.1] at hq

theorem switchedTo_switched (hids : (db.simulationProfiles.map (·.id)).Nodup)
    (hp : p ∈ db.simulationProfiles) (hdefault : data.isDefault = some true) :
    SwitchedTo p.templateId p.id db (switched db p data) := by
  constructor
  · obtain ⟨p', hp', hid, ht⟩ := @cleared_mem db p.templateId p hp
    refine ⟨data.apply p', List.mem_map.2 ⟨p', hp', if_pos hid⟩, hid, ht, ?_⟩
    simp [SimulationProfileUpdate.apply, hdefault]
  · intro q'' hq'' ht hd
    obtain ⟨q', hq', rfl⟩ := List.mem_map.1 hq''
    obtain ⟨q, hq, hid, hqt, -, hqd⟩ := mem_cleared hq'
    by_cases hown : q'.id = p.id
    · simp only [if_pos hown]
      exact hown
    · simp only [if_neg hown] at ht hd
      exact absurd (hqt.symm.trans ht) (hqd hd).2
  · refine Eq.trans ?_ (@others_cleared db p.templateId)
    refine Table.filter_map_of_fixed (fun q' _ => ?_) fun q' hq' ht => if_neg fun hown => ?_
    · split <;> rfl
    · obtain ⟨q, hq, hid, hqt, -⟩ := mem_cleared hq'
      obtain rfl := List.inj_on_of_nodup_map hids hq hp (hid.symm.trans hown)
      simp [hqt] at ht

/-- The table that an accepted `create_profile` with a new default leaves. -/
def inserted (db : Database) (data : SimulationProfileCreate) : Database :=
  { clearExistingDefault db data.templateId with
    simulationProfiles :=
      (clearExistingDefault db data.templateId).simulationProfiles ++ [createdRow db data]
    nextId := db.nextId + 1 }

theorem switchedTo_inserted {data : SimulationProfileCreate} (hdefault : data.isDefault) :
    SwitchedTo data.templateId db.nextId db (inserted db data) := by
  constructor
  · exact ⟨createdRow db data, List.mem_append_right _ List.mem_cons_self, rfl, rfl, hdefault⟩
  · intro q' hq' ht hd
    rcases List.mem_append.1 hq' with hq' | hq'
    · obtain ⟨q, -, -, hqt, -, hqd⟩ := mem_cleared hq'
      exact absurd (hqt.symm.trans ht) (hqd hd).2
    · rw [List.mem_singleton.1 hq']
      rfl
  · have hrow : decide ((createdRow db data).templateId ≠ data.templateId) = false := by
      simp [createdRow]
    rw [inserted, List.filter_append, List.filter_cons_of_neg (by simpa using hrow),
      List.filter_nil, List.append_nil, others_cleared]

end Switching

section Calls

theorem switches_create_iff (h : ProfilesUnique db)
    (hids : (db.simulationProfiles.map (·.id)).Nodup) {data : SimulationProfileCreate}
    (hdefault : data.isDefault) (hname : (DefaultCall.create data).NoNameClash db) :
    (DefaultCall.create data).Switches db e ↔ (DefaultCall.create data).ClearsFirst db := by
  have hunique : ProfilesUnique (inserted db data) :=
    (h.add_default (createdRow db data) hdefault hname).congr rfl
  have hrun : (DefaultCall.create data).run db e =
      db.getTemplate data.templateId >>= fun _ => .ok (inserted db data) := by
    rw [run_create h hids, createProfile]
    refine congrArg (db.getTemplate data.templateId >>= ·) (funext fun _ => ?_)
    rw [if_pos hdefault]
    exact commitOrRaiseConflict_of_unique hunique
  simp only [DefaultCall.Switches, DefaultCall.ClearsFirst, hrun, bind_ok_iff]
  constructor
  · rintro ⟨_, ⟨t, ht, _⟩, _⟩
    exact ⟨t, ht⟩
  · rintro ⟨t, ht⟩
    exact ⟨_, ⟨t, ht, rfl⟩, switchedTo_inserted hdefault⟩

theorem run_update_ok_iff {profile : UUID} {data : SimulationProfileUpdate}
    (hp : getProfileOr404 db profile = .ok p) :
    (DefaultCall.update profile data).run db e = .ok db' ↔
      ¬ (p.isBuiltin = true ∧ data.configs.isSome) ∧
        flush (data.name.getD p.name) e db (pendingUpdates db p data) = .ok db' := by
  rw [DefaultCall.run, hp]
  exact (andThen_ok_iff _ _ _).trans (and_congr_left' (raiseIf_ok_iff _ _))

theorem switches_update_iff (h : ProfilesUnique db)
    (hids : (db.simulationProfiles.map (·.id)).Nodup) {profile : UUID}
    {data : SimulationProfileUpdate} (hdefault : data.isDefault = some true)
    (hname : (DefaultCall.update profile data).NoNameClash db) :
    (DefaultCall.update profile data).Switches db e ↔
      (DefaultCall.update profile data).ClearsFirst db := by
  refine exists_congr fun p => ?_
  constructor
  · rintro ⟨db', hp, hok, -⟩
    have hfind := getProfileOr404_ok hp
    obtain rfl := Table.key_of_find hfind
    obtain ⟨hallowed, hok⟩ := (run_update_ok_iff hp).1 hok
    rw [flush_pendingUpdates h hids (Table.mem_of_find hfind) hdefault hname] at hok
    refine ⟨hp, hallowed, fun old hold ht hod => ?_⟩
    by_contra hlt
    rw [if_pos ((existingDefault_any_iff h hids).2 ⟨old, hold, ht, hod, not_le.1 hlt⟩)] at hok
    cases hok
  · rintro ⟨hp, hallowed, hfirst⟩
    have hfind := getProfileOr404_ok hp
    obtain rfl := Table.key_of_find hfind
    have hnone : ¬ (existingDefault db p.templateId).any (p.id < ·.id) = true := by
      rw [existingDefault_any_iff h hids]
      rintro ⟨old, hold, ht, hod, hlt⟩
      exact hlt.not_ge (hfirst old hold ht hod)
    refine ⟨switched db p data, hp, (run_update_ok_iff hp).2 ⟨hallowed, ?_⟩,
      switchedTo_switched hids (Table.mem_of_find hfind) hdefault⟩
    rw [flush_pendingUpdates h hids (Table.mem_of_find hfind) hdefault hname, if_neg hnone]

/-- A call switches the default just if the old one is written first. -/
theorem switches_default_iff (h : ProfilesUnique db)
    (hids : (db.simulationProfiles.map (·.id)).Nodup) {call : DefaultCall}
    (hdefault : call.isDefault) (hname : call.NoNameClash db) :
    call.Switches db e ↔ call.ClearsFirst db := by
  cases call with
  | create data => exact switches_create_iff h hids hdefault hname
  | update profile data =>
    exact switches_update_iff h hids (of_decide_eq_true hdefault) hname

/-- A template with the default profile `day`, and `night`. -/
def dayNight (day night : UUID) : Database where
  templates := [⟨1, "meter", .modbusTcp, none, false⟩]
  simulationProfiles := [⟨day, 1, "day", none, false, true, []⟩,
    ⟨night, 1, "night", none, false, false, []⟩]
  nextId := 10

def toNight (night : UUID) : DefaultCall :=
  .update night {
    isDefault := some true
    name_not_empty := by decide
    name_length := fun _ h => by cases h }

theorem unique_dayNight : ProfilesUnique (dayNight 2 3) ∧ ProfilesUnique (dayNight 3 2) :=
  ⟨⟨by decide, by decide⟩, by decide, by decide⟩

theorem noNameClash_toNight (db : Database) (night : UUID) : (toNight night).NoNameClash db :=
  nofun

theorem switches_default_iff_night : (toNight 3).Switches (dayNight 2 3) "" := by
  refine (switches_default_iff unique_dayNight.1 (by decide) rfl (noNameClash_toNight _ _)).2
    ⟨_, rfl, by decide, ?_⟩
  intro old hold _ hdefault
  simp only [dayNight, List.mem_cons, List.not_mem_nil, or_false] at hold
  obtain rfl | rfl := hold
  · decide
  · cases hdefault

/-- The profile with the smaller id is made the default: its row is written first, and the old
default is still there. -/
theorem default_refused : (toNight 2).run (dayNight 3 2) "" =
      .error (validationException "Database constraint violation: ") ∧
    ProfilesUnique (dayNight 3 2) ∧ (toNight 2).NoNameClash (dayNight 3 2) ∧
    (toNight 2).isDefault ∧ ¬ (toNight 2).Switches (dayNight 3 2) "" := by
  have hrun : (toNight 2).run (dayNight 3 2) "" =
      .error (validationException "Database constraint violation: ") := by rfl
  refine ⟨hrun, unique_dayNight.2, noNameClash_toNight _ _, rfl, ?_⟩
  rintro ⟨p, db', -, hok, -⟩
  cases hok.symm.trans hrun

end Calls

end GhostMeter.Services
