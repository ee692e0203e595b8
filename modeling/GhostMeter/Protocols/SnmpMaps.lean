import GhostMeter.Lib.Loop
import GhostMeter.Lib.Run
import GhostMeter.Lib.Window
import GhostMeter.Protocols.SnmpAgent

/-! The maps of the SNMP agent, in every order of devices added and removed. -/

namespace GhostMeter.Protocols

open GhostMeter.Lib

inductive SnmpCall
  | addDevice (device : UUID) (slave : ℤ) (registers : List RegisterInfo)
  | removeDevice (device : UUID)

namespace SnmpAdapter

/-- Whether a call raises or not, it leaves a state. -/
def step (s : ProtocolAdapter SnmpAdapter) : SnmpCall → Option (ProtocolAdapter SnmpAdapter)
  | .addDevice device slave registers => some (s.addDevice doAddDevice device slave registers).1
  | .removeDevice device => some (s.removeDeviceOrRaise doRemoveDevice device).1

/-- The cached list is that of the OIDs, in the order of their numbers. -/
structure Sorted (a : SnmpAdapter) : Prop where
  perm : a.sortedOids.Perm a.oidMap.keys
  keys : a.sortedOids.mapM oidSortKey = .ok a.sortedOidKeys
  sorted : a.sortedOidKeys.Pairwise (· ≤ ·)

/-- The five containers agree: every OID is sorted, has a type, and is listed by the device that
it is mapped to. -/
structure Consistent (a : SnmpAdapter) : Prop extends Sorted a where
  types : ∀ oid, (a.oidDataTypes oid).isSome ↔ oid ∈ a.oidMap.keys
  owned : ∀ device oids, a.deviceOids device = some oids → ∀ oid ∈ oids,
    ∃ name, a.oidMap.get oid = some (device, name)
  owner : ∀ oid device name, a.oidMap.get oid = some (device, name) →
    ∃ oids, a.deviceOids device = some oids ∧ oid ∈ oids
  removed : ∀ device, a.deviceOids device = none →
    ∀ oid name, a.oidMap.get oid ≠ some (device, name)

/-- An add that no other device's OID stops brings OIDs that can be parsed, and all those that the
device has. -/
def KeepsOids (s : ProtocolAdapter SnmpAdapter) (c : SnmpCall) : Prop :=
  ∀ device slave registers, c = .addDevice device slave registers →
    (∀ oid ∈ (oidsToAdd registers).map Prod.fst, s.state.checkConflict device oid = .ok ()) →
      (∀ oid ∈ (oidsToAdd registers).map Prod.fst, ∃ key, oidSortKey oid = .ok key) ∧
      ∀ oids, s.state.deviceOids device = some oids → oids ⊆ (oidsToAdd registers).map Prod.fst

variable {a a' : SnmpAdapter} {device : UUID} {slave : ℤ} {registers : List RegisterInfo}

section Cache

/-- The OIDs with their keys. -/
theorem keyed_ok_iff {oids : List String} {keyed : List (String × List ℤ)} :
    (oids.mapM fun oid => (oidSortKey oid).map fun key => (oid, key)) = .ok keyed ↔
      keyed.map Prod.fst = oids ∧ ∀ p ∈ keyed, oidSortKey p.1 = .ok p.2 := by
  rw [mapM_ok_iff]
  induction oids generalizing keyed with
  | nil =>
    rw [List.forall₂_nil_left_iff]
    refine ⟨fun h => by simp [h], fun h => ?_⟩
    simpa using h.1
  | cons oid oids ih =>
    rw [List.forall₂_cons_left_iff]
    constructor
    · rintro ⟨⟨oid', key⟩, keyed, hkey, hkeyed, rfl⟩
      obtain ⟨hoids, hkeys⟩ := ih.1 hkeyed
      cases hk : oidSortKey oid with
      | error e => simp [hk, Except.map] at hkey
      | ok k =>
        simp only [hk, Except.map, Except.ok.injEq, Prod.mk.injEq] at hkey
        obtain ⟨rfl, rfl⟩ := hkey
        exact ⟨by simp [hoids], List.forall_mem_cons.2 ⟨hk, hkeys⟩⟩
    · rintro ⟨hoids, hkeys⟩
      cases keyed with
      | nil => cases hoids
      | cons p keyed =>
        simp only [List.map_cons, List.cons.injEq] at hoids
        obtain ⟨rfl, rfl⟩ := hoids
        obtain ⟨hp, hrest⟩ := List.forall_mem_cons.1 hkeys
        exact ⟨p, keyed, by rw [hp]; rfl, ih.2 ⟨rfl, hrest⟩, rfl⟩

theorem mapM_fst {keyed : List (String × List ℤ)} (h : ∀ p ∈ keyed, oidSortKey p.1 = .ok p.2) :
    (keyed.map Prod.fst).mapM oidSortKey = .ok (keyed.map Prod.snd) := by
  rw [mapM_ok_iff, List.forall₂_map_left_iff, List.forall₂_map_right_iff, List.forall₂_same]
  exact h

/-- What the rebuilding of the cache does, if it does not raise. -/
theorem invalidateSortedOids_ok (h : a.invalidateSortedOids = .ok a') :
    Sorted a' ∧ a'.oidMap = a.oidMap ∧ a'.oidDataTypes = a.oidDataTypes ∧
      a'.deviceOids = a.deviceOids := by
  simp only [invalidateSortedOids, bind_ok_iff] at h
  obtain ⟨keyed, hkeyed, keys, hkeys, ha'⟩ := h
  obtain rfl := Except.ok.inj ha'
  obtain ⟨hoids, hmem⟩ := keyed_ok_iff.1 hkeyed
  set sorted := keyed.mergeSort (·.2 ≤ ·.2) with hsorted
  have hperm : sorted.Perm keyed := List.mergeSort_perm _ _
  have hpairwise : sorted.Pairwise fun x y => x.2 ≤ y.2 :=
    Window.pairwise_mergeSort_key Prod.snd keyed
  have hfst := mapM_fst fun p hp => hmem p (hperm.mem_iff.1 hp)
  obtain rfl : keys = sorted.map Prod.snd := Except.ok.inj (hkeys.symm.trans hfst)
  exact ⟨⟨hoids ▸ hperm.map _, hfst, List.pairwise_map.2 hpairwise⟩, rfl, rfl, rfl⟩

/-- It raises exactly if some OID cannot be parsed. -/
theorem invalidateSortedOids_isOk_iff :
    (∃ a', a.invalidateSortedOids = .ok a') ↔
      ∀ oid ∈ a.oidMap.keys, ∃ key, oidSortKey oid = .ok key := by
  constructor
  · rintro ⟨a', h⟩
    obtain ⟨hsorted, hmap, -⟩ := invalidateSortedOids_ok h
    intro oid hoid
    exact mapM_isOk_iff.1 ⟨_, hsorted.keys⟩ oid (hsorted.perm.mem_iff.2 (hmap ▸ hoid))
  · intro h
    obtain ⟨keyed, hkeyed⟩ : ∃ keyed, (a.oidMap.keys.mapM fun oid =>
        (oidSortKey oid).map fun key => (oid, key)) = .ok keyed := by
      refine mapM_isOk_iff.2 fun oid hoid => ?_
      obtain ⟨key, hkey⟩ := h oid hoid
      exact ⟨(oid, key), by rw [hkey]; rfl⟩
    obtain ⟨hoids, hmem⟩ := keyed_ok_iff.1 hkeyed
    have hperm : (keyed.mergeSort (·.2 ≤ ·.2)).Perm keyed := List.mergeSort_perm _ _
    have hfst := mapM_fst fun p hp => hmem p (hperm.mem_iff.1 hp)
    simp only [invalidateSortedOids, bind_ok_iff]
    exact ⟨_, keyed, hkeyed, _, hfst, rfl⟩

end Cache

section Oids

variable {oids : List (String × RegisterInfo)} {removed : List String}

theorem addOids_get (oid : String) :
    (oid ∈ oids.map Prod.fst →
      ∃ name, (oids.foldl (addOid device) a).oidMap.get oid = some (device, name)) ∧
    (oid ∉ oids.map Prod.fst →
      (oids.foldl (addOid device) a).oidMap.get oid = a.oidMap.get oid) := by
  induction oids generalizing a with
  | nil => simp
  | cons p oids ih =>
    obtain ⟨hmem, hnot⟩ := @ih (addOid device a p)
    simp only [List.foldl_cons, List.map_cons, List.mem_cons, not_or]
    have hget : (addOid device a p).oidMap.get oid =
        if oid = p.1 then some (device, (p.2.name.filter (· ≠ "")).getD p.1)
        else a.oidMap.get oid := OrderedDict.get_set ..
    refine ⟨fun h => ?_, fun h => by rw [hnot h.2, hget, if_neg h.1]⟩
    by_cases hoids : oid ∈ oids.map Prod.fst
    · exact hmem hoids
    · rw [hnot hoids, hget, if_pos (h.resolve_right hoids)]
      exact ⟨_, rfl⟩

theorem addOids_frame : (oids.foldl (addOid device) a).deviceOids = a.deviceOids ∧
    (oids.foldl (addOid device) a).sortedOids = a.sortedOids ∧
    (oids.foldl (addOid device) a).sortedOidKeys = a.sortedOidKeys := by
  induction oids generalizing a with
  | nil => exact ⟨rfl, rfl, rfl⟩
  | cons p oids ih => exact @ih (addOid device a p)

/-- Both maps of OIDs get the same keys. -/
theorem addOids_types (h : ∀ oid, (a.oidDataTypes oid).isSome ↔ oid ∈ a.oidMap.keys)
    (oid : String) : ((oids.foldl (addOid device) a).oidDataTypes oid).isSome ↔
      oid ∈ (oids.foldl (addOid device) a).oidMap.keys := by
  induction oids generalizing a with
  | nil => exact h oid
  | cons p oids ih =>
    refine @ih (addOid device a p) fun oid => ?_
    simp only [addOid, OrderedDict.mem_keys_set, Dict.set_apply, ← h]
    split <;> simp_all

theorem removeOids_get (oid : String) : (removed.foldl removeOid a).oidMap.get oid =
    if oid ∈ removed then none else a.oidMap.get oid := by
  induction removed generalizing a with
  | nil => rfl
  | cons o removed ih =>
    rw [List.foldl_cons, ih]
    simp only [removeOid, OrderedDict.get_pop, List.mem_cons]
    split_ifs <;> simp_all

theorem removeOids_frame : (removed.foldl removeOid a).deviceOids = a.deviceOids := by
  induction removed generalizing a with
  | nil => rfl
  | cons o removed ih => exact @ih (removeOid a o)

theorem removeOids_types (h : ∀ oid, (a.oidDataTypes oid).isSome ↔ oid ∈ a.oidMap.keys)
    (oid : String) : ((removed.foldl removeOid a).oidDataTypes oid).isSome ↔
      oid ∈ (removed.foldl removeOid a).oidMap.keys := by
  induction removed generalizing a with
  | nil => exact h oid
  | cons o removed ih =>
    refine @ih (removeOid a o) fun oid => ?_
    simp only [removeOid, OrderedDict.mem_keys_pop, Dict.pop_apply, ← h]
    split <;> simp_all

end Oids

theorem checkConflict_ok_iff {oid : String} : a.checkConflict device oid = .ok () ↔
    ∀ existing name, a.oidMap.get oid = some (existing, name) → existing = device := by
  unfold checkConflict
  split
  next h => simp [h]
  next existing name h => simp [h]

/-- The maps as an add changes them, before the sort. -/
def added (a : SnmpAdapter) (device : UUID) (oids : List (String × RegisterInfo)) : SnmpAdapter :=
  { oids.foldl (addOid device) a with
    deviceOids := a.deviceOids.set device (oids.map Prod.fst) }

/-- What an add does. -/
theorem doAddDevice_cases (a : SnmpAdapter) (device : UUID) (slave : ℤ)
    (registers : List RegisterInfo) :
    (∃ e, a.doAddDevice device slave registers = (a, .error (.app e)) ∧
      ¬ ∀ oid ∈ (oidsToAdd registers).map Prod.fst, a.checkConflict device oid = .ok ()) ∨
    ((∀ oid ∈ (oidsToAdd registers).map Prod.fst, a.checkConflict device oid = .ok ()) ∧
      ((∃ e, (a.added device (oidsToAdd registers)).invalidateSortedOids = .error e ∧
          a.doAddDevice device slave registers =
            (a.added device (oidsToAdd registers), .error (.py e))) ∨
        ∃ a', (a.added device (oidsToAdd registers)).invalidateSortedOids = .ok a' ∧
          a.doAddDevice device slave registers = (a', .ok ()))) := by
  have hadded : { (oidsToAdd registers).foldl (addOid device) a with
      deviceOids := ((oidsToAdd registers).foldl (addOid device) a).deviceOids.set device
        ((oidsToAdd registers).map Prod.fst) } = a.added device (oidsToAdd registers) := by
    rw [added, addOids_frame.1]
  simp only [doAddDevice, hadded]
  cases hcheck : checkAll (a.checkConflict device) ((oidsToAdd registers).map Prod.fst) with
  | error e =>
    refine Or.inl ⟨e, rfl, fun h => ?_⟩
    rw [(checkAll_ok_iff _ _).2 h] at hcheck
    cases hcheck
  | ok u =>
    refine Or.inr ⟨(checkAll_ok_iff _ _).1 hcheck, ?_⟩
    cases hsort : (a.added device (oidsToAdd registers)).invalidateSortedOids with
    | error e => exact Or.inl ⟨e, rfl, rfl⟩
    | ok a' => exact Or.inr ⟨a', rfl, rfl⟩

theorem Sorted.parses (h : Sorted a) {oid : String} (hoid : oid ∈ a.oidMap.keys) :
    ∃ key, oidSortKey oid = .ok key :=
  mapM_isOk_iff.1 ⟨_, h.keys⟩ oid (h.perm.mem_iff.2 hoid)

theorem mem_keys_added {oids : List (String × RegisterInfo)} {oid : String} :
    oid ∈ (a.added device oids).oidMap.keys ↔ oid ∈ oids.map Prod.fst ∨ oid ∈ a.oidMap.keys := by
  rw [added, OrderedDict.mem_keys, OrderedDict.mem_keys]
  obtain ⟨hmem, hnot⟩ := @addOids_get a device oids oid
  by_cases h : oid ∈ oids.map Prod.fst
  · obtain ⟨name, hname⟩ := hmem h
    simp [h, hname]
  · simp [h, hnot h]

/-- An add that reaches the maps keeps them consistent exactly if its OIDs can be parsed and are
all those that the device has. -/
theorem consistent_added_iff (h : Consistent a) {oids : List (String × RegisterInfo)}
    (hfree : ∀ oid ∈ oids.map Prod.fst, a.checkConflict device oid = .ok ())
    (hsort : (a.added device oids).invalidateSortedOids = .ok a') :
    Consistent a' ↔
      ∀ held, a.deviceOids device = some held → held ⊆ oids.map Prod.fst := by
  obtain ⟨hsorted, hmap, htypes, hdevices⟩ := invalidateSortedOids_ok hsort
  constructor
  · intro h' held hheld oid hoid
    by_contra hnot
    obtain ⟨name, hname⟩ := h.owned device held hheld oid hoid
    have hget : a'.oidMap.get oid = some (device, name) := by
      rw [hmap, ← hname]
      exact (@addOids_get a device oids oid).2 hnot
    obtain ⟨held', hheld', hoid'⟩ := h'.owner oid device name hget
    simp only [hdevices, added, Dict.set_self, Option.some.injEq] at hheld'
    exact hnot (hheld' ▸ hoid')
  · intro hkeep
    have hget := @addOids_get a device oids
    have howner : ∀ oid d name, a'.oidMap.get oid = some (d, name) →
        ∃ held, a'.deviceOids d = some held ∧ oid ∈ held := by
      intro oid d name hname
      rw [hmap, added] at hname
      simp only [hdevices, added, Dict.set_apply]
      by_cases hoid : oid ∈ oids.map Prod.fst
      · obtain ⟨name', hname'⟩ := (hget oid).1 hoid
        obtain ⟨rfl, -⟩ := Prod.mk.inj (Option.some.inj (hname'.symm.trans hname))
        exact ⟨_, if_pos rfl, hoid⟩
      · rw [(hget oid).2 hoid] at hname
        obtain ⟨held, hheld, hmem⟩ := h.owner oid d name hname
        split
        next heq => exact absurd (hkeep held (heq ▸ hheld) hmem) hoid
        next => exact ⟨held, hheld, hmem⟩
    refine ⟨hsorted, fun oid => ?_, fun d held hheld oid hoid => ?_, howner, ?_⟩
    · rw [htypes, hmap]
      exact addOids_types h.types oid
    · simp only [hdevices, added, Dict.set_apply] at hheld
      rw [hmap, added]
      split at hheld
      next heq =>
        obtain rfl := Option.some.inj hheld
        exact heq ▸ (hget oid).1 hoid
      next hne =>
        obtain ⟨name, hname⟩ := h.owned d held hheld oid hoid
        rw [(hget oid).2 fun hmem => hne (checkConflict_ok_iff.1 (hfree oid hmem) d name hname)]
        exact ⟨name, hname⟩
    · intro d hd oid name hname
      obtain ⟨held, hheld, -⟩ := howner oid d name hname
      simp [hd] at hheld

theorem consistent_doAddDevice_iff {s : ProtocolAdapter SnmpAdapter} (h : Consistent s.state) :
    Consistent (s.state.doAddDevice device slave registers).1 ↔
      KeepsOids s (.addDevice device slave registers) := by
  have hguard : KeepsOids s (.addDevice device slave registers) ↔
      ((∀ oid ∈ (oidsToAdd registers).map Prod.fst, s.state.checkConflict device oid = .ok ()) →
        (∀ oid ∈ (oidsToAdd registers).map Prod.fst, ∃ key, oidSortKey oid = .ok key) ∧
        ∀ oids, s.state.deviceOids device = some oids →
          oids ⊆ (oidsToAdd registers).map Prod.fst) := by
    refine ⟨fun h => h _ _ _ rfl, ?_⟩
    rintro h _ _ _ ⟨⟩
    exact h
  rw [hguard]
  rcases doAddDevice_cases s.state device slave registers with
    ⟨e, hadd, hconflict⟩ | ⟨hfree, ⟨e, hsort, hadd⟩ | ⟨a', hsort, hadd⟩⟩
  · rw [hadd]
    exact iff_of_true h fun hfree => absurd hfree hconflict
  · -- the sort has raised: an OID that is now in the map cannot be parsed
    rw [hadd]
    have hno : ¬ ∀ oid ∈ (s.state.added device (oidsToAdd registers)).oidMap.keys,
        ∃ key, oidSortKey oid = .ok key := by
      intro hparse
      obtain ⟨a', ha'⟩ := invalidateSortedOids_isOk_iff.2 hparse
      simp [hsort] at ha'
    refine iff_of_false (fun hcons => hno fun oid hoid => hcons.parses hoid) fun hkeep => hno ?_
    intro oid hoid
    rcases mem_keys_added.1 hoid with hoid | hoid
    · exact (hkeep hfree).1 oid hoid
    · exact h.parses hoid
  · rw [hadd]
    have hparse := invalidateSortedOids_isOk_iff.1 ⟨a', hsort⟩
    rw [consistent_added_iff h hfree hsort]
    refine ⟨fun hkeep _ => ⟨fun oid hoid => hparse oid (mem_keys_added.2 (Or.inl hoid)), hkeep⟩,
      fun hkeep => (hkeep hfree).2⟩

theorem Consistent.doRemoveDevice (h : Consistent a) (device : UUID) :
    Consistent (a.doRemoveDevice device).1 := by
  set oids := (a.deviceOids device).getD [] with hoids
  set removed := oids.foldl removeOid { a with deviceOids := a.deviceOids.pop device } with hremoved
  have hget : ∀ oid, removed.oidMap.get oid = if oid ∈ oids then none else a.oidMap.get oid :=
    fun oid => removeOids_get oid
  have hheld : ∀ oid ∈ oids, ∃ name, a.oidMap.get oid = some (device, name) := by
    intro oid hoid
    cases hd : a.deviceOids device with
    | none => simp [hoids, hd] at hoid
    | some held => exact h.owned device held hd oid (by simpa [hoids, hd] using hoid)
  have hparse : ∀ oid ∈ removed.oidMap.keys, ∃ key, oidSortKey oid = .ok key := by
    intro oid hoid
    rw [OrderedDict.mem_keys, hget] at hoid
    refine h.parses ((a.oidMap.mem_keys oid).2 ?_)
    split at hoid
    · cases hoid
    · exact hoid
  obtain ⟨a', hsort⟩ := invalidateSortedOids_isOk_iff.2 hparse
  obtain ⟨hsorted, hmap, htypes, hdevices⟩ := invalidateSortedOids_ok hsort
  have heq : (a.doRemoveDevice device).1 = a' := by
    simp only [SnmpAdapter.doRemoveDevice, ← hoids, ← hremoved, hsort]
  rw [heq]
  have hdevices' : a'.deviceOids = a.deviceOids.pop device :=
    hdevices.trans removeOids_frame
  have howner : ∀ oid d name, a'.oidMap.get oid = some (d, name) →
      ∃ held, a'.deviceOids d = some held ∧ oid ∈ held := by
    intro oid d name hname
    rw [hmap, hget] at hname
    split at hname
    next => cases hname
    next hnot =>
      obtain ⟨held, hheld', hmem⟩ := h.owner oid d name hname
      have hne : d ≠ device := by
        rintro rfl
        exact hnot (by simpa [hoids, hheld'] using hmem)
      exact ⟨held, by rw [hdevices', Dict.pop_of_ne _ hne, hheld'], hmem⟩
  refine ⟨hsorted, fun oid => ?_, fun d held hd oid hoid => ?_, howner, ?_⟩
  · rw [htypes, hmap]
    exact @removeOids_types { a with deviceOids := a.deviceOids.pop device } oids h.types oid
  · rw [hdevices', Dict.pop_apply] at hd
    split at hd
    next => cases hd
    next hne =>
      obtain ⟨name, hname⟩ := h.owned d held hd oid hoid
      refine ⟨name, ?_⟩
      rw [hmap, hget, if_neg, hname]
      intro hmem
      obtain ⟨name', hname'⟩ := hheld oid hmem
      exact hne (Prod.mk.inj (Option.some.inj (hname.symm.trans hname'))).1
  · intro d hd oid name hname
    obtain ⟨held, hheld', -⟩ := howner oid d name hname
    simp [hd] at hheld'

theorem consistent_empty : Consistent {} where
  perm := List.Perm.refl _
  keys := rfl
  sorted := List.Pairwise.nil
  types := by simp
  owned := by simp
  owner := by simp
  removed := by simp

/-- The maps stay consistent exactly when every add that no other device's OID stops brings OIDs
that can be parsed, and all those that its device has. -/
theorem always_consistent_iff (calls : List SnmpCall) :
    Always step (fun s => Consistent s.state) { state := {} } calls ↔
      EachStep step (fun s c _ => KeepsOids s c) { state := {} } calls := by
  refine always_iff_eachStep (J := fun _ => True) (fun _ _ _ _ _ => trivial) ?_ trivial
    consistent_empty
  intro s c s' _ h hstep
  cases c with
  | addDevice device slave registers =>
    obtain rfl := Option.some.inj hstep
    rw [ProtocolAdapter.state_addDevice]
    exact consistent_doAddDevice_iff h
  | removeDevice device =>
    obtain rfl := Option.some.inj hstep
    rw [ProtocolAdapter.state_removeDeviceOrRaise]
    exact iff_of_true (h.doRemoveDevice device) (by rintro _ _ _ ⟨⟩)

theorem deviceOids_doAddDevice
    (hfree : ∀ oid ∈ (oidsToAdd registers).map Prod.fst, a.checkConflict device oid = .ok ()) :
    (a.doAddDevice device slave registers).1.deviceOids =
      a.deviceOids.set device ((oidsToAdd registers).map Prod.fst) := by
  rcases doAddDevice_cases a device slave registers with
    ⟨e, -, hconflict⟩ | ⟨-, ⟨e, -, hadd⟩ | ⟨a', hsort, hadd⟩⟩
  · exact absurd hfree hconflict
  · rw [hadd]
    rfl
  · rw [hadd]
    exact (invalidateSortedOids_ok hsort).2.2.2

def battery : RegisterInfo where
  address := 0
  functionCode := 4
  dataType := .int16
  byteOrder := .bigEndian
  oid := some "1.3.6.1"

/-- A device that is added again without the OID that it has. -/
def readded : List SnmpCall := [.addDevice 1 1 [battery], .addDevice 1 1 []]

theorem oid_leaked :
    ¬ ∀ calls, Always step (fun s => Consistent s.state) { state := {} } calls := by
  intro h
  have hrun := (h readded).2 _ rfl
  have hagain := (hrun.2 _ rfl).1
  have hkeeps : KeepsOids _ (.addDevice 1 1 []) := (consistent_doAddDevice_iff hrun.1).1
    (by simpa only [ProtocolAdapter.state_addDevice] using hagain)
  obtain ⟨-, hkeep⟩ := hkeeps _ _ _ rfl (by rintro _ ⟨⟩)
  have hheld : (oidsToAdd [battery]).map Prod.fst = ["1.3.6.1"] := by decide
  have hmem := hkeep ["1.3.6.1"] (by
    rw [ProtocolAdapter.state_addDevice, deviceOids_doAddDevice (by simp [checkConflict]), hheld,
      Dict.set_self])
  exact absurd (hmem (List.mem_singleton.2 rfl)) (by decide)

end SnmpAdapter

end GhostMeter.Protocols
