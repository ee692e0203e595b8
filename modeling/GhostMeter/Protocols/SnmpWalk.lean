import GhostMeter.Protocols.SnmpMaps
import GhostMeter.Protocols.ServedValues

/-! Walks over the SNMP agent: what a client sees that asks for the next OID again and again. -/

namespace GhostMeter.Protocols

open GhostMeter.Lib GhostMeter.Simulation

section OidString

variable {name name' : List ℕ} {key : List ℤ}

theorem toDigits_injective : Function.Injective (Nat.toDigits 10) := by
  intro n n' h
  rw [← @Nat.ofDigitChars_ten_toDigits n, h, Nat.ofDigitChars_ten_toDigits]

theorem point_notMem_toDigits (n : ℕ) : '.' ∉ Nat.toDigits 10 n := fun h =>
  absurd (Nat.isDigit_of_mem_toDigits (by decide) (by decide) h) (by decide)

theorem splitOn_oidString (hne : name ≠ []) :
    (oidString name).toList.splitOn '.' = name.map (Nat.toDigits 10) := by
  rw [oidString, String.toList_ofList]
  refine List.splitOn_intercalate '.' (fun l hl => ?_) (by simpa using hne)
  obtain ⟨n, -, rfl⟩ := List.mem_map.1 hl
  exact point_notMem_toDigits n

theorem oidString_injOn (hne : name ≠ []) (hne' : name' ≠ [])
    (h : oidString name = oidString name') : name = name' := by
  have hsplit := splitOn_oidString hne
  rw [h, splitOn_oidString hne'] at hsplit
  exact (List.map_injective_iff.2 toDigits_injective hsplit).symm

theorem oidString_ne_empty (hne : name ≠ []) : oidString name ≠ "" := by
  intro h
  have hsplit := splitOn_oidString hne
  rw [h] at hsplit
  cases name with
  | nil => exact hne rfl
  | cons n name =>
    have hnil : [] = Nat.toDigits 10 n := (List.cons.inj hsplit).1
    exact Nat.toDigits_ne_nil hnil.symm

/-- The key of a canonical text is the sequence itself. -/
theorem oidSortKey_oidString (hne : name ≠ []) (h : oidSortKey (oidString name) = .ok key) :
    key = name.map (↑) ∧ ∀ n ∈ name, (Nat.toDigits 10 n).length ≤ PyInt.maxStrDigits := by
  rw [oidSortKey, splitOn_oidString hne, mapM_ok_iff, List.forall₂_map_left_iff] at h
  clear hne
  induction h with
  | nil => exact ⟨rfl, by simp⟩
  | @cons n k name key hn _ ih =>
    rw [PyInt.ofString_toDigits] at hn
    split at hn
    next => cases hn
    next hlength =>
      obtain rfl := Except.ok.inj hn
      exact ⟨by rw [ih.1, List.map_cons], List.forall_mem_cons.2 ⟨by omega, ih.2⟩⟩

theorem oidSortKey_eq (hne : name ≠ [])
    (h : ∀ n ∈ name, (Nat.toDigits 10 n).length ≤ PyInt.maxStrDigits) :
    oidSortKey (oidString name) = .ok (name.map (↑)) := by
  rw [oidSortKey, splitOn_oidString hne, mapM_ok_iff, List.forall₂_map_left_iff,
    List.forall₂_map_right_iff, List.forall₂_same]
  intro n hn
  rw [PyInt.ofString_toDigits, if_neg (by have := h n hn; omega)]

end OidString

namespace SnmpAdapter

/-- A call that raises ends the run. -/
def stepOk (s : ProtocolAdapter SnmpAdapter) : SnmpCall → Option (ProtocolAdapter SnmpAdapter)
  | .addDevice device slave registers =>
    match s.addDevice doAddDevice device slave registers with
    | (s, .ok ()) => some s
    | (_, .error _) => none
  | .removeDevice device =>
    match s.removeDeviceOrRaise doRemoveDevice device with
    | (s, .ok ()) => some s
    | (_, .error _) => none

/-- The text is that of a sequence of numbers. -/
def CanonicalOid (oid : String) : Prop := ∃ name, name ≠ [] ∧ oid = oidString name

def CanonicalCall : SnmpCall → Prop
  | .addDevice _ _ registers => ∀ oid ∈ (oidsToAdd registers).map Prod.fst, CanonicalOid oid
  | .removeDevice _ => True

/-- A walk from the empty OID ends, visits exactly the OIDs with a current value, each once and in
numeric order, and finds what a read of it finds. -/
def WalksAll (lib : Pysnmp) (faults : FaultSimulator) (values : UUID → Dict String PyFloat)
    (a : SnmpAdapter) : Prop :=
  ∃ visited : List (List ℕ × SnmpValue),
    (∀ fuel rounds, a.sortedOids.length < fuel → a.sortedOids.length < rounds →
      a.walk lib faults values fuel rounds [] = some (.ok visited)) ∧
    (visited.map Prod.fst).Pairwise (· < ·) ∧
    (∀ name, name ∈ visited.map Prod.fst ↔
      oidString name ∈ a.oidMap.keys ∧ (a.resolveOid values (oidString name)).isSome) ∧
    ∀ name v, (name, v) ∈ visited →
      a.readVariable lib faults values name = .ok (name, .value v)

/-- The values that have an SNMP value: an integer type needs a finite one that its SNMP type can
hold. -/
def Convertible (value : PyFloat) : DataType → Prop
  | .int16 | .int32 => value.isFinite ∧ -2147483648 ≤ value.trunc ∧ value.trunc ≤ 2147483647
  | .uint16 | .uint32 => value.isFinite ∧ 0 ≤ value.trunc ∧ value.trunc ≤ 4294967295
  | _ => True

instance (value : PyFloat) : (dataType : DataType) → Decidable (Convertible value dataType)
  | .int16 | .int32 => inferInstanceAs (Decidable
      (value.isFinite ∧ -2147483648 ≤ value.trunc ∧ value.trunc ≤ 2147483647))
  | .uint16 | .uint32 => inferInstanceAs (Decidable
      (value.isFinite ∧ 0 ≤ value.trunc ∧ value.trunc ≤ 4294967295))
  | .float32 | .float64 | .other _ => inferInstanceAs (Decidable True)

theorem toInt_ok_iff {value : PyFloat} {n : ℤ} :
    value.toInt = .ok n ↔ value.isFinite ∧ value.trunc = n := by
  cases value with
  | fin neg m => simp [PyFloat.toInt, PyFloat.isFinite]
  | _ => simp [PyFloat.toInt, PyFloat.isFinite]

/-- A conversion of the truncated value that accepts the integers between two bounds. -/
theorem exists_bounded_iff (build : ℤ → SnmpValue) (value : PyFloat) {lo hi : ℤ}
    {convert : ℤ → Except PyError ℤ}
    (hconvert : ∀ n k, convert n = .ok k ↔ (lo ≤ n ∧ n ≤ hi) ∧ k = n) :
    (∃ v, (do return build (← convert (← value.toInt))) = (.ok v : Except PyError SnmpValue)) ↔
      value.isFinite ∧ lo ≤ value.trunc ∧ value.trunc ≤ hi := by
  simp only [bind_ok_iff, toInt_ok_iff, hconvert]
  constructor
  · rintro ⟨v, n, ⟨hfin, rfl⟩, k, ⟨hrange, -⟩, -⟩
    exact ⟨hfin, hrange⟩
  · rintro ⟨hfin, hrange⟩
    exact ⟨_, _, ⟨hfin, rfl⟩, _, ⟨hrange, rfl⟩, rfl⟩

theorem toSnmpValue_isOk_iff (lib : Rfc1902) (value : PyFloat) (dataType : DataType) :
    (∃ v, toSnmpValue lib value dataType = .ok v) ↔ Convertible value dataType := by
  have hinteger := exists_bounded_iff SnmpValue.integer32 value lib.integer32_ok
  have hgauge := exists_bounded_iff SnmpValue.gauge32 value lib.gauge32_ok
  cases dataType with
  | int16 => exact hinteger
  | int32 => exact hinteger
  | uint16 => exact hgauge
  | uint32 => exact hgauge
  | _ => exact iff_of_true ⟨_, rfl⟩ trivial

/-- The sorted OIDs are the texts of the names, which are strictly sorted. -/
structure Named (a : SnmpAdapter) (names : List (List ℕ)) : Prop where
  oids : a.sortedOids = names.map oidString
  keys : a.sortedOidKeys = names.map (List.map (↑))
  mem_keys : ∀ oid, oid ∈ a.oidMap.keys ↔ oid ∈ names.map oidString
  sorted : names.Pairwise (· < ·)
  nonempty : ∀ name ∈ names, name ≠ []
  digits : ∀ name ∈ names, ∀ n ∈ name, (Nat.toDigits 10 n).length ≤ PyInt.maxStrDigits

variable {a : SnmpAdapter} {names : List (List ℕ)}

theorem map_cast_lt_iff {name name' : List ℕ} :
    (name.map (↑) : List ℤ) < name'.map (↑) ↔ name < name' := by
  have hmono : ∀ l l' : List ℕ, l < l' → (l.map (↑) : List ℤ) < l'.map (↑) :=
    fun l l' h => List.map_lt (fun _ _ hlt => Int.ofNat_lt.2 hlt) h
  refine ⟨fun h => ?_, hmono name name'⟩
  by_contra hno
  rcases (not_lt.1 hno).lt_or_eq with hlt | rfl
  · exact lt_asymm h (hmono _ _ hlt)
  · exact lt_irrefl _ h

theorem exists_map_oidString {oids : List String} (h : ∀ oid ∈ oids, CanonicalOid oid) :
    ∃ names : List (List ℕ), oids = names.map oidString ∧ ∀ name ∈ names, name ≠ [] := by
  induction oids with
  | nil => exact ⟨[], rfl, by simp⟩
  | cons oid oids ih =>
    obtain ⟨⟨name, hne, rfl⟩, hoids⟩ := List.forall_mem_cons.1 h
    obtain ⟨names, rfl, hnames⟩ := ih hoids
    exact ⟨name :: names, rfl, List.forall_mem_cons.2 ⟨hne, hnames⟩⟩

theorem exists_named (h : Sorted a) (hcanonical : ∀ oid ∈ a.oidMap.keys, CanonicalOid oid) :
    ∃ names, Named a names := by
  obtain ⟨names, hoids, hne⟩ := exists_map_oidString fun oid hoid =>
    hcanonical oid (h.perm.mem_iff.1 hoid)
  have hkeys := mapM_ok_iff.1 (hoids ▸ h.keys)
  rw [List.forall₂_map_left_iff] at hkeys
  have hkey : a.sortedOidKeys = names.map (List.map (↑)) ∧
      ∀ name ∈ names, ∀ n ∈ name, (Nat.toDigits 10 n).length ≤ PyInt.maxStrDigits := by
    clear hoids
    revert hne hkeys
    generalize a.sortedOidKeys = keys
    intro hne hkeys
    induction hkeys with
    | nil => exact ⟨rfl, by simp⟩
    | @cons name key names keys hname _ ih =>
      obtain ⟨hname', hnames⟩ := List.forall_mem_cons.1 hne
      obtain ⟨rfl, hdigits⟩ := oidSortKey_oidString hname' hname
      obtain ⟨rfl, hrest⟩ := ih hnames
      exact ⟨rfl, List.forall_mem_cons.2 ⟨hdigits, hrest⟩⟩
  have hnodup : names.Nodup :=
    List.Nodup.of_map oidString (hoids ▸ h.perm.nodup_iff.2 a.oidMap.nodup)
  have hsorted : names.Pairwise fun x y => (x.map (↑) : List ℤ) ≤ y.map (↑) :=
    List.pairwise_map.1 (hkey.1 ▸ h.sorted)
  refine ⟨names, hoids, hkey.1, fun oid => by rw [← hoids, h.perm.mem_iff], ?_, hne, hkey.2⟩
  refine (hsorted.and hnodup).imp fun {x y} hxy => ?_
  by_contra hno
  rcases (not_lt.1 hno).lt_or_eq with hlt | heq
  · exact absurd (map_cast_lt_iff.2 hlt) (not_lt.2 hxy.1)
  · exact hxy.2 heq.symm

/-- Where the search for a key ends in a list that the key splits. -/
theorem bisectRight_append {before after : List (List ℤ)} {key : List ℤ}
    (hsorted : (before ++ after).Pairwise (· ≤ ·)) (hbefore : ∀ k ∈ before, k ≤ key)
    (hafter : ∀ k ∈ after, key < k) : bisectRight (before ++ after) key = before.length := by
  obtain ⟨hle, hleft, hright⟩ := bisectRight_spec hsorted key
  rcases lt_trichotomy (bisectRight (before ++ after) key) before.length with hlt | heq | hgt
  · have hget : (before ++ after)[bisectRight (before ++ after) key]? =
        some before[bisectRight (before ++ after) key] := by
      rw [List.getElem?_append_left hlt, List.getElem?_eq_getElem hlt]
    exact absurd (hbefore _ (List.getElem_mem hlt)) (not_le.2 (hright _ _ le_rfl hget))
  · exact heq
  · rw [List.length_append] at hle
    have hlength : 0 < after.length := by omega
    have hget : (before ++ after)[before.length]? = some after[0] := by
      rw [List.getElem?_append_right le_rfl, Nat.sub_self, List.getElem?_eq_getElem hlength]
    exact absurd (hafter _ (List.getElem_mem hlength)) (not_lt.2 (hleft _ _ hgt hget))

section Walk

variable {lib : Pysnmp} {faults : FaultSimulator} {values : UUID → Dict String PyFloat}
  {before after : List (List ℕ)} {name : List ℕ}

/-- The search from a name that splits the names. -/
theorem Named.getNextOid (h : Named a (before ++ after)) (name : List ℕ)
    (hname : name = [] ∨ name ∈ before) (hbefore : ∀ n ∈ before, n ≤ name)
    (hafter : ∀ n ∈ after, name < n) :
    a.getNextOid (oidString name) = .ok (after.head?.map oidString) := by
  have hkey : (if oidString name = "" then .ok [] else oidSortKey (oidString name)) =
      (.ok (name.map (↑)) : Except PyError (List ℤ)) := by
    rcases hname with rfl | hmem
    · rfl
    · have hmem' : name ∈ before ++ after := List.mem_append_left _ hmem
      rw [if_neg (oidString_ne_empty (h.nonempty name hmem')),
        oidSortKey_eq (h.nonempty name hmem') (h.digits name hmem')]
  have hkeys : a.sortedOidKeys = before.map (List.map (↑)) ++ after.map (List.map (↑)) := by
    rw [h.keys, List.map_append]
  have hsorted : a.sortedOidKeys.Pairwise (· ≤ ·) := by
    rw [h.keys]
    exact List.pairwise_map.2 (h.sorted.imp fun hlt => (map_cast_lt_iff.2 hlt).le)
  have hindex : bisectRight a.sortedOidKeys (name.map (↑)) = before.length := by
    rw [hkeys, bisectRight_append (hkeys ▸ hsorted), List.length_map]
    · intro k hk
      obtain ⟨n, hn, rfl⟩ := List.mem_map.1 hk
      exact not_lt.1 fun hlt => not_lt.2 (hbefore n hn) (map_cast_lt_iff.1 hlt)
    · intro k hk
      obtain ⟨n, hn, rfl⟩ := List.mem_map.1 hk
      exact map_cast_lt_iff.2 (hafter n hn)
  have hnext : a.sortedOids[before.length]? = after.head?.map oidString := by
    rw [h.oids, List.getElem?_map, List.getElem?_append_right le_rfl, Nat.sub_self,
      List.head?_eq_getElem?]
  unfold SnmpAdapter.getNextOid
  split
  next hnil =>
    have hlength : (before ++ after).length = 0 := by
      rw [← List.length_map, ← h.keys, hnil, List.length_nil]
    obtain rfl : after = [] := List.eq_nil_of_length_eq_zero (by simp at hlength; simp [hlength])
    rfl
  next =>
    rw [hkey, Except.map, hindex, hnext]

/-- A name splits the names at its place. -/
theorem Named.splits (h : Named a (before ++ name :: after)) :
    (∀ n ∈ before ++ [name], n ≤ name) ∧ ∀ n ∈ after, name < n := by
  obtain ⟨-, hright, hcross⟩ := List.pairwise_append.1 h.sorted
  refine ⟨fun n hn => ?_, (List.pairwise_cons.1 hright).1⟩
  rcases List.mem_append.1 hn with hn | hn
  · exact (hcross n hn name (by simp)).le
  · exact (List.mem_singleton.1 hn).le

/-- What a walk sees of a name. -/
def visit (lib : Pysnmp) (values : UUID → Dict String PyFloat) (a : SnmpAdapter)
    (name : List ℕ) : Option (List ℕ × SnmpValue) :=
  (a.resolveOid values (oidString name)).bind fun (value, dataType) =>
    (toSnmpValue lib.toRfc1902 value dataType).toOption.map fun v => (name, v)

/-- No fault raises, and every current value can be converted. -/
structure Readable (lib : Pysnmp) (faults : FaultSimulator) (values : UUID → Dict String PyFloat)
    (a : SnmpAdapter) : Prop where
  no_fault : ∀ oid, a.exceptionFault faults oid = false
  convertible : ∀ oid value dataType, a.resolveOid values oid = some (value, dataType) →
    ∃ v, toSnmpValue lib.toRfc1902 value dataType = .ok v

/-- The inner loop comes to the first name that has a value. -/
theorem Named.nextValue (h : Named a (before ++ after)) (hr : Readable lib faults values a)
    {fuel : ℕ} (hfuel : after.length ≤ fuel) :
    a.nextValue lib faults values fuel (after.head?.map oidString) =
      some (.ok (after.filterMap (visit lib values a)).head?) := by
  induction after generalizing before fuel with
  | nil => cases fuel <;> rfl
  | cons name after ih =>
    obtain ⟨fuel, rfl⟩ : ∃ n, fuel = n + 1 := ⟨fuel - 1, by rw [List.length_cons] at hfuel; omega⟩
    have hmem : name ∈ before ++ name :: after := by simp
    simp only [List.head?_cons, Option.map_some, SnmpAdapter.nextValue, hr.no_fault,
      Bool.false_eq_true, if_false]
    cases hvalue : a.resolveOid values (oidString name) with
    | some p =>
      obtain ⟨value, dataType⟩ := p
      obtain ⟨v, hv⟩ := hr.convertible _ _ _ hvalue
      have hvisit : visit lib values a name = some (name, v) := by
        simp [visit, hvalue, hv, Except.toOption]
      have hobject : toSnmpObject lib value dataType = .ok v := by
        rw [toSnmpObject, hv]
        rfl
      rw [List.filterMap_cons_some hvisit, List.head?_cons]
      simp only [hobject, lib.objectName_oidString name (h.nonempty _ hmem) (h.digits _ hmem)]
      rfl
    | none =>
      have hvisit : visit lib values a name = none := by simp [visit, hvalue]
      have h' : Named a (before ++ [name] ++ after) := by simpa using h
      have hnext := h'.getNextOid name (Or.inr (by simp)) h.splits.1 h.splits.2
      rw [List.filterMap_cons_none hvisit]
      simp only [hnext]
      exact ih h' (by rw [List.length_cons] at hfuel; omega)

theorem visit_eq_some_iff {p : List ℕ × SnmpValue} : visit lib values a name = some p ↔
    p.1 = name ∧ ∃ value dataType,
      a.resolveOid values (oidString name) = some (value, dataType) ∧
      toSnmpValue lib.toRfc1902 value dataType = .ok p.2 := by
  simp only [visit, Option.bind_eq_some_iff, Option.map_eq_some_iff]
  constructor
  · rintro ⟨⟨value, dataType⟩, hvalue, v, hv, rfl⟩
    refine ⟨rfl, value, dataType, hvalue, ?_⟩
    cases hobject : toSnmpValue lib.toRfc1902 value dataType with
    | error e => simp [hobject, Except.toOption] at hv
    | ok w => simpa [hobject, Except.toOption] using hv
  · rintro ⟨rfl, value, dataType, hvalue, hv⟩
    exact ⟨(value, dataType), hvalue, p.2, by rw [hv]; rfl, rfl⟩

theorem fst_visit {p : List ℕ × SnmpValue} (h : visit lib values a name = some p) :
    p.1 = name := (visit_eq_some_iff.1 h).1

theorem Named.walk (h : Named a (before ++ after)) (hr : Readable lib faults values a)
    (hname : name = [] ∨ name ∈ before) (hbefore : ∀ n ∈ before, n ≤ name)
    (hafter : ∀ n ∈ after, name < n) {fuel rounds : ℕ} (hfuel : after.length ≤ fuel)
    (hrounds : after.length < rounds) :
    a.walk lib faults values fuel rounds name =
      some (.ok (after.filterMap (visit lib values a))) := by
  induction rounds generalizing before after name with
  | zero => exact absurd hrounds (Nat.not_lt_zero _)
  | succ rounds ih =>
    have hnext := h.getNextOid name hname hbefore hafter
    have hvalue := h.nextValue hr hfuel
    rw [SnmpAdapter.walk, readNextVariable]
    simp only [hnext, hvalue, Option.map_some]
    cases hvisits : after.filterMap (visit lib values a) with
    | nil => rfl
    | cons p rest =>
      obtain ⟨skipped, found, after, rfl, -, hp, rfl⟩ := List.filterMap_eq_cons_iff.1 hvisits
      obtain ⟨next, v⟩ := p
      have hfound : next = found := fst_visit hp
      subst hfound
      have h' : Named a (before ++ skipped ++ next :: after) := by simpa using h
      have hlength : (skipped ++ next :: after).length = skipped.length + after.length + 1 := by
        simp only [List.length_append, List.length_cons]
        omega
      have hwalk := @ih (before ++ skipped ++ [next]) after next (by simpa using h')
        (Or.inr (by simp)) h'.splits.1 h'.splits.2 (by omega) (by omega)
      change (SnmpAdapter.walk lib faults values a fuel rounds next).map _ = _
      rw [hwalk]
      rfl

end Walk

/-- The invariant of the runs in which no call raises. -/
structure Cached (a : SnmpAdapter) : Prop where
  sorted : Sorted a
  canonical : ∀ oid ∈ a.oidMap.keys, CanonicalOid oid

theorem Cached.addDevice {a' : SnmpAdapter} (h : Cached a) {device : UUID} {slave : ℤ}
    {registers : List RegisterInfo}
    (hcanonical : ∀ oid ∈ (oidsToAdd registers).map Prod.fst, CanonicalOid oid)
    (hadd : a.doAddDevice device slave registers = (a', .ok ())) : Cached a' := by
  rcases doAddDevice_cases a device slave registers with
    ⟨e, herror, -⟩ | ⟨-, ⟨e, -, herror⟩ | ⟨a₁, hsort, hok⟩⟩
  · simp [hadd] at herror
  · simp [hadd] at herror
  · obtain rfl : a' = a₁ := (Prod.mk.inj (hadd.symm.trans hok)).1
    obtain ⟨hsorted, hmap, -⟩ := invalidateSortedOids_ok hsort
    refine ⟨hsorted, fun oid hoid => ?_⟩
    rw [hmap, mem_keys_added] at hoid
    exact hoid.elim (hcanonical oid) (h.canonical oid)

theorem Cached.removeDevice {a' : SnmpAdapter} (h : Cached a) {device : UUID}
    (hremove : a.doRemoveDevice device = (a', .ok ())) : Cached a' := by
  simp only [doRemoveDevice] at hremove
  split at hremove
  next => cases hremove
  next a₁ hsort =>
    obtain rfl := (Prod.mk.inj hremove).1
    obtain ⟨hsorted, hmap, -⟩ := invalidateSortedOids_ok hsort
    refine ⟨hsorted, fun oid hoid => h.canonical oid ?_⟩
    rw [OrderedDict.mem_keys, hmap, removeOids_get] at hoid
    rw [OrderedDict.mem_keys]
    split at hoid
    · cases hoid
    · exact hoid

theorem cached_of_run {s : ProtocolAdapter SnmpAdapter} {calls : List SnmpCall}
    (hcanonical : ∀ c ∈ calls, CanonicalCall c)
    (hrun : exec stepOk { state := {} } calls = some s) : Cached s.state := by
  refine exec_invariant_of_forall (J := fun s : ProtocolAdapter SnmpAdapter => Cached s.state)
    ?_ hcanonical ⟨consistent_empty.toSorted, by simp⟩ hrun
  intro s c s' hc hs hstep
  cases c with
  | addDevice device slave registers =>
    simp only [stepOk] at hstep
    split at hstep
    next s₁ hadd =>
      obtain rfl := Option.some.inj hstep
      have hok : s.state.doAddDevice device slave registers = (s₁.state, .ok ()) := by
        refine Prod.ext ?_ ?_
        · rw [← ProtocolAdapter.state_addDevice, hadd]
        · rw [← ProtocolAdapter.result_addDevice, hadd]
      exact hs.addDevice hc hok
    next => cases hstep
  | removeDevice device =>
    simp only [stepOk] at hstep
    split at hstep
    next s₁ hremove =>
      obtain rfl := Option.some.inj hstep
      have hok : s.state.doRemoveDevice device = (s₁.state, .ok ()) := by
        refine Prod.ext ?_ ?_
        · rw [← ProtocolAdapter.state_removeDeviceOrRaise, hremove]
        · rw [← ProtocolAdapter.result_removeDeviceOrRaise, hremove]
      exact hs.removeDevice hok
    next => cases hstep

section Walks

variable {lib : Pysnmp} {faults : FaultSimulator} {values : UUID → Dict String PyFloat}

theorem readVariable_value_iff {name : List ℕ} {v : SnmpValue} :
    a.readVariable lib faults values name = .ok (name, .value v) ↔
      a.exceptionFault faults (oidString name) = false ∧
      ∃ value dataType, a.resolveOid values (oidString name) = some (value, dataType) ∧
        toSnmpValue lib.toRfc1902 value dataType = .ok v := by
  simp only [readVariable]
  cases a.exceptionFault faults (oidString name) with
  | true => simp
  | false =>
    cases hvalue : a.resolveOid values (oidString name) with
    | none => simp
    | some p =>
      obtain ⟨value, dataType⟩ := p
      cases hobject : toSnmpValue lib.toRfc1902 value dataType with
      | error e => simp [toSnmpObject, hobject, bind, Except.bind]
      | ok w => simp [toSnmpObject, hobject, bind, Except.bind, pure, Except.pure]

theorem exceptionFault_eq_false
    (hfaults : ∀ device fault, faults.getFault device = some fault →
      fault.faultType ≠ .exception) (oid : String) : a.exceptionFault faults oid = false := by
  unfold exceptionFault
  split
  next => rfl
  next device name _ =>
    split
    next => rfl
    next fault hfault => exact decide_eq_false (hfaults device fault hfault)

theorem mem_keys_of_resolveOid {oid : String} {p : PyFloat × DataType}
    (h : a.resolveOid values oid = some p) : oid ∈ a.oidMap.keys := by
  rw [OrderedDict.mem_keys]
  unfold resolveOid at h
  split at h
  next => cases h
  next hget => rw [hget]; rfl

theorem resolveOid_eq_some_iff {oid : String} {value : PyFloat} {dataType : DataType} :
    a.resolveOid values oid = some (value, dataType) ↔
      ∃ device name, a.oidMap.get oid = some (device, name) ∧
        values device name = some value ∧ (a.oidDataTypes oid).getD .float32 = dataType := by
  unfold resolveOid
  split
  next h => simp [h]
  next device name h => simp [h]

/-- After any adds and removes that do not raise, of devices with canonical OIDs, and without
exception faults: a walk sees everything exactly when every OID with a current value has one that
its SNMP type can hold. -/
theorem walksAll_iff (lib : Pysnmp) (calls : List SnmpCall)
    (hcanonical : ∀ c ∈ calls, CanonicalCall c) (s : ProtocolAdapter SnmpAdapter)
    (hrun : exec stepOk { state := {} } calls = some s) (faults : FaultSimulator)
    (hfaults : ∀ device fault, faults.getFault device = some fault →
      fault.faultType ≠ .exception) (values : UUID → Dict String PyFloat) :
    WalksAll lib faults values s.state ↔
      ∀ oid device name value, s.state.oidMap.get oid = some (device, name) →
        values device name = some value →
        Convertible value ((s.state.oidDataTypes oid).getD .float32) := by
  have hcached := cached_of_run hcanonical hrun
  have hstate : (∀ oid device name value, s.state.oidMap.get oid = some (device, name) →
      values device name = some value →
      Convertible value ((s.state.oidDataTypes oid).getD .float32)) ↔
      ∀ oid value dataType, s.state.resolveOid values oid = some (value, dataType) →
        Convertible value dataType := by
    simp only [resolveOid_eq_some_iff]
    constructor
    · rintro h oid value _ ⟨device, name, hget, hvalue, rfl⟩
      exact h oid device name value hget hvalue
    · exact fun h oid device name value hget hvalue =>
        h oid value _ ⟨device, name, hget, hvalue, rfl⟩
  rw [hstate]
  constructor
  · rintro ⟨visited, -, -, hvisited, hread⟩ oid value dataType hvalue
    obtain ⟨name, hne, rfl⟩ := hcached.canonical oid (mem_keys_of_resolveOid hvalue)
    have hmem := (hvisited name).2 ⟨mem_keys_of_resolveOid hvalue, by rw [hvalue]; rfl⟩
    obtain ⟨⟨name', v⟩, hv, hname⟩ := List.mem_map.1 hmem
    obtain rfl : name' = name := hname
    obtain ⟨-, value', dataType', hvalue', hv'⟩ := readVariable_value_iff.1 (hread name' v hv)
    obtain ⟨rfl, rfl⟩ := Prod.mk.inj (Option.some.inj (hvalue.symm.trans hvalue'))
    exact (toSnmpValue_isOk_iff lib.toRfc1902 value dataType).1 ⟨v, hv'⟩
  · intro hconvertible
    obtain ⟨names, hnames⟩ := exists_named hcached.sorted hcached.canonical
    have hreadable : Readable lib faults values s.state :=
      ⟨exceptionFault_eq_false hfaults, fun oid value dataType hvalue =>
        (toSnmpValue_isOk_iff lib.toRfc1902 value dataType).2
          (hconvertible oid value dataType hvalue)⟩
    have hlength : s.state.sortedOids.length = names.length := by
      rw [hnames.oids, List.length_map]
    refine ⟨names.filterMap (visit lib values s.state), fun fuel rounds hfuel hrounds => ?_, ?_,
      fun name => ?_, fun name v hv => ?_⟩
    · refine @Named.walk _ _ _ _ [] names _ hnames hreadable (Or.inl rfl) (by simp) ?_ _ _
        (by omega) (by omega)
      intro name hname
      cases name with
      | nil => exact absurd rfl (hnames.nonempty [] hname)
      | cons n name => exact List.nil_lt_cons n name
    · rw [List.pairwise_map, List.pairwise_filterMap]
      refine hnames.sorted.imp fun {x y} hlt p hp q hq => ?_
      rwa [fst_visit hp, fst_visit hq]
    · simp only [List.mem_map, List.mem_filterMap]
      constructor
      · rintro ⟨p, ⟨n, hn, hp⟩, rfl⟩
        rw [fst_visit hp, hnames.mem_keys]
        obtain ⟨q, hq, -⟩ := Option.bind_eq_some_iff.1 hp
        exact ⟨List.mem_map_of_mem hn, by rw [hq]; rfl⟩
      · rintro ⟨hkey, hsome⟩
        obtain ⟨n, hn, hnname⟩ := List.mem_map.1 ((hnames.mem_keys _).1 hkey)
        have hne : name ≠ [] := by
          rintro rfl
          exact oidString_ne_empty (hnames.nonempty n hn) hnname
        obtain rfl := oidString_injOn (hnames.nonempty n hn) hne hnname
        obtain ⟨⟨value, dataType⟩, hvalue⟩ := Option.isSome_iff_exists.1 hsome
        obtain ⟨v, hv⟩ := hreadable.convertible _ _ _ hvalue
        exact ⟨(n, v), ⟨n, hn, visit_eq_some_iff.2 ⟨rfl, value, dataType, hvalue, hv⟩⟩, rfl⟩
    · obtain ⟨n, -, hn⟩ := List.mem_filterMap.1 hv
      obtain ⟨rfl, hvalue⟩ := visit_eq_some_iff.1 hn
      exact readVariable_value_iff.2 ⟨hreadable.no_fault _, hvalue⟩

end Walks

/-- Texts that are not dotted numbers are rejected. -/
def pysnmp : Pysnmp where
  toRfc1902 := rfc1902
  objectName oid := (oidSortKey oid).map (List.map Int.toNat)
  objectName_oidString name hne hdigits := by
    rw [oidSortKey_eq hne hdigits]
    simp [Except.map, Function.comp_def]

/-- A device with one signed 16-bit register. -/
def batteryAdded : List SnmpCall := [.addDevice 1 1 [battery]]

def batteryLevel (level : PyFloat) : UUID → Dict String PyFloat :=
  fun _ => Dict.empty.set "1.3.6.1" level

theorem oidsToAdd_battery : oidsToAdd [battery] = [("1.3.6.1", battery)] := by decide

theorem oidString_battery : oidString [1, 3, 6, 1] = "1.3.6.1" := by decide

theorem canonical_batteryAdded : ∀ c ∈ batteryAdded, CanonicalCall c := by
  simp only [batteryAdded, List.forall_mem_singleton, CanonicalCall, oidsToAdd_battery,
    List.map_singleton]
  exact ⟨[1, 3, 6, 1], by decide, oidString_battery.symm⟩

/-- A device that is the only one. -/
theorem exec_addDevice {registers : List RegisterInfo}
    (hparse : ∀ oid ∈ (oidsToAdd registers).map Prod.fst, ∃ key, oidSortKey oid = .ok key) :
    ∃ s, exec stepOk { state := {} } [.addDevice 1 1 registers] = some s ∧
      s.state.oidMap = (added {} 1 (oidsToAdd registers)).oidMap ∧
      s.state.oidDataTypes = (added {} 1 (oidsToAdd registers)).oidDataTypes := by
  obtain ⟨a, hsort⟩ : ∃ a, (added {} 1 (oidsToAdd registers)).invalidateSortedOids = .ok a := by
    refine invalidateSortedOids_isOk_iff.2 fun oid hoid => ?_
    rw [mem_keys_added] at hoid
    exact hparse oid (hoid.resolve_right List.not_mem_nil)
  have hadd : doAddDevice {} 1 1 registers = (a, .ok ()) := by
    rcases doAddDevice_cases {} 1 1 registers with
      ⟨e, -, hconflict⟩ | ⟨-, ⟨e, herror, -⟩ | ⟨a', hok, hadd⟩⟩
    · exact absurd (fun oid _ => checkConflict_ok_iff.2 (by simp)) hconflict
    · cases hsort.symm.trans herror
    · rw [hadd, Except.ok.inj (hok.symm.trans hsort)]
  obtain ⟨-, hmap, htypes, -⟩ := invalidateSortedOids_ok hsort
  refine ⟨⟨a, Dict.empty.set 1 {}⟩, ?_, hmap, htypes⟩
  simp only [exec, stepOk, ProtocolAdapter.addDevice, hadd]
  rfl

theorem exec_batteryAdded : ∃ s, exec stepOk { state := {} } batteryAdded = some s ∧
    s.state.oidMap.get = Dict.empty.set "1.3.6.1" (1, "1.3.6.1") ∧
    s.state.oidDataTypes = Dict.empty.set "1.3.6.1" .int16 := by
  have hparse : ∀ oid ∈ (oidsToAdd [battery]).map Prod.fst, ∃ key, oidSortKey oid = .ok key := by
    rw [oidsToAdd_battery, List.map_singleton, List.forall_mem_singleton, ← oidString_battery]
    exact ⟨_, oidSortKey_eq (by decide) (by decide)⟩
  obtain ⟨s, hrun, hmap, htypes⟩ := exec_addDevice hparse
  refine ⟨s, hrun, ?_, ?_⟩
  · rw [hmap, oidsToAdd_battery]
    rfl
  · rw [htypes, oidsToAdd_battery]
    rfl

/-- A signed, an unsigned and a float register, in another order than their OIDs'. -/
def ups : List RegisterInfo := [
  battery,
  { battery with address := 1, dataType := .uint16, oid := some "1.3.6.10" },
  { battery with address := 2, dataType := .float32, oid := some "1.3.6.2" }]

/-- The float register has no value yet. -/
def upsLevels : UUID → Dict String PyFloat :=
  fun _ => (Dict.empty.set "1.3.6.1" (.fin true 1)).set "1.3.6.10" (.fin false 1)

theorem oids_ups : (oidsToAdd ups).map Prod.fst =
    [[1, 3, 6, 1], [1, 3, 6, 10], [1, 3, 6, 2]].map oidString := by decide

theorem canonical_ups : CanonicalCall (.addDevice 1 1 ups) := by
  rw [CanonicalCall, oids_ups, List.forall_mem_map]
  exact fun name hname => ⟨name, by revert name; decide, rfl⟩

theorem parse_ups : ∀ oid ∈ (oidsToAdd ups).map Prod.fst, ∃ key, oidSortKey oid = .ok key := by
  rw [oids_ups, List.forall_mem_map]
  intro name hname
  refine ⟨_, oidSortKey_eq ?_ ?_⟩
  · revert name
    decide
  · revert name
    decide

/-- A walk sees the two registers that have a value. -/
theorem walksAll_iff_battery : ∃ s,
    exec stepOk { state := {} } [.addDevice 1 1 ups] = some s ∧
      WalksAll pysnmp Dict.empty upsLevels s.state := by
  obtain ⟨s, hrun, hmap, htypes⟩ := exec_addDevice parse_ups
  refine ⟨s, hrun, (walksAll_iff pysnmp _ (List.forall_mem_singleton.2 canonical_ups) s hrun
    Dict.empty (by rintro _ _ ⟨⟩) upsLevels).2 ?_⟩
  have hget : s.state.oidMap.get = ((Dict.empty.set "1.3.6.1" (1, "1.3.6.1")).set "1.3.6.10"
      (1, "1.3.6.10")).set "1.3.6.2" (1, "1.3.6.2") := by
    rw [hmap]
    rfl
  have htypes : s.state.oidDataTypes = ((Dict.empty.set "1.3.6.1" .int16).set "1.3.6.10"
      .uint16).set "1.3.6.2" .float32 := by
    rw [htypes]
    rfl
  rw [hget, htypes]
  intro oid device name value hregister hvalue
  simp only [Dict.set_apply] at hregister
  split at hregister
  next hoid =>
    subst hoid
    exact trivial
  next =>
    split at hregister
    next hoid =>
      obtain ⟨-, rfl⟩ := Prod.mk.inj (Option.some.inj hregister)
      obtain rfl := Option.some.inj hvalue
      subst hoid
      decide
    next =>
      split at hregister
      next hoid =>
        obtain ⟨-, rfl⟩ := Prod.mk.inj (Option.some.inj hregister)
        obtain rfl := Option.some.inj hvalue
        subst hoid
        decide
      next => cases hregister

/-- A level of 3000000000 stops every walk. -/
theorem overflow_stops_walk : ¬ ∀ (lib : Pysnmp) (calls : List SnmpCall),
    (∀ c ∈ calls, CanonicalCall c) → ∀ s, exec stepOk { state := {} } calls = some s →
      ∀ faults : FaultSimulator, (∀ device fault, faults.getFault device = some fault →
        fault.faultType ≠ .exception) → ∀ values, WalksAll lib faults values s.state := by
  intro h
  obtain ⟨s, hrun, hmap, htypes⟩ := exec_batteryAdded
  obtain ⟨visited, -, -, hvisited, hread⟩ := h pysnmp batteryAdded canonical_batteryAdded s hrun
    Dict.empty (by rintro _ _ ⟨⟩) (batteryLevel (.fin false 3000000000))
  have hresolve : s.state.resolveOid (batteryLevel (.fin false 3000000000)) "1.3.6.1" =
      some (.fin false 3000000000, .int16) := by
    rw [resolveOid_eq_some_iff]
    exact ⟨1, "1.3.6.1", by rw [hmap, Dict.set_self], rfl, by rw [htypes, Dict.set_self]; rfl⟩
  have hmem := (hvisited [1, 3, 6, 1]).2
    ⟨by rw [oidString_battery]; exact mem_keys_of_resolveOid hresolve,
      by rw [oidString_battery, hresolve]; rfl⟩
  obtain ⟨⟨name, v⟩, hv, hname⟩ := List.mem_map.1 hmem
  obtain rfl : name = [1, 3, 6, 1] := hname
  have hvalue := hread _ _ hv
  rw [readVariable_value_iff, oidString_battery] at hvalue
  obtain ⟨-, value, dataType, hvalue, hok⟩ := hvalue
  obtain ⟨rfl, rfl⟩ := Prod.mk.inj (Option.some.inj (hresolve.symm.trans hvalue))
  exact absurd ((toSnmpValue_isOk_iff _ _ _).1 ⟨v, hok⟩) (by decide)

end SnmpAdapter

end GhostMeter.Protocols
