import GhostMeter.Protocols.SnmpWalk

/-! The faults of SNMP requests: the device that a request is resolved to, and the device whose OID
answers it. -/

namespace GhostMeter.Protocols

open GhostMeter.Lib GhostMeter.Simulation

/-- What becomes of a request before it is answered. -/
inductive PduFate
  | dropped
  | deferred (seconds : PyFloat)
  | served
  deriving DecidableEq

/-- The part of `process_pdu` after the fault is known, with the drawn `random.random()`. -/
def faultFate (fault : Option FaultConfig) (random : PyFloat) : Except PyError PduFate :=
  match fault with
  | none => .ok .served
  | some fault =>
    match fault.faultType with
    | .timeout => .ok .dropped
    | .intermittent => do
      if random.lt (← getFailureRate fault.params) then return .dropped else return .served
    | .delay => do return .deferred (← getDelaySeconds fault.params)
    | _ => .ok .served

namespace SnmpAdapter

def resolvePduDevice (a : SnmpAdapter) : List (List ℕ) → Except PyError (Option UUID)
  | [] => .ok none
  | name :: names =>
    match a.oidMap.get (oidString name) with
    | some (device, _) => .ok (some device)
    | none =>
      match a.getNextOid (oidString name) with
      | .error e => .error e
      | .ok next =>
        match (next.filter (· ≠ "")).bind a.oidMap.get with
        | some (device, _) => .ok (some device)
        | none => resolvePduDevice a names

def processPdu (faults : FaultSimulator) (a : SnmpAdapter) (names : List (List ℕ))
    (random : PyFloat) : Except PyError PduFate := do
  faultFate ((← a.resolvePduDevice names).bind faults.getFault) random

/-- The OID that the inner loop of `read_next_variables` ends at. -/
def nextValued (faults : FaultSimulator) (values : UUID → Dict String PyFloat) (a : SnmpAdapter) :
    ℕ → Option String → Option (Except SnmpReadError (Option String))
  | _, none => some (.ok none)
  | 0, some _ => none
  | fuel + 1, some oid =>
    if a.exceptionFault faults oid then some (.error .genError)
    else
      match a.resolveOid values oid with
      | some _ => some (.ok (some oid))
      | none =>
        match a.getNextOid oid with
        | .error e => some (.error (.py e))
        | .ok next => nextValued faults values a fuel next

/-- The variable that the OID at the end of the loop is answered with. -/
def answer (lib : Pysnmp) (values : UUID → Dict String PyFloat) (a : SnmpAdapter) :
    Option String → Except SnmpReadError (Option (List ℕ × SnmpValue))
  | none => .ok none
  | some oid =>
    match a.resolveOid values oid with
    | none => .ok none
    | some (value, dataType) => do
      let name ← (lib.objectName oid).mapError .py
      return some (name, ← toSnmpObject lib value dataType)

variable {lib : Pysnmp} {faults : FaultSimulator} {values : UUID → Dict String PyFloat}
  {a : SnmpAdapter}

/-- The inner loop answers with the variable of the OID that it ends at. -/
theorem nextValue_eq (fuel : ℕ) (start : Option String) :
    a.nextValue lib faults values fuel start =
      (a.nextValued faults values fuel start).map (· >>= a.answer lib values) := by
  induction fuel generalizing start with
  | zero => cases start <;> rfl
  | succ fuel ih =>
    cases start with
    | none => rfl
    | some oid =>
      simp only [nextValue, nextValued]
      split
      next => rfl
      next =>
        cases hvalue : a.resolveOid values oid with
        | some p =>
          simp only [Option.map_some, bind, Except.bind, answer, hvalue]
        | none =>
          cases hnext : a.getNextOid oid with
          | error e => rfl
          | ok next => exact ih next

/-- A GETNEXT request for the name is answered with the OID. -/
def AnswersNext (lib : Pysnmp) (faults : FaultSimulator) (values : UUID → Dict String PyFloat)
    (a : SnmpAdapter) (name : List ℕ) (oid : String) : Prop :=
  ∃ fuel start, a.getNextOid (oidString name) = .ok start ∧
    a.nextValued faults values fuel start = some (.ok (some oid)) ∧
    ∃ next v, a.readNextVariable lib faults values fuel name = some (.ok (next, .value v))

/-- The fault of the device, and of no other, strikes the request: a timeout drops it, an
intermittent fault drops it as often as its failure rate says, a delay holds it back for its time,
and under anything else it is served. -/
structure Struck (faults : FaultSimulator) (a : SnmpAdapter) (name : List ℕ) (device : UUID) :
    Prop where
  resolves : a.resolvePduDevice [name] = .ok (some device)
  timeout : ∀ params, faults.getFault device = some ⟨.timeout, params⟩ →
    ∀ random, a.processPdu faults [name] random = .ok .dropped
  intermittent : ∀ params, faults.getFault device = some ⟨.intermittent, params⟩ →
    ∀ random, a.processPdu faults [name] random =
      (getFailureRate params).map fun rate => if random.lt rate then .dropped else .served
  delay : ∀ params, faults.getFault device = some ⟨.delay, params⟩ →
    ∀ random, a.processPdu faults [name] random = (getDelaySeconds params).map .deferred
  served : (∀ fault ∈ faults.getFault device,
      fault.faultType ∉ [.timeout, .intermittent, .delay]) →
    ∀ random, a.processPdu faults [name] random = .ok .served

/-- The numbers of an OID that can be parsed. -/
def sortKey (oid : String) : List ℤ := ((oidSortKey oid).toOption).getD []

/-- The key that `get_next_oid` searches for. -/
def searchKey (oid : String) : Except PyError (List ℤ) :=
  if oid = "" then .ok [] else oidSortKey oid

/-- The first OID with its numbers: only these are found. -/
def Leads (a : SnmpAdapter) (oid : String) : Prop :=
  a.sortedOids.find? (sortKey · = sortKey oid) = some oid

/-- The first OID after a key. -/
structure Next (a : SnmpAdapter) (key : List ℤ) (oid : String) : Prop where
  leads : Leads a oid
  after : key < sortKey oid
  least : ∀ oid', Leads a oid' → key < sortKey oid' → sortKey oid ≤ sortKey oid'

/-- The first OID after a key that has a current value. -/
structure NextValued (values : UUID → Dict String PyFloat) (a : SnmpAdapter) (key : List ℤ)
    (oid : String) : Prop where
  leads : Leads a oid
  after : key < sortKey oid
  valued : (a.resolveOid values oid).isSome
  least : ∀ oid', Leads a oid' → key < sortKey oid' → (a.resolveOid values oid').isSome →
    sortKey oid ≤ sortKey oid'

/-- No OID after the key up to this one is a device's with an exception fault. -/
def Unhindered (faults : FaultSimulator) (a : SnmpAdapter) (key : List ℤ) (oid : String) : Prop :=
  ∀ oid', Leads a oid' → key < sortKey oid' → sortKey oid' ≤ sortKey oid →
    a.exceptionFault faults oid' = false

section Search

variable {key : List ℤ} {oid oid' : String}

theorem sortKey_of_ok (h : oidSortKey oid = .ok key) : sortKey oid = key := by
  rw [sortKey, h]
  rfl

theorem Sorted.keys_eq (h : Sorted a) : a.sortedOidKeys = a.sortedOids.map sortKey := by
  have hkeys := mapM_ok_iff.1 h.keys
  generalize a.sortedOids = oids at hkeys
  generalize a.sortedOidKeys = keys at hkeys
  induction hkeys with
  | nil => rfl
  | cons hkey _ ih => rw [List.map_cons, ← ih, sortKey_of_ok hkey]

theorem Sorted.pairwise (h : Sorted a) :
    a.sortedOids.Pairwise fun x y => sortKey x ≤ sortKey y :=
  List.pairwise_map.1 (h.keys_eq ▸ h.sorted)

theorem Sorted.parse (h : Sorted a) (hmem : oid ∈ a.sortedOids) :
    oidSortKey oid = .ok (sortKey oid) := by
  obtain ⟨key, hkey⟩ := mapM_isOk_iff.1 ⟨_, h.keys⟩ oid hmem
  rw [hkey, sortKey_of_ok hkey]

theorem Leads.mem (h : Leads a oid) : oid ∈ a.sortedOids := List.mem_of_find?_eq_some h

theorem Leads.eq (h : Leads a oid) (h' : Leads a oid') (heq : sortKey oid = sortKey oid') :
    oid = oid' := by
  rw [Leads, heq] at h
  exact Option.some.inj (h.symm.trans h')

theorem Next.eq (h : Next a key oid) (h' : Next a key oid') : oid = oid' :=
  h.leads.eq h'.leads (le_antisymm (h.least _ h'.leads h'.after) (h'.least _ h.leads h.after))

/-- The first element of the sorted list behind a key. -/
theorem Sorted.next_of_find (h : Sorted a)
    (hfind : a.sortedOids.find? (fun oid => decide (key < sortKey oid)) = some oid) :
    Next a key oid := by
  obtain ⟨hafter, before, rest, hsplit, hbefore⟩ := List.find?_eq_some_iff_append.1 hfind
  have hafter : key < sortKey oid := by simpa using hafter
  have hbefore : ∀ o ∈ before, sortKey o ≤ key := fun o ho => by simpa using hbefore o ho
  have hpairwise := h.pairwise
  rw [hsplit] at hpairwise
  refine ⟨?_, hafter, fun oid' hleads hlt => ?_⟩
  · rw [Leads, hsplit, List.find?_append]
    have hnone : before.find? (sortKey · = sortKey oid) = none := by
      refine List.find?_eq_none.2 fun o ho => ?_
      simpa using ((hbefore o ho).trans_lt hafter).ne
    simp [hnone]
  · have hmem := hleads.mem
    rw [hsplit, List.mem_append] at hmem
    rcases hmem with hmem | hmem
    · exact absurd hlt (not_lt.2 (hbefore oid' hmem))
    · rcases List.mem_cons.1 hmem with rfl | hmem
      · exact le_rfl
      · exact (List.pairwise_cons.1 (List.pairwise_append.1 hpairwise).2.1).1 oid' hmem

theorem Sorted.find_eq_some_iff (h : Sorted a) :
    a.sortedOids.find? (fun oid => decide (key < sortKey oid)) = some oid ↔ Next a key oid := by
  refine ⟨h.next_of_find, fun hnext => ?_⟩
  have hsome : (a.sortedOids.find? fun oid => decide (key < sortKey oid)).isSome :=
    List.find?_isSome.2 ⟨oid, hnext.leads.mem, by simpa using hnext.after⟩
  obtain ⟨first, hfirst⟩ := Option.isSome_iff_exists.1 hsome
  rw [hfirst, (h.next_of_find hfirst).eq hnext]

/-- The binary search finds the first OID after the key. -/
theorem Sorted.getNextOid_eq (h : Sorted a) (hkey : searchKey oid = .ok key) :
    a.getNextOid oid =
      .ok (a.sortedOids.find? fun oid' => decide (key < sortKey oid')) := by
  unfold SnmpAdapter.getNextOid
  split
  next hnil =>
    rw [h.keys_eq, List.map_eq_nil_iff] at hnil
    rw [hnil]
    rfl
  next =>
    rw [show (if oid = "" then .ok [] else oidSortKey oid) = Except.ok key from hkey, Except.map]
    obtain ⟨hle, hbefore, hafter⟩ := bisectRight_spec h.sorted key
    set i := bisectRight a.sortedOidKeys key
    have hget : ∀ j : ℕ, a.sortedOidKeys[j]? = a.sortedOids[j]?.map sortKey := fun j => by
      rw [h.keys_eq, List.getElem?_map]
    have htake : (a.sortedOids.take i).find? (fun oid' => decide (key < sortKey oid')) = none := by
      refine List.find?_eq_none.2 fun o ho => ?_
      obtain ⟨j, hj, rfl⟩ := List.mem_take_iff_getElem.1 ho
      have hlength : j < a.sortedOids.length := by omega
      have hkey := hbefore j (sortKey a.sortedOids[j]) (by omega)
        (by rw [hget, List.getElem?_eq_getElem hlength, Option.map_some])
      simpa using hkey
    have hsplit := List.take_append_drop i a.sortedOids
    conv => rhs; rw [← hsplit, List.find?_append, htake, Option.none_or]
    congr 1
    cases hdrop : a.sortedOids[i]? with
    | none =>
      rw [List.drop_eq_nil_of_le (List.getElem?_eq_none_iff.1 hdrop)]
      rfl
    | some o =>
      obtain ⟨hi, rfl⟩ := List.getElem?_eq_some_iff.1 hdrop
      have hlt := hafter i _ le_rfl (by rw [hget, hdrop]; rfl)
      rw [List.drop_eq_getElem_cons hi, List.find?_cons_of_pos (by simpa using hlt)]

theorem oidSortKey_empty : ¬ ∃ key, oidSortKey "" = .ok key := by
  rintro ⟨key, hkey⟩
  cases hkey

theorem Sorted.searchKey_of_mem (h : Sorted a) (hmem : oid ∈ a.sortedOids) :
    searchKey oid = .ok (sortKey oid) := by
  have hparse := h.parse hmem
  rw [searchKey, if_neg, hparse]
  rintro rfl
  exact oidSortKey_empty ⟨_, hparse⟩

theorem Sorted.exists_next (h : Sorted a) (hleads : Leads a oid) (hlt : key < sortKey oid) :
    ∃ first, Next a key first := by
  have hsome : (a.sortedOids.find? fun oid => decide (key < sortKey oid)).isSome :=
    List.find?_isSome.2 ⟨oid, hleads.mem, by simpa using hlt⟩
  obtain ⟨first, hfirst⟩ := Option.isSome_iff_exists.1 hsome
  exact ⟨first, h.next_of_find hfirst⟩

end Search

section Loop

variable {key : List ℤ} {first oid : String}

/-- The first OID has a value: the loop ends there. -/
theorem Next.nextValued (h : Next a key first) (hvalued : (a.resolveOid values first).isSome) :
    NextValued values a key first :=
  ⟨h.leads, h.after, hvalued, fun oid' hleads hlt _ => h.least oid' hleads hlt⟩

/-- The first OID has no value: the loop goes on behind it. -/
theorem Next.nextValued_iff (h : Next a key first)
    (hvalued : ¬ (a.resolveOid values first).isSome) :
    NextValued values a key oid ↔ NextValued values a (sortKey first) oid := by
  have hbehind : ∀ oid', Leads a oid' → key < sortKey oid' → (a.resolveOid values oid').isSome →
      sortKey first < sortKey oid' := by
    intro oid' hleads hlt hsome
    refine lt_of_le_of_ne (h.least oid' hleads hlt) fun heq => hvalued ?_
    rwa [h.leads.eq hleads heq]
  constructor
  · rintro ⟨hleads, hafter, hsome, hleast⟩
    exact ⟨hleads, hbehind oid hleads hafter hsome, hsome, fun oid' hleads' hlt hsome' =>
      hleast oid' hleads' (h.after.trans hlt) hsome'⟩
  · rintro ⟨hleads, hafter, hsome, hleast⟩
    exact ⟨hleads, h.after.trans hafter, hsome, fun oid' hleads' hlt hsome' =>
      hleast oid' hleads' (hbehind oid' hleads' hlt hsome') hsome'⟩

theorem Next.unhindered_iff (h : Next a key first) (hle : sortKey first ≤ sortKey oid) :
    Unhindered faults a key oid ↔
      a.exceptionFault faults first = false ∧ Unhindered faults a (sortKey first) oid := by
  constructor
  · intro hfree
    exact ⟨hfree first h.leads h.after hle, fun oid' hleads hlt hle' =>
      hfree oid' hleads (h.after.trans hlt) hle'⟩
  · rintro ⟨hfirst, hfree⟩ oid' hleads hlt hle'
    rcases (h.least oid' hleads hlt).lt_or_eq with hlt' | heq
    · exact hfree oid' hleads hlt' hle'
    · rwa [← h.leads.eq hleads heq]

/-- Where the loop ends, if it ends at an OID. -/
theorem nextValued_sound (h : Sorted a) {fuel : ℕ} (hnext : Next a key first)
    (hend : a.nextValued faults values fuel (some first) = some (.ok (some oid))) :
    NextValued values a key oid ∧ Unhindered faults a key oid := by
  induction fuel generalizing key first with
  | zero => cases hend
  | succ fuel ih =>
    simp only [nextValued] at hend
    split at hend
    next => cases hend
    next hfault =>
      have hfault : a.exceptionFault faults first = false := by simpa using hfault
      split at hend
      next p hvalue =>
        obtain rfl : first = oid := by simpa using hend
        have hvalued : (a.resolveOid values first).isSome := by rw [hvalue]; rfl
        refine ⟨hnext.nextValued hvalued, (hnext.unhindered_iff le_rfl).2 ⟨hfault, ?_⟩⟩
        exact fun oid' _ hlt hle => absurd hlt (not_lt.2 hle)
      next hvalue =>
        have hvalued : ¬ (a.resolveOid values first).isSome := by simp [hvalue]
        rw [h.getNextOid_eq (h.searchKey_of_mem hnext.leads.mem)] at hend
        cases hfind : a.sortedOids.find? fun oid' => decide (sortKey first < sortKey oid') with
        | none => simp [hfind, nextValued] at hend
        | some second =>
          simp only [hfind] at hend
          obtain ⟨hanswer, hfree⟩ := ih (h.next_of_find hfind) hend
          exact ⟨(hnext.nextValued_iff hvalued).2 hanswer,
            (hnext.unhindered_iff hanswer.after.le).2 ⟨hfault, hfree⟩⟩

/-- How many OIDs are behind a key. -/
def behind (a : SnmpAdapter) (key : List ℤ) : ℕ :=
  (a.sortedOids.filter fun oid => decide (key < sortKey oid)).length

theorem Next.behind_lt (h : Next a key first) : behind a (sortKey first) < behind a key := by
  have hfilter : (a.sortedOids.filter fun oid => decide (sortKey first < sortKey oid)) =
      (a.sortedOids.filter fun oid => decide (key < sortKey oid)).filter
        fun oid => decide (sortKey first < sortKey oid) := by
    rw [List.filter_filter]
    refine List.filter_congr fun oid _ => ?_
    rw [Bool.eq_iff_iff, Bool.and_eq_true, decide_eq_true_iff, decide_eq_true_iff]
    exact ⟨fun hlt => ⟨hlt, h.after.trans hlt⟩, And.left⟩
  rw [behind, behind, hfilter, List.length_filter_lt_length_iff_exists]
  exact ⟨first, List.mem_filter.2 ⟨h.leads.mem, by simpa using h.after⟩, by simp⟩

/-- The loop comes to the first OID with a value, unless a fault raises on the way. -/
theorem nextValued_complete (h : Sorted a) (hnext : Next a key first)
    (hanswer : NextValued values a key oid) (hfree : Unhindered faults a key oid) :
    ∃ fuel, a.nextValued faults values fuel (some first) = some (.ok (some oid)) := by
  induction hn : behind a key using Nat.strong_induction_on generalizing key first with
  | _ n ih =>
    subst hn
    obtain ⟨hfault, hfree'⟩ :=
      (hnext.unhindered_iff (hnext.least oid hanswer.leads hanswer.after)).1 hfree
    by_cases hvalued : (a.resolveOid values first).isSome
    · have heq : sortKey first = sortKey oid :=
        le_antisymm (hnext.least oid hanswer.leads hanswer.after)
          (hanswer.least first hnext.leads hnext.after hvalued)
      obtain rfl := hnext.leads.eq hanswer.leads heq
      obtain ⟨p, hvalue⟩ := Option.isSome_iff_exists.1 hvalued
      exact ⟨1, by simp [nextValued, hfault, hvalue]⟩
    · have hanswer' := (hnext.nextValued_iff hvalued).1 hanswer
      obtain ⟨second, hsecond⟩ := h.exists_next hanswer'.leads hanswer'.after
      obtain ⟨fuel, hfuel⟩ := ih _ hnext.behind_lt hsecond hanswer' hfree' rfl
      have hvalue : a.resolveOid values first = none := by simpa using hvalued
      refine ⟨fuel + 1, ?_⟩
      simp only [nextValued, hfault, Bool.false_eq_true, if_false, hvalue,
        h.getNextOid_eq (h.searchKey_of_mem hnext.leads.mem), h.find_eq_some_iff.2 hsecond]
      exact hfuel

end Loop

section Answers

variable {name : List ℕ} {key : List ℤ} {oid : String}

/-- The OID can be answered with: its text and its value have SNMP objects. -/
structure Answerable (lib : Pysnmp) (values : UUID → Dict String PyFloat) (a : SnmpAdapter)
    (oid : String) : Prop where
  objectName : ∃ next, lib.objectName oid = .ok next
  convertible : ∀ value dataType, a.resolveOid values oid = some (value, dataType) →
    Convertible value dataType

theorem answer_isSome_iff (hvalued : (a.resolveOid values oid).isSome) :
    (∃ p, a.answer lib values (some oid) = .ok (some p)) ↔ Answerable lib values a oid := by
  obtain ⟨⟨value, dataType⟩, hvalue⟩ := Option.isSome_iff_exists.1 hvalued
  have hconvert := toSnmpValue_isOk_iff lib.toRfc1902 value dataType
  simp only [answer, hvalue, bind_ok_iff, mapError_ok_iff, toSnmpObject]
  constructor
  · rintro ⟨p, next, hname, v, hv, -⟩
    refine ⟨⟨next, hname⟩, fun value' dataType' hvalue' => ?_⟩
    obtain ⟨rfl, rfl⟩ := Prod.mk.inj (Option.some.inj (hvalue.symm.trans hvalue'))
    exact hconvert.1 ⟨v, hv⟩
  · rintro ⟨⟨next, hname⟩, hconvertible⟩
    obtain ⟨v, hv⟩ := hconvert.2 (hconvertible value dataType hvalue)
    exact ⟨_, next, hname, v, hv, rfl⟩

theorem searchKey_of_getNextOid {first : String} (h : a.getNextOid oid = .ok (some first)) :
    ∃ key, searchKey oid = .ok key := by
  unfold SnmpAdapter.getNextOid at h
  split at h
  next => cases h
  next =>
    cases hkey : searchKey oid with
    | ok key => exact ⟨key, rfl⟩
    | error e =>
      rw [show (if oid = "" then .ok [] else oidSortKey oid) = Except.error e from hkey] at h
      cases h

/-- What a request is answered with whose loop ends at an OID. -/
theorem readNextVariable_eq {fuel : ℕ} {start : Option String}
    (hstart : a.getNextOid (oidString name) = .ok start)
    (hend : a.nextValued faults values fuel start = some (.ok (some oid))) :
    a.readNextVariable lib faults values fuel name =
      some ((a.answer lib values (some oid)).map fun
        | none => (name, .endOfMibView)
        | some (next, v) => (next, .value v)) := by
  simp only [readNextVariable, hstart, nextValue_eq, hend, Option.map_some, bind, Except.bind]
  cases a.answer lib values (some oid) with
  | error e => rfl
  | ok p => cases p <;> rfl

/-- The OID that answers is the first one after the request with a value. -/
theorem answersNext_iff (h : Sorted a) : AnswersNext lib faults values a name oid ↔
    ∃ key, searchKey (oidString name) = .ok key ∧ NextValued values a key oid ∧
      Unhindered faults a key oid ∧ Answerable lib values a oid := by
  constructor
  · rintro ⟨fuel, start, hstart, hend, next, v, hread⟩
    cases start with
    | none => cases fuel <;> simp [nextValued] at hend
    | some first =>
      rw [readNextVariable_eq hstart hend, Option.some.injEq] at hread
      obtain ⟨key, hkey⟩ := searchKey_of_getNextOid hstart
      rw [h.getNextOid_eq hkey, Except.ok.injEq] at hstart
      obtain ⟨hanswer, hfree⟩ := nextValued_sound h (h.next_of_find hstart) hend
      refine ⟨key, hkey, hanswer, hfree, (answer_isSome_iff hanswer.valued).1 ?_⟩
      cases hanswer : a.answer lib values (some oid) with
      | error e =>
        rw [hanswer] at hread
        cases hread
      | ok p =>
        rw [hanswer] at hread
        cases p with
        | none => cases hread
        | some p => exact ⟨p, rfl⟩
  · rintro ⟨key, hkey, hanswer, hfree, hok⟩
    obtain ⟨first, hfirst⟩ := h.exists_next hanswer.leads hanswer.after
    obtain ⟨fuel, hfuel⟩ := nextValued_complete h hfirst hanswer hfree
    have hstart := h.getNextOid_eq hkey
    rw [h.find_eq_some_iff.2 hfirst] at hstart
    obtain ⟨p, hp⟩ := (answer_isSome_iff hanswer.valued).2 hok
    refine ⟨fuel, some first, hstart, hfuel, p.1, p.2, ?_⟩
    rw [readNextVariable_eq hstart hfuel, hp]
    rfl

/-- The requested OID, if it is registered, and the first one after it otherwise. -/
def AtOrAfter (a : SnmpAdapter) (name : List ℕ) (key : List ℤ) (first : String) : Prop :=
  (first = oidString name ∧ first ∈ a.oidMap.keys) ∨
    (oidString name ∉ a.oidMap.keys ∧ Next a key first)

/-- The device of an OID. -/
def owner (a : SnmpAdapter) (oid : String) : Option UUID := (a.oidMap.get oid).map Prod.fst

theorem resolvePduDevice_of_registered {device : UUID} {reg : String}
    (hget : a.oidMap.get (oidString name) = some (device, reg)) :
    a.resolvePduDevice [name] = .ok (some device) := by
  simp only [resolvePduDevice, hget]

theorem resolvePduDevice_of_next (h : Sorted a) {first : String} {device : UUID}
    (hkey : searchKey (oidString name) = .ok key) (hfirst : AtOrAfter a name key first)
    (howner : a.owner first = some device) : a.resolvePduDevice [name] = .ok (some device) := by
  obtain ⟨⟨device', reg⟩, hget, rfl⟩ := Option.map_eq_some_iff.1 howner
  rcases hfirst with ⟨rfl, -⟩ | ⟨hnot, hnext⟩
  · exact resolvePduDevice_of_registered hget
  · have hnone : a.oidMap.get (oidString name) = none := by
      rw [OrderedDict.mem_keys] at hnot
      simpa using hnot
    have hne : first ≠ "" := by
      rintro rfl
      exact oidSortKey_empty ⟨_, h.parse hnext.leads.mem⟩
    have hbind : ((some first).filter (· ≠ "")).bind a.oidMap.get = some (device', reg) := by
      rw [Option.filter_some_pos (by simpa using hne), Option.bind_some, hget]
    simp only [resolvePduDevice, hnone, h.getNextOid_eq hkey, h.find_eq_some_iff.2 hnext, hbind]

theorem struck_iff {device : UUID} :
    Struck faults a name device ↔ a.resolvePduDevice [name] = .ok (some device) := by
  refine ⟨Struck.resolves, fun hresolves => ?_⟩
  have hfate : ∀ random, a.processPdu faults [name] random =
      faultFate (faults.getFault device) random := fun random => by
    rw [processPdu, hresolves]
    rfl
  constructor
  · exact hresolves
  · intro params hfault random
    rw [hfate, hfault]
    rfl
  · intro params hfault random
    rw [hfate, hfault]
    simp only [faultFate]
    cases getFailureRate params with
    | error e => rfl
    | ok rate => exact (apply_ite Except.ok _ _ _).symm
  · intro params hfault random
    rw [hfate, hfault]
    simp only [faultFate]
    cases getDelaySeconds params <;> rfl
  · intro hother random
    rw [hfate]
    cases hfault : faults.getFault device with
    | none => rfl
    | some fault =>
      have htype := hother fault hfault
      obtain ⟨faultType, params⟩ := fault
      cases faultType with
      | delay | timeout | intermittent => simp at htype
      | exception | other name => rfl

theorem Sorted.owner_isSome (h : Sorted a) (hleads : Leads a oid) :
    ∃ device, a.owner oid = some device := by
  have hsome := (a.oidMap.mem_keys oid).1 (h.perm.mem_iff.1 hleads.mem)
  obtain ⟨p, hp⟩ := Option.isSome_iff_exists.1 hsome
  exact ⟨p.1, by rw [owner, hp]; rfl⟩

/-- A GETNEXT request is struck by the faults of the device that answers it, and a GET of a
registered OID by those of its device. -/
structure StrikesAnswering (lib : Pysnmp) (faults : FaultSimulator)
    (values : UUID → Dict String PyFloat) (a : SnmpAdapter) (name : List ℕ) : Prop where
  getNext : ∀ oid device, AnswersNext lib faults values a name oid →
    a.owner oid = some device → Struck faults a name device
  get : ∀ device, a.owner (oidString name) = some device → Struck faults a name device

/-- Whenever a GETNEXT request can be answered, the first registered OID that is not before the
requested one, and the first after it that has a current value, are of one device. -/
def AnswersAtHome (lib : Pysnmp) (faults : FaultSimulator) (values : UUID → Dict String PyFloat)
    (a : SnmpAdapter) (name : List ℕ) : Prop :=
  ∀ key, searchKey (oidString name) = .ok key → ∀ oid, NextValued values a key oid →
    Unhindered faults a key oid → Answerable lib values a oid →
      ∀ first, AtOrAfter a name key first → a.owner first = a.owner oid

/-- The faults hit the device that answers exactly when the answer comes from the device of the
first OID at or after the requested one. -/
theorem strikesAnswering_iff (h : Sorted a) (name : List ℕ) :
    StrikesAnswering lib faults values a name ↔ AnswersAtHome lib faults values a name := by
  constructor
  · intro hstrikes key hkey oid hanswer hfree hok first hfirst
    obtain ⟨device, hdevice⟩ := h.owner_isSome hanswer.leads
    have hstruck := hstrikes.getNext oid device
      ((answersNext_iff h).2 ⟨key, hkey, hanswer, hfree, hok⟩) hdevice
    have hfound : ∃ device', a.owner first = some device' := by
      rcases hfirst with ⟨-, hmem⟩ | ⟨-, hnext⟩
      · obtain ⟨p, hp⟩ := Option.isSome_iff_exists.1 ((a.oidMap.mem_keys first).1 hmem)
        exact ⟨p.1, by rw [owner, hp]; rfl⟩
      · exact h.owner_isSome hnext.leads
    obtain ⟨device', hdevice'⟩ := hfound
    have hresolves := resolvePduDevice_of_next h hkey hfirst hdevice'
    rw [hdevice, hdevice']
    exact Except.ok.inj (hresolves.symm.trans hstruck.resolves)
  · intro hhome
    constructor
    · intro oid device hanswers hdevice
      obtain ⟨key, hkey, hanswer, hfree, hok⟩ := (answersNext_iff h).1 hanswers
      obtain ⟨first, hfirst⟩ : ∃ first, AtOrAfter a name key first := by
        by_cases hmem : oidString name ∈ a.oidMap.keys
        · exact ⟨_, Or.inl ⟨rfl, hmem⟩⟩
        · obtain ⟨first, hfirst⟩ := h.exists_next hanswer.leads hanswer.after
          exact ⟨first, Or.inr ⟨hmem, hfirst⟩⟩
      have howner := hhome key hkey oid hanswer hfree hok first hfirst
      exact struck_iff.2 (resolvePduDevice_of_next h hkey hfirst (howner.trans hdevice))
    · intro device hdevice
      obtain ⟨⟨device', reg⟩, hget, rfl⟩ := Option.map_eq_some_iff.1 hdevice
      exact struck_iff.2 (resolvePduDevice_of_registered hget)

end Answers

/-- Two devices with one OID each. -/
def twoDevices : SnmpAdapter where
  oidMap := (OrderedDict.empty.set (oidString [1, 3, 6, 1]) (1, "power")).set
    (oidString [1, 3, 6, 2]) (2, "power")
  sortedOids := [oidString [1, 3, 6, 1], oidString [1, 3, 6, 2]]
  sortedOidKeys := [[1, 3, 6, 1], [1, 3, 6, 2]]

def fullPower : UUID → Dict String PyFloat := fun _ => Dict.empty.set "power" (.exact 5)

/-- The second device does not answer. -/
def secondDark : FaultSimulator := Dict.empty.set 2 ⟨.timeout, []⟩

theorem sortKey_oidString {name : List ℕ} (hne : name ≠ [])
    (h : ∀ n ∈ name, (Nat.toDigits 10 n).length ≤ PyInt.maxStrDigits) :
    sortKey (oidString name) = name.map (↑) := sortKey_of_ok (oidSortKey_eq hne h)

theorem sorted_twoDevices : Sorted twoDevices where
  perm := List.Perm.of_eq (by decide)
  keys := by
    rw [mapM_ok_iff]
    exact .cons (oidSortKey_eq (by decide) (by decide))
      (.cons (oidSortKey_eq (by decide) (by decide)) .nil)
  sorted := by decide

theorem sortKey_first : sortKey (oidString [1, 3, 6, 1]) = [1, 3, 6, 1] :=
  sortKey_oidString (by decide) (by decide)

theorem sortKey_second : sortKey (oidString [1, 3, 6, 2]) = [1, 3, 6, 2] :=
  sortKey_oidString (by decide) (by decide)

/-- Both OIDs have a value, so the first one after the requested name answers. -/
theorem answersNext_twoDevices {name : List ℕ} {key : List ℤ} {oid : String}
    (hkey : searchKey (oidString name) = .ok key) (hmem : oid ∈ twoDevices.sortedOids)
    (hlt : key < sortKey oid)
    (hleast : ∀ oid' ∈ twoDevices.sortedOids, key < sortKey oid' → sortKey oid ≤ sortKey oid') :
    AnswersNext pysnmp secondDark fullPower twoDevices name oid := by
  have hfree : ∀ oid' ∈ twoDevices.sortedOids,
      twoDevices.exceptionFault secondDark oid' = false := by decide
  refine (answersNext_iff sorted_twoDevices).2 ⟨key, hkey, ⟨?_, hlt, ?_, ?_⟩, ?_, ?_, ?_⟩
  · rcases List.mem_pair.1 hmem with rfl | rfl
    · simp [Leads, twoDevices]
    · simp [Leads, twoDevices, sortKey_first, sortKey_second]
  · rcases List.mem_pair.1 hmem with rfl | rfl
    · decide
    · decide
  · exact fun oid' hleads hlt' _ => hleast oid' hleads.mem hlt'
  · exact fun oid' hleads _ _ => hfree oid' hleads.mem
  · rcases List.mem_pair.1 hmem with rfl | rfl
    · exact ⟨_, pysnmp.objectName_oidString _ (by decide) (by decide)⟩
    · exact ⟨_, pysnmp.objectName_oidString _ (by decide) (by decide)⟩
  · intro value dataType hvalue
    obtain ⟨-, -, -, -, rfl⟩ := resolveOid_eq_some_iff.1 hvalue
    exact trivial

/-- A walk that begins is answered by the first device, and struck by its faults. -/
theorem strikesAnswering_iff_twoDevices :
    AnswersNext pysnmp secondDark fullPower twoDevices [1, 3, 6, 0] (oidString [1, 3, 6, 1]) ∧
      (StrikesAnswering pysnmp secondDark fullPower twoDevices [1, 3, 6, 0] ↔
        AnswersAtHome pysnmp secondDark fullPower twoDevices [1, 3, 6, 0]) := by
  refine ⟨?_, strikesAnswering_iff sorted_twoDevices _⟩
  have hkey : searchKey (oidString [1, 3, 6, 0]) = .ok [1, 3, 6, 0] :=
    oidSortKey_eq (by decide) (by decide)
  refine answersNext_twoDevices hkey List.mem_cons_self ?_ fun oid' hmem _ => ?_
  · rw [sortKey_first]
    decide
  · rcases List.mem_pair.1 hmem with rfl | rfl
    · exact le_rfl
    · rw [sortKey_first, sortKey_second]
      decide

/-- A walk that goes from the last OID of the first device to the second is answered, although the
second device is dark. -/
theorem boundary_not_struck : Sorted twoDevices ∧
    ¬ StrikesAnswering pysnmp secondDark fullPower twoDevices [1, 3, 6, 1] := by
  refine ⟨sorted_twoDevices, fun h => ?_⟩
  have hkey : searchKey (oidString [1, 3, 6, 1]) = .ok [1, 3, 6, 1] :=
    oidSortKey_eq (by decide) (by decide)
  have hanswers : AnswersNext pysnmp secondDark fullPower twoDevices [1, 3, 6, 1]
      (oidString [1, 3, 6, 2]) := by
    refine answersNext_twoDevices hkey (List.mem_cons_of_mem _ (List.mem_singleton_self _)) ?_
      fun oid' hmem hlt => ?_
    · rw [sortKey_second]
      decide
    · rcases List.mem_pair.1 hmem with rfl | rfl
      · rw [sortKey_first] at hlt
        exact absurd hlt (lt_irrefl _)
      · exact le_rfl
  have hstruck := h.getNext (oidString [1, 3, 6, 2]) 2 hanswers (by decide)
  have hget : twoDevices.oidMap.get (oidString [1, 3, 6, 1]) = some (1, "power") := by decide
  have hresolves := resolvePduDevice_of_registered hget
  cases Except.ok.inj (hresolves.symm.trans hstruck.resolves)

end SnmpAdapter

end GhostMeter.Protocols
