import GhostMeter.Exceptions
import GhostMeter.Lib.Bisect
import GhostMeter.Lib.Check
import GhostMeter.Lib.OrderedDict
import GhostMeter.Lib.PyInt
import GhostMeter.Protocols.Snmp
import Mathlib.Data.List.Lex

/-! The SNMP agent: the OIDs of the devices, and how requests are resolved to current values. -/

namespace GhostMeter.Protocols

open GhostMeter.Lib GhostMeter.Simulation

/-- The text of a sequence of numbers. -/
def oidString (name : List ℕ) : String :=
  String.ofList (['.'].intercalate (name.map (Nat.toDigits 10)))

/-- `_oid_sort_key`. -/
def oidSortKey (oid : String) : Except PyError (List ℤ) :=
  (oid.toList.splitOn '.').mapM fun cs => PyInt.ofString (String.ofList cs)

structure SnmpAdapter where
  oidMap : OrderedDict String (UUID × String) := .empty
  oidDataTypes : Dict String DataType := Dict.empty
  deviceOids : Dict UUID (List String) := Dict.empty
  sortedOids : List String := []
  sortedOidKeys : List (List ℤ) := []

/-- The OID of a register, unless it is missing or empty. -/
def RegisterInfo.givenOid (reg : RegisterInfo) : Option String := reg.oid.filter (· ≠ "")

namespace SnmpAdapter

/-- `_invalidate_sorted_oids`: the sort raises before anything is assigned. -/
def invalidateSortedOids (a : SnmpAdapter) : Except PyError SnmpAdapter := do
  let keyed ← a.oidMap.keys.mapM fun oid => (oidSortKey oid).map fun key => (oid, key)
  let sortedOids := (keyed.mergeSort (·.2 ≤ ·.2)).map (·.1)
  let sortedOidKeys ← sortedOids.mapM oidSortKey
  return { a with sortedOids, sortedOidKeys }

/-- The OIDs of the registers, each with its register. -/
def oidsToAdd (registers : List RegisterInfo) : List (String × RegisterInfo) :=
  registers.filterMap fun reg => reg.givenOid.map fun oid => (oid, reg)

def checkConflict (a : SnmpAdapter) (device : UUID) (oid : String) : Except AppException Unit :=
  match a.oidMap.get oid with
  | none => .ok ()
  | some (existing, _) => raiseIf (existing ≠ device)
      (conflictException s!"OID {oid} is already registered by another device" "OID_CONFLICT")

def addOid (device : UUID) (a : SnmpAdapter) (oid : String × RegisterInfo) : SnmpAdapter :=
  { a with
    oidMap := a.oidMap.set oid.1 (device, (oid.2.name.filter (· ≠ "")).getD oid.1)
    oidDataTypes := a.oidDataTypes.set oid.1 oid.2.dataType }

/-- The maps are changed before the sort that may raise. -/
def doAddDevice (a : SnmpAdapter) (device : UUID) (_slave : ℤ) (registers : List RegisterInfo) :
    SnmpAdapter × Except AdapterError Unit :=
  let oids := oidsToAdd registers
  match checkAll (a.checkConflict device) (oids.map Prod.fst) with
  | .error e => (a, .error (.app e))
  | .ok () =>
    let a := oids.foldl (addOid device) a
    let a := { a with deviceOids := a.deviceOids.set device (oids.map Prod.fst) }
    match a.invalidateSortedOids with
    | .error e => (a, .error (.py e))
    | .ok a => (a, .ok ())

def removeOid (a : SnmpAdapter) (oid : String) : SnmpAdapter :=
  { a with oidMap := a.oidMap.pop oid, oidDataTypes := a.oidDataTypes.pop oid }

def doRemoveDevice (a : SnmpAdapter) (device : UUID) : SnmpAdapter × Except AdapterError Unit :=
  let oids := (a.deviceOids device).getD []
  let a := { a with deviceOids := a.deviceOids.pop device }
  let a := oids.foldl removeOid a
  match a.invalidateSortedOids with
  | .error e => (a, .error (.py e))
  | .ok a => (a, .ok ())

/-- The value and the type of an OID, over the current values of the devices. -/
def resolveOid (values : UUID → Dict String PyFloat) (a : SnmpAdapter) (oid : String) :
    Option (PyFloat × DataType) :=
  match a.oidMap.get oid with
  | none => none
  | some (device, name) => (values device name).map (·, (a.oidDataTypes oid).getD .float32)

def getNextOid (a : SnmpAdapter) (oid : String) : Except PyError (Option String) :=
  if a.sortedOidKeys = [] then .ok none
  else
    (if oid = "" then .ok [] else oidSortKey oid).map fun key =>
      a.sortedOids[bisectRight a.sortedOidKeys key]?

end SnmpAdapter

inductive SnmpResponse
  | value (v : SnmpValue)
  | noSuchObject
  | endOfMibView
  deriving DecidableEq

inductive SnmpReadError
  | genError
  | py (e : PyError)
  deriving DecidableEq

/-- What `pysnmp` does with the texts of object names and with numbers. -/
structure Pysnmp extends Rfc1902 where
  /-- `ObjectName(oid)`, as the numbers it holds. -/
  objectName : String → Except PyError (List ℕ)
  objectName_oidString (name : List ℕ) : name ≠ [] →
    (∀ n ∈ name, (Nat.toDigits 10 n).length ≤ PyInt.maxStrDigits) →
      objectName (oidString name) = .ok name

namespace SnmpAdapter

variable (lib : Pysnmp) (faults : FaultSimulator) (values : UUID → Dict String PyFloat)
  (a : SnmpAdapter)

/-- `_raise_for_exception_fault`. -/
def exceptionFault (oid : String) : Bool :=
  match a.oidMap.get oid with
  | none => false
  | some (device, _) =>
    match faults.getFault device with
    | none => false
    | some fault => fault.faultType = .exception

def toSnmpObject (value : PyFloat) (dataType : DataType) : Except SnmpReadError SnmpValue :=
  (toSnmpValue lib.toRfc1902 value dataType).mapError .py

/-- `read_variables` of one name. -/
def readVariable (name : List ℕ) : Except SnmpReadError (List ℕ × SnmpResponse) :=
  let oid := oidString name
  if a.exceptionFault faults oid then .error .genError
  else
    match a.resolveOid values oid with
    | none => .ok (name, .noSuchObject)
    | some (value, dataType) => do return (name, .value (← toSnmpObject lib value dataType))

/-- The inner loop of `read_next_variables`, for up to `fuel` OIDs. -/
def nextValue : ℕ → Option String → Option (Except SnmpReadError (Option (List ℕ × SnmpValue)))
  | _, none => some (.ok none)
  | 0, some _ => none
  | fuel + 1, some oid =>
    if a.exceptionFault faults oid then some (.error .genError)
    else
      match a.resolveOid values oid with
      | some (value, dataType) => some do
        let name ← (lib.objectName oid).mapError .py
        return some (name, ← toSnmpObject lib value dataType)
      | none =>
        match a.getNextOid oid with
        | .error e => some (.error (.py e))
        | .ok next => nextValue fuel next

/-- `read_next_variables` of one name. -/
def readNextVariable (fuel : ℕ) (name : List ℕ) :
    Option (Except SnmpReadError (List ℕ × SnmpResponse)) :=
  match a.getNextOid (oidString name) with
  | .error e => some (.error (.py e))
  | .ok next => (a.nextValue lib faults values fuel next).map fun result => do
    match ← result with
    | none => return (name, .endOfMibView)
    | some (next, v) => return (next, .value v)

/-- A walk of up to `rounds` requests: what it visits before the end of the view. -/
def walk (fuel : ℕ) : ℕ → List ℕ → Option (Except SnmpReadError (List (List ℕ × SnmpValue)))
  | 0, _ => none
  | rounds + 1, name =>
    match a.readNextVariable lib faults values fuel name with
    | none => none
    | some (.error e) => some (.error e)
    | some (.ok (next, .value v)) =>
      (walk fuel rounds next).map fun rest => rest.map ((next, v) :: ·)
    | some (.ok _) => some (.ok [])

end SnmpAdapter

end GhostMeter.Protocols
