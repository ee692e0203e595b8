import GhostMeter.Lib.Loop
import GhostMeter.Services.StatusAgreement
import GhostMeter.Simulation.EngineEntries

/-! The batch operations on devices: what they do to each selected device, what they count, and
that they are runs of the calls for single devices. -/

namespace GhostMeter.Services

open GhostMeter.Lib GhostMeter.Simulation GhostMeter.Protocols

/-- The result of a batch operation. -/
@[ext]
structure BatchActionResult where
  successCount : ℕ := 0
  skippedCount : ℕ := 0
  errorCount : ℕ := 0
  deriving DecidableEq

inductive BatchAction
  | start | stop | delete
  deriving DecidableEq

/-- The status of the devices that the batch skips. -/
def BatchAction.skipStatus : BatchAction → DeviceStatus
  | start => .running
  | stop => .stopped
  | delete => .running

/-- The devices of a batch that names none; a batch that deletes has to name some. -/
def BatchAction.defaultFilter : BatchAction → DeviceInstance → Bool
  | start, d => d.status = .stopped
  | stop, d => d.status ≠ .stopped
  | delete, _ => true

/-- The devices that `_batch_device_action` selects; an empty list of ids counts as none. -/
def BatchAction.selection (a : BatchAction) (db : Database) (ids : List UUID) :
    List DeviceInstance :=
  db.devices.filter fun d => if ids = [] then a.defaultFilter d else decide (d.id ∈ ids)

variable {α : Type} (methods : AdapterMethods α)

/-- `action_fn`, and whether it returned. -/
def BatchAction.actionFn (s : Backend α) (device : UUID) : BatchAction → Backend α × Bool
  | start =>
    let (s, result) := startDevice methods s device
    (s, result.isOk)
  | stop =>
    let (s, result) := stopDevice methods s device
    (s, result.isOk)
  | delete =>
    match deleteDevice s.db device with
    | .ok db => ({ s with db }, true)
    | .error _ => (s, false)

/-- A round of the loop of `_batch_device_action`: what the call raises is only logged. -/
def batchRound (a : BatchAction) (acc : Backend α × BatchActionResult) (d : DeviceInstance) :
    Backend α × BatchActionResult :=
  if d.status = a.skipStatus then
    (acc.1, { acc.2 with skippedCount := acc.2.skippedCount + 1 })
  else
    match a.actionFn methods acc.1 d.id with
    | (s, true) => (s, { acc.2 with successCount := acc.2.successCount + 1 })
    | (s, false) => (s, { acc.2 with errorCount := acc.2.errorCount + 1 })

/-- The loop over the selected rows, which come in any order. -/
def batchDeviceAction (a : BatchAction) (s : Backend α) (rows : List DeviceInstance) :
    Backend α × BatchActionResult :=
  rows.foldl (batchRound methods a) (s, {})

def batchStartDevices : Backend α → List DeviceInstance → Backend α × BatchActionResult :=
  batchDeviceAction methods .start

def batchStopDevices : Backend α → List DeviceInstance → Backend α × BatchActionResult :=
  batchDeviceAction methods .stop

def batchDeleteDevices : Backend α → List DeviceInstance → Backend α × BatchActionResult :=
  batchDeviceAction methods .delete

/-- The call for a single device that a round makes. -/
def BatchAction.event (a : BatchAction) (device : UUID) : StatusRun.StatusEvent α :=
  match a with
  | start => .startDevice device
  | stop => .stopDevice device
  | delete => .deleteDevice device

/-- The row of a device for which the call returned. -/
def BatchAction.done : BatchAction → Option DeviceInstance → Bool
  | start, row => row.any (·.status = .running)
  | stop, row => row.any (·.status = .stopped)
  | delete, row => row.isNone

/-- How the row of a selected device can end. -/
def BatchAction.Ends (a : BatchAction) (d : DeviceInstance) (row : Option DeviceInstance) : Prop :=
  match a with
  | start =>
    if d.status = .stopped then
      row = some { d with status := .running } ∨ row = some { d with status := .error }
    else row = some d
  | stop => row = some { d with status := .stopped }
  | delete => row = if d.status = .running then some d else none

/-- What a batch does: to the devices it selects, to the others, and to the counters. -/
structure BatchOutcome (a : BatchAction) (s : Backend α) (rows : List DeviceInstance)
    (s' : Backend α) (result : BatchActionResult) : Prop where
  untouched : ∀ device, (∀ d ∈ rows, d.id ≠ device) →
    s'.db.findDevice device = s.db.findDevice device
  ends : ∀ d ∈ rows, a.Ends d (s'.db.findDevice d.id)
  skipped : result.skippedCount = rows.countP (·.status = a.skipStatus)
  succeeded : result.successCount = rows.countP fun d =>
    d.status ≠ a.skipStatus ∧ a.done (s'.db.findDevice d.id)
  failed : result.errorCount = rows.countP fun d =>
    d.status ≠ a.skipStatus ∧ ¬ a.done (s'.db.findDevice d.id)

section Calls

variable {methods} {s : Backend α} {device : UUID} {d : DeviceInstance}

/-- A start of a stopped device returns or leaves it in error; no other row changes. -/
theorem startDevice_row (h : s.db.Keyed) (hd : s.db.findDevice device = some d)
    (hstatus : d.status = .stopped) :
    (startDevice methods s device).1.db =
      s.db.setStatus device
        (if (startDevice methods s device).2.isOk then .running else .error) := by
  obtain ⟨hmem, -⟩ := h.findDevice_iff.1 hd
  obtain ⟨t, ht, hid⟩ := h.deviceTemplates d hmem
  have htemplate := h.findTemplate_iff.2 ⟨ht, hid⟩
  simp only [startDevice, Database.getDeviceOr404, hd, hstatus, ne_eq, not_true_eq_false, if_false,
    Database.getTemplate, htemplate, registerDeviceRuntime]
  by_cases hrun : s.manager.isRunning = true
  · simp only [hrun, not_true_eq_false, if_false]
    rcases addToAdapter methods s d t with ⟨manager, e | u⟩
    · rfl
    · rfl
  · simp only [hrun]
    rfl

theorem startDevice_refuses (hd : s.db.findDevice device = some d) (hstatus : d.status ≠ .stopped) :
    (startDevice methods s device).1 = s ∧ (startDevice methods s device).2.isOk = false := by
  simp [startDevice, Database.getDeviceOr404, hd, hstatus, Except.isOk, Except.toBool]

theorem stopDevice_row (h : s.db.Keyed) (hd : s.db.findDevice device = some d)
    (hstatus : d.status ≠ .stopped) :
    (stopDevice methods s device).1.db = s.db.setStatus device .stopped ∧
      (stopDevice methods s device).2.isOk = true := by
  obtain ⟨hmem, -⟩ := h.findDevice_iff.1 hd
  obtain ⟨t, ht, hid⟩ := h.deviceTemplates d hmem
  have htemplate := h.findTemplate_iff.2 ⟨ht, hid⟩
  simp only [stopDevice, Database.getDeviceOr404, hd, hstatus, if_false, Backend.stopSimulation,
    Database.getTemplate, htemplate]
  split
  next => exact ⟨rfl, rfl⟩
  next => exact ⟨rfl, rfl⟩

theorem startDevice_other {k : UUID} (hne : k ≠ device) :
    (startDevice methods s device).1.db.findDevice k = s.db.findDevice k := by
  rcases startDevice_cases methods s device with ⟨hres, -⟩ | ⟨d, t, -, -, -, hres⟩
  · rw [hres]
  · rcases hres with ⟨-, hres⟩ | ⟨-, -, hres⟩ | ⟨-, -, hres⟩ <;> rw [hres]
    all_goals exact Database.findDevice_setStatus_of_ne _ hne

theorem stopDevice_other {k : UUID} (hne : k ≠ device) :
    (stopDevice methods s device).1.db.findDevice k = s.db.findDevice k := by
  rcases stopDevice_cases methods s device with ⟨hres, -⟩ | ⟨d, -, -, hres⟩
  · rw [hres]
  · rcases hres with ⟨-, -, hres⟩ | ⟨-, hres⟩ | ⟨t, -, -, hres⟩ <;> rw [hres]
    · rfl
    all_goals exact Database.findDevice_setStatus_of_ne _ hne

theorem findDevice_deleteRow {db : Database} (k : UUID) :
    (deleteRow db device).findDevice k = if k = device then none else db.findDevice k :=
  Table.find_filter (fun i => i) device

theorem actionFn_delete (hd : s.db.findDevice device = some d) (hstatus : d.status ≠ .running) :
    BatchAction.actionFn methods s device .delete =
      ({ s with db := deleteRow s.db device }, true) := by
  have hok := deleteDevice_ok_iff.2 ⟨d, hd, hstatus, rfl⟩
  simp only [BatchAction.actionFn, hok]

/-- A call touches the row of its device only. -/
theorem actionFn_other (a : BatchAction) {k : UUID} (hne : k ≠ device) :
    (a.actionFn methods s device).1.db.findDevice k = s.db.findDevice k := by
  cases a with
  | start => exact startDevice_other hne
  | stop => exact stopDevice_other hne
  | delete =>
    simp only [BatchAction.actionFn]
    cases hok : deleteDevice s.db device with
    | error e => rfl
    | ok db =>
      obtain ⟨d, -, -, rfl⟩ := deleteDevice_ok_iff.1 hok
      exact (findDevice_deleteRow k).trans (if_neg hne)

/-- What a call does to a device that the batch does not skip. -/
theorem actionFn_row (a : BatchAction) (h : s.db.Keyed) (hd : s.db.findDevice d.id = some d)
    (hstatus : d.status ≠ a.skipStatus) :
    (a.actionFn methods s d.id).1.db.Keyed ∧
      a.Ends d ((a.actionFn methods s d.id).1.db.findDevice d.id) ∧
      (a.actionFn methods s d.id).2 =
        a.done ((a.actionFn methods s d.id).1.db.findDevice d.id) := by
  cases a with
  | start =>
    simp only [BatchAction.actionFn, BatchAction.Ends, BatchAction.done]
    by_cases hstopped : d.status = .stopped
    · rw [startDevice_row h hd hstopped, Database.findDevice_setStatus_self, hd, if_pos hstopped]
      refine ⟨h.setStatus _, ?_⟩
      cases (startDevice methods s d.id).2.isOk with
      | false => exact ⟨Or.inr rfl, rfl⟩
      | true => exact ⟨Or.inl rfl, rfl⟩
    · obtain ⟨hsame, hraised⟩ := @startDevice_refuses α methods s _ d hd hstopped
      rw [hsame, hraised, hd, if_neg hstopped]
      refine ⟨h, rfl, ?_⟩
      simpa [BatchAction.skipStatus] using hstatus
  | stop =>
    obtain ⟨hdb, hok⟩ := @stopDevice_row α methods s _ d h hd hstatus
    simp only [BatchAction.actionFn, BatchAction.Ends, BatchAction.done]
    rw [hdb, hok, Database.findDevice_setStatus_self, hd]
    exact ⟨h.setStatus _, rfl, rfl⟩
  | delete =>
    rw [actionFn_delete hd hstatus]
    simp only [BatchAction.Ends, BatchAction.done, findDevice_deleteRow, if_pos]
    exact ⟨h.deleteRow, (if_neg hstatus).symm, rfl⟩

/-- What a round does to a row that is as it was selected, and to the counters. -/
structure RoundOutcome (a : BatchAction) (d : DeviceInstance)
    (acc acc' : Backend α × BatchActionResult) : Prop where
  keyed : acc'.1.db.Keyed
  ends : a.Ends d (acc'.1.db.findDevice d.id)
  skipped : acc'.2.skippedCount =
    acc.2.skippedCount + (decide (d.status = a.skipStatus)).toNat
  succeeded : acc'.2.successCount = acc.2.successCount +
    (decide (d.status ≠ a.skipStatus ∧ a.done (acc'.1.db.findDevice d.id))).toNat
  failed : acc'.2.errorCount = acc.2.errorCount +
    (decide (d.status ≠ a.skipStatus ∧ ¬ a.done (acc'.1.db.findDevice d.id))).toNat

theorem BatchAction.ends_skipped (a : BatchAction) (h : d.status = a.skipStatus) :
    a.Ends d (some d) := by
  cases a with
  | start =>
    rw [BatchAction.Ends, if_neg]
    rw [h]
    nofun
  | stop => exact congrArg some (by rw [← show d.status = .stopped from h])
  | delete => exact (if_pos h).symm

theorem batchRound_outcome (a : BatchAction) {acc : Backend α × BatchActionResult}
    (h : acc.1.db.Keyed) (hd : acc.1.db.findDevice d.id = some d) :
    RoundOutcome a d acc (batchRound methods a acc d) := by
  by_cases hskip : d.status = a.skipStatus
  · rw [batchRound, if_pos hskip]
    exact ⟨h, hd ▸ a.ends_skipped hskip, by simp [hskip], by simp [hskip], by simp [hskip]⟩
  · obtain ⟨hkeyed, hends, hdone⟩ := @actionFn_row α methods acc.1 d a h hd hskip
    rw [batchRound, if_neg hskip]
    split
    next s' hact =>
      rw [hact] at hkeyed hends hdone
      exact ⟨hkeyed, hends, by simp [hskip], by simp [hskip, ← hdone], by simp [← hdone]⟩
    next s' hact =>
      rw [hact] at hkeyed hends hdone
      exact ⟨hkeyed, hends, by simp [hskip], by simp [← hdone], by simp [hskip, ← hdone]⟩

theorem batchRound_other (a : BatchAction) (acc : Backend α × BatchActionResult) {k : UUID}
    (hne : k ≠ d.id) : (batchRound methods a acc d).1.db.findDevice k = acc.1.db.findDevice k := by
  have hcall := @actionFn_other α methods acc.1 d.id a k hne
  unfold batchRound
  split
  next => rfl
  next =>
    split
    next s' hact => exact (congrArg (·.1.db.findDevice k) hact).symm.trans hcall
    next s' hact => exact (congrArg (·.1.db.findDevice k) hact).symm.trans hcall

end Calls

section Batches

variable {s : Backend α} {rows : List DeviceInstance}

theorem BatchAction.mem_selection {a : BatchAction} {db : Database} {ids : List UUID}
    {d : DeviceInstance} (h : d ∈ a.selection db ids) : d ∈ db.devices :=
  List.mem_of_mem_filter h

/-- Rows of the table, each once. -/
structure Selected (s : Backend α) (rows : List DeviceInstance) : Prop where
  stored : ∀ d ∈ rows, s.db.findDevice d.id = some d
  once : (rows.map (·.id)).Nodup

theorem Selected.fresh {d d' : DeviceInstance} (h : Selected s (d :: rows)) (hd' : d' ∈ rows) :
    d'.id ≠ d.id := fun heq =>
  (List.nodup_cons.1 h.once).1 (List.mem_map.2 ⟨d', hd', heq⟩)

theorem Selected.tail {a : BatchAction} {acc : Backend α × BatchActionResult} {d : DeviceInstance}
    (h : Selected acc.1 (d :: rows)) : Selected (batchRound methods a acc d).1 rows where
  stored := by
    intro d' hd'
    rw [batchRound_other a acc (h.fresh hd')]
    exact h.stored d' (List.mem_cons_of_mem _ hd')
  once := (List.nodup_cons.1 h.once).2

/-- In whatever order the selected rows come. -/
theorem selected_of_perm (h : s.db.Keyed) {a : BatchAction} {ids : List UUID}
    (hrows : rows.Perm (a.selection s.db ids)) : Selected s rows where
  stored d hd := h.findDevice_iff.2 ⟨a.mem_selection (hrows.mem_iff.1 hd), rfl⟩
  once := by
    rw [(hrows.map _).nodup_iff]
    exact h.deviceIds.sublist (List.filter_sublist.map _)

/-- The loop of a batch, by what its rounds do. -/
theorem Selected.outcome (hrows : Selected s rows) (a : BatchAction) (h : s.db.Keyed) :
    BatchOutcome a s rows (batchDeviceAction methods a s rows).1
      (batchDeviceAction methods a s rows).2 := by
  let row (acc : Backend α × BatchActionResult) (device : UUID) := acc.1.db.findDevice device
  have hstored : ∀ d ∈ rows, row (s, {}) d.id = some d := hrows.stored
  have hother : ∀ acc, ∀ d ∈ rows, ∀ k ≠ d.id, row (batchRound methods a acc d) k = row acc k :=
    fun acc d _ k hne => batchRound_other a acc hne
  have hround : ∀ acc : Backend α × BatchActionResult, acc.1.db.Keyed → ∀ d ∈ rows,
      row acc d.id = some d → RoundOutcome a d acc (batchRound methods a acc d) :=
    fun acc hkeyed d _ hd => batchRound_outcome a hkeyed hd
  have hcount : ∀ (n : Backend α × BatchActionResult → ℕ)
      (p : DeviceInstance → Option DeviceInstance → Bool), n (s, {}) = 0 →
      (∀ acc d acc', RoundOutcome a d acc acc' → n acc' = n acc + (p d (row acc' d.id)).toNat) →
      n (batchDeviceAction methods a s rows) =
        rows.countP fun d => p d (row (batchDeviceAction methods a s rows) d.id) := by
    intro n p hzero hcounts
    have hcounted := foldl_keyed_count (·.id) row (n := n) (p := p) hother
      (fun acc hacc d hd hv =>
        ⟨(hround acc hacc d hd hv).keyed, hcounts acc d _ (hround acc hacc d hd hv)⟩)
      hrows.once h hstored
    rwa [hzero, Nat.zero_add] at hcounted
  constructor
  · intro device hno
    exact foldl_keyed_other (·.id) row hother (by simpa using hno)
  · exact (foldl_keyed (·.id) row hother
      (fun acc hacc d hd hv => ⟨(hround acc hacc d hd hv).keyed, (hround acc hacc d hd hv).ends⟩)
      hrows.once h hstored).2
  · exact hcount (·.2.skippedCount) (fun d _ => d.status = a.skipStatus) rfl
      fun _ _ _ hres => hres.skipped
  · exact hcount (·.2.successCount) (fun d row => d.status ≠ a.skipStatus ∧ a.done row) rfl
      fun _ _ _ hres => hres.succeeded
  · exact hcount (·.2.errorCount) (fun d row => d.status ≠ a.skipStatus ∧ ¬ a.done row) rfl
      fun _ _ _ hres => hres.failed

/-- In whatever order the selected devices come, a batch ends each of them as its action can end
it, leaves the others alone, and counts how they ended. -/
theorem batchDeviceAction_outcome (methods : AdapterMethods α) (h : s.db.Keyed) (a : BatchAction)
    {ids : List UUID} (hrows : rows.Perm (a.selection s.db ids)) :
    BatchOutcome a s rows (batchDeviceAction methods a s rows).1
      (batchDeviceAction methods a s rows).2 :=
  (selected_of_perm h hrows).outcome methods a h

open ConfigRun (oneMeter modbusMethods)

/-- Three meters, each with another status. -/
def threeMeters : Backend ModbusTcpAdapter :=
  { oneMeter with
    db := { oneMeter.db with
      devices := [⟨2, 0, "M1", 1, .stopped, 502, none⟩, ⟨3, 0, "M2", 2, .error, 502, none⟩,
        ⟨4, 0, "M3", 3, .running, 502, none⟩]
      nextId := 5 } }

theorem keyed_threeMeters : threeMeters.db.Keyed := by
  constructor <;> decide

/-- One device is started, one is refused and one is skipped. -/
theorem batchDeviceAction_outcome_started :
    BatchOutcome .start threeMeters threeMeters.db.devices.reverse
        (batchStartDevices modbusMethods threeMeters threeMeters.db.devices.reverse).1
        (batchStartDevices modbusMethods threeMeters threeMeters.db.devices.reverse).2 ∧
      (batchStartDevices modbusMethods threeMeters threeMeters.db.devices.reverse).2 =
        ⟨1, 1, 1⟩ :=
  ⟨@batchDeviceAction_outcome _ threeMeters _ modbusMethods keyed_threeMeters .start [4, 2, 3]
    (List.reverse_perm _), by decide⟩

end Batches

namespace BatchRun

open StatusRun

deriving instance DecidableEq for DeviceInstance

inductive BatchEvent (α : Type)
  | single (e : StatusEvent α)
  /-- A batch operation, with the ids it is given and the rows in the order they come. -/
  | batch (a : BatchAction) (ids : List UUID) (rows : List DeviceInstance)

variable (settings : Settings)

/-- A batch that deletes and names no device is rejected by its route. -/
def step (s : Backend α) : BatchEvent α → Option (Backend α)
  | .single e => StatusRun.step methods settings s e
  | .batch a ids rows =>
    if a = .delete ∧ ids = [] then some s
    else if rows.Perm (a.selection s.db ids) then some (batchDeviceAction methods a s rows).1
    else none

/-- No round touches what is in use, from the state that the rounds before have left. -/
def HeedsRounds (a : BatchAction) (acc : Backend α × BatchActionResult) :
    List DeviceInstance → Prop
  | [] => True
  | d :: rows => StatusRun.Heeds methods acc.1 (a.event d.id) ∧
      HeedsRounds a (batchRound methods a acc d) rows

/-- The event does not touch what is in use; a batch does not if no round does. -/
def Heeds (s : Backend α) : BatchEvent α → Prop
  | .single e => StatusRun.Heeds methods s e
  | .batch a ids rows => (a = .delete ∧ ids = []) ∨ HeedsRounds methods a (s, {}) rows

section Owned

variable {methods settings} {s s' : Backend α}

theorem owned_startDevice (h : s.engine.Owned) (device : UUID) :
    (startDevice methods s device).1.engine.Owned := by
  rcases startDevice_cases methods s device with ⟨hres, -⟩ | ⟨d, t, -, -, -, hres⟩
  · rwa [hres]
  · rcases hres with ⟨-, hres⟩ | ⟨-, -, hres⟩ | ⟨-, -, hres⟩
    · rwa [hres]
    · rwa [hres]
    · rw [hres]
      exact h.startNow _ _

theorem owned_stopDevice (h : s.engine.Owned) (device : UUID) :
    (stopDevice methods s device).1.engine.Owned := by
  rcases stopDevice_cases methods s device with ⟨hres, -⟩ | ⟨d, -, -, hres⟩
  · rwa [hres]
  · rcases hres with ⟨-, -, hres⟩ | ⟨-, hres⟩ | ⟨t, -, -, hres⟩ <;> rw [hres]
    all_goals exact h.stopNow

theorem owned_resumeDevice (h : s.engine.Owned) (d : DeviceInstance) :
    (resumeDevice methods s d).engine.Owned := by
  simp only [resumeDevice]
  split
  next => exact h
  next t _ =>
    simp only [registerDeviceRuntime]
    split
    next => exact h
    next =>
      split
      next => exact h
      next => exact h.startNow _ _

theorem owned_step (h : s.engine.Owned) {e : StatusEvent α}
    (hs : StatusRun.step methods settings s e = some s') : s'.engine.Owned := by
  have hcommit : ∀ {ε : Type} (r : Except ε Database), (commit s r).engine = s.engine := by
    intro ε r
    cases r <;> rfl
  cases e with
  | createDevice data => exact Option.some.inj hs ▸ h
  | updateDevice device data =>
    rw [← Option.some.inj hs, hcommit]
    exact h
  | startDevice device => exact Option.some.inj hs ▸ owned_startDevice h device
  | stopDevice device => exact Option.some.inj hs ▸ owned_stopDevice h device
  | deleteDevice device =>
    rw [← Option.some.inj hs, hcommit]
    exact h
  | updateTemplate template data e =>
    rw [← Option.some.inj hs, hcommit]
    exact h
  | deleteTemplate template =>
    rw [← Option.some.inj hs, hcommit]
    exact h
  | importSystem data =>
    rw [← Option.some.inj hs, hcommit]
    exact h
  | restart adapters =>
    rw [← Option.some.inj hs]
    refine foldl_invariant (P := fun _ (s : Backend α) => s.engine.Owned) ?_ ?_
    · exact fun _ d _ _ _ hs => owned_resumeDevice hs d
    · intro d t ht
      cases ht
  | engine e =>
    simp only [StatusRun.step] at hs
    split at hs
    next =>
      obtain ⟨engine, hengine, rfl⟩ := Option.map_eq_some_iff.1 hs
      exact h.step hengine
    next => cases hs

end Owned

section Calls

variable {methods} {s : Backend α} {a : BatchAction} {device k : UUID} {d : DeviceInstance}

theorem step_event (a : BatchAction) (s : Backend α) (device : UUID) :
    StatusRun.step methods settings s (a.event device) = some (a.actionFn methods s device).1 := by
  cases a with
  | start => rfl
  | stop => rfl
  | delete =>
    simp only [BatchAction.event, StatusRun.step, BatchAction.actionFn]
    cases deleteDevice s.db device <;> rfl

theorem inUse_stopDevice (howned : s.engine.Owned) (hne : k ≠ device) :
    (stopDevice methods s device).1.InUse k ↔ s.InUse k := by
  have htask : (s.stopSimulation device).1.engine.HasTask k ↔ s.engine.HasTask k :=
    howned.hasTask_stopNow_other hne
  have hremoved : ∀ p p', (s.manager.removeDevice methods p device).1.Registered p' k ↔
      s.manager.Registered p' k := fun p p' =>
    ProtocolManager.registered_removeDevice.trans
      (and_iff_left_of_imp fun _ hboth => hne hboth.2.1)
  rcases stopDevice_cases methods s device with ⟨hres, -⟩ | ⟨d, -, -, hres⟩
  · rw [hres]
  · rcases hres with ⟨-, -, hres⟩ | ⟨-, hres⟩ | ⟨t, -, -, hres⟩
    · rw [hres]
      exact or_congr Iff.rfl htask
    · rw [hres]
      exact or_congr Iff.rfl htask
    · rw [hres]
      exact or_congr (exists_congr fun p => hremoved _ p) htask

/-- A call leaves the use of the other devices as it is, but that a start may add one. -/
theorem inUse_actionFn (howned : s.engine.Owned) (ha : a ≠ .start) (hne : k ≠ device) :
    (a.actionFn methods s device).1.InUse k ↔ s.InUse k := by
  cases a with
  | start => exact absurd rfl ha
  | stop => exact inUse_stopDevice howned hne
  | delete =>
    simp only [BatchAction.actionFn]
    cases deleteDevice s.db device <;> exact Iff.rfl

/-- The device is in use, but stopped or gone. -/
def Stray (s : Backend α) (device : UUID) : Prop :=
  s.InUse device ∧ ∀ d, s.db.findDevice device = some d → d.status = .stopped

theorem Stray.not_agrees (h : Stray s device) : ¬ s.StatusAgrees := by
  intro hagrees
  obtain ⟨d, t, hd, hstatus, -⟩ := hagrees.used device h.1
  exact hstatus (h.2 d hd)

/-- A call for a device that it should not touch leaves it astray. -/
theorem stray_of_not_heeds (h : StatusRun.Inv s) (hagrees : s.StatusAgrees)
    (hd : s.db.findDevice device = some d)
    (hnot : ¬ StatusRun.Heeds methods s (a.event device)) :
    a ≠ .start ∧ d.status ≠ a.skipStatus ∧ Stray (a.actionFn methods s device).1 device := by
  cases a with
  | start => exact absurd trivial hnot
  | stop =>
    have hstatus : d.status ≠ .stopped := by
      intro hstopped
      refine hnot fun d' hd' hstatus => ?_
      obtain rfl := Option.some.inj (hd.symm.trans hd')
      exact absurd hstopped hstatus
    refine ⟨by decide, hstatus, (inUse_stopDevice_iff h hagrees hd hstatus).2 hnot, ?_⟩
    intro d' hd'
    rw [BatchAction.actionFn, (@stopDevice_row α methods s device d h.keyed hd hstatus).1,
      Database.findDevice_setStatus_self, hd] at hd'
    exact Option.some.inj hd' ▸ rfl
  | delete =>
    simp only [BatchAction.event, StatusRun.Heeds, not_forall, not_not] at hnot
    obtain ⟨d', hd', hstatus, hused⟩ := hnot
    refine ⟨by decide, ?_, ?_⟩
    · obtain rfl := Option.some.inj (hd.symm.trans hd')
      exact hstatus
    · rw [actionFn_delete hd' hstatus]
      refine ⟨hused, fun d hd => ?_⟩
      rw [findDevice_deleteRow, if_pos rfl] at hd
      cases hd

theorem Stray.actionFn (h : Stray s k) (howned : s.engine.Owned) (ha : a ≠ .start)
    (hne : k ≠ device) : Stray (a.actionFn methods s device).1 k := by
  refine ⟨(inUse_actionFn howned ha hne).2 h.1, fun d hd => h.2 d ?_⟩
  rwa [actionFn_other a hne] at hd

end Calls

section Rounds

variable {methods settings} {s s' : Backend α} {rows : List DeviceInstance} {device : UUID}
  {d : DeviceInstance}

theorem batchRound_state (a : BatchAction) (acc : Backend α × BatchActionResult) :
    (batchRound methods a acc d).1 =
      if d.status = a.skipStatus then acc.1 else (a.actionFn methods acc.1 d.id).1 := by
  unfold batchRound
  split
  next => rfl
  next =>
    split
    next s' hact => rw [hact]
    next s' hact => rw [hact]

theorem owned_actionFn (a : BatchAction) (h : s.engine.Owned) :
    (a.actionFn methods s device).1.engine.Owned :=
  owned_step h (step_event {} a s device)

/-- A device that is skipped is not touched. -/
theorem heeds_skipped (a : BatchAction) (hd : s.db.findDevice device = some d)
    (hskip : d.status = a.skipStatus) : StatusRun.Heeds methods s (a.event device) := by
  cases a with
  | start => trivial
  | stop =>
    intro d' hd' hstatus
    obtain rfl := Option.some.inj (hd.symm.trans hd')
    exact absurd hskip hstatus
  | delete =>
    intro d' hd' hstatus
    obtain rfl := Option.some.inj (hd.symm.trans hd')
    exact absurd hskip hstatus

theorem stray_rounds {a : BatchAction} (ha : a ≠ .start) {acc : Backend α × BatchActionResult}
    (howned : acc.1.engine.Owned) (h : Stray acc.1 device) (hno : ∀ d ∈ rows, d.id ≠ device) :
    Stray (rows.foldl (batchRound methods a) acc).1 device := by
  refine (foldl_invariant (g := batchRound methods a) (P := fun _ acc =>
    acc.1.engine.Owned ∧ Stray acc.1 device) ?_ ⟨howned, h⟩).2
  rintro done d rest acc rfl ⟨howned, h⟩
  have hne := hno d (List.mem_append_right _ List.mem_cons_self)
  rw [batchRound_state]
  split
  next => exact ⟨howned, h⟩
  next => exact ⟨owned_actionFn a howned, h.actionFn howned ha (Ne.symm hne)⟩

/-- The rounds of a batch keep the agreement exactly if none touches what is in use: what one
round leaves astray, the later ones do not put right. -/
theorem rounds_correct (a : BatchAction) {acc : Backend α × BatchActionResult}
    (hinv : StatusRun.Inv acc.1) (howned : acc.1.engine.Owned) (hagrees : acc.1.StatusAgrees)
    (hrows : Selected acc.1 rows) :
    (HeedsRounds methods a acc rows →
        StatusRun.Inv (rows.foldl (batchRound methods a) acc).1) ∧
      ((rows.foldl (batchRound methods a) acc).1.StatusAgrees ↔
        HeedsRounds methods a acc rows) := by
  induction rows generalizing acc with
  | nil => exact ⟨fun _ => hinv, iff_of_true hagrees trivial⟩
  | cons d rows ih =>
    have hd := hrows.stored d List.mem_cons_self
    have htail : Selected (batchRound methods a acc d).1 rows := hrows.tail methods
    have hnew : ∀ d' ∈ rows, d'.id ≠ d.id := fun d' hd' => hrows.fresh hd'
    rw [HeedsRounds, List.foldl_cons]
    by_cases hskip : d.status = a.skipStatus
    · have hsame : (batchRound methods a acc d).1 = acc.1 := by
        rw [batchRound_state, if_pos hskip]
      rw [and_iff_right (heeds_skipped a hd hskip)]
      exact ih (hsame ▸ hinv) (hsame ▸ howned) (hsame ▸ hagrees) htail
    · have hcall : (batchRound methods a acc d).1 = (a.actionFn methods acc.1 d.id).1 := by
        rw [batchRound_state, if_neg hskip]
      have hcorrect : Correct methods acc.1 (a.event d.id) (a.actionFn methods acc.1 d.id).1 :=
        hinv.step hagrees (step_event {} a acc.1 d.id)
      have howned' := @owned_actionFn α methods acc.1 d.id a howned
      by_cases hheeds : StatusRun.Heeds methods acc.1 (a.event d.id)
      · rw [and_iff_right hheeds]
        exact ih (hcall ▸ hcorrect.inv hheeds) (hcall ▸ howned')
          (hcall ▸ hcorrect.agrees.2 hheeds) htail
      · obtain ⟨ha, -, hstray⟩ := stray_of_not_heeds hinv hagrees hd hheeds
        have hend : Stray (rows.foldl (batchRound methods a) (batchRound methods a acc d)).1 d.id :=
          stray_rounds ha (hcall ▸ howned') (hcall ▸ hstray) hnew
        exact ⟨fun h => absurd h.1 hheeds, iff_of_false hend.not_agrees fun h => hheeds h.1⟩

/-- From agreement, a step keeps the invariant if its event is heeded, and then exactly it keeps
the agreement. -/
structure Correct (methods : AdapterMethods α) (s : Backend α) (e : BatchEvent α)
    (s' : Backend α) : Prop where
  inv : Heeds methods s e → StatusRun.Inv s'
  agrees : s'.StatusAgrees ↔ Heeds methods s e

theorem step_correct (hinv : StatusRun.Inv s) (howned : s.engine.Owned)
    (hagrees : s.StatusAgrees) {e : BatchEvent α} (hs : step methods settings s e = some s') :
    Correct methods s e s' := by
  cases e with
  | single e =>
    have hcorrect := hinv.step hagrees hs
    exact ⟨hcorrect.inv, hcorrect.agrees⟩
  | batch a ids rows =>
    simp only [step] at hs
    split at hs
    next hrejected =>
      obtain rfl := Option.some.inj hs
      exact ⟨fun _ => hinv, iff_of_true hagrees (Or.inl hrejected)⟩
    next haccepted =>
      split at hs
      next hperm =>
        obtain rfl := Option.some.inj hs
        have hcorrect := @rounds_correct α methods rows a (s, {}) hinv howned hagrees
          (selected_of_perm hinv.keyed hperm)
        have hsame : HeedsRounds methods a (s, {}) rows ↔ Heeds methods s (.batch a ids rows) := by
          rw [Heeds, or_iff_right haccepted]
        exact ⟨fun hheeds => hcorrect.1 (hsame.2 hheeds), hcorrect.2.trans hsame⟩
      next => cases hs

theorem owned_of_step (h : s.engine.Owned) {e : BatchEvent α}
    (hs : step methods settings s e = some s') : s'.engine.Owned := by
  cases e with
  | single e => exact owned_step h hs
  | batch a ids rows =>
    simp only [step] at hs
    split at hs
    next => exact Option.some.inj hs ▸ h
    next =>
      split at hs
      next =>
        obtain rfl := Option.some.inj hs
        refine foldl_invariant (g := batchRound methods a) (s := (s, {}))
          (P := fun _ acc => acc.1.engine.Owned) ?_ h
        intro done d rest acc _ hacc
        rw [batchRound_state]
        split
        next => exact hacc
        next => exact owned_actionFn a hacc
      next => cases hs

end Rounds

/-- A process that has just started has no entries. -/
theorem Idle.owned {s : Backend α} (h : StatusRun.Idle s) : s.engine.Owned := by
  intro d t ht
  refine absurd (Or.inr (Or.inl ?_)) (h.unused d)
  obtain ⟨state, hstate, -⟩ := Option.map_eq_some_iff.1 ht
  exact Option.isSome_iff_exists.2 ⟨state, hstate⟩

/-- In every run with batches the statuses agree with the process throughout exactly when no call
and no round of a batch touches what is in use. -/
theorem always_statusAgrees_batches_iff (methods : AdapterMethods α) (settings : Settings)
    {s : Backend α} (h : StatusRun.Idle s) (es : List (BatchEvent α)) :
    Always (step methods settings) Backend.StatusAgrees s es ↔
      EachStep (step methods settings) (fun s e _ => Heeds methods s e) s es := by
  rw [Always, and_iff_right h.agrees]
  refine eachStep_iff
    (J := fun s => (StatusRun.Inv s ∧ s.engine.Owned) ∧ s.StatusAgrees) ?_ ?_
    ⟨⟨h.inv, Idle.owned h⟩, h.agrees⟩
  · rintro s e s' ⟨⟨hinv, howned⟩, hagrees⟩ hs hheeds
    have hcorrect := step_correct hinv howned hagrees hs
    exact ⟨⟨hcorrect.inv hheeds, owned_of_step howned hs⟩, hcorrect.agrees.2 hheeds⟩
  · rintro s e s' ⟨⟨hinv, howned⟩, hagrees⟩ hs
    exact (step_correct hinv howned hagrees hs).agrees

/-- What a batch that stops every device reports, and what it leaves. -/
structure AllStopped (methods : AdapterMethods α) (s : Backend α) (rows : List DeviceInstance)
    (s' : Backend α) : Prop where
  result : (batchStopDevices methods s rows).2 =
    { successCount := s.db.devices.countP (·.status ≠ .stopped) }
  stopped : ∀ d ∈ s'.db.devices, d.status = .stopped
  unused : ∀ device, ¬ s'.InUse device

theorem stopped_of_outcome {s s' : Backend α} {rows : List DeviceInstance}
    {result : BatchActionResult} (h : BatchOutcome .stop s rows s' result) (hkeyed : s.db.Keyed)
    (hkeyed' : s'.db.Keyed) (hrows : ∀ d ∈ s.db.devices, d.status ≠ .stopped → d ∈ rows) :
    ∀ d ∈ s'.db.devices, d.status = .stopped := by
  intro d hd
  have hfound := hkeyed'.findDevice_iff.2 ⟨hd, rfl⟩
  by_cases hrow : ∃ d₀ ∈ rows, d₀.id = d.id
  · obtain ⟨d₀, hd₀, hid⟩ := hrow
    have hends := h.ends d₀ hd₀
    rw [hid, hfound] at hends
    exact Option.some.inj hends ▸ rfl
  · have hother : ∀ d₀ ∈ rows, d₀.id ≠ d.id := fun d₀ hd₀ hid => hrow ⟨d₀, hd₀, hid⟩
    rw [h.untouched d.id hother] at hfound
    by_contra hrun
    exact hother d (hrows d (hkeyed.findDevice_iff.1 hfound).1 hrun) rfl

theorem succeeded_of_outcome {s s' : Backend α} {rows : List DeviceInstance}
    {result : BatchActionResult} (h : BatchOutcome .stop s rows s' result)
    (hrows : ∀ d ∈ rows, d.status ≠ .stopped) : result = { successCount := rows.length } := by
  have hdone : ∀ d ∈ rows, BatchAction.done .stop (s'.db.findDevice d.id) = true := by
    intro d hd
    rw [show _ = some _ from h.ends d hd]
    rfl
  have hsucceeded : result.successCount = rows.length := by
    refine h.succeeded.trans (List.countP_eq_length.2 fun d hd => ?_)
    simp [hdone d hd, BatchAction.skipStatus, hrows d hd]
  have hskipped : result.skippedCount = 0 := by
    refine h.skipped.trans (List.countP_eq_zero.2 fun d hd => ?_)
    simp [BatchAction.skipStatus, hrows d hd]
  have hfailed : result.errorCount = 0 := by
    refine h.failed.trans (List.countP_eq_zero.2 fun d hd => ?_)
    simp [hdone d hd]
  exact BatchActionResult.ext hsucceeded hskipped hfailed

theorem allStopped {methods : AdapterMethods α} {settings : Settings} {s s' : Backend α}
    (hinv : StatusRun.Inv s) (hinv' : StatusRun.Inv s') (hagrees : s'.StatusAgrees)
    {rows : List DeviceInstance}
    (hs : step methods settings s (.batch .stop [] rows) = some s') :
    AllStopped methods s rows s' := by
  simp only [step, reduceCtorEq, false_and, if_false] at hs
  split at hs
  next hperm =>
    obtain rfl := Option.some.inj hs
    have houtcome := (selected_of_perm hinv.keyed hperm).outcome methods .stop hinv.keyed
    have hselected : ∀ d, d ∈ rows ↔ d ∈ s.db.devices ∧ d.status ≠ .stopped := by
      intro d
      rw [hperm.mem_iff, BatchAction.selection, List.mem_filter]
      simp [BatchAction.defaultFilter]
    have hstopped := stopped_of_outcome houtcome hinv.keyed hinv'.keyed
      fun d hd hrun => (hselected d).2 ⟨hd, hrun⟩
    have hresult := succeeded_of_outcome houtcome fun d hd => ((hselected d).1 hd).2
    refine ⟨?_, hstopped, ?_⟩
    · rw [List.countP_eq_length_filter]
      exact hresult.trans (congrArg (BatchActionResult.mk · 0 0) hperm.length_eq)
    · intro device hused
      obtain ⟨d, t, hd, hrun, -⟩ := hagrees.used device hused
      exact hrun (hstopped d (hinv'.keyed.findDevice_iff.1 hd).1)
  next => cases hs

/-- In a run that touches nothing in use, a batch that stops every device fails for none of them,
and leaves no device with a registration or a simulation. -/
theorem stopAll_unused (methods : AdapterMethods α) (settings : Settings) {s : Backend α}
    (h : StatusRun.Idle s) {es : List (BatchEvent α)}
    (hheeds : EachStep (step methods settings) (fun s e _ => Heeds methods s e) s es) :
    EachStep (step methods settings)
      (fun s e s' => ∀ rows, e = .batch .stop [] rows → AllStopped methods s rows s') s es := by
  refine EachStep.guarded (J := fun s => (StatusRun.Inv s ∧ s.engine.Owned) ∧ s.StatusAgrees) ?_
    ⟨⟨h.inv, Idle.owned h⟩, h.agrees⟩ hheeds
  rintro s e s' ⟨⟨hinv, howned⟩, hagrees⟩ hs hguard
  have hcorrect := step_correct hinv howned hagrees hs
  have hinv' := hcorrect.inv hguard
  have hagrees' := hcorrect.agrees.2 hguard
  refine ⟨⟨⟨hinv', owned_of_step howned hs⟩, hagrees'⟩, ?_⟩
  rintro rows rfl
  exact allStopped hinv hinv' hagrees' hs

open ConfigRun (oneMeter modbusMethods)

/-- The running meter is stopped with all the others. -/
def startThenStopAll : List (BatchEvent ModbusTcpAdapter) :=
  [.single (.startDevice 2),
    .batch .stop [] (startDevice modbusMethods oneMeter 2).1.db.devices]

theorem always_statusAgrees_batches_meter :
    StatusRun.Idle oneMeter ∧
      (Always (step modbusMethods {}) Backend.StatusAgrees oneMeter startThenStopAll ↔
        EachStep (step modbusMethods {}) (fun s e _ => Heeds modbusMethods s e) oneMeter
          startThenStopAll) :=
  ⟨idle_oneMeter, always_statusAgrees_batches_iff modbusMethods {} idle_oneMeter _⟩

theorem stopAll_unused_meter :
    EachStep (step modbusMethods {})
      (fun s e s' => ∀ rows, e = .batch .stop [] rows → AllStopped modbusMethods s rows s')
      oneMeter startThenStopAll := by
  refine stopAll_unused modbusMethods {} idle_oneMeter ?_
  rintro s₁ ⟨⟩
  refine ⟨trivial, fun s₂ _ => ⟨Or.inr ⟨?_, trivial⟩, trivial⟩⟩
  rintro d - -
  constructor
  · rintro t ⟨task, htask, -⟩
    cases htask
  · exact fun t _ a ha _ => rfl

end BatchRun

end GhostMeter.Services
