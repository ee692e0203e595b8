import GhostMeter.Exceptions
import GhostMeter.Lib.Dict
import Mathlib.Data.List.DropRight

/-! The tracker of client writes: a bounded buffer and an unread count for each device, against
the log of everything that was done to it. -/

namespace GhostMeter.Simulation

open GhostMeter.Lib

/-- `MAX_EVENTS_PER_DEVICE`. -/
def maxEventsPerDevice : ℕ := 50

/-- `_buffers` and `_unread`; nothing looks into an event. -/
structure WriteTracker (ε : Type) where
  buffers : Dict UUID (List ε) := Dict.empty
  unread : Dict UUID ℕ := Dict.empty

namespace WriteTracker

variable {ε : Type} (t : WriteTracker ε) (device : UUID)

/-- The deque drops its oldest event when it is full. -/
def record (event : ε) : WriteTracker ε :=
  let events := (t.buffers device).getD [] ++ [event]
  { buffers := t.buffers.set device (events.drop (events.length - maxEventsPerDevice))
    unread := t.unread.set device ((t.unread device).getD 0 + 1) }

def getEvents : List ε :=
  match t.buffers device with
  | some buf => buf.reverse
  | none => []

def getUnreadCount : ℕ := (t.unread device).getD 0

def latest : Option ε := (t.buffers device).bind List.getLast?

def markRead : WriteTracker ε := { t with unread := t.unread.set device 0 }

def clear : WriteTracker ε := ⟨t.buffers.pop device, t.unread.pop device⟩

def clearAll (_t : WriteTracker ε) : WriteTracker ε := ⟨Dict.empty, Dict.empty⟩

end WriteTracker

inductive WriteOp (ε : Type)
  | record (device : UUID) (event : ε)
  | markRead (device : UUID)
  | clear (device : UUID)
  | clearAll

variable {ε : Type}

def WriteTracker.apply (t : WriteTracker ε) : WriteOp ε → WriteTracker ε
  | .record device event => t.record device event
  | .markRead device => t.markRead device
  | .clear device => t.clear device
  | .clearAll => t.clearAll

/-- A tracker from its start on. -/
def WriteTracker.run (ops : List (WriteOp ε)) : WriteTracker ε := ops.foldl apply {}

namespace WriteOp

variable (d : UUID)

/-- The device that an operation is on. -/
def device : WriteOp ε → Option UUID
  | record device _ => some device
  | markRead device => some device
  | clear device => some device
  | clearAll => none

/-- The event that an operation records of the device. -/
def recorded : WriteOp ε → Option ε
  | record device event => if device = d then some event else none
  | _ => none

def clears : WriteOp ε → Bool
  | clear device => device = d
  | clearAll => true
  | _ => false

def marksRead : WriteOp ε → Bool
  | markRead device => device = d
  | _ => false

/-- The records of the device since the last operation that stops, oldest first. -/
def recordsSince (stop : WriteOp ε → Bool) (ops : List (WriteOp ε)) : List ε :=
  (ops.rtakeWhile fun op => !stop op).filterMap (recorded d)

/-- The records of the device since it was last cleared. -/
def log (ops : List (WriteOp ε)) : List ε := recordsSince d (clears d) ops

/-- Those that nobody has read. -/
def unreadLog (ops : List (WriteOp ε)) : List ε :=
  recordsSince d (fun op => op.clears d || op.marksRead d) ops

variable {d} {stop : WriteOp ε → Bool} {ops : List (WriteOp ε)} {op : WriteOp ε}

theorem recordsSince_concat :
    recordsSince d stop (ops ++ [op]) =
      if stop op then [] else recordsSince d stop ops ++ (op.recorded d).toList := by
  rw [recordsSince, List.rtakeWhile_concat]
  cases hstop : stop op with
  | true => rfl
  | false =>
    cases hrec : op.recorded d with
    | none => simp [hrec, recordsSince]
    | some event => simp [hrec, recordsSince]

end WriteOp

namespace WriteTracker

open WriteOp

variable {d : UUID} {t : WriteTracker ε} {op : WriteOp ε} {ops : List (WriteOp ε)}

/-- What an operation makes of the buffer of any device. -/
theorem buffers_apply :
    ((t.apply op).buffers d).getD [] =
      if op.clears d then []
      else match op.recorded d with
        | some event => ((t.buffers d).getD [] ++ [event]).rtake maxEventsPerDevice
        | none => (t.buffers d).getD [] := by
  cases op with
  | record device event =>
    by_cases hd : device = d
    · subst hd
      simp [apply, record, recorded, clears, List.rtake]
    · simp [apply, record, recorded, clears, hd, Dict.set_of_ne _ _ (Ne.symm hd)]
  | markRead device => rfl
  | clear device =>
    by_cases hd : device = d
    · subst hd
      simp [apply, clear, clears]
    · simp [apply, clear, recorded, clears, hd, Dict.pop_of_ne _ (Ne.symm hd)]
  | clearAll => rfl

theorem unread_apply :
    ((t.apply op).unread d).getD 0 =
      if op.clears d || op.marksRead d then 0
      else (t.unread d).getD 0 + (op.recorded d).toList.length := by
  cases op with
  | record device event =>
    by_cases hd : device = d
    · subst hd
      simp [apply, record, recorded, clears, marksRead]
    · simp [apply, record, recorded, clears, marksRead, hd, Dict.set_of_ne _ _ (Ne.symm hd)]
  | markRead device =>
    by_cases hd : device = d
    · subst hd
      simp [apply, markRead, clears, marksRead]
    · simp [apply, markRead, recorded, clears, marksRead, hd, Dict.set_of_ne _ _ (Ne.symm hd)]
  | clear device =>
    by_cases hd : device = d
    · subst hd
      simp [apply, clear, clears]
    · simp [apply, clear, recorded, clears, marksRead, hd, Dict.pop_of_ne _ (Ne.symm hd)]
  | clearAll => rfl

/-- The tracker holds of the device the last events of a log, and the length of another. -/
structure Tracks (t : WriteTracker ε) (d : UUID) (log unreadLog : List ε) : Prop where
  buffer : (t.buffers d).getD [] = log.rtake maxEventsPerDevice
  count : (t.unread d).getD 0 = unreadLog.length

/-- A bounded buffer that has dropped events is as good as the whole log. -/
theorem rtake_rtake_concat {n : ℕ} (log : List ε) (event : ε) :
    (log.rtake n ++ [event]).rtake n = (log ++ [event]).rtake n := by
  cases n with
  | zero => simp
  | succ n =>
    rw [List.rtake_concat_succ, List.rtake_concat_succ]
    simp [List.rtake_eq_reverse_take_reverse, List.take_take]

theorem Tracks.apply (h : t.Tracks d (log d ops) (unreadLog d ops)) :
    (t.apply op).Tracks d (log d (ops ++ [op])) (unreadLog d (ops ++ [op])) := by
  constructor
  · rw [buffers_apply, log, recordsSince_concat, ← log, h.buffer]
    cases hclears : op.clears d with
    | true => rfl
    | false =>
      cases op.recorded d with
      | none => simp
      | some event => simpa using rtake_rtake_concat _ event
  · rw [unread_apply, unreadLog, recordsSince_concat, ← unreadLog, h.count]
    split
    next => rfl
    next => rw [List.length_append]

theorem tracks_run (ops : List (WriteOp ε)) (d : UUID) :
    (run ops).Tracks d (log d ops) (unreadLog d ops) := by
  induction ops using List.reverseRecOn with
  | nil => exact ⟨rfl, rfl⟩
  | append_singleton ops op ih =>
    rw [run, List.foldl_append]
    exact ih.apply

theorem getEvents_eq (t : WriteTracker ε) (d : UUID) :
    t.getEvents d = ((t.buffers d).getD []).reverse := by
  unfold getEvents
  cases t.buffers d with
  | none => rfl
  | some buf => rfl

theorem latest_eq (t : WriteTracker ε) (d : UUID) : t.latest d = (t.getEvents d).head? := by
  rw [getEvents_eq, List.head?_reverse, latest]
  cases t.buffers d with
  | none => rfl
  | some buf => rfl

/-- An operation on one device leaves the answers for another. -/
theorem answers_apply {device : UUID} (hop : op.device = some device) (hd : d ≠ device) :
    (t.apply op).getEvents d = t.getEvents d ∧ (t.apply op).latest d = t.latest d ∧
      (t.apply op).getUnreadCount d = t.getUnreadCount d := by
  have hother : op.clears d = false ∧ op.marksRead d = false ∧ op.recorded d = none := by
    cases op <;> cases hop <;> simp [clears, marksRead, recorded, hd.symm]
  obtain ⟨hclears, hmarks, hrecorded⟩ := hother
  have hevents : (t.apply op).getEvents d = t.getEvents d := by
    rw [getEvents_eq, getEvents_eq, buffers_apply, hclears, hrecorded]
    rfl
  refine ⟨hevents, by rw [latest_eq, latest_eq, hevents], ?_⟩
  rw [getUnreadCount, unread_apply, hclears, hmarks, hrecorded]
  rfl

/-- The tracker's answers, after any operations, are those of the log. -/
theorem run_refines_log (ops : List (WriteOp ε)) (d : UUID) :
    (run ops).getEvents d = (log d ops).reverse.take maxEventsPerDevice ∧
      (run ops).latest d = ((run ops).getEvents d).head? ∧
      (run ops).getUnreadCount d = (unreadLog d ops).length ∧
      ∀ op device, op.device = some device → d ≠ device →
        (run (ops ++ [op])).getEvents d = (run ops).getEvents d ∧
        (run (ops ++ [op])).latest d = (run ops).latest d ∧
        (run (ops ++ [op])).getUnreadCount d = (run ops).getUnreadCount d := by
  have h := tracks_run ops d
  have hevents : (run ops).getEvents d = (log d ops).reverse.take maxEventsPerDevice := by
    rw [getEvents_eq, h.buffer, List.rtake_eq_reverse_take_reverse, List.reverse_reverse]
  refine ⟨hevents, latest_eq _ _, h.count, fun op device hop hd => ?_⟩
  rw [run, List.foldl_append]
  exact answers_apply hop hd

end WriteTracker

end GhostMeter.Simulation
