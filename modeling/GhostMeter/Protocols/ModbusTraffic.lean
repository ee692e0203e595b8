import GhostMeter.Lib.Loop
import GhostMeter.Protocols.ModbusRestore

/-! The requests of Modbus clients: what the server traces of each, and which of them it
answers, in every order of requests, responses, and faults set and cleared. -/

namespace GhostMeter.Protocols

open GhostMeter.Lib GhostMeter.Simulation

structure ModbusPdu where
  devId : ℤ
  transactionId : ℕ
  functionCode : ℕ
  deriving DecidableEq

inductive ModbusResponse
  | answer
  /-- An `ExceptionResponse`, with the code of the fault. -/
  | exception (code : Json)

/-- The adapter with the faults that its trace function asks for. -/
structure ModbusServer where
  run : ModbusRun
  faults : FaultSimulator := Dict.empty
  requestStartTimes : Dict ℕ ℚ := Dict.empty

namespace ModbusServer

def deviceStats (s : ModbusServer) : Dict UUID DeviceStats := s.run.adapter.deviceStats

def slaveToDevice (s : ModbusServer) : Dict ℤ UUID := s.run.adapter.state.slaveToDevice

/-- The statistics of the device, if it has any, are updated. -/
def count (s : ModbusServer) (device : UUID) (f : DeviceStats → DeviceStats) : ModbusServer :=
  { s with run.adapter.deviceStats := s.run.adapter.deviceStats.modify device f }

def countRequest (s : ModbusServer) (device : UUID) : ModbusServer :=
  s.count device fun st => { st with requestCount := st.requestCount + 1 }

def countError (s : ModbusServer) (device : UUID) : ModbusServer :=
  s.count device fun st => { st with errorCount := st.errorCount + 1 }

/-- A response is a success only if the start of its request is known. -/
def countSuccess (s : ModbusServer) (device : UUID) (start : Option ℚ) (now : ℚ) :
    ModbusServer :=
  match start with
  | none => s
  | some start => s.count device fun st => { st with
      successCount := st.successCount + 1
      totalResponseMs := st.totalResponseMs + (now - start) * 1000 }

def suppressSlave (s : ModbusServer) (slave : ℤ) : ModbusServer :=
  let (state, restore) := s.run.adapter.state.suppressSlave slave
  { s with run := {
      adapter := { s.run.adapter with state }
      pending := s.run.pending ++ restore.toList } }

/-- Whether the fault of the device drops a request, with the drawn `random.random()`. -/
def faultDrops (s : ModbusServer) (device : UUID) (random : PyFloat) : Except PyError Bool :=
  match s.faults.getFault device with
  | none => .ok false
  | some fault =>
    match fault.faultType with
    | .timeout => .ok true
    | .intermittent => do return random.lt (← getFailureRate fault.params)
    | _ => .ok false

/-- `trace_pdu` of an incoming request, and whether its fault drops it. -/
def traceRequest (s : ModbusServer) (pdu : ModbusPdu) (now : ℚ) (random : PyFloat) :
    ModbusServer × Except PyError Bool :=
  match s.slaveToDevice pdu.devId with
  | none => (s, .ok false)
  | some device =>
    let s := { s with requestStartTimes := s.requestStartTimes.set pdu.transactionId now }
    let s := s.countRequest device
    match s.faultDrops device random with
    | .ok true => ((s.suppressSlave pdu.devId).countError device, .ok true)
    | result => (s, result)

/-- `trace_pdu` of an outgoing response. -/
def traceResponse (s : ModbusServer) (pdu : ModbusPdu) (now : ℚ) :
    ModbusServer × Except PyError ModbusResponse :=
  match s.slaveToDevice pdu.devId with
  | none => (s, .ok .answer)
  | some device =>
    let start := s.requestStartTimes pdu.transactionId
    let s := { s with requestStartTimes := s.requestStartTimes.pop pdu.transactionId }
    let answered := (s.countSuccess device start now, Except.ok ModbusResponse.answer)
    match s.faults.getFault device with
    | none => answered
    | some fault =>
      match fault.faultType with
      | .delay =>
        match getDelaySeconds fault.params with
        | .error e => (s, .error e)
        | .ok _ => answered
      | .exception =>
        (s.countError device, .ok (.exception (fault.params.getD "exception_code" (.int 4))))
      | _ => answered

end ModbusServer

namespace ModbusServer

variable {s : ModbusServer} {device d : UUID} {pdu : ModbusPdu} {now : ℚ} {random : PyFloat}

@[simp] theorem deviceStats_suppressSlave (slave : ℤ) :
    (s.suppressSlave slave).deviceStats = s.deviceStats := rfl

@[simp] theorem slaveToDevice_suppressSlave (slave : ℤ) :
    (s.suppressSlave slave).slaveToDevice = s.slaveToDevice := by
  simp only [slaveToDevice, suppressSlave, ModbusTcpAdapter.suppressSlave]
  split <;> rfl

@[simp] theorem requestStartTimes_suppressSlave (slave : ℤ) :
    (s.suppressSlave slave).requestStartTimes = s.requestStartTimes := rfl

variable (now) in
/-- What the trace of a request of a registered device leaves. -/
theorem traceRequest_registered (hdevice : s.slaveToDevice pdu.devId = some device)
    {dropped : Bool} (hdrops : s.faultDrops device random = .ok dropped) :
    ∃ s', s.traceRequest pdu now random = (s', .ok dropped) ∧
      s'.slaveToDevice = s.slaveToDevice ∧
      s'.requestStartTimes = s.requestStartTimes.set pdu.transactionId now ∧
      s'.deviceStats = s.deviceStats.modify device fun st => { st with
        requestCount := st.requestCount + 1
        errorCount := st.errorCount + if dropped then 1 else 0 } := by
  have hdrops' : faultDrops (countRequest { s with
      requestStartTimes := s.requestStartTimes.set pdu.transactionId now } device) device random =
      .ok dropped := hdrops
  simp only [traceRequest, hdevice, hdrops']
  cases dropped with
  | false => exact ⟨_, rfl, rfl, rfl, rfl⟩
  | true =>
    refine ⟨_, rfl, slaveToDevice_suppressSlave _, rfl, ?_⟩
    funext d
    simp only [deviceStats, countError, countRequest, count, suppressSlave, Dict.modify_apply]
    split
    · rename_i h
      subst h
      cases s.run.adapter.deviceStats d <;> rfl
    · rfl

/-- The delay of a response, if the device's fault is one, can be computed. -/
def Responds (s : ModbusServer) (device : UUID) : Prop :=
  ∀ fault, s.faults.getFault device = some fault → fault.faultType = .delay →
    ∃ seconds, getDelaySeconds fault.params = .ok seconds

variable (now) in
/-- What the trace of the response to a request of known start leaves: one more count. -/
theorem traceResponse_registered (hdevice : s.slaveToDevice pdu.devId = some device)
    (hstart : (s.requestStartTimes pdu.transactionId).isSome) (hresponds : s.Responds device) :
    ∃ s' response f, s.traceResponse pdu now = (s', .ok response) ∧
      s'.slaveToDevice = s.slaveToDevice ∧
      s'.requestStartTimes = s.requestStartTimes.pop pdu.transactionId ∧
      s'.deviceStats = s.deviceStats.modify device f ∧
      ∀ st, (f st).requestCount = st.requestCount ∧
        (f st).successCount + (f st).errorCount = st.successCount + st.errorCount + 1 := by
  obtain ⟨start, hstart⟩ := Option.isSome_iff_exists.1 hstart
  set answered := (countSuccess { s with
    requestStartTimes := s.requestStartTimes.pop pdu.transactionId } device (some start) now,
    (.ok .answer : Except PyError ModbusResponse)) with hanswered
  have hsuccess : ∃ s' response f, answered = (s', .ok response) ∧
      s'.slaveToDevice = s.slaveToDevice ∧
      s'.requestStartTimes = s.requestStartTimes.pop pdu.transactionId ∧
      s'.deviceStats = s.deviceStats.modify device f ∧
      ∀ st, (f st).requestCount = st.requestCount ∧
        (f st).successCount + (f st).errorCount = st.successCount + st.errorCount + 1 :=
    ⟨_, _, _, rfl, rfl, rfl, rfl, fun st => ⟨rfl, Nat.add_right_comm ..⟩⟩
  simp only [traceResponse, hdevice, hstart, ← hanswered]
  cases hfault : s.faults.getFault device with
  | none => exact hsuccess
  | some fault =>
    cases htype : fault.faultType with
    | delay =>
      obtain ⟨seconds, hseconds⟩ := hresponds fault hfault htype
      simpa only [htype, hseconds] using hsuccess
    | exception =>
      simp only [htype]
      exact ⟨_, _, _, rfl, rfl, rfl, rfl, fun st => ⟨rfl, rfl⟩⟩
    | _ => simpa only [htype] using hsuccess

/-- A request that is not dropped leaves the slaves alone. -/
theorem run_traceRequest {s' : ModbusServer}
    (h : s.traceRequest pdu now random = (s', .ok false)) :
    s'.run.adapter.state = s.run.adapter.state ∧ s'.run.pending = s.run.pending := by
  unfold traceRequest at h
  split at h
  next =>
    cases h
    exact ⟨rfl, rfl⟩
  next =>
    simp only at h
    split at h
    next => cases h
    next =>
      obtain ⟨rfl, -⟩ := Prod.mk.inj h
      exact ⟨rfl, rfl⟩

theorem run_traceResponse {s' : ModbusServer} {response : Except PyError ModbusResponse}
    (h : s.traceResponse pdu now = (s', response)) :
    s'.run.adapter.state = s.run.adapter.state ∧ s'.run.pending = s.run.pending := by
  have hsuccess : ∀ (s : ModbusServer) (device : UUID) (start : Option ℚ),
      (s.countSuccess device start now).run.adapter.state = s.run.adapter.state ∧
        (s.countSuccess device start now).run.pending = s.run.pending := by
    intro s device start
    cases start with
    | none => exact ⟨rfl, rfl⟩
    | some start => exact ⟨rfl, rfl⟩
  unfold traceResponse at h
  split at h
  next =>
    cases h
    exact ⟨rfl, rfl⟩
  next device _ =>
    simp only at h
    split at h
    next =>
      cases h
      exact hsuccess _ _ _
    next =>
      split at h
      next =>
        split at h
        next =>
          cases h
          exact ⟨rfl, rfl⟩
        next =>
          cases h
          exact hsuccess _ _ _
      next =>
        cases h
        exact ⟨rfl, rfl⟩
      next =>
        cases h
        exact hsuccess _ _ _

end ModbusServer

/-- A request of a client, and whether its own fault decision drops it. -/
structure ModbusRequest where
  connection : ℕ
  pdu : ModbusPdu
  dropped : Bool
  deriving DecidableEq

/-- The server with the requests in flight: those whose slave it has yet to look for, and those
whose slave it has found. -/
structure ModbusTraffic where
  server : ModbusServer
  arrived : List ModbusRequest := []
  found : List ModbusRequest := []
  unanswered : List ModbusRequest := []

inductive TrafficEvent
  | request (connection : ℕ) (pdu : ModbusPdu) (now : ℚ) (random : PyFloat)
  | lookup (i : ℕ)
  | respond (i : ℕ) (now : ℚ)
  | restore (i : ℕ)
  | setFault (device : UUID) (config : FaultConfig)
  | clearFault (device : UUID)

namespace ModbusTraffic

def inFlight (s : ModbusTraffic) : List ModbusRequest := s.arrived ++ s.found

/-- A request whose slave is missing is dropped, and one whose trace raises gets no response. -/
def step (s : ModbusTraffic) : TrafficEvent → Option ModbusTraffic
  | .request connection pdu now random =>
    if (s.server.slaveToDevice pdu.devId).isSome then
      match s.server.traceRequest pdu now random with
      | (server, .ok dropped) =>
        some { s with server, arrived := s.arrived ++ [⟨connection, pdu, dropped⟩] }
      | (server, .error _) =>
        some { s with server, unanswered := s.unanswered ++ [⟨connection, pdu, false⟩] }
    else none
  | .lookup i => s.arrived[i]?.map fun r =>
    if (s.server.run.adapter.state.served r.pdu.devId).isSome then
      { s with arrived := s.arrived.eraseIdx i, found := s.found ++ [r] }
    else { s with arrived := s.arrived.eraseIdx i, unanswered := s.unanswered ++ [r] }
  | .respond i now => s.found[i]?.map fun r =>
    match s.server.traceResponse r.pdu now with
    | (server, .ok _) => { s with server, found := s.found.eraseIdx i }
    | (server, .error _) =>
      { s with server, found := s.found.eraseIdx i, unanswered := s.unanswered ++ [r] }
  | .restore i => (s.server.run.step (.restore i)).map fun run => { s with server.run := run }
  | .setFault device config =>
    some { s with server.faults := s.server.faults.setFault device config }
  | .clearFault device => some { s with server.faults := s.server.faults.clearFault device }

/-- A server just started, and the devices then added to it. -/
def serving (devices : List (UUID × ℤ × List RegisterInfo)) : ModbusTraffic where
  server.run.adapter := devices.foldl (fun a (device, slave, registers) =>
    (a.addDevice ModbusTcpAdapter.doAddDevice device slave registers).1) ModbusRun.started.adapter

/-- Only a request that its own fault decision drops goes unanswered; and when none is in flight,
the counts of every device add up. -/
structure Balanced (s : ModbusTraffic) : Prop where
  answered : ∀ r ∈ s.unanswered, r.dropped = true
  balanced : s.inFlight = [] → ∀ device stats, s.server.deviceStats device = some stats →
    stats.requestCount = stats.successCount + stats.errorCount

/-- Moreover, no start time is left then. -/
structure Accounts (s : ModbusTraffic) : Prop extends Balanced s where
  cleared : s.inFlight = [] → s.server.requestStartTimes = Dict.empty

/-- The requests in flight whose errors are still to be counted, by device. -/
def openRequests (server : ModbusServer) (flight : List ModbusRequest) (device : UUID) : ℕ :=
  flight.countP fun r => server.slaveToDevice r.pdu.devId = some device ∧ r.dropped = false

/-- The books of the server for the requests in flight: each not dropped has a start time of its
own, and counts up to one of its device still to come. -/
structure Tallied (server : ModbusServer) (flight : List ModbusRequest) : Prop where
  registered : ∀ r ∈ flight, (server.slaveToDevice r.pdu.devId).isSome
  started : ∀ r ∈ flight, r.dropped = false →
    (server.requestStartTimes r.pdu.transactionId).isSome
  distinct : (flight.map (·.pdu.transactionId)).Nodup
  balance : ∀ device stats, server.deviceStats device = some stats →
    stats.requestCount = stats.successCount + stats.errorCount + openRequests server flight device

section Tallied

variable {server server' : ModbusServer} {flight flight' : List ModbusRequest} {r : ModbusRequest}

theorem Tallied.perm (h : Tallied server flight) (hp : flight.Perm flight') :
    Tallied server flight' where
  registered r hr := h.registered r (hp.mem_iff.2 hr)
  started r hr := h.started r (hp.mem_iff.2 hr)
  distinct := (hp.map _).nodup_iff.1 h.distinct
  balance device stats hstats := by
    rw [h.balance device stats hstats, openRequests, hp.countP_eq, openRequests]

theorem Tallied.congr (h : Tallied server flight)
    (hslaves : server'.slaveToDevice = server.slaveToDevice)
    (hstarts : server'.requestStartTimes = server.requestStartTimes)
    (hstats : server'.deviceStats = server.deviceStats) : Tallied server' flight where
  registered := hslaves ▸ h.registered
  started := hstarts ▸ h.started
  distinct := h.distinct
  balance device stats hd := by
    simp only [openRequests, hslaves]
    exact h.balance device stats (hstats ▸ hd)

/-- A dropped request goes: it was counted when it came. -/
theorem Tallied.drop (h : Tallied server (r :: flight)) (hr : r.dropped = true) :
    Tallied server flight where
  registered r' hr' := h.registered r' (List.mem_cons_of_mem _ hr')
  started r' hr' := h.started r' (List.mem_cons_of_mem _ hr')
  distinct := (List.nodup_cons.1 h.distinct).2
  balance device stats hstats := by
    rw [h.balance device stats hstats, openRequests, List.countP_cons_of_neg (by simp [hr]),
      openRequests]

theorem Tallied.request (h : Tallied server flight) (connection : ℕ) {pdu : ModbusPdu} (now : ℚ)
    {random : PyFloat} {device : UUID} {dropped : Bool}
    (hdevice : server.slaveToDevice pdu.devId = some device)
    (hfresh : ∀ r ∈ flight, r.pdu.transactionId ≠ pdu.transactionId)
    (hdrops : server.faultDrops device random = .ok dropped) :
    ∃ server', server.traceRequest pdu now random = (server', .ok dropped) ∧
      server'.slaveToDevice = server.slaveToDevice ∧
      server'.requestStartTimes = server.requestStartTimes.set pdu.transactionId now ∧
      Tallied server' (⟨connection, pdu, dropped⟩ :: flight) := by
  obtain ⟨server', htrace, hslaves, hstarts, hstats⟩ :=
    ModbusServer.traceRequest_registered now hdevice hdrops
  refine ⟨server', htrace, hslaves, hstarts, ?_, ?_, ?_, ?_⟩
  · rw [hslaves]
    intro r hr
    rcases List.mem_cons.1 hr with rfl | hr
    · simp [hdevice]
    · exact h.registered r hr
  · rw [hstarts]
    intro r hr hdropped
    rcases List.mem_cons.1 hr with rfl | hr
    · simp
    · rw [Dict.set_of_ne _ _ (hfresh r hr)]
      exact h.started r hr hdropped
  · refine List.nodup_cons.2 ⟨fun hmem => ?_, h.distinct⟩
    obtain ⟨r, hr, heq⟩ := List.mem_map.1 hmem
    exact hfresh r hr heq
  · intro d stats hd
    rw [hstats, Dict.modify_apply] at hd
    simp only [openRequests, hslaves]
    split at hd
    next heq =>
      subst heq
      obtain ⟨st, hst, rfl⟩ := Option.map_eq_some_iff.1 hd
      have := h.balance d st hst
      simp only [openRequests] at this
      cases dropped with
      | false =>
        rw [List.countP_cons_of_pos (by simp [hdevice])]
        simp only [Bool.false_eq_true, if_false]
        omega
      | true =>
        rw [List.countP_cons_of_neg (by simp)]
        simp only [if_true]
        omega
    next hne =>
      rw [List.countP_cons_of_neg (by simp [hdevice, Ne.symm hne])]
      exact h.balance d stats hd

theorem Tallied.respond (h : Tallied server (r :: flight)) (now : ℚ) (hr : r.dropped = false)
    (hresponds : ∀ device, server.slaveToDevice r.pdu.devId = some device →
      server.Responds device) :
    ∃ server' response, server.traceResponse r.pdu now = (server', .ok response) ∧
      server'.requestStartTimes = server.requestStartTimes.pop r.pdu.transactionId ∧
      Tallied server' flight := by
  obtain ⟨device, hdevice⟩ := Option.isSome_iff_exists.1 (h.registered r (by simp))
  obtain ⟨server', response, f, htrace, hslaves, hstarts, hstats, hf⟩ :=
    ModbusServer.traceResponse_registered now hdevice (h.started r (by simp) hr)
      (hresponds device hdevice)
  obtain ⟨hfresh, hdistinct⟩ := List.nodup_cons.1 h.distinct
  refine ⟨server', response, htrace, hstarts, ?_, ?_, hdistinct, ?_⟩
  · rw [hslaves]
    exact fun r' hr' => h.registered r' (List.mem_cons_of_mem _ hr')
  · rw [hstarts]
    intro r' hr' hdropped
    rw [Dict.pop_of_ne _ fun heq => hfresh (List.mem_map.2 ⟨r', hr', heq⟩)]
    exact h.started r' (List.mem_cons_of_mem _ hr') hdropped
  · intro d stats hd
    rw [hstats, Dict.modify_apply] at hd
    simp only [openRequests, hslaves]
    split at hd
    next heq =>
      subst heq
      obtain ⟨st, hst, rfl⟩ := Option.map_eq_some_iff.1 hd
      have hbalance := h.balance d st hst
      rw [openRequests, List.countP_cons_of_pos (by simp [hdevice, hr])] at hbalance
      have := hf st
      omega
    next hne =>
      have hbalance := h.balance d stats hd
      rwa [openRequests, List.countP_cons_of_neg (by simp [hdevice, Ne.symm hne])] at hbalance

end Tallied

/-- A request that comes in carries the transaction id of none in flight. -/
def NewId (s : ModbusTraffic) (e : TrafficEvent) : Prop :=
  ∀ connection pdu now random, e = .request connection pdu now random →
    ∀ r ∈ s.inFlight, r.pdu.transactionId ≠ pdu.transactionId

/-- The fault of a request's device decides as `P` says. -/
def Decides (P : Bool → Prop) (s : ModbusTraffic) (e : TrafficEvent) : Prop :=
  ∀ connection pdu now random, e = .request connection pdu now random →
    ∀ device, s.server.slaveToDevice pdu.devId = some device →
      ∃ dropped, s.server.faultDrops device random = .ok dropped ∧ P dropped

/-- The server finds the slave of exactly the requests that are not dropped. -/
def FindsOwn (s : ModbusTraffic) (e : TrafficEvent) : Prop :=
  ∀ i r, e = .lookup i → s.arrived[i]? = some r →
    ((s.server.run.adapter.state.served r.pdu.devId).isSome ↔ r.dropped = false)

/-- A response is not kept from going out by a delay that cannot be computed. -/
def Replies (s : ModbusTraffic) (e : TrafficEvent) : Prop :=
  ∀ i now r, e = .respond i now → s.found[i]? = some r →
    ∀ device, s.server.slaveToDevice r.pdu.devId = some device → s.server.Responds device

/-- The invariant of the runs in which every request meets the fate that its own fault decides. -/
structure Inv (s : ModbusTraffic) : Prop where
  answered : ∀ r ∈ s.unanswered, r.dropped = true
  kept : ∀ r ∈ s.found, r.dropped = false
  tallied : Tallied s.server s.inFlight

variable {s s' : ModbusTraffic} {e : TrafficEvent}

theorem perm_cons_eraseIdx {l : List ModbusRequest} {i : ℕ} {r : ModbusRequest}
    (h : l[i]? = some r) : l.Perm (r :: l.eraseIdx i) := by
  obtain ⟨hi, rfl⟩ := List.getElem?_eq_some_iff.1 h
  exact (List.getElem_cons_eraseIdx_perm hi).symm

theorem perm_arrived {i : ℕ} {r : ModbusRequest} (h : s.arrived[i]? = some r) :
    s.inFlight.Perm (r :: (s.arrived.eraseIdx i ++ s.found)) :=
  (perm_cons_eraseIdx h).append_right _

theorem perm_found {i : ℕ} {r : ModbusRequest} (h : s.found[i]? = some r) :
    s.inFlight.Perm (r :: (s.arrived ++ s.found.eraseIdx i)) :=
  ((perm_cons_eraseIdx h).append_left _).trans List.perm_middle

/-- What a request does to a run. -/
theorem step_request {connection : ℕ} {pdu : ModbusPdu} {now : ℚ} {random : PyFloat}
    {P : Bool → Prop} (htallied : Tallied s.server s.inFlight)
    (hs : s.step (.request connection pdu now random) = some s')
    (hnew : NewId s (.request connection pdu now random))
    (hdecides : Decides P s (.request connection pdu now random)) :
    ∃ server dropped, P dropped ∧ s' = { s with
        server, arrived := s.arrived ++ [⟨connection, pdu, dropped⟩] } ∧
      s.server.traceRequest pdu now random = (server, .ok dropped) ∧
      server.slaveToDevice = s.server.slaveToDevice ∧
      server.requestStartTimes = s.server.requestStartTimes.set pdu.transactionId now ∧
      Tallied server s'.inFlight := by
  obtain ⟨device, hdevice⟩ : ∃ device, s.server.slaveToDevice pdu.devId = some device := by
    by_contra hno
    have hnone : s.server.slaveToDevice pdu.devId = none :=
      Option.eq_none_iff_forall_ne_some.2 fun d hd => hno ⟨d, hd⟩
    simp [step, hnone] at hs
  obtain ⟨dropped, hdrops, hP⟩ := hdecides _ _ _ _ rfl device hdevice
  obtain ⟨server, htrace, hslaves, hstarts, htallied'⟩ :=
    htallied.request connection now hdevice (hnew _ _ _ _ rfl) hdrops
  simp only [step, hdevice, Option.isSome_some, if_true, htrace, Option.some.injEq] at hs
  subst hs
  refine ⟨server, dropped, hP, rfl, htrace, hslaves, hstarts, htallied'.perm ?_⟩
  simp only [inFlight, List.append_assoc, List.singleton_append]
  exact List.perm_middle.symm

theorem Inv.step (h : Inv s) (hs : s.step e = some s') (hnew : NewId s e)
    (hdecides : Decides (fun _ => True) s e) (hfinds : FindsOwn s e) (hreplies : Replies s e) :
    Inv s' := by
  cases e with
  | request connection pdu now random =>
    obtain ⟨server, dropped, -, rfl, -, -, -, htallied⟩ := step_request h.tallied hs hnew hdecides
    exact ⟨h.answered, h.kept, htallied⟩
  | lookup i =>
    obtain ⟨r, hr, rfl⟩ := Option.map_eq_some_iff.1 hs
    have hfind := hfinds i r rfl hr
    have htallied := h.tallied.perm (perm_arrived hr)
    split
    next hserved =>
      refine ⟨h.answered, fun r' hr' => ?_, htallied.perm ?_⟩
      · rcases List.mem_append.1 hr' with hr' | hr'
        · exact h.kept r' hr'
        · rw [List.mem_singleton.1 hr']
          exact hfind.1 hserved
      · simp only [inFlight, ← List.append_assoc]
        exact (List.perm_append_singleton _ _).symm
    next hserved =>
      have hdropped : r.dropped = true := by simpa [hserved] using hfind
      refine ⟨fun r' hr' => ?_, h.kept, htallied.drop hdropped⟩
      rcases List.mem_append.1 hr' with hr' | hr'
      · exact h.answered r' hr'
      · rw [List.mem_singleton.1 hr']
        exact hdropped
  | respond i now =>
    obtain ⟨r, hr, rfl⟩ := Option.map_eq_some_iff.1 hs
    obtain ⟨server, response, htrace, -, htallied⟩ :=
      (h.tallied.perm (perm_found hr)).respond now
        (h.kept r (List.mem_of_getElem? hr)) (hreplies i now r rfl hr)
    simp only [htrace]
    exact ⟨h.answered, fun r' hr' => h.kept r' (List.mem_of_mem_eraseIdx hr'), htallied⟩
  | restore i =>
    obtain ⟨run, hrun, rfl⟩ := Option.map_eq_some_iff.1 hs
    obtain ⟨r, -, rfl⟩ := Option.map_eq_some_iff.1 hrun
    refine ⟨h.answered, h.kept, h.tallied.congr ?_ rfl rfl⟩
    simp only [ModbusServer.slaveToDevice, ModbusTcpAdapter.restore]
    split <;> rfl
  | setFault device config =>
    obtain rfl := Option.some.inj hs
    exact ⟨h.answered, h.kept, h.tallied.congr rfl rfl rfl⟩
  | clearFault device =>
    obtain rfl := Option.some.inj hs
    exact ⟨h.answered, h.kept, h.tallied.congr rfl rfl rfl⟩

/-- The invariant of the runs in which no request is dropped: no slave is ever hidden, and the
start times are those of the requests in flight. -/
structure Undropped (s : ModbusTraffic) : Prop where
  inv : Inv s
  undropped : ∀ r ∈ s.inFlight, r.dropped = false
  timed : ∀ id, (s.server.requestStartTimes id).isSome →
    ∃ r ∈ s.inFlight, r.pdu.transactionId = id
  settled : s.server.run.pending = []
  served : ∀ slave, (s.server.slaveToDevice slave).isSome →
    (s.server.run.adapter.state.served slave).isSome

theorem Undropped.findsOwn (h : Undropped s) : FindsOwn s e := by
  intro i r _ hr
  have hmem : r ∈ s.inFlight := List.mem_append_left _ (List.mem_of_getElem? hr)
  exact iff_of_true (h.served _ (h.inv.tallied.registered r hmem)) (h.undropped r hmem)

theorem Undropped.step (h : Undropped s) (hs : s.step e = some s') (hnew : NewId s e)
    (hdecides : Decides (· = false) s e) (hreplies : Replies s e) : Undropped s' := by
  have hinv : Inv s' := by
    refine h.inv.step hs hnew ?_ h.findsOwn hreplies
    intro connection pdu now random he device hdevice
    obtain ⟨dropped, hdrops, -⟩ := hdecides connection pdu now random he device hdevice
    exact ⟨dropped, hdrops, trivial⟩
  cases e with
  | request connection pdu now random =>
    obtain ⟨server, dropped, hdropped, rfl, htrace, hslaves, hstarts, -⟩ :=
      step_request h.inv.tallied hs hnew hdecides
    subst hdropped
    obtain ⟨hstate, hpending⟩ := ModbusServer.run_traceRequest htrace
    refine ⟨hinv, fun r hr => ?_, fun id hid => ?_, hpending.trans h.settled, ?_⟩
    · simp only [inFlight, List.append_assoc, List.mem_append, List.mem_singleton] at hr
      rcases hr with hr | rfl | hr
      · exact h.undropped r (List.mem_append_left _ hr)
      · rfl
      · exact h.undropped r (List.mem_append_right _ hr)
    · simp only [hstarts, Dict.set_apply] at hid
      simp only [inFlight, List.append_assoc, List.mem_append, List.mem_singleton]
      split at hid
      next heq => exact ⟨_, Or.inr (Or.inl rfl), heq.symm⟩
      next =>
        obtain ⟨r, hr, hid⟩ := h.timed id hid
        exact ⟨r, (List.mem_append.1 hr).imp_right Or.inr, hid⟩
    · simp only [hslaves, hstate]
      exact h.served
  | lookup i =>
    obtain ⟨r, hr, rfl⟩ := Option.map_eq_some_iff.1 hs
    have hserved := (h.findsOwn i r rfl hr).2
      (h.undropped r (List.mem_append_left _ (List.mem_of_getElem? hr)))
    simp only [hserved, if_true] at hinv ⊢
    have hperm : s.inFlight.Perm (s.arrived.eraseIdx i ++ (s.found ++ [r])) := by
      refine (perm_arrived hr).trans ?_
      rw [← List.append_assoc]
      exact (List.perm_append_singleton _ _).symm
    refine ⟨hinv, fun r' hr' => h.undropped r' (hperm.mem_iff.2 hr'), fun id hid => ?_, h.settled,
      h.served⟩
    obtain ⟨r', hr', hid⟩ := h.timed id hid
    exact ⟨r', hperm.mem_iff.1 hr', hid⟩
  | respond i now =>
    obtain ⟨r, hr, rfl⟩ := Option.map_eq_some_iff.1 hs
    have hperm := perm_found hr
    obtain ⟨server, response, htrace, hstarts, -⟩ := (h.inv.tallied.perm hperm).respond now
      (h.inv.kept r (List.mem_of_getElem? hr)) (hreplies i now r rfl hr)
    obtain ⟨hstate, hpending⟩ := ModbusServer.run_traceResponse htrace
    simp only [htrace] at hinv ⊢
    refine ⟨hinv, fun r' hr' => h.undropped r' (hperm.mem_iff.2 (List.mem_cons_of_mem _ hr')),
      fun id hid => ?_, hpending.trans h.settled, ?_⟩
    · simp only [hstarts, Dict.pop_apply] at hid
      split at hid
      next => cases hid
      next hne =>
        obtain ⟨r', hr', hid⟩ := h.timed id hid
        rcases List.mem_cons.1 (hperm.mem_iff.1 hr') with rfl | hr'
        · exact absurd hid.symm hne
        · exact ⟨r', hr', hid⟩
    · simp only [ModbusServer.slaveToDevice, hstate]
      exact h.served
  | restore i =>
    obtain ⟨run, hrun, rfl⟩ := Option.map_eq_some_iff.1 hs
    obtain ⟨r, hr, -⟩ := Option.map_eq_some_iff.1 hrun
    simp [h.settled] at hr
  | setFault device config =>
    obtain rfl := Option.some.inj hs
    exact ⟨hinv, h.undropped, h.timed, h.settled, h.served⟩
  | clearFault device =>
    obtain rfl := Option.some.inj hs
    exact ⟨hinv, h.undropped, h.timed, h.settled, h.served⟩

theorem Inv.balanced (h : Inv s) : Balanced s where
  answered := h.answered
  balanced hflight device stats hstats := by
    have := h.tallied.balance device stats hstats
    rwa [hflight] at this

theorem Undropped.accounts (h : Undropped s) : Accounts s where
  toBalanced := h.inv.balanced
  cleared hflight := by
    funext id
    by_contra hid
    obtain ⟨r, hr, -⟩ := h.timed id (Option.isSome_iff_ne_none.2 hid)
    simp [hflight] at hr

/-- A device that is added is served, and its counts start from nothing. -/
theorem served_addDevice {a : ProtocolAdapter ModbusTcpAdapter} (device : UUID) (slave : ℤ)
    (registers : List RegisterInfo)
    (hserved : ∀ slave, (a.state.slaveToDevice slave).isSome → (a.state.served slave).isSome)
    (hstats : ∀ d stats, a.deviceStats d = some stats →
      stats.requestCount = stats.successCount + stats.errorCount) :
    (∀ slave', ((a.addDevice ModbusTcpAdapter.doAddDevice device slave
        registers).1.state.slaveToDevice slave').isSome →
      ((a.addDevice ModbusTcpAdapter.doAddDevice device slave
        registers).1.state.served slave').isSome) ∧
    ∀ d stats, (a.addDevice ModbusTcpAdapter.doAddDevice device slave
        registers).1.deviceStats d = some stats →
      stats.requestCount = stats.successCount + stats.errorCount := by
  constructor
  · intro slave'
    rw [ProtocolAdapter.state_addDevice]
    unfold ModbusTcpAdapter.doAddDevice
    cases hcontext : a.state.context with
    | none => exact hserved slave'
    | some devices =>
      have hdevices : a.state.served = devices := by simp [ModbusTcpAdapter.served, hcontext]
      by_cases hslave : (a.state.slaveContexts slave).isSome
      · simpa only [hslave, if_true] using hserved slave'
      · simp only [hslave, Bool.false_eq_true, if_false, ModbusTcpAdapter.served, Option.getD_some,
          Dict.set_apply]
        split
        · exact fun _ => rfl
        · exact hdevices ▸ hserved slave'
  · intro d stats
    unfold ProtocolAdapter.addDevice
    rcases ModbusTcpAdapter.doAddDevice a.state device slave registers with ⟨state, e | u⟩
    · simp only [Dict.pop_apply, Dict.set_apply]
      split
      · rintro ⟨⟩
      · exact hstats d stats
    · simp only [Dict.set_apply]
      split
      · rintro ⟨⟩
        rfl
      · exact hstats d stats

theorem undropped_serving (devices : List (UUID × ℤ × List RegisterInfo)) :
    Undropped (serving devices) := by
  obtain ⟨hserved, hstats⟩ := foldl_invariant (l := devices)
    (P := fun _ (a : ProtocolAdapter ModbusTcpAdapter) =>
      (∀ slave, (a.state.slaveToDevice slave).isSome → (a.state.served slave).isSome) ∧
      ∀ d stats, a.deviceStats d = some stats →
        stats.requestCount = stats.successCount + stats.errorCount)
    (g := fun a (device, slave, registers) =>
      (a.addDevice ModbusTcpAdapter.doAddDevice device slave registers).1)
    (s := ModbusRun.started.adapter)
    (fun _ (device, slave, registers) _ a _ h => served_addDevice device slave registers h.1 h.2)
    ⟨by simp [ModbusRun.started, ModbusTcpAdapter.start],
      by simp [ModbusRun.started]⟩
  refine ⟨⟨by simp [serving], by simp [serving], ⟨by simp [inFlight, serving],
    by simp [inFlight, serving], by simp [inFlight, serving], hstats⟩⟩, by simp [inFlight, serving],
    by simp [serving], rfl, hserved⟩

/-- The condition under which every request meets the fate that its own fault decides. -/
def FollowsFault (s : ModbusTraffic) (e : TrafficEvent) : Prop :=
  NewId s e ∧ Decides (fun _ => True) s e ∧ FindsOwn s e ∧ Replies s e

/-- The condition under which every request is answered. -/
def AnswersAll (s : ModbusTraffic) (e : TrafficEvent) : Prop :=
  NewId s e ∧ Decides (· = false) s e ∧ Replies s e

/-- In every run in which transaction ids are not in flight twice and the server finds the slaves
of exactly the requests that are not dropped, only dropped requests go unanswered and the counts
add up; where besides no request is dropped, no start time is left either. -/
theorem always_accounts (devices : List (UUID × ℤ × List RegisterInfo)) (es : List TrafficEvent) :
    (EachStep step (fun s e _ => FollowsFault s e) (serving devices) es →
      Always step Balanced (serving devices) es) ∧
    (EachStep step (fun s e _ => AnswersAll s e) (serving devices) es →
      Always step Accounts (serving devices) es) := by
  have hstart := undropped_serving devices
  refine ⟨fun h => ⟨hstart.inv.balanced, h.guarded (J := Inv) ?_ hstart.inv⟩,
    fun h => ⟨hstart.accounts, h.guarded (J := Undropped) ?_ hstart⟩⟩
  · rintro s e s' hs hstep ⟨hnew, hdecides, hfinds, hreplies⟩
    have hs' := hs.step hstep hnew hdecides hfinds hreplies
    exact ⟨hs', hs'.balanced⟩
  · rintro s e s' hs hstep ⟨hnew, hdecides, hreplies⟩
    have hs' := hs.step hstep hnew hdecides hreplies
    exact ⟨hs', hs'.accounts⟩

/-- The requests of two clients overlap, and the later one is answered first. -/
def reading : List TrafficEvent := [
  .request 0 ⟨1, 1, 3⟩ 0 .zero, .request 1 ⟨2, 2, 3⟩ 0 .zero, .lookup 1, .respond 0 1, .lookup 0,
  .respond 0 2]

theorem always_accounts_reading :
    Always step Accounts (serving [(7, 1, []), (8, 2, [])]) reading := by
  refine (always_accounts [(7, 1, []), (8, 2, [])] reading).2 ?_
  intro s₁ h₁
  obtain rfl := Option.some.inj h₁
  refine ⟨⟨by rintro _ _ _ _ - _ ⟨⟩, fun _ _ _ _ he _ _ => ⟨false, by cases he; rfl, rfl⟩,
    by rintro _ _ _ ⟨⟩⟩, ?_⟩
  intro s₂ h₂
  obtain rfl := Option.some.inj h₂
  refine ⟨⟨?_, fun _ _ _ _ he _ _ => ⟨false, by cases he; rfl, rfl⟩, by rintro _ _ _ ⟨⟩⟩, ?_⟩
  · rintro _ _ _ _ ⟨⟩ r hr
    obtain rfl := List.mem_singleton.1 hr
    decide
  intro s₃ h₃
  obtain rfl := Option.some.inj h₃
  refine ⟨⟨by rintro _ _ _ _ ⟨⟩, by rintro _ _ _ _ ⟨⟩, by rintro _ _ _ ⟨⟩⟩, ?_⟩
  intro s₄ h₄
  obtain rfl := Option.some.inj h₄
  refine ⟨⟨by rintro _ _ _ _ ⟨⟩, by rintro _ _ _ _ ⟨⟩, by rintro _ _ _ - - _ - _ ⟨⟩⟩, ?_⟩
  intro s₅ h₅
  obtain rfl := Option.some.inj h₅
  refine ⟨⟨by rintro _ _ _ _ ⟨⟩, by rintro _ _ _ _ ⟨⟩, by rintro _ _ _ ⟨⟩⟩, ?_⟩
  intro s₆ h₆
  obtain rfl := Option.some.inj h₆
  exact ⟨⟨by rintro _ _ _ _ ⟨⟩, by rintro _ _ _ _ ⟨⟩, by rintro _ _ _ - - _ - _ ⟨⟩⟩, trivial⟩

/-- A slave hidden for a request of one client does not answer another. -/
def hiddenSlave : List TrafficEvent := [
  .setFault 7 ⟨.timeout, []⟩, .request 0 ⟨1, 1, 3⟩ 0 .zero, .clearFault 7,
  .request 1 ⟨1, 2, 3⟩ 0 .zero, .lookup 0, .lookup 0]

theorem request_lost : ¬ ∀ devices es, Always step Accounts (serving devices) es := by
  intro h
  have hlast := (h [(7, 1, [])] hiddenSlave).of_exec rfl
  exact absurd (hlast.answered ⟨1, ⟨1, 2, 3⟩, false⟩ (by decide)) (by decide)

end ModbusTraffic

end GhostMeter.Protocols
