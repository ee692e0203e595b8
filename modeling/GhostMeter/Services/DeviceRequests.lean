import GhostMeter.Protocols.Registry
import GhostMeter.Simulation.EngineServing

/-! Start and stop requests for one device while the protocol manager is running, each in its
own database session.  A request runs from one await to the next; in between come the others.
A session reads the status when its request arrives and writes it when it commits.  MQTT
publishing and scenarios are awaits that change nothing here. -/

namespace GhostMeter

open GhostMeter.Lib GhostMeter.Simulation GhostMeter.Protocols

namespace Services

/-- A request that has passed its check of the status, by what it awaits next. -/
inductive DeviceRequest
  /-- `start_device`: the template. -/
  | starting
  /-- In the engine's `start_device`: the configs, then the schedules. -/
  | loadingData
  | loadingSchedules (configs : List SimulationConfig)
  /-- MQTT publishing, then the commit of `running`. -/
  | publishing
  /-- The adapter has raised: the commit of `error`. -/
  | failing
  /-- `stop_device`: MQTT publishing and the scenario. -/
  | stopping
  /-- In the engine's `stop_device`: the task it has cancelled. -/
  | awaitingTask (task : TaskRef)
  /-- The template. -/
  | removing
  /-- The commit of `stopped`. -/
  | committing
  | finished

namespace DeviceRequest

/-- The start is past its registration. -/
def serving : DeviceRequest → Bool
  | loadingData | loadingSchedules _ | publishing => true
  | _ => false

/-- The stop is past the engine's `stop_device`, or in it. -/
def halting : DeviceRequest → Bool
  | awaitingTask _ | removing | committing => true
  | _ => false

/-- The request is between its first change and its commit. -/
def critical : DeviceRequest → Bool
  | starting | stopping | finished => false
  | _ => true

end DeviceRequest

/-- The row's status, the adapter, the engine and the requests. -/
structure Lifecycle (α : Type) where
  status : DeviceStatus
  adapter : ProtocolAdapter α
  engine : SimulationEngine
  requests : List DeviceRequest := []

namespace Lifecycle

variable {α ε : Type} (registry : DeviceRegistry α ε) (device : UUID) (slave : ℤ)
  (registers : List RegisterInfo)

inductive Event
  | start
  | stop
  /-- The template is loaded: `register_device_runtime`. -/
  | register (i : ℕ)
  | dataLoaded (i : ℕ) (configs : List SimulationConfig)
  | schedulesLoaded (i : ℕ) (schedules : List ScheduleEntry)
  | loadFailed (i : ℕ)
  /-- The engine's `stop_device`. -/
  | halt (i : ℕ)
  | taskAwaited (i : ℕ)
  | remove (i : ℕ)
  /-- The commit of the status. -/
  | commit (i : ℕ)
  /-- A task goes on: its first step, a tick without an error, or its end once cancelled. -/
  | taskBegins (t : TaskRef)
  | tick (t : TaskRef) (values : Dict String PyFloat) (injector : AnomalyInjector)
  | taskCancelled (t : TaskRef)

/-- The request at `i` goes on to its next await. -/
def await (s : Lifecycle α) (i : ℕ) (r : DeviceRequest) : Lifecycle α :=
  { s with requests := s.requests.set i r }

/-- The request at `i` commits the status and ends. -/
def finish (s : Lifecycle α) (i : ℕ) (status : DeviceStatus) : Lifecycle α :=
  { s with status }.await i .finished

def addDevice (s : Lifecycle α) : ProtocolAdapter α × Except ε Unit :=
  s.adapter.addDevice registry.doAddDevice device slave registers

/-- `simulation_engine.start_device`, up to its first await: an entry ends it. -/
def launching (s : Lifecycle α) : DeviceRequest :=
  if (s.engine.deviceStates device).isSome then .publishing else .loadingData

def step (s : Lifecycle α) : Event → Option (Lifecycle α)
  | .start =>
    some (if s.status ≠ .stopped then s else { s with requests := s.requests ++ [.starting] })
  | .stop =>
    some (if s.status = .stopped then s else { s with requests := s.requests ++ [.stopping] })
  | .register i =>
    match s.requests[i]? with
    | some .starting =>
      match s.addDevice registry device slave registers with
      | (adapter, .ok ()) => some ({ s with adapter }.await i (s.launching device))
      | (adapter, .error _) => some ({ s with adapter }.await i .failing)
    | _ => none
  | .dataLoaded i configs =>
    match s.requests[i]? with
    | some .loadingData =>
      some (s.await i (if configs.isEmpty then .publishing else .loadingSchedules configs))
    | _ => none
  | .schedulesLoaded i schedules =>
    match s.requests[i]? with
    | some (.loadingSchedules configs) =>
      some ({ s with engine := s.engine.launch device 0 configs schedules }.await i .publishing)
    | _ => none
  | .loadFailed i =>
    match s.requests[i]? with
    | some .loadingData | some (.loadingSchedules _) => some (s.await i .publishing)
    | _ => none
  | .halt i =>
    match s.requests[i]? with
    | some .stopping =>
      match s.engine.stopDevice device with
      | (engine, .suspended t) => some ({ s with engine }.await i (.awaitingTask t))
      | (engine, _) => some ({ s with engine }.await i .removing)
    | _ => none
  | .taskAwaited i =>
    match s.requests[i]? with
    | some (.awaitingTask t) =>
      match s.engine.tasks[t]? with
      | some task =>
        match task.status with
        | .cancelled | .returned =>
          some ({ s with engine := s.engine.clearDevice device }.await i .removing)
        | .crashed => some (s.await i .removing)
        | _ => none
      | none => none
    | _ => none
  | .remove i =>
    match s.requests[i]? with
    | some .removing =>
      some ({ s with adapter := s.adapter.removeDevice registry.doRemoveDevice device }.await i
        .committing)
    | _ => none
  | .commit i =>
    match s.requests[i]? with
    | some .publishing => some (s.finish i .running)
    | some .failing => some (s.finish i .error)
    | some .committing => some (s.finish i .stopped)
    | _ => none
  | .taskBegins t => (s.engine.step (.taskBegins t)).map fun engine => { s with engine }
  | .tick t values injector =>
    (s.engine.step (.tick t false values injector)).map fun engine => { s with engine }
  | .taskCancelled t => (s.engine.step (.taskCancelled t)).map fun engine => { s with engine }

/-- The device is registered in its adapter. -/
def Registered (s : Lifecycle α) : Prop := registry.registered s.adapter.state device

/-- Nothing simulates the device. -/
def Idle (s : Lifecycle α) : Prop :=
  s.engine.held device = none ∧ ∀ t, ¬ s.engine.Live t device

/-- The status is what it says. -/
structure Settled (s : Lifecycle α) : Prop where
  running : s.status = .running ↔ s.Registered registry device
  stopped : s.status = .stopped → s.Idle device

/-- All requests have ended. -/
def Quiet (s : Lifecycle α) : Prop := ∀ r ∈ s.requests, r = .finished

/-- The step is one of a request that is rejected. -/
def Rejects (s : Lifecycle α) : Event → Prop
  | .start => s.status ≠ .stopped
  | .stop => s.status = .stopped
  | .register i => s.requests[i]? = some .starting ∧
      ∃ e, (s.addDevice registry device slave registers).2 = .error e
  | .commit i => s.requests[i]? = some .failing
  | _ => False

/-- A step of a rejected request leaves a device that is running in its adapter, with its
statistics. -/
def LeavesRunning (s : Lifecycle α) (e : Event) (s' : Lifecycle α) : Prop :=
  s.Rejects registry device slave registers e → s.status = .running →
    (s'.Registered registry device ↔ s.Registered registry device) ∧
      s'.adapter.deviceStats device = s.adapter.deviceStats device

/-- Requests keep apart: a start registers the device only while it is not registered and no
other request is between its first change and its commit, and a stop calls the engine only while
no start is between its registration and its commit. -/
def Apart (s : Lifecycle α) : Event → Prop
  | .register _ => ¬ s.Registered registry device ∧ ∀ r ∈ s.requests, r.critical = false
  | .halt _ => ∀ r ∈ s.requests, r.serving = false
  | _ => True

/-- While a start is past its registration, no other request is between its first change and
its commit. -/
def Alone (requests : List DeviceRequest) : Prop :=
  ∀ (i j : ℕ) (r r' : DeviceRequest), requests[i]? = some r → requests[j]? = some r' →
    r.serving = true → r'.critical = true → i = j

structure Inv (s : Lifecycle α) : Prop where
  live : ∀ t, s.engine.Live t device → s.engine.held device = some t
  alone : Alone s.requests
  serving : ∀ r ∈ s.requests, r.serving = true → s.Registered registry device
  idle : ∀ r ∈ s.requests, r.critical = true → r ≠ .publishing → s.Idle device
  unregistered : ∀ r ∈ s.requests, r = .failing ∨ r = .committing →
    ¬ s.Registered registry device
  quiet : (∀ r ∈ s.requests, r.critical = false) →
    (s.status = .running ↔ s.Registered registry device) ∧
      (s.status ≠ .running → s.Idle device)

section Alone

variable {requests : List DeviceRequest} {r r' : DeviceRequest} {i j : ℕ}

theorem critical_of_serving (h : r.serving = true) : r.critical = true := by
  cases r <;> first | rfl | cases h

theorem alone_of_no_serving (h : ∀ r ∈ requests, r.serving = false) : Alone requests := by
  intro i j r r' hi _ hserving
  rw [h r (List.mem_of_getElem? hi)] at hserving
  cases hserving

theorem getElem?_set_cases (h : (requests.set i r')[j]? = some r) :
    (j = i ∧ r = r') ∨ (j ≠ i ∧ requests[j]? = some r) := by
  rw [List.getElem?_set] at h
  split at h
  next hij =>
    split at h
    next => exact Or.inl ⟨hij.symm, (Option.some.inj h).symm⟩
    next => cases h
  next hij => exact Or.inr ⟨Ne.symm hij, h⟩

/-- The request goes on to be serving, or critical, only if it was. -/
theorem Alone.set (h : Alone requests) (hi : requests[i]? = some r)
    (hserving : r'.serving = true → r.serving = true)
    (hcritical : r'.critical = true → r.critical = true) : Alone (requests.set i r') := by
  intro j k x y hj hk hx hy
  rcases getElem?_set_cases hj with ⟨rfl, rfl⟩ | ⟨-, hjx⟩
  · rcases getElem?_set_cases hk with ⟨rfl, rfl⟩ | ⟨-, hky⟩
    · rfl
    · exact h j k r y hi hky (hserving hx) hy
  · rcases getElem?_set_cases hk with ⟨rfl, rfl⟩ | ⟨-, hky⟩
    · exact h j k x r hjx hi hx (hcritical hy)
    · exact h j k x y hjx hky hx hy

/-- A request that goes on alone. -/
theorem alone_set (h : ∀ x ∈ requests, x.critical = false) : Alone (requests.set i r') := by
  intro j k x y hj hk hx hy
  have hno : ∀ (l : ℕ) (z : DeviceRequest), requests[l]? = some z → z.critical = true → False := by
    intro l z hl hz
    rw [h z (List.mem_of_getElem? hl)] at hz
    cases hz
  rcases getElem?_set_cases hj with ⟨rfl, rfl⟩ | ⟨-, hjx⟩
  · rcases getElem?_set_cases hk with ⟨rfl, rfl⟩ | ⟨-, hky⟩
    · rfl
    · exact (hno k y hky hy).elim
  · exact (hno j x hjx (critical_of_serving hx)).elim

theorem Alone.append (h : Alone requests) (hr : r.critical = false) : Alone (requests ++ [r]) := by
  have hcases : ∀ (k : ℕ) (x : DeviceRequest), (requests ++ [r])[k]? = some x →
      requests[k]? = some x ∨ x = r := by
    intro k x hk
    rw [List.getElem?_append] at hk
    split at hk
    next => exact Or.inl hk
    next => exact Or.inr (by simpa using List.mem_of_getElem? hk)
  intro j k x y hj hk hx hy
  rcases hcases j x hj with hj | rfl
  · rcases hcases k y hk with hk | rfl
    · exact h j k x y hj hk hx hy
    · rw [hr] at hy
      cases hy
  · rw [critical_of_serving hx] at hr
    cases hr

end Alone

section Inv

variable {registry device slave registers} {s s' : Lifecycle α} {e : Event} {i : ℕ}
  {r r' : DeviceRequest}

/-- The request that goes on, among the others. -/
theorem mem_await {x : DeviceRequest} (h : x ∈ (s.await i r').requests) :
    x = r' ∨ ∃ j, j ≠ i ∧ s.requests[j]? = some x := by
  obtain ⟨j, hj⟩ := List.mem_iff_getElem?.1 h
  rcases getElem?_set_cases hj with ⟨-, rfl⟩ | ⟨hne, hj⟩
  · exact Or.inl rfl
  · exact Or.inr ⟨j, hne, hj⟩

/-- A request goes on as a critical one, perhaps with a change of the engine. -/
theorem Inv.await (h : Inv registry device s) (hi : s.requests[i]? = some r)
    {engine : SimulationEngine}
    (hlive : ∀ t, engine.Live t device → engine.held device = some t)
    (hothers : ∀ (j : ℕ) (x : DeviceRequest), j ≠ i → s.requests[j]? = some x →
      x.critical = true → x ≠ .publishing → ({ s with engine } : Lifecycle α).Idle device)
    (halone : Alone (s.requests.set i r'))
    (hserving : r'.serving = true → s.Registered registry device)
    (hcritical : r'.critical = true)
    (hidle : r' ≠ .publishing → ({ s with engine } : Lifecycle α).Idle device)
    (hunregistered : r' = .failing ∨ r' = .committing → ¬ s.Registered registry device) :
    Inv registry device ({ s with engine }.await i r') := by
  have hlength : i < s.requests.length := (List.getElem?_eq_some_iff.1 hi).1
  constructor
  · exact hlive
  · exact halone
  · intro x hx hxs
    rcases mem_await hx with rfl | ⟨j, -, hj⟩
    · exact hserving hxs
    · exact h.serving x (List.mem_of_getElem? hj) hxs
  · intro x hx hxc hne
    rcases mem_await hx with rfl | ⟨j, hji, hj⟩
    · exact hidle hne
    · exact hothers j x hji hj hxc hne
  · intro x hx hxu
    rcases mem_await hx with rfl | ⟨j, -, hj⟩
    · exact hunregistered hxu
    · exact h.unregistered x (List.mem_of_getElem? hj) hxu
  · intro hno
    have hmem : r' ∈ s.requests.set i r' := List.mem_set hlength r'
    rw [hno r' hmem] at hcritical
    cases hcritical

/-- Other requests, of which the critical ones were there before. -/
theorem Inv.requests (h : Inv registry device s) {requests : List DeviceRequest}
    {status : DeviceStatus} (hmem : ∀ x ∈ requests, x.critical = true → x ∈ s.requests)
    (halone : Alone requests)
    (hquiet : (∀ r ∈ requests, r.critical = false) →
      (status = .running ↔ s.Registered registry device) ∧
        (status ≠ .running → s.Idle device)) :
    Inv registry device { s with requests, status } := by
  constructor
  · exact h.live
  · exact halone
  · intro x hx hxs
    exact h.serving x (hmem x hx (critical_of_serving hxs)) hxs
  · intro x hx hxc
    exact h.idle x (hmem x hx hxc) hxc
  · intro x hx hxu
    refine h.unregistered x (hmem x hx ?_) hxu
    rcases hxu with rfl | rfl <;> rfl
  · exact hquiet

theorem Inv.append (h : Inv registry device s) (hr : r.critical = false) :
    Inv registry device { s with requests := s.requests ++ [r] } := by
  have hmem : ∀ x ∈ s.requests ++ [r], x.critical = true → x ∈ s.requests := by
    intro x hx hxc
    rcases List.mem_append.1 hx with hx | hx
    · exact hx
    · rw [List.mem_singleton.1 hx, hr] at hxc
      cases hxc
  refine h.requests hmem (h.alone.append hr) fun hno => ?_
  exact h.quiet fun x hx => hno x (List.mem_append_left _ hx)

/-- A task goes on. -/
theorem Inv.background (h : Inv registry device s) {engine : SimulationEngine}
    (hkeeps : s.engine.Keeps engine) (hheld : engine.held device = s.engine.held device) :
    Inv registry device { s with engine } := by
  have hidle : s.Idle device → ({ s with engine } : Lifecycle α).Idle device := by
    rintro ⟨hnone, hno⟩
    exact ⟨hheld.trans hnone, fun t ht => hno t (hkeeps t device ht).1⟩
  constructor
  · intro t ht
    exact hheld.trans (h.live t (hkeeps t device ht).1)
  · exact h.alone
  · exact h.serving
  · exact fun x hx hxc hne => hidle (h.idle x hx hxc hne)
  · exact h.unregistered
  · intro hno
    exact ⟨(h.quiet hno).1, fun hne => hidle ((h.quiet hno).2 hne)⟩

/-- A commit that agrees with the adapter and the engine. -/
theorem Inv.finish (h : Inv registry device s) (hi : s.requests[i]? = some r)
    {status : DeviceStatus} (hstatus : status = .running ↔ s.Registered registry device)
    (hidle : status ≠ .running → s.Idle device) : Inv registry device (s.finish i status) := by
  have hmem : ∀ x ∈ (s.finish i status).requests, x.critical = true → x ∈ s.requests := by
    intro x hx hxc
    rcases mem_await hx with rfl | ⟨j, -, hj⟩
    · cases hxc
    · exact List.mem_of_getElem? hj
  exact h.requests hmem (h.alone.set hi nofun nofun) fun _ => ⟨hstatus, hidle⟩

/-- A serving request leaves no other one critical. -/
theorem Inv.others (h : Inv registry device s) (hi : s.requests[i]? = some r)
    (hr : r.serving = true) {j : ℕ} {x : DeviceRequest} (hji : j ≠ i)
    (hj : s.requests[j]? = some x) : x.critical = false := by
  cases hx : x.critical with
  | false => rfl
  | true => exact absurd (h.alone i j r x hi hj hr hx).symm hji

/-- A critical request that is not serving leaves none serving. -/
theorem Inv.no_serving (h : Inv registry device s) (hi : s.requests[i]? = some r)
    (hr : r.critical = true) (hno : r.serving = false) : ∀ x ∈ s.requests, x.serving = false := by
  intro x hx
  obtain ⟨j, hj⟩ := List.mem_iff_getElem?.1 hx
  cases hxs : x.serving with
  | false => rfl
  | true =>
    obtain rfl := h.alone j i x r hj hi hxs hr
    rw [Option.some.inj (hj.symm.trans hi), hno] at hxs
    cases hxs

theorem idle_stopDevice (h : ∀ t, s.engine.Live t device → s.engine.held device = some t) :
    ({ s with engine := (s.engine.stopDevice device).1 } : Lifecycle α).Idle device := by
  have hnone : (s.engine.stopDevice device).1.held device = none := by
    have hpop : (s.engine.popState device).held device = none :=
      (SimulationEngine.held_popState).trans (if_pos rfl)
    rcases SimulationEngine.stopDevice_cases s.engine device with
      ⟨hheld, hstop⟩ | ⟨t, -, ⟨-, hstop⟩ | ⟨task, -, ⟨-, hstop⟩ | ⟨-, -, hstop⟩ | ⟨-, hstop⟩⟩⟩
    · rw [hstop]
      exact hheld
    all_goals
      rw [hstop]
      exact hpop
  refine ⟨hnone, fun t ht => ?_⟩
  obtain ⟨hlive, hheld⟩ := SimulationEngine.keeps_stopDevice t device ht
  rw [hnone] at hheld
  cases hheld (h t hlive)

theorem Inv.register (h : Inv registry device s) (hi : s.requests[i]? = some .starting)
    (hapart : Apart registry device s (.register i))
    (hs : s.step registry device slave registers (.register i) = some s') :
    Inv registry device s' := by
  obtain ⟨hno, hcritical⟩ := hapart
  have hlength : i < s.requests.length := (List.getElem?_eq_some_iff.1 hi).1
  obtain ⟨hstatus, hidle⟩ := h.quiet hcritical
  have hstopped : s.Idle device := hidle fun hrun => hno (hstatus.1 hrun)
  have hothers : ∀ (r' : DeviceRequest) (x : DeviceRequest), x ∈ s.requests.set i r' →
      x.critical = true → x = r' := by
    intro r' x hx hxc
    rcases List.mem_or_eq_of_mem_set hx with hx | hx
    · rw [hcritical x hx] at hxc
      cases hxc
    · exact hx
  have hstate := ProtocolAdapter.state_addDevice registry.doAddDevice s.adapter device slave
    registers
  have hresult := ProtocolAdapter.result_addDevice registry.doAddDevice s.adapter device slave
    registers
  simp only [step, hi] at hs
  cases hadd : s.addDevice registry device slave registers with
  | mk adapter result =>
    rw [addDevice] at hadd
    rw [hadd] at hstate hresult
    rw [addDevice, hadd] at hs
    cases result with
    | ok u =>
      have hreg : registry.registered adapter.state device :=
        hstate ▸ registry.registered_of_ok _ _ _ _ hresult.symm
      have hlaunching : s.launching device = .loadingData := by
        have hnone := hstopped.1
        rw [SimulationEngine.held, Option.map_eq_none_iff] at hnone
        rw [launching, hnone]
        rfl
      simp only [hlaunching] at hs
      obtain rfl := Option.some.inj hs
      constructor
      · exact h.live
      · exact alone_set hcritical
      · exact fun _ _ _ => hreg
      · exact fun _ _ _ _ => hstopped
      · intro x hx hxu
        have hxc : x.critical = true := by rcases hxu with rfl | rfl <;> rfl
        rw [hothers _ x hx hxc] at hxu
        rcases hxu with hxu | hxu <;> cases hxu
      · intro hall
        cases hall _ (List.mem_set hlength .loadingData)
    | error e =>
      have hreg : ¬ registry.registered adapter.state device :=
        hstate ▸ registry.not_registered_of_error _ _ _ _ e hno hresult.symm
      obtain rfl := Option.some.inj hs
      constructor
      · exact h.live
      · exact alone_set hcritical
      · intro x hx hxs
        rw [hothers _ x hx (critical_of_serving hxs)] at hxs
        cases hxs
      · exact fun _ _ _ _ => hstopped
      · exact fun _ _ _ => hreg
      · intro hall
        cases hall _ (List.mem_set hlength .failing)

/-- A start goes on past its registration, and leaves the engine alone. -/
theorem Inv.launch (h : Inv registry device s) (hi : s.requests[i]? = some r)
    (hr : r.serving = true) (hidle : r ≠ .publishing) (hr' : r'.serving = true) :
    Inv registry device (s.await i r') := by
  have hmem := List.mem_of_getElem? hi
  refine h.await hi h.live ?_ (h.alone.set hi (fun _ => hr) fun _ => critical_of_serving hr) ?_
    (critical_of_serving hr') ?_ ?_
  · intro j x hji hj hxc
    rw [h.others hi hr hji hj] at hxc
    cases hxc
  · exact fun _ => h.serving r hmem hr
  · exact fun _ => h.idle r hmem (critical_of_serving hr) hidle
  · intro hu
    rcases hu with rfl | rfl <;> cases hr'

theorem Inv.schedulesLoaded (h : Inv registry device s) {configs : List SimulationConfig}
    {schedules : List ScheduleEntry} (hi : s.requests[i]? = some (.loadingSchedules configs)) :
    Inv registry device ({ s with
      engine := s.engine.launch device 0 configs schedules }.await i .publishing) := by
  have hmem := List.mem_of_getElem? hi
  obtain ⟨-, hno⟩ := h.idle _ hmem rfl nofun
  refine h.await hi ?_ ?_ (h.alone.set hi (fun _ => rfl) fun _ => rfl) ?_ rfl ?_ ?_
  · intro t ht
    rw [SimulationEngine.held_launch, if_pos rfl]
    rcases SimulationEngine.live_launch ht with ⟨rfl, -⟩ | ht
    · rfl
    · exact absurd ht (hno t)
  · intro j x hji hj hxc
    rw [h.others hi rfl hji hj] at hxc
    cases hxc
  · exact fun _ => h.serving _ hmem rfl
  · exact fun hne => absurd rfl hne
  · intro hu
    rcases hu with hu | hu <;> cases hu

theorem Inv.halt (h : Inv registry device s) (hi : s.requests[i]? = some .stopping)
    (hapart : ∀ r ∈ s.requests, r.serving = false) (hr : r'.halting = true)
    (hr' : r' ≠ .committing) :
    Inv registry device ({ s with engine := (s.engine.stopDevice device).1 }.await i r') := by
  have hidle := idle_stopDevice (s := s) h.live
  have hserving : r'.serving = false := by cases r' <;> first | rfl | cases hr
  refine h.await hi ?_ (fun _ _ _ _ _ _ => hidle) ?_ ?_ ?_ (fun _ => hidle) ?_
  · exact fun t ht => absurd ht (hidle.2 t)
  · apply alone_of_no_serving
    intro x hx
    rcases List.mem_or_eq_of_mem_set hx with hx | rfl
    · exact hapart x hx
    · exact hserving
  · intro hs
    rw [hserving] at hs
    cases hs
  · cases r' <;> first | rfl | cases hr
  · intro hu
    rcases hu with rfl | rfl
    · cases hr
    · exact absurd rfl hr'

/-- A stop goes on past the engine's, which changes nothing more of the tasks. -/
theorem Inv.halted (h : Inv registry device s) (hi : s.requests[i]? = some r)
    (hr : r.halting = true) {engine : SimulationEngine} (htasks : engine.tasks = s.engine.tasks)
    (hstates : engine.deviceStates = s.engine.deviceStates) :
    Inv registry device ({ s with engine }.await i .removing) := by
  have hkeeps := SimulationEngine.keeps_of_eq htasks hstates
  have hheld : engine.held device = s.engine.held device := by
    rw [SimulationEngine.held, hstates]
    rfl
  have hcritical : r.critical = true := by cases r <;> first | rfl | cases hr
  have hne : r ≠ .publishing := by
    rintro rfl
    cases hr
  obtain ⟨hnone, hno⟩ := h.idle r (List.mem_of_getElem? hi) hcritical hne
  have hidle : ({ s with engine } : Lifecycle α).Idle device :=
    ⟨hheld.trans hnone, fun t ht => hno t (hkeeps t device ht).1⟩
  have halone : Alone (s.requests.set i .removing) := by
    refine h.alone.set hi (fun hserving => ?_) fun _ => hcritical
    cases hserving
  refine h.await hi ?_ (fun _ _ _ _ _ _ => hidle) halone (fun hserving => ?_) rfl
    (fun _ => hidle) ?_
  · exact fun t ht => absurd ht (hidle.2 t)
  · cases hserving
  · rintro (hend | hend) <;> cases hend

theorem Inv.remove (h : Inv registry device s) (hi : s.requests[i]? = some .removing) :
    Inv registry device ({ s with
      adapter := s.adapter.removeDevice registry.doRemoveDevice device }.await i .committing) := by
  have hno : ¬ registry.registered
      (s.adapter.removeDevice registry.doRemoveDevice device).state device := by
    rw [ProtocolAdapter.state_removeDevice]
    exact registry.not_registered_remove _ _
  have hidle := h.idle _ (List.mem_of_getElem? hi) rfl nofun
  have hserving := h.no_serving hi rfl rfl
  have hlength : i < s.requests.length := (List.getElem?_eq_some_iff.1 hi).1
  constructor
  · exact h.live
  · exact h.alone.set hi nofun fun _ => rfl
  · intro x hx hxs
    rcases List.mem_or_eq_of_mem_set hx with hx | rfl
    · rw [hserving x hx] at hxs
      cases hxs
    · cases hxs
  · exact fun _ _ _ _ => hidle
  · exact fun _ _ _ => hno
  · intro hall
    cases hall _ (List.mem_set hlength .committing)

theorem Inv.commit (h : Inv registry device s)
    (hs : s.step registry device slave registers (.commit i) = some s') :
    Inv registry device s' := by
  simp only [step] at hs
  split at hs
  next hi =>
    obtain rfl := Option.some.inj hs
    have hreg := h.serving _ (List.mem_of_getElem? hi) rfl
    exact h.finish hi (iff_of_true rfl hreg) fun hne => absurd rfl hne
  next hi =>
    obtain rfl := Option.some.inj hs
    have hmem := List.mem_of_getElem? hi
    have hno := h.unregistered _ hmem (Or.inl rfl)
    exact h.finish hi (iff_of_false nofun hno) fun _ => h.idle _ hmem rfl nofun
  next hi =>
    obtain rfl := Option.some.inj hs
    have hmem := List.mem_of_getElem? hi
    have hno := h.unregistered _ hmem (Or.inr rfl)
    exact h.finish hi (iff_of_false nofun hno) fun _ => h.idle _ hmem rfl nofun
  next => cases hs

/-- A step of a task changes no entry. -/
theorem Inv.task (h : Inv registry device s) {e : EngineEvent} {engine : SimulationEngine}
    (hs : s.engine.step e = some engine) (hnone : s.engine.displaces e = none)
    (hstates : engine.deviceStates = s.engine.deviceStates) :
    Inv registry device { s with engine } := by
  refine h.background ?_ ?_
  · rcases SimulationEngine.step_cases hs with ⟨-, hkeeps⟩ | ⟨d, hd, -⟩ | ⟨d, _, _, hd, -⟩
    · exact hkeeps
    · rw [hnone] at hd
      cases hd
    · rw [hnone] at hd
      cases hd
  · rw [SimulationEngine.held, hstates]
    rfl

theorem inv_step (h : Inv registry device s) (hapart : Apart registry device s e)
    (hs : s.step registry device slave registers e = some s') : Inv registry device s' := by
  cases e with
  | start =>
    obtain rfl := Option.some.inj hs
    split
    next => exact h
    next => exact h.append rfl
  | stop =>
    obtain rfl := Option.some.inj hs
    split
    next => exact h
    next => exact h.append rfl
  | register i =>
    cases hi : s.requests[i]? with
    | none => simp [step, hi] at hs
    | some r =>
      cases r with
      | starting => exact h.register hi hapart hs
      | _ => simp [step, hi] at hs
  | dataLoaded i configs =>
    simp only [step] at hs
    split at hs
    next hi =>
      obtain rfl := Option.some.inj hs
      refine h.launch hi rfl nofun ?_
      split <;> rfl
    next => cases hs
  | schedulesLoaded i schedules =>
    simp only [step] at hs
    split at hs
    next hi =>
      obtain rfl := Option.some.inj hs
      exact h.schedulesLoaded hi
    next => cases hs
  | loadFailed i =>
    simp only [step] at hs
    split at hs
    next hi =>
      obtain rfl := Option.some.inj hs
      exact h.launch hi rfl nofun rfl
    next hi =>
      obtain rfl := Option.some.inj hs
      exact h.launch hi rfl nofun rfl
    next => cases hs
  | halt i =>
    simp only [step] at hs
    split at hs
    next hi =>
      have hhalt : ∀ r' : DeviceRequest, r'.halting = true → r' ≠ .committing →
          Inv registry device ({ s with engine := (s.engine.stopDevice device).1 }.await i r') :=
        fun r' => h.halt hi hapart
      cases hstop : s.engine.stopDevice device with
      | mk engine outcome =>
        rw [hstop] at hs hhalt
        cases outcome with
        | suspended t =>
          obtain rfl := Option.some.inj hs
          exact hhalt _ rfl nofun
        | returned =>
          obtain rfl := Option.some.inj hs
          exact hhalt _ rfl nofun
        | raised =>
          obtain rfl := Option.some.inj hs
          exact hhalt _ rfl nofun
    next => cases hs
  | taskAwaited i =>
    simp only [step] at hs
    split at hs
    next hi =>
      split at hs
      next =>
        split at hs
        next =>
          obtain rfl := Option.some.inj hs
          exact h.halted hi rfl rfl rfl
        next =>
          obtain rfl := Option.some.inj hs
          exact h.halted hi rfl rfl rfl
        next =>
          obtain rfl := Option.some.inj hs
          exact h.halted hi rfl rfl rfl
        next => cases hs
      next => cases hs
    next => cases hs
  | remove i =>
    simp only [step] at hs
    split at hs
    next hi =>
      obtain rfl := Option.some.inj hs
      exact h.remove hi
    next => cases hs
  | commit i => exact h.commit hs
  | taskBegins t =>
    obtain ⟨engine, hengine, rfl⟩ := Option.map_eq_some_iff.1 hs
    obtain ⟨task, -, -, heq⟩ := SimulationEngine.step_taskBegins hengine
    exact h.task hengine rfl (heq ▸ rfl)
  | tick t values injector =>
    obtain ⟨engine, hengine, rfl⟩ := Option.map_eq_some_iff.1 hs
    obtain ⟨task, -, -, heq⟩ := SimulationEngine.step_tick hengine
    exact h.task hengine rfl (heq ▸ rfl)
  | taskCancelled t =>
    obtain ⟨engine, hengine, rfl⟩ := Option.map_eq_some_iff.1 hs
    obtain ⟨task, -, -, heq⟩ := SimulationEngine.step_ending rfl hengine
    exact h.task hengine rfl (heq ▸ rfl)

theorem Inv.settled (h : Inv registry device s) (hquiet : s.Quiet) : s.Settled registry device := by
  have hno : ∀ r ∈ s.requests, r.critical = false := fun r hr => by
    rw [hquiet r hr]
    rfl
  refine ⟨(h.quiet hno).1, fun hstopped => (h.quiet hno).2 ?_⟩
  rw [hstopped]
  nofun

/-- A rejected request leaves a running device alone: its step finds the device unregistered, or
does not touch the adapter. -/
theorem Inv.leavesRunning (h : Inv registry device s) (hapart : Apart registry device s e)
    (hs : s.step registry device slave registers e = some s') :
    LeavesRunning registry device slave registers s e s' := by
  intro hrejects hrunning
  cases e with
  | start =>
    have hne : s.status ≠ .stopped := hrejects
    obtain rfl := Option.some.inj hs
    rw [if_pos hne]
    exact ⟨Iff.rfl, rfl⟩
  | stop =>
    have hstopped : s.status = .stopped := hrejects
    rw [hrunning] at hstopped
    cases hstopped
  | register i =>
    have hstatus := (h.quiet hapart.2).1
    exact absurd (hstatus.1 hrunning) hapart.1
  | commit i =>
    have hi : s.requests[i]? = some .failing := hrejects
    simp only [step, hi] at hs
    obtain rfl := Option.some.inj hs
    exact ⟨Iff.rfl, rfl⟩
  | _ => exact hrejects.elim

end Inv

/-- No request has come yet, and the status is what it says: a device that is not running is
not simulated. -/
structure Ready (s : Lifecycle α) : Prop where
  requests : s.requests = []
  running : s.status = .running ↔ s.Registered registry device
  idle : s.status ≠ .running → s.Idle device
  live : ∀ t, s.engine.Live t device → s.engine.held device = some t

variable {registry device}

theorem Ready.inv {s : Lifecycle α} (h : s.Ready registry device) : Inv registry device s where
  live := h.live
  alone := alone_of_no_serving (by simp [h.requests])
  serving := by simp [h.requests]
  idle := by simp [h.requests]
  unregistered := by simp [h.requests]
  quiet _ := ⟨h.running, h.idle⟩

/-- In a run whose requests keep apart, the status is what it says whenever all requests have
ended, and a rejected request leaves a running device alone. -/
theorem settled_of_apart (slave : ℤ) (registers : List RegisterInfo) {s : Lifecycle α}
    (h : s.Ready registry device) (events : List Event)
    (hapart : EachStep (step registry device slave registers)
      (fun s e _ => Apart registry device s e) s events) :
    EachStep (step registry device slave registers) (fun s e s' =>
      (s'.Quiet → s'.Settled registry device) ∧
        LeavesRunning registry device slave registers s e s') s events :=
  hapart.guarded (J := Inv registry device)
    (fun _ _ _ hinv hs hg => ⟨inv_step hinv hg hs, (inv_step hinv hg hs).settled,
      hinv.leavesRunning hg hs⟩) h.inv

/-- A stopped Modbus device. -/
def stoppedMeter : Lifecycle ModbusTcpAdapter where
  status := .stopped
  adapter := { state := ModbusTcpAdapter.start {} }
  engine := {}

theorem ready_stoppedMeter : stoppedMeter.Ready modbusRegistry 7 where
  requests := rfl
  running := iff_of_false nofun nofun
  idle _ := ⟨rfl, by rintro t ⟨task, htask, -⟩; cases htask⟩
  live := by
    rintro t ⟨task, htask, -⟩
    cases htask

/-- A start and then a stop. -/
theorem settled_of_apart_turns :
    EachStep (step modbusRegistry 7 1 []) (fun s e s' =>
      (s'.Quiet → s'.Settled modbusRegistry 7) ∧
        LeavesRunning modbusRegistry 7 1 [] s e s') stoppedMeter
      [.start, .register 0, .dataLoaded 0 [], .commit 0, .stop, .halt 1, .remove 1, .commit 1] := by
  apply settled_of_apart 1 [] ready_stoppedMeter
  rintro _ ⟨⟩
  refine ⟨trivial, ?_⟩
  rintro _ ⟨⟩
  refine ⟨⟨nofun, by decide⟩, ?_⟩
  rintro _ ⟨⟩
  refine ⟨trivial, ?_⟩
  rintro _ ⟨⟩
  refine ⟨trivial, ?_⟩
  rintro _ ⟨⟩
  refine ⟨trivial, ?_⟩
  rintro _ ⟨⟩
  refine ⟨List.forall_mem_cons.2 ⟨rfl, List.forall_mem_singleton.2 rfl⟩, ?_⟩
  rintro _ ⟨⟩
  refine ⟨trivial, ?_⟩
  rintro _ ⟨⟩
  exact ⟨trivial, trivial⟩

/-- Two starts that have both found the device stopped: the second one fails on the slave id of
the first, takes the statistics of the running device away and leaves it in error. -/
theorem double_start_not_settled : stoppedMeter.Ready modbusRegistry 7 ∧
    ¬ EachStep (step modbusRegistry 7 1 []) (fun s e s' =>
        (s'.Quiet → s'.Settled modbusRegistry 7) ∧
          LeavesRunning modbusRegistry 7 1 [] s e s') stoppedMeter
      [.start, .start, .register 0, .dataLoaded 0 [], .commit 0, .register 1, .commit 1] := by
  refine ⟨ready_stoppedMeter, fun h => ?_⟩
  obtain ⟨-, h⟩ := h _ rfl
  obtain ⟨-, h⟩ := h _ rfl
  obtain ⟨-, h⟩ := h _ rfl
  obtain ⟨-, h⟩ := h _ rfl
  obtain ⟨-, h⟩ := h _ rfl
  obtain ⟨-, h⟩ := h _ rfl
  obtain ⟨⟨hsettled, -⟩, -⟩ := h _ rfl
  have hquiet := hsettled (List.forall_mem_cons.2 ⟨rfl, List.forall_mem_singleton.2 rfl⟩)
  cases hquiet.running.2 rfl

end Lifecycle

end Services

end GhostMeter
