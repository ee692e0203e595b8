import GhostMeter.Lib.Run
import GhostMeter.Protocols.Base
import GhostMeter.Protocols.MqttAdapter

/-! The statistics of a device that a publish loop keeps: what each round counts. -/

namespace GhostMeter.Protocols

open GhostMeter.Lib GhostMeter.Simulation

/-- What goes on in a publish loop, and beside it. -/
inductive LoopEvent
  | starts
  /-- After a sleep: the fault of the device, a drawn `random.random()`, and the names of the
  current values. -/
  | wakes (fault : Option FaultConfig) (random : PyFloat) (values : List String)
  | published
  /-- The client raises `MqttError`. -/
  | connectionLost
  /-- The client raises another exception. -/
  | raises
  | cancelled
  /-- The device's other loops count. -/
  | others (requests successes errors : ℕ)

/-- A publish loop with the statistics of its device. -/
structure PublishLoop where
  place : Option PublishPlace := some .created
  stats : DeviceStats
  /-- What the statistics had at first, and what other loops have added. -/
  others : DeviceStats
  /-- The rounds that were dropped before they attempted a message, or another one. -/
  dropped : ℕ := 0
  /-- The messages that `_publish_one` was called for. -/
  attempted : ℕ := 0

def DeviceStats.add (stats : DeviceStats) (requests successes errors : ℕ) : DeviceStats :=
  { stats with
    requestCount := stats.requestCount + requests
    successCount := stats.successCount + successes
    errorCount := stats.errorCount + errors }

namespace PublishLoop

section Steps

-- `renders`: whether the topic of a message can be rendered
variable (renders : PublishConfig → String → Bool) (s : MqttAdapter) (broker : UUID)

def waits (l : PublishLoop) (place : PublishPlace) : PublishLoop := { l with place := some place }

def count (l : PublishLoop) (requests successes errors : ℕ) : PublishLoop :=
  { l with stats := l.stats.add requests successes errors }

def stops (l : PublishLoop) : PublishLoop := { l with place := none }

/-- Other loops count. -/
def beside (l : PublishLoop) (requests successes errors : ℕ) : PublishLoop :=
  { l.count requests successes errors with others := l.others.add requests successes errors }

/-- A round is dropped, by the code's own tests or by an exception that the loop catches. -/
def drop (l : PublishLoop) (config : PublishConfig) : PublishLoop :=
  { (l.count 1 0 1).waits (.interval config) with dropped := l.dropped + 1 }

/-- `_publish_one` counts an error and raises again, and the loop catches it. -/
def attemptFails (l : PublishLoop) (config : PublishConfig) : PublishLoop :=
  ((l.count 0 0 1).count 1 0 1).waits (.interval config)

/-- The rest of a round: its next message up to the client, if there is one. -/
def attempt (l : PublishLoop) (config : PublishConfig) : List String → PublishLoop
  | [] => l.waits (.interval config)
  | m :: rest =>
    if renders config m then
      let l := { l.count 1 0 0 with attempted := l.attempted + 1 }
      if (s.clients broker).isSome then l.waits (.publish config rest) else l.attemptFails config
    else l.drop config

/-- A round after its sleeps. -/
def round (l : PublishLoop) (config : PublishConfig) (values : List String) : PublishLoop :=
  if s.isBrokerConnected broker then l.attempt renders s broker config (config.messages values)
  else l.drop config

/-- From one await to the next; the adapter is as the others have left it by then. -/
def step (key : PublishKey) (l : PublishLoop) :
    MqttAdapter × LoopEvent → Option PublishLoop
  | (s, e) =>
    match l.place, e with
    | some .created, .starts => some (match s.publishConfigs key with
      | none => l.stops
      | some config => l.waits (.interval config))
    | some (.interval config), .wakes fault random values =>
      some (match publishFault fault random with
        | .error _ => l.drop config
        | .ok .drop => l.drop config
        | .ok .delay => l.waits (.delay config)
        | .ok .send => l.round renders s key.2 config values)
    | some (.delay config), .wakes _ _ values => some (l.round renders s key.2 config values)
    | some (.publish config rest), .published =>
      some ((l.count 0 1 0).attempt renders s key.2 config rest)
    | some (.publish config _), .connectionLost => some (l.attemptFails config)
    | some (.publish config _), .raises => some (l.attemptFails config)
    | some _, .cancelled => some l.stops
    | _, .others requests successes errors => some (l.beside requests successes errors)
    | _, _ => none

/-- The message that is with the client. -/
def inFlight (l : PublishLoop) : ℕ :=
  match l.place with
  | some (.publish _ _) => 1
  | _ => 0

/-- Every dropped round and every attempted message is one request with one outcome, but for `n`
outcomes that are still to come. -/
structure Owes (l : PublishLoop) (n : ℕ) : Prop where
  requests : l.stats.requestCount = l.others.requestCount + (l.dropped + l.attempted)
  outcomes : l.stats.successCount + l.stats.errorCount + n =
    l.others.successCount + l.others.errorCount + (l.dropped + l.attempted)

/-- Only the message that is with the client has no outcome yet. -/
def Accounted (l : PublishLoop) : Prop := l.Owes l.inFlight

/-- The next message of a round would find no client. -/
def NoClient (config : PublishConfig) (messages : List String) : Prop :=
  (∃ m ∈ messages.head?, renders config m) ∧ s.clients broker = none

/-- An attempt ends otherwise than by the message being published. -/
def Fails (key : PublishKey) (l : PublishLoop) : MqttAdapter × LoopEvent → Prop
  | (s, e) =>
    match l.place, e with
    | some (.interval config), .wakes fault random values =>
      publishFault fault random = .ok .send ∧ s.isBrokerConnected key.2 ∧
        NoClient renders s key.2 config (config.messages values)
    | some (.delay config), .wakes _ _ values =>
      s.isBrokerConnected key.2 ∧ NoClient renders s key.2 config (config.messages values)
    | some (.publish config rest), .published => NoClient renders s key.2 config rest
    | some (.publish _ _), .connectionLost => True
    | some (.publish _ _), .raises => True
    | some (.publish _ _), .cancelled => True
    | _, _ => False

end Steps

variable {renders : PublishConfig → String → Bool} {s : MqttAdapter} {broker : UUID}
  {key : PublishKey} {l l' : PublishLoop} {config : PublishConfig} {e : LoopEvent}

theorem Owes.waits {n : ℕ} {place : PublishPlace} (h : l.Owes n)
    (hplace : (l.waits place).inFlight = n) : (l.waits place).Accounted := by
  rw [Accounted, hplace]
  exact ⟨h.requests, h.outcomes⟩

theorem Owes.stops (h : l.Owes 0) : l.stops.Accounted := ⟨h.requests, h.outcomes⟩

theorem Owes.not_stops (h : l.Owes 1) : ¬ l.stops.Accounted := by
  rintro ⟨-, houtcomes⟩
  change l.stats.successCount + l.stats.errorCount + 0 =
    l.others.successCount + l.others.errorCount + (l.dropped + l.attempted) at houtcomes
  have hbefore := h.outcomes
  omega

theorem Accounted.beside (h : l.Accounted) (requests successes errors : ℕ) :
    (l.beside requests successes errors).Accounted := by
  obtain ⟨hrequests, houtcomes⟩ := h
  constructor
  · change l.stats.requestCount + requests =
      l.others.requestCount + requests + (l.dropped + l.attempted)
    omega
  · change l.stats.successCount + successes + (l.stats.errorCount + errors) + l.inFlight =
      l.others.successCount + successes + (l.others.errorCount + errors) +
        (l.dropped + l.attempted)
    omega

theorem Owes.published (h : l.Owes 1) : (l.count 0 1 0).Owes 0 := by
  obtain ⟨hrequests, houtcomes⟩ := h
  refine ⟨hrequests, ?_⟩
  change l.stats.successCount + 1 + (l.stats.errorCount + 0) + 0 =
    l.others.successCount + l.others.errorCount + (l.dropped + l.attempted)
  omega

theorem Owes.drop (h : l.Owes 0) : (l.drop config).Accounted := by
  obtain ⟨hrequests, houtcomes⟩ := h
  constructor
  · change l.stats.requestCount + 1 = l.others.requestCount + (l.dropped + 1 + l.attempted)
    omega
  · change l.stats.successCount + 0 + (l.stats.errorCount + 1) + 0 =
      l.others.successCount + l.others.errorCount + (l.dropped + 1 + l.attempted)
    omega

/-- The handler of the loop counts a request that is none. -/
theorem Owes.attemptFails {n : ℕ} (h : l.Owes n) : ¬ (l.attemptFails config).Accounted := by
  rintro ⟨hrequests, -⟩
  change l.stats.requestCount + 0 + 1 =
    l.others.requestCount + (l.dropped + l.attempted) at hrequests
  have hbefore := h.requests
  omega

theorem Owes.attempt (h : l.Owes 0) (messages : List String) :
    (l.attempt renders s broker config messages).Accounted ↔
      ¬ NoClient renders s broker config messages := by
  have hsent : ({ l.count 1 0 0 with attempted := l.attempted + 1 } : PublishLoop).Owes 1 := by
    obtain ⟨hrequests, houtcomes⟩ := h
    constructor
    · change l.stats.requestCount + 1 = l.others.requestCount + (l.dropped + (l.attempted + 1))
      omega
    · change l.stats.successCount + 0 + (l.stats.errorCount + 0) + 1 =
        l.others.successCount + l.others.errorCount + (l.dropped + (l.attempted + 1))
      omega
  cases messages with
  | nil => exact iff_of_true (h.waits rfl) (by simp [NoClient])
  | cons m rest =>
    rw [PublishLoop.attempt, NoClient]
    by_cases hrenders : renders config m = true
    · rw [if_pos hrenders]
      cases hclient : s.clients broker with
      | none => exact iff_of_false hsent.attemptFails (by simp [hrenders])
      | some c => exact iff_of_true (hsent.waits rfl) (by simp)
    · rw [if_neg hrenders]
      exact iff_of_true h.drop (by simp [hrenders])

theorem Owes.round (h : l.Owes 0) (values : List String) :
    (l.round renders s broker config values).Accounted ↔ ¬ (s.isBrokerConnected broker ∧
      NoClient renders s broker config (config.messages values)) := by
  unfold PublishLoop.round
  split
  next hconnected => simp only [h.attempt, hconnected, true_and]
  next hconnected => exact iff_of_true h.drop fun hno => hconnected hno.1

/-- A step keeps the account exactly if no attempt fails in it. -/
theorem accounted_step_iff {a : MqttAdapter × LoopEvent} (h : l.Accounted)
    (hstep : step renders key l a = some l') :
    l'.Accounted ↔ ¬ Fails renders key l a := by
  obtain ⟨s, e⟩ := a
  rcases hplace : l.place with _ | (_ | config | config | ⟨config, rest⟩) <;> cases e <;>
    simp only [step, Fails, hplace, reduceCtorEq, Option.some.injEq] at hstep ⊢ <;>
    obtain rfl := hstep
  case none.others | some.created.others | some.interval.others | some.delay.others |
      some.publish.others =>
    exact iff_of_true (h.beside ..) not_false
  all_goals rw [Accounted, inFlight, hplace] at h
  case some.created.starts =>
    split
    next => exact iff_of_true h.stops not_false
    next => exact iff_of_true (h.waits rfl) not_false
  case some.created.cancelled | some.interval.cancelled | some.delay.cancelled =>
    exact iff_of_true h.stops not_false
  case some.interval.wakes fault random values =>
    split
    next hfault => exact iff_of_true h.drop (by simp [hfault])
    next hfault => exact iff_of_true h.drop (by simp [hfault])
    next hfault => exact iff_of_true (h.waits rfl) (by simp [hfault])
    next hfault => rw [h.round, hfault, and_iff_right rfl]
  case some.delay.wakes fault random values => exact h.round values
  case some.publish.published => exact h.published.attempt rest
  case some.publish.cancelled => exact iff_of_false h.not_stops (not_not_intro trivial)
  case some.publish.connectionLost | some.publish.raises =>
    exact iff_of_false h.attemptFails (not_not_intro trivial)

/-- In every run of a loop, all that it drops and attempts is counted once exactly as long as no
attempt fails: a failed one is counted twice, and a cancelled one has no outcome. -/
theorem accounted_always_iff {as : List (MqttAdapter × LoopEvent)} (h : l.Accounted) :
    Always (step renders key) Accounted l as ↔
      EachStep (step renders key) (fun l a _ => ¬ Fails renders key l a) l as :=
  always_iff_eachStep (J := fun _ => True) (fun _ _ _ _ _ => trivial)
    (fun _ _ _ _ hl hstep => accounted_step_iff hl hstep) trivial h

theorem place_attempt (messages : List String) :
    (l.attempt renders s broker config messages).place =
        some (s.publishOne broker config messages) ∨
      (l.attempt renders s broker config messages).place = some (.interval config) := by
  cases messages with
  | nil => exact Or.inl rfl
  | cons m rest =>
    rw [PublishLoop.attempt, MqttAdapter.publishOne]
    split
    · left
      split <;> rfl
    · exact Or.inr rfl

theorem place_round (values : List String) :
    (l.round renders s broker config values).place =
        some (s.publishRound broker config values) ∨
      (l.round renders s broker config values).place = some (.interval config) := by
  unfold PublishLoop.round MqttAdapter.publishRound
  split
  · exact place_attempt _
  · exact Or.inl rfl

/-- The loop takes the steps of the adapter's publish tasks. -/
theorem publishNext_of_step {place : PublishPlace}
    (h : step renders key l (s, e) = some l') (hplace : l.place = some place)
    (hcreated : place ≠ .created) (hcancelled : e ≠ .cancelled)
    (hothers : ∀ requests successes errors, e ≠ .others requests successes errors) :
    ∃ e' next lost, s.publishNext key.2 place e' = some (next, lost) ∧ l'.place = some next := by
  rcases place with _ | config | config | ⟨config, rest⟩ <;> cases e <;>
    simp only [step, hplace, reduceCtorEq, Option.some.injEq] at h <;>
    obtain rfl := h
  case created.starts => exact absurd rfl hcreated
  case created.cancelled | interval.cancelled | delay.cancelled | publish.cancelled =>
    exact absurd rfl hcancelled
  case created.others | interval.others | delay.others | publish.others =>
    exact absurd rfl (hothers _ _ _)
  case interval.wakes fault random values =>
    cases hfault : publishFault fault random with
    | error e =>
      refine ⟨.wakes fault random values, .interval config, false, ?_, rfl⟩
      rw [MqttAdapter.publishNext, hfault]
    | ok decision =>
      cases decision with
      | drop =>
        refine ⟨.wakes fault random values, .interval config, false, ?_, rfl⟩
        rw [MqttAdapter.publishNext, hfault]
      | delay =>
        refine ⟨.wakes fault random values, .delay config, false, ?_, rfl⟩
        rw [MqttAdapter.publishNext, hfault]
      | send =>
        rcases @place_round renders s key.2 l config values with hround | hround
        · refine ⟨.wakes fault random values, _, false, ?_, hround⟩
          rw [MqttAdapter.publishNext, hfault]
        · exact ⟨.raises, _, false, rfl, hround⟩
  case delay.wakes fault random values =>
    rcases @place_round renders s key.2 l config values with hround | hround
    · exact ⟨.wakes fault random values, _, false, rfl, hround⟩
    · exact ⟨.raises, _, false, rfl, hround⟩
  case publish.published =>
    rcases place_attempt (l := l.count 0 1 0) rest with hattempt | hattempt
    · exact ⟨.published, _, false, rfl, hattempt⟩
    · exact ⟨.raises, _, false, rfl, hattempt⟩
  case publish.connectionLost => exact ⟨.connectionLost, _, true, rfl, rfl⟩
  case publish.raises => exact ⟨.raises, _, false, rfl, rfl⟩

end PublishLoop

/-- An adapter with a client for its one broker. -/
def oneBroker : MqttAdapter where
  brokerInfo := Dict.empty.set 1 ⟨"Broker", "localhost", 1883, true⟩
  clients := Dict.empty.set 1 0
  publishConfigs := Dict.empty.set (0, 1) ⟨"telemetry", .batch, 5, 0, false⟩

theorem accounted_new : PublishLoop.Accounted { stats := {}, others := {} } := ⟨rfl, rfl⟩

namespace PublishLoop

theorem accounted_always_iff_published :
    Always (step (fun _ _ => true) (0, 1)) Accounted { stats := {}, others := {} }
        [(oneBroker, .starts), (oneBroker, .wakes none .zero ["power"]), (oneBroker, .published)] ↔
      EachStep (step (fun _ _ => true) (0, 1)) (fun l a _ => ¬ Fails (fun _ _ => true) (0, 1) l a)
        { stats := {}, others := {} }
        [(oneBroker, .starts), (oneBroker, .wakes none .zero ["power"]), (oneBroker, .published)] :=
  accounted_always_iff accounted_new

/-- One message, which fails: two requests and two errors. -/
theorem failure_counts_twice : ¬ ∀ renders key l as, Accounted l →
    Always (step renders key) Accounted l as := by
  intro h
  have hrun := (h (fun _ _ => true) (0, 1) { stats := {}, others := {} } [(oneBroker, .starts),
    (oneBroker, .wakes none .zero ["power"]), (oneBroker, .connectionLost)]
    accounted_new).of_exec rfl
  exact absurd hrun.requests (by decide)

end PublishLoop

end GhostMeter.Protocols
