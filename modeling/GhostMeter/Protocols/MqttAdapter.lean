import GhostMeter.Lib.AsyncTask
import GhostMeter.Lib.OrderedDict
import GhostMeter.Models

/-! The MQTT adapter: its clients, its background tasks, and its calls, which run from one await
to the next.  What the broker and the clock make of an await is part of the event. -/

namespace GhostMeter.Protocols

open GhostMeter.Lib GhostMeter.Simulation

/-- A device and a broker. -/
abbrev PublishKey := UUID × UUID

/-- An entry of `_publish_configs`. -/
structure PublishConfig where
  topicTemplate : String
  payloadMode : PayloadMode
  interval : ℤ
  qos : ℤ
  retain : Bool

structure BrokerInfo where
  name : String
  host : String
  port : ℤ
  connected : Bool

/-- Where a publish loop waits. -/
inductive PublishPlace
  /-- For its first step. -/
  | created
  | interval (config : PublishConfig)
  | delay (config : PublishConfig)
  /-- For the client, with the messages of this round that are still to come. -/
  | publish (config : PublishConfig) (rest : List String)

/-- Where a reconnect loop waits. -/
inductive ReconnectPlace
  | created
  | backoff (delay : ℚ)
  | clientExit (delay : ℚ)
  | clientEnter (delay : ℚ)

/-- A broker's clients and reconnect loops, and the publish loops of a device for a broker, are
known by their places in the lists of all that there were; the tables hold the current ones. -/
structure MqttAdapter where
  available : Bool := false
  brokerInfo : Dict UUID BrokerInfo := Dict.empty
  brokerSettings : Dict UUID MqttBrokerSettings := Dict.empty
  clients : Dict UUID ℕ := Dict.empty
  /-- For each client that was opened, whether it still is: no close has begun. -/
  opened : UUID → List Bool := fun _ => []
  reconnectTasks : Dict UUID ℕ := Dict.empty
  reconnects : UUID → List (AsyncTask ReconnectPlace) := fun _ => []
  publishTasks : OrderedDict PublishKey ℕ := .empty
  publishes : PublishKey → List (AsyncTask PublishPlace) := fun _ => []
  publishConfigs : Dict PublishKey PublishConfig := Dict.empty

/-- A call of a method of the adapter. -/
inductive MqttCall
  | connectBroker (broker : UUID) (settings : MqttBrokerSettings)
  | disconnectBroker (broker : UUID)
  | reconnectBroker (broker : UUID) (settings : MqttBrokerSettings)
  | startPublishing (key : PublishKey) (config : MqttPublishConfig)
  | stopPublishing (device : UUID) (broker : Option UUID)
  | removeDevice (device : UUID)

namespace MqttCall

/-- The test that the call's loop makes of the keys of `_publish_tasks`. -/
def cancels : MqttCall → PublishKey → Bool
  | connectBroker .., _ => false
  | disconnectBroker broker, key => key.2 = broker
  | reconnectBroker broker _, key => key.2 = broker
  | startPublishing key' _, key => key = key'
  | stopPublishing device none, key => key.1 = device
  | stopPublishing device (some broker), key => key.1 = device ∧ key.2 = broker
  | removeDevice device, key => key.1 = device

/-- The broker that the call is about, unless it is about a device. -/
def broker : MqttCall → Option UUID
  | connectBroker broker _ => some broker
  | disconnectBroker broker => some broker
  | reconnectBroker broker _ => some broker
  | startPublishing key _ => some key.2
  | stopPublishing _ broker => broker
  | removeDevice _ => none

/-- The broker whose client the call opens. -/
def connecting : MqttCall → Option UUID
  | connectBroker broker _ => some broker
  | reconnectBroker broker _ => some broker
  | _ => none

theorem broker_of_connecting {call : MqttCall} {b : UUID} (h : call.connecting = some b) :
    call.broker = some b := by
  cases call <;> first | exact h | cases h

theorem key_of_cancels {call : MqttCall} {key : PublishKey} {b : UUID}
    (hbroker : call.broker = some b) (h : call.cancels key = true) : key.2 = b := by
  cases call with
  | connectBroker => cases h
  | stopPublishing device broker =>
    obtain rfl : broker = some b := hbroker
    exact (of_decide_eq_true h).2
  | startPublishing key' config =>
    obtain rfl : key = key' := of_decide_eq_true h
    exact Option.some.inj hbroker
  | removeDevice => cases hbroker
  | _ =>
    cases hbroker
    exact of_decide_eq_true h

end MqttCall

/-- What a call waits for. -/
inductive MqttAwait (call : MqttCall)
  | reconnectTask (r : ℕ)
  /-- A cancelled publish task, with the keys that the loop has still to look at. -/
  | publishTask (key : PublishKey) (h : call.cancels key = true) (t : ℕ)
      (rest : List PublishKey)
  | clientExit
  | clientEnter
  /-- Nothing: it has returned, `False` or an exception being no success. -/
  | finished (ok : Bool)

namespace MqttAdapter

/-- `RECONNECT_INITIAL_DELAY` and `RECONNECT_MAX_DELAY`. -/
def reconnectInitialDelay : ℚ := 1

def reconnectMaxDelay : ℚ := 60

variable (s : MqttAdapter)

def isBrokerConnected (broker : UUID) : Bool := (s.brokerInfo broker).any (·.connected)

def setConnected (broker : UUID) (connected : Bool) : MqttAdapter :=
  { s with brokerInfo := s.brokerInfo.modify broker fun info => { info with connected } }

/-- `_try_connect`, once the client has opened. -/
def storeClient (broker : UUID) : MqttAdapter :=
  { s with
    clients := s.clients.set broker (s.opened broker).length
    opened := Function.update s.opened broker (s.opened broker ++ [true]) }.setConnected broker true

/-- `_close_client` up to the exit of the client, if there is one to wait for. -/
def closeClient (broker : UUID) : MqttAdapter × Bool :=
  match s.clients broker with
  | none => (s.setConnected broker false, false)
  | some c => ({ s with
      clients := s.clients.pop broker
      opened := Function.update s.opened broker ((s.opened broker).set c false) }, true)

def scheduleReconnect (broker : UUID) : MqttAdapter :=
  if (s.reconnectTasks broker).all (isDone (s.reconnects broker)) ∧
      (s.brokerSettings broker).isSome then
    { s with
      reconnects := Function.update s.reconnects broker
        (s.reconnects broker ++ [{ place := some .created }])
      reconnectTasks := s.reconnectTasks.set broker (s.reconnects broker).length }
  else s

def markBrokerDisconnected (broker : UUID) : MqttAdapter :=
  (s.setConnected broker false).scheduleReconnect broker

/-- `_cancel_reconnect_task` up to the task that it awaits, if any. -/
def cancelReconnectTask (broker : UUID) : MqttAdapter × Option ℕ :=
  match s.reconnectTasks broker with
  | none => (s, none)
  | some r =>
    let s := { s with reconnectTasks := s.reconnectTasks.pop broker }
    if isDone (s.reconnects broker) r then (s, none)
    else ({ s with
      reconnects := Function.update s.reconnects broker
        ((s.reconnects broker).modify r AsyncTask.cancel) }, some r)

def dropConfig (key : PublishKey) : MqttAdapter :=
  { s with publishConfigs := s.publishConfigs.pop key }

/-- `_cancel_publish_task` up to the task that it awaits; without one, to its end. -/
def cancelPublishTask (key : PublishKey) : MqttAdapter × Option ℕ :=
  match s.publishTasks.get key with
  | none => (s.dropConfig key, none)
  | some t =>
    let s := { s with publishTasks := s.publishTasks.pop key }
    if isDone (s.publishes key) t then (s.dropConfig key, none)
    else ({ s with
      publishes := Function.update s.publishes key
        ((s.publishes key).modify t AsyncTask.cancel) }, some t)

/-- The end of `start_publishing`. -/
def registerPublish (key : PublishKey) (config : MqttPublishConfig) : MqttAdapter :=
  { s with
    publishConfigs := s.publishConfigs.set key {
      topicTemplate := config.topicTemplate
      payloadMode := config.payloadMode
      interval := config.publishIntervalSeconds
      qos := config.qos
      retain := config.retain }
    publishes := Function.update s.publishes key (s.publishes key ++ [{ place := some .created }])
    publishTasks := s.publishTasks.set key (s.publishes key).length }

/-- `connect_broker` up to the opening of the client. -/
def recordBroker (broker : UUID) (settings : MqttBrokerSettings) : MqttAdapter :=
  { s with
    available := true
    brokerInfo := s.brokerInfo.set broker {
      name := settings.name, host := settings.host, port := settings.port, connected := false }
    brokerSettings := s.brokerSettings.set broker settings }

def forgetBroker (broker : UUID) : MqttAdapter :=
  { s with
    brokerInfo := s.brokerInfo.pop broker
    brokerSettings := s.brokerSettings.pop broker }

section Calls

variable (call : MqttCall)

/-- What follows `_close_client`. -/
def afterClose : MqttAdapter × MqttAwait call :=
  match call with
  | .disconnectBroker broker => (s.forgetBroker broker, .finished true)
  | .reconnectBroker broker settings => (s.recordBroker broker settings, .clientEnter)
  | _ => (s, .finished true)

/-- What follows the loop over the publish tasks. -/
def afterCancels : MqttAdapter × MqttAwait call :=
  match call with
  | .disconnectBroker broker =>
    match s.closeClient broker with
    | (s, true) => (s, .clientExit)
    | (s, false) => s.afterClose (.disconnectBroker broker)
  | .reconnectBroker broker settings =>
    match s.closeClient broker with
    | (s, true) => (s, .clientExit)
    | (s, false) => s.afterClose (.reconnectBroker broker settings)
  | .startPublishing key config => (s.registerPublish key config, .finished true)
  | _ => (s, .finished true)

/-- The loop over `list(self._publish_tasks)`. -/
def cancelPublishTasks : MqttAdapter → List PublishKey → MqttAdapter × MqttAwait call
  | s, [] => s.afterCancels call
  | s, key :: rest =>
    if h : call.cancels key = true then
      match s.cancelPublishTask key with
      | (s, some t) => (s, .publishTask key h t rest)
      | (s, none) => cancelPublishTasks s rest
    else cancelPublishTasks s rest

/-- A call up to its first await. -/
def begin : MqttAdapter × MqttAwait call :=
  match call with
  | .connectBroker broker settings => (s.recordBroker broker settings, .clientEnter)
  | .disconnectBroker broker =>
    match s.cancelReconnectTask broker with
    | (s, some r) => (s, .reconnectTask r)
    | (s, none) => cancelPublishTasks (.disconnectBroker broker) s s.publishTasks.keys
  | .reconnectBroker broker settings =>
    match s.cancelReconnectTask broker with
    | (s, some r) => (s, .reconnectTask r)
    | (s, none) => cancelPublishTasks (.reconnectBroker broker settings) s s.publishTasks.keys
  | .startPublishing key config =>
    if s.isBrokerConnected key.2 then
      cancelPublishTasks (.startPublishing key config) s s.publishTasks.keys
    else (s, .finished false)
  | .stopPublishing device broker =>
    cancelPublishTasks (.stopPublishing device broker) s s.publishTasks.keys
  | .removeDevice device => cancelPublishTasks (.removeDevice device) s s.publishTasks.keys

variable {call}

/-- A call from one await to the next.  A client that it waits for opens, or not. -/
def resume (opens : Bool) : MqttAwait call → Option (MqttAdapter × MqttAwait call)
  | .reconnectTask r => call.broker.bind fun broker =>
    if isDone (s.reconnects broker) r then some (cancelPublishTasks call s s.publishTasks.keys)
    else none
  | .publishTask key _ t rest =>
    if isDone (s.publishes key) t then some (cancelPublishTasks call (s.dropConfig key) rest)
    else none
  | .clientExit => call.broker.map fun broker => (s.setConnected broker false).afterClose call
  | .clientEnter => call.connecting.map fun broker =>
    if opens then (s.storeClient broker, .finished true)
    else (s.scheduleReconnect broker, .finished false)
  | .finished _ => none

end Calls

section Loops

def setReconnect (broker : UUID) (r : ℕ) (task : AsyncTask ReconnectPlace) : MqttAdapter :=
  { s with reconnects := Function.update s.reconnects broker ((s.reconnects broker).set r task) }

/-- The end of a reconnect loop, with its `finally`. -/
def endReconnect (broker : UUID) (r : ℕ) (task : AsyncTask ReconnectPlace) : MqttAdapter :=
  { s.setReconnect broker r task.finish with reconnectTasks := s.reconnectTasks.pop broker }

/-- A reconnect loop from one await to the next. -/
def reconnectStep (broker : UUID) (r : ℕ) (opens : Bool) : Option MqttAdapter :=
  match (s.reconnects broker)[r]? with
  | none => none
  | some task =>
    match task.place with
    | none => none
    | some .created => some (s.setReconnect broker r
        -- a task that is cancelled before its first step never runs its body
        (if task.cancelled then task.finish else task.moveTo (.backoff reconnectInitialDelay)))
    | some place =>
      if task.cancelled then some (s.endReconnect broker r task)
      else
        match place with
        | .created => none
        | .backoff delay =>
          match s.brokerSettings broker with
          | none => some (s.endReconnect broker r task)
          | some _ =>
            match s.closeClient broker with
            | (s, true) => some (s.setReconnect broker r (task.moveTo (.clientExit delay)))
            | (s, false) => some (s.setReconnect broker r (task.moveTo (.clientEnter delay)))
        | .clientExit delay =>
          some ((s.setConnected broker false).setReconnect broker r
            (task.moveTo (.clientEnter delay)))
        | .clientEnter delay =>
          if opens then some ((s.storeClient broker).endReconnect broker r task)
          else some (s.setReconnect broker r
            (task.moveTo (.backoff (min (delay * 2) reconnectMaxDelay))))

def setPublish (key : PublishKey) (t : ℕ) (task : AsyncTask PublishPlace) : MqttAdapter :=
  { s with publishes := Function.update s.publishes key ((s.publishes key).set t task) }

end Loops

end MqttAdapter

/-- What a publish loop finds when it goes on. -/
inductive PublishEvent
  /-- After a sleep: the fault of the device, a drawn `random.random()`, and the names of the
  current values. -/
  | wakes (fault : Option FaultConfig) (random : PyFloat) (values : List String)
  | published
  /-- The client raises `MqttError`. -/
  | connectionLost
  /-- Any other exception, also out of the rendering of a topic. -/
  | raises

inductive FaultDecision
  | drop | delay | send

/-- What the fault of the device makes of a round. -/
def publishFault (fault : Option FaultConfig) (random : PyFloat) : Except PyError FaultDecision :=
  match fault with
  | none => .ok .send
  | some fault =>
    match fault.faultType with
    | .timeout => .ok .drop
    | .intermittent => do
      return if random.lt (← getFailureRate fault.params) then .drop else .send
    | .delay => do
      let _ ← getDelaySeconds fault.params
      return .delay
    | _ => .ok .send

/-- The messages of a round, by the registers that they are about. -/
def PublishConfig.messages (config : PublishConfig) (values : List String) : List String :=
  if values = [] then []
  else if config.payloadMode = .batch then [""]
  else values

namespace MqttAdapter

variable (s : MqttAdapter)

/-- `_publish_one` for the first of the messages, up to the client; without a client it raises. -/
def publishOne (broker : UUID) (config : PublishConfig) : List String → PublishPlace
  | [] => .interval config
  | _ :: rest => if (s.clients broker).isSome then .publish config rest else .interval config

/-- A round after its sleeps. -/
def publishRound (broker : UUID) (config : PublishConfig) (values : List String) : PublishPlace :=
  if s.isBrokerConnected broker then s.publishOne broker config (config.messages values)
  else .interval config

/-- Where a publish loop goes on to, and whether the connection is lost. -/
def publishNext (broker : UUID) : PublishPlace → PublishEvent → Option (PublishPlace × Bool)
  | .interval config, .wakes fault random values =>
    some (match publishFault fault random with
      | .error _ => .interval config
      | .ok .drop => .interval config
      | .ok .delay => .delay config
      | .ok .send => s.publishRound broker config values, false)
  | .delay config, .wakes _ _ values => some (s.publishRound broker config values, false)
  | .publish config rest, .published => some (s.publishOne broker config rest, false)
  | .publish config _, .connectionLost => some (.interval config, true)
  | .interval config, .raises => some (.interval config, false)
  | .delay config, .raises => some (.interval config, false)
  | .publish config _, .raises => some (.interval config, false)
  | _, _ => none

/-- A publish loop from one await to the next. -/
def publishStep (key : PublishKey) (t : ℕ) (e : PublishEvent) : Option MqttAdapter :=
  match (s.publishes key)[t]? with
  | none => none
  | some task =>
    match task.place with
    | none => none
    | some place =>
      if task.cancelled then some (s.setPublish key t task.finish)
      else
        match place with
        | .created =>
          match s.publishConfigs key with
          | none => some (s.setPublish key t task.finish)
          | some config => some (s.setPublish key t (task.moveTo (.interval config)))
        | place => (s.publishNext key.2 place e).map fun (next, lost) =>
          let s := s.setPublish key t (task.moveTo next)
          if lost then s.markBrokerDisconnected key.2 else s

end MqttAdapter

/-- The config that the loop has read. -/
def PublishPlace.config : PublishPlace → Option PublishConfig
  | created => none
  | interval config => some config
  | delay config => some config
  | publish config _ => some config

namespace MqttAdapter

variable {s s' : MqttAdapter} {call : MqttCall}

/-- What a step of a reconnect loop does. -/
theorem reconnectStep_cases {broker : UUID} {r : ℕ} {opens : Bool}
    (h : s.reconnectStep broker r opens = some s') :
    ∃ task place, (s.reconnects broker)[r]? = some task ∧ task.place = some place ∧
      ((task.cancelled = true ∧ s' = s.setReconnect broker r task.finish) ∨
        (place ≠ .created ∧ s' = s.endReconnect broker r task) ∨
        (∃ s₁ next, task.cancelled = false ∧
          (s₁ = s ∨ s₁ = (s.closeClient broker).1 ∨ s₁ = s.setConnected broker false) ∧
          s' = s₁.setReconnect broker r (task.moveTo next)) ∨
        (task.cancelled = false ∧ opens = true ∧ (∃ delay, place = .clientEnter delay) ∧
          s' = (s.storeClient broker).endReconnect broker r task)) := by
  unfold reconnectStep at h
  split at h
  next => cases h
  next task htask =>
    split at h
    next => cases h
    next hplace =>
      obtain rfl := Option.some.inj h
      refine ⟨task, _, htask, hplace, ?_⟩
      cases hcancelled : task.cancelled with
      | true => exact Or.inl ⟨rfl, rfl⟩
      | false => exact Or.inr (Or.inr (Or.inl ⟨s, _, rfl, Or.inl rfl, rfl⟩))
    next place hcreated hplace =>
      refine ⟨task, place, htask, hplace, Or.inr ?_⟩
      cases hcancelled : task.cancelled with
      | true =>
        rw [hcancelled, if_pos rfl] at h
        exact Or.inl ⟨hcreated, (Option.some.inj h).symm⟩
      | false =>
        rw [hcancelled, if_neg Bool.false_ne_true] at h
        cases place with
        | created => cases h
        | backoff delay =>
          simp only at h
          split at h
          next => exact Or.inl ⟨hcreated, (Option.some.inj h).symm⟩
          next =>
            split at h <;> next heq =>
              exact Or.inr (Or.inl ⟨_, _, rfl, Or.inr (Or.inl (by rw [heq])),
                (Option.some.inj h).symm⟩)
        | clientExit delay =>
          exact Or.inr (Or.inl ⟨_, _, rfl, Or.inr (Or.inr rfl), (Option.some.inj h).symm⟩)
        | clientEnter delay =>
          simp only at h
          split at h
          next hopens =>
            exact Or.inr (Or.inr ⟨rfl, hopens, ⟨delay, rfl⟩, (Option.some.inj h).symm⟩)
          next => exact Or.inr (Or.inl ⟨s, _, rfl, Or.inl rfl, (Option.some.inj h).symm⟩)

theorem config_publishOne (broker : UUID) (config : PublishConfig) (messages : List String) :
    (s.publishOne broker config messages).config = some config := by
  cases messages with
  | nil => rfl
  | cons message rest =>
    rw [publishOne]
    split <;> rfl

theorem config_publishRound (broker : UUID) (config : PublishConfig) (values : List String) :
    (s.publishRound broker config values).config = some config := by
  rw [publishRound]
  split
  · exact config_publishOne ..
  · rfl

theorem config_publishNext {broker : UUID} {place next : PublishPlace} {e : PublishEvent}
    {lost : Bool} (h : s.publishNext broker place e = some (next, lost)) :
    next.config = place.config := by
  cases place <;> cases e <;> simp only [publishNext, Option.some.injEq, Prod.mk.injEq,
    reduceCtorEq] at h <;> obtain ⟨rfl, -⟩ := h
  case interval.wakes config fault random values =>
    split
    · rfl
    · rfl
    · rfl
    · exact config_publishRound ..
  all_goals first | rfl | exact config_publishRound .. | exact config_publishOne ..

theorem lost_publishNext {broker : UUID} {place next : PublishPlace} {e : PublishEvent}
    (h : s.publishNext broker place e = some (next, true)) : e = .connectionLost := by
  cases place <;> cases e <;> simp [publishNext] at h ⊢

/-- What a step of a publish loop does. -/
theorem publishStep_cases {key : PublishKey} {t : ℕ} {e : PublishEvent}
    (h : s.publishStep key t e = some s') :
    ∃ task place, (s.publishes key)[t]? = some task ∧ task.place = some place ∧
      (((task.cancelled = true ∨ place.config = none ∧ s.publishConfigs key = none) ∧
          s' = s.setPublish key t task.finish) ∨
        ∃ next, task.cancelled = false ∧
          next.config = place.config.or (s.publishConfigs key) ∧
          (s' = s.setPublish key t (task.moveTo next) ∨
            e = .connectionLost ∧
              s' = (s.setPublish key t (task.moveTo next)).markBrokerDisconnected key.2)) := by
  unfold publishStep at h
  split at h
  next => cases h
  next task htask =>
    split at h
    next => cases h
    next place hplace =>
      refine ⟨task, place, htask, hplace, ?_⟩
      cases hcancelled : task.cancelled with
      | true =>
        rw [hcancelled, if_pos rfl] at h
        exact Or.inl ⟨Or.inl rfl, (Option.some.inj h).symm⟩
      | false =>
        rw [hcancelled, if_neg Bool.false_ne_true] at h
        have hgo : ∀ place' : PublishPlace, place' = place → place'.config.isSome →
            (s.publishNext key.2 place' e).map (fun (next, lost) =>
              let s := s.setPublish key t (task.moveTo next)
              if lost then s.markBrokerDisconnected key.2 else s) = some s' →
            ∃ next, next.config = place.config.or (s.publishConfigs key) ∧
              (s' = s.setPublish key t (task.moveTo next) ∨
                e = .connectionLost ∧
                  s' = (s.setPublish key t (task.moveTo next)).markBrokerDisconnected key.2) := by
          rintro _ rfl hconfig hmap
          obtain ⟨⟨next, lost⟩, hnext, rfl⟩ := Option.map_eq_some_iff.1 hmap
          refine ⟨next, ?_, ?_⟩
          · rw [config_publishNext hnext, Option.or_of_isSome hconfig]
          · cases lost with
            | true => exact Or.inr ⟨lost_publishNext hnext, rfl⟩
            | false => exact Or.inl rfl
        cases place with
        | created =>
          simp only at h
          cases hconfig : s.publishConfigs key with
          | none =>
            rw [hconfig] at h
            exact Or.inl ⟨Or.inr ⟨rfl, rfl⟩, (Option.some.inj h).symm⟩
          | some config =>
            rw [hconfig] at h
            exact Or.inr ⟨_, rfl, rfl, Or.inl (Option.some.inj h).symm⟩
        | interval config =>
          obtain ⟨next, hnext⟩ := hgo _ rfl rfl h
          exact Or.inr ⟨next, rfl, hnext⟩
        | delay config =>
          obtain ⟨next, hnext⟩ := hgo _ rfl rfl h
          exact Or.inr ⟨next, rfl, hnext⟩
        | publish config rest =>
          obtain ⟨next, hnext⟩ := hgo _ rfl rfl h
          exact Or.inr ⟨next, rfl, hnext⟩

/-- What becomes of a call whose loop is over. -/
theorem afterCancels_cases (s : MqttAdapter) (call : MqttCall) :
    (∃ broker, call.broker = some broker ∧
      s.afterCancels call = ((s.closeClient broker).1, .clientExit)) ∨
    (∃ broker, call.broker = some broker ∧
      s.afterCancels call = (s.closeClient broker).1.afterClose call) ∨
    (∃ key config, call = .startPublishing key config ∧
      s.afterCancels call = (s.registerPublish key config, .finished true)) ∨
    s.afterCancels call = (s, .finished true) := by
  cases call with
  | disconnectBroker broker =>
    simp only [afterCancels]
    split
    next heq => exact Or.inl ⟨broker, rfl, by rw [heq]⟩
    next heq => exact Or.inr (Or.inl ⟨broker, rfl, by rw [heq]⟩)
  | reconnectBroker broker settings =>
    simp only [afterCancels]
    split
    next heq => exact Or.inl ⟨broker, rfl, by rw [heq]⟩
    next heq => exact Or.inr (Or.inl ⟨broker, rfl, by rw [heq]⟩)
  | startPublishing key config => exact Or.inr (Or.inr (Or.inl ⟨key, config, rfl, rfl⟩))
  | _ => exact Or.inr (Or.inr (Or.inr rfl))

/-- What becomes of a call that begins. -/
theorem begin_cases (s : MqttAdapter) (call : MqttCall) :
    (∃ broker settings, call = .connectBroker broker settings ∧
      s.begin call = (s.recordBroker broker settings, .clientEnter)) ∨
    (∃ broker r, call.broker = some broker ∧
      s.begin call = ((s.cancelReconnectTask broker).1, .reconnectTask r)) ∨
    (∃ broker s₁, call.broker = some broker ∧ s₁ = (s.cancelReconnectTask broker).1 ∧
      s.begin call = cancelPublishTasks call s₁ s₁.publishTasks.keys) ∨
    s.begin call = cancelPublishTasks call s s.publishTasks.keys ∨
    ∃ key config, call = .startPublishing key config ∧ s.begin call = (s, .finished false) := by
  cases call with
  | connectBroker broker settings => exact Or.inl ⟨broker, settings, rfl, rfl⟩
  | disconnectBroker broker =>
    simp only [begin]
    split
    next r heq => exact Or.inr (Or.inl ⟨broker, r, rfl, by rw [heq]⟩)
    next heq => exact Or.inr (Or.inr (Or.inl ⟨broker, _, rfl, by rw [heq], rfl⟩))
  | reconnectBroker broker settings =>
    simp only [begin]
    split
    next r heq => exact Or.inr (Or.inl ⟨broker, r, rfl, by rw [heq]⟩)
    next heq => exact Or.inr (Or.inr (Or.inl ⟨broker, _, rfl, by rw [heq], rfl⟩))
  | startPublishing key config =>
    simp only [begin]
    split
    next => exact Or.inr (Or.inr (Or.inr (Or.inl rfl)))
    next => exact Or.inr (Or.inr (Or.inr (Or.inr ⟨key, config, rfl, rfl⟩)))
  | _ => exact Or.inr (Or.inr (Or.inr (Or.inl rfl)))

/-- What a loop over the publish tasks makes of a key. -/
theorem cancelPublishTasks_cons (s : MqttAdapter) (key : PublishKey) (rest : List PublishKey) :
    (∃ hkey t, cancelPublishTasks call s (key :: rest) =
      ((s.cancelPublishTask key).1, .publishTask key hkey t rest)) ∨
    (call.cancels key = true ∧ cancelPublishTasks call s (key :: rest) =
      cancelPublishTasks call (s.cancelPublishTask key).1 rest) ∨
    (call.cancels key = false ∧
      cancelPublishTasks call s (key :: rest) = cancelPublishTasks call s rest) := by
  rw [cancelPublishTasks]
  split
  next hkey =>
    split
    next t heq => exact Or.inl ⟨hkey, t, by rw [heq]⟩
    next heq => exact Or.inr (Or.inl ⟨hkey, by rw [heq]⟩)
  next hkey => exact Or.inr (Or.inr ⟨by simpa using hkey, rfl⟩)

/-- The rule of the loops over the publish tasks. -/
theorem cancelPublishTasks_induct {R : MqttAdapter → Prop}
    (hcancel : ∀ s key, call.cancels key = true → R s → R (s.cancelPublishTask key).1)
    (hafter : ∀ s, R s → R (s.afterCancels call).1) (keys : List PublishKey) (hs : R s) :
    R (cancelPublishTasks call s keys).1 := by
  induction keys generalizing s with
  | nil => exact hafter s hs
  | cons key rest ih =>
    obtain ⟨hkey, t, heq⟩ | ⟨hkey, heq⟩ | ⟨-, heq⟩ := s.cancelPublishTasks_cons key rest <;>
      rw [heq]
    · exact hcancel s key hkey hs
    · exact ih (hcancel s key hkey hs)
    · exact ih hs

/-- What becomes of a call that goes on. -/
theorem resume_cases {await await' : MqttAwait call} {opens : Bool}
    (h : s.resume opens await = some (s', await')) :
    ∃ next : MqttAdapter × MqttAwait call, s' = next.1 ∧ await' = next.2 ∧
      ((∃ r, await = .reconnectTask r ∧
          next = cancelPublishTasks call s s.publishTasks.keys) ∨
        (∃ key hkey t rest, await = .publishTask key hkey t rest ∧
          next = cancelPublishTasks call (s.dropConfig key) rest) ∨
        (∃ broker, await = .clientExit ∧ call.broker = some broker ∧
          next = (s.setConnected broker false).afterClose call) ∨
        ∃ broker, await = .clientEnter ∧ call.connecting = some broker ∧
          next = if opens then (s.storeClient broker, .finished true)
            else (s.scheduleReconnect broker, .finished false)) := by
  refine ⟨(s', await'), rfl, rfl, ?_⟩
  cases await with
  | reconnectTask r =>
    simp only [resume, Option.bind_eq_some_iff, Option.ite_none_right_eq_some] at h
    obtain ⟨broker, -, -, h⟩ := h
    exact Or.inl ⟨r, rfl, (Option.some.inj h).symm⟩
  | publishTask key hkey t rest =>
    simp only [resume, Option.ite_none_right_eq_some] at h
    exact Or.inr (Or.inl ⟨key, hkey, t, rest, rfl, (Option.some.inj h.2).symm⟩)
  | clientExit =>
    obtain ⟨broker, hbroker, h⟩ := Option.map_eq_some_iff.1 h
    exact Or.inr (Or.inr (Or.inl ⟨broker, rfl, hbroker, h.symm⟩))
  | clientEnter =>
    obtain ⟨broker, hbroker, h⟩ := Option.map_eq_some_iff.1 h
    exact Or.inr (Or.inr (Or.inr ⟨broker, rfl, hbroker, h.symm⟩))
  | finished ok => cases h

end MqttAdapter

/-- A call that has begun. -/
structure RunningCall where
  call : MqttCall
  await : MqttAwait call

/-- The adapter with the calls of its methods. -/
structure MqttRun where
  adapter : MqttAdapter := {}
  calls : List RunningCall := []

namespace MqttRun

inductive Event
  | call (call : MqttCall)
  | resume (i : ℕ) (opens : Bool)
  | reconnectStep (broker : UUID) (r : ℕ) (opens : Bool)
  | publishStep (key : PublishKey) (t : ℕ) (e : PublishEvent)

def step (s : MqttRun) : Event → Option MqttRun
  | .call call =>
    let (adapter, await) := s.adapter.begin call
    some { adapter, calls := s.calls ++ [{ call, await }] }
  | .resume i opens => (s.calls[i]?).bind fun c =>
    (s.adapter.resume opens c.await).map fun (adapter, await) =>
      { adapter, calls := s.calls.set i { c with await } }
  | .reconnectStep broker r opens =>
    (s.adapter.reconnectStep broker r opens).map fun adapter => { s with adapter }
  | .publishStep key t e =>
    (s.adapter.publishStep key t e).map fun adapter => { s with adapter }

/-- The call at `i` has returned. -/
def Finished (s : MqttRun) (i : ℕ) : Prop := ∃ c ok, s.calls[i]? = some c ∧ c.await = .finished ok

/-- The settings of the runs that serve as examples. -/
def localhost : MqttBrokerSettings where
  id := 1
  name := "local"
  host := "localhost"
  port := 1883
  username := ""
  password := ""
  clientId := "ghostmeter"
  useTls := false

end MqttRun

end GhostMeter.Protocols
