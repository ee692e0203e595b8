import GhostMeter.Protocols.MqttAdapter
import GhostMeter.Services.DeviceService
import GhostMeter.Services.SystemService

/-! Brokers and publish configs: what the requests do to the tables and to the MQTT adapter.  A
request runs from one await to the next; what a call of the adapter or a registration ends in is
part of the event. -/

namespace GhostMeter

open GhostMeter.Lib GhostMeter.Simulation GhostMeter.Protocols GhostMeter.Schemas

namespace Database

def findBroker (db : Database) (broker : UUID) : Option MqttBrokerSettings :=
  Table.find MqttBrokerSettings.id db.mqttBrokers broker

/-- The config of the pair exists and is enabled. -/
def Enabled (db : Database) (key : PublishKey) : Prop :=
  ∃ c, db.publishConfigFor key = some c ∧ c.enabled = true

end Database

namespace Services

structure MqttBrokerWrite where
  name : String
  host : String := "localhost"
  port : ℤ := 1883
  username : String := ""
  password : String := ""
  clientId : String := "ghostmeter"
  useTls : Bool := false

structure MqttPublishConfigWrite where
  topicTemplate : String := "telemetry/\x7bdevice_name\x7d"
  payloadMode : PayloadMode := .batch
  publishIntervalSeconds : ℤ := 5
  qos : ℤ := 0
  retain : Bool := false

section Tables

variable (db : Database)

def ensureUniqueName (name : String) (exclude : Option UUID) : Except AppException Unit :=
  raiseIf (∃ b ∈ db.mqttBrokers, b.name = name ∧ some b.id ≠ exclude)
    (conflictException s!"MQTT broker name '{name}' already exists" "DUPLICATE_NAME")

def getBrokerOr404 (broker : UUID) : Except AppException MqttBrokerSettings :=
  match db.findBroker broker with
  | some b => .ok b
  | none => .error (notFoundException "MQTT broker not found" "NOT_FOUND")

/-- With the row of the new broker. -/
def createBroker (data : MqttBrokerWrite) :
    Except AppException (Database × MqttBrokerSettings) := do
  ensureUniqueName db data.name none
  let broker : MqttBrokerSettings := {
    id := db.nextId
    name := data.name
    host := data.host
    port := data.port
    username := data.username
    password := data.password
    clientId := data.clientId
    useTls := data.useTls }
  return ({ db with mqttBrokers := db.mqttBrokers ++ [broker], nextId := db.nextId + 1 }, broker)

def MqttBrokerWrite.apply (data : MqttBrokerWrite) (row : MqttBrokerSettings) :
    MqttBrokerSettings where
  id := row.id
  name := data.name
  host := data.host
  port := data.port
  username := data.username
  password := if data.password ≠ "****" then data.password else row.password
  clientId := data.clientId
  useTls := data.useTls

/-- With the row as it is then. -/
def updateBroker (broker : UUID) (data : MqttBrokerWrite) :
    Except AppException (Database × MqttBrokerSettings) := do
  let row ← getBrokerOr404 db broker
  ensureUniqueName db data.name (some broker)
  return ({ db with
    mqttBrokers := Table.update MqttBrokerSettings.id db.mqttBrokers broker data.apply },
    data.apply row)

/-- The row goes with the publish configs that refer to it. -/
def deleteBroker (broker : UUID) : Except AppException Database := do
  let row ← getBrokerOr404 db broker
  let inUse := (db.mqttPublishConfigs.filter (·.brokerId = broker)).length
  raiseIf (inUse > 0) (conflictException
    (s!"MQTT broker '{row.name}' is referenced by {inUse} device publish config(s); " ++
      "remove those first")
    "BROKER_IN_USE")
  return { db with
    mqttBrokers := db.mqttBrokers.filter (·.id ≠ broker)
    mqttPublishConfigs := db.mqttPublishConfigs.filter (·.brokerId ≠ broker) }

/-- `list_publish_configs`, by the names of the brokers. -/
def listPublishConfigs (device : UUID) : List MqttPublishConfig :=
  let named := (db.mqttPublishConfigs.filter (·.deviceId = device)).filterMap fun c =>
    (db.findBroker c.brokerId).map fun b => (c, b.name)
  (named.mergeSort (·.2 ≤ ·.2)).map Prod.fst

/-- A new config is not enabled; one of a device that does not exist breaks a constraint. -/
def upsertPublishConfig (key : PublishKey) (data : MqttPublishConfigWrite) :
    Except RequestError Database := do
  let _ ← (getBrokerOr404 db key.2).mapError .app
  match db.publishConfigFor key with
  | none =>
    if (db.findDevice key.1).isNone then .error .unhandled
    else
      return { db with
        mqttPublishConfigs := db.mqttPublishConfigs ++ [{
          id := db.nextId
          deviceId := key.1
          brokerId := key.2
          topicTemplate := data.topicTemplate
          payloadMode := data.payloadMode
          publishIntervalSeconds := data.publishIntervalSeconds
          qos := data.qos
          retain := data.retain
          enabled := false }]
        nextId := db.nextId + 1 }
  | some _ =>
    return { db with
      mqttPublishConfigs := Table.update MqttPublishConfig.key db.mqttPublishConfigs key fun row =>
        { row with
          topicTemplate := data.topicTemplate
          payloadMode := data.payloadMode
          publishIntervalSeconds := data.publishIntervalSeconds
          qos := data.qos
          retain := data.retain } }

/-- `none` where there is no config to delete. -/
def deletePublishConfig (key : PublishKey) : Option Database :=
  (db.publishConfigFor key).map fun _ => { db with
    mqttPublishConfigs := db.mqttPublishConfigs.filter (·.key ≠ key) }

def setPublishEnabled (key : PublishKey) (enabled : Bool) : Database :=
  { db with mqttPublishConfigs :=
      Table.update MqttPublishConfig.key db.mqttPublishConfigs key fun c => { c with enabled } }

/-- `_target_configs`. -/
def targetConfigs (device : UUID) (broker : Option UUID) :
    Except AppException (List MqttPublishConfig) :=
  let configs := (listPublishConfigs db device).filter fun c => broker.all (c.brokerId = ·)
  if configs = [] then
    .error (notFoundException "MQTT config not found. Configure MQTT first." "NOT_FOUND")
  else .ok configs

/-- The configs that `resume_enabled_publishing` selects. -/
def enabledOnRunning (broker : Option UUID) : List MqttPublishConfig :=
  db.mqttPublishConfigs.filter fun c => c.enabled ∧ broker.all (c.brokerId = ·) ∧
    (db.findDevice c.deviceId).any fun d =>
      d.status = .running ∧ (db.findTemplate d.templateId).isSome

end Tables

end Services

open Services

/-- The tables and the adapter that the requests share. -/
structure MqttBackend where
  db : Database
  mqtt : MqttAdapter := {}

/-- What a request has still to do, up to the next await each. -/
inductive MqttAction
  /-- A call of the adapter; an exception is at most logged. -/
  | call (call : MqttCall)
  /-- The start route sets the flag of a pair, and then starts to publish. -/
  | enable (config : MqttPublishConfig)
  | start (config : MqttPublishConfig)
  /-- The stop route clears the flag of a pair, and then stops publishing. -/
  | disable (key : PublishKey)
  | reconnectBroker (settings : MqttBrokerSettings)
  | resumeEnabledPublishing (broker : Option UUID)
  | registerDeviceRuntime (device : UUID)
  /-- The enabled configs of a device that is being started. -/
  | startEnabled (device : UUID)
  /-- The removal from the adapter of the template's protocol. -/
  | removeDevice (device template : UUID)
  | setStatus (device : UUID) (status : DeviceStatus)

/-- What depends on how a call of the adapter ends. -/
inductive AfterCall
  | nothing
  /-- If it raises, the flag of the pair is cleared. -/
  | revert (key : PublishKey)
  /-- If it returns `True`, the publish tasks of the broker are resumed. -/
  | resume (broker : UUID)

structure MqttRequest where
  /-- The pair whose start has raised, with its flag still to be cleared. -/
  reverting : Option PublishKey := none
  running : Option (RunningCall × AfterCall) := none
  todo : List MqttAction := []

/-- The request has returned. -/
def MqttRequest.Done (r : MqttRequest) : Prop :=
  r.reverting = none ∧ r.running = none ∧ r.todo = []

instance (r : MqttRequest) : Decidable r.Done :=
  inferInstanceAs (Decidable (r.reverting = none ∧ r.running = none ∧ r.todo = []))

/-- A request once its call has come to an await, or to its end. -/
def MqttRequest.settle (c : RunningCall) (after : AfterCall) (todo : List MqttAction) :
    MqttRequest :=
  match c.await, after with
  | .finished _, .nothing => { todo }
  | .finished ok, .revert key => { reverting := if ok then none else some key, todo }
  | .finished ok, .resume broker =>
    { todo := if ok then .resumeEnabledPublishing (some broker) :: todo else todo }
  | _, _ => { running := some (c, after), todo }

namespace MqttRequest

variable {c c' : RunningCall} {after after' : AfterCall} {todo : List MqttAction} {a : MqttAction}

theorem settle_eq (h : ∀ ok, c.await ≠ .finished ok) :
    settle c after todo = { running := some (c, after), todo } := by
  obtain ⟨call, await⟩ := c
  cases await with
  | finished ok => exact absurd rfl (h ok)
  | _ => rfl

theorem settle_running (h : (settle c after todo).running = some (c', after')) :
    c' = c ∧ after' = after ∧ ∀ ok, c.await ≠ .finished ok := by
  obtain ⟨call, await⟩ := c
  cases await with
  | finished ok => cases after <;> cases h
  | _ =>
    obtain ⟨rfl, rfl⟩ := Prod.mk.inj (Option.some.inj h)
    exact ⟨rfl, rfl, nofun⟩

theorem settle_reverting (hafter : ∀ key, after ≠ .revert key) :
    (settle c after todo).reverting = none := by
  unfold settle
  split
  next => rfl
  next key _ => exact absurd rfl (hafter key)
  next => rfl
  next => rfl

theorem mem_settle_todo (h : a ∈ (settle c after todo).todo) :
    a ∈ todo ∨ ∃ broker, a = .resumeEnabledPublishing broker := by
  unfold settle at h
  split at h
  next => exact Or.inl h
  next => exact Or.inl h
  next ok broker _ =>
    cases ok with
    | false => exact Or.inl h
    | true => exact (List.mem_cons.1 h).symm.imp_right fun h => ⟨_, h⟩
  next => exact Or.inl h

theorem settle_todo_of_mem (h : a ∈ todo) : a ∈ (settle c after todo).todo := by
  unfold settle
  split
  next => exact h
  next => exact h
  next ok broker _ =>
    cases ok with
    | false => exact h
    | true => exact List.mem_cons_of_mem _ h
  next => exact h

theorem settle_nothing :
    (settle c .nothing todo).reverting = none ∧ (settle c .nothing todo).todo = todo := by
  obtain ⟨call, await⟩ := c
  cases await <;> exact ⟨rfl, rfl⟩

end MqttRequest

namespace MqttBackend

variable (s : MqttBackend)

def beginCall (call : MqttCall) (after : AfterCall) (todo : List MqttAction) :
    MqttBackend × MqttRequest :=
  let (mqtt, await) := s.mqtt.begin call
  ({ s with mqtt }, .settle ⟨call, await⟩ after todo)

/-- The calls that start to publish for the configs. -/
def startAll (configs : List MqttPublishConfig) : List MqttAction :=
  configs.map fun c => .call (.startPublishing c.key c)

/-- The next action of a request; `ok` is whether a registration goes through. -/
def act (ok : Bool) (todo : List MqttAction) : MqttAction → MqttBackend × MqttRequest
  | .call call => s.beginCall call .nothing todo
  | .enable config =>
    let db := setPublishEnabled s.db config.key true
    ({ s with db }, { todo := .start ((db.publishConfigFor config.key).getD config) :: todo })
  | .start config => s.beginCall (.startPublishing config.key config) (.revert config.key) todo
  | .disable key =>
    ({ s with db := setPublishEnabled s.db key false },
      { todo := .call (.stopPublishing key.1 (some key.2)) :: todo })
  | .reconnectBroker settings =>
    s.beginCall (.reconnectBroker settings.id settings) (.resume settings.id) todo
  | .resumeEnabledPublishing broker =>
    (s, { todo := startAll (enabledOnRunning s.db broker) ++ todo })
  | .registerDeviceRuntime device =>
    (s, { todo := (if ok then [.startEnabled device, .setStatus device .running]
      else [.setStatus device .error]) ++ todo })
  | .startEnabled device =>
    (s, { todo := startAll ((listPublishConfigs s.db device).filter (·.enabled)) ++ todo })
  | .removeDevice device template =>
    match s.db.findTemplate template with
    | none => (s, {})
    | some t =>
      if t.protocol = .mqtt then s.beginCall (.removeDevice device) .nothing todo
      else (s, { todo })
  | .setStatus device status => ({ s with db := s.db.setStatus device status }, { todo })

/-- A request from one await to the next; `ok` is whether a client opens, or a registration goes
through. -/
def advance (ok : Bool) (r : MqttRequest) : Option (MqttBackend × MqttRequest) :=
  match r.reverting with
  | some key =>
    some ({ s with db := setPublishEnabled s.db key false }, { r with reverting := none })
  | none =>
    match r.running with
    | some (c, after) => (s.mqtt.resume ok c.await).map fun (mqtt, await) =>
        ({ s with mqtt }, .settle { c with await } after r.todo)
    | none =>
      match r.todo with
      | [] => none
      | action :: todo => some (s.act ok todo action)

/-- What a request comes to: it clears a flag again, its call goes on, or it acts. -/
theorem advance_cases {s s' : MqttBackend} {ok : Bool} {r r' : MqttRequest}
    (h : s.advance ok r = some (s', r')) :
    (∃ key, r.reverting = some key ∧ s' = { s with db := setPublishEnabled s.db key false } ∧
      r' = { r with reverting := none }) ∨
    (∃ c after todo mqtt await, r = { running := some (c, after), todo } ∧
      s.mqtt.resume ok c.await = some (mqtt, await) ∧ s' = { s with mqtt } ∧
      r' = .settle { c with await } after todo) ∨
    ∃ a todo, r = { todo := a :: todo } ∧ s' = (s.act ok todo a).1 ∧
      r' = (s.act ok todo a).2 := by
  obtain ⟨reverting, running, todo⟩ := r
  cases reverting with
  | some key =>
    obtain ⟨rfl, rfl⟩ := Prod.mk.inj (Option.some.inj h)
    exact Or.inl ⟨key, rfl, rfl, rfl⟩
  | none =>
    cases running with
    | some p =>
      obtain ⟨c, after⟩ := p
      obtain ⟨⟨mqtt, await⟩, hresume, heq⟩ := Option.map_eq_some_iff.1 h
      obtain ⟨rfl, rfl⟩ := Prod.mk.inj heq
      exact Or.inr (Or.inl ⟨c, after, todo, mqtt, await, rfl, hresume, rfl, rfl⟩)
    | none =>
      cases todo with
      | nil => cases h
      | cons a todo =>
        obtain ⟨rfl, rfl⟩ := Prod.mk.inj (Option.some.inj h)
        exact Or.inr (Or.inr ⟨a, todo, rfl, rfl, rfl⟩)

end MqttBackend

inductive MqttOperation
  | createDevice (data : DeviceCreate)
  | startDevice (device : UUID)
  | stopDevice (device : UUID)
  | deleteDevice (device : UUID)
  | savePublishConfig (key : PublishKey) (data : MqttPublishConfigWrite)
  | deletePublishConfig (key : PublishKey)
  | startPublishing (device : UUID) (broker : Option UUID)
  | stopPublishing (device : UUID) (broker : Option UUID)
  | createBroker (data : MqttBrokerWrite)
  | updateBroker (broker : UUID) (data : MqttBrokerWrite)
  | deleteBroker (broker : UUID)
  | importSystem (data : SystemImport)

namespace MqttBackend

/-- The start of the backend: the adapter connects the brokers, and the devices are resumed. -/
def startup (db : Database) : MqttBackend × MqttRequest :=
  ({ db }, { todo := (db.mqttBrokers.map fun b => .call (.connectBroker b.id b)) ++
    [.resumeEnabledPublishing none] })

variable (settings : Settings) (s : MqttBackend)

/-- What a request does first, and what it has then still to do; one that raises does nothing. -/
def begin : MqttOperation → MqttBackend × MqttRequest
  | .createDevice data => ({ s with db := (createDevice settings s.db data).1 }, {})
  | .startDevice device =>
    match s.db.findDevice device with
    | none => (s, {})
    | some d =>
      if d.status = .stopped ∧ (s.db.findTemplate d.templateId).isSome then
        (s, { todo := [.registerDeviceRuntime device] })
      else (s, {})
  | .stopDevice device =>
    match s.db.findDevice device with
    | none => (s, {})
    | some d =>
      if d.status = .stopped then (s, {})
      else (s, { todo := [.call (.stopPublishing device none), .removeDevice device d.templateId,
        .setStatus device .stopped] })
  | .deleteDevice device =>
    match deleteDevice s.db device with
    | .error _ => (s, {})
    | .ok db => ({ s with db }, {})
  | .savePublishConfig key data =>
    match upsertPublishConfig s.db key data with
    | .error _ => (s, {})
    | .ok db => ({ s with db }, {})
  | .deletePublishConfig key =>
    match deletePublishConfig s.db key with
    | none => (s, {})
    | some db => ({ s with db }, { todo := [.call (.stopPublishing key.1 (some key.2))] })
  | .startPublishing device broker =>
    match targetConfigs s.db device broker with
    | .error _ => (s, {})
    | .ok configs => (s, { todo := configs.map .enable })
  | .stopPublishing device broker =>
    match targetConfigs s.db device broker with
    | .error _ => (s, {})
    | .ok configs => (s, { todo := configs.map fun c => .disable c.key })
  | .createBroker data =>
    match createBroker s.db data with
    | .error _ => (s, {})
    | .ok (db, broker) => ({ s with db }, { todo := [.call (.connectBroker broker.id broker)] })
  | .updateBroker broker data =>
    match updateBroker s.db broker data with
    | .error _ => (s, {})
    | .ok (db, broker) => ({ s with db }, { todo := [.reconnectBroker broker] })
  | .deleteBroker broker =>
    match deleteBroker s.db broker with
    | .error _ => (s, {})
    | .ok db => ({ s with db }, { todo := [.call (.disconnectBroker broker)] })
  | .importSystem data =>
    match importSystem s.db data with
    | .error _ => (s, {})
    | .ok (db, _) => ({ s with db }, {})

/-- A step of a background task of the adapter. -/
inductive Background
  | reconnectStep (broker : UUID) (r : ℕ) (opens : Bool)
  | publishStep (key : PublishKey) (t : ℕ) (e : PublishEvent)

def background : Background → Option MqttBackend
  | .reconnectStep broker r opens =>
    (s.mqtt.reconnectStep broker r opens).map fun mqtt => { s with mqtt }
  | .publishStep key t e => (s.mqtt.publishStep key t e).map fun mqtt => { s with mqtt }

end MqttBackend

end GhostMeter
