import GhostMeter.Lib.Run
import GhostMeter.Protocols.MqttServing
import GhostMeter.Services.MqttRows

/-! Enabled configs: which steps leave a pair without a publish task, though its config is enabled,
its device runs and its broker is connected.  The requests run beside each other. -/

namespace GhostMeter

open GhostMeter.Lib GhostMeter.Simulation GhostMeter.Protocols GhostMeter.Schemas
  GhostMeter.Services

/-- The config of the pair is enabled, and its device is running. -/
def Database.Wanted (db : Database) (key : PublishKey) : Prop :=
  db.Enabled key ∧ ∃ d, db.findDevice key.1 = some d ∧ d.status = .running

/-- The pair is to be published: its broker is connected as well. -/
def MqttBackend.Due (s : MqttBackend) (key : PublishKey) : Prop :=
  s.mqtt.isBrokerConnected key.2 = true ∧ s.db.Wanted key

/-- The call ends with a publish task for the pair, or with what starts one. -/
def Protocols.MqttCall.Settles (key : PublishKey) : MqttCall → Prop
  | .startPublishing k _ => k = key
  | .reconnectBroker broker _ => broker = key.2
  | _ => False

/-- The action starts to publish for the pair, or clears its flag. -/
def MqttAction.Settles (key : PublishKey) : MqttAction → Prop
  | .call c => c.Settles key
  | .start config => config.key = key
  | .enable config => config.key = key
  | .disable k => k = key
  | .reconnectBroker settings => settings.id = key.2
  | .resumeEnabledPublishing broker => ∀ b ∈ broker, b = key.2
  | _ => False

/-- The request has still to see to the pair. -/
def MqttRequest.Covers (r : MqttRequest) (key : PublishKey) : Prop :=
  r.reverting = some key ∨
    (∃ c after, r.running = some (c, after) ∧ c.call.Settles key) ∨
    ∃ a ∈ r.todo, a.Settles key

/-- The requests of the histories. -/
inductive PublishOperation
  | startDevice (device : UUID)
  | startPublishing (device : UUID) (broker : Option UUID)
  | stopPublishing (device : UUID) (broker : Option UUID)
  | updateBroker (broker : UUID) (data : MqttBrokerWrite)

def PublishOperation.toOperation : PublishOperation → MqttOperation
  | startDevice device => .startDevice device
  | startPublishing device broker => .startPublishing device broker
  | stopPublishing device broker => .stopPublishing device broker
  | updateBroker broker data => .updateBroker broker data

/-- The backend with the requests that have been made, the first one being its start. -/
structure MqttSystem where
  backend : MqttBackend
  requests : List MqttRequest

namespace MqttSystem

inductive Event
  /-- A new request, once the backend has started. -/
  | operation (op : PublishOperation)
  | advance (i : ℕ) (ok : Bool)
  | background (e : MqttBackend.Background)

def startup (db : Database) : MqttSystem :=
  let (backend, request) := MqttBackend.startup db
  { backend, requests := [request] }

def step (settings : Settings) (s : MqttSystem) : Event → Option MqttSystem
  | .operation op =>
    if s.requests.head?.all (fun r => r.Done) then
      let (backend, request) := s.backend.begin settings op.toOperation
      some { backend, requests := s.requests ++ [request] }
    else none
  | .advance i ok => (s.requests[i]?).bind fun r =>
    (s.backend.advance ok r).map fun (backend, r) => { backend, requests := s.requests.set i r }
  | .background e => (s.backend.background e).map fun backend => { s with backend }

/-- Where no request and no reconnect task is pending, every pair that is to be published is. -/
def Publishes (s : MqttSystem) : Prop :=
  (∀ r ∈ s.requests, r.Done) →
    (∀ broker r, isDone (s.backend.mqtt.reconnects broker) r = true) →
    ∀ key, s.backend.Due key → ∃ t, LiveAt (s.backend.mqtt.publishes key) t

def Covered (s : MqttSystem) (key : PublishKey) : Prop := ∃ r ∈ s.requests, r.Covers key

/-- Another request than the one at `i` has still to see to the pair. -/
def CoveredBut (s : MqttSystem) (i : ℕ) (key : PublishKey) : Prop :=
  ∃ j r, j ≠ i ∧ s.requests[j]? = some r ∧ r.Covers key

end MqttSystem

/-- What a request must find before it goes on, `others` being the pairs that other requests have
still to see to. -/
structure MqttBackend.Finds (s : MqttBackend) (r : MqttRequest) (ok : Bool)
    (others : PublishKey → Prop) : Prop where
  /-- A pair whose task it has cancelled has no new one. -/
  cancelled : ∀ c after key, r.running = some (c, after) → MqttAdapter.awaits key c.await →
    s.mqtt.NoLive key
  /-- When the update of a broker fails to connect, nobody else has connected it, or its pairs are
  seen to. -/
  failing : ok = false → ∀ broker settings after,
    r.running = some (⟨.reconnectBroker broker settings, .clientEnter⟩, after) →
    ∀ device, s.Due (device, broker) → s.mqtt.NoLive (device, broker) → others (device, broker)
  /-- When the start of a device commits, no broker has been connected since it started to
  publish, or its pairs are seen to. -/
  committing : ∀ device todo, r = { todo := .setStatus device .running :: todo } →
    ∀ broker, s.mqtt.isBrokerConnected broker = true → s.db.Enabled (device, broker) →
    s.mqtt.NoLive (device, broker) → r.Covers (device, broker) ∨ others (device, broker)
  /-- When a stop has cleared a flag, no other request has set it again. -/
  stopping : ∀ key todo, r = { todo := .call (.stopPublishing key.1 (some key.2)) :: todo } →
    s.Due key → r.Covers key ∨ others key

/-- The step leaves no pair behind. -/
def MqttSystem.Careful (s : MqttSystem) : MqttSystem.Event → Prop
  | .operation _ => True
  | .advance i ok => ∀ r, s.requests[i]? = some r → s.backend.Finds r ok (s.CoveredBut i)
  /- a reconnect loop starts no publish task -/
  | .background (.reconnectStep broker r true) => s.backend.mqtt.Opening broker r →
    ∀ device, s.backend.db.Wanted (device, broker) → s.backend.mqtt.NoLive (device, broker) →
      s.Covered (device, broker)
  | .background _ => True

def MqttAction.Historic : MqttAction → Prop
  | .call (.startPublishing ..) => True
  | .call (.stopPublishing _ (some _)) => True
  | .call _ => False
  | .removeDevice .. => False
  | _ => True

/-- The calls of the histories, with what they may wait for and what comes after them. -/
inductive Underway : RunningCall → AfterCall → Prop
  | starting {key : PublishKey} {config : MqttPublishConfig}
    {await : MqttAwait (.startPublishing key config)} {after : AfterCall}
    (hawait : MqttAdapter.awaits key await) (hafter : ∀ broker, after ≠ .resume broker) :
    Underway ⟨.startPublishing key config, await⟩ after
  | stopping {device broker : UUID} {await : MqttAwait (.stopPublishing device (some broker))}
    {k : PublishKey} (hawait : MqttAdapter.awaits k await) :
    Underway ⟨.stopPublishing device (some broker), await⟩ .nothing
  | reconnecting {broker : UUID} {settings : MqttBrokerSettings}
    {await : MqttAwait (.reconnectBroker broker settings)} :
    Underway ⟨.reconnectBroker broker settings, await⟩ (.resume broker)

namespace MqttRequest

variable {r : MqttRequest} {key : PublishKey} {a : MqttAction} {todo todo' : List MqttAction}
  {c : RunningCall} {after : AfterCall}

/-- A request of the histories. -/
structure Historic (r : MqttRequest) : Prop where
  running : ∀ c after, r.running = some (c, after) → Underway c after
  todo : ∀ a ∈ r.todo, a.Historic

theorem covers_of_mem (ha : a ∈ r.todo) (h : a.Settles key) : r.Covers key :=
  Or.inr (Or.inr ⟨a, ha, h⟩)

theorem covers_settle (h : ∃ a ∈ todo, a.Settles key) : (settle c after todo).Covers key := by
  obtain ⟨a, ha, h⟩ := h
  exact covers_of_mem (settle_todo_of_mem ha) h

theorem covers_settle_running (hawait : ∀ ok, c.await ≠ .finished ok) (h : c.call.Settles key) :
    (settle c after todo).Covers key := by
  rw [settle_eq hawait]
  exact Or.inr (Or.inl ⟨c, after, rfl, h⟩)

theorem awaits_ne_finished {call : MqttCall} {await : MqttAwait call} {k : PublishKey}
    (h : MqttAdapter.awaits k await) (ok : Bool) : await ≠ .finished ok := by
  rintro rfl
  exact h

/-- A request that is done sees to nothing. -/
theorem Done.not_covers (h : r.Done) : ¬ r.Covers key := by
  obtain ⟨hreverting, hrunning, htodo⟩ := h
  rintro (h | ⟨c, after, h, -⟩ | ⟨a, h, -⟩)
  · rw [hreverting] at h
    cases h
  · rw [hrunning] at h
    cases h
  · rw [htodo] at h
    cases h

end MqttRequest

namespace MqttBackend

variable {s : MqttBackend} {r : MqttRequest} {others : PublishKey → Prop} {key : PublishKey}
  {a : MqttAction} {todo todo' : List MqttAction} {c : RunningCall} {after : AfterCall} {ok : Bool}
  {mqtt : MqttAdapter}

/-- Every pair that is to be published is, or somebody has still to see to it. -/
def Serves (s : MqttBackend) (r : MqttRequest) (others : PublishKey → Prop) : Prop :=
  ∀ key, s.Due key → s.mqtt.NoLive key → r.Covers key ∨ others key

theorem Serves.running (hs : s.Serves { running := some (c, after), todo } others)
    (hdue : s.Due key) (hno : s.mqtt.NoLive key) :
    c.call.Settles key ∨ (∃ a ∈ todo, a.Settles key) ∨ others key := by
  rcases hs key hdue hno with (h | ⟨c', after', h, hcall⟩ | h) | h
  · cases h
  · cases h
    exact Or.inl hcall
  · exact Or.inr (Or.inl h)
  · exact Or.inr (Or.inr h)

theorem Serves.head (hs : s.Serves { todo := a :: todo } others) (hdue : s.Due key)
    (hno : s.mqtt.NoLive key) :
    a.Settles key ∨ (∃ a' ∈ todo, a'.Settles key) ∨ others key := by
  rcases hs key hdue hno with (h | ⟨c', after', h, hcall⟩ | ⟨a', ha', h⟩) | h
  · cases h
  · cases h
  · rcases List.mem_cons.1 ha' with rfl | ha'
    · exact Or.inl h
    · exact Or.inr (Or.inl ⟨a', ha', h⟩)
  · exact Or.inr (Or.inr h)

section Resuming

/-- A call that leaves the pair alone. -/
theorem Serves.same (hs : s.Serves { running := some (c, after), todo } others)
    (hcall : ¬ c.call.Settles key) (hdue : s.Due key)
    (hsame : MqttAdapter.SamePublish key s.mqtt mqtt) (hno : mqtt.NoLive key)
    {c' : RunningCall} {after' : AfterCall} :
    (MqttRequest.settle c' after' todo).Covers key ∨ others key := by
  rcases hs.running hdue (hsame.noLive.1 hno) with h | h | h
  · exact absurd h hcall
  · exact Or.inl (MqttRequest.covers_settle h)
  · exact Or.inr h

theorem serves_resume_start {k : PublishKey} {config : MqttPublishConfig}
    {await await' : MqttAwait (.startPublishing k config)}
    (hs : s.Serves { running := some (⟨.startPublishing k config, await⟩, after), todo } others)
    (hawait : MqttAdapter.awaits k await)
    (hresume : s.mqtt.resume ok await = some (mqtt, await')) :
    ({ s with mqtt }).Serves (.settle ⟨.startPublishing k config, await'⟩ after todo) others := by
  intro key hdue' hno
  obtain hloses | ⟨⟨⟩, -⟩ := MqttAdapter.loses_resume (b := key.2) hresume
  have hdue : s.Due key := ⟨hloses hdue'.1, hdue'.2⟩
  by_cases hkey : k = key
  · subst hkey
    rcases MqttAdapter.start_resume hawait hresume with hawait' | ⟨-, hlive⟩
    · exact Or.inl (MqttRequest.covers_settle_running (MqttRequest.awaits_ne_finished hawait') rfl)
    · exact absurd hno hlive.not_noLive
  · have hother : (MqttCall.startPublishing k config).cancels key = false :=
      decide_eq_false (Ne.symm hkey)
    exact hs.same hkey hdue (MqttAdapter.samePublish_resume hother hresume) hno

theorem serves_resume_stop {device broker : UUID} {k : PublishKey}
    {await await' : MqttAwait (.stopPublishing device (some broker))}
    (hs : s.Serves { running := some (⟨.stopPublishing device (some broker), await⟩, after), todo }
      others)
    (hawait : MqttAdapter.awaits k await) (hdead : s.mqtt.NoLive k)
    (hresume : s.mqtt.resume ok await = some (mqtt, await')) :
    ({ s with mqtt }).Serves (.settle ⟨.stopPublishing device (some broker), await'⟩ after todo)
      others := by
  intro key hdue' hno
  obtain hloses | ⟨⟨⟩, -⟩ := MqttAdapter.loses_resume (b := key.2) hresume
  have hdue : s.Due key := ⟨hloses hdue'.1, hdue'.2⟩
  cases hcancels : (MqttCall.stopPublishing device (some broker)).cancels key with
  | false => exact hs.same id hdue (MqttAdapter.samePublish_resume hcancels hresume) hno
  | true =>
    -- the task that it waits for is the pair's
    have hk : k = key := by
      cases await with
      | publishTask k' hk' t rest =>
        obtain rfl : k' = k := hawait
        obtain ⟨hdevice, hbroker⟩ : k'.1 = device ∧ k'.2 = broker := of_decide_eq_true hk'
        obtain ⟨hdevice', hbroker'⟩ : key.1 = device ∧ key.2 = broker := of_decide_eq_true hcancels
        exact Prod.ext (hdevice.trans hdevice'.symm) (hbroker.trans hbroker'.symm)
      | _ => exact hawait.elim
    rcases hs.running hdue (hk ▸ hdead) with h | h | h
    · exact h.elim
    · exact Or.inl (MqttRequest.covers_settle h)
    · exact Or.inr h

theorem serves_resume_reconnect {broker : UUID} {settings : MqttBrokerSettings}
    {await await' : MqttAwait (.reconnectBroker broker settings)}
    (hs : s.Serves
      { running := some (⟨.reconnectBroker broker settings, await⟩, .resume broker), todo } others)
    (hfails : ok = false → await = .clientEnter → ∀ device, s.Due (device, broker) →
      s.mqtt.NoLive (device, broker) → others (device, broker))
    (hresume : s.mqtt.resume ok await = some (mqtt, await')) :
    ({ s with mqtt }).Serves
      (.settle ⟨.reconnectBroker broker settings, await'⟩ (.resume broker) todo) others := by
  intro key hdue' hno
  have hconnects : await' = .finished true → broker = key.2 →
      (MqttRequest.settle ⟨.reconnectBroker broker settings, await'⟩ (.resume broker)
        todo).Covers key := by
    rintro rfl rfl
    exact MqttRequest.covers_of_mem List.mem_cons_self fun b hb => (Option.some.inj hb).symm
  obtain hloses | ⟨hbroker, hfinished⟩ := MqttAdapter.loses_resume (b := key.2) hresume
  swap
  · exact Or.inl (hconnects hfinished (Option.some.inj hbroker))
  have hdue : s.Due key := ⟨hloses hdue'.1, hdue'.2⟩
  by_cases hbroker : broker = key.2
  · by_cases hends : ∃ ok', await' = .finished ok'
    · obtain ⟨ok', hfinished⟩ := hends
      obtain ⟨rfl, rfl⟩ := MqttAdapter.reconnect_resume hresume hfinished
      cases ok' with
      | true => exact Or.inl (hconnects hfinished hbroker)
      | false =>
        subst hbroker
        obtain ⟨rfl, -⟩ := Prod.mk.inj (Option.some.inj hresume)
        have hno' : s.mqtt.NoLive key := MqttAdapter.samePublish_scheduleReconnect.noLive.1 hno
        exact Or.inr (hfails rfl rfl key.1 hdue hno')
    · exact Or.inl (MqttRequest.covers_settle_running (fun ok' h => hends ⟨ok', h⟩) hbroker)
  · have hother : (MqttCall.reconnectBroker broker settings).cancels key = false :=
      decide_eq_false (Ne.symm hbroker)
    exact hs.same hbroker hdue (MqttAdapter.samePublish_resume hother hresume) hno

end Resuming

section Acting

theorem Serves.keep {r : MqttRequest} (hs : s.Serves { todo := a :: todo } others)
    (hdue : s.Due key) (hno : s.mqtt.NoLive key) (ha : a.Settles key → r.Covers key)
    (htodo : ∀ a' ∈ todo, a'.Settles key → r.Covers key) : r.Covers key ∨ others key := by
  rcases hs.head hdue hno with h | ⟨a', ha', h⟩ | h
  · exact Or.inl (ha h)
  · exact Or.inl (htodo a' ha' h)
  · exact Or.inr h

theorem serves_begin_start {k : PublishKey} {config : MqttPublishConfig}
    (hs : s.Serves { todo := a :: todo } others) (ha : ∀ key, a.Settles key → k = key) :
    ({ s with mqtt := (s.mqtt.begin (.startPublishing k config)).1 }).Serves
      (.settle ⟨.startPublishing k config, (s.mqtt.begin (.startPublishing k config)).2⟩ after todo)
      others := by
  intro key hdue' hno
  have hdue : s.Due key := ⟨MqttAdapter.loses_begin hdue'.1, hdue'.2⟩
  by_cases hkey : k = key
  · subst hkey
    rcases @MqttAdapter.start_begin s.mqtt k config with
      hawait | ⟨-, hlive⟩ | ⟨hconnected, -⟩
    · exact Or.inl (MqttRequest.covers_settle_running (MqttRequest.awaits_ne_finished hawait) rfl)
    · exact absurd hno hlive.not_noLive
    · exact absurd hdue.1 (by simp [hconnected])
  · have hother : (MqttCall.startPublishing k config).cancels key = false :=
      decide_eq_false (Ne.symm hkey)
    refine hs.keep hdue ((MqttAdapter.samePublish_begin hother).noLive.1 hno) ?_ ?_
    · exact fun h => absurd (ha key h) hkey
    · exact fun a' ha' h => MqttRequest.covers_settle ⟨a', ha', h⟩

theorem serves_begin_stop {k : PublishKey}
    (hs : s.Serves { todo := .call (.stopPublishing k.1 (some k.2)) :: todo } others)
    (hstop : s.Due k → (∃ a ∈ todo, a.Settles k) ∨ others k) :
    ({ s with mqtt := (s.mqtt.begin (.stopPublishing k.1 (some k.2))).1 }).Serves
      (.settle ⟨.stopPublishing k.1 (some k.2), (s.mqtt.begin (.stopPublishing k.1 (some k.2))).2⟩
        .nothing todo) others := by
  intro key hdue' hno
  have hdue : s.Due key := ⟨MqttAdapter.loses_begin hdue'.1, hdue'.2⟩
  cases hcancels : (MqttCall.stopPublishing k.1 (some k.2)).cancels key with
  | true =>
    obtain ⟨hdevice, hbroker⟩ : key.1 = k.1 ∧ key.2 = k.2 := of_decide_eq_true hcancels
    obtain rfl : key = k := Prod.ext hdevice hbroker
    exact (hstop hdue).imp_left MqttRequest.covers_settle
  | false =>
    refine hs.keep hdue ((MqttAdapter.samePublish_begin hcancels).noLive.1 hno) ?_ ?_
    · exact fun h => h.elim
    · exact fun a' ha' h => MqttRequest.covers_settle ⟨a', ha', h⟩

theorem serves_begin_reconnect {settings : MqttBrokerSettings}
    (hs : s.Serves { todo := .reconnectBroker settings :: todo } others) :
    ({ s with mqtt := (s.mqtt.begin (.reconnectBroker settings.id settings)).1 }).Serves
      (.settle ⟨.reconnectBroker settings.id settings,
        (s.mqtt.begin (.reconnectBroker settings.id settings)).2⟩ (.resume settings.id) todo)
      others := by
  intro key hdue' hno
  have hdue : s.Due key := ⟨MqttAdapter.loses_begin hdue'.1, hdue'.2⟩
  by_cases hbroker : settings.id = key.2
  · exact Or.inl
      (MqttRequest.covers_settle_running (fun _ => MqttAdapter.reconnect_begin _) hbroker)
  · have hother : (MqttCall.reconnectBroker settings.id settings).cancels key = false :=
      decide_eq_false (Ne.symm hbroker)
    refine hs.keep hdue ((MqttAdapter.samePublish_begin hother).noLive.1 hno) ?_ ?_
    · exact fun h => absurd h hbroker
    · exact fun a' ha' h => MqttRequest.covers_settle ⟨a', ha', h⟩

/-- Setting the flag of a pair makes no other one wanted; clearing it makes none. -/
theorem wanted_setPublishEnabled {db : Database} {k : PublishKey} {on : Bool}
    (h : (setPublishEnabled db k on).Wanted key) :
    key = k ∧ on = true ∨ key ≠ k ∧ db.Wanted key := by
  by_cases hkey : key = k
  · subst hkey
    exact Or.inl ⟨rfl, (enabled_setPublishEnabled_self on |>.1 h.1).2⟩
  · exact Or.inr ⟨hkey, (enabled_setPublishEnabled_of_ne on hkey).1 h.1, h.2⟩

theorem serves_enable {config : MqttPublishConfig}
    (hs : s.Serves { todo := .enable config :: todo } others) :
    (s.act ok todo (.enable config)).1.Serves (s.act ok todo (.enable config)).2 others := by
  intro key hdue' hno
  rcases wanted_setPublishEnabled hdue'.2 with ⟨rfl, -⟩ | ⟨hkey, hwanted⟩
  · refine Or.inl (MqttRequest.covers_of_mem List.mem_cons_self ?_)
    cases hfind : (setPublishEnabled s.db config.key true).publishConfigFor config.key with
    | none => rfl
    | some m => exact (Table.key_of_find hfind : m.key = config.key)
  · refine hs.keep ⟨hdue'.1, hwanted⟩ hno (fun h => absurd h.symm hkey) ?_
    exact fun a' ha' h => MqttRequest.covers_of_mem (List.mem_cons_of_mem _ ha') h

theorem serves_disable {k : PublishKey} (hs : s.Serves { todo := .disable k :: todo } others) :
    (s.act ok todo (.disable k)).1.Serves (s.act ok todo (.disable k)).2 others := by
  intro key hdue' hno
  rcases wanted_setPublishEnabled hdue'.2 with ⟨-, ⟨⟩⟩ | ⟨hkey, hwanted⟩
  refine hs.keep ⟨hdue'.1, hwanted⟩ hno (fun h => absurd h.symm hkey) ?_
  exact fun a' ha' h => MqttRequest.covers_of_mem (List.mem_cons_of_mem _ ha') h

/-- The configs that are resumed are those that are wanted. -/
theorem mem_enabledOnRunning {db : Database} (hdb : db.Keyed) {broker : Option UUID}
    (hbroker : ∀ b ∈ broker, b = key.2) (h : db.Wanted key) :
    ∃ m ∈ enabledOnRunning db broker, m.key = key := by
  obtain ⟨⟨m, hm, hon⟩, d, hd, hstatus⟩ := h
  have hkey : m.key = key := Table.key_of_find hm
  have hdevice : db.findDevice m.deviceId = some d := by
    rw [← hd, ← hkey]
    rfl
  obtain ⟨t, ht, hid⟩ := hdb.deviceTemplates d (Table.mem_of_find hd)
  have htemplate : db.findTemplate d.templateId = some t := hdb.findTemplate_iff.2 ⟨ht, hid⟩
  refine ⟨m, List.mem_filter.2 ⟨Table.mem_of_find hm, ?_⟩, hkey⟩
  simp only [Bool.decide_and, Bool.and_eq_true, decide_eq_true_eq]
  refine ⟨hon, ?_, ?_⟩
  · cases broker with
    | none => rfl
    | some b =>
      rw [hbroker b rfl, ← hkey]
      exact decide_eq_true rfl
  · rw [hdevice, Option.any_some, htemplate]
    simpa using hstatus

theorem serves_resumeEnabled (hdb : s.db.Keyed) {broker : Option UUID}
    (hs : s.Serves { todo := .resumeEnabledPublishing broker :: todo } others) :
    s.Serves { todo := startAll (enabledOnRunning s.db broker) ++ todo } others := by
  intro key hdue hno
  refine hs.keep hdue hno (fun h => ?_) ?_
  · obtain ⟨m, hm, hkey⟩ := mem_enabledOnRunning hdb h hdue.2
    refine MqttRequest.covers_of_mem (List.mem_append_left _ (List.mem_map_of_mem hm)) ?_
    exact hkey
  · exact fun a' ha' h => MqttRequest.covers_of_mem (List.mem_append_right _ ha') h

theorem findDevice_setStatus {db : Database} {device i : UUID} {status : DeviceStatus}
    {d : DeviceInstance} (h : (db.setStatus device status).findDevice i = some d)
    (hstatus : d.status = .running) :
    device = i ∧ status = .running ∨ ∃ d', db.findDevice i = some d' ∧ d'.status = .running := by
  have hfind := @Table.find_update _ _ _ DeviceInstance.id db.devices device i
    (fun d => { d with status }) fun _ => rfl
  obtain ⟨d', hd', rfl⟩ := Option.map_eq_some_iff.1 (hfind.symm.trans h)
  split at hstatus
  next hid => exact Or.inl ⟨hid.symm.trans (Table.key_of_find hd'), hstatus⟩
  next => exact Or.inr ⟨d', hd', hstatus⟩

theorem serves_setStatus {device : UUID} {status : DeviceStatus}
    (hs : s.Serves { todo := .setStatus device status :: todo } others)
    (hcommits : status = .running → ∀ broker, s.mqtt.isBrokerConnected broker = true →
      s.db.Enabled (device, broker) → s.mqtt.NoLive (device, broker) →
      (∃ a ∈ todo, a.Settles (device, broker)) ∨ others (device, broker)) :
    (s.act ok todo (.setStatus device status)).1.Serves
      (s.act ok todo (.setStatus device status)).2 others := by
  intro key hdue' hno
  obtain ⟨hconnected, hon, d, hd, hrunning⟩ := hdue'
  have henabled : s.db.Enabled key := (Database.Enabled.of_same rfl).1 hon
  rcases findDevice_setStatus hd hrunning with ⟨rfl, rfl⟩ | hdevice
  · rcases hcommits rfl key.2 hconnected henabled hno with ⟨a', ha', h⟩ | h
    · exact Or.inl (MqttRequest.covers_of_mem ha' h)
    · exact Or.inr h
  · refine hs.keep ⟨hconnected, henabled, hdevice⟩ hno (fun h => h.elim) ?_
    exact fun a' ha' h => MqttRequest.covers_of_mem ha' h

end Acting

section Advancing

theorem historic_startAll {configs : List MqttPublishConfig} (h : ∀ a ∈ todo, a.Historic) :
    ∀ a ∈ startAll configs ++ todo, a.Historic := by
  intro a ha
  rcases List.mem_append.1 ha with ha | ha
  · obtain ⟨m, -, rfl⟩ := List.mem_map.1 ha
    trivial
  · exact h a ha

theorem historic_settle (hunder : (∀ ok, c.await ≠ .finished ok) → Underway c after)
    (htodo : ∀ a ∈ todo, a.Historic) : (MqttRequest.settle c after todo).Historic where
  running c' after' h := by
    obtain ⟨rfl, rfl, hawait⟩ := MqttRequest.settle_running h
    exact hunder hawait
  todo a ha := by
    rcases MqttRequest.mem_settle_todo ha with ha | ⟨broker, rfl⟩
    · exact htodo a ha
    · trivial

theorem historic_todo (htodo : ∀ a ∈ todo, a.Historic) :
    ({ todo } : MqttRequest).Historic := ⟨by rintro _ _ ⟨⟩, htodo⟩

theorem historic_start {k : PublishKey} {config : MqttPublishConfig}
    {await : MqttAwait (.startPublishing k config)} (hafter : ∀ broker, after ≠ .resume broker)
    (hawait : MqttAdapter.awaits k await ∨ ∃ ok, await = .finished ok)
    (htodo : ∀ a ∈ todo, a.Historic) :
    (MqttRequest.settle ⟨.startPublishing k config, await⟩ after todo).Historic := by
  refine historic_settle (fun hrunning => ?_) htodo
  rcases hawait with hawait | ⟨ok, hok⟩
  · exact .starting hawait hafter
  · exact absurd hok (hrunning ok)

theorem historic_stop {device broker : UUID}
    {await : MqttAwait (.stopPublishing device (some broker))}
    (hawait : (∃ k, MqttAdapter.awaits k await) ∨ await = .finished true)
    (htodo : ∀ a ∈ todo, a.Historic) :
    (MqttRequest.settle ⟨.stopPublishing device (some broker), await⟩ .nothing todo).Historic := by
  refine historic_settle (fun hrunning => ?_) htodo
  rcases hawait with ⟨k, hawait⟩ | hok
  · exact .stopping hawait
  · exact absurd hok (hrunning true)

theorem finished_begin_start {mqtt : MqttAdapter} {k : PublishKey} {config : MqttPublishConfig} :
    MqttAdapter.awaits k (mqtt.begin (.startPublishing k config)).2 ∨
      ∃ ok, (mqtt.begin (.startPublishing k config)).2 = .finished ok := by
  rcases @MqttAdapter.start_begin mqtt k config with h | ⟨h, -⟩ | ⟨-, h⟩
  · exact Or.inl h
  · exact Or.inr ⟨true, h⟩
  · exact Or.inr ⟨false, by rw [h]⟩

theorem serves_act (hdb : s.db.Keyed) (ha : a.Historic) (htodo : ∀ a ∈ todo, a.Historic)
    (hs : s.Serves { todo := a :: todo } others)
    (hfinds : s.Finds { todo := a :: todo } ok others) :
    (s.act ok todo a).1.Serves (s.act ok todo a).2 others ∧ (s.act ok todo a).2.Historic := by
  have hcovers : ∀ {key}, ¬ a.Settles key → ({ todo := a :: todo } : MqttRequest).Covers key →
      ∃ a ∈ todo, a.Settles key := by
    rintro key hhead (h | ⟨_, _, h, -⟩ | ⟨a', ha', h⟩)
    · cases h
    · cases h
    · rcases List.mem_cons.1 ha' with rfl | ha'
      · exact absurd h hhead
      · exact ⟨a', ha', h⟩
  have hkeep : ∀ {first}, (∀ a ∈ first, a.Historic) → (∀ key, ¬ a.Settles key) →
      s.Serves { todo := first ++ todo } others ∧
        ({ todo := first ++ todo } : MqttRequest).Historic := by
    intro first hfirst hhead
    refine ⟨fun key hdue hno => ?_, historic_todo fun a' ha' => ?_⟩
    · refine hs.keep hdue hno (fun h => absurd h (hhead key)) fun a' ha' h => ?_
      exact MqttRequest.covers_of_mem (List.mem_append_right _ ha') h
    · exact (List.mem_append.1 ha').elim (hfirst a') (htodo a')
  cases a with
  | call call =>
    cases call with
    | startPublishing key config =>
      exact ⟨serves_begin_start hs fun _ h => h,
        historic_start (by rintro _ ⟨⟩) finished_begin_start htodo⟩
    | stopPublishing device broker =>
      cases broker with
      | none => exact ha.elim
      | some broker =>
        refine ⟨serves_begin_stop (k := (device, broker)) hs fun hdue => ?_,
          historic_stop (MqttAdapter.stop_cancelPublishTasks _) htodo⟩
        exact (hfinds.stopping (device, broker) todo rfl hdue).imp_left (hcovers id)
    | _ => exact ha.elim
  | enable config =>
    exact ⟨serves_enable hs, historic_todo (List.forall_mem_cons.2 ⟨trivial, htodo⟩)⟩
  | start config =>
    exact ⟨serves_begin_start hs fun _ h => h,
      historic_start (by rintro _ ⟨⟩) finished_begin_start htodo⟩
  | disable key =>
    exact ⟨serves_disable hs, historic_todo (List.forall_mem_cons.2 ⟨trivial, htodo⟩)⟩
  | reconnectBroker settings =>
    exact ⟨serves_begin_reconnect hs, historic_settle (fun _ => .reconnecting) htodo⟩
  | resumeEnabledPublishing broker =>
    exact ⟨serves_resumeEnabled hdb hs, historic_todo (historic_startAll htodo)⟩
  | registerDeviceRuntime device =>
    refine hkeep (fun a ha => ?_) fun _ => id
    cases ok with
    | true => rcases List.mem_pair.1 ha with rfl | rfl <;> trivial
    | false =>
      rw [List.mem_singleton.1 ha]
      trivial
  | startEnabled device =>
    refine hkeep (fun a ha => ?_) fun _ => id
    obtain ⟨m, -, rfl⟩ := List.mem_map.1 ha
    trivial
  | removeDevice device template => exact ha.elim
  | setStatus device status =>
    refine ⟨serves_setStatus hs ?_, historic_todo htodo⟩
    rintro rfl broker hconnected hon hno
    exact (hfinds.committing device todo rfl broker hconnected hon hno).imp_left (hcovers id)

end Advancing

section Steps

variable {s' : MqttBackend} {r r' : MqttRequest}

/-- The start of the backend, before it resumes the devices. -/
structure Connecting (r : MqttRequest) : Prop where
  reverting : r.reverting = none
  running : ∀ c after, r.running = some (c, after) →
    after = .nothing ∧ ∃ broker settings, c.call = .connectBroker broker settings
  todo : ∃ brokers : List MqttBrokerSettings,
    r.todo = brokers.map (fun b => .call (.connectBroker b.id b)) ++ [.resumeEnabledPublishing none]

theorem Connecting.serves (h : Connecting r) : s.Serves r others := by
  obtain ⟨brokers, htodo⟩ := h.todo
  refine fun key _ _ =>
    Or.inl (MqttRequest.covers_of_mem (a := .resumeEnabledPublishing none) ?_ ?_)
  · rw [htodo]
    exact List.mem_append_right _ (List.mem_singleton_self _)
  · rintro _ ⟨⟩

theorem connecting_settle (hcall : ∃ broker settings, c.call = .connectBroker broker settings)
    (htodo : ∃ brokers : List MqttBrokerSettings,
      todo = brokers.map (fun b => .call (.connectBroker b.id b)) ++
        [.resumeEnabledPublishing none]) :
    Connecting (.settle c .nothing todo) where
  reverting := MqttRequest.settle_nothing.1
  running c' after h := by
    obtain ⟨rfl, rfl, -⟩ := MqttRequest.settle_running h
    exact ⟨rfl, hcall⟩
  todo := by
    rw [MqttRequest.settle_nothing.2]
    exact htodo

theorem advance_connecting (hdb : s.db.Keyed) (hr : Connecting r)
    (h : s.advance ok r = some (s', r')) :
    s'.Serves r' others ∧ (r'.Historic ∨ Connecting r') := by
  obtain ⟨key, hkey, -⟩ | ⟨c, after, todo, mqtt, await, rfl, -, rfl, rfl⟩ |
    ⟨a, todo, rfl, rfl, rfl⟩ := s.advance_cases h
  · rw [hr.reverting] at hkey
    cases hkey
  · obtain ⟨rfl, hcall⟩ := hr.running _ _ rfl
    have hconnecting : Connecting (.settle { c with await } .nothing todo) :=
      connecting_settle hcall hr.todo
    exact ⟨hconnecting.serves, Or.inr hconnecting⟩
  · obtain ⟨brokers, htodo⟩ := hr.todo
    cases brokers with
    | nil =>
      obtain ⟨rfl, rfl⟩ := List.cons.inj htodo
      exact ⟨serves_resumeEnabled hdb hr.serves,
        Or.inl (historic_todo (historic_startAll (by rintro _ ⟨⟩)))⟩
    | cons b brokers =>
      obtain ⟨rfl, rfl⟩ := List.cons.inj htodo
      have hconnecting : Connecting (.settle ⟨.connectBroker b.id b,
          (s.mqtt.begin (.connectBroker b.id b)).2⟩ .nothing _) :=
        connecting_settle ⟨b.id, b, rfl⟩ ⟨brokers, rfl⟩
      exact ⟨hconnecting.serves, Or.inr hconnecting⟩

theorem advance_historic (hdb : s.db.Keyed) (hr : r.Historic) (hs : s.Serves r others)
    (hfinds : s.Finds r ok others) (h : s.advance ok r = some (s', r')) :
    s'.Serves r' others ∧ r'.Historic := by
  obtain ⟨k, hk, rfl, rfl⟩ | ⟨⟨call, await⟩, after, todo, mqtt, await', rfl, hresume, rfl, rfl⟩ |
    ⟨a, todo, rfl, rfl, rfl⟩ := s.advance_cases h
  · refine ⟨fun key hdue' hno => ?_, hr.running, hr.todo⟩
    rcases wanted_setPublishEnabled hdue'.2 with ⟨-, ⟨⟩⟩ | ⟨hkey, hwanted⟩
    refine (hs key ⟨hdue'.1, hwanted⟩ hno).imp_left fun hcovers => ?_
    exact hcovers.imp_left fun h => absurd (Option.some.inj (hk.symm.trans h)).symm hkey
  · cases hr.running _ _ rfl with
    | starting hawait hafter =>
      refine ⟨serves_resume_start hs hawait hresume, historic_start hafter ?_ hr.todo⟩
      exact (MqttAdapter.start_resume hawait hresume).imp_right fun h => ⟨true, h.1⟩
    | stopping hawait =>
      have hdead := hfinds.cancelled _ _ _ rfl hawait
      exact ⟨serves_resume_stop hs hawait hdead hresume,
        historic_stop (MqttAdapter.stop_resume hawait hresume) hr.todo⟩
    | reconnecting =>
      refine ⟨serves_resume_reconnect hs ?_ hresume,
        historic_settle (fun _ => .reconnecting) hr.todo⟩
      rintro hfails rfl
      exact hfinds.failing hfails _ _ _ rfl
  · have htodo := List.forall_mem_cons.1 hr.todo
    exact serves_act hdb htodo.1 htodo.2 hs hfinds

theorem act_keeps (hdb : s.db.MqttKeyed) (hone : s.mqtt.OnePublish) (ok : Bool) (a : MqttAction) :
    (s.act ok todo a).1.db.MqttKeyed ∧ (s.act ok todo a).1.mqtt.OnePublish := by
  cases a with
  | call call => exact ⟨hdb, MqttAdapter.onePublish_begin hone⟩
  | enable config => exact ⟨mqttKeyed_setPublishEnabled hdb true, hone⟩
  | start config =>
    exact ⟨hdb, (MqttAdapter.callStep_begin hone (.startPublishing config.key config)).one⟩
  | disable key => exact ⟨mqttKeyed_setPublishEnabled hdb false, hone⟩
  | reconnectBroker settings =>
    exact ⟨hdb, (MqttAdapter.callStep_begin hone (.reconnectBroker settings.id settings)).one⟩
  | removeDevice device template =>
    simp only [act]
    split
    next => exact ⟨hdb, hone⟩
    next =>
      split
      next => exact ⟨hdb, (MqttAdapter.callStep_begin hone (.removeDevice device)).one⟩
      next => exact ⟨hdb, hone⟩
  | setStatus device status => exact ⟨setStatus_mqtt hdb status, hone⟩
  | _ => exact ⟨hdb, hone⟩

theorem advance_keeps (hdb : s.db.MqttKeyed) (hone : s.mqtt.OnePublish)
    (hcancelled : ∀ c after key, r.running = some (c, after) → MqttAdapter.awaits key c.await →
      s.mqtt.NoLive key)
    (h : s.advance ok r = some (s', r')) : s'.db.MqttKeyed ∧ s'.mqtt.OnePublish := by
  obtain ⟨k, -, rfl, -⟩ | ⟨c, after, todo, mqtt, await, rfl, hresume, rfl, -⟩ |
    ⟨a, todo, -, rfl, -⟩ := s.advance_cases h
  · exact ⟨mqttKeyed_setPublishEnabled hdb false, hone⟩
  · have hawaited := fun key => hcancelled c after key rfl
    exact ⟨hdb, (MqttAdapter.callStep_resume hone hawaited hresume).one⟩
  · exact act_keeps hdb hone ok a

/-- What a request of the histories does first makes no pair wanted. -/
theorem begin_keeps (hdb : s.db.MqttKeyed) (settings : Settings) (op : PublishOperation) :
    (s.begin settings op.toOperation).1.mqtt = s.mqtt ∧
      (s.begin settings op.toOperation).1.db.MqttKeyed ∧
      (∀ key, (s.begin settings op.toOperation).1.db.Wanted key → s.db.Wanted key) ∧
      (s.begin settings op.toOperation).2.Historic := by
  have hnothing : s.mqtt = s.mqtt ∧ s.db.MqttKeyed ∧ (∀ key, s.db.Wanted key → s.db.Wanted key) ∧
      ({} : MqttRequest).Historic := ⟨rfl, hdb, fun _ => id, historic_todo (by rintro _ ⟨⟩)⟩
  cases op with
  | startDevice device =>
    simp only [PublishOperation.toOperation, MqttBackend.begin]
    split
    next => exact hnothing
    next =>
      split
      next => exact ⟨rfl, hdb, fun _ => id, historic_todo (List.forall_mem_singleton.2 trivial)⟩
      next => exact hnothing
  | startPublishing device broker =>
    simp only [PublishOperation.toOperation, MqttBackend.begin]
    split
    next => exact hnothing
    next configs _ =>
      refine ⟨rfl, hdb, fun _ => id, historic_todo fun a ha => ?_⟩
      obtain ⟨m, -, rfl⟩ := List.mem_map.1 ha
      trivial
  | stopPublishing device broker =>
    simp only [PublishOperation.toOperation, MqttBackend.begin]
    split
    next => exact hnothing
    next configs _ =>
      refine ⟨rfl, hdb, fun _ => id, historic_todo fun a ha => ?_⟩
      obtain ⟨m, -, rfl⟩ := List.mem_map.1 ha
      trivial
  | updateBroker broker data =>
    simp only [PublishOperation.toOperation, MqttBackend.begin]
    split
    next => exact hnothing
    next db row hok =>
      obtain ⟨hdb', -, rfl⟩ := updateBroker_ok hdb hok
      exact ⟨rfl, hdb', fun _ => id, historic_todo (List.forall_mem_singleton.2 trivial)⟩

/-- A background task ends no live publish task; only a reconnect loop connects a broker. -/
theorem background_steps {e : Background} (hone : s.mqtt.OnePublish)
    (h : s.background e = some s') :
    s'.db = s.db ∧ s'.mqtt.OnePublish ∧ (∀ key, s'.mqtt.NoLive key → s.mqtt.NoLive key) ∧
      ∀ broker, MqttAdapter.Loses broker s.mqtt s'.mqtt ∨
        ∃ r, e = .reconnectStep broker r true ∧ s.mqtt.Opening broker r := by
  cases e with
  | reconnectStep broker r opens =>
    obtain ⟨mqtt, hstep, rfl⟩ := Option.map_eq_some_iff.1 h
    have hsame := fun key => @MqttAdapter.samePublish_reconnectStep _ _ key _ _ _ hstep
    refine ⟨rfl, MqttAdapter.onePublish_of_same hone hsame, fun key => (hsame key).noLive.1,
      fun b => ?_⟩
    refine (MqttAdapter.loses_reconnectStep (b := b) hstep).imp_right ?_
    rintro ⟨rfl, rfl, hopening⟩
    exact ⟨r, rfl, hopening⟩
  | publishStep k t e =>
    obtain ⟨mqtt, hstep, rfl⟩ := Option.map_eq_some_iff.1 h
    refine ⟨rfl, MqttAdapter.onePublish_publishStep hone hstep, fun key hno t' ht' => ?_,
      fun b => Or.inl (MqttAdapter.loses_publishStep hstep)⟩
    exact hno t' (MqttAdapter.liveAt_publishStep hone hstep ht')

end Steps

end MqttBackend

namespace MqttSystem

variable {settings : Settings} {s s' : MqttSystem} {e : Event} {i : ℕ} {r r' : MqttRequest}
  {key : PublishKey}

/-- What the steps keep. -/
structure Served (s : MqttSystem) : Prop where
  keyed : s.backend.db.MqttKeyed
  one : s.backend.mqtt.OnePublish
  requests : ∀ r ∈ s.requests, r.Historic ∨ MqttBackend.Connecting r
  covered : ∀ key, s.backend.Due key → s.backend.mqtt.NoLive key → s.Covered key

theorem covered_cases (hi : s.requests[i]? = some r) (h : s.Covered key) :
    r.Covers key ∨ s.CoveredBut i key := by
  obtain ⟨r', hr', hcovers⟩ := h
  obtain ⟨j, hj⟩ := List.mem_iff_getElem?.1 hr'
  by_cases hij : j = i
  · subst hij
    obtain rfl := Option.some.inj (hj.symm.trans hi)
    exact Or.inl hcovers
  · exact Or.inr ⟨j, r', hij, hj, hcovers⟩

theorem covered_set {backend : MqttBackend} (hi : s.requests[i]? = some r)
    (h : r'.Covers key ∨ s.CoveredBut i key) :
    MqttSystem.Covered { backend, requests := s.requests.set i r' } key := by
  rcases h with h | ⟨j, r'', hj, hr'', h⟩
  · refine ⟨r', List.mem_iff_getElem?.2 ⟨i, ?_⟩, h⟩
    exact List.getElem?_set_self (List.getElem?_eq_some_iff.1 hi).1
  · refine ⟨r'', List.mem_iff_getElem?.2 ⟨j, ?_⟩, h⟩
    exact (List.getElem?_set_ne hj.symm).trans hr''

theorem step_served (hs : s.Served) (hguard : s.Careful e) (hstep : step settings s e = some s') :
    s'.Served := by
  cases e with
  | operation op =>
    simp only [step, Option.ite_none_right_eq_some] at hstep
    obtain rfl := Option.some.inj hstep.2
    obtain ⟨hmqtt, hdb, hwanted, hhistoric⟩ := MqttBackend.begin_keeps hs.keyed settings op
    refine ⟨hdb, hmqtt ▸ hs.one, fun r hr => ?_, fun key hdue hno => ?_⟩
    · rcases List.mem_append.1 hr with hr | hr
      · exact hs.requests r hr
      · rw [List.mem_singleton.1 hr]
        exact Or.inl hhistoric
    · have hdue' : s.backend.Due key := ⟨hmqtt ▸ hdue.1, hwanted key hdue.2⟩
      obtain ⟨r, hr, hcovers⟩ := hs.covered key hdue' (hmqtt ▸ hno)
      exact ⟨r, List.mem_append_left _ hr, hcovers⟩
  | advance i ok =>
    obtain ⟨r, hi, hstep⟩ := Option.bind_eq_some_iff.1 hstep
    obtain ⟨⟨backend, r'⟩, hadvance, rfl⟩ := Option.map_eq_some_iff.1 hstep
    have hfinds := hguard r hi
    obtain ⟨hdb, hone⟩ := MqttBackend.advance_keeps hs.keyed hs.one hfinds.cancelled hadvance
    have hserves : s.backend.Serves r (s.CoveredBut i) := fun key hdue hno =>
      covered_cases hi (hs.covered key hdue hno)
    have hnext : backend.Serves r' (s.CoveredBut i) ∧
        (r'.Historic ∨ MqttBackend.Connecting r') := by
      rcases hs.requests r (List.mem_of_getElem? hi) with hr | hr
      · obtain ⟨hserves', hr'⟩ :=
          MqttBackend.advance_historic hs.keyed.toKeyed hr hserves hfinds hadvance
        exact ⟨hserves', Or.inl hr'⟩
      · exact MqttBackend.advance_connecting hs.keyed.toKeyed hr hadvance
    refine ⟨hdb, hone, fun r'' hr'' => ?_, fun key hdue hno => ?_⟩
    · rcases List.mem_or_eq_of_mem_set hr'' with hr'' | rfl
      · exact hs.requests r'' hr''
      · exact hnext.2
    · exact covered_set hi (hnext.1 key hdue hno)
  | background e =>
    obtain ⟨backend, hbackground, rfl⟩ := Option.map_eq_some_iff.1 hstep
    obtain ⟨hdb, hone, hno', hconnects⟩ := MqttBackend.background_steps hs.one hbackground
    refine ⟨hdb ▸ hs.keyed, hone, hs.requests, fun key hdue hno => ?_⟩
    have hwanted : s.backend.db.Wanted key := hdb ▸ hdue.2
    rcases hconnects key.2 with hloses | ⟨r, rfl, hopening⟩
    · exact hs.covered key ⟨hloses hdue.1, hwanted⟩ (hno' key hno)
    · exact hguard hopening key.1 hwanted (hno' key hno)

theorem publishes_of_served (hs : s.Served) : s.Publishes := by
  rintro hdone - key hdue
  by_contra hlive
  obtain ⟨r, hr, hcovers⟩ := hs.covered key hdue fun t ht => hlive ⟨t, ht⟩
  exact (hdone r hr).not_covers hcovers

theorem served_startup {db : Database} (hdb : db.MqttKeyed) : (startup db).Served := by
  refine ⟨hdb, MqttRun.onePublish_empty, fun r hr => Or.inr ?_, ?_⟩
  · rw [List.mem_singleton.1 hr]
    exact ⟨rfl, by rintro _ _ ⟨⟩, db.mqttBrokers, rfl⟩
  · rintro key ⟨⟨⟩, -⟩

/-- In a history whose steps leave no pair behind, every pair that is to be published is
published as soon as nothing is pending. -/
theorem always_publishes (settings : Settings) (db : Database) (hdb : db.MqttKeyed)
    (events : List Event)
    (hguard : EachStep (step settings) (fun s e _ => s.Careful e) (startup db) events) :
    Always (step settings) Publishes (startup db) events :=
  ⟨publishes_of_served (served_startup hdb),
    hguard.guarded (J := Served)
      (fun _ _ _ hs hstep hg =>
        ⟨step_served hs hg hstep, publishes_of_served (step_served hs hg hstep)⟩)
      (served_startup hdb)⟩

section Example

open MqttRun

/-- The connection of a pair that is being published is lost, and comes back. -/
def reconnecting : List Event := [.advance 0 true, .advance 0 true, .advance 0 true,
  .advance 0 true, .background (.publishStep (7, 1) 0 .raises),
  .background (.publishStep (7, 1) 0 (.wakes none .nan ["voltage"])),
  .background (.publishStep (7, 1) 0 .connectionLost),
  .background (.reconnectStep 1 0 false), .background (.reconnectStep 1 0 false),
  .background (.reconnectStep 1 0 false), .background (.reconnectStep 1 0 true)]

theorem always_publishes_reconnecting : ∃ s,
    exec (step {}) (startup (workshop .running true)) reconnecting = some s ∧
      s.backend.Due (7, 1) ∧ s.Publishes := by
  have hguard : EachStep (step {}) (fun s e _ => s.Careful e) (startup (workshop .running true))
      reconnecting := by
    refine fun s₁ h₁ => ⟨?_, ?_⟩
    · rintro r ⟨⟩
      refine ⟨by rintro _ _ _ ⟨⟩, by rintro ⟨⟩, by rintro _ _ ⟨⟩, by rintro _ _ ⟨⟩⟩
    obtain rfl := Option.some.inj h₁
    refine fun s₂ h₂ => ⟨?_, ?_⟩
    · rintro r ⟨⟩
      refine ⟨by rintro _ _ _ ⟨⟩ ⟨⟩, by rintro ⟨⟩, by rintro _ _ ⟨⟩, by rintro _ _ ⟨⟩⟩
    obtain rfl := Option.some.inj h₂
    refine fun s₃ h₃ => ⟨?_, ?_⟩
    · rintro r ⟨⟩
      refine ⟨by rintro _ _ _ ⟨⟩, by rintro ⟨⟩, by rintro _ _ ⟨⟩, by rintro _ _ ⟨⟩⟩
    obtain rfl := Option.some.inj h₃
    refine fun s₄ h₄ => ⟨?_, ?_⟩
    · rintro r ⟨⟩
      refine ⟨by rintro _ _ _ ⟨⟩, by rintro ⟨⟩, by rintro _ _ ⟨⟩, by rintro _ _ ⟨⟩⟩
    obtain rfl := Option.some.inj h₄
    refine fun s₅ h₅ => ⟨trivial, ?_⟩
    obtain rfl := Option.some.inj h₅
    refine fun s₆ h₆ => ⟨trivial, ?_⟩
    obtain rfl := Option.some.inj h₆
    refine fun s₇ h₇ => ⟨trivial, ?_⟩
    obtain rfl := Option.some.inj h₇
    refine fun s₈ h₈ => ⟨trivial, ?_⟩
    obtain rfl := Option.some.inj h₈
    refine fun s₉ h₉ => ⟨trivial, ?_⟩
    obtain rfl := Option.some.inj h₉
    refine fun s₁₀ h₁₀ => ⟨trivial, ?_⟩
    obtain rfl := Option.some.inj h₁₀
    refine fun s₁₁ h₁₁ => ⟨?_, trivial⟩
    rintro - device ⟨⟨m, hm, -⟩, -⟩ hno
    by_cases hdevice : device = 7
    · subst hdevice
      exact absurd ⟨_, rfl, rfl⟩ (hno 0)
    · refine absurd (Table.key_of_find hm) fun h => hdevice ?_
      obtain rfl := List.mem_singleton.1 (Table.mem_of_find hm)
      exact (congrArg Prod.fst h).symm
  refine ⟨_, rfl, ⟨rfl, ⟨_, rfl, rfl⟩, _, rfl, rfl⟩, ?_⟩
  exact (always_publishes {} (workshop .running true) (mqttKeyed_workshop .running true) _
    hguard).of_exec rfl

/-- The backend starts while the broker is down; a reconnect loop connects it later. -/
def brokerDown : List Event := [.advance 0 true, .advance 0 false, .advance 0 true,
  .advance 0 true, .background (.reconnectStep 1 0 false), .background (.reconnectStep 1 0 false),
  .background (.reconnectStep 1 0 true)]

theorem exec_brokerDown : ∃ s,
    exec (step {}) (startup (workshop .running true)) brokerDown = some s ∧
    (∀ r ∈ s.requests, r.Done) ∧
    (∀ broker r, isDone (s.backend.mqtt.reconnects broker) r = true) ∧
    s.backend.Due (7, 1) ∧ s.backend.mqtt.publishes (7, 1) = [] := by
  refine ⟨_, rfl, by decide, fun broker r => ?_, ⟨rfl, ?_, ?_⟩, rfl⟩
  · by_cases hb : broker = 1
    · subst hb
      cases r <;> rfl
    · show isDone (Function.update (Function.update (Function.update (Function.update
        (fun _ => []) 1 _) 1 _) 1 _) 1 _ broker) r = true
      simp only [Function.update_of_ne hb]
      rfl
  · exact ⟨_, rfl, rfl⟩
  · exact ⟨_, rfl, rfl⟩

theorem publishing_missed : ¬ ∀ settings db, db.MqttKeyed → ∀ events,
    Always (step settings) Publishes (startup db) events := by
  intro h
  obtain ⟨s, hexec, hdone, hreconnects, hdue, hnone⟩ := exec_brokerDown
  have hlast := (h {} _ (mqttKeyed_workshop .running true) brokerDown).of_exec hexec
  obtain ⟨t, task, htask, -⟩ := hlast hdone hreconnects (7, 1) hdue
  rw [hnone] at htask
  cases htask

end Example

end MqttSystem

end GhostMeter
