import GhostMeter.Lib.Run
import GhostMeter.Protocols.MqttAwaits
import GhostMeter.Services.ImportPublishing

/-! Orphans: publish tasks of pairs that have no enabled config.  The requests run one after
another. -/

namespace GhostMeter

open GhostMeter.Lib GhostMeter.Simulation GhostMeter.Protocols GhostMeter.Schemas
  GhostMeter.Services

/-- The backend with the request that is under way. -/
structure MqttSession where
  backend : MqttBackend
  request : MqttRequest := {}

namespace MqttSession

inductive Event
  /-- The next request, once the last one has returned. -/
  | operation (op : MqttOperation)
  | advance (ok : Bool)
  | background (e : MqttBackend.Background)

def startup (db : Database) : MqttSession :=
  let (backend, request) := MqttBackend.startup db
  { backend, request }

def step (settings : Settings) (s : MqttSession) : Event → Option MqttSession
  | .operation op =>
    if s.request.Done then
      let (backend, request) := s.backend.begin settings op
      some { backend, request }
    else none
  | .advance ok => (s.backend.advance ok s.request).map fun (backend, request) =>
      { backend, request }
  | .background e => (s.backend.background e).map fun backend => { s with backend }

/-- No request is under way, and every pair with a live publish task has an enabled config. -/
def NoOrphans (s : MqttSession) : Prop :=
  s.request.Done → ∀ key t, LiveAt (s.backend.mqtt.publishes key) t → s.backend.db.Enabled key

/-- The step takes no row and no flag from a pair that is being published. -/
def Careful (s : MqttSession) : Event → Prop
  | .operation (.deleteDevice device) => ∀ d, s.backend.db.findDevice device = some d →
    d.status ≠ .running → ∀ broker, s.backend.mqtt.NoLive (device, broker)
  | .operation (.importSystem data) => ∀ db r, importSystem s.backend.db data = .ok (db, r) →
    ∀ key, Disables s.backend.db data key → s.backend.mqtt.NoLive key
  | .advance _ => ∀ config todo, s.request = { todo := .start config :: todo } →
    s.backend.mqtt.isBrokerConnected config.key.2 = false → s.backend.mqtt.NoLive config.key
  | _ => True

end MqttSession

/-- The action leaves the flags alone, and starts to publish for an enabled pair only. -/
def MqttAction.Steady (db : Database) : MqttAction → Prop
  | .call (.startPublishing key _) => db.Enabled key
  | .enable _ => False
  | .start _ => False
  | .disable _ => False
  | _ => True

theorem MqttAction.Steady.of_configs {db db' : Database} {a : MqttAction} (h : a.Steady db)
    (hsame : db'.mqttPublishConfigs = db.mqttPublishConfigs) : a.Steady db' := by
  cases a with
  | call call =>
    cases call with
    | startPublishing key config => exact (Database.Enabled.of_same hsame).2 h
    | _ => trivial
  | _ => exact h

def MqttAction.Clearing : MqttAction → Prop
  | .call (.stopPublishing _ (some _)) => True
  | .disable _ => True
  | _ => False

def MqttAction.Enabling (db : Database) (a : MqttAction) : Prop :=
  ∃ config, a = .enable config ∧ (db.publishConfigFor config.key).isSome

namespace MqttBackend

variable (s : MqttBackend)

/-- Every pair with a live publish task has an enabled config, or is among the exceptions. -/
def OwnedBut (except : PublishKey → Prop) : Prop :=
  ∀ key, s.mqtt.NoLive key ∨ s.db.Enabled key ∨ except key

/-- A request that leaves the flags alone. -/
structure Steady (r : MqttRequest) : Prop where
  owned : s.OwnedBut fun _ => False
  reverting : r.reverting = none
  running : ∀ c after, r.running = some (c, after) →
    (∀ key, after ≠ .revert key) ∧ (MqttAction.call c.call).Steady s.db
  todo : ∀ a ∈ r.todo, a.Steady s.db

/-- A request that clears flags: the pairs that have lost theirs have still to be stopped. -/
structure Clearing (r : MqttRequest) : Prop where
  owned : s.OwnedBut fun key => .call (.stopPublishing key.1 (some key.2)) ∈ r.todo
  reverting : r.reverting = none
  running : ∀ c after, r.running = some (c, after) →
    after = .nothing ∧ (MqttAction.call c.call).Clearing
  todo : ∀ a ∈ r.todo, a.Clearing

/-- How far a request that sets flags has come with a pair. -/
inductive Enabling (todo : List MqttAction) : MqttRequest → Prop
  | ready : Enabling todo { todo }
  | flagged {config : MqttPublishConfig} (h : s.db.Enabled config.key) :
    Enabling todo { todo := .start config :: todo }
  | starting {key : PublishKey} {config : MqttPublishConfig}
    {await : MqttAwait (.startPublishing key config)} (h : s.db.Enabled key)
    (hawait : MqttAdapter.awaits key await) :
    Enabling todo { running := some (⟨.startPublishing key config, await⟩, .revert key), todo }
  | failed {key : PublishKey} (h : s.mqtt.NoLive key) :
    Enabling todo { reverting := some key, todo }

/-- What the requests keep from one await to the next. -/
structure Owned (r : MqttRequest) : Prop where
  keyed : s.db.MqttKeyed
  one : s.mqtt.OnePublish
  awaited : ∀ c after key, r.running = some (c, after) → MqttAdapter.awaits key c.await →
    s.mqtt.NoLive key
  phase : s.Steady r ∨ s.Clearing r ∨ s.OwnedBut (fun _ => False) ∧
    ∃ todo, s.Enabling todo r ∧ ∀ a ∈ todo, a.Enabling s.db

variable {s} {mqtt : MqttAdapter} {c : RunningCall} {after : AfterCall} {todo : List MqttAction}
  {except : PublishKey → Prop}

theorem OwnedBut.call (h : s.OwnedBut except) (hcall : MqttAdapter.CallStep s.mqtt mqtt c)
    (hsteady : (MqttAction.call c.call).Steady s.db) : ({ s with mqtt }).OwnedBut except := by
  intro key
  rcases h key with hno | h
  · by_cases hstart : ∃ config, c.call = .startPublishing key config
    · obtain ⟨config, hstart⟩ := hstart
      rw [hstart] at hsteady
      exact Or.inr (Or.inl hsteady)
    · exact Or.inl (hcall.noLive key hno fun config h => hstart ⟨config, h⟩)
  · exact Or.inr h

theorem awaited_settle (hcall : MqttAdapter.CallStep s.mqtt mqtt c) :
    ∀ c' after' key, (MqttRequest.settle c after todo).running = some (c', after') →
      MqttAdapter.awaits key c'.await → mqtt.NoLive key := by
  intro c' after' key hrunning hawaits
  obtain ⟨rfl, -, -⟩ := MqttRequest.settle_running hrunning
  exact hcall.awaited key hawaits

theorem owned_steady (hkeyed : s.db.MqttKeyed) (howned : s.OwnedBut fun _ => False)
    (hcall : MqttAdapter.CallStep s.mqtt mqtt c) (hafter : ∀ key, after ≠ .revert key)
    (hsteady : (MqttAction.call c.call).Steady s.db) (htodo : ∀ a ∈ todo, a.Steady s.db) :
    ({ s with mqtt }).Owned (.settle c after todo) := by
  refine ⟨hkeyed, hcall.one, awaited_settle hcall,
    Or.inl ⟨?_, MqttRequest.settle_reverting hafter, ?_, ?_⟩⟩
  · exact howned.call hcall hsteady
  · intro c' after' hrunning
    obtain ⟨rfl, rfl, -⟩ := MqttRequest.settle_running hrunning
    exact ⟨hafter, hsteady⟩
  · intro a ha
    rcases MqttRequest.mem_settle_todo ha with ha | ⟨broker, rfl⟩
    · exact htodo a ha
    · trivial

theorem owned_clearing (hkeyed : s.db.MqttKeyed) (hcall : MqttAdapter.CallStep s.mqtt mqtt c)
    (howned : ({ s with mqtt }).OwnedBut fun key =>
      MqttAction.call (.stopPublishing key.1 (some key.2)) ∈ todo)
    (hclearing : (MqttAction.call c.call).Clearing) (htodo : ∀ a ∈ todo, a.Clearing) :
    ({ s with mqtt }).Owned (.settle c .nothing todo) := by
  obtain ⟨hreverting, hleft⟩ := @MqttRequest.settle_nothing c todo
  refine ⟨hkeyed, hcall.one, awaited_settle hcall, Or.inr (Or.inl ⟨?_, hreverting, ?_, ?_⟩)⟩
  · rw [hleft]
    exact howned
  · intro c' after' hrunning
    obtain ⟨rfl, rfl, -⟩ := MqttRequest.settle_running hrunning
    exact ⟨rfl, hclearing⟩
  · rw [hleft]
    exact htodo

/-- The start of a pair has come to its next await, or to its end. -/
theorem owned_starting {key : PublishKey} {config : MqttPublishConfig}
    {await : MqttAwait (.startPublishing key config)} (hkeyed : s.db.MqttKeyed)
    (howned : s.OwnedBut fun _ => False)
    (hcall : MqttAdapter.CallStep s.mqtt mqtt ⟨.startPublishing key config, await⟩)
    (hkey : s.db.Enabled key) (htodo : ∀ a ∈ todo, a.Enabling s.db)
    (hawait : MqttAdapter.awaits key await ∨ await = .finished true ∨
      await = .finished false ∧ mqtt.NoLive key) :
    ({ s with mqtt }).Owned (.settle ⟨.startPublishing key config, await⟩ (.revert key) todo) := by
  refine ⟨hkeyed, hcall.one, awaited_settle hcall, Or.inr (Or.inr ⟨?_, todo, ?_, htodo⟩)⟩
  · exact howned.call hcall hkey
  · rcases hawait with hawait | rfl | ⟨rfl, hno⟩
    · cases await with
      | publishTask => exact .starting hkey hawait
      | _ => exact hawait.elim
    · exact .ready
    · exact .failed hno

section Acting

variable (ok : Bool) {a : MqttAction}

theorem owned_todo (hkeyed : s.db.MqttKeyed) (hone : s.mqtt.OnePublish)
    (howned : s.OwnedBut fun _ => False) (htodo : ∀ a ∈ todo, a.Steady s.db) :
    s.Owned { todo } :=
  ⟨hkeyed, hone, by rintro _ _ _ ⟨⟩, Or.inl ⟨howned, rfl, by rintro _ _ ⟨⟩, htodo⟩⟩

theorem steady_startAll (hkeyed : s.db.MqttKeyed) {configs : List MqttPublishConfig}
    (hconfigs : ∀ m ∈ configs, m ∈ s.db.mqttPublishConfigs ∧ m.enabled = true)
    (htodo : ∀ a ∈ todo, a.Steady s.db) : ∀ a ∈ startAll configs ++ todo, a.Steady s.db := by
  intro a ha
  rcases List.mem_append.1 ha with ha | ha
  · obtain ⟨m, hm, rfl⟩ := List.mem_map.1 ha
    exact hkeyed.enabled_of_mem (hconfigs m hm).1 (hconfigs m hm).2
  · exact htodo a ha

theorem OwnedBut.of_configs {db : Database} (h : s.OwnedBut except)
    (hsame : db.mqttPublishConfigs = s.db.mqttPublishConfigs) : ({ s with db }).OwnedBut except :=
  fun key => (h key).imp_right fun h => h.imp_left fun h => (Database.Enabled.of_same hsame).2 h

theorem owned_act_steady (hkeyed : s.db.MqttKeyed) (hone : s.mqtt.OnePublish)
    (howned : s.OwnedBut fun _ => False) (ha : a.Steady s.db)
    (htodo : ∀ a ∈ todo, a.Steady s.db) : (s.act ok todo a).1.Owned (s.act ok todo a).2 := by
  cases a with
  | call call =>
    exact owned_steady hkeyed howned (MqttAdapter.callStep_begin hone call) (by rintro _ ⟨⟩) ha
      htodo
  | enable config => exact ha.elim
  | start config => exact ha.elim
  | disable key => exact ha.elim
  | reconnectBroker settings =>
    have hcall := MqttAdapter.callStep_begin hone (.reconnectBroker settings.id settings)
    exact owned_steady hkeyed howned hcall (by rintro _ ⟨⟩) trivial htodo
  | resumeEnabledPublishing broker =>
    refine owned_todo hkeyed hone howned (steady_startAll hkeyed (fun m hm => ?_) htodo)
    obtain ⟨hm, hfilter⟩ := List.mem_filter.1 hm
    simp only [Bool.decide_and, Bool.and_eq_true, decide_eq_true_eq] at hfilter
    exact ⟨hm, hfilter.1⟩
  | registerDeviceRuntime device =>
    refine owned_todo hkeyed hone howned fun a ha => ?_
    rcases List.mem_append.1 ha with ha | ha
    · cases ok with
      | true => rcases List.mem_pair.1 ha with rfl | rfl <;> trivial
      | false =>
        rw [List.mem_singleton.1 ha]
        trivial
    · exact htodo a ha
  | startEnabled device =>
    refine owned_todo hkeyed hone howned (steady_startAll hkeyed (fun m hm => ?_) htodo)
    obtain ⟨hm, hon⟩ := List.mem_filter.1 hm
    exact ⟨(mem_listPublishConfigs hm).1, hon⟩
  | removeDevice device template =>
    simp only [act]
    split
    next => exact owned_todo hkeyed hone howned (by rintro _ ⟨⟩)
    next =>
      split
      next =>
        have hcall := MqttAdapter.callStep_begin hone (.removeDevice device)
        exact owned_steady hkeyed howned hcall (by rintro _ ⟨⟩) trivial htodo
      next => exact owned_todo hkeyed hone howned htodo
  | setStatus device status =>
    refine owned_todo (setStatus_mqtt hkeyed status) hone ?_ fun a ha => ?_
    · exact howned.of_configs rfl
    · exact MqttAction.Steady.of_configs (htodo a ha) rfl

/-- The pair of the action, if any, is one of those that have still to be stopped. -/
theorem owned_act_clearing (hkeyed : s.db.MqttKeyed) (hone : s.mqtt.OnePublish)
    (howned : s.OwnedBut fun key =>
      MqttAction.call (.stopPublishing key.1 (some key.2)) ∈ a :: todo)
    (ha : a.Clearing) (htodo : ∀ a ∈ todo, a.Clearing) :
    (s.act ok todo a).1.Owned (s.act ok todo a).2 := by
  cases a with
  | call call =>
    cases call with
    | stopPublishing device broker =>
      have hcall := MqttAdapter.callStep_begin hone (.stopPublishing device broker)
      refine owned_clearing hkeyed hcall (fun key => ?_) ha htodo
      rcases howned key with hno | hon | hmem
      · exact Or.inl (hcall.noLive key hno (by rintro _ ⟨⟩))
      · exact Or.inr (Or.inl hon)
      · rcases List.mem_cons.1 hmem with heq | hmem
        · obtain ⟨rfl, rfl⟩ : key.1 = device ∧ some key.2 = broker := by simpa using heq
          exact Or.inl (MqttAdapter.noLive_stopPublishing hone)
        · exact Or.inr (Or.inr hmem)
    | _ => exact ha.elim
  | disable key =>
    refine ⟨mqttKeyed_setPublishEnabled hkeyed false, hone, by rintro _ _ _ ⟨⟩,
      Or.inr (Or.inl ⟨fun k => ?_, rfl, by rintro _ _ ⟨⟩, fun a ha => ?_⟩)⟩
    · by_cases hk : k = key
      · subst hk
        exact Or.inr (Or.inr List.mem_cons_self)
      · refine (howned k).imp_right fun h => h.imp ?_ fun hmem => ?_
        · exact (enabled_setPublishEnabled_of_ne false hk).2
        · rcases List.mem_cons.1 hmem with heq | hmem
          · cases heq
          · exact List.mem_cons_of_mem _ hmem
    · rcases List.mem_cons.1 ha with rfl | ha
      · trivial
      · exact htodo a ha
  | _ => exact ha.elim

theorem enabling_setPublishEnabled {db : Database} {key : PublishKey} (on : Bool)
    (h : a.Enabling db) : a.Enabling (setPublishEnabled db key on) := by
  obtain ⟨config, rfl, hconfig⟩ := h
  refine ⟨config, rfl, ?_⟩
  rw [publishConfigFor_setPublishEnabled, Option.isSome_map]
  exact hconfig

theorem owned_act_enable {config : MqttPublishConfig} (hkeyed : s.db.MqttKeyed)
    (hone : s.mqtt.OnePublish) (howned : s.OwnedBut fun _ => False)
    (hconfig : (s.db.publishConfigFor config.key).isSome) (htodo : ∀ a ∈ todo, a.Enabling s.db) :
    (s.act ok todo (.enable config)).1.Owned (s.act ok todo (.enable config)).2 := by
  have hon : (setPublishEnabled s.db config.key true).Enabled config.key :=
    enabled_setPublishEnabled_self true |>.2 ⟨hconfig, rfl⟩
  refine ⟨mqttKeyed_setPublishEnabled hkeyed true, hone, by rintro _ _ _ ⟨⟩,
    Or.inr (Or.inr ⟨fun k => ?_, todo, .flagged ?_, fun a ha => ?_⟩)⟩
  · by_cases hk : k = config.key
    · subst hk
      exact Or.inr (Or.inl hon)
    · exact (howned k).imp_right fun h => h.imp_left (enabled_setPublishEnabled_of_ne true hk).2
  · obtain ⟨m, hm, hflag⟩ := hon
    rw [hm, Option.getD_some, show m.key = config.key from Table.key_of_find hm]
    exact ⟨m, hm, hflag⟩
  · exact enabling_setPublishEnabled true (htodo a ha)

theorem owned_act_start {config : MqttPublishConfig} (hkeyed : s.db.MqttKeyed)
    (hone : s.mqtt.OnePublish) (howned : s.OwnedBut fun _ => False)
    (hon : s.db.Enabled config.key) (htodo : ∀ a ∈ todo, a.Enabling s.db)
    (hguard : s.mqtt.isBrokerConnected config.key.2 = false → s.mqtt.NoLive config.key) :
    (s.act ok todo (.start config)).1.Owned (s.act ok todo (.start config)).2 := by
  have hcall := MqttAdapter.callStep_begin hone (.startPublishing config.key config)
  have hawait :
      MqttAdapter.awaits config.key (s.mqtt.begin (.startPublishing config.key config)).2 ∨
      (s.mqtt.begin (.startPublishing config.key config)).2 = .finished true ∨
      (s.mqtt.begin (.startPublishing config.key config)).2 = .finished false ∧
        (s.mqtt.begin (.startPublishing config.key config)).1.NoLive config.key := by
    rcases @MqttAdapter.start_begin s.mqtt config.key config with
      hawait | ⟨hfinished, -⟩ | ⟨hconnected, hbegin⟩
    · exact Or.inl hawait
    · exact Or.inr (Or.inl hfinished)
    · rw [hbegin]
      exact Or.inr (Or.inr ⟨rfl, hguard hconnected⟩)
  exact owned_starting hkeyed howned hcall hon htodo hawait

/-- The flag of a pair whose start has raised is cleared. -/
theorem owned_revert {key : PublishKey} (hkeyed : s.db.MqttKeyed) (hone : s.mqtt.OnePublish)
    (howned : s.OwnedBut fun _ => False) (hkey : s.mqtt.NoLive key)
    (htodo : ∀ a ∈ todo, a.Enabling s.db) :
    ({ s with db := setPublishEnabled s.db key false }).Owned { todo } := by
  refine ⟨mqttKeyed_setPublishEnabled hkeyed false, hone, by rintro _ _ _ ⟨⟩,
    Or.inr (Or.inr ⟨fun k => ?_, todo, .ready, fun a ha => ?_⟩)⟩
  · by_cases hk : k = key
    · subst hk
      exact Or.inl hkey
    · exact (howned k).imp_right fun h => h.imp_left (enabled_setPublishEnabled_of_ne false hk).2
  · exact enabling_setPublishEnabled false (htodo a ha)

end Acting

theorem Clearing.steady {call : MqttCall} {db : Database} (h : (MqttAction.call call).Clearing) :
    (MqttAction.call call).Steady db := by
  cases call with
  | stopPublishing device broker => trivial
  | _ => exact h.elim

theorem Owned.advance {s' : MqttBackend} {r r' : MqttRequest} {ok : Bool} (hs : s.Owned r)
    (hguard : ∀ config todo, r = { todo := .start config :: todo } →
      s.mqtt.isBrokerConnected config.key.2 = false → s.mqtt.NoLive config.key)
    (h : s.advance ok r = some (s', r')) : s'.Owned r' := by
  obtain ⟨hkeyed, hone, hawaited, hphase⟩ := hs
  obtain ⟨key, hkey, rfl, rfl⟩ | ⟨c, after, todo, mqtt, await, rfl, hresume, rfl, rfl⟩ |
    ⟨a, todo, rfl, rfl, rfl⟩ := s.advance_cases h
  · rcases hphase with hphase | hphase | ⟨howned, todo, hphase, htodo⟩
    · exact absurd hphase.reverting (by simp [hkey])
    · exact absurd hphase.reverting (by simp [hkey])
    · cases hphase with
      | failed hno =>
        cases hkey
        exact owned_revert hkeyed hone howned hno htodo
      | _ => cases hkey
  · have hcall := MqttAdapter.callStep_resume hone (fun key => hawaited c after key rfl) hresume
    rcases hphase with hphase | hphase | ⟨howned, todo, hphase, htodo⟩
    · obtain ⟨hafter, hsteady⟩ := hphase.running c after rfl
      exact owned_steady hkeyed hphase.owned hcall hafter hsteady hphase.todo
    · obtain ⟨rfl, hclearing⟩ := hphase.running c after rfl
      refine owned_clearing hkeyed hcall ?_ hclearing hphase.todo
      exact hphase.owned.call hcall (Clearing.steady hclearing)
    · cases hphase with
      | starting hkey hawait =>
        refine owned_starting hkeyed howned hcall hkey htodo ?_
        exact (MqttAdapter.start_resume hawait hresume).imp_right fun h => Or.inl h.1
  · rcases hphase with hphase | hphase | ⟨howned, rest, hphase, hrest⟩
    · have htodo := List.forall_mem_cons.1 hphase.todo
      exact owned_act_steady ok hkeyed hone hphase.owned htodo.1 htodo.2
    · have htodo := List.forall_mem_cons.1 hphase.todo
      exact owned_act_clearing ok hkeyed hone hphase.owned htodo.1 htodo.2
    · cases hphase with
      | ready =>
        obtain ⟨⟨config, rfl, hconfig⟩, htodo⟩ := List.forall_mem_cons.1 hrest
        exact owned_act_enable ok hkeyed hone howned hconfig htodo
      | flagged hon =>
        exact owned_act_start ok hkeyed hone howned hon hrest (hguard _ _ rfl)

section Beginning

variable {settings : Settings}

/-- A request that keeps the flags of the pairs that are being published. -/
theorem OwnedBut.kept {db : Database} (h : s.OwnedBut fun _ => False)
    (hkept : ∀ key, s.db.Enabled key → db.Enabled key ∨ s.mqtt.NoLive key) :
    ({ s with db }).OwnedBut fun _ => False := by
  intro key
  rcases h key with hno | hon | hfalse
  · exact Or.inl hno
  · exact (hkept key hon).symm.imp_right Or.inl
  · exact hfalse.elim

theorem Owned.of_done {r : MqttRequest} (hs : s.Owned r) (hdone : r.Done) :
    s.OwnedBut fun _ => False := by
  rcases hs.phase with hphase | hphase | ⟨howned, -⟩
  · exact hphase.owned
  · intro key
    refine (hphase.owned key).imp_right fun h => h.imp_right fun hmem => ?_
    rw [hdone.2.2] at hmem
    cases hmem
  · exact howned

theorem owned_disable (hkeyed : s.db.MqttKeyed) (hone : s.mqtt.OnePublish)
    (howned : s.OwnedBut fun key => MqttAction.call (.stopPublishing key.1 (some key.2)) ∈ todo)
    (htodo : ∀ a ∈ todo, a.Clearing) : s.Owned { todo } :=
  ⟨hkeyed, hone, by rintro _ _ _ ⟨⟩, Or.inr (Or.inl ⟨howned, rfl, by rintro _ _ ⟨⟩, htodo⟩)⟩

theorem owned_begin (op : MqttOperation) (hkeyed : s.db.MqttKeyed) (hone : s.mqtt.OnePublish)
    (howned : s.OwnedBut fun _ => False)
    (hdelete : ∀ device, op = .deleteDevice device → ∀ d, s.db.findDevice device = some d →
      d.status ≠ .running → ∀ broker, s.mqtt.NoLive (device, broker))
    (himport : ∀ data, op = .importSystem data → ∀ db r, importSystem s.db data = .ok (db, r) →
      ∀ key, Disables s.db data key → s.mqtt.NoLive key) :
    (s.begin settings op).1.Owned (s.begin settings op).2 := by
  have hnothing : s.Owned {} := owned_todo hkeyed hone howned (by rintro _ ⟨⟩)
  cases op with
  | createDevice data =>
    obtain ⟨hkeyed', hsame⟩ := createDevice_mqtt hkeyed settings data
    exact owned_todo hkeyed' hone (howned.of_configs hsame) (by rintro _ ⟨⟩)
  | startDevice device =>
    simp only [MqttBackend.begin]
    split
    next => exact hnothing
    next =>
      split
      next => exact owned_todo hkeyed hone howned (List.forall_mem_singleton.2 trivial)
      next => exact hnothing
  | stopDevice device =>
    simp only [MqttBackend.begin]
    split
    next => exact hnothing
    next =>
      split
      next => exact hnothing
      next =>
        refine owned_todo hkeyed hone howned ?_
        exact List.forall_mem_cons.2 ⟨trivial, List.forall_mem_cons.2
          ⟨trivial, List.forall_mem_singleton.2 trivial⟩⟩
  | deleteDevice device =>
    simp only [MqttBackend.begin]
    split
    next => exact hnothing
    next db hok =>
      obtain ⟨d, hd, hstatus, -⟩ := deleteDevice_ok_iff.1 hok
      obtain ⟨hkeyed', hkept⟩ := deleteDevice_mqtt hkeyed hok
      refine owned_todo hkeyed' hone (howned.kept fun key hon => ?_) (by rintro _ ⟨⟩)
      by_cases hkey : key.1 = device
      · subst hkey
        exact Or.inr (hdelete _ rfl d hd hstatus key.2)
      · exact Or.inl (hkept key hkey hon)
  | savePublishConfig key data =>
    simp only [MqttBackend.begin]
    split
    next => exact hnothing
    next db hok =>
      obtain ⟨hkeyed', hkept⟩ := upsertPublishConfig_ok hkeyed hok
      exact owned_todo hkeyed' hone (howned.kept fun k hon => Or.inl (hkept k hon))
        (by rintro _ ⟨⟩)
  | deletePublishConfig key =>
    simp only [MqttBackend.begin]
    split
    next => exact hnothing
    next db hok =>
      obtain ⟨hkeyed', hkept⟩ := deletePublishConfig_ok hkeyed hok
      refine owned_disable hkeyed' hone (fun k => ?_) (List.forall_mem_singleton.2 trivial)
      rcases howned k with hno | hon | hfalse
      · exact Or.inl hno
      · by_cases hk : k = key
        · subst hk
          exact Or.inr (Or.inr (List.mem_singleton_self _))
        · exact Or.inr (Or.inl (hkept k hk hon))
      · exact hfalse.elim
  | startPublishing device broker =>
    simp only [MqttBackend.begin]
    split
    next => exact hnothing
    next configs hok =>
      refine ⟨hkeyed, hone, by rintro _ _ _ ⟨⟩,
        Or.inr (Or.inr ⟨howned, configs.map .enable, .ready, fun a ha => ?_⟩)⟩
      obtain ⟨m, hm, rfl⟩ := List.mem_map.1 ha
      have hfind : s.db.publishConfigFor m.key = some m :=
        (Table.find_eq_some_iff hkeyed.publishKeys).2 ⟨mem_targetConfigs hok hm, rfl⟩
      exact ⟨m, rfl, by rw [hfind]; rfl⟩
  | stopPublishing device broker =>
    simp only [MqttBackend.begin]
    split
    next => exact hnothing
    next configs hok =>
      refine owned_disable hkeyed hone (fun k => ?_) fun a ha => ?_
      · exact (howned k).imp_right fun h => h.imp_right False.elim
      · obtain ⟨m, -, rfl⟩ := List.mem_map.1 ha
        trivial
  | createBroker data =>
    simp only [MqttBackend.begin]
    split
    next => exact hnothing
    next db broker hok =>
      obtain ⟨hkeyed', hsame⟩ := createBroker_ok hkeyed hok
      exact owned_todo hkeyed' hone (howned.of_configs hsame)
        (List.forall_mem_singleton.2 trivial)
  | updateBroker broker data =>
    simp only [MqttBackend.begin]
    split
    next => exact hnothing
    next db row hok =>
      obtain ⟨hkeyed', -, rfl⟩ := updateBroker_ok hkeyed hok
      exact owned_todo hkeyed' hone (howned.of_configs rfl) (List.forall_mem_singleton.2 trivial)
  | deleteBroker broker =>
    simp only [MqttBackend.begin]
    split
    next => exact hnothing
    next db hok =>
      obtain ⟨hkeyed', hsame⟩ := deleteBroker_ok hkeyed hok
      exact owned_todo hkeyed' hone (howned.of_configs hsame)
        (List.forall_mem_singleton.2 trivial)
  | importSystem data =>
    simp only [MqttBackend.begin]
    split
    next => exact hnothing
    next db r hok =>
      obtain ⟨hkeyed', hkept⟩ := importSystem_mqtt hkeyed hok
      refine owned_todo hkeyed' hone (howned.kept fun key hon => ?_) (by rintro _ ⟨⟩)
      exact (hkept key hon).imp_right (himport data rfl db r hok key)

end Beginning

section Background

/-- The background tasks make nothing live. -/
theorem background_keeps {s' : MqttBackend} {e : Background} (hone : s.mqtt.OnePublish)
    (h : s.background e = some s') :
    s'.db = s.db ∧ s'.mqtt.OnePublish ∧ ∀ key, s.mqtt.NoLive key → s'.mqtt.NoLive key := by
  cases e with
  | reconnectStep broker r opens =>
    obtain ⟨mqtt, hstep, rfl⟩ := Option.map_eq_some_iff.1 h
    have hsame := fun key => @MqttAdapter.samePublish_reconnectStep _ _ key _ _ _ hstep
    exact ⟨rfl, MqttAdapter.onePublish_of_same hone hsame, fun key => (hsame key).noLive.2⟩
  | publishStep k t e =>
    obtain ⟨mqtt, hstep, rfl⟩ := Option.map_eq_some_iff.1 h
    refine ⟨rfl, MqttAdapter.onePublish_publishStep hone hstep, fun key hno => ?_⟩
    obtain ⟨hother, -, hkeeps⟩ := MqttAdapter.publishStep_keeps hstep
    by_cases hkey : key = k
    · subst hkey
      exact MqttAdapter.noLive_of_liveAt (fun t ht => (hkeeps t ht).1) hno
    · exact (hother key hkey).noLive.2 hno

theorem Owned.background {s' : MqttBackend} {r : MqttRequest} {e : Background} (hs : s.Owned r)
    (h : s.background e = some s') : s'.Owned r := by
  obtain ⟨hdb, hone, hno⟩ := background_keeps hs.one h
  obtain ⟨db, mqtt⟩ := s'
  obtain rfl : db = s.db := hdb
  have howned : ∀ except, s.OwnedBut except → MqttBackend.OwnedBut { db := s.db, mqtt } except :=
    fun except h key => (h key).imp_left (hno key)
  refine ⟨hs.keyed, hone, fun c after key hrunning hawaits => ?_, ?_⟩
  · exact hno key (hs.awaited c after key hrunning hawaits)
  · rcases hs.phase with hphase | hphase | ⟨hbut, todo, hphase, htodo⟩
    · exact Or.inl { hphase with owned := howned _ hphase.owned }
    · exact Or.inr (Or.inl { hphase with owned := howned _ hphase.owned })
    · refine Or.inr (Or.inr ⟨howned _ hbut, todo, ?_, htodo⟩)
      cases hphase with
      | ready => exact .ready
      | flagged h => exact .flagged h
      | starting h hawait => exact .starting h hawait
      | failed h => exact .failed (hno _ h)

end Background

end MqttBackend

namespace MqttSession

variable {settings : Settings} {s s' : MqttSession} {e : Event}

theorem step_owned (hs : s.backend.Owned s.request) (hguard : Careful s e)
    (hstep : step settings s e = some s') : s'.backend.Owned s'.request := by
  cases e with
  | operation op =>
    simp only [step, Option.ite_none_right_eq_some] at hstep
    obtain ⟨hdone, hstep⟩ := hstep
    obtain rfl := Option.some.inj hstep
    refine MqttBackend.owned_begin op hs.keyed hs.one (hs.of_done hdone) ?_ ?_
    · rintro device rfl
      exact hguard
    · rintro data rfl
      exact hguard
  | advance ok =>
    obtain ⟨⟨backend, request⟩, hadvance, rfl⟩ := Option.map_eq_some_iff.1 hstep
    exact hs.advance hguard hadvance
  | background e =>
    obtain ⟨backend, hbackground, rfl⟩ := Option.map_eq_some_iff.1 hstep
    exact hs.background hbackground

theorem noOrphans_of_owned (hs : s.backend.Owned s.request) : s.NoOrphans := by
  intro hdone key t ht
  exact ((hs.of_done hdone key).resolve_left fun hno => hno t ht).resolve_right id

theorem owned_startup {db : Database} (hdb : db.MqttKeyed) :
    (startup db).backend.Owned (startup db).request := by
  refine MqttBackend.owned_todo hdb MqttRun.onePublish_empty (fun key => Or.inl ?_) fun a ha => ?_
  · rintro t ⟨task, htask, -⟩
    cases htask
  · rcases List.mem_append.1 ha with ha | ha
    · obtain ⟨b, -, rfl⟩ := List.mem_map.1 ha
      trivial
    · rw [List.mem_singleton.1 ha]
      trivial

/-- In a run that takes no row and no flag from a pair that is being published, no operation
leaves an orphan. -/
theorem always_noOrphans (settings : Settings) (db : Database) (hdb : db.MqttKeyed)
    (events : List Event)
    (hguard : EachStep (step settings) (fun s e _ => Careful s e) (startup db) events) :
    Always (step settings) NoOrphans (startup db) events :=
  ⟨noOrphans_of_owned (owned_startup hdb),
    hguard.guarded (J := fun s => s.backend.Owned s.request)
      (fun _ _ _ hs hstep hg =>
        ⟨step_owned hs hg hstep, noOrphans_of_owned (step_owned hs hg hstep)⟩)
      (owned_startup hdb)⟩

section Example

open MqttRun

/-- The broker is connected. -/
def connecting : List Event := [.advance true, .advance true, .advance true]

/-- A running device is published from the start on; it cannot be deleted. -/
theorem always_noOrphans_running : ∃ s,
    exec (step {}) (startup (workshop .running true))
        (connecting ++ [.advance true, .operation (.deleteDevice 7)]) = some s ∧
      s.request.Done ∧ LiveAt (s.backend.mqtt.publishes (7, 1)) 0 ∧ s.NoOrphans := by
  have hguard : EachStep (step {}) (fun s e _ => Careful s e) (startup (workshop .running true))
      (connecting ++ [.advance true, .operation (.deleteDevice 7)]) := by
    refine fun s₁ h₁ => ⟨by rintro _ _ ⟨⟩, ?_⟩
    obtain rfl := Option.some.inj h₁
    refine fun s₂ h₂ => ⟨by rintro _ _ ⟨⟩, ?_⟩
    obtain rfl := Option.some.inj h₂
    refine fun s₃ h₃ => ⟨by rintro _ _ ⟨⟩, ?_⟩
    obtain rfl := Option.some.inj h₃
    refine fun s₄ h₄ => ⟨by rintro _ _ ⟨⟩, ?_⟩
    obtain rfl := Option.some.inj h₄
    refine fun s₅ h₅ => ⟨?_, trivial⟩
    rintro d ⟨⟩ hstatus
    exact absurd rfl hstatus
  refine ⟨_, rfl, by decide, ⟨_, rfl, rfl⟩, ?_⟩
  exact (always_noOrphans {} (workshop .running true) (mqttKeyed_workshop .running true) _
    hguard).of_exec rfl

/-- Publishing is started for a stopped device, and the device is deleted. -/
def orphaning : List Event := connecting ++ [.operation (.startPublishing 7 none), .advance true,
  .advance true, .operation (.deleteDevice 7)]

theorem exec_orphaning : ∃ s,
    exec (step {}) (startup (workshop .stopped false)) orphaning = some s ∧
    s.request.Done ∧ LiveAt (s.backend.mqtt.publishes (7, 1)) 0 ∧
    s.backend.db.publishConfigFor (7, 1) = none := by
  have hstart : ∀ mqtt, step {} ⟨⟨workshop .stopped false, mqtt⟩, {}⟩
      (.operation (.startPublishing 7 none)) = some ⟨⟨workshop .stopped false, mqtt⟩,
        { todo := [.enable (meterConfig false)] }⟩ := by
    intro mqtt
    simp only [step, MqttBackend.begin, targetConfigs_workshop]
    rfl
  have hconnecting : exec (step {}) (startup (workshop .stopped false)) connecting =
      some ⟨⟨workshop .stopped false, MqttAdapter.storeClient (.recordBroker {} 1 localhost) 1⟩,
        {}⟩ := rfl
  rw [orphaning, exec_append, hconnecting, Option.bind_some, exec, hstart, Option.bind_some]
  exact ⟨_, rfl, by decide, ⟨_, rfl, rfl⟩, rfl⟩

theorem device_orphaned : ¬ ∀ settings db, db.MqttKeyed → ∀ events,
    Always (step settings) NoOrphans (startup db) events := by
  intro h
  obtain ⟨s, hexec, hdone, hlive, hnone⟩ := exec_orphaning
  have hlast := (h {} _ (mqttKeyed_workshop .stopped false) orphaning).of_exec hexec
  obtain ⟨m, hm, -⟩ := hlast hdone (7, 1) 0 hlive
  rw [hnone] at hm
  cases hm

end Example

end MqttSession

end GhostMeter
