import GhostMeter.Protocols.MqttAdapter

/-! Brokers do not touch each other: what is about one broker stays as it is in every step that
is about another one. -/

namespace GhostMeter.Protocols

open GhostMeter.Lib

namespace MqttAdapter

/-- The adapter's connection to a broker is the same. -/
structure SameConnection (broker : UUID) (s s' : MqttAdapter) : Prop where
  info : s'.brokerInfo broker = s.brokerInfo broker
  settings : s'.brokerSettings broker = s.brokerSettings broker
  client : s'.clients broker = s.clients broker
  opened : s'.opened broker = s.opened broker
  reconnectTask : s'.reconnectTasks broker = s.reconnectTasks broker
  reconnects : s'.reconnects broker = s.reconnects broker

/-- All that the adapter holds for a broker is the same. -/
structure SameBroker (broker : UUID) (s s' : MqttAdapter) : Prop
    extends SameConnection broker s s' where
  publishTask (device : UUID) :
    s'.publishTasks.get (device, broker) = s.publishTasks.get (device, broker)
  publishes (device : UUID) : s'.publishes (device, broker) = s.publishes (device, broker)
  publishConfig (device : UUID) :
    s'.publishConfigs (device, broker) = s.publishConfigs (device, broker)

variable {s s₁ s₂ : MqttAdapter} {broker other : UUID} {call : MqttCall} {key : PublishKey}

theorem SameConnection.refl (s : MqttAdapter) : SameConnection other s s :=
  ⟨rfl, rfl, rfl, rfl, rfl, rfl⟩

theorem SameConnection.trans (h : SameConnection other s s₁) (h' : SameConnection other s₁ s₂) :
    SameConnection other s s₂ where
  info := h'.info.trans h.info
  settings := h'.settings.trans h.settings
  client := h'.client.trans h.client
  opened := h'.opened.trans h.opened
  reconnectTask := h'.reconnectTask.trans h.reconnectTask
  reconnects := h'.reconnects.trans h.reconnects

theorem SameBroker.refl (s : MqttAdapter) : SameBroker other s s :=
  ⟨SameConnection.refl s, fun _ => rfl, fun _ => rfl, fun _ => rfl⟩

theorem SameBroker.trans (h : SameBroker other s s₁) (h' : SameBroker other s₁ s₂) :
    SameBroker other s s₂ where
  toSameConnection := h.toSameConnection.trans h'.toSameConnection
  publishTask device := (h'.publishTask device).trans (h.publishTask device)
  publishes device := (h'.publishes device).trans (h.publishes device)
  publishConfig device := (h'.publishConfig device).trans (h.publishConfig device)

section Connections

variable (hne : other ≠ broker)

include hne

theorem sameBroker_setConnected (connected : Bool) :
    SameBroker other s (s.setConnected broker connected) :=
  { SameBroker.refl s with info := Function.update_of_ne hne _ _ }

theorem sameBroker_storeClient : SameBroker other s (s.storeClient broker) :=
  { SameBroker.refl s with
    info := Function.update_of_ne hne _ _
    client := Dict.set_of_ne _ _ hne
    opened := Function.update_of_ne hne _ _ }

theorem sameBroker_closeClient : SameBroker other s (s.closeClient broker).1 := by
  unfold closeClient
  split
  next => exact sameBroker_setConnected hne false
  next => exact { SameBroker.refl s with
    client := Dict.pop_of_ne _ hne
    opened := Function.update_of_ne hne _ _ }

theorem sameBroker_scheduleReconnect : SameBroker other s (s.scheduleReconnect broker) := by
  unfold scheduleReconnect
  split
  next => exact { SameBroker.refl s with
    reconnectTask := Dict.set_of_ne _ _ hne
    reconnects := Function.update_of_ne hne _ _ }
  next => exact SameBroker.refl s

theorem sameBroker_markBrokerDisconnected :
    SameBroker other s (s.markBrokerDisconnected broker) :=
  (sameBroker_setConnected hne false).trans (sameBroker_scheduleReconnect hne)

theorem sameBroker_cancelReconnectTask :
    SameBroker other s (s.cancelReconnectTask broker).1 := by
  unfold cancelReconnectTask
  split
  next => exact SameBroker.refl s
  next r _ =>
    by_cases h : isDone (s.reconnects broker) r = true
    · rw [if_pos h]
      exact { SameBroker.refl s with reconnectTask := Dict.pop_of_ne _ hne }
    · rw [if_neg h]
      exact { SameBroker.refl s with
        reconnectTask := Dict.pop_of_ne _ hne
        reconnects := Function.update_of_ne hne _ _ }

theorem sameBroker_recordBroker (settings : MqttBrokerSettings) :
    SameBroker other s (s.recordBroker broker settings) :=
  { SameBroker.refl s with
    info := Dict.set_of_ne _ _ hne
    settings := Dict.set_of_ne _ _ hne }

theorem sameBroker_forgetBroker : SameBroker other s (s.forgetBroker broker) :=
  { SameBroker.refl s with
    info := Dict.pop_of_ne _ hne
    settings := Dict.pop_of_ne _ hne }

theorem sameBroker_setReconnect (r : ℕ) (task : AsyncTask ReconnectPlace) :
    SameBroker other s (s.setReconnect broker r task) :=
  { SameBroker.refl s with reconnects := Function.update_of_ne hne _ _ }

theorem sameBroker_endReconnect (r : ℕ) (task : AsyncTask ReconnectPlace) :
    SameBroker other s (s.endReconnect broker r task) :=
  (sameBroker_setReconnect hne r task.finish).trans
    { SameBroker.refl (s.setReconnect broker r task.finish) with
      reconnectTask := Dict.pop_of_ne _ hne }

theorem sameBroker_reconnectStep {r : ℕ} {opens : Bool}
    (h : s.reconnectStep broker r opens = some s₁) : SameBroker other s s₁ := by
  obtain ⟨task, place, -, -, ⟨-, rfl⟩ | ⟨-, rfl⟩ | ⟨s₂, next, -, hs₂, rfl⟩ |
    ⟨-, -, -, rfl⟩⟩ :=
    reconnectStep_cases h
  · exact sameBroker_setReconnect hne r _
  · exact sameBroker_endReconnect hne r _
  · refine SameBroker.trans ?_ (sameBroker_setReconnect hne r _)
    obtain rfl | rfl | rfl := hs₂
    · exact SameBroker.refl _
    · exact sameBroker_closeClient hne
    · exact sameBroker_setConnected hne false
  · exact (sameBroker_storeClient hne).trans (sameBroker_endReconnect hne r _)

end Connections

section Publishing

variable (hne : other ≠ key.2)

include hne

theorem key_ne (device : UUID) : (device, other) ≠ key := fun h => hne (h ▸ rfl)

theorem sameBroker_dropConfig : SameBroker other s (s.dropConfig key) :=
  { SameBroker.refl s with publishConfig := fun _ => Dict.pop_of_ne _ (key_ne hne _) }

theorem sameBroker_cancelPublishTask : SameBroker other s (s.cancelPublishTask key).1 := by
  unfold cancelPublishTask
  have hpop : ∀ device, (s.publishTasks.pop key).get (device, other) =
      s.publishTasks.get (device, other) :=
    fun _ => Dict.pop_of_ne _ (key_ne hne _)
  split
  next => exact sameBroker_dropConfig hne
  next t _ =>
    by_cases h : isDone (s.publishes key) t = true
    · rw [if_pos h]
      exact { sameBroker_dropConfig hne with publishTask := hpop }
    · rw [if_neg h]
      exact { SameBroker.refl s with
        publishTask := hpop
        publishes := fun _ => Function.update_of_ne (key_ne hne _) _ _ }

theorem sameBroker_registerPublish (config : MqttPublishConfig) :
    SameBroker other s (s.registerPublish key config) :=
  { SameBroker.refl s with
    publishTask := fun _ => Dict.set_of_ne _ _ (key_ne hne _)
    publishes := fun _ => Function.update_of_ne (key_ne hne _) _ _
    publishConfig := fun _ => Dict.set_of_ne _ _ (key_ne hne _) }

theorem sameBroker_setPublish (t : ℕ) (task : AsyncTask PublishPlace) :
    SameBroker other s (s.setPublish key t task) :=
  { SameBroker.refl s with publishes := fun _ => Function.update_of_ne (key_ne hne _) _ _ }

theorem sameBroker_publishStep {t : ℕ} {e : PublishEvent}
    (h : s.publishStep key t e = some s₁) : SameBroker other s s₁ := by
  obtain ⟨task, place, -, -, ⟨-, rfl⟩ | ⟨next, -, -, rfl | ⟨-, rfl⟩⟩⟩ := publishStep_cases h
  · exact sameBroker_setPublish hne t _
  · exact sameBroker_setPublish hne t _
  · exact (sameBroker_setPublish hne t _).trans (sameBroker_markBrokerDisconnected hne)

end Publishing

section Calls

variable (hbroker : call.broker = some broker) (hne : other ≠ broker)

include hbroker hne

theorem sameBroker_afterClose : SameBroker other s (s.afterClose call).1 := by
  unfold afterClose
  split
  next =>
    cases hbroker
    exact sameBroker_forgetBroker hne
  next settings =>
    cases hbroker
    exact sameBroker_recordBroker hne settings
  next => exact SameBroker.refl s

theorem sameBroker_afterCancels : SameBroker other s (s.afterCancels call).1 := by
  obtain ⟨b, hb, heq⟩ | ⟨b, hb, heq⟩ | ⟨key, config, rfl, heq⟩ | heq :=
    s.afterCancels_cases call <;> rw [heq]
  · obtain rfl := Option.some.inj (hb.symm.trans hbroker)
    exact sameBroker_closeClient hne
  · obtain rfl := Option.some.inj (hb.symm.trans hbroker)
    exact (sameBroker_closeClient hne).trans (sameBroker_afterClose hbroker hne)
  · cases hbroker
    exact sameBroker_registerPublish hne config
  · exact SameBroker.refl s

theorem sameBroker_cancelPublishTasks (keys : List PublishKey) :
    SameBroker other s (cancelPublishTasks call s keys).1 := by
  refine cancelPublishTasks_induct (R := SameBroker other s) ?_ ?_ keys (SameBroker.refl s)
  · intro s₁ key hkey h
    have hkey' := call.key_of_cancels hbroker hkey
    exact h.trans (sameBroker_cancelPublishTask (hkey' ▸ hne))
  · exact fun s₁ h => h.trans (sameBroker_afterCancels hbroker hne)

theorem sameBroker_begin : SameBroker other s (s.begin call).1 := by
  obtain ⟨b, settings, rfl, heq⟩ | ⟨b, r, hb, heq⟩ | ⟨b, _, hb, rfl, heq⟩ | heq |
    ⟨_, _, -, heq⟩ := s.begin_cases call <;> rw [heq]
  · cases hbroker
    exact sameBroker_recordBroker hne settings
  · obtain rfl := Option.some.inj (hb.symm.trans hbroker)
    exact sameBroker_cancelReconnectTask hne
  · obtain rfl := Option.some.inj (hb.symm.trans hbroker)
    exact (sameBroker_cancelReconnectTask hne).trans (sameBroker_cancelPublishTasks hbroker hne _)
  · exact sameBroker_cancelPublishTasks hbroker hne _
  · exact SameBroker.refl s

theorem sameBroker_resume {opens : Bool} {await await' : MqttAwait call}
    (h : s.resume opens await = some (s₁, await')) : SameBroker other s s₁ := by
  obtain ⟨_, rfl, rfl, ⟨r, -, rfl⟩ | ⟨key, hkey, t, rest, -, rfl⟩ | ⟨b, -, hb, rfl⟩ |
    ⟨b, -, hb, rfl⟩⟩ := resume_cases h
  · exact sameBroker_cancelPublishTasks hbroker hne _
  · have hkey' := call.key_of_cancels hbroker hkey
    exact (sameBroker_dropConfig (hkey' ▸ hne)).trans (sameBroker_cancelPublishTasks hbroker hne _)
  · obtain rfl := Option.some.inj (hbroker.symm.trans hb)
    exact (sameBroker_setConnected hne false).trans (sameBroker_afterClose hbroker hne)
  · obtain rfl := Option.some.inj (hbroker.symm.trans (MqttCall.broker_of_connecting hb))
    cases opens with
    | true => exact sameBroker_storeClient hne
    | false => exact sameBroker_scheduleReconnect hne

end Calls

end MqttAdapter

namespace MqttRun

/-- The broker that a step is about, if it is about one. -/
def brokerOf (s : MqttRun) : Event → Option UUID
  | .call call => call.broker
  | .resume i _ => (s.calls[i]?).bind (·.call.broker)
  | .reconnectStep broker _ _ => some broker
  | .publishStep key _ _ => some key.2

/-- A step that is about one broker leaves all that is held for another one. -/
theorem step_isolates (s : MqttRun) (e : Event) (s' : MqttRun) (hstep : s.step e = some s')
    (broker : UUID) (hbroker : s.brokerOf e = some broker) (other : UUID)
    (hne : other ≠ broker) : s.adapter.SameBroker other s'.adapter := by
  cases e with
  | call call =>
    obtain rfl := Option.some.inj hstep
    exact MqttAdapter.sameBroker_begin hbroker hne
  | resume i opens =>
    simp only [step, Option.bind_eq_some_iff, Option.map_eq_some_iff] at hstep
    obtain ⟨c, hc, ⟨adapter, await⟩, hresume, rfl⟩ := hstep
    simp only [brokerOf, hc, Option.bind_some] at hbroker
    exact MqttAdapter.sameBroker_resume hbroker hne hresume
  | reconnectStep b r opens =>
    obtain rfl := Option.some.inj hbroker
    simp only [step, Option.map_eq_some_iff] at hstep
    obtain ⟨adapter, hstep, rfl⟩ := hstep
    exact MqttAdapter.sameBroker_reconnectStep hne hstep
  | publishStep key t e =>
    obtain rfl := Option.some.inj hbroker
    simp only [step, Option.map_eq_some_iff] at hstep
    obtain ⟨adapter, hstep, rfl⟩ := hstep
    exact MqttAdapter.sameBroker_publishStep hne hstep

/-- Two connected brokers. -/
def twoBrokers : MqttRun where
  adapter := (((MqttAdapter.recordBroker {} 1 localhost).storeClient 1).recordBroker 2
    localhost).storeClient 2

theorem step_isolates_disconnect :
    ∃ s', twoBrokers.step (.call (.disconnectBroker 1)) = some s' ∧
      twoBrokers.adapter.SameBroker 2 s'.adapter :=
  ⟨_, rfl, step_isolates twoBrokers (.call (.disconnectBroker 1)) _ rfl 1 rfl 2 (by decide)⟩

end MqttRun

end GhostMeter.Protocols
