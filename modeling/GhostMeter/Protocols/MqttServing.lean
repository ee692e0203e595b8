import GhostMeter.Protocols.MqttAwaits
import GhostMeter.Protocols.MqttConnections

/-! Which steps connect a broker, and which end a live publish task. -/

namespace GhostMeter.Protocols

open GhostMeter.Lib

namespace MqttAdapter

variable {s s' s'' : MqttAdapter} {key : PublishKey} {b broker : UUID} {call : MqttCall}
  {await await' : MqttAwait call} {opens : Bool} {t r : ℕ}

section Connections

/-- The step does not connect the broker. -/
def Loses (b : UUID) (s s' : MqttAdapter) : Prop :=
  s'.isBrokerConnected b = true → s.isBrokerConnected b = true

theorem Loses.trans (h : Loses b s s') (h' : Loses b s' s'') : Loses b s s'' := h ∘ h'

theorem loses_of_info (h : s'.brokerInfo b = s.brokerInfo b) : Loses b s s' := by
  rw [Loses, isBrokerConnected, isBrokerConnected, h]
  exact id

theorem not_connected_of_info {info : BrokerInfo} (h : s.brokerInfo b = some info)
    (hinfo : info.connected = false) : s.isBrokerConnected b = false := by
  rw [isBrokerConnected, h]
  exact hinfo

theorem loses_setConnected : Loses b s (s.setConnected broker false) := by
  by_cases hb : b = broker
  · subst hb
    simp only [Loses, isBrokerConnected, setConnected, Dict.modify_apply, if_true]
    cases s.brokerInfo b <;> simp
  · exact loses_of_info (sameBroker_setConnected hb false).info

theorem loses_closeClient : Loses b s (s.closeClient broker).1 := by
  unfold closeClient
  split
  · exact loses_setConnected
  · exact loses_of_info rfl

theorem loses_recordBroker (settings : MqttBrokerSettings) :
    Loses b s (s.recordBroker broker settings) := by
  by_cases hb : b = broker
  · subst hb
    intro h
    rw [not_connected_of_info (Dict.set_self _ _ _) rfl] at h
    cases h
  · exact loses_of_info (sameBroker_recordBroker hb settings).info

theorem loses_forgetBroker : Loses b s (s.forgetBroker broker) := by
  by_cases hb : b = broker
  · subst hb
    intro h
    rw [isBrokerConnected, show (s.forgetBroker b).brokerInfo b = none from Dict.pop_self _ _] at h
    cases h
  · exact loses_of_info (sameBroker_forgetBroker hb).info

theorem loses_scheduleReconnect : Loses b s (s.scheduleReconnect broker) := by
  refine loses_of_info ?_
  unfold scheduleReconnect
  split <;> rfl

theorem loses_cancelReconnectTask : Loses b s (s.cancelReconnectTask broker).1 := by
  refine loses_of_info ?_
  unfold cancelReconnectTask
  split
  next => rfl
  next r _ => by_cases h : isDone (s.reconnects broker) r = true <;> simp only [h] <;> rfl

theorem loses_afterClose : Loses b s (s.afterClose call).1 := by
  unfold afterClose
  split
  next => exact loses_forgetBroker
  next settings => exact loses_recordBroker settings
  next => exact id

theorem loses_afterCancels : Loses b s (s.afterCancels call).1 := by
  obtain ⟨broker, -, heq⟩ | ⟨broker, -, heq⟩ | ⟨_, _, -, heq⟩ | heq :=
    s.afterCancels_cases call <;> rw [heq]
  · exact loses_closeClient
  · exact loses_closeClient.trans loses_afterClose
  · exact loses_of_info rfl
  · exact id

theorem loses_cancelPublishTasks (keys : List PublishKey) :
    Loses b s (cancelPublishTasks call s keys).1 :=
  cancelPublishTasks_induct (R := Loses b s)
    (fun _ _ _ h => h.trans (loses_of_info sameConnection_cancelPublishTask.info))
    (fun _ h => h.trans loses_afterCancels) keys id

theorem loses_begin : Loses b s (s.begin call).1 := by
  obtain ⟨broker, settings, -, heq⟩ | ⟨broker, r, -, heq⟩ | ⟨broker, _, -, rfl, heq⟩ | heq |
    ⟨_, _, -, heq⟩ := s.begin_cases call <;> rw [heq]
  · exact loses_recordBroker settings
  · exact loses_cancelReconnectTask
  · exact loses_cancelReconnectTask.trans (loses_cancelPublishTasks _)
  · exact loses_cancelPublishTasks _
  · exact id

/-- A call connects a broker only when its client opens. -/
theorem loses_resume (h : s.resume opens await = some (s', await')) :
    Loses b s s' ∨ call.connecting = some b ∧ await' = .finished true := by
  obtain ⟨_, rfl, rfl, ⟨r, -, rfl⟩ | ⟨k, hk, t, rest, -, rfl⟩ | ⟨broker, -, -, rfl⟩ |
    ⟨broker, -, hbroker, rfl⟩⟩ := resume_cases h
  · exact Or.inl (loses_cancelPublishTasks _)
  · have hdrop : Loses b s (s.dropConfig k) := id
    exact Or.inl (hdrop.trans (loses_cancelPublishTasks _))
  · exact Or.inl (loses_setConnected.trans loses_afterClose)
  · cases opens with
    | true =>
      by_cases hb : b = broker
      · subst hb
        exact Or.inr ⟨hbroker, rfl⟩
      · exact Or.inl (loses_of_info (sameBroker_storeClient hb).info)
    | false => exact Or.inl loses_scheduleReconnect

/-- The reconnect loop waits for its client. -/
def Opening (s : MqttAdapter) (broker : UUID) (r : ℕ) : Prop :=
  ∃ task delay, (s.reconnects broker)[r]? = some task ∧ task.cancelled = false ∧
    task.place = some (.clientEnter delay)

theorem loses_reconnectStep (h : s.reconnectStep broker r opens = some s') :
    Loses b s s' ∨ b = broker ∧ opens = true ∧ s.Opening broker r := by
  obtain ⟨task, place, htask, hplace, ⟨-, rfl⟩ | ⟨-, rfl⟩ | ⟨s₁, next, -, hs₁, rfl⟩ |
    ⟨hcancelled, hopens, ⟨delay, rfl⟩, rfl⟩⟩ := reconnectStep_cases h
  · exact Or.inl (loses_of_info rfl)
  · exact Or.inl (loses_of_info rfl)
  · have hset : Loses b s₁ (s₁.setReconnect broker r (task.moveTo next)) := loses_of_info rfl
    refine Or.inl (Loses.trans ?_ hset)
    obtain rfl | rfl | rfl := hs₁
    · exact id
    · exact loses_closeClient
    · exact loses_setConnected
  · by_cases hb : b = broker
    · exact Or.inr ⟨hb, hopens, task, delay, htask, hcancelled, hplace⟩
    · exact Or.inl (loses_of_info (sameBroker_storeClient hb).info)

theorem loses_publishStep {e : PublishEvent} (h : s.publishStep key t e = some s') :
    Loses b s s' := by
  obtain ⟨task, place, -, -, ⟨-, rfl⟩ | ⟨next, -, -, rfl | ⟨-, rfl⟩⟩⟩ := publishStep_cases h
  · exact loses_of_info rfl
  · exact loses_of_info rfl
  · have hset : Loses b s (s.setPublish key t (task.moveTo next)) := loses_of_info rfl
    exact (hset.trans loses_setConnected).trans loses_scheduleReconnect

end Connections

section Tasks

/-- A live publish task goes on, as long as its config is there. -/
theorem liveAt_publishStep {k : PublishKey} {t' : ℕ} {e : PublishEvent} (hs : s.OnePublish)
    (h : s.publishStep k t e = some s') (hlive : LiveAt (s.publishes key) t') :
    LiveAt (s'.publishes key) t' := by
  by_cases hkey : key = k
  · subst hkey
    obtain ⟨task, place, htask, hplace, ⟨hends, rfl⟩ | ⟨next, -, -, hs'⟩⟩ := publishStep_cases h
    · simp only [setPublish, Function.update_self]
      refine (liveAt_set_finish htask).2 ⟨?_, hlive⟩
      rintro rfl
      obtain ⟨task', htask', hlive'⟩ := hlive
      obtain rfl := Option.some.inj (htask.symm.trans htask')
      rcases hends with hcancelled | ⟨-, hnone⟩
      · rw [AsyncTask.live_of_place hplace, hcancelled] at hlive'
        cases hlive'
      · obtain ⟨config, hconfig, -⟩ := (hs key t' ⟨task, htask, hlive'⟩).2.2
        rw [hnone] at hconfig
        cases hconfig
    · have hset : LiveAt ((s.setPublish key t (task.moveTo next)).publishes key) t' := by
        simp only [setPublish, Function.update_self]
        exact (liveAt_set_moveTo htask hplace).2 hlive
      obtain rfl | ⟨-, rfl⟩ := hs'
      · exact hset
      · rw [samePublish_markBrokerDisconnected.publishes]
        exact hset
  · rw [((publishStep_keeps h).1 key hkey).publishes]
    exact hlive

end Tasks

section Awaits

variable {settings : MqttBrokerSettings} {device : UUID}

/-- A stop comes to wait for a task of its pair, or to its end. -/
theorem stop_cancelPublishTasks (keys : List PublishKey) :
    (∃ k, awaits k (cancelPublishTasks (.stopPublishing device (some broker)) s keys).2) ∨
      (cancelPublishTasks (.stopPublishing device (some broker)) s keys).2 = .finished true := by
  induction keys generalizing s with
  | nil => exact Or.inr rfl
  | cons k rest ih =>
    obtain ⟨_, t, heq⟩ | ⟨-, heq⟩ | ⟨-, heq⟩ := s.cancelPublishTasks_cons k rest <;> rw [heq]
    · exact Or.inl ⟨k, rfl⟩
    · exact ih
    · exact ih

theorem stop_resume {k : PublishKey}
    {await await' : MqttAwait (.stopPublishing device (some broker))}
    (hawait : awaits k await) (h : s.resume opens await = some (s', await')) :
    (∃ k, awaits k await') ∨ await' = .finished true := by
  obtain ⟨_, rfl, rfl, ⟨r, rfl, -⟩ | ⟨k, hk, t, rest, -, rfl⟩ | ⟨broker, rfl, -⟩ |
    ⟨broker, rfl, -⟩⟩ := resume_cases h
  · exact hawait.elim
  · exact stop_cancelPublishTasks _
  · exact hawait.elim
  · exact hawait.elim

/-- A reconnect does not come to its end before its client has been opened, or not. -/
theorem reconnect_cancelPublishTasks (keys : List PublishKey) (ok : Bool) :
    (cancelPublishTasks (.reconnectBroker broker settings) s keys).2 ≠ .finished ok := by
  induction keys generalizing s with
  | nil =>
    simp only [cancelPublishTasks, afterCancels]
    split <;> rintro ⟨⟩
  | cons k rest ih =>
    obtain ⟨_, t, heq⟩ | ⟨-, heq⟩ | ⟨-, heq⟩ := s.cancelPublishTasks_cons k rest <;> rw [heq]
    · rintro ⟨⟩
    · exact ih
    · exact ih

theorem reconnect_begin (ok : Bool) :
    (s.begin (.reconnectBroker broker settings)).2 ≠ .finished ok := by
  simp only [begin]
  split
  next => rintro ⟨⟩
  next => exact reconnect_cancelPublishTasks _ ok

theorem reconnect_resume {await await' : MqttAwait (.reconnectBroker broker settings)} {ok : Bool}
    (h : s.resume opens await = some (s', await')) (hok : await' = .finished ok) :
    await = .clientEnter ∧ ok = opens := by
  obtain ⟨_, rfl, rfl, ⟨r, -, rfl⟩ | ⟨k, hk, t, rest, -, rfl⟩ | ⟨b, -, -, rfl⟩ |
    ⟨b, hawait, -, rfl⟩⟩ := resume_cases h
  · exact absurd hok (reconnect_cancelPublishTasks _ ok)
  · exact absurd hok (reconnect_cancelPublishTasks _ ok)
  · cases hok
  · refine ⟨hawait, ?_⟩
    cases opens <;> cases hok <;> rfl

end Awaits

end MqttAdapter

end GhostMeter.Protocols
