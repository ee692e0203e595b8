import GhostMeter.Lib.Run
import GhostMeter.Protocols.MqttIsolation

/-! Connections: which steps leave a client open, or a reconnect loop running, that nobody
knows of. -/

namespace GhostMeter.Protocols

open GhostMeter.Lib

namespace MqttAdapter

/-- A live reconnect loop is the one in the table, and so is an open client: there is at most one
of each. -/
structure OneConnection (s : MqttAdapter) (broker : UUID) : Prop where
  reconnect : ∀ r, LiveAt (s.reconnects broker) r → s.reconnectTasks broker = some r
  client : ∀ c : ℕ, (s.opened broker)[c]? = some true → s.clients broker = some c

def NoReconnect (s : MqttAdapter) (broker : UUID) : Prop := ∀ r, ¬ LiveAt (s.reconnects broker) r

def NoOpen (s : MqttAdapter) (broker : UUID) : Prop := ∀ c : ℕ, (s.opened broker)[c]? ≠ some true

variable {s s' s'' : MqttAdapter} {broker b : UUID} {call : MqttCall}

theorem SameConnection.one (h : SameConnection b s s') (hs : s.OneConnection b) :
    s'.OneConnection b where
  reconnect r hr := by
    rw [h.reconnectTask]
    exact hs.reconnect r (h.reconnects ▸ hr)
  client c hc := by
    rw [h.client]
    exact hs.client c (h.opened ▸ hc)

section Publishing

variable {key : PublishKey}

theorem sameConnection_cancelPublishTask : SameConnection b s (s.cancelPublishTask key).1 := by
  unfold cancelPublishTask
  split
  next => exact ⟨rfl, rfl, rfl, rfl, rfl, rfl⟩
  next t _ => by_cases h : isDone (s.publishes key) t = true <;> simp only [h] <;>
    exact ⟨rfl, rfl, rfl, rfl, rfl, rfl⟩

end Publishing

section Closing

/-- A client that is open after a close is another one, and was open before. -/
theorem opened_closeClient {c : ℕ} (hc : ((s.closeClient b).1.opened b)[c]? = some true) :
    (s.opened b)[c]? = some true ∧ s.clients b ≠ some c := by
  unfold closeClient at hc
  split at hc
  next hnone => exact ⟨hc, by simp [hnone]⟩
  next c' hc' =>
    simp only [Function.update_self, List.getElem?_set] at hc
    split at hc
    next =>
      split at hc
      · cases hc
      · cases hc
    next hne =>
      exact ⟨hc, fun h => hne (Option.some.inj (hc'.symm.trans h))⟩

/-- A reconnect loop that is live after a cancel is another one, and was live before. -/
theorem liveAt_cancelReconnectTask {r : ℕ}
    (hr : LiveAt ((s.cancelReconnectTask b).1.reconnects b) r) :
    LiveAt (s.reconnects b) r ∧ s.reconnectTasks b ≠ some r := by
  unfold cancelReconnectTask at hr
  split at hr
  next hnone => exact ⟨hr, by simp [hnone]⟩
  next r' htable =>
    by_cases hdone : isDone (s.reconnects b) r' = true
    · rw [if_pos hdone] at hr
      refine ⟨hr, fun heq => not_liveAt_of_isDone hdone ?_⟩
      obtain rfl := Option.some.inj (htable.symm.trans heq)
      exact hr
    · rw [if_neg hdone] at hr
      simp only [Function.update_self, liveAt_modify_cancel] at hr
      exact ⟨hr.2, fun heq => hr.1 (Option.some.inj (heq.symm.trans htable))⟩

end Closing

section OneConnection

variable (hs : s.OneConnection b)

include hs

theorem one_setConnected (connected : Bool) : (s.setConnected broker connected).OneConnection b :=
  ⟨hs.reconnect, hs.client⟩

theorem one_recordBroker (settings : MqttBrokerSettings) :
    (s.recordBroker broker settings).OneConnection b := ⟨hs.reconnect, hs.client⟩

theorem one_forgetBroker : (s.forgetBroker broker).OneConnection b := ⟨hs.reconnect, hs.client⟩

theorem one_storeClient (hno : broker = b → s.NoOpen b) :
    (s.storeClient broker).OneConnection b := by
  by_cases hb : b = broker
  · subst hb
    refine ⟨hs.reconnect, fun c hc => ?_⟩
    simp only [storeClient, setConnected, Function.update_self, List.getElem?_append,
      List.getElem?_singleton] at hc
    split at hc
    next => exact absurd hc (hno rfl c)
    next =>
      split at hc
      next hzero =>
        have hlength : c = (s.opened b).length := by omega
        rw [hlength]
        exact Dict.set_self _ _ _
      next => cases hc
  · exact (sameBroker_storeClient hb).one hs

theorem noOpen_closeClient : (s.closeClient b).1.NoOpen b := fun _ hc =>
  (opened_closeClient hc).2 (hs.client _ (opened_closeClient hc).1)

theorem one_closeClient (broker : UUID) : (s.closeClient broker).1.OneConnection b := by
  by_cases hb : b = broker
  · subst hb
    refine ⟨?_, fun c hc => absurd hc (noOpen_closeClient hs c)⟩
    unfold closeClient
    split <;> exact hs.reconnect
  · exact (sameBroker_closeClient hb).one hs

theorem one_scheduleReconnect : (s.scheduleReconnect broker).OneConnection b := by
  by_cases hb : b = broker
  · subst hb
    unfold scheduleReconnect
    split
    next h =>
      refine ⟨fun r hr => ?_, hs.client⟩
      simp only [Function.update_self, liveAt_append] at hr
      obtain hr | ⟨rfl, -⟩ := hr
      · have hdone := h.1
        rw [hs.reconnect r hr] at hdone
        exact absurd hr (not_liveAt_of_isDone hdone)
      · exact Dict.set_self _ _ _
    next => exact hs
  · exact (sameBroker_scheduleReconnect hb).one hs

theorem noReconnect_cancelReconnectTask : (s.cancelReconnectTask b).1.NoReconnect b := fun _ hr =>
  (liveAt_cancelReconnectTask hr).2 (hs.reconnect _ (liveAt_cancelReconnectTask hr).1)

theorem one_cancelReconnectTask (broker : UUID) :
    (s.cancelReconnectTask broker).1.OneConnection b := by
  by_cases hb : b = broker
  · subst hb
    refine ⟨fun r hr => absurd hr (noReconnect_cancelReconnectTask hs r), ?_⟩
    unfold cancelReconnectTask
    split
    next => exact hs.client
    next r _ => by_cases h : isDone (s.reconnects b) r = true <;> simp only [h] <;> exact hs.client
  · exact (sameBroker_cancelReconnectTask hb).one hs

theorem one_setReconnect {r : ℕ} {task : AsyncTask ReconnectPlace}
    (htask : ∀ r', LiveAt ((s.reconnects broker).set r task) r' → LiveAt (s.reconnects broker) r') :
    (s.setReconnect broker r task).OneConnection b := by
  by_cases hb : b = broker
  · subst hb
    refine ⟨fun r' hr' => hs.reconnect r' (htask r' ?_), hs.client⟩
    simpa only [setReconnect, Function.update_self] using hr'
  · exact (sameBroker_setReconnect hb r task).one hs

theorem one_endReconnect {r : ℕ} {task : AsyncTask ReconnectPlace}
    (htask : (s.reconnects broker)[r]? = some task)
    (hno : broker = b → ∀ r', LiveAt (s.reconnects b) r' → r' = r) :
    (s.endReconnect broker r task).OneConnection b := by
  by_cases hb : b = broker
  · subst hb
    refine ⟨fun r' hr' => ?_, hs.client⟩
    simp only [endReconnect, setReconnect, Function.update_self, liveAt_set_finish htask] at hr'
    exact absurd (hno rfl r' hr'.2) hr'.1
  · exact (sameBroker_endReconnect hb r task).one hs

end OneConnection

section Calls

theorem one_afterClose (hs : s.OneConnection b) : (s.afterClose call).1.OneConnection b := by
  unfold afterClose
  split
  next => exact one_forgetBroker hs
  next settings => exact one_recordBroker hs settings
  next => exact hs

theorem one_afterCancels (hs : s.OneConnection b) : (s.afterCancels call).1.OneConnection b := by
  obtain ⟨broker, -, heq⟩ | ⟨broker, -, heq⟩ | ⟨_, _, -, heq⟩ | heq :=
    s.afterCancels_cases call <;> rw [heq]
  · exact one_closeClient hs broker
  · exact one_afterClose (one_closeClient hs broker)
  · exact ⟨hs.reconnect, hs.client⟩
  · exact hs

theorem one_cancelPublishTasks (hs : s.OneConnection b) (keys : List PublishKey) :
    (cancelPublishTasks call s keys).1.OneConnection b :=
  cancelPublishTasks_induct (R := (·.OneConnection b))
    (fun _ _ _ h => sameConnection_cancelPublishTask.one h) (fun _ h => one_afterCancels h) keys hs

theorem one_begin (hs : s.OneConnection b) : (s.begin call).1.OneConnection b := by
  obtain ⟨broker, settings, -, heq⟩ | ⟨broker, r, -, heq⟩ | ⟨broker, _, -, rfl, heq⟩ | heq |
    ⟨_, _, -, heq⟩ := s.begin_cases call <;> rw [heq]
  · exact one_recordBroker hs settings
  · exact one_cancelReconnectTask hs broker
  · exact one_cancelPublishTasks (one_cancelReconnectTask hs broker) _
  · exact one_cancelPublishTasks hs _
  · exact hs

variable {await await' : MqttAwait call} {opens : Bool}

theorem one_resume (hs : s.OneConnection b)
    (hguard : await = .clientEnter → opens = true → call.connecting = some b → s.NoOpen b)
    (h : s.resume opens await = some (s', await')) : s'.OneConnection b := by
  obtain ⟨_, rfl, rfl, ⟨r, -, rfl⟩ | ⟨key, hkey, t, rest, -, rfl⟩ | ⟨broker, -, -, rfl⟩ |
    ⟨broker, hawait, hbroker, rfl⟩⟩ := resume_cases h
  · exact one_cancelPublishTasks hs _
  · exact one_cancelPublishTasks (s := s.dropConfig key) ⟨hs.reconnect, hs.client⟩ _
  · exact one_afterClose (one_setConnected hs false)
  · cases opens with
    | true => exact one_storeClient hs fun hb => hguard hawait rfl (hb ▸ hbroker)
    | false => exact one_scheduleReconnect hs

theorem liveAt_set_moves {r r' : ℕ} {task : AsyncTask ReconnectPlace} {place next : ReconnectPlace}
    (htask : (s.reconnects broker)[r]? = some task) (hplace : task.place = some place)
    (hr' : LiveAt ((s.reconnects broker).set r (task.moveTo next)) r') :
    LiveAt (s.reconnects broker) r' := (liveAt_set_moveTo htask hplace).1 hr'

theorem reconnects_closeClient : (s.closeClient broker).1.reconnects = s.reconnects := by
  unfold closeClient
  split <;> rfl

/-- A reconnect loop keeps the tables, if it ends as the only one, and connects to a broker
without an open client. -/
theorem one_reconnectStep {r : ℕ} (hs : s.OneConnection b)
    (hends : ∀ task, broker = b → (s.reconnects b)[r]? = some task → task.cancelled = true →
      task.place ≠ some .created → s.NoReconnect b)
    (hopens : ∀ task delay, broker = b → opens = true → (s.reconnects b)[r]? = some task →
      task.cancelled = false → task.place = some (.clientEnter delay) → s.NoOpen b)
    (h : s.reconnectStep broker r opens = some s') : s'.OneConnection b := by
  obtain ⟨task, place, htask, hplace, hcases⟩ := reconnectStep_cases h
  have honly : task.cancelled = false → broker = b → ∀ r', LiveAt (s.reconnects b) r' → r' = r := by
    rintro hcancelled rfl r' hr'
    have hr : LiveAt (s.reconnects broker) r :=
      ⟨task, htask, by rw [AsyncTask.live_of_place hplace, hcancelled]; rfl⟩
    exact Option.some.inj ((hs.reconnect r' hr').symm.trans (hs.reconnect r hr))
  obtain ⟨-, rfl⟩ | ⟨hcreated, rfl⟩ | ⟨s₁, next, hcancelled, hs₁, rfl⟩ |
    ⟨hcancelled, rfl, ⟨delay, rfl⟩, rfl⟩ := hcases
  · exact one_setReconnect hs fun r' hr' => ((liveAt_set_finish htask).1 hr').2
  · refine one_endReconnect hs htask fun hb r' hr' => ?_
    cases hcancelled : task.cancelled with
    | true =>
      refine absurd hr' (hends task hb (hb ▸ htask) hcancelled ?_ r')
      rw [hplace]
      exact fun h => hcreated (Option.some.inj h)
    | false => exact honly hcancelled hb r' hr'
  · obtain rfl | rfl | rfl := hs₁
    · exact one_setReconnect hs fun r' hr' => liveAt_set_moves htask hplace hr'
    · refine one_setReconnect (one_closeClient hs broker) fun r' hr' => ?_
      rw [reconnects_closeClient] at hr' ⊢
      exact liveAt_set_moves htask hplace hr'
    · exact one_setReconnect (one_setConnected hs false) fun r' hr' =>
        liveAt_set_moves htask hplace hr'
  · refine one_endReconnect (s := s.storeClient broker) ?_ htask fun hb => honly hcancelled hb
    exact one_storeClient hs fun hb => hopens task delay hb rfl (hb ▸ htask) hcancelled hplace

theorem one_publishStep {key : PublishKey} {t : ℕ} {e : PublishEvent} (hs : s.OneConnection b)
    (h : s.publishStep key t e = some s') : s'.OneConnection b := by
  obtain ⟨task, place, -, -, ⟨-, rfl⟩ | ⟨next, -, -, rfl | ⟨-, rfl⟩⟩⟩ := publishStep_cases h
  · exact ⟨hs.reconnect, hs.client⟩
  · exact ⟨hs.reconnect, hs.client⟩
  · have hset : (s.setPublish key t (task.moveTo next)).OneConnection b := ⟨hs.reconnect, hs.client⟩
    exact one_scheduleReconnect (one_setConnected hset false)

end Calls

section Fading

/-- Nothing new comes up for the broker. -/
structure Fades (broker : UUID) (s s' : MqttAdapter) : Prop where
  info : s.brokerInfo broker = none → s'.brokerInfo broker = none
  client : s.clients broker = none → s'.clients broker = none
  opened : s.NoOpen broker → s'.NoOpen broker
  reconnectTask : s.reconnectTasks broker = none → s'.reconnectTasks broker = none
  reconnects : s.NoReconnect broker → s'.NoReconnect broker

theorem Fades.refl (s : MqttAdapter) : Fades b s s := ⟨id, id, id, id, id⟩

theorem Fades.trans (h : Fades b s s') (h' : Fades b s' s'') : Fades b s s'' :=
  ⟨h'.info ∘ h.info, h'.client ∘ h.client, h'.opened ∘ h.opened,
    h'.reconnectTask ∘ h.reconnectTask, h'.reconnects ∘ h.reconnects⟩

theorem SameConnection.fades (h : SameConnection b s s') : Fades b s s' where
  info hs := h.info.trans hs
  client hs := h.client.trans hs
  opened hs c hc := hs c (h.opened ▸ hc)
  reconnectTask hs := h.reconnectTask.trans hs
  reconnects hs r hr := hs r (h.reconnects ▸ hr)

theorem fades_setConnected (connected : Bool) : Fades b s (s.setConnected broker connected) :=
  { Fades.refl s with
    info := fun h => by
      simp only [setConnected, Dict.modify_apply]
      split
      next hb => rw [← hb, h, Option.map_none]
      next => exact h }

theorem fades_forgetBroker : Fades b s (s.forgetBroker broker) :=
  { Fades.refl s with info := Dict.pop_eq_none }

theorem fades_closeClient : Fades b s (s.closeClient broker).1 := by
  by_cases hb : b = broker
  · subst hb
    refine ⟨?_, ?_, fun h c hc => h c (opened_closeClient hc).1, ?_, ?_⟩
    · unfold closeClient
      split
      · exact (fades_setConnected false).info
      · exact id
    · unfold closeClient
      split
      · exact id
      · exact Dict.pop_eq_none
    · unfold closeClient
      split <;> exact id
    · unfold closeClient
      split <;> exact id
  · exact (sameBroker_closeClient hb).fades

theorem fades_cancelReconnectTask : Fades b s (s.cancelReconnectTask broker).1 := by
  by_cases hb : b = broker
  · subst hb
    have hlive : s.NoReconnect b → (s.cancelReconnectTask b).1.NoReconnect b := fun h r hr =>
      h r (liveAt_cancelReconnectTask hr).1
    revert hlive
    unfold cancelReconnectTask
    intro hlive
    split
    next => exact Fades.refl s
    next r htable =>
      rw [htable] at hlive
      by_cases h : isDone (s.reconnects b) r = true
      · rw [if_pos h]
        exact { Fades.refl s with reconnectTask := Dict.pop_eq_none }
      · simp only [h, Bool.false_eq_true, if_false] at hlive ⊢
        exact { Fades.refl s with reconnectTask := Dict.pop_eq_none, reconnects := hlive }
  · exact (sameBroker_cancelReconnectTask hb).fades

theorem fades_setReconnect {r : ℕ} {task : AsyncTask ReconnectPlace}
    (htask : ∀ r', LiveAt ((s.reconnects broker).set r task) r' → LiveAt (s.reconnects broker) r') :
    Fades b s (s.setReconnect broker r task) := by
  by_cases hb : b = broker
  · subst hb
    refine { Fades.refl s with reconnects := fun h r' hr' => h r' (htask r' ?_) }
    simpa only [setReconnect, Function.update_self] using hr'
  · exact (sameBroker_setReconnect hb r task).fades

theorem fades_endReconnect {r : ℕ} {task : AsyncTask ReconnectPlace}
    (htask : (s.reconnects broker)[r]? = some task) :
    Fades b s (s.endReconnect broker r task) := by
  have hset : Fades b s (s.setReconnect broker r task.finish) :=
    fades_setReconnect fun r' hr' => ((liveAt_set_finish htask).1 hr').2
  refine hset.trans { Fades.refl (s.setReconnect broker r task.finish) with
    reconnectTask := Dict.pop_eq_none }

theorem fades_afterClose (hcall : call.connecting ≠ some b) :
    Fades b s (s.afterClose call).1 := by
  unfold afterClose
  split
  next => exact fades_forgetBroker
  next broker settings =>
    exact (sameBroker_recordBroker (fun h => hcall (by rw [h]; rfl)) settings).fades
  next => exact Fades.refl s

theorem fades_afterCancels (hcall : call.connecting ≠ some b) :
    Fades b s (s.afterCancels call).1 := by
  obtain ⟨broker, -, heq⟩ | ⟨broker, -, heq⟩ | ⟨_, _, -, heq⟩ | heq :=
    s.afterCancels_cases call <;> rw [heq]
  · exact fades_closeClient
  · exact fades_closeClient.trans (fades_afterClose hcall)
  · exact ⟨id, id, id, id, id⟩
  · exact Fades.refl s

theorem fades_cancelPublishTasks (hcall : call.connecting ≠ some b) (keys : List PublishKey) :
    Fades b s (cancelPublishTasks call s keys).1 :=
  cancelPublishTasks_induct (R := Fades b s)
    (fun _ _ _ h => h.trans sameConnection_cancelPublishTask.fades)
    (fun _ h => h.trans (fades_afterCancels hcall)) keys (Fades.refl s)

theorem fades_begin (hcall : call.connecting ≠ some b) : Fades b s (s.begin call).1 := by
  obtain ⟨broker, settings, rfl, heq⟩ | ⟨broker, r, -, heq⟩ | ⟨broker, _, -, rfl, heq⟩ | heq |
    ⟨_, _, -, heq⟩ := s.begin_cases call <;> rw [heq]
  · exact (sameBroker_recordBroker (fun h => hcall (by rw [h]; rfl)) settings).fades
  · exact fades_cancelReconnectTask
  · exact fades_cancelReconnectTask.trans (fades_cancelPublishTasks hcall _)
  · exact fades_cancelPublishTasks hcall _
  · exact Fades.refl s

theorem fades_resume {await await' : MqttAwait call} {opens : Bool}
    (hcall : call.connecting ≠ some b) (h : s.resume opens await = some (s', await')) :
    Fades b s s' := by
  obtain ⟨_, rfl, rfl, ⟨r, -, rfl⟩ | ⟨key, hkey, t, rest, -, rfl⟩ | ⟨broker, -, -, rfl⟩ |
    ⟨broker, -, hbroker, rfl⟩⟩ := resume_cases h
  · exact fades_cancelPublishTasks hcall _
  · have hdrop : Fades b s (s.dropConfig key) := ⟨id, id, id, id, id⟩
    exact hdrop.trans (fades_cancelPublishTasks hcall _)
  · exact (fades_setConnected false).trans (fades_afterClose hcall)
  · have hne : b ≠ broker := by
      rintro rfl
      exact hcall hbroker
    cases opens with
    | true => exact (sameBroker_storeClient hne).fades
    | false => exact (sameBroker_scheduleReconnect hne).fades

/-- A broker without a live reconnect loop gets nothing from those that end. -/
theorem fades_reconnectStep {r : ℕ} {opens : Bool} (hno : s.NoReconnect b)
    (h : s.reconnectStep broker r opens = some s') : Fades b s s' := by
  by_cases hb : b = broker
  · subst hb
    obtain ⟨task, place, htask, hplace, hcases⟩ := reconnectStep_cases h
    have hlive : task.cancelled ≠ false := fun hcancelled =>
      hno r ⟨task, htask, by rw [AsyncTask.live_of_place hplace, hcancelled]; rfl⟩
    obtain ⟨-, rfl⟩ | ⟨-, rfl⟩ | ⟨s₁, next, hcancelled, -⟩ | ⟨hcancelled, -⟩ := hcases
    · exact fades_setReconnect fun r' hr' => ((liveAt_set_finish htask).1 hr').2
    · exact fades_endReconnect htask
    · exact absurd hcancelled hlive
    · exact absurd hcancelled hlive
  · exact (sameBroker_reconnectStep hb h).fades

theorem scheduleReconnect_of_none (h : s.brokerSettings broker = none) :
    s.scheduleReconnect broker = s := by
  rw [scheduleReconnect, if_neg (by simp [h])]

theorem fades_publishStep {key : PublishKey} {t : ℕ} {e : PublishEvent}
    (hlost : key.2 = b → e = .connectionLost → s.brokerSettings b = none)
    (h : s.publishStep key t e = some s') : Fades b s s' := by
  obtain ⟨task, place, -, -, ⟨-, rfl⟩ | ⟨next, -, -, rfl | ⟨he, rfl⟩⟩⟩ := publishStep_cases h
  · exact ⟨id, id, id, id, id⟩
  · exact ⟨id, id, id, id, id⟩
  · have hset : Fades b s ((s.setPublish key t (task.moveTo next)).setConnected key.2 false) :=
      @Fades.trans s (s.setPublish key t (task.moveTo next)) _ b ⟨id, id, id, id, id⟩
        (fades_setConnected false)
    refine hset.trans ?_
    by_cases hb : b = key.2
    · rw [markBrokerDisconnected, scheduleReconnect_of_none (hb ▸ hlost hb.symm he)]
      exact Fades.refl _
    · exact (sameBroker_scheduleReconnect hb).fades

end Fading

section Disconnecting

/-- The broker has no reconnect loop. -/
def Quiet (s : MqttAdapter) (broker : UUID) : Prop :=
  s.reconnectTasks broker = none ∧ s.NoReconnect broker

/-- The broker has no client. -/
def Closed (s : MqttAdapter) (broker : UUID) : Prop :=
  s.clients broker = none ∧ s.NoOpen broker

/-- How far a disconnect has come, by what it waits for. -/
def Disconnected (s : MqttAdapter) (broker : UUID) : MqttAwait call → Prop
  | .reconnectTask _ => s.Quiet broker
  | .publishTask .. => s.Quiet broker
  | .clientExit => s.Quiet broker ∧ s.Closed broker
  | .clientEnter => s.Quiet broker ∧ s.Closed broker
  | .finished _ => s.Quiet broker ∧ s.Closed broker ∧ s.brokerInfo broker = none

theorem Fades.quiet (h : Fades b s s') (hs : s.Quiet b) : s'.Quiet b :=
  ⟨h.reconnectTask hs.1, h.reconnects hs.2⟩

theorem Fades.closed (h : Fades b s s') (hs : s.Closed b) : s'.Closed b :=
  ⟨h.client hs.1, h.opened hs.2⟩

theorem Fades.disconnected {await : MqttAwait call} (h : Fades b s s')
    (hs : s.Disconnected b await) : s'.Disconnected b await := by
  cases await with
  | reconnectTask => exact h.quiet hs
  | publishTask => exact h.quiet hs
  | clientExit => exact ⟨h.quiet hs.1, h.closed hs.2⟩
  | clientEnter => exact ⟨h.quiet hs.1, h.closed hs.2⟩
  | finished => exact ⟨h.quiet hs.1, h.closed hs.2.1, h.info hs.2.2⟩

theorem quiet_of_disconnected {await : MqttAwait call} (hs : s.Disconnected b await) :
    s.Quiet b := by
  cases await with
  | reconnectTask => exact hs
  | publishTask => exact hs
  | clientExit => exact hs.1
  | clientEnter => exact hs.1
  | finished => exact hs.1

theorem closed_closeClient (hs : s.OneConnection b) : (s.closeClient b).1.Closed b := by
  refine ⟨?_, noOpen_closeClient hs⟩
  unfold closeClient
  split
  next h => exact h
  next => exact Dict.pop_self _ _

theorem quiet_cancelReconnectTask (hs : s.OneConnection b) :
    (s.cancelReconnectTask b).1.Quiet b := by
  refine ⟨?_, noReconnect_cancelReconnectTask hs⟩
  unfold cancelReconnectTask
  split
  next h => exact h
  next r _ => by_cases h : isDone (s.reconnects b) r = true <;> simp only [h] <;>
    exact Dict.pop_self _ _

theorem disconnected_afterClose (hquiet : s.Quiet b) (hclosed : s.Closed b) :
    (s.afterClose (.disconnectBroker b)).1.Disconnected b
      (s.afterClose (.disconnectBroker b)).2 :=
  ⟨hquiet, hclosed, Dict.pop_self _ _⟩

theorem disconnected_cancelPublishTasks (hs : s.OneConnection b) (hquiet : s.Quiet b)
    (keys : List PublishKey) :
    (cancelPublishTasks (.disconnectBroker b) s keys).1.Disconnected b
      (cancelPublishTasks (.disconnectBroker b) s keys).2 := by
  induction keys generalizing s with
  | nil =>
    have hclosed := closed_closeClient hs
    have hquiet := (@fades_closeClient s b b).quiet hquiet
    simp only [cancelPublishTasks, afterCancels]
    split <;> next heq =>
      rw [heq] at hclosed hquiet
      first | exact ⟨hquiet, hclosed⟩ | exact disconnected_afterClose hquiet hclosed
  | cons key rest ih =>
    have hsame := @sameConnection_cancelPublishTask s b key
    obtain ⟨_, t, heq⟩ | ⟨-, heq⟩ | ⟨-, heq⟩ := s.cancelPublishTasks_cons key rest <;> rw [heq]
    · exact hsame.fades.quiet hquiet
    · exact ih (hsame.one hs) (hsame.fades.quiet hquiet)
    · exact ih hs hquiet

theorem disconnected_begin (hs : s.OneConnection b) :
    (s.begin (.disconnectBroker b)).1.Disconnected b (s.begin (.disconnectBroker b)).2 := by
  have hone := one_cancelReconnectTask hs b
  have hquiet := quiet_cancelReconnectTask hs
  simp only [begin]
  split <;> next heq =>
    rw [heq] at hone hquiet
    first | exact hquiet | exact disconnected_cancelPublishTasks hone hquiet _

theorem disconnected_resume {await await' : MqttAwait (.disconnectBroker b)} {opens : Bool}
    (hs : s.OneConnection b) (hdis : s.Disconnected b await)
    (h : s.resume opens await = some (s', await')) : s'.Disconnected b await' := by
  obtain ⟨_, rfl, rfl, ⟨r, rfl, rfl⟩ | ⟨key, hkey, t, rest, rfl, rfl⟩ | ⟨broker, rfl, hb, rfl⟩ |
    ⟨broker, -, hb, -⟩⟩ := resume_cases h
  · exact disconnected_cancelPublishTasks hs hdis _
  · exact disconnected_cancelPublishTasks (s := s.dropConfig key) ⟨hs.reconnect, hs.client⟩ hdis _
  · cases hb
    exact disconnected_afterClose ((fades_setConnected false).quiet hdis.1)
      ((fades_setConnected false).closed hdis.2)
  · cases hb

end Disconnecting

end MqttAdapter

namespace MqttRun

variable {s s' : MqttRun} {e : Event} {broker : UUID}

/-- No step opens a client beside an open one, and no reconnect loop that was cancelled ends
beside a live one. -/
def KeepsTables (s : MqttRun) (e : Event) : Prop :=
  (∀ i c broker, e = .resume i true → s.calls[i]? = some c → c.await = .clientEnter →
    c.call.connecting = some broker → s.adapter.NoOpen broker) ∧
  ∀ broker r opens task, e = .reconnectStep broker r opens →
    (s.adapter.reconnects broker)[r]? = some task →
    (task.cancelled = true → task.place ≠ some .created → s.adapter.NoReconnect broker) ∧
    (opens = true → task.cancelled = false → ∀ delay, task.place = some (.clientEnter delay) →
      s.adapter.NoOpen broker)

/-- The step is not one of a call that connects to the broker, and the broker, while it has its
settings, is not found disconnected by a publish loop. -/
def Undisturbed (broker : UUID) (s : MqttRun) : Event → Prop
  | .call call => call.connecting ≠ some broker
  | .resume i _ => ∀ c, s.calls[i]? = some c → c.call.connecting ≠ some broker
  | .reconnectStep .. => True
  | .publishStep key _ e =>
    key.2 = broker → e = .connectionLost → s.adapter.brokerSettings broker = none

def OneConnections (s : MqttRun) : Prop := ∀ broker, s.adapter.OneConnection broker

theorem step_one (hs : s.OneConnections) (hguard : s.KeepsTables e) (hstep : s.step e = some s') :
    s'.OneConnections := by
  intro broker
  cases e with
  | call call =>
    obtain rfl := Option.some.inj hstep
    exact MqttAdapter.one_begin (hs broker)
  | resume i opens =>
    simp only [step, Option.bind_eq_some_iff, Option.map_eq_some_iff] at hstep
    obtain ⟨c, hc, ⟨adapter, await⟩, hresume, rfl⟩ := hstep
    refine MqttAdapter.one_resume (hs broker) ?_ hresume
    rintro hawait rfl hcall
    exact hguard.1 i c broker rfl hc hawait hcall
  | reconnectStep b r opens =>
    simp only [step, Option.map_eq_some_iff] at hstep
    obtain ⟨adapter, hstep, rfl⟩ := hstep
    refine MqttAdapter.one_reconnectStep (hs broker) ?_ ?_ hstep
    · rintro task rfl htask hcancelled hplace
      exact (hguard.2 b r opens task rfl htask).1 hcancelled hplace
    · rintro task delay rfl hopens htask hcancelled hplace
      exact (hguard.2 b r opens task rfl htask).2 hopens hcancelled delay hplace
  | publishStep key t e =>
    simp only [step, Option.map_eq_some_iff] at hstep
    obtain ⟨adapter, hstep, rfl⟩ := hstep
    exact MqttAdapter.one_publishStep (hs broker) hstep

theorem step_fades (hno : s.adapter.NoReconnect broker) (hguard : Undisturbed broker s e)
    (hstep : s.step e = some s') : MqttAdapter.Fades broker s.adapter s'.adapter := by
  cases e with
  | call call =>
    obtain rfl := Option.some.inj hstep
    exact MqttAdapter.fades_begin hguard
  | resume i opens =>
    simp only [step, Option.bind_eq_some_iff, Option.map_eq_some_iff] at hstep
    obtain ⟨c, hc, ⟨adapter, await⟩, hresume, rfl⟩ := hstep
    exact MqttAdapter.fades_resume (hguard c hc) hresume
  | reconnectStep b r opens =>
    simp only [step, Option.map_eq_some_iff] at hstep
    obtain ⟨adapter, hstep, rfl⟩ := hstep
    exact MqttAdapter.fades_reconnectStep hno hstep
  | publishStep key t e =>
    simp only [step, Option.map_eq_some_iff] at hstep
    obtain ⟨adapter, hstep, rfl⟩ := hstep
    exact MqttAdapter.fades_publishStep hguard hstep

/-- How far the disconnect at `i` has come. -/
def Disconnecting (broker : UUID) (i : ℕ) (s : MqttRun) : Prop :=
  ∃ await, s.calls[i]? = some ⟨.disconnectBroker broker, await⟩ ∧
    s.adapter.Disconnected broker await

theorem step_disconnecting {i : ℕ} (hs : s.OneConnections) (hguard : Undisturbed broker s e)
    (hdis : Disconnecting broker i s) (hstep : s.step e = some s') :
    Disconnecting broker i s' := by
  obtain ⟨await, hi, hdis⟩ := hdis
  have hfades := step_fades (MqttAdapter.quiet_of_disconnected hdis).2 hguard hstep
  cases e with
  | call other =>
    obtain rfl := Option.some.inj hstep
    refine ⟨await, ?_, hfades.disconnected hdis⟩
    rw [List.getElem?_append_left (List.getElem?_eq_some_iff.1 hi).1, hi]
  | resume j opens =>
    simp only [step, Option.bind_eq_some_iff, Option.map_eq_some_iff] at hstep
    obtain ⟨c, hc, ⟨adapter, await'⟩, hresume, rfl⟩ := hstep
    by_cases hj : j = i
    · subst hj
      obtain rfl := Option.some.inj (hc.symm.trans hi)
      refine ⟨await', ?_, MqttAdapter.disconnected_resume (hs broker) hdis hresume⟩
      rw [List.getElem?_set_self (List.getElem?_eq_some_iff.1 hi).1]
    · exact ⟨await, by rw [List.getElem?_set_ne hj, hi], hfades.disconnected hdis⟩
  | reconnectStep b r opens =>
    simp only [step, Option.map_eq_some_iff] at hstep
    obtain ⟨adapter, hstep, rfl⟩ := hstep
    exact ⟨await, hi, hfades.disconnected hdis⟩
  | publishStep k t e =>
    simp only [step, Option.map_eq_some_iff] at hstep
    obtain ⟨adapter, hstep, rfl⟩ := hstep
    exact ⟨await, hi, hfades.disconnected hdis⟩

theorem one_empty : OneConnections {} := fun broker =>
  ⟨by rintro r ⟨task, htask, -⟩; simp at htask, by simp⟩

/-- In a run that keeps the tables: every live reconnect loop and every open client can be
reached, and a broker has none once a disconnect has returned, if nothing has disturbed it. -/
theorem always_oneConnection (events : List Event)
    (hguard : EachStep step (fun s e _ => s.KeepsTables e) {} events) :
    Always step OneConnections {} events ∧
      ∀ before broker after s₁ s₂ s₃, events = before ++ .call (.disconnectBroker broker) :: after →
        exec step {} before = some s₁ → s₁.step (.call (.disconnectBroker broker)) = some s₂ →
        exec step s₂ after = some s₃ →
        EachStep step (fun s e _ => Undisturbed broker s e) s₂ after →
        s₃.Finished s₁.calls.length →
        s₃.adapter.Quiet broker ∧ s₃.adapter.Closed broker ∧
          s₃.adapter.brokerInfo broker = none := by
  refine ⟨⟨one_empty, ?_⟩, ?_⟩
  · exact hguard.guarded (J := OneConnections)
      (fun s e s' hs hstep hg => ⟨step_one hs hg hstep, step_one hs hg hstep⟩) one_empty
  · rintro before broker after s₁ s₂ s₃ rfl hbefore hcallstep hafter hundisturbed
      ⟨c, ok, hc, hfinished⟩
    obtain ⟨hpre, hpost⟩ := hguard.of_append
    obtain ⟨hcallguard, hafterguard⟩ := hpost s₁ hbefore s₂ hcallstep
    have hs₁ : s₁.OneConnections := by
      refine hpre.exec_invariant (J := OneConnections) ?_ one_empty hbefore
      exact fun s e s' hs hg hstep => step_one hs hg hstep
    have hs₂ : Disconnecting broker s₁.calls.length s₂ := by
      obtain rfl := Option.some.inj hcallstep
      exact ⟨(s₁.adapter.begin (.disconnectBroker broker)).2, List.getElem?_concat_length,
        MqttAdapter.disconnected_begin (hs₁ broker)⟩
    obtain ⟨-, await, hi, hdis⟩ : s₃.OneConnections ∧ Disconnecting broker s₁.calls.length s₃ := by
      refine (hafterguard.and hundisturbed).exec_invariant
        (J := fun s => s.OneConnections ∧ Disconnecting broker s₁.calls.length s) ?_
        ⟨step_one hs₁ hcallguard hcallstep, hs₂⟩ hafter
      rintro s e s' ⟨hs, hdis⟩ ⟨hg, hundisturbed⟩ hstep
      exact ⟨step_one hs hg hstep, step_disconnecting hs hundisturbed hdis hstep⟩
    obtain rfl := Option.some.inj (hi.symm.trans hc)
    obtain rfl : await = .finished ok := hfinished
    exact hdis

/-- A broker is connected and disconnected. -/
def connected : List Event := [.call (.connectBroker 1 localhost), .resume 0 true]

theorem always_oneConnection_disconnected : ∃ s,
    exec step {} (connected ++ .call (.disconnectBroker 1) :: [.resume 1 true]) = some s ∧
      s.adapter.Quiet 1 ∧ s.adapter.Closed 1 ∧ s.adapter.brokerInfo 1 = none := by
  refine ⟨_, rfl, (always_oneConnection
    (connected ++ .call (.disconnectBroker 1) :: [.resume 1 true]) ?_).2
    connected 1 [.resume 1 true] _ _ _ rfl rfl rfl rfl ?_ ⟨_, true, rfl, rfl⟩⟩
  · intro s₁ h₁
    obtain rfl := Option.some.inj h₁
    refine ⟨⟨by rintro _ _ _ ⟨⟩, by rintro _ _ _ _ ⟨⟩⟩, fun s₂ h₂ => ?_⟩
    obtain rfl := Option.some.inj h₂
    refine ⟨⟨?_, by rintro _ _ _ _ ⟨⟩⟩, fun s₃ h₃ => ?_⟩
    · rintro _ _ _ ⟨⟩ ⟨⟩ - ⟨⟩ _ ⟨⟩
    obtain rfl := Option.some.inj h₃
    refine ⟨⟨by rintro _ _ _ ⟨⟩, by rintro _ _ _ _ ⟨⟩⟩, fun s₄ h₄ => ?_⟩
    refine ⟨⟨by rintro _ _ _ ⟨⟩ ⟨⟩ ⟨⟩, by rintro _ _ _ _ ⟨⟩⟩, trivial⟩
  · intro s₁ h₁
    exact ⟨by rintro _ ⟨⟩ ⟨⟩, trivial⟩

/-- Two updates of a broker: both open a client, and only one can be reached. -/
def updatedTwice : List Event := [
  .call (.reconnectBroker 1 localhost), .call (.reconnectBroker 1 localhost),
  .resume 0 true, .resume 1 true]

theorem client_leaked : ¬ ∀ events, Always step OneConnections {} events := by
  intro h
  have hlast := (h updatedTwice).of_exec rfl
  exact absurd ((hlast 1).client 0 rfl) (by decide)

end MqttRun

end GhostMeter.Protocols
