import GhostMeter.Protocols.MqttIsolation
import GhostMeter.Protocols.MqttTasks

/-! What a call of the MQTT adapter does to the publish tasks of a pair and to the connection of a
broker, up to its next await. -/

namespace GhostMeter.Protocols

open GhostMeter.Lib

namespace MqttAdapter

variable {s s' s'' : MqttAdapter} {key : PublishKey} {b broker : UUID} {call : MqttCall}
  {await await' : MqttAwait call} {opens : Bool}

section Others

theorem SamePublish.refl (key : PublishKey) (s : MqttAdapter) : SamePublish key s s :=
  ⟨rfl, rfl, rfl⟩

variable (hother : call.cancels key = false)

include hother

theorem not_starts_of_cancels (config : MqttPublishConfig) :
    call ≠ .startPublishing key config := by
  rintro rfl
  simp [MqttCall.cancels] at hother

theorem samePublish_cancelPublishTasks (keys : List PublishKey) :
    SamePublish key s (cancelPublishTasks call s keys).1 := by
  refine cancelPublishTasks_induct (R := SamePublish key s) ?_ ?_ keys (SamePublish.refl key s)
  · intro s₁ k hk h
    refine h.trans (samePublish_cancelPublishTask ?_)
    rintro rfl
    simp [hother] at hk
  · intro s₁ h
    exact h.trans (samePublish_afterCancels (not_starts_of_cancels hother))

/-- A call leaves the pairs that it does not cancel alone. -/
theorem samePublish_begin : SamePublish key s (s.begin call).1 := by
  obtain ⟨broker, settings, -, heq⟩ | ⟨broker, r, -, heq⟩ | ⟨broker, _, -, rfl, heq⟩ | heq |
    ⟨_, _, -, heq⟩ := s.begin_cases call <;> rw [heq]
  · exact ⟨rfl, rfl, rfl⟩
  · exact samePublish_cancelReconnectTask
  · exact samePublish_cancelReconnectTask.trans (samePublish_cancelPublishTasks hother _)
  · exact samePublish_cancelPublishTasks hother _
  · exact SamePublish.refl key s

theorem samePublish_resume (h : s.resume opens await = some (s', await')) :
    SamePublish key s s' := by
  obtain ⟨_, rfl, rfl, ⟨r, -, rfl⟩ | ⟨k, hk, t, rest, -, rfl⟩ | ⟨broker, -, -, rfl⟩ |
    ⟨broker, -, -, rfl⟩⟩ := resume_cases h
  · exact samePublish_cancelPublishTasks hother _
  · have hne : key ≠ k := by
      rintro rfl
      simp [hother] at hk
    exact (samePublish_dropConfig hne).trans (samePublish_cancelPublishTasks hother _)
  · exact samePublish_setConnected.trans samePublish_afterClose
  · cases opens with
    | true => exact ⟨rfl, rfl, rfl⟩
    | false => exact samePublish_scheduleReconnect

end Others

section Awaited

/-- The call waits for a publish task of the pair. -/
def awaits (key : PublishKey) : MqttAwait call → Prop
  | .publishTask key' _ _ _ => key' = key
  | _ => False

theorem not_awaits_afterCancels : ¬ awaits key (s.afterCancels call).2 := by
  cases call with
  | disconnectBroker broker =>
    simp only [afterCancels]
    split <;> exact id
  | reconnectBroker broker settings =>
    simp only [afterCancels]
    split <;> exact id
  | _ => exact id

theorem cancelPublishTasks_ne_reconnectTask (keys : List PublishKey) (r : ℕ) :
    (cancelPublishTasks call s keys).2 ≠ .reconnectTask r := by
  induction keys generalizing s with
  | nil =>
    cases call with
    | disconnectBroker broker =>
      simp only [cancelPublishTasks, afterCancels]
      split <;> rintro ⟨⟩
    | reconnectBroker broker settings =>
      simp only [cancelPublishTasks, afterCancels]
      split <;> rintro ⟨⟩
    | _ => rintro ⟨⟩
  | cons k rest ih =>
    obtain ⟨_, t, heq⟩ | ⟨-, heq⟩ | ⟨-, heq⟩ := s.cancelPublishTasks_cons k rest <;> rw [heq]
    · rintro ⟨⟩
    · exact ih
    · exact ih

/-- A pair whose task a call waits for has no live one. -/
theorem noLive_awaited_cancelPublishTasks (hs : s.OnePublish) (keys : List PublishKey)
    (h : awaits key (cancelPublishTasks call s keys).2) :
    (cancelPublishTasks call s keys).1.NoLive key := by
  induction keys generalizing s with
  | nil => exact absurd h not_awaits_afterCancels
  | cons k rest ih =>
    obtain ⟨_, t, heq⟩ | ⟨-, heq⟩ | ⟨-, heq⟩ := s.cancelPublishTasks_cons k rest <;>
      rw [heq] at h ⊢
    · obtain rfl : k = key := h
      exact noLive_cancelPublishTask hs k
    · exact ih (onePublish_cancelPublishTask hs k) h
    · exact ih hs h

theorem noLive_awaited_begin (hs : s.OnePublish) (h : awaits key (s.begin call).2) :
    (s.begin call).1.NoLive key := by
  have hcancel : ∀ broker, (s.cancelReconnectTask broker).1.OnePublish := fun broker =>
    onePublish_of_same hs fun _ => samePublish_cancelReconnectTask
  obtain ⟨broker, settings, -, heq⟩ | ⟨broker, r, -, heq⟩ | ⟨broker, _, -, rfl, heq⟩ | heq |
    ⟨_, _, -, heq⟩ := s.begin_cases call <;> rw [heq] at h ⊢
  · exact h.elim
  · exact h.elim
  · exact noLive_awaited_cancelPublishTasks (hcancel broker) _ h
  · exact noLive_awaited_cancelPublishTasks hs _ h
  · exact h.elim

theorem noLive_awaited_resume (hs : s.OnePublish)
    (hguard : ∀ k, awaits k await → s.NoLive k)
    (hresume : s.resume opens await = some (s', await')) (h : awaits key await') :
    s'.NoLive key := by
  obtain ⟨_, rfl, rfl, ⟨r, -, rfl⟩ | ⟨k, hk, t, rest, rfl, rfl⟩ | ⟨broker, -, -, rfl⟩ |
    ⟨broker, -, -, rfl⟩⟩ := resume_cases hresume
  · exact noLive_awaited_cancelPublishTasks hs _ h
  · exact noLive_awaited_cancelPublishTasks (onePublish_dropConfig hs (hguard k rfl)) _ h
  · cases call <;> exact h.elim
  · cases opens <;> exact h.elim

/-- A call that is only about one pair leaves it without a live task. -/
theorem noLive_stopPublishing (hs : s.OnePublish) :
    (s.begin (.stopPublishing key.1 (some key.2))).1.NoLive key := by
  have hkey : (MqttCall.stopPublishing key.1 (some key.2)).cancels key = true :=
    decide_eq_true ⟨rfl, rfl⟩
  rcases stops_begin hs hkey (by rintro _ ⟨⟩) with h | h
  · exact h
  · cases hawait : (s.begin (.stopPublishing key.1 (some key.2))).2 with
    | publishTask k hk t rest =>
      have hk' : k.1 = key.1 ∧ k.2 = key.2 := of_decide_eq_true hk
      obtain rfl : k = key := Prod.ext hk'.1 hk'.2
      exact noLive_awaited_begin hs (by rw [hawait]; rfl)
    | reconnectTask r => exact absurd hawait (cancelPublishTasks_ne_reconnectTask _ r)
    | _ =>
      rw [hawait] at h
      exact h.elim

end Awaited

section Starting

/-- A live task of the pair is in the table, with what the row says. -/
def Runs (s : MqttAdapter) (key : PublishKey) (config : MqttPublishConfig) : Prop :=
  (∃ t, s.publishTasks.get key = some t ∧ LiveAt (s.publishes key) t) ∧
    s.publishConfigs key = some {
      topicTemplate := config.topicTemplate
      payloadMode := config.payloadMode
      interval := config.publishIntervalSeconds
      qos := config.qos
      retain := config.retain }

variable {config : MqttPublishConfig}

theorem Runs.not_noLive (h : s.Runs key config) : ¬ s.NoLive key := by
  obtain ⟨⟨t, -, hlive⟩, -⟩ := h
  exact fun hno => hno t hlive

theorem SamePublish.runs (h : SamePublish key s s') : s'.Runs key config ↔ s.Runs key config := by
  rw [Runs, Runs, h.publishTask, h.publishes, h.publishConfig]

theorem runs_registerPublish : (s.registerPublish key config).Runs key config := by
  refine ⟨⟨(s.publishes key).length, Dict.set_self _ _ _, ?_⟩, Dict.set_self _ _ _⟩
  simp only [registerPublish, Function.update_self]
  exact liveAt_append.2 (Or.inr ⟨rfl, rfl⟩)

/-- Once the old task is gone, a start has left a live one. -/
theorem start_cancelPublishTasks (keys : List PublishKey) :
    awaits key (cancelPublishTasks (.startPublishing key config) s keys).2 ∨
      (cancelPublishTasks (.startPublishing key config) s keys).2 = .finished true ∧
        (cancelPublishTasks (.startPublishing key config) s keys).1.Runs key config := by
  induction keys generalizing s with
  | nil => exact Or.inr ⟨rfl, runs_registerPublish⟩
  | cons k rest ih =>
    obtain ⟨hk, t, heq⟩ | ⟨-, heq⟩ | ⟨-, heq⟩ := s.cancelPublishTasks_cons k rest <;> rw [heq]
    · exact Or.inl (of_decide_eq_true hk : k = key)
    · exact ih
    · exact ih

theorem start_begin :
    awaits key (s.begin (.startPublishing key config)).2 ∨
      (s.begin (.startPublishing key config)).2 = .finished true ∧
        (s.begin (.startPublishing key config)).1.Runs key config ∨
      s.isBrokerConnected key.2 = false ∧
        s.begin (.startPublishing key config) = (s, .finished false) := by
  simp only [begin]
  split
  next => exact (start_cancelPublishTasks _).imp_right Or.inl
  next h => exact Or.inr (Or.inr ⟨by simpa using h, rfl⟩)

theorem start_resume {k : PublishKey} {await await' : MqttAwait (.startPublishing key config)}
    (hawait : awaits k await) (h : s.resume opens await = some (s', await')) :
    awaits key await' ∨ await' = .finished true ∧ s'.Runs key config := by
  obtain ⟨_, rfl, rfl, ⟨r, rfl, -⟩ | ⟨k, hk, t, rest, -, rfl⟩ | ⟨broker, rfl, -⟩ |
    ⟨broker, rfl, -⟩⟩ := resume_cases h
  · exact hawait.elim
  · exact start_cancelPublishTasks _
  · exact hawait.elim
  · exact hawait.elim

end Starting

section Steps

/-- What a call leaves of the publish tasks when it comes to its next await. -/
structure CallStep (s s' : MqttAdapter) (c : RunningCall) : Prop where
  one : s'.OnePublish
  awaited : ∀ key, awaits key c.await → s'.NoLive key
  noLive : ∀ key, s.NoLive key → (∀ config, c.call ≠ .startPublishing key config) → s'.NoLive key

theorem callStep_begin (hs : s.OnePublish) (call : MqttCall) :
    CallStep s (s.begin call).1 ⟨call, (s.begin call).2⟩ where
  one := onePublish_begin hs
  awaited _ h := noLive_awaited_begin hs h
  noLive _ h hstart := noLive_begin h hstart

theorem callStep_resume (hs : s.OnePublish) (hawaited : ∀ key, awaits key await → s.NoLive key)
    (h : s.resume opens await = some (s', await')) : CallStep s s' ⟨call, await'⟩ where
  one := onePublish_resume hs (fun key _ _ _ hawait => hawaited key (by rw [hawait]; rfl)) h
  awaited _ h' := noLive_awaited_resume hs hawaited h h'
  noLive _ h' hstart := noLive_resume h' hstart h

end Steps

end MqttAdapter

end GhostMeter.Protocols
