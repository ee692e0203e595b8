import GhostMeter.Lib.Run
import GhostMeter.Protocols.MqttAdapter

/-! Publish tasks: which steps leave one that nobody can stop. -/

namespace GhostMeter.Protocols

open GhostMeter.Lib

namespace MqttAdapter

/-- No task publishes for the pair. -/
def NoLive (s : MqttAdapter) (key : PublishKey) : Prop := ∀ t, ¬ LiveAt (s.publishes key) t

/-- What the task has read of its config, if anything, is in `_publish_configs`. -/
def ConfigHeld (s : MqttAdapter) (key : PublishKey) (t : ℕ) : Prop :=
  ∃ config, s.publishConfigs key = some config ∧
    ∀ task place, (s.publishes key)[t]? = some task → task.place = some place →
      place.config = none ∨ place.config = some config

/-- A pair has at most one live task: it is the one in the table, and its config is there. -/
def OnePublish (s : MqttAdapter) : Prop :=
  ∀ key t, LiveAt (s.publishes key) t → s.publishTasks.get key = some t ∧
    (∀ t', LiveAt (s.publishes key) t' → t' = t) ∧ s.ConfigHeld key t

variable {s s' : MqttAdapter} {key key' : PublishKey} {call : MqttCall} {t : ℕ}

theorem onePublish_iff : s.OnePublish ↔ ∀ key t, LiveAt (s.publishes key) t →
    s.publishTasks.get key = some t ∧ s.ConfigHeld key t := by
  refine ⟨fun h key t ht => ⟨(h key t ht).1, (h key t ht).2.2⟩, fun h key t ht => ?_⟩
  obtain ⟨htable, hconfig⟩ := h key t ht
  refine ⟨htable, fun t' ht' => ?_, hconfig⟩
  exact Option.some.inj ((h key t' ht').1.symm.trans htable)

/-- Nothing that is about the publish tasks of the pair has changed. -/
structure SamePublish (key : PublishKey) (s s' : MqttAdapter) : Prop where
  publishes : s'.publishes key = s.publishes key
  publishTask : s'.publishTasks.get key = s.publishTasks.get key
  publishConfig : s'.publishConfigs key = s.publishConfigs key

theorem SamePublish.noLive (h : SamePublish key s s') : s'.NoLive key ↔ s.NoLive key := by
  rw [NoLive, NoLive, h.publishes]

theorem SamePublish.configHeld (h : SamePublish key s s') :
    s'.ConfigHeld key t ↔ s.ConfigHeld key t := by
  simp only [ConfigHeld, h.publishes, h.publishConfig]

theorem onePublish_of_others (hs : s.OnePublish)
    (hother : ∀ k, k ≠ key → SamePublish k s s')
    (hkey : ∀ t, LiveAt (s'.publishes key) t →
      s'.publishTasks.get key = some t ∧ s'.ConfigHeld key t) : s'.OnePublish := by
  rw [onePublish_iff] at hs ⊢
  intro k t ht
  by_cases hk : k = key
  · subst hk
    exact hkey t ht
  · have hsame := hother k hk
    rw [hsame.publishTask, hsame.configHeld]
    rw [hsame.publishes] at ht
    exact hs k t ht

theorem onePublish_of_same (hs : s.OnePublish) (h : ∀ k, SamePublish k s s') : s'.OnePublish :=
  @onePublish_of_others s s' (0, 0) hs (fun k _ => h k) fun t ht => by
    rw [(h _).publishTask, (h _).configHeld]
    rw [(h _).publishes] at ht
    exact ⟨(hs _ t ht).1, (hs _ t ht).2.2⟩

section Primitives

theorem samePublish_dropConfig (hne : key' ≠ key) : SamePublish key' s (s.dropConfig key) :=
  ⟨rfl, rfl, Dict.pop_of_ne _ hne⟩

theorem samePublish_cancelPublishTask (hne : key' ≠ key) :
    SamePublish key' s (s.cancelPublishTask key).1 := by
  unfold cancelPublishTask
  have hpop : (s.publishTasks.pop key).get key' = s.publishTasks.get key' :=
    Dict.pop_of_ne _ hne
  split
  next => exact samePublish_dropConfig hne
  next t _ =>
    by_cases h : isDone (s.publishes key) t = true
    · rw [if_pos h]
      exact ⟨rfl, hpop, Dict.pop_of_ne _ hne⟩
    · rw [if_neg h]
      exact ⟨Function.update_of_ne hne _ _, hpop, rfl⟩

theorem samePublish_registerPublish (config : MqttPublishConfig) (hne : key' ≠ key) :
    SamePublish key' s (s.registerPublish key config) :=
  ⟨Function.update_of_ne hne _ _, Dict.set_of_ne _ _ hne, Dict.set_of_ne _ _ hne⟩

/-- A task that is live after a cancel is another one, and was live before. -/
theorem liveAt_cancelPublishTask
    (h : LiveAt ((s.cancelPublishTask key).1.publishes key) t) :
    LiveAt (s.publishes key) t ∧ s.publishTasks.get key ≠ some t := by
  unfold cancelPublishTask at h
  split at h
  next htable => exact ⟨h, by simp [htable]⟩
  next t' htable =>
    by_cases hdone : isDone (s.publishes key) t' = true
    · rw [if_pos hdone] at h
      refine ⟨h, fun heq => not_liveAt_of_isDone hdone ?_⟩
      obtain rfl := Option.some.inj (htable.symm.trans heq)
      exact h
    · rw [if_neg hdone] at h
      simp only [Function.update_self, liveAt_modify_cancel] at h
      refine ⟨h.2, fun heq => h.1 (Option.some.inj (heq.symm.trans htable))⟩

theorem noLive_cancelPublishTask (hs : s.OnePublish) (key : PublishKey) :
    (s.cancelPublishTask key).1.NoLive key := fun t ht =>
  (liveAt_cancelPublishTask ht).2 (hs key t (liveAt_cancelPublishTask ht).1).1

theorem onePublish_cancelPublishTask (hs : s.OnePublish) (key : PublishKey) :
    (s.cancelPublishTask key).1.OnePublish :=
  onePublish_of_others hs (fun _ hne => samePublish_cancelPublishTask hne) fun t ht =>
    absurd ht (noLive_cancelPublishTask hs key t)

theorem onePublish_dropConfig (hs : s.OnePublish) (h : s.NoLive key) :
    (s.dropConfig key).OnePublish :=
  onePublish_of_others hs (fun _ hne => samePublish_dropConfig hne) fun t ht => absurd ht (h t)

theorem onePublish_registerPublish (config : MqttPublishConfig) (hs : s.OnePublish)
    (h : s.NoLive key) : (s.registerPublish key config).OnePublish := by
  refine onePublish_of_others hs (fun _ hne => samePublish_registerPublish config hne) ?_
  intro t ht
  simp only [registerPublish, Function.update_self, liveAt_append] at ht
  obtain ht | ⟨rfl, -⟩ := ht
  · exact absurd ht (h t)
  · refine ⟨Dict.set_self _ _ _, _, Dict.set_self _ _ _, fun task place htask hplace => Or.inl ?_⟩
    simp only [registerPublish, Function.update_self, List.getElem?_concat_length,
      Option.some.injEq] at htask
    subst htask
    obtain rfl := Option.some.inj hplace
    rfl

end Primitives

section Connections

variable {broker : UUID}

theorem SamePublish.trans {s'' : MqttAdapter} (h : SamePublish key s s')
    (h' : SamePublish key s' s'') : SamePublish key s s'' :=
  ⟨h'.publishes.trans h.publishes, h'.publishTask.trans h.publishTask,
    h'.publishConfig.trans h.publishConfig⟩

theorem samePublish_setConnected {connected : Bool} :
    SamePublish key s (s.setConnected broker connected) := ⟨rfl, rfl, rfl⟩

theorem samePublish_closeClient : SamePublish key s (s.closeClient broker).1 := by
  unfold closeClient
  split <;> exact ⟨rfl, rfl, rfl⟩

theorem samePublish_scheduleReconnect : SamePublish key s (s.scheduleReconnect broker) := by
  unfold scheduleReconnect
  split <;> exact ⟨rfl, rfl, rfl⟩

theorem samePublish_markBrokerDisconnected :
    SamePublish key s (s.markBrokerDisconnected broker) :=
  (@samePublish_setConnected s key broker false).trans samePublish_scheduleReconnect

theorem samePublish_cancelReconnectTask :
    SamePublish key s (s.cancelReconnectTask broker).1 := by
  unfold cancelReconnectTask
  split
  next => exact ⟨rfl, rfl, rfl⟩
  next r _ => by_cases h : isDone (s.reconnects broker) r = true <;> simp only [h] <;>
    exact ⟨rfl, rfl, rfl⟩

theorem samePublish_afterClose : SamePublish key s (s.afterClose call).1 := by
  unfold afterClose
  split <;> exact ⟨rfl, rfl, rfl⟩

theorem samePublish_reconnectStep {r : ℕ} {opens : Bool}
    (h : s.reconnectStep broker r opens = some s') : SamePublish key s s' := by
  obtain ⟨task, place, -, -, ⟨-, rfl⟩ | ⟨-, rfl⟩ | ⟨s₁, next, -, hs₁, rfl⟩ |
    ⟨-, -, -, rfl⟩⟩ :=
    reconnectStep_cases h
  · exact ⟨rfl, rfl, rfl⟩
  · exact ⟨rfl, rfl, rfl⟩
  · obtain rfl | rfl | rfl := hs₁
    · exact ⟨rfl, rfl, rfl⟩
    · exact (@samePublish_closeClient s key broker).trans ⟨rfl, rfl, rfl⟩
    · exact ⟨rfl, rfl, rfl⟩
  · exact ⟨rfl, rfl, rfl⟩

/-- After its loop, a call that does not start anything leaves the publish tasks. -/
theorem samePublish_afterCancels (hstart : ∀ config, call ≠ .startPublishing key config) :
    SamePublish key s (s.afterCancels call).1 := by
  obtain ⟨broker, -, heq⟩ | ⟨broker, -, heq⟩ | ⟨key', config, rfl, heq⟩ | heq :=
    s.afterCancels_cases call <;> rw [heq]
  · exact samePublish_closeClient
  · exact samePublish_closeClient.trans samePublish_afterClose
  · refine samePublish_registerPublish config fun hkey => hstart config ?_
    rw [hkey]
  · exact ⟨rfl, rfl, rfl⟩

end Connections

section Loop

theorem onePublish_afterCancels (hs : s.OnePublish)
    (hstart : ∀ key config, call = .startPublishing key config → s.NoLive key) :
    (s.afterCancels call).1.OnePublish := by
  by_cases h : ∃ key config, call = .startPublishing key config
  · obtain ⟨key, config, rfl⟩ := h
    exact onePublish_registerPublish config hs (hstart key config rfl)
  · exact onePublish_of_same hs fun key =>
      samePublish_afterCancels fun config hcall => h ⟨key, config, hcall⟩

theorem noLive_of_liveAt (h : ∀ t, LiveAt (s'.publishes key) t → LiveAt (s.publishes key) t)
    (hs : s.NoLive key) : s'.NoLive key := fun t ht => hs t (h t ht)

theorem noLive_cancel (hs : s.NoLive key) : (s.cancelPublishTask key').1.NoLive key := by
  by_cases hkey : key = key'
  · subst hkey
    exact noLive_of_liveAt (fun t ht => (liveAt_cancelPublishTask ht).1) hs
  · exact (samePublish_cancelPublishTask hkey).noLive.2 hs

/-- The loop keeps the invariant; a start comes to its end without a live task. -/
theorem onePublish_cancelPublishTasks (hs : s.OnePublish) (keys : List PublishKey)
    (hstart : ∀ key config, call = .startPublishing key config → s.NoLive key ∨ key ∈ keys) :
    (cancelPublishTasks call s keys).1.OnePublish := by
  induction keys generalizing s with
  | nil =>
    exact onePublish_afterCancels hs fun key config hcall =>
      (hstart key config hcall).resolve_right (by simp)
  | cons k rest ih =>
    have hcancel := onePublish_cancelPublishTask hs k
    obtain ⟨_, t, heq⟩ | ⟨hk, heq⟩ | ⟨hk, heq⟩ := s.cancelPublishTasks_cons k rest <;> rw [heq]
    · exact hcancel
    · refine ih hcancel fun key config hcall => Or.inl ?_
      subst hcall
      obtain rfl : k = key := of_decide_eq_true hk
      exact noLive_cancelPublishTask hs k
    · refine ih hs fun key config hcall => (hstart key config hcall).imp_right fun hmem => ?_
      subst hcall
      refine (List.mem_cons.1 hmem).resolve_left fun hkey => ?_
      exact of_decide_eq_false hk hkey.symm

/-- A call that does not start the pair leaves it dead. -/
theorem noLive_cancelPublishTasks (hs : s.NoLive key)
    (hstart : ∀ config, call ≠ .startPublishing key config) (keys : List PublishKey) :
    (cancelPublishTasks call s keys).1.NoLive key :=
  cancelPublishTasks_induct (R := (·.NoLive key)) (fun _ _ _ h => noLive_cancel h)
    (fun _ h => (samePublish_afterCancels hstart).noLive.2 h) keys hs

theorem noLive_of_notMem (hs : s.OnePublish) (h : key ∉ s.publishTasks.keys) :
    s.NoLive key := by
  intro t ht
  refine h ((s.publishTasks.mem_keys key).2 ?_)
  rw [(hs key t ht).1]
  rfl

theorem onePublish_snapshot (hs : s.OnePublish) :
    (cancelPublishTasks call s s.publishTasks.keys).1.OnePublish := by
  refine onePublish_cancelPublishTasks hs _ fun key _ _ => ?_
  by_cases h : key ∈ s.publishTasks.keys
  · exact Or.inr h
  · exact Or.inl (noLive_of_notMem hs h)

end Loop

section Steps

variable {await await' : MqttAwait call} {opens : Bool}

theorem onePublish_begin (hs : s.OnePublish) : (s.begin call).1.OnePublish := by
  have hcancel : ∀ broker, (s.cancelReconnectTask broker).1.OnePublish := fun broker =>
    onePublish_of_same hs fun _ => samePublish_cancelReconnectTask
  obtain ⟨broker, settings, -, heq⟩ | ⟨broker, r, -, heq⟩ | ⟨broker, _, -, rfl, heq⟩ | heq |
    ⟨_, _, -, heq⟩ := s.begin_cases call <;> rw [heq]
  · exact onePublish_of_same hs fun _ => ⟨rfl, rfl, rfl⟩
  · exact hcancel broker
  · exact onePublish_snapshot (hcancel broker)
  · exact onePublish_snapshot hs
  · exact hs

theorem onePublish_resume (hs : s.OnePublish)
    (hguard : ∀ key hkey t rest, await = .publishTask key hkey t rest → s.NoLive key)
    (h : s.resume opens await = some (s', await')) : s'.OnePublish := by
  obtain ⟨_, rfl, rfl, ⟨r, -, rfl⟩ | ⟨key, hkey, t, rest, rfl, rfl⟩ | ⟨broker, -, -, rfl⟩ |
    ⟨broker, -, -, rfl⟩⟩ := resume_cases h
  · exact onePublish_snapshot hs
  · have hno := hguard key hkey t rest rfl
    refine onePublish_cancelPublishTasks (onePublish_dropConfig hs hno) rest ?_
    rintro key' config rfl
    obtain rfl : key = key' := of_decide_eq_true hkey
    exact Or.inl hno
  · exact onePublish_of_same hs fun key => samePublish_setConnected.trans samePublish_afterClose
  · cases opens with
    | true => exact onePublish_of_same hs fun _ => ⟨rfl, rfl, rfl⟩
    | false => exact onePublish_of_same hs fun _ => samePublish_scheduleReconnect

theorem samePublish_setPublish {task : AsyncTask PublishPlace} (hne : key' ≠ key) :
    SamePublish key' s (s.setPublish key t task) :=
  ⟨Function.update_of_ne hne _ _, rfl, rfl⟩

/-- A step of a publish loop makes nothing live, and keeps what it has read. -/
theorem publishStep_keeps {e : PublishEvent} (h : s.publishStep key t e = some s') :
    (∀ k, k ≠ key → SamePublish k s s') ∧ s'.publishTasks = s.publishTasks ∧
      ∀ t', LiveAt (s'.publishes key) t' → LiveAt (s.publishes key) t' ∧
        (s.ConfigHeld key t' → s'.ConfigHeld key t') := by
  obtain ⟨task, place, htask, hplace, ⟨-, rfl⟩ | ⟨next, hcancelled, hconfig, hs'⟩⟩ :=
    publishStep_cases h
  · refine ⟨fun k hk => samePublish_setPublish hk, rfl, fun t' ht' => ?_⟩
    simp only [setPublish, Function.update_self, liveAt_set_finish htask] at ht'
    refine ⟨ht'.2, ?_⟩
    simp only [ConfigHeld, setPublish, Function.update_self, List.getElem?_set_ne ht'.1.symm]
    exact id
  · have hsame : ∀ k, SamePublish k (s.setPublish key t (task.moveTo next)) s' := by
      intro k
      obtain rfl | ⟨-, rfl⟩ := hs'
      · exact ⟨rfl, rfl, rfl⟩
      · exact samePublish_markBrokerDisconnected
    have htable : s'.publishTasks = s.publishTasks := by
      obtain rfl | ⟨-, rfl⟩ := hs'
      · rfl
      · unfold markBrokerDisconnected scheduleReconnect
        split <;> rfl
    refine ⟨fun k hk => (samePublish_setPublish hk).trans (hsame k), htable, fun t' ht' => ?_⟩
    rw [(hsame key).publishes] at ht'
    simp only [setPublish, Function.update_self, liveAt_set_moveTo htask hplace] at ht'
    refine ⟨ht', fun hheld => (hsame key).configHeld.2 ?_⟩
    obtain ⟨config, hc, hread⟩ := hheld
    refine ⟨config, hc, fun task' place' htask' hplace' => ?_⟩
    simp only [setPublish, Function.update_self, List.getElem?_set] at htask'
    split at htask'
    next heq =>
      subst heq
      split at htask'
      next =>
        obtain rfl := Option.some.inj htask'
        obtain rfl := Option.some.inj hplace'
        rw [hconfig, hc]
        obtain hnone | hsome := hread task place htask hplace
        · exact Or.inr (by rw [hnone]; rfl)
        · exact Or.inr (by rw [hsome]; rfl)
      next => cases htask'
    next => exact hread task' place' htask' hplace'

theorem onePublish_publishStep {e : PublishEvent} (hs : s.OnePublish)
    (h : s.publishStep key t e = some s') : s'.OnePublish := by
  obtain ⟨hother, htable, hkeeps⟩ := publishStep_keeps h
  refine onePublish_of_others hs hother fun t' ht' => ?_
  obtain ⟨hlive, hheld⟩ := hkeeps t' ht'
  rw [htable]
  exact ⟨(hs key t' hlive).1, hheld (hs key t' hlive).2.2⟩

end Steps

section Stops

/-- The call has still to look at the pair. -/
def covers (key : PublishKey) : MqttAwait call → Prop
  | .reconnectTask _ => True
  | .publishTask _ _ _ rest => key ∈ rest
  | _ => False

variable {await await' : MqttAwait call} {opens : Bool}

theorem noLive_begin (hs : s.NoLive key)
    (hstart : ∀ config, call ≠ .startPublishing key config) : (s.begin call).1.NoLive key := by
  have hcancel : ∀ broker, (s.cancelReconnectTask broker).1.NoLive key := fun broker =>
    samePublish_cancelReconnectTask.noLive.2 hs
  obtain ⟨broker, settings, -, heq⟩ | ⟨broker, r, -, heq⟩ | ⟨broker, _, -, rfl, heq⟩ | heq |
    ⟨_, _, -, heq⟩ := s.begin_cases call <;> rw [heq]
  · exact hs
  · exact hcancel broker
  · exact noLive_cancelPublishTasks (hcancel broker) hstart _
  · exact noLive_cancelPublishTasks hs hstart _
  · exact hs

theorem noLive_resume (hs : s.NoLive key)
    (hstart : ∀ config, call ≠ .startPublishing key config)
    (h : s.resume opens await = some (s', await')) : s'.NoLive key := by
  obtain ⟨_, rfl, rfl, ⟨r, -, rfl⟩ | ⟨k, hk, t, rest, rfl, rfl⟩ | ⟨broker, -, -, rfl⟩ |
    ⟨broker, -, -, rfl⟩⟩ := resume_cases h
  · exact noLive_cancelPublishTasks hs hstart _
  · exact noLive_cancelPublishTasks (s := s.dropConfig k) hs hstart _
  · exact (samePublish_setConnected.trans samePublish_afterClose).noLive.2 hs
  · cases opens with
    | true => exact hs
    | false => exact samePublish_scheduleReconnect.noLive.2 hs

/-- A call that cancels the pair's task has done so, or has still to look at the pair. -/
theorem stops_cancelPublishTasks (hs : s.OnePublish) (hkey : call.cancels key = true)
    (hstart : ∀ config, call ≠ .startPublishing key config) (keys : List PublishKey)
    (h : s.NoLive key ∨ key ∈ keys) :
    (cancelPublishTasks call s keys).1.NoLive key ∨
      covers key (cancelPublishTasks call s keys).2 := by
  induction keys generalizing s with
  | nil => exact Or.inl (noLive_cancelPublishTasks (h.resolve_right (by simp)) hstart [])
  | cons k rest ih =>
    have hrest : (s.cancelPublishTask k).1.NoLive key ∨ key ∈ rest := by
      rcases h with h | h
      · exact Or.inl (noLive_cancel h)
      · rcases List.mem_cons.1 h with rfl | h
        · exact Or.inl (noLive_cancelPublishTask hs key)
        · exact Or.inr h
    obtain ⟨_, t, heq⟩ | ⟨-, heq⟩ | ⟨hk, heq⟩ := s.cancelPublishTasks_cons k rest <;> rw [heq]
    · exact hrest
    · exact ih (onePublish_cancelPublishTask hs k) hrest
    · refine ih hs (h.imp_right fun hmem => ?_)
      refine (List.mem_cons.1 hmem).resolve_left ?_
      rintro rfl
      simp [hkey] at hk

theorem stops_snapshot (hs : s.OnePublish) (hkey : call.cancels key = true)
    (hstart : ∀ config, call ≠ .startPublishing key config) :
    (cancelPublishTasks call s s.publishTasks.keys).1.NoLive key ∨
      covers key (cancelPublishTasks call s s.publishTasks.keys).2 := by
  refine stops_cancelPublishTasks hs hkey hstart _ ?_
  by_cases h : key ∈ s.publishTasks.keys
  · exact Or.inr h
  · exact Or.inl (noLive_of_notMem hs h)

theorem stops_begin (hs : s.OnePublish) (hkey : call.cancels key = true)
    (hstart : ∀ config, call ≠ .startPublishing key config) :
    (s.begin call).1.NoLive key ∨ covers key (s.begin call).2 := by
  have hcancel : ∀ broker, (s.cancelReconnectTask broker).1.OnePublish := fun broker =>
    onePublish_of_same hs fun _ => samePublish_cancelReconnectTask
  obtain ⟨broker, settings, rfl, heq⟩ | ⟨broker, r, -, heq⟩ | ⟨broker, _, -, rfl, heq⟩ | heq |
    ⟨key', config, rfl, heq⟩ := s.begin_cases call <;> rw [heq]
  · cases hkey
  · exact Or.inr trivial
  · exact stops_snapshot (hcancel broker) hkey hstart
  · exact stops_snapshot hs hkey hstart
  · obtain rfl : key = key' := of_decide_eq_true hkey
    exact absurd rfl (hstart config)

theorem stops_resume (hs : s.OnePublish) (hkey : call.cancels key = true)
    (hstart : ∀ config, call ≠ .startPublishing key config)
    (hguard : ∀ k hk t rest, await = .publishTask k hk t rest → s.NoLive k)
    (hstops : s.NoLive key ∨ covers key await)
    (h : s.resume opens await = some (s', await')) : s'.NoLive key ∨ covers key await' := by
  have hdone : s.NoLive key → s'.NoLive key ∨ covers key await' := fun hno =>
    Or.inl (noLive_resume hno hstart h)
  obtain ⟨_, rfl, rfl, ⟨r, -, rfl⟩ | ⟨k, hk, t, rest, rfl, rfl⟩ | ⟨broker, rfl, -, rfl⟩ |
    ⟨broker, rfl, -, rfl⟩⟩ := resume_cases h
  · exact stops_snapshot hs hkey hstart
  · exact stops_cancelPublishTasks (onePublish_dropConfig hs (hguard k hk t rest rfl)) hkey hstart
      rest hstops
  · exact hdone (hstops.resolve_right id)
  · exact hdone (hstops.resolve_right id)

end Stops

end MqttAdapter

namespace MqttRun

variable {s s' : MqttRun} {e : Event} {key : PublishKey}

/-- A call that goes on after a task that it has cancelled finds no new one for the pair. -/
def FindsNoTask (s : MqttRun) (e : Event) : Prop :=
  ∀ i opens c key hkey t rest, e = .resume i opens → s.calls[i]? = some c →
    c.await = .publishTask key hkey t rest → s.adapter.NoLive key

/-- A step of a call that starts to publish for the pair. -/
def starts (s : MqttRun) (key : PublishKey) (e : Event) : Prop :=
  ∃ config, match e with
    | .call call => call = .startPublishing key config
    | .resume i _ => ∃ c, s.calls[i]? = some c ∧ c.call = .startPublishing key config
    | _ => False

theorem step_onePublish (hs : s.adapter.OnePublish) (hguard : s.FindsNoTask e)
    (hstep : s.step e = some s') : s'.adapter.OnePublish := by
  cases e with
  | call call =>
    obtain rfl := Option.some.inj hstep
    exact MqttAdapter.onePublish_begin hs
  | resume i opens =>
    simp only [step, Option.bind_eq_some_iff, Option.map_eq_some_iff] at hstep
    obtain ⟨c, hc, ⟨adapter, await⟩, hresume, rfl⟩ := hstep
    exact MqttAdapter.onePublish_resume hs (fun key hkey t rest hawait =>
      hguard i opens c key hkey t rest rfl hc hawait) hresume
  | reconnectStep broker r opens =>
    simp only [step, Option.map_eq_some_iff] at hstep
    obtain ⟨adapter, hstep, rfl⟩ := hstep
    exact MqttAdapter.onePublish_of_same hs fun _ => MqttAdapter.samePublish_reconnectStep hstep
  | publishStep key t e =>
    simp only [step, Option.map_eq_some_iff] at hstep
    obtain ⟨adapter, hstep, rfl⟩ := hstep
    exact MqttAdapter.onePublish_publishStep hs hstep

theorem step_noLive (hs : s.adapter.NoLive key) (hstart : ¬ s.starts key e)
    (hstep : s.step e = some s') : s'.adapter.NoLive key := by
  cases e with
  | call call =>
    obtain rfl := Option.some.inj hstep
    exact MqttAdapter.noLive_begin hs fun config hcall => hstart ⟨config, hcall⟩
  | resume i opens =>
    simp only [step, Option.bind_eq_some_iff, Option.map_eq_some_iff] at hstep
    obtain ⟨c, hc, ⟨adapter, await⟩, hresume, rfl⟩ := hstep
    exact MqttAdapter.noLive_resume hs (fun config hcall => hstart ⟨config, c, hc, hcall⟩) hresume
  | reconnectStep broker r opens =>
    simp only [step, Option.map_eq_some_iff] at hstep
    obtain ⟨adapter, hstep, rfl⟩ := hstep
    exact (MqttAdapter.samePublish_reconnectStep hstep).noLive.2 hs
  | publishStep k t e =>
    simp only [step, Option.map_eq_some_iff] at hstep
    obtain ⟨adapter, hstep, rfl⟩ := hstep
    obtain ⟨hother, -, hkeeps⟩ := MqttAdapter.publishStep_keeps hstep
    by_cases hkey : key = k
    · subst hkey
      exact MqttAdapter.noLive_of_liveAt (fun t ht => (hkeeps t ht).1) hs
    · exact (hother key hkey).noLive.2 hs

/-- The call at `i` has cancelled the pair's task, or has still to look at the pair. -/
def Stopping (call : MqttCall) (key : PublishKey) (i : ℕ) (s : MqttRun) : Prop :=
  ∃ await, s.calls[i]? = some ⟨call, await⟩ ∧ (s.adapter.NoLive key ∨ MqttAdapter.covers key await)

theorem step_stopping {call : MqttCall} {i : ℕ} (hs : s.adapter.OnePublish)
    (hkey : call.cancels key = true) (hcall : ∀ config, call ≠ .startPublishing key config)
    (hguard : s.FindsNoTask e) (hstart : ¬ s.starts key e) (hstop : Stopping call key i s)
    (hstep : s.step e = some s') : Stopping call key i s' := by
  obtain ⟨await, hi, hstop⟩ := hstop
  have hno : s.adapter.NoLive key → s'.adapter.NoLive key := fun h => step_noLive h hstart hstep
  cases e with
  | call other =>
    obtain rfl := Option.some.inj hstep
    refine ⟨await, ?_, hstop.imp_left hno⟩
    rw [List.getElem?_append_left (List.getElem?_eq_some_iff.1 hi).1, hi]
  | resume j opens =>
    simp only [step, Option.bind_eq_some_iff, Option.map_eq_some_iff] at hstep
    obtain ⟨c, hc, ⟨adapter, await'⟩, hresume, rfl⟩ := hstep
    by_cases hj : j = i
    · subst hj
      obtain rfl := Option.some.inj (hc.symm.trans hi)
      refine ⟨await', ?_, ?_⟩
      · rw [List.getElem?_set_self (List.getElem?_eq_some_iff.1 hi).1]
      · exact MqttAdapter.stops_resume hs hkey hcall (fun k hk t rest hawait =>
          hguard j opens _ k hk t rest rfl hc hawait) hstop hresume
    · exact ⟨await, by rw [List.getElem?_set_ne hj, hi], hstop.imp_left hno⟩
  | reconnectStep broker r opens =>
    simp only [step, Option.map_eq_some_iff] at hstep
    obtain ⟨adapter, hstep, rfl⟩ := hstep
    exact ⟨await, hi, hstop.imp_left hno⟩
  | publishStep k t e =>
    simp only [step, Option.map_eq_some_iff] at hstep
    obtain ⟨adapter, hstep, rfl⟩ := hstep
    exact ⟨await, hi, hstop.imp_left hno⟩

theorem onePublish_empty : MqttAdapter.OnePublish {} := by
  rintro key t ⟨task, htask, -⟩
  simp at htask

/-- In a run in which no call that has cancelled a task of a pair goes on to find another one: a
pair has at most one live task, which can be reached, and none once a call that stops it has
returned, if nothing has started to publish for it since the call began. -/
theorem always_onePublish (events : List Event)
    (hguard : EachStep step (fun s e _ => s.FindsNoTask e) {} events) :
    Always step (fun s => s.adapter.OnePublish) {} events ∧
      ∀ before call after key s₁ s₂ s₃, events = before ++ .call call :: after →
        call.cancels key = true → (∀ config, call ≠ .startPublishing key config) →
        exec step {} before = some s₁ → s₁.step (.call call) = some s₂ →
        exec step s₂ after = some s₃ → EachStep step (fun s e _ => ¬ s.starts key e) s₂ after →
        s₃.Finished s₁.calls.length → s₃.adapter.NoLive key := by
  refine ⟨⟨onePublish_empty, ?_⟩, ?_⟩
  · exact hguard.guarded (J := fun s => s.adapter.OnePublish)
      (fun s e s' hs hstep hg => ⟨step_onePublish hs hg hstep, step_onePublish hs hg hstep⟩)
      onePublish_empty
  · rintro before call after key s₁ s₂ s₃ rfl hkey hcall hbefore hcallstep hafter hstarts
      ⟨c, ok, hc, hfinished⟩
    obtain ⟨hpre, hpost⟩ := hguard.of_append
    obtain ⟨hcallguard, hafterguard⟩ := hpost s₁ hbefore s₂ hcallstep
    have hs₁ : s₁.adapter.OnePublish := by
      refine hpre.exec_invariant (J := fun s => s.adapter.OnePublish) ?_ onePublish_empty hbefore
      exact fun s e s' hs hg hstep => step_onePublish hs hg hstep
    have hs₂ : Stopping call key s₁.calls.length s₂ := by
      obtain rfl := Option.some.inj hcallstep
      exact ⟨(s₁.adapter.begin call).2, List.getElem?_concat_length,
        MqttAdapter.stops_begin hs₁ hkey hcall⟩
    obtain ⟨-, await, hi, hstop⟩ :
        s₃.adapter.OnePublish ∧ Stopping call key s₁.calls.length s₃ := by
      refine (hafterguard.and hstarts).exec_invariant
        (J := fun s => s.adapter.OnePublish ∧ Stopping call key s₁.calls.length s) ?_
        ⟨step_onePublish hs₁ hcallguard hcallstep, hs₂⟩ hafter
      rintro s e s' ⟨hs, hstop⟩ ⟨hg, hstart⟩ hstep
      exact ⟨step_onePublish hs hg hstep, step_stopping hs hkey hcall hg hstart hstop hstep⟩
    obtain rfl := Option.some.inj (hi.symm.trans hc)
    obtain rfl : await = .finished ok := hfinished
    exact hstop.resolve_right id

section Example

def telemetry : MqttPublishConfig where
  id := 1
  deviceId := 7
  brokerId := 1
  topicTemplate := "telemetry/\x7bdevice_name\x7d"
  payloadMode := .batch
  publishIntervalSeconds := 5
  qos := 0
  retain := false
  enabled := true

/-- A publish task is started and stopped. -/
def started : List Event := [
  .call (.connectBroker 1 localhost), .resume 0 true, .call (.startPublishing (7, 1) telemetry)]

def stopped : List Event := [.publishStep (7, 1) 0 .raises, .resume 2 true]

theorem always_onePublish_stopped : ∃ s,
    exec step {} (started ++ .call (.stopPublishing 7 none) :: stopped) = some s ∧
      s.adapter.NoLive (7, 1) := by
  refine ⟨_, rfl, (always_onePublish (started ++ .call (.stopPublishing 7 none) :: stopped) ?_).2
    started (.stopPublishing 7 none) stopped (7, 1) _ _ _ rfl rfl (by rintro _ ⟨⟩) rfl rfl rfl ?_
    ⟨_, true, rfl, rfl⟩⟩
  · intro s₁ h₁
    obtain rfl := Option.some.inj h₁
    refine ⟨by rintro _ _ _ _ _ _ _ ⟨⟩, fun s₂ h₂ => ?_⟩
    obtain rfl := Option.some.inj h₂
    refine ⟨by rintro _ _ _ _ _ _ _ ⟨⟩ ⟨⟩ ⟨⟩, fun s₃ h₃ => ?_⟩
    obtain rfl := Option.some.inj h₃
    refine ⟨by rintro _ _ _ _ _ _ _ ⟨⟩, fun s₄ h₄ => ?_⟩
    obtain rfl := Option.some.inj h₄
    refine ⟨by rintro _ _ _ _ _ _ _ ⟨⟩, fun s₅ h₅ => ?_⟩
    obtain rfl := Option.some.inj h₅
    refine ⟨by rintro _ _ _ _ _ _ _ ⟨⟩, fun s₆ h₆ => ⟨?_, trivial⟩⟩
    rintro _ _ _ _ _ _ _ ⟨⟩ ⟨⟩ ⟨⟩ t ⟨task, htask, hlive⟩
    cases t with
    | zero =>
      obtain rfl := Option.some.inj htask
      cases hlive
    | succ t => cases htask
  · intro s₁ h₁
    obtain rfl := Option.some.inj h₁
    refine ⟨by rintro ⟨_, ⟨⟩⟩, fun s₂ h₂ => ⟨?_, trivial⟩⟩
    rintro ⟨_, _, ⟨⟩, ⟨⟩⟩

/-- Two starts for a pair whose task runs: both find no task in the table. -/
def startedTwice : List Event := [
  .call (.connectBroker 1 localhost), .resume 0 true, .call (.startPublishing (7, 1) telemetry),
  .call (.startPublishing (7, 1) telemetry), .call (.startPublishing (7, 1) telemetry),
  .publishStep (7, 1) 0 .raises, .resume 2 true]

theorem task_orphaned : ¬ ∀ events, Always step (fun s => s.adapter.OnePublish) {} events := by
  intro h
  have hlast := (h startedTwice).of_exec rfl
  have hone := (hlast (7, 1) 2 ⟨_, rfl, rfl⟩).2.1 1 ⟨_, rfl, rfl⟩
  exact absurd hone (by decide)

end Example

end MqttRun

end GhostMeter.Protocols
