import GhostMeter.Lib.Run
import GhostMeter.Protocols.MqttAwaits
import GhostMeter.Services.MqttRows

/-! The start route of MQTT publishing: what it leaves of each pair, while the background tasks of
the adapter go on. -/

namespace GhostMeter

open GhostMeter.Lib GhostMeter.Simulation GhostMeter.Protocols GhostMeter.Services

namespace Protocols.MqttAdapter

/-- The pair has the same tasks, and none of them has been cancelled; they may have gone on. -/
structure SameTask (key : PublishKey) (s s' : MqttAdapter) : Prop where
  publishTask : s'.publishTasks.get key = s.publishTasks.get key
  publishConfig : s'.publishConfigs key = s.publishConfigs key
  cancelled : (s'.publishes key).map AsyncTask.cancelled = (s.publishes key).map AsyncTask.cancelled

variable {s s' s'' : MqttAdapter} {key : PublishKey}

theorem SameTask.refl (key : PublishKey) (s : MqttAdapter) : SameTask key s s := ⟨rfl, rfl, rfl⟩

theorem SameTask.trans (h : SameTask key s s') (h' : SameTask key s' s'') : SameTask key s s'' :=
  ⟨h'.publishTask.trans h.publishTask, h'.publishConfig.trans h.publishConfig,
    h'.cancelled.trans h.cancelled⟩

theorem SamePublish.sameTask (h : SamePublish key s s') : SameTask key s s' :=
  ⟨h.publishTask, h.publishConfig, by rw [h.publishes]⟩

/-- A publish loop takes no step that another one could not have taken. -/
theorem publishStep_sameTask {t : ℕ} {e : PublishEvent} (h : s.publishStep key t e = some s') :
    SameTask key s s' ∧ ∀ config, s.Runs key config → s'.Runs key config := by
  obtain ⟨task, place, htask, hplace, ⟨hends, rfl⟩ | ⟨next, -, -, hs'⟩⟩ := publishStep_cases h
  · refine ⟨⟨rfl, rfl, ?_⟩, ?_⟩
    · simp only [setPublish, Function.update_self]
      exact map_cancelled_set htask rfl
    · rintro config ⟨⟨t', htable, hlive⟩, hconfig⟩
      refine ⟨⟨t', htable, ?_⟩, hconfig⟩
      simp only [setPublish, Function.update_self, liveAt_set_finish htask]
      refine ⟨?_, hlive⟩
      rintro rfl
      -- a live task with a config does not end
      obtain ⟨task', htask', hlive⟩ := hlive
      obtain rfl := Option.some.inj (htask.symm.trans htask')
      rw [AsyncTask.live_of_place hplace] at hlive
      obtain hcancelled | ⟨-, hnone⟩ := hends
      · simp [hcancelled] at hlive
      · simp [hconfig] at hnone
  · have hsame : SamePublish key (s.setPublish key t (task.moveTo next)) s' := by
      obtain rfl | ⟨-, rfl⟩ := hs'
      · exact SamePublish.refl key _
      · exact samePublish_markBrokerDisconnected
    have hset : SameTask key s (s.setPublish key t (task.moveTo next)) := by
      refine ⟨rfl, rfl, ?_⟩
      simp only [setPublish, Function.update_self]
      exact map_cancelled_set htask rfl
    refine ⟨hset.trans hsame.sameTask, fun config hruns => hsame.runs.2 ?_⟩
    obtain ⟨⟨t', htable, hlive⟩, hconfig⟩ := hruns
    refine ⟨⟨t', htable, ?_⟩, hconfig⟩
    simp only [setPublish, Function.update_self]
    exact (liveAt_set_moveTo htask hplace).2 hlive

end Protocols.MqttAdapter

/-- The row of the pair is the same, and so is its task. -/
structure MqttBackend.SamePair (key : PublishKey) (s s' : MqttBackend) : Prop where
  row : s'.db.publishConfigFor key = s.db.publishConfigFor key
  task : MqttAdapter.SameTask key s.mqtt s'.mqtt

/-- The pair is enabled, and a task runs for it with its config. -/
structure MqttBackend.Started (s : MqttBackend) (c : MqttPublishConfig) : Prop where
  row : s.db.publishConfigFor c.key = some { c with enabled := true }
  runs : s.mqtt.Runs c.key c

/-- The call, with the pairs in its list of errors. -/
structure StartCall where
  backend : MqttBackend
  request : MqttRequest
  errors : List PublishKey := []

inductive StartEvent
  | advance (ok : Bool)
  | background (e : MqttBackend.Background)

namespace StartCall

def start (settings : Settings) (s : MqttBackend) (device : UUID) (broker : Option UUID) :
    StartCall :=
  let (backend, request) := s.begin settings (.startPublishing device broker)
  { backend, request }

def step (st : StartCall) : StartEvent → Option StartCall
  | .advance ok => (st.backend.advance ok st.request).map fun (backend, request) =>
    { backend, request, errors := request.reverting.toList ++ st.errors }
  | .background e => (st.backend.background e).map fun backend => { st with backend }

/-- What the call is to leave of each pair: `before` it, the targeted pairs had these `configs`. -/
structure PerPair (before : MqttBackend) (configs : List MqttPublishConfig) (st : StartCall) :
    Prop where
  started : ∀ c ∈ configs, c.key ∉ st.errors → st.backend.Started c
  failed : ∀ c ∈ configs, c.key ∈ st.errors → before.SamePair c.key st.backend
  others : ∀ key, (∀ c ∈ configs, c.key ≠ key) → before.SamePair key st.backend

/-- The broker of a pair is not connected when its turn comes, and the pair was enabled. -/
def Loses (configs : List MqttPublishConfig) (st : StartCall) : StartEvent → Prop
  | .advance _ => ∃ config todo, st.request = { todo := .start config :: todo } ∧
    st.backend.mqtt.isBrokerConnected config.brokerId = false ∧
    ∃ c ∈ configs, c.key = config.key ∧ c.enabled = true
  | .background _ => False

/-- Where the loop of the call is with a pair. -/
inductive Stage
  | idle
  | enabled (c : MqttPublishConfig)
  | starting (c : MqttPublishConfig)
  | reverting (c : MqttPublishConfig)

namespace Stage

def current : Stage → Option MqttPublishConfig
  | idle => none
  | enabled c => some c
  | starting c => some c
  | reverting c => some c

/-- What the call has still to do. -/
inductive Request (rest : List MqttPublishConfig) : Stage → MqttRequest → Prop
  | idle : Request rest idle { todo := rest.map .enable }
  | enabled (c : MqttPublishConfig) : Request rest (enabled c)
      { todo := .start { c with enabled := true } :: rest.map .enable }
  | starting (c : MqttPublishConfig)
      (await : MqttAwait (.startPublishing c.key { c with enabled := true }))
      (hawait : MqttAdapter.awaits c.key await) : Request rest (starting c)
        { running := some (⟨_, await⟩, .revert c.key), todo := rest.map .enable }
  | reverting (c : MqttPublishConfig) : Request rest (reverting c)
      { reverting := some c.key, todo := rest.map .enable }

/-- What holds of the pair that the loop is at. -/
def Holds (before : MqttBackend) (st : StartCall) : Stage → Prop
  | idle => True
  | enabled c => st.backend.db.publishConfigFor c.key = some { c with enabled := true } ∧
    MqttAdapter.SameTask c.key before.mqtt st.backend.mqtt ∧ c.key ∉ st.errors
  | starting c => st.backend.db.publishConfigFor c.key = some { c with enabled := true } ∧
    c.key ∉ st.errors
  | reverting c => st.backend.db.publishConfigFor c.key = some { c with enabled := true } ∧
    MqttAdapter.SameTask c.key before.mqtt st.backend.mqtt ∧ c.key ∈ st.errors

end Stage

/-- What holds of a pair once the loop has passed it. -/
structure Settled (before : MqttBackend) (st : StartCall) (c : MqttPublishConfig) : Prop where
  started : c.key ∉ st.errors → st.backend.Started c
  failed : c.key ∈ st.errors →
    st.backend.db.publishConfigFor c.key = some { c with enabled := false } ∧
      MqttAdapter.SameTask c.key before.mqtt st.backend.mqtt

/-- What holds of all pairs but the current one. -/
structure Others (before : MqttBackend) (finished : List MqttPublishConfig)
    (current : Option MqttPublishConfig) (st : StartCall) : Prop where
  untouched : ∀ key, (∀ c ∈ finished, c.key ≠ key) → (∀ c ∈ current, c.key ≠ key) →
    before.SamePair key st.backend
  settled : ∀ c ∈ finished, Settled before st c
  errors : ∀ key ∈ st.errors, (∃ c ∈ finished, c.key = key) ∨ ∃ c ∈ current, c.key = key

/-- The invariant of the call. -/
structure Inv (before : MqttBackend) (configs : List MqttPublishConfig) (st : StartCall)
    (finished rest : List MqttPublishConfig) (stage : Stage) : Prop where
  split : configs = finished ++ stage.current.toList ++ rest
  request : stage.Request rest st.request
  others : Others before finished stage.current st
  holds : stage.Holds before st

end StartCall

/-- A step leaves a pair, and a task that runs for it, alone. -/
def MqttBackend.Keeps (key : PublishKey) (s s' : MqttBackend) : Prop :=
  s.SamePair key s' ∧ ∀ config, s.mqtt.Runs key config → s'.mqtt.Runs key config

section Keeps

variable {s s' : MqttBackend} {key k : PublishKey}

theorem MqttBackend.SamePair.trans {s'' : MqttBackend} (h : s.SamePair key s')
    (h' : s'.SamePair key s'') : s.SamePair key s'' :=
  ⟨h'.row.trans h.row, h.task.trans h'.task⟩

theorem keeps_of_samePublish {mqtt : MqttAdapter} (h : MqttAdapter.SamePublish key s.mqtt mqtt) :
    s.Keeps key { s with mqtt } :=
  ⟨⟨rfl, h.sameTask⟩, fun _ => h.runs.2⟩

theorem keeps_background {e : MqttBackend.Background} (h : s.background e = some s')
    (key : PublishKey) : s.Keeps key s' := by
  cases e with
  | reconnectStep broker r opens =>
    obtain ⟨mqtt, hmqtt, rfl⟩ := Option.map_eq_some_iff.1 h
    exact keeps_of_samePublish (MqttAdapter.samePublish_reconnectStep hmqtt)
  | publishStep k t e =>
    obtain ⟨mqtt, hmqtt, rfl⟩ := Option.map_eq_some_iff.1 h
    by_cases hk : key = k
    · subst hk
      obtain ⟨htask, hruns⟩ := MqttAdapter.publishStep_sameTask hmqtt
      exact ⟨⟨rfl, htask⟩, hruns⟩
    · exact keeps_of_samePublish ((MqttAdapter.publishStep_keeps hmqtt).1 key hk)

theorem keeps_setPublishEnabled (on : Bool) (hne : key ≠ k) :
    s.Keeps key { s with db := setPublishEnabled s.db k on } :=
  ⟨⟨publishConfigFor_setPublishEnabled_of_ne on hne, MqttAdapter.SameTask.refl key s.mqtt⟩,
    fun _ => id⟩

end Keeps

namespace StartCall

variable {before backend : MqttBackend} {configs finished rest : List MqttPublishConfig}
  {current : Option MqttPublishConfig} {stage : Stage} {st st' : StartCall}
  {c : MqttPublishConfig}

theorem Settled.keep (h : Settled before st c) (hkeep : st.backend.Keeps c.key st'.backend)
    (herrors : c.key ∈ st'.errors ↔ c.key ∈ st.errors) : Settled before st' c := by
  obtain ⟨hsame, hruns⟩ := hkeep
  constructor
  · intro hno
    obtain ⟨hrow, hrun⟩ := h.started (herrors.not.1 hno)
    exact ⟨hsame.row.trans hrow, hruns c hrun⟩
  · intro hyes
    obtain ⟨hrow, htask⟩ := h.failed (herrors.1 hyes)
    exact ⟨hsame.row.trans hrow, htask.trans hsame.task⟩

/-- The frame rule: a step that is about the current pair. -/
theorem Others.frame (h : Others before finished current st)
    (hne : ∀ c ∈ finished, ∀ d ∈ current, d.key ≠ c.key)
    (hkeep : ∀ key, (∀ d ∈ current, d.key ≠ key) → st.backend.Keeps key st'.backend)
    (herrors : ∀ key, (∀ d ∈ current, d.key ≠ key) → (key ∈ st'.errors ↔ key ∈ st.errors)) :
    Others before finished current st' where
  untouched key hfinished hcurrent :=
    (h.untouched key hfinished hcurrent).trans (hkeep key hcurrent).1
  settled c hc := (h.settled c hc).keep (hkeep c.key (hne c hc)) (herrors c.key (hne c hc))
  errors key hkey := by
    by_cases hcurrent : ∃ c ∈ current, c.key = key
    · exact Or.inr hcurrent
    · have hother : ∀ d ∈ current, d.key ≠ key := fun d hd hdk => hcurrent ⟨d, hd, hdk⟩
      exact h.errors key ((herrors key hother).1 hkey)

theorem Others.keep (h : Others before finished current st)
    (hkeep : ∀ key, st.backend.Keeps key st'.backend) (herrors : st'.errors = st.errors) :
    Others before finished current st' where
  untouched key hfinished hcurrent := (h.untouched key hfinished hcurrent).trans (hkeep key).1
  settled c hc := (h.settled c hc).keep (hkeep c.key) (by rw [herrors])
  errors := herrors ▸ h.errors

theorem Others.begin (h : Others before finished none st) (c : MqttPublishConfig) :
    Others before finished (some c) st where
  untouched key hfinished _ := h.untouched key hfinished nofun
  settled := h.settled
  errors key hkey := (h.errors key hkey).imp_right nofun

theorem Others.finish (h : Others before finished (some c) st) (hc : Settled before st c) :
    Others before (finished ++ [c]) none st where
  untouched key hfinished _ := by
    refine h.untouched key (fun d hd => hfinished d (List.mem_append_left _ hd)) ?_
    rintro _ ⟨⟩
    exact hfinished c (List.mem_append_right _ List.mem_cons_self)
  settled d hd := by
    rcases List.mem_append.1 hd with hd | hd
    · exact h.settled d hd
    · obtain rfl := List.mem_singleton.1 hd
      exact hc
  errors key hkey := by
    refine Or.inl ?_
    rcases h.errors key hkey with ⟨d, hd, hdk⟩ | ⟨_, ⟨⟩, hdk⟩
    · exact ⟨d, List.mem_append_left _ hd, hdk⟩
    · exact ⟨c, List.mem_append_right _ List.mem_cons_self, hdk⟩

section Steps

variable (hkeys : (configs.map (·.key)).Nodup)
  (hrows : ∀ c ∈ configs, before.db.publishConfigFor c.key = some c) {ok : Bool}

include hkeys in
theorem key_ne_of_split (hsplit : configs = finished ++ c :: rest) :
    ∀ d ∈ finished, c.key ≠ d.key := by
  intro d hd heq
  rw [hsplit, List.map_append, List.map_cons] at hkeys
  have hdisjoint := (List.nodup_append.1 hkeys).2.2 d.key (List.mem_map_of_mem hd) c.key
    List.mem_cons_self
  exact hdisjoint heq.symm

/-- A pair that the loop has not come to is in no error. -/
theorem Others.notMem_errors (h : Others before finished none st)
    (hne : ∀ d ∈ finished, c.key ≠ d.key) : c.key ∉ st.errors := by
  intro hmem
  rcases h.errors c.key hmem with ⟨d, hd, hdk⟩ | ⟨_, ⟨⟩, -⟩
  exact hne d hd hdk.symm

include hkeys hrows in
theorem Inv.advance_idle (h : Inv before configs st finished (c :: rest) .idle)
    (hstep : step st (.advance ok) = some st') :
    Inv before configs st' finished rest (.enabled c) ∧ st'.errors = st.errors := by
  obtain ⟨hsplit, hrequest, hothers, -⟩ := h
  rw [Stage.current, Option.toList_none, List.append_nil] at hsplit
  obtain ⟨backend, request, errors⟩ := st
  cases hrequest
  have hne := key_ne_of_split hkeys hsplit
  have hsame : before.SamePair c.key backend :=
    hothers.untouched c.key (fun d hd => (hne d hd).symm) nofun
  have hrow : (setPublishEnabled backend.db c.key true).publishConfigFor c.key =
      some { c with enabled := true } := by
    rw [publishConfigFor_setPublishEnabled_self, hsame.row, hrows c (by simp [hsplit])]
    rfl
  obtain rfl : ({ backend := { backend with db := setPublishEnabled backend.db c.key true }
                  request := { todo := .start { c with enabled := true } :: rest.map .enable }
                  errors } : StartCall) = st' := by
    refine Option.some.inj (Eq.trans ?_ hstep)
    simp [step, MqttBackend.advance, MqttBackend.act, hrow]
  refine ⟨⟨by simp [hsplit, Stage.current], .enabled c, ?_, hrow, hsame.task,
    hothers.notMem_errors hne⟩, rfl⟩
  refine (hothers.begin c).frame (by rintro d hd _ ⟨⟩; exact hne d hd) (fun key hkey => ?_)
    fun _ _ => Iff.rfl
  exact keeps_setPublishEnabled true (hkey c rfl).symm

/-- A call of `start_publishing` that waits for the old task, or has made a new one. -/
theorem Others.called (hsplit : configs = finished ++ c :: rest)
    (hothers : Others before finished (some c) st) (hne : ∀ d ∈ finished, c.key ≠ d.key)
    (hrow : st.backend.db.publishConfigFor c.key = some { c with enabled := true })
    (hno : c.key ∉ st.errors) {mqtt : MqttAdapter}
    {await : MqttAwait (.startPublishing c.key { c with enabled := true })}
    (hsame : ∀ key ≠ c.key, MqttAdapter.SamePublish key st.backend.mqtt mqtt)
    (hends : MqttAdapter.awaits c.key await ∨
      await = .finished true ∧ mqtt.Runs c.key { c with enabled := true })
    (hst' : st' =
      let request := MqttRequest.settle ⟨_, await⟩ (.revert c.key) (rest.map .enable)
      ⟨{ st.backend with mqtt }, request, request.reverting.toList ++ st.errors⟩) :
    ∃ finished' stage', Inv before configs st' finished' rest stage' ∧ st'.errors = st.errors := by
  have hframe : ∀ request, Others before finished (some c)
      ⟨{ st.backend with mqtt }, request, st.errors⟩ := fun request =>
    hothers.frame (by rintro d hd _ ⟨⟩; exact hne d hd)
      (fun key hkey => keeps_of_samePublish (hsame key (hkey c rfl).symm)) fun _ _ => Iff.rfl
  rcases hends with hawait | ⟨rfl, hruns⟩
  · have hsettle : MqttRequest.settle ⟨_, await⟩ (.revert c.key) (rest.map .enable) =
        { running := some (⟨_, await⟩, .revert c.key), todo := rest.map .enable } := by
      refine MqttRequest.settle_eq fun ok hok => ?_
      have hok : await = .finished ok := hok
      rw [hok] at hawait
      exact hawait
    rw [hsettle] at hst'
    subst hst'
    exact ⟨finished, .starting c, ⟨by simp [hsplit, Stage.current], .starting c await hawait,
      hframe _, hrow, hno⟩, rfl⟩
  · subst hst'
    refine ⟨finished ++ [c], .idle, ⟨by simp [hsplit, Stage.current], .idle, ?_, trivial⟩, rfl⟩
    exact (hframe _).finish ⟨fun _ => ⟨hrow, hruns⟩, fun hyes => absurd hyes hno⟩

theorem step_start {backend : MqttBackend} {row : MqttPublishConfig} {mqtt : MqttAdapter}
    {await : MqttAwait (.startPublishing row.key row)}
    (h : backend.mqtt.begin (.startPublishing row.key row) = (mqtt, await))
    (todo : List MqttAction) (errors : List PublishKey) :
    let request := MqttRequest.settle ⟨_, await⟩ (.revert row.key) todo
    step ⟨backend, { todo := .start row :: todo }, errors⟩ (.advance ok) =
      some ⟨{ backend with mqtt }, request, request.reverting.toList ++ errors⟩ := by
  simp only [step, MqttBackend.advance, MqttBackend.act, MqttBackend.beginCall, h, Option.map_some]

include hkeys in
theorem Inv.advance_enabled (h : Inv before configs st finished rest (.enabled c))
    (hstep : step st (.advance ok) = some st') :
    ∃ finished' stage', Inv before configs st' finished' rest stage' ∧
      st'.errors = if st.backend.mqtt.isBrokerConnected c.key.2 then st.errors
        else c.key :: st.errors := by
  obtain ⟨hsplit, hrequest, hothers, hrow, htask, hno⟩ := h
  obtain ⟨backend, request, errors⟩ := st
  cases hrequest
  have hsplit' : configs = finished ++ c :: rest := by simpa [Stage.current] using hsplit
  have hne := key_ne_of_split hkeys hsplit'
  cases hconnected : backend.mqtt.isBrokerConnected c.key.2 with
  | false =>
    have hbegin : backend.mqtt.begin (.startPublishing c.key { c with enabled := true }) =
        (backend.mqtt, .finished false) := if_neg (by simp [hconnected])
    obtain rfl : ({ backend, request := { reverting := some c.key, todo := rest.map .enable }
                    errors := c.key :: errors } : StartCall) = st' :=
      Option.some.inj ((step_start hbegin (rest.map .enable) errors).symm.trans hstep)
    refine ⟨finished, .reverting c,
      ⟨hsplit, .reverting c, ?_, hrow, htask, List.mem_cons_self⟩, rfl⟩
    refine hothers.frame (by rintro d hd _ ⟨⟩; exact hne d hd) (fun key hkey => ?_)
      fun key hkey => ?_
    · exact keeps_of_samePublish (MqttAdapter.SamePublish.refl key _)
    · rw [List.mem_cons, or_iff_right (hkey c rfl).symm]
  | true =>
    have hsame : ∀ key ≠ c.key, MqttAdapter.SamePublish key backend.mqtt
        (backend.mqtt.begin (.startPublishing c.key { c with enabled := true })).1 :=
      fun key hkey => MqttAdapter.samePublish_begin (decide_eq_false hkey)
    have hends := @MqttAdapter.start_begin backend.mqtt c.key { c with enabled := true }
    rw [← or_assoc, or_iff_left (fun h => by simp [hconnected] at h)] at hends
    exact hothers.called hsplit' hne hrow hno hsame hends
      (Option.some.inj ((step_start rfl (rest.map .enable) errors).symm.trans hstep)).symm

include hkeys in
theorem Inv.advance_starting (h : Inv before configs st finished rest (.starting c))
    (hstep : step st (.advance ok) = some st') :
    ∃ finished' stage', Inv before configs st' finished' rest stage' ∧
      st'.errors = st.errors := by
  obtain ⟨hsplit, hrequest, hothers, hrow, hno⟩ := h
  obtain ⟨backend, request, errors⟩ := st
  obtain ⟨await, hawait⟩ : ∃ await, MqttAdapter.awaits c.key await ∧
      request = { running := some (⟨.startPublishing c.key { c with enabled := true }, await⟩,
        .revert c.key), todo := rest.map .enable } := by
    cases hrequest with
    | starting _ await hawait => exact ⟨await, hawait, rfl⟩
  obtain ⟨hawait, rfl⟩ := hawait
  have hsplit' : configs = finished ++ c :: rest := by simpa [Stage.current] using hsplit
  have hne := key_ne_of_split hkeys hsplit'
  obtain ⟨⟨backend', request'⟩, hadvance, rfl⟩ := Option.map_eq_some_iff.1 hstep
  obtain ⟨⟨mqtt, await'⟩, hresume, heq⟩ := Option.map_eq_some_iff.1 hadvance
  obtain ⟨rfl, rfl⟩ := Prod.mk.inj heq
  have hsame : ∀ key ≠ c.key, MqttAdapter.SamePublish key backend.mqtt mqtt := by
    intro key hkey
    have hother : (MqttCall.startPublishing c.key { c with enabled := true }).cancels key = false :=
      decide_eq_false hkey
    exact MqttAdapter.samePublish_resume hother hresume
  exact hothers.called hsplit' hne hrow hno hsame (MqttAdapter.start_resume hawait hresume) rfl

include hkeys in
theorem Inv.advance_reverting (h : Inv before configs st finished rest (.reverting c))
    (hstep : step st (.advance ok) = some st') :
    Inv before configs st' (finished ++ [c]) rest .idle ∧ st'.errors = st.errors := by
  obtain ⟨hsplit, hrequest, hothers, hrow, htask, hyes⟩ := h
  obtain ⟨backend, request, errors⟩ := st
  cases hrequest
  have hsplit' : configs = finished ++ c :: rest := by simpa [Stage.current] using hsplit
  have hne := key_ne_of_split hkeys hsplit'
  obtain rfl := Option.some.inj hstep
  refine ⟨⟨by simp [hsplit', Stage.current], .idle, ?_, trivial⟩, rfl⟩
  refine Others.finish (hothers.frame (by rintro d hd _ ⟨⟩; exact hne d hd) (fun key hkey => ?_)
    fun _ _ => Iff.rfl) ⟨fun hno => absurd hyes hno, fun _ => ⟨?_, htask⟩⟩
  · exact keeps_setPublishEnabled false (hkey c rfl).symm
  · refine (publishConfigFor_setPublishEnabled_self false).trans ?_
    rw [hrow]
    rfl

theorem Inv.background {e : MqttBackend.Background}
    (h : Inv before configs st finished rest stage) (hstep : step st (.background e) = some st') :
    Inv before configs st' finished rest stage ∧ st'.errors = st.errors := by
  obtain ⟨hsplit, hrequest, hothers, hholds⟩ := h
  obtain ⟨backend, hbackend, rfl⟩ := Option.map_eq_some_iff.1 hstep
  have hkeep := keeps_background hbackend
  refine ⟨⟨hsplit, hrequest, hothers.keep hkeep rfl, ?_⟩, rfl⟩
  cases stage with
  | idle => trivial
  | enabled c =>
    obtain ⟨hrow, htask, hno⟩ := hholds
    exact ⟨(hkeep c.key).1.row.trans hrow, htask.trans (hkeep c.key).1.task, hno⟩
  | starting c => exact ⟨(hkeep c.key).1.row.trans hholds.1, hholds.2⟩
  | reverting c =>
    obtain ⟨hrow, htask, hyes⟩ := hholds
    exact ⟨(hkeep c.key).1.row.trans hrow, htask.trans (hkeep c.key).1.task, hyes⟩

/-- No pair that was enabled is in the errors. -/
def Harmless (configs : List MqttPublishConfig) (st : StartCall) : Prop :=
  ∀ c ∈ configs, c.key ∈ st.errors → c.enabled = false

theorem harmless_of_same {a : StartEvent} (herrors : st'.errors = st.errors)
    (h : ¬ Loses configs st a) :
    Harmless configs st' ↔ Harmless configs st ∧ ¬ Loses configs st a := by
  rw [and_iff_left h, Harmless, Harmless, herrors]

theorem not_loses (hrequest : stage.Request rest st.request) (hstage : ∀ c, stage ≠ .enabled c) :
    ¬ Loses configs st (.advance ok) := by
  rintro ⟨config, todo, heq, -⟩
  generalize st.request = request at hrequest heq
  cases hrequest with
  | idle =>
    cases rest with
    | nil => cases heq
    | cons c rest => cases heq
  | enabled c => exact hstage c rfl
  | starting => cases heq
  | reverting => cases heq

include hkeys in
theorem harmless_enabled_iff (h : Inv before configs st finished rest (.enabled c))
    (herrors : st'.errors = if st.backend.mqtt.isBrokerConnected c.key.2 then st.errors
      else c.key :: st.errors) :
    Harmless configs st' ↔ Harmless configs st ∧ ¬ Loses configs st (.advance ok) := by
  obtain ⟨hsplit, hrequest, -, -⟩ := h
  have hc : c ∈ configs := by simp [hsplit, Stage.current]
  have hloses : Loses configs st (.advance ok) ↔
      st.backend.mqtt.isBrokerConnected c.key.2 = false ∧ c.enabled = true := by
    generalize hr : st.request = request at hrequest
    cases hrequest
    constructor
    · rintro ⟨config, todo, heq, hconnected, d, hd, hdk, hon⟩
      obtain ⟨⟨⟩, -⟩ := List.cons.inj (congrArg MqttRequest.todo (hr.symm.trans heq))
      obtain rfl := List.inj_on_of_nodup_map hkeys hd hc hdk
      exact ⟨hconnected, hon⟩
    · exact fun ⟨hconnected, hon⟩ => ⟨_, _, hr, hconnected, c, hc, rfl, hon⟩
  rw [hloses]
  cases hconnected : st.backend.mqtt.isBrokerConnected c.key.2 with
  | true =>
    rw [hconnected, if_pos rfl] at herrors
    rw [Harmless, herrors]
    exact (and_iff_left (by simp)).symm
  | false =>
    rw [hconnected, if_neg Bool.false_ne_true] at herrors
    rw [Harmless, herrors]
    constructor
    · intro h
      have hoff := h c hc List.mem_cons_self
      exact ⟨fun d hd hdk => h d hd (List.mem_cons_of_mem _ hdk), by simp [hoff]⟩
    · rintro ⟨h, hoff⟩ d hd hdk
      rcases List.mem_cons.1 hdk with heq | hdk
      · obtain rfl := List.inj_on_of_nodup_map hkeys hd hc heq
        simpa using hoff
      · exact h d hd hdk

include hkeys hrows in
/-- A step keeps the invariant, and harms a pair exactly if it loses one. -/
theorem Inv.step {a : StartEvent} (h : Inv before configs st finished rest stage)
    (hstep : st.step a = some st') :
    (∃ finished' rest' stage', Inv before configs st' finished' rest' stage') ∧
      (Harmless configs st' ↔ Harmless configs st ∧ ¬ Loses configs st a) := by
  cases a with
  | background e =>
    obtain ⟨hinv, herrors⟩ := h.background hstep
    exact ⟨⟨_, _, _, hinv⟩, harmless_of_same herrors id⟩
  | advance ok =>
    cases stage with
    | idle =>
      cases rest with
      | nil =>
        obtain ⟨backend, request, errors⟩ := st
        obtain ⟨-, ⟨⟩, -, -⟩ := h
        cases hstep
      | cons c rest =>
        obtain ⟨hinv, herrors⟩ := h.advance_idle hkeys hrows hstep
        exact ⟨⟨_, _, _, hinv⟩, harmless_of_same herrors (not_loses h.request nofun)⟩
    | enabled c =>
      obtain ⟨finished', stage', hinv, herrors⟩ := h.advance_enabled hkeys hstep
      exact ⟨⟨_, _, _, hinv⟩, harmless_enabled_iff hkeys h herrors⟩
    | starting c =>
      obtain ⟨finished', stage', hinv, herrors⟩ := h.advance_starting hkeys hstep
      exact ⟨⟨_, _, _, hinv⟩, harmless_of_same herrors (not_loses h.request nofun)⟩
    | reverting c =>
      obtain ⟨hinv, herrors⟩ := h.advance_reverting hkeys hstep
      exact ⟨⟨_, _, _, hinv⟩, harmless_of_same herrors (not_loses h.request nofun)⟩

end Steps

theorem inv_start {settings : Settings} {device : UUID} {broker : Option UUID}
    (h : targetConfigs before.db device broker = .ok configs) :
    Inv before configs (start settings before device broker) [] configs .idle := by
  have hstart : start settings before device broker =
      ⟨before, { todo := configs.map .enable }, []⟩ := by
    rw [start, MqttBackend.begin, h]
  rw [hstart]
  refine ⟨rfl, .idle, ⟨fun key _ _ => ?_, nofun, nofun⟩, trivial⟩
  exact ⟨rfl, MqttAdapter.SameTask.refl key _⟩

theorem targetConfigs_nodup {db : Database} {device : UUID} {broker : Option UUID}
    (hkeys : (db.mqttPublishConfigs.map (·.key)).Nodup)
    (h : targetConfigs db device broker = .ok configs) : (configs.map (·.key)).Nodup := by
  have hlist : (listPublishConfigs db device).Pairwise fun c d => c.key ≠ d.key := by
    rw [listPublishConfigs, List.pairwise_map]
    refine ((List.mergeSort_perm _ _).pairwise_iff fun h => Ne.symm h).2 ?_
    refine List.pairwise_filterMap.2 (((List.pairwise_map.1 hkeys).filter _).imp ?_)
    intro c d hne p hp q hq
    obtain ⟨_, -, rfl⟩ := Option.map_eq_some_iff.1 hp
    obtain ⟨_, -, rfl⟩ := Option.map_eq_some_iff.1 hq
    exact hne
  unfold targetConfigs at h
  simp only at h
  split at h
  next => cases h
  next =>
    obtain rfl := Except.ok.inj h
    exact List.pairwise_map.2 (hlist.filter _)

/-- Once the call has returned, a failed pair is as it was exactly if it was not enabled. -/
theorem Inv.perPair_iff (h : Inv before configs st finished rest stage)
    (hrows : ∀ c ∈ configs, before.db.publishConfigFor c.key = some c)
    (hdone : st.request.Done) :
    PerPair before configs st ↔ Harmless configs st := by
  obtain ⟨hsplit, hrequest, hothers, -⟩ := h
  obtain ⟨backend, request, errors⟩ := st
  obtain ⟨hreverting, hrunning, htodo⟩ := hdone
  obtain ⟨rfl, rfl⟩ : stage = .idle ∧ rest = [] := by
    cases hrequest with
    | idle => exact ⟨rfl, List.map_eq_nil_iff.1 htodo⟩
    | enabled => cases htodo
    | starting => cases hrunning
    | reverting => cases hreverting
  obtain rfl : configs = finished := by simpa [Stage.current] using hsplit
  constructor
  · intro h c hc hmem
    have hrow := (h.failed c hc hmem).row
    rw [((hothers.settled c hc).failed hmem).1, hrows c hc] at hrow
    have hoff := congrArg (Option.map MqttPublishConfig.enabled) hrow
    simpa using hoff.symm
  · intro h
    refine ⟨fun c hc => (hothers.settled c hc).started, fun c hc hmem => ?_, fun key hkey => ?_⟩
    · obtain ⟨hrow, htask⟩ := (hothers.settled c hc).failed hmem
      refine ⟨?_, htask⟩
      rw [hrow, hrows c hc, ← h c hc hmem]
    · exact hothers.untouched key hkey nofun

/-- In every run of a start call beside the background tasks: once it has returned, every pair is
as it should be exactly if no pair that was enabled has been found without a connected broker. -/
theorem start_perPair_iff {settings : Settings} {device : UUID} {broker : Option UUID}
    {events : List StartEvent} (hkeys : (before.db.mqttPublishConfigs.map (·.key)).Nodup)
    (htargets : targetConfigs before.db device broker = .ok configs)
    (hrun : exec step (start settings before device broker) events = some st)
    (hdone : st.request.Done) :
    PerPair before configs st ↔
      EachStep step (fun st a _ => ¬ Loses configs st a)
        (start settings before device broker) events := by
  have hnodup := targetConfigs_nodup hkeys htargets
  have hrows : ∀ c ∈ configs, before.db.publishConfigFor c.key = some c := fun c hc =>
    (Table.find_eq_some_iff hkeys).2 ⟨mem_targetConfigs htargets hc, rfl⟩
  have hspec : ∀ st a st', (∃ finished rest stage, Inv before configs st finished rest stage) →
      step st a = some st' →
      (∃ finished rest stage, Inv before configs st' finished rest stage) ∧
        (Harmless configs st' ↔ Harmless configs st ∧ ¬ Loses configs st a) := by
    rintro st a st' ⟨finished, rest, stage, h⟩ hstep
    exact h.step hnodup hrows hstep
  have hstart := @inv_start _ _ settings device broker htargets
  have hJ := fun st a st' h hstep => (hspec st a st' h hstep).1
  obtain ⟨finished, rest, stage, hinv⟩ := exec_invariant hJ ⟨_, _, _, hstart⟩ hrun
  rw [hinv.perPair_iff hrows hdone, exec_iff_eachStep (P := Harmless configs) hJ
    (fun st a st' h hstep => (hspec st a st' h hstep).2) ⟨_, _, _, hstart⟩ hrun]
  refine and_iff_right fun c _ hmem => ?_
  obtain ⟨d, ⟨⟩, -⟩ | ⟨d, ⟨⟩, -⟩ := hstart.others.errors c.key hmem

def cloud : MqttBrokerSettings := { MqttRun.localhost with id := 2, name := "plant" }

def cloudConfig : MqttPublishConfig := { meterConfig false with id := 10, brokerId := 2 }

/-- A device with two pairs, of which only the second has a connected broker. -/
def twoBrokers : MqttBackend where
  db := { workshop .running false with
    mqttBrokers := [MqttRun.localhost, cloud]
    mqttPublishConfigs := [meterConfig false, cloudConfig]
    nextId := 11 }
  mqtt := { brokerInfo := Dict.empty.set 2 ⟨"plant", "localhost", 1883, true⟩ }

theorem targetConfigs_twoBrokers :
    targetConfigs twoBrokers.db 7 none = .ok [meterConfig false, cloudConfig] := by
  have hsorted : ([(meterConfig false, "local"), (cloudConfig, "plant")].mergeSort
      (·.2 ≤ ·.2)).map Prod.fst = [meterConfig false, cloudConfig] := by
    rw [List.mergeSort_of_pairwise]
    · rfl
    · exact List.pairwise_pair.2 (by decide)
  rw [targetConfigs, show listPublishConfigs twoBrokers.db 7 = _ from hsorted]
  rfl

def retries : List StartEvent :=
  [.advance true, .advance true, .advance true, .advance true, .advance true]

/-- The first pair fails, and the second one is started. -/
theorem start_perPair_iff_retry : ∃ st, exec step (start {} twoBrokers 7 none) retries = some st ∧
    st.errors = [(7, 1)] ∧ PerPair twoBrokers [meterConfig false, cloudConfig] st := by
  have hrun : ∃ st, exec step (start {} twoBrokers 7 none) retries = some st ∧
      st.errors = [(7, 1)] ∧ st.request.Done := by
    simp only [start, MqttBackend.begin, targetConfigs_twoBrokers]
    exact ⟨_, rfl, rfl, by decide⟩
  obtain ⟨st, hrun, herrors, hdone⟩ := hrun
  refine ⟨st, hrun, herrors, ?_⟩
  refine (start_perPair_iff (by decide) targetConfigs_twoBrokers hrun hdone).2 ?_
  have hoff : ∀ c ∈ [meterConfig false, cloudConfig], c.enabled = false := by decide
  refine (eachStep_true _ _).mono fun st a _ _ hloses => ?_
  cases a with
  | advance ok =>
    obtain ⟨config, todo, -, -, c, hc, -, henabled⟩ := hloses
    exact absurd henabled (by simp [hoff c hc])
  | background e => exact hloses

/-- An enabled pair with a publish task, whose broker is not connected. -/
def disconnected : MqttBackend where
  db := workshop .running true
  mqtt := MqttAdapter.registerPublish {} (7, 1) (meterConfig true)

def retry : List StartEvent := [.advance true, .advance true, .advance true]

theorem exec_retry : exec step (start {} disconnected 7 none) retry =
    some ⟨{ disconnected with db := workshop .running false }, {}, [(7, 1)]⟩ := by
  simp only [start, MqttBackend.begin, disconnected, targetConfigs_workshop]
  rfl

/-- A start that fails for a pair that was enabled: its flag is cleared, and its task goes on. -/
theorem failure_disables : ¬ ∀ settings before device broker configs st events,
    (before.db.mqttPublishConfigs.map (·.key)).Nodup →
    targetConfigs before.db device broker = .ok configs →
    exec step (start settings before device broker) events = some st → st.request.Done →
    PerPair before configs st := by
  intro h
  have hpair := h {} disconnected 7 none _ _ retry (by decide)
    (targetConfigs_workshop .running true) exec_retry (by decide)
  have hrow := (hpair.failed (meterConfig true) List.mem_cons_self List.mem_cons_self).row
  exact absurd (congrArg (Option.map MqttPublishConfig.enabled) hrow) (by decide)

end StartCall

end GhostMeter
