import GhostMeter.Lib.Run
import GhostMeter.Protocols.ModbusTcp

/-! Suppressed slaves coming back, in every order of suppressions, restores, and devices
added and removed. -/

namespace GhostMeter.Protocols

open GhostMeter.Lib

/-- The running adapter and the restores that are still asleep. -/
structure ModbusRun where
  adapter : ProtocolAdapter ModbusTcpAdapter
  pending : List Restore := []

inductive ModbusEvent
  | suppress (slave : ℤ)
  | restore (i : ℕ)
  | addDevice (device : UUID) (slave : ℤ) (registers : List RegisterInfo)
  | removeDevice (device : UUID)

namespace ModbusRun

open ModbusTcpAdapter

/-- A server just started. -/
def started : ModbusRun := { adapter := { state := ModbusTcpAdapter.start {} } }

def step (s : ModbusRun) : ModbusEvent → Option ModbusRun
  | .suppress slave =>
    let (state, restore) := s.adapter.state.suppressSlave slave
    some {
      adapter := { s.adapter with state }
      pending := s.pending ++ restore.toList }
  | .restore i => s.pending[i]?.map fun r => {
      adapter := { s.adapter with state := s.adapter.state.restore r }
      pending := s.pending.eraseIdx i }
  | .addDevice device slave registers =>
    some { s with adapter := (s.adapter.addDevice doAddDevice device slave registers).1 }
  | .removeDevice device => some { s with adapter := s.adapter.removeDevice doRemoveDevice device }

/-- The server answers for registered slaves only, each by its own context; and once nothing
waits to be restored, for all of them, by the context that the simulation writes. -/
structure Faithful (s : ModbusRun) : Prop where
  registered : ∀ slave ctx, s.adapter.state.served slave = some ctx →
    s.adapter.state.slaveContexts slave = some ctx
  settled : s.pending = [] → ∀ slave ctx, s.adapter.state.slaveContexts slave = some ctx →
    s.adapter.state.served slave = some ctx ∧
      ∀ device, s.adapter.state.slaveToDevice slave = some device →
        s.adapter.state.updated device = some ctx

/-- A device is not added under a free slave id while it is registered under another. -/
def AddsNew (s : ModbusRun) (e : ModbusEvent) : Prop :=
  ∀ device slave registers, e = .addDevice device slave registers →
    s.adapter.state.slaveContexts slave = none → s.adapter.state.deviceToSlave device = none

/-- A restore that runs finds its slave gone, or registered with the context it captured. -/
def RestoresOwn (s : ModbusRun) (e : ModbusEvent) : Prop :=
  ∀ i r, e = .restore i → s.pending[i]? = some r →
    ∀ ctx, s.adapter.state.slaveContexts r.slave = some ctx → ctx = r.ctx

/-- The invariant: the maps are those of the registered devices, and a registered slave is
served by its context or waits for it to be restored. -/
structure Inv (s : ModbusRun) : Prop where
  started : s.adapter.state.context.isSome
  devices : Dict.Inverse s.adapter.state.deviceToSlave s.adapter.state.slaveToDevice
  contexts : ∀ slave, s.adapter.state.slaveContexts slave = none ↔
    s.adapter.state.slaveToDevice slave = none
  registered : ∀ slave ctx, s.adapter.state.served slave = some ctx →
    s.adapter.state.slaveContexts slave = some ctx
  waiting : ∀ slave ctx, s.adapter.state.slaveContexts slave = some ctx →
    s.adapter.state.served slave = some ctx ∨ ⟨slave, ctx⟩ ∈ s.pending

variable {s s' : ModbusRun} {e : ModbusEvent}

theorem Inv.faithful (h : Inv s) : Faithful s := by
  refine ⟨h.registered, fun hpending slave ctx hctx => ⟨?_, fun device hdevice => ?_⟩⟩
  · simpa [hpending] using h.waiting slave ctx hctx
  · simp [updated, (h.devices device slave).2 hdevice, hctx]

theorem inv_started : Inv started := by
  constructor <;> simp [started, ModbusTcpAdapter.start, served, Dict.Inverse]

theorem Inv.suppress (h : Inv s) {slave : ℤ} (hs : s.step (.suppress slave) = some s') :
    Inv s' := by
  obtain ⟨devices, hdevices⟩ := Option.isSome_iff_exists.1 h.started
  have hserved : s.adapter.state.served = devices := by simp [served, hdevices]
  cases hctx : s.adapter.state.slaveContexts slave with
  | none =>
    simp only [ModbusRun.step, suppressSlave, hdevices, hctx, Option.toList_none,
      List.append_nil] at hs
    cases hs
    exact h
  | some ctx =>
    simp only [ModbusRun.step, suppressSlave, hdevices, hctx, Option.toList_some] at hs
    cases hs
    refine ⟨rfl, h.devices, h.contexts, fun slave' ctx' hs' => ?_, fun slave' ctx' hc' => ?_⟩
    · simp only [served, Option.getD_some, Dict.pop_apply] at hs'
      split at hs'
      · cases hs'
      · exact h.registered slave' ctx' (hserved ▸ hs')
    · by_cases hslave : slave' = slave
      · subst hslave
        obtain rfl : ctx = ctx' := Option.some.inj (hctx.symm.trans hc')
        exact Or.inr (by simp)
      · refine (h.waiting slave' ctx' hc').imp (fun hs' => ?_) fun hp => by simp [hp]
        simpa [served, Dict.pop_of_ne _ hslave] using hserved ▸ hs'

/-- Only the restore that runs stops waiting. -/
theorem mem_eraseIdx_or_eq {l : List Restore} {i : ℕ} {a r : Restore} (hi : l[i]? = some r)
    (ha : a ∈ l) : a ∈ l.eraseIdx i ∨ a = r := by
  obtain ⟨j, hj⟩ := List.mem_iff_getElem?.1 ha
  by_cases hij : j = i
  · subst hij
    exact Or.inr (Option.some.inj (hj.symm.trans hi))
  · exact Or.inl (List.mem_eraseIdx_iff_getElem?.2 ⟨j, hij, hj⟩)

theorem Inv.restore (h : Inv s) {i : ℕ} (hown : RestoresOwn s (.restore i))
    (hs : s.step (.restore i) = some s') : Inv s' := by
  obtain ⟨devices, hdevices⟩ := Option.isSome_iff_exists.1 h.started
  have hserved : s.adapter.state.served = devices := by simp [served, hdevices]
  obtain ⟨r, hr, rfl⟩ := Option.map_eq_some_iff.1 hs
  have hwait : ∀ slave ctx, (⟨slave, ctx⟩ : Restore) ∈ s.pending →
      ⟨slave, ctx⟩ ∈ s.pending.eraseIdx i ∨ r = ⟨slave, ctx⟩ :=
    fun slave ctx hmem => (mem_eraseIdx_or_eq hr hmem).imp_right Eq.symm
  cases hctx : s.adapter.state.slaveContexts r.slave with
  | none =>
    simp only [ModbusTcpAdapter.restore, hdevices, hctx]
    refine ⟨h.started, h.devices, h.contexts, h.registered, fun slave ctx hc => ?_⟩
    refine (h.waiting slave ctx hc).imp_right fun hmem => ?_
    refine (hwait slave ctx hmem).resolve_right ?_
    rintro rfl
    exact absurd (hctx.symm.trans hc) (by simp)
  | some ctx =>
    obtain rfl : ctx = r.ctx := hown i r rfl hr ctx hctx
    simp only [ModbusTcpAdapter.restore, hdevices, hctx]
    refine ⟨rfl, h.devices, h.contexts, fun slave' ctx' hs' => ?_, fun slave' ctx' hc' => ?_⟩
    · simp only [served, Option.getD_some, Dict.set_apply] at hs'
      split at hs'
      next hslave =>
        cases hs'
        exact hslave ▸ hctx
      next => exact h.registered slave' ctx' (hserved ▸ hs')
    · by_cases hslave : slave' = r.slave
      · subst hslave
        exact Or.inl (by simpa [served] using hctx.symm.trans hc')
      · refine (h.waiting slave' ctx' hc').imp (fun hs' => ?_) fun hmem => ?_
        · simpa [served, Dict.set_of_ne _ _ hslave] using hserved ▸ hs'
        · refine (hwait slave' ctx' hmem).resolve_right ?_
          rintro rfl
          exact hslave rfl

theorem Inv.addDevice (h : Inv s) {device : UUID} {slave : ℤ} {registers : List RegisterInfo}
    (hnew : AddsNew s (.addDevice device slave registers))
    (hs : s.step (.addDevice device slave registers) = some s') : Inv s' := by
  obtain ⟨devices, hdevices⟩ := Option.isSome_iff_exists.1 h.started
  have hserved : s.adapter.state.served = devices := by simp [served, hdevices]
  have hstate : s'.adapter.state =
      (s.adapter.state.doAddDevice device slave registers).1 ∧ s'.pending = s.pending := by
    cases hs
    simp
  obtain ⟨hstate, hpending⟩ := hstate
  cases hctx : s.adapter.state.slaveContexts slave with
  | some ctx =>
    have hsame : s'.adapter.state = s.adapter.state := by simp [hstate, doAddDevice, hdevices, hctx]
    exact ⟨hsame ▸ h.started, hsame ▸ h.devices, hsame ▸ h.contexts, hsame ▸ h.registered,
      hsame ▸ hpending ▸ h.waiting⟩
  | none =>
    have hdevice : s.adapter.state.deviceToSlave device = none := hnew _ _ _ rfl hctx
    have hfree : s.adapter.state.slaveToDevice slave = none := (h.contexts slave).1 hctx
    simp only [doAddDevice, hdevices, hctx, Option.isSome_none, Bool.false_eq_true,
      if_false] at hstate
    constructor
    · simp [hstate]
    · simpa only [hstate] using h.devices.set hdevice hfree
    · intro slave'
      simp only [hstate, Dict.set_apply]
      split
      · simp
      · exact h.contexts slave'
    · intro slave' ctx
      simp only [hstate, served, Option.getD_some, Dict.set_apply]
      split
      · exact id
      · exact hserved ▸ h.registered slave' ctx
    · intro slave' ctx
      simp only [hstate, hpending, served, Option.getD_some, Dict.set_apply]
      split
      · exact Or.inl
      · exact hserved ▸ h.waiting slave' ctx

theorem Inv.removeDevice (h : Inv s) {device : UUID}
    (hs : s.step (.removeDevice device) = some s') : Inv s' := by
  obtain ⟨devices, hdevices⟩ := Option.isSome_iff_exists.1 h.started
  have hserved : s.adapter.state.served = devices := by simp [served, hdevices]
  have hstate : s'.adapter.state = s.adapter.state.doRemoveDevice device ∧
      s'.pending = s.pending := by
    cases hs
    simp
  obtain ⟨hstate, hpending⟩ := hstate
  cases hslave : s.adapter.state.deviceToSlave device with
  | none =>
    simp only [doRemoveDevice, hslave] at hstate
    exact ⟨hstate ▸ h.started, hstate ▸ h.devices, hstate ▸ h.contexts, hstate ▸ h.registered,
      hstate ▸ hpending ▸ h.waiting⟩
  | some slave =>
    simp only [doRemoveDevice, hslave, hdevices, Option.map_some] at hstate
    constructor
    · simp [hstate]
    · simpa only [hstate] using h.devices.pop hslave
    · intro slave'
      simp only [hstate, Dict.pop_apply]
      split
      · simp
      · exact h.contexts slave'
    · intro slave' ctx
      simp only [hstate, served, Option.getD_some, Dict.pop_apply]
      split
      · exact id
      · exact hserved ▸ h.registered slave' ctx
    · intro slave' ctx
      simp only [hstate, hpending, served, Option.getD_some, Dict.pop_apply]
      split
      · simp
      · exact hserved ▸ h.waiting slave' ctx

theorem Inv.step (h : Inv s) (hs : s.step e = some s') (hnew : AddsNew s e)
    (hown : RestoresOwn s e) : Inv s' := by
  cases e with
  | suppress slave => exact h.suppress hs
  | restore i => exact h.restore hown hs
  | addDevice device slave registers => exact h.addDevice hnew hs
  | removeDevice device => exact h.removeDevice hs

/-- A restore of a context that is no longer the slave's shows at once. -/
theorem restoresOwn_of_faithful (h : Inv s) (hs : s.step e = some s') (hf : Faithful s') :
    RestoresOwn s e := by
  rintro i r rfl hr ctx hctx
  obtain ⟨devices, hdevices⟩ := Option.isSome_iff_exists.1 h.started
  simp only [ModbusRun.step, hr, Option.map_some, Option.some.injEq] at hs
  subst hs
  have hafter := hf.registered r.slave r.ctx
    (by simp [ModbusTcpAdapter.restore, hdevices, hctx, served])
  simpa [ModbusTcpAdapter.restore, hdevices, hctx] using hafter

/-- In every run in which no registered device is added under another slave id: the server
stays faithful exactly when every restore finds its slave gone or registered with the
context it captured. -/
theorem always_faithful_iff (es : List ModbusEvent)
    (hnew : EachStep step (fun s e _ => AddsNew s e) started es) :
    Always step Faithful started es ↔
      EachStep step (fun s e _ => RestoresOwn s e) started es := by
  rw [Always, and_iff_right inv_started.faithful]
  refine hnew.exchange (J := Inv) ?_ ?_ inv_started
  · exact fun s e s' h hs hnew hown => h.step hs hnew hown
  · exact fun s e s' h hs hnew =>
      ⟨restoresOwn_of_faithful h hs, fun hown => (h.step hs hnew hown).faithful⟩

/-- A slave id is re-used while the restore of its former device sleeps. -/
def reuse : List ModbusEvent := [
  .addDevice 1 1 [], .suppress 1, .removeDevice 1, .addDevice 2 1 [], .restore 0]

theorem always_faithful_suppressed :
    Always step Faithful started [.addDevice 1 1 [], .suppress 1, .restore 0] ↔
      EachStep step (fun s e _ => RestoresOwn s e) started
        [.addDevice 1 1 [], .suppress 1, .restore 0] := by
  refine always_faithful_iff _ ?_
  rintro _ ⟨⟩
  refine ⟨by rintro _ _ _ ⟨⟩ -; rfl, ?_⟩
  rintro _ ⟨⟩
  refine ⟨by rintro _ _ _ ⟨⟩, ?_⟩
  rintro _ ⟨⟩
  exact ⟨(by rintro _ _ _ ⟨⟩), trivial⟩

theorem stale_restore : ¬ ∀ es, Always step Faithful started es := by
  intro h
  have hf := (h reuse).of_exec rfl
  exact absurd (hf.registered 1 0 (by decide)) (by decide)

end ModbusRun

end GhostMeter.Protocols
