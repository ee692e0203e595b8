import GhostMeter.Services.ImportTemplates

/-! The second step of an import: what it makes of the devices, by their slave ids and ports. -/

namespace GhostMeter

open GhostMeter.Lib GhostMeter.Simulation GhostMeter.Protocols GhostMeter.Schemas

def Schemas.DeviceExport.key (d : DeviceExport) : ℤ × ℤ := (d.slaveId, d.port)

namespace Services

/-- The last listing under the key. -/
def lastListed (done : List DeviceExport) (key : ℤ × ℤ) : Option DeviceExport :=
  Table.find DeviceExport.key done.reverse key

/-- The last listing with the name. -/
def lastNamed (done : List DeviceExport) (name : String) : Option DeviceExport :=
  Table.find DeviceExport.name done.reverse name

theorem lastListed_append (done : List DeviceExport) (e : DeviceExport) (key : ℤ × ℤ) :
    lastListed (done ++ [e]) key = if e.key = key then some e else lastListed done key := by
  simp [lastListed, Table.find_cons]

theorem lastNamed_append (done : List DeviceExport) (e : DeviceExport) (name : String) :
    lastNamed (done ++ [e]) name = if e.name = name then some e else lastNamed done name := by
  simp [lastNamed, Table.find_cons]

/-- The row is what the listing says, and otherwise what it was before. -/
structure Listed (s₁ : ImportState) (e : DeviceExport) (d : DeviceInstance) : Prop where
  name : d.name = e.name
  template : s₁.templateNameToId e.templateName = some d.templateId
  description : d.description = e.description
  status : d.status = match s₁.db.deviceAt e.key with
    | some d₀ => if d₀.status = .running then .stopped else d₀.status
    | none => .stopped
  id : match s₁.db.deviceAt e.key with
    | some d₀ => d.id = d₀.id
    | none => s₁.db.nextId ≤ d.id

/-- The state of an import that has been through the devices `done`, from `s₁`. -/
structure DevicesDone (s₁ : ImportState) (done : List DeviceExport) (s : ImportState) : Prop where
  frame : s.db = { s₁.db with devices := s.db.devices, nextId := s.db.nextId }
  rest : s.templateNameToId = s₁.templateNameToId ∧ s.brokerNameToId = s₁.brokerNameToId ∧
    s.simDevicesCleared = s₁.simDevicesCleared ∧ s.schedDevicesCleared = s₁.schedDevicesCleared
  keyed : s.db.Keyed
  next : s₁.db.nextId ≤ s.db.nextId
  unlisted : ∀ k, lastListed done k = none → s.db.deviceAt k = s₁.db.deviceAt k
  listed : ∀ k e, lastListed done k = some e → ∃ d, s.db.deviceAt k = some d ∧ Listed s₁ e d
  ids : ∀ n, s.deviceNameToId n =
    (lastNamed done n).bind fun e => (s.db.deviceAt e.key).map (·.id)

section Devices

variable {s₁ s s' : ImportState} {done : List DeviceExport} {e : DeviceExport}

theorem devicesDone_nil (h : s₁.db.Keyed) (hnames : s₁.deviceNameToId = Dict.empty) :
    DevicesDone s₁ [] s₁ where
  frame := rfl
  rest := ⟨rfl, rfl, rfl, rfl⟩
  keyed := h
  next := le_rfl
  unlisted _ _ := rfl
  listed k e he := by simp [lastListed, Table.find] at he
  ids n := by rw [hnames]; rfl

theorem lastListed_isSome (h : e ∈ done) : (lastListed done e.key).isSome := by
  rw [Option.isSome_iff_ne_none]
  intro hnone
  exact Table.find_eq_none_iff.1 hnone e (List.mem_reverse.2 h) rfl

theorem DevicesDone.found (h : DevicesDone s₁ done s) (he : e ∈ done) :
    ∃ d, s.db.deviceAt e.key = some d := by
  obtain ⟨e', he'⟩ := Option.isSome_iff_exists.1 (lastListed_isSome he)
  obtain ⟨d, hd, -⟩ := h.listed _ _ he'
  exact ⟨d, hd⟩

/-- A listing sets the row under its key, and its name to that row. -/
theorem DevicesDone.set (h : DevicesDone s₁ done s) {row : DeviceInstance}
    {devices : List DeviceInstance} {next i : UUID} {result : ImportResult} (hi : row.id = i)
    (hset : Table.find DeviceInstance.key devices = Dict.set s.db.deviceAt e.key row)
    (hids : (devices.map (·.id)).Nodup) (hkeys : (devices.map (·.key)).Nodup)
    (htemplates : ∀ d ∈ devices, ∃ t ∈ s.db.templates, t.id = d.templateId)
    (hfresh : ∀ d ∈ devices, d.id < next) (hnext : s.db.nextId ≤ next)
    (hrow : Listed s₁ e row) (hkept : ∀ d, s.db.deviceAt e.key = some d → i = d.id) :
    DevicesDone s₁ (done ++ [e]) { s with
      db := { s.db with devices, nextId := next }
      deviceNameToId := s.deviceNameToId.set e.name i
      result } := by
  have hfind : ∀ k, Table.find DeviceInstance.key devices k =
      if k = e.key then some row else s.db.deviceAt k := fun k => by
    rw [hset, Dict.set_apply]
  exact {
    frame := by
      have := h.frame
      rw [this]
    rest := h.rest
    keyed := { h.keyed with
      deviceIds := hids
      deviceKeys := hkeys
      deviceTemplates := htemplates
      deviceFresh := hfresh
      templateFresh := fun t ht => (h.keyed.templateFresh t ht).trans_le hnext
      registerFresh := fun r hr => (h.keyed.registerFresh r hr).trans_le hnext }
    next := h.next.trans hnext
    unlisted := fun k hk => by
      rw [lastListed_append] at hk
      split at hk
      next => cases hk
      next hne =>
        simp only [Database.deviceAt, hfind, if_neg (Ne.symm hne)]
        exact h.unlisted k hk
    listed := fun k e' he' => by
      rw [lastListed_append] at he'
      simp only [Database.deviceAt, hfind]
      split at he'
      next hk =>
        cases he'
        exact ⟨row, if_pos hk.symm, hrow⟩
      next hne =>
        rw [if_neg (Ne.symm hne)]
        exact h.listed k e' he'
    ids := fun n => by
      rw [lastNamed_append]
      simp only [Dict.set_apply]
      split
      next hn => simp [hn, Database.deviceAt, hfind, hi]
      next hn =>
        rw [if_neg (Ne.symm hn), h.ids n]
        cases hlast : lastNamed done n with
        | none => rfl
        | some e' =>
          have hmem : e' ∈ done := List.mem_reverse.1 (Table.mem_of_find hlast)
          simp only [Option.bind_some, Database.deviceAt, hfind]
          split
          next hk =>
            obtain ⟨d, hd⟩ := h.found hmem
            have hd' : Table.find DeviceInstance.key s.db.devices e'.key = some d := hd
            rw [hd', Option.map_some, Option.map_some, hi, hkept d (hk ▸ hd)]
          next => rfl }

theorem DevicesDone.step (h : DevicesDone s₁ done s)
    (hmapped : ∀ n, s₁.templateNameToId n = (s₁.db.templateNamed n).map (·.id))
    (hs : importDevice s₁.db.deviceAt s e = .ok s') : DevicesDone s₁ (done ++ [e]) s' := by
  unfold importDevice at hs
  have hkey : (e.slaveId, e.port) = e.key := rfl
  have hnames : s.templateNameToId e.templateName = s₁.templateNameToId e.templateName := by
    rw [h.rest.1]
  rw [hkey, hnames] at hs
  cases htemplate : s₁.templateNameToId e.templateName with
  | none => simp [htemplate] at hs
  | some template =>
    simp only [htemplate] at hs
    -- the template that the listing names is there
    have htemplates : ∃ t ∈ s.db.templates, t.id = template := by
      obtain ⟨t, ht, hid⟩ := Option.map_eq_some_iff.1 ((hmapped _).symm.trans htemplate)
      refine ⟨t, ?_, hid⟩
      rw [h.frame]
      exact Table.mem_of_find ht
    cases hold : s₁.db.deviceAt e.key with
    | some d₀ =>
      have hcur : ∃ d, s.db.deviceAt e.key = some d ∧ d.id = d₀.id ∧
          (if d.status = .running then DeviceStatus.stopped else d.status) =
            (if d₀.status = .running then .stopped else d₀.status) := by
        cases hl : lastListed done e.key with
        | none => exact ⟨d₀, (h.unlisted _ hl).trans hold, rfl, rfl⟩
        | some e' =>
          obtain ⟨d, hd, hlisted⟩ := h.listed _ _ hl
          have hk : e'.key = e.key := Table.key_of_find hl
          have hid := hlisted.id
          have hstatus := hlisted.status
          simp only [hk, hold] at hid hstatus
          refine ⟨d, hd, hid, ?_⟩
          rw [hstatus]
          by_cases hrun : d₀.status = .running <;> simp [hrun]
      obtain ⟨d, hd, hid, hstatus⟩ := hcur
      simp only [hold] at hs
      obtain rfl := Except.ok.inj hs
      let f : DeviceInstance → DeviceInstance := fun row => { row with
        name := e.name, templateId := template, description := e.description
        status := if row.status = .running then .stopped else row.status }
      have hset : Table.find DeviceInstance.key
          (Table.update DeviceInstance.key s.db.devices e.key f) =
          Dict.set s.db.deviceAt e.key (f d) := Table.find_update_set f (fun _ => rfl) hd
      have hfid : (f d).id = d₀.id := hid
      have hids : (Table.update DeviceInstance.key s.db.devices e.key f).map (·.id) =
          s.db.devices.map (·.id) := Table.map_update fun _ => rfl
      have hkeys : (Table.update DeviceInstance.key s.db.devices e.key f).map (·.key) =
          s.db.devices.map (·.key) := Table.map_update fun _ => rfl
      refine h.set hfid hset (hids ▸ h.keyed.deviceIds) (hkeys ▸ h.keyed.deviceKeys) ?_ ?_ le_rfl
        ?_ ?_
      · intro x hx
        obtain ⟨x₀, hx₀, rfl⟩ := List.mem_map.1 hx
        split
        · exact htemplates
        · exact h.keyed.deviceTemplates x₀ hx₀
      · intro x hx
        obtain ⟨x₀, hx₀, rfl⟩ := List.mem_map.1 hx
        have := h.keyed.deviceFresh x₀ hx₀
        split <;> exact this
      · exact ⟨rfl, htemplate, rfl, by simpa [hold] using hstatus, by simpa [hold] using hid⟩
      · intro d' hd'
        rw [← hid, Option.some.inj (hd.symm.trans hd')]
    | none =>
      simp only [hold, andThen_ok_iff, constraint_ok_iff] at hs
      obtain ⟨hno, hs⟩ := hs
      obtain rfl := Except.ok.inj hs
      let row : DeviceInstance :=
        ⟨s.db.nextId, template, e.name, e.slaveId, .stopped, e.port, e.description⟩
      have hset : Table.find DeviceInstance.key (s.db.devices ++ [row]) =
          Dict.set s.db.deviceAt e.key row := Table.find_append_new hno
      refine h.set rfl hset ?_ ?_ ?_ ?_ (Nat.le_succ _) ?_ ?_
      · exact Table.nodup_append_new h.keyed.deviceIds fun d hd => (h.keyed.deviceFresh d hd).ne
      · exact Table.nodup_append_new h.keyed.deviceKeys hno
      · intro d hd
        rcases List.mem_append.1 hd with hd | hd
        · exact h.keyed.deviceTemplates d hd
        · rw [List.mem_singleton.1 hd]
          exact htemplates
      · intro d hd
        rcases List.mem_append.1 hd with hd | hd
        · exact (h.keyed.deviceFresh d hd).trans (Nat.lt_succ_self _)
        · rw [List.mem_singleton.1 hd]
          exact Nat.lt_succ_self _
      · exact ⟨rfl, htemplate, rfl, by simp [hold, row], by simpa [hold, row] using h.next⟩
      · intro d hd
        exact absurd (Table.key_of_find hd) (hno d (Table.mem_of_find hd))

theorem devicesDone (h : s₁.db.Keyed) (hnames : s₁.deviceNameToId = Dict.empty)
    (hmapped : ∀ n, s₁.templateNameToId n = (s₁.db.templateNamed n).map (·.id))
    {listed : List DeviceExport} (hs : listed.foldlM (importDevice s₁.db.deviceAt) s₁ = .ok s) :
    DevicesDone s₁ listed s :=
  foldlM_invariant (P := DevicesDone s₁) (fun _ _ _ _ hP hf => hP.step hmapped hf)
    (devicesDone_nil h hnames) hs

end Devices

end Services

end GhostMeter
