import GhostMeter.Integrity
import GhostMeter.Lib.Loop
import GhostMeter.Services.SystemService

/-! The first step of an import: what it makes of the templates, by their names. -/

namespace GhostMeter

open GhostMeter.Lib GhostMeter.Simulation GhostMeter.Protocols GhostMeter.Schemas

namespace Services

theorem find_toRow (registers : List RegisterExport) (name : String) :
    (Table.find RegisterDefinition.name (registers.map (·.toRow)) name).map (·.bare) =
      (Table.find RegisterExport.name registers name).map (·.toRow) := by
  rw [Table.find_map, Option.map_map]
  rfl

/-- The last listing of a user template with the name. -/
def lastUser (done : List TemplateExport) (name : String) : Option TemplateExport :=
  done.reverse.find? fun t => t.name = name ∧ t.isBuiltin = false

theorem lastUser_append (done : List TemplateExport) (t : TemplateExport) (name : String) :
    lastUser (done ++ [t]) name =
      if t.name = name ∧ t.isBuiltin = false then some t else lastUser done name := by
  simp only [lastUser, List.reverse_append, List.reverse_cons, List.reverse_nil, List.nil_append,
    List.singleton_append, List.find?_cons]
  split <;> simp_all

theorem mem_of_lastUser {done : List TemplateExport} {name : String} {t : TemplateExport}
    (h : lastUser done name = some t) : t ∈ done ∧ t.name = name ∧ t.isBuiltin = false := by
  have hp := List.find?_some h
  simp only [decide_eq_true_eq] at hp
  exact ⟨List.mem_reverse.1 (List.mem_of_find?_eq_some h), hp⟩

theorem lastUser_eq_none {done : List TemplateExport} {name : String}
    (h : name ∉ done.map (·.name)) : lastUser done name = none := by
  by_contra hne
  obtain ⟨t, ht⟩ := Option.ne_none_iff_exists'.1 hne
  obtain ⟨hmem, rfl, -⟩ := mem_of_lastUser ht
  exact h (List.mem_map_of_mem hmem)

/-- A template after the import, by the row it had and the last listing of its name. -/
def templateAfter (old : Option DeviceTemplate) : Option TemplateExport → Option DeviceTemplate
  | none => old.map (·.bare)
  | some t => some {
      id := 0, name := t.name, protocol := t.protocol, description := t.description
      isBuiltin := old.elim false (·.isBuiltin) }

/-- The rows of an import that has been through the listings `done`. -/
structure TemplateRows (db₀ : Database) (done : List TemplateExport) (s : ImportState) :
    Prop where
  frame : s.db = { db₀ with
    templates := s.db.templates, registers := s.db.registers, nextId := s.db.nextId }
  rest : s.deviceNameToId = Dict.empty ∧ s.brokerNameToId = Dict.empty ∧
    s.simDevicesCleared = [] ∧ s.schedDevicesCleared = []
  keyed : s.db.Keyed
  next : db₀.nextId ≤ s.db.nextId
  named : ∀ n, (s.db.templateNamed n).map (·.bare) =
    templateAfter (db₀.templateNamed n) (lastUser done n)
  kept : ∀ n t, db₀.templateNamed n = some t → ∃ t', s.db.templateNamed n = some t' ∧ t'.id = t.id
  created : ∀ n t, db₀.templateNamed n = none → s.db.templateNamed n = some t → db₀.nextId ≤ t.id
  registers : ∀ n t r, s.db.templateNamed n = some t →
    (s.db.registerNamed (t.id, r)).map (·.bare) =
      match lastUser done n with
      | some e => (Table.find RegisterExport.name e.registers r).map (·.toRow)
      | none => (db₀.registerNamed (t.id, r)).map (·.bare)

/-- The state of an import that has been through `done`: the names listed are mapped. -/
structure TemplatesDone (db₀ : Database) (done : List TemplateExport) (s : ImportState) :
    Prop extends TemplateRows db₀ done s where
  ids : ∀ n, s.templateNameToId n =
    if n ∈ done.map (·.name) then (s.db.templateNamed n).map (·.id) else none

/-- The templates of an import, with every name mapped. -/
structure TemplatesImported (db₀ : Database) (listed : List TemplateExport) (s : ImportState) :
    Prop extends TemplateRows db₀ listed s where
  mapped : ∀ n, s.templateNameToId n = (s.db.templateNamed n).map (·.id)

section Templates

variable {db₀ : Database} {done : List TemplateExport} {s s' : ImportState} {t : TemplateExport}

theorem templatesDone_nil (h : db₀.Keyed) : TemplatesDone db₀ [] { db := db₀ } where
  frame := rfl
  rest := ⟨rfl, rfl, rfl, rfl⟩
  keyed := h
  next := le_rfl
  named _ := rfl
  kept _ t ht := ⟨t, ht, rfl⟩
  created n t hnone ht := by simp [hnone] at ht
  registers _ _ _ _ := rfl
  ids n := by simp

/-- A listing of a built-in template changes no row. -/
theorem TemplatesDone.builtin (h : TemplatesDone db₀ done s) (ht : t.isBuiltin = true)
    (hs : importTemplate db₀.templateNamed s t = .ok s') : TemplatesDone db₀ (done ++ [t]) s' := by
  have hlast : ∀ n, lastUser (done ++ [t]) n = lastUser done n := fun n => by
    simp [lastUser_append, ht]
  unfold importTemplate at hs
  rw [ht] at hs
  obtain rfl := Except.ok.inj hs
  refine { h with named := fun n => ?_, registers := fun n t' r ht' => ?_, ids := fun n => ?_ }
  · rw [hlast]
    exact h.named n
  · rw [hlast]
    exact h.registers n t' r ht'
  · have hn := h.ids n
    simp only [List.map_append, List.map_cons, List.map_nil, List.mem_append, List.mem_singleton]
    cases hfound : db₀.templateNamed t.name with
    | none =>
      by_cases hmem : n ∈ done.map (·.name)
      · simp [hn, hmem]
      · have hnone : db₀.templateNamed n = none → s.db.templateNamed n = none := fun h₀ => by
          simpa [h₀, lastUser_eq_none hmem, templateAfter] using h.named n
        simp only [hn, if_neg hmem]
        split
        next heq =>
          rw [hnone]
          · rfl
          · rwa [heq.resolve_left hmem]
        next => rfl
    | some e =>
      obtain ⟨t', ht', hid⟩ := h.kept _ _ hfound
      simp only [Dict.set_apply]
      split
      next heq => simp [heq, ht', hid]
      next heq => simp [heq, hn]

/-- A listing of a user template: its row, old or new, gets the listed values, and its
registers are replaced. -/
theorem TemplatesDone.user (h : TemplatesDone db₀ done s) (ht : t.isBuiltin = false)
    {row : DeviceTemplate} {templates : List DeviceTemplate} {next i : UUID}
    {result : ImportResult} (hi : row.id = i)
    (hnamed : Table.find DeviceTemplate.name templates =
      Dict.set s.db.templateNamed t.name row)
    (hrow : some row.bare = templateAfter (db₀.templateNamed t.name) (some t))
    (hids : (templates.map (·.id)).Nodup) (hnames : (templates.map (·.name)).Nodup)
    (hmem : ∀ x ∈ s.db.templates, ∃ x' ∈ templates, x'.id = x.id)
    (hfresh : ∀ x ∈ templates, x.id < next) (hnext : s.db.nextId ≤ next)
    (hkept : ∀ t', db₀.templateNamed t.name = some t' → i = t'.id)
    (hcreated : db₀.templateNamed t.name = none → db₀.nextId ≤ i)
    (rows : List RegisterDefinition)
    (hrows : ∃ n, rows = registerRows i n (t.registers.map (·.toRow))) :
    TemplatesDone db₀ (done ++ [t]) { s with
      db := { s.db with
        templates
        registers := (s.db.registers.filter (·.templateId ≠ i)) ++ rows
        nextId := next }
      templateNameToId := s.templateNameToId.set t.name i
      result } := by
  subst hi
  have hlast : ∀ n, lastUser (done ++ [t]) n = if n = t.name then some t else lastUser done n := by
    intro n
    simp [lastUser_append, ht, eq_comm]
  have hfind : ∀ n, (Table.find DeviceTemplate.name templates) n =
      if n = t.name then some row else s.db.templateNamed n := fun n => by
    rw [hnamed, Dict.set_apply]
  have hrowmem : row ∈ templates ∧ row.name = t.name :=
    (Table.find_eq_some_iff hnames).1 ((hfind t.name).trans (if_pos rfl))
  obtain ⟨n₀, rfl⟩ := hrows
  exact {
    frame := by
      have := h.frame
      rw [this]
    rest := h.rest
    keyed := {
      templateIds := hids
      templateNames := hnames
      deviceIds := h.keyed.deviceIds
      deviceKeys := h.keyed.deviceKeys
      deviceTemplates := fun d hd => by
        obtain ⟨x, hx, hxid⟩ := h.keyed.deviceTemplates d hd
        obtain ⟨x', hx', hxid'⟩ := hmem x hx
        exact ⟨x', hx', hxid'.trans hxid⟩
      templateFresh := hfresh
      deviceFresh := fun d hd => (h.keyed.deviceFresh d hd).trans_le hnext
      registerFresh := fun r hr => by
        rcases List.mem_append.1 hr with hr | hr
        · exact (h.keyed.registerFresh r (List.mem_of_mem_filter hr)).trans_le hnext
        · exact registerRows_template hr ▸ hfresh row hrowmem.1 }
    next := h.next.trans hnext
    named := fun n => by
      rw [hlast]
      simp only [Database.templateNamed, hfind]
      split
      next hn => exact hn ▸ hrow
      next => exact h.named n
    kept := fun n t' ht' => by
      simp only [Database.templateNamed, hfind]
      split
      next hn => exact ⟨row, rfl, hkept t' (hn ▸ ht')⟩
      next => exact h.kept n t' ht'
    created := fun n t' hnone ht' => by
      simp only [Database.templateNamed, hfind] at ht'
      split at ht'
      next hn =>
        cases ht'
        exact hcreated (hn ▸ hnone)
      next => exact h.created n t' hnone ht'
    ids := fun n => by
      have hn' := h.ids n
      simp only [Database.templateNamed, hfind, Dict.set_apply, List.map_append, List.map_cons,
        List.map_nil, List.mem_append, List.mem_singleton]
      split
      next hn => simp [hn]
      next hn => simp only [hn', or_iff_left hn, Database.templateNamed]
    registers := fun n t' r ht' => by
      rw [hlast]
      simp only [Database.templateNamed, hfind] at ht'
      have hsplit : ∀ i, Table.find RegisterDefinition.key
          (s.db.registers.filter (·.templateId ≠ row.id)) (i, r) =
          if i = row.id then none else s.db.registerNamed (i, r) := fun i =>
        Table.find_filter Prod.fst row.id
      simp only [Database.registerNamed, Table.find_append, hsplit]
      split at ht'
      next hn =>
        cases ht'
        simpa [hn] using (find_registerRows r).trans (find_toRow t.registers r)
      next hn =>
        have hold := (Table.find_eq_some_iff hnames).1 ((hfind n).trans ((if_neg hn).trans ht'))
        have hne : t'.id ≠ row.id := fun hid => hn (by
          rw [← hold.2, List.inj_on_of_nodup_map hids hold.1 hrowmem.1 hid, hrowmem.2])
        rw [if_neg hne, find_registerRows_of_ne hne, Option.or_none, if_neg hn]
        exact h.registers n t' r ht' }

theorem TemplatesDone.step (h : TemplatesDone db₀ done s)
    (hs : importTemplate db₀.templateNamed s t = .ok s') : TemplatesDone db₀ (done ++ [t]) s' := by
  cases ht : t.isBuiltin with
  | true => exact h.builtin ht hs
  | false =>
    unfold importTemplate at hs
    rw [ht] at hs
    cases hfound : db₀.templateNamed t.name with
    | some e =>
      obtain ⟨e', he', hid⟩ := h.kept _ _ hfound
      simp only [hfound, bind_ok_iff, insertRegisters_ok_iff] at hs
      obtain ⟨db, ⟨-, -, rfl⟩, hs⟩ := hs
      obtain rfl := Except.ok.inj hs
      let f : DeviceTemplate → DeviceTemplate := fun row =>
        { row with protocol := t.protocol, description := t.description }
      have hset : Table.find DeviceTemplate.name
          (Table.update DeviceTemplate.name s.db.templates t.name f) =
          Dict.set s.db.templateNamed t.name (f e') := Table.find_update_set f (fun _ => rfl) he'
      have hfid : (f e').id = e.id := hid
      have hids : (Table.update DeviceTemplate.name s.db.templates t.name f).map (·.id) =
          s.db.templates.map (·.id) := Table.map_update fun _ => rfl
      have hnames : (Table.update DeviceTemplate.name s.db.templates t.name f).map (·.name) =
          s.db.templates.map (·.name) := Table.map_update fun _ => rfl
      have hbuiltin : e'.isBuiltin = e.isBuiltin := by
        have hbare := h.named t.name
        rw [he', hfound] at hbare
        cases hl : lastUser done t.name <;> rw [hl] at hbare <;>
          simpa [templateAfter, DeviceTemplate.bare] using
            congrArg (Option.map DeviceTemplate.isBuiltin) hbare
      have hname : e'.name = t.name := Table.key_of_find he'
      refine h.user ht hfid hset ?_ ?_ ?_ (fun x hx => ⟨_, Table.mem_update hx, ?_⟩) ?_
        (Nat.le_add_right _ _) (fun t' ht' => by rw [Option.some.inj (hfound.symm.trans ht')])
        (fun hnone => by simp [hfound] at hnone) _ ⟨_, rfl⟩
      · simp [templateAfter, hfound, DeviceTemplate.bare, hbuiltin, hname, f]
      · exact hids ▸ h.keyed.templateIds
      · exact hnames ▸ h.keyed.templateNames
      · split <;> rfl
      · intro x hx
        obtain ⟨x₀, hx₀, rfl⟩ := List.mem_map.1 hx
        have := h.keyed.templateFresh x₀ hx₀
        split <;> exact this.trans_le (Nat.le_add_right _ _)
    | none =>
      simp only [hfound, andThen_ok_iff, constraint_ok_iff] at hs
      obtain ⟨hno, hs⟩ := hs
      simp only [bind_ok_iff, insertRegisters_ok_iff] at hs
      obtain ⟨db, ⟨-, -, rfl⟩, hs⟩ := hs
      obtain rfl := Except.ok.inj hs
      have hregs : s.db.registers.filter (fun r => r.templateId ≠ s.db.nextId) = s.db.registers :=
        List.filter_eq_self.2 fun r hr => by
          simpa using (h.keyed.registerFresh r hr).ne
      let row : DeviceTemplate := ⟨s.db.nextId, t.name, t.protocol, t.description, false⟩
      have hset : Table.find DeviceTemplate.name (s.db.templates ++ [row]) =
          Dict.set s.db.templateNamed t.name row := Table.find_append_new hno
      rw [← hregs]
      refine h.user ht rfl hset (by simp [templateAfter, hfound, DeviceTemplate.bare, row])
        ?_ ?_ (fun x hx => ⟨x, List.mem_append_left _ hx, rfl⟩) ?_
        ((Nat.le_succ _).trans (Nat.le_add_right _ _))
        (fun t' ht' => by simp [hfound] at ht') (fun _ => h.next) _ ⟨s.db.nextId + 1, rfl⟩
      · exact Table.nodup_append_new h.keyed.templateIds fun x hx =>
          (h.keyed.templateFresh x hx).ne
      · exact Table.nodup_append_new h.keyed.templateNames hno
      · intro x hx
        rcases List.mem_append.1 hx with hx | hx
        · exact (h.keyed.templateFresh x hx).trans_le
            ((Nat.le_succ _).trans (Nat.le_add_right _ _))
        · rw [List.mem_singleton.1 hx]
          exact Nat.lt_add_right _ (Nat.lt_succ_self s.db.nextId)

/-- A round does not raise on a name that is new, with registers that keep the constraints. -/
theorem TemplatesDone.progress (h : TemplatesDone db₀ done s) (hnew : t.name ∉ done.map (·.name))
    (hnames : (t.registers.map (·.name)).Nodup)
    (haddresses : (t.registers.map fun r => (r.address, r.functionCode)).Nodup) :
    ∃ s', importTemplate db₀.templateNamed s t = .ok s' := by
  have hins : ∀ db i, ∃ db', insertRegisters db i (t.registers.map (·.toRow)) = .ok db' :=
    fun db i => ⟨_, insertRegisters_ok_iff.2 ⟨by rw [List.map_map]; exact hnames,
      by rw [List.map_map]; exact haddresses, rfl⟩⟩
  unfold importTemplate
  cases t.isBuiltin with
  | true => exact ⟨_, rfl⟩
  | false =>
    cases hfound : db₀.templateNamed t.name with
    | some e =>
      simp only [bind_ok_iff]
      obtain ⟨db', hdb'⟩ := hins _ _
      exact ⟨_, db', hdb', rfl⟩
    | none =>
      have hnone : s.db.templateNamed t.name = none := by
        simpa [hfound, lastUser_eq_none hnew, templateAfter] using h.named t.name
      simp only [andThen_ok_iff, constraint_ok_iff]
      simp only [bind_ok_iff]
      obtain ⟨db', hdb'⟩ := hins _ _
      exact ⟨_, Table.find_eq_none_iff.1 hnone, db', hdb', rfl⟩

theorem mapOtherTemplates_ids (existing : List DeviceTemplate) (n : String) :
    (mapOtherTemplates existing s).templateNameToId n =
      (s.templateNameToId n).or ((Table.find DeviceTemplate.name existing n).map (·.id)) :=
  Table.foldl_enter DeviceTemplate.id existing s.templateNameToId n

theorem TemplatesDone.imported (h : TemplatesDone db₀ done s) :
    TemplatesImported db₀ done (mapOtherTemplates db₀.templates s) := by
  refine { h with mapped := fun n => ?_ }
  rw [mapOtherTemplates_ids, h.ids]
  have hdb : (mapOtherTemplates db₀.templates s).db = s.db := rfl
  rw [hdb]
  have hnamed := h.named n
  cases hfound : db₀.templateNamed n with
  | some e =>
    obtain ⟨t', ht', hid⟩ := h.kept n e hfound
    have hfind : Table.find DeviceTemplate.name db₀.templates n = some e := hfound
    rw [hfind, ht']
    split <;> simp [hid]
  | none =>
    have hfind : Table.find DeviceTemplate.name db₀.templates n = none := hfound
    rw [hfind]
    split
    next => simp
    next hmem =>
      rw [hfound, lastUser_eq_none hmem] at hnamed
      simpa [templateAfter, eq_comm] using hnamed

theorem templatesImported (h : db₀.Keyed) {listed : List TemplateExport}
    (hs : listed.foldlM (importTemplate db₀.templateNamed) { db := db₀ } = .ok s) :
    TemplatesImported db₀ listed (mapOtherTemplates db₀.templates s) :=
  (foldlM_invariant (P := TemplatesDone db₀) (fun _ _ _ _ hP hf => hP.step hf)
    (templatesDone_nil h) hs).imported

end Templates

end Services

end GhostMeter
