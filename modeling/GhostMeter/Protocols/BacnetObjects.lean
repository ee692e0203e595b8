import GhostMeter.Protocols.BacnetRegistrations

/-! The values of the BACnet objects, in every order of pushes for the registers of a device. -/

namespace GhostMeter.Protocols

open GhostMeter.Lib

namespace BacnetAdapter

/-- `_FLOAT32_MAX`. -/
def float32Max : PyFloat := .ofDecimal ⟨34028234663852886, 22⟩

/-- NaN and the infinities pass through. -/
def clampToReal (value : PyFloat) : PyFloat :=
  if ¬ value.isFinite then value else float32Max.neg.max (float32Max.min value)

/-- The object is found by its address alone. -/
def updateRegister (a : BacnetAdapter) (device : UUID) (address _functionCode : ℤ)
    (value : PyFloat) : BacnetAdapter :=
  match a.objects (device, address) with
  | none => a
  | some obj => { a with
    objects := a.objects.set (device, address) { obj with presentValue := clampToReal value } }

theorem objects_updateRegister (a : BacnetAdapter) (device : UUID) (address functionCode : ℤ)
    (value : PyFloat) : (a.updateRegister device address functionCode value).objects =
      a.objects.modify (device, address) fun obj =>
        { obj with presentValue := clampToReal value } := by
  funext key
  unfold updateRegister
  split
  next h =>
    rw [Dict.modify_apply]
    split
    next heq => rw [heq, h, Option.map_none]
    next => rfl
  next obj h =>
    rw [Dict.modify_apply, h]
    exact Dict.set_apply ..

end BacnetAdapter

/-- The adapter, with the last value that the engine has pushed for each register of a device. -/
structure BacnetPushes where
  adapter : BacnetAdapter
  pushed : Dict RegisterInfo PyFloat := Dict.empty

namespace BacnetPushes

open BacnetAdapter

variable (device : UUID) (registers : List RegisterInfo)

/-- The engine pushes a value for a register of the device. -/
def step (s : BacnetPushes) (push : RegisterInfo × PyFloat) : Option BacnetPushes :=
  let (reg, value) := push
  if reg ∈ registers then
    some {
      adapter := s.adapter.updateRegister device reg.address reg.functionCode value
      pushed := s.pushed.set reg value }
  else none

/-- The register is the one that the object at its address was created for. -/
def Created (reg : RegisterInfo) : Prop := registers.find? (·.address = reg.address) = some reg

instance (reg : RegisterInfo) : Decidable (Created registers reg) :=
  inferInstanceAs (Decidable (_ = _))

/-- The object created for a register holds the last value pushed for it, or zero. -/
def HoldsOwn (s : BacnetPushes) : Prop :=
  ∀ reg, Created registers reg → ∃ obj, s.adapter.objects (device, reg.address) = some obj ∧
    obj.presentValue = ((s.pushed reg).map clampToReal).getD .zero

/-- The object was created for the register, or has the value already. -/
def SparesOthers (s : BacnetPushes) (push : RegisterInfo × PyFloat) : Prop :=
  Created registers push.1 ∨ ∃ obj, s.adapter.objects (device, push.1.address) = some obj ∧
    obj.presentValue = clampToReal push.2

variable {device registers}

theorem exists_created {reg : RegisterInfo} (h : reg ∈ registers) :
    ∃ first, Created registers first ∧ first.address = reg.address := by
  cases hfirst : registers.find? (·.address = reg.address) with
  | none => simpa using List.find?_eq_none.1 hfirst reg h
  | some first =>
    have haddr : first.address = reg.address := by simpa using List.find?_some hfirst
    exact ⟨first, by rw [Created, haddr, hfirst], haddr⟩

theorem Created.eq_of_address {reg reg' : RegisterInfo} (h : Created registers reg)
    (h' : Created registers reg') (haddr : reg.address = reg'.address) : reg = reg' := by
  rw [Created, haddr] at h
  exact Option.some.inj (h.symm.trans h')

theorem holdsOwn_step_iff {s s' : BacnetPushes} {push : RegisterInfo × PyFloat}
    (h : HoldsOwn device registers s) (hstep : step device registers s push = some s') :
    HoldsOwn device registers s' ↔ SparesOthers device registers s push := by
  obtain ⟨reg, value⟩ := push
  simp only [step] at hstep
  split at hstep
  next hreg =>
    obtain rfl := Option.some.inj hstep
    obtain ⟨first, hfirst, haddr⟩ := exists_created hreg
    obtain ⟨obj, hobj, hvalue⟩ := h first hfirst
    rw [haddr] at hobj
    have hobjects := s.adapter.objects_updateRegister device reg.address reg.functionCode value
    have hother : ∀ r, Created registers r → r.address ≠ reg.address → ∃ obj,
        (s.adapter.updateRegister device reg.address reg.functionCode value).objects
          (device, r.address) = some obj ∧
        obj.presentValue = (((s.pushed.set reg value) r).map clampToReal).getD .zero := by
      intro r hr hne
      rw [hobjects, Dict.modify_apply, if_neg (by simpa using hne),
        Dict.set_of_ne _ _ fun heq => hne (congrArg _ heq)]
      exact h r hr
    have hhere : (s.adapter.updateRegister device reg.address reg.functionCode value).objects
        (device, reg.address) = some { obj with presentValue := clampToReal value } := by
      rw [hobjects, Dict.modify_apply, if_pos rfl, hobj, Option.map_some]
    by_cases heq : first = reg
    · subst heq
      refine iff_of_true (fun r hr => ?_) (Or.inl hfirst)
      by_cases hne : r.address = first.address
      · obtain rfl := hr.eq_of_address hfirst hne
        exact ⟨_, hhere, by simp⟩
      · exact hother r hr hne
    · -- the object was created for another register, which no value was pushed for
      have hnot : ¬ Created registers reg := fun hreg =>
        heq (hfirst.eq_of_address hreg haddr)
      have hsame : obj.presentValue = clampToReal value ↔
          SparesOthers device registers s (reg, value) := by
        simp [SparesOthers, hnot, hobj]
      rw [← hsame]
      constructor
      · intro h'
        obtain ⟨obj', hobj', hvalue'⟩ := h' first hfirst
        rw [haddr, hhere] at hobj'
        obtain rfl := Option.some.inj hobj'
        have hpushed : clampToReal value =
          (((s.pushed.set reg value) first).map clampToReal).getD .zero := hvalue'
        rw [hpushed, Dict.set_of_ne _ _ heq, hvalue]
      · intro hsame r hr
        by_cases hne : r.address = reg.address
        · obtain rfl := hr.eq_of_address hfirst (hne.trans haddr.symm)
          have hpushed : clampToReal value =
              (((s.pushed.set reg value) r).map clampToReal).getD .zero := by
            rw [Dict.set_of_ne _ _ heq, ← hvalue, hsame]
          exact ⟨_, by rw [haddr, hhere], hpushed⟩
        · exact hother r hr hne
  next => cases hstep

/-- After a successful add every object holds zero. -/
theorem holdsOwn_added {lib : BacpypesErrors} {a a' : BacnetAdapter} {slave : ℤ}
    (h : a.doAddDevice lib device slave registers = (a', .ok ())) :
    HoldsOwn device registers { adapter := a' } := by
  rcases doAddDevice_cases lib a device slave registers with
    ⟨⟨e, hadd⟩, -⟩ | ⟨-, ⟨a₁, e, hadd, -⟩ | ⟨a₁, hadd, -, hadded⟩⟩
  · cases h.symm.trans hadd
  · cases h.symm.trans hadd
  · obtain ⟨rfl, -⟩ := Prod.mk.inj (h.symm.trans hadd)
    obtain ⟨objs, hobjs, hobjects⟩ := hadded.objects
    intro reg hreg
    refine ⟨reg.analogInput, ?_, rfl⟩
    unfold Created at hreg
    simp only [hobjects, if_true, hobjs, hreg, Option.map_some, Option.some_or]

/-- Every object holds the last value of its own register exactly when every push is for a register
that an object was created for, or of the value that the object has. -/
theorem always_holdsOwn_iff {lib : BacpypesErrors} {a a' : BacnetAdapter} {slave : ℤ}
    (h : a.doAddDevice lib device slave registers = (a', .ok ()))
    (pushes : List (RegisterInfo × PyFloat)) :
    Always (step device registers) (HoldsOwn device registers) { adapter := a' } pushes ↔
      EachStep (step device registers) (fun s push _ => SparesOthers device registers s push)
        { adapter := a' } pushes :=
  always_iff_eachStep (J := fun _ => True) (fun _ _ _ _ _ => trivial)
    (fun _ _ _ _ h hstep => holdsOwn_step_iff h hstep) trivial (holdsOwn_added h)

/-- A holding and an input register at one address. -/
def holding : RegisterInfo where
  address := 0
  functionCode := 3
  dataType := .float32
  byteOrder := .bigEndian
  name := some "set_point"

def input : RegisterInfo := { holding with functionCode := 4, name := some "measured" }

/-- The adapter with a device of both. -/
def meter : BacnetAdapter := (doAddDevice {} { running := true } 1 1 [holding, input]).1

theorem always_holdsOwn_iff_meter :
    Always (step 1 [holding, input]) (HoldsOwn 1 [holding, input]) { adapter := meter }
        [(holding, .exact 5)] ↔
      EachStep (step 1 [holding, input])
        (fun s push _ => SparesOthers 1 [holding, input] s push) { adapter := meter }
        [(holding, .exact 5)] :=
  always_holdsOwn_iff (show doAddDevice {} { running := true } 1 1 _ = (meter, .ok ()) from rfl) _

theorem input_written_through :
    ¬ ∀ (lib : BacpypesErrors) (a a' : BacnetAdapter) (device : UUID) (slave : ℤ)
      (registers : List RegisterInfo) (pushes : List (RegisterInfo × PyFloat)),
      (registers.map (·.name)).Nodup →
      (registers.map fun reg => (reg.address, reg.functionCode)).Nodup →
      a.doAddDevice lib device slave registers = (a', .ok ()) →
      Always (step device registers) (HoldsOwn device registers) { adapter := a' } pushes := by
  intro h
  have hrun := h {} { running := true } meter 1 1 [holding, input] [(input, .exact 5)]
    (by decide) (by decide) rfl
  obtain ⟨hpushed, -⟩ := hrun.2 _ rfl
  obtain ⟨obj, hobj, hvalue⟩ := hpushed holding (by decide)
  obtain rfl := Option.some.inj hobj
  exact absurd hvalue (by decide +kernel)

end BacnetPushes

end GhostMeter.Protocols
