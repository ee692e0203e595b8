import GhostMeter.Protocols.Base

/-! The Modbus TCP adapter: which slaves are registered, which ones the server answers for,
and the coroutines that put a suppressed slave back. -/

namespace GhostMeter.Protocols

open GhostMeter.Lib

/-- `DATA_TYPE_REGISTER_COUNT.get(data_type, 1)`. -/
def DataType.registerCount : DataType → ℤ
  | int16 | uint16 => 1
  | int32 | uint32 | float32 => 2
  | float64 => 4
  | other _ => 1

/-- The datastores of one slave. -/
structure ModbusDeviceContext where
  hr : List ℕ
  ir : List ℕ

/-- A `ModbusDeviceContext` object: its place among the objects created so far. -/
abbrev ContextRef := ℕ

structure ModbusTcpAdapter where
  /-- `_context`, by its `_devices`; `none` while the server is not started. -/
  context : Option (Dict ℤ ContextRef) := none
  deviceToSlave : Dict UUID ℤ := Dict.empty
  slaveToDevice : Dict ℤ UUID := Dict.empty
  slaveContexts : Dict ℤ ContextRef := Dict.empty
  deviceRegisters : Dict UUID (List RegisterInfo) := Dict.empty
  objects : List ModbusDeviceContext := []

/-- A `_restore` coroutine: the slave and the context it has captured. -/
structure Restore where
  slave : ℤ
  ctx : ContextRef
  deriving DecidableEq

namespace ModbusTcpAdapter

/-- The slaves that the server context answers for. -/
def served (a : ModbusTcpAdapter) : Dict ℤ ContextRef := a.context.getD Dict.empty

def start (a : ModbusTcpAdapter) : ModbusTcpAdapter := { a with context := some Dict.empty }

/-- `_suppress_slave`, with the coroutine it schedules. -/
def suppressSlave (a : ModbusTcpAdapter) (slave : ℤ) : ModbusTcpAdapter × Option Restore :=
  match a.context, a.slaveContexts slave with
  | some devices, some ctx => ({ a with context := some (devices.pop slave) }, some ⟨slave, ctx⟩)
  | _, _ => (a, none)

/-- `_restore`, once its sleep is over. -/
def restore (a : ModbusTcpAdapter) (r : Restore) : ModbusTcpAdapter :=
  match a.context, a.slaveContexts r.slave with
  | some devices, some _ => { a with context := some (devices.set r.slave r.ctx) }
  | _, _ => a

/-- The datastore size that the registers of one function code need. -/
def blockSize (registers : List RegisterInfo) (functionCode : ℤ) : ℤ :=
  registers.foldl (fun size reg =>
    if reg.functionCode = functionCode then
      max size (reg.address + reg.dataType.registerCount + 1)
    else size) 1

def doAddDevice (a : ModbusTcpAdapter) (device : UUID) (slave : ℤ)
    (registers : List RegisterInfo) : ModbusTcpAdapter × Except PyError Unit :=
  match a.context with
  | none => (a, .error (.runtimeError "Modbus server not started"))
  | some devices =>
    if (a.slaveContexts slave).isSome then
      (a, .error (.valueError s!"Slave ID {slave} already registered"))
    else
      let ctx := a.objects.length
      ({ context := some (devices.set slave ctx)
         slaveContexts := a.slaveContexts.set slave ctx
         deviceToSlave := a.deviceToSlave.set device slave
         slaveToDevice := a.slaveToDevice.set slave device
         deviceRegisters := a.deviceRegisters.set device registers
         objects := a.objects ++ [{
           hr := List.replicate (blockSize registers 3).toNat 0
           ir := List.replicate (blockSize registers 4).toNat 0 }] }, .ok ())

def doRemoveDevice (a : ModbusTcpAdapter) (device : UUID) : ModbusTcpAdapter :=
  match a.deviceToSlave device with
  | none => a
  | some slave => { a with
      deviceToSlave := a.deviceToSlave.pop device
      slaveToDevice := a.slaveToDevice.pop slave
      slaveContexts := a.slaveContexts.pop slave
      deviceRegisters := a.deviceRegisters.pop device
      context := a.context.map (·.pop slave) }

/-- The context that `update_register` writes for a device. -/
def updated (a : ModbusTcpAdapter) (device : UUID) : Option ContextRef :=
  (a.deviceToSlave device).bind a.slaveContexts

end ModbusTcpAdapter

end GhostMeter.Protocols
