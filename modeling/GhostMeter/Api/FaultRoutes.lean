import GhostMeter.Protocols.OpcUa

/-! The routes that set and clear faults, over the one adapter that acts on them. -/

namespace GhostMeter.Api

open GhostMeter.Lib GhostMeter.Simulation GhostMeter.Protocols

/-- The fault state of the process, and the adapter whose fault hooks do something. -/
structure FaultControl where
  isRunning : Bool
  faults : FaultSimulator := Dict.empty
  opcua : ProtocolAdapter OpcUaAdapter

/-- `get_device_protocol`: the protocol of a stored device's template. -/
def getDeviceProtocol (protocols : Dict UUID Protocol) (device : UUID) :
    Except AppException Protocol :=
  match protocols device with
  | some protocol => .ok protocol
  | none => .error (notFoundException "Device not found" "DEVICE_NOT_FOUND")

namespace FaultControl

/-- A fault hook of the protocol's adapter: only OPC UA overrides the base class. -/
def hook (s : FaultControl) (protocol : Protocol) (f : OpcUaAdapter → OpcUaAdapter) :
    FaultControl :=
  if s.isRunning ∧ protocol = .opcua then
    { s with opcua := { s.opcua with state := f s.opcua.state } }
  else s

def setFault (protocols : Dict UUID Protocol) (s : FaultControl) (device : UUID)
    (data : FaultConfig) : FaultControl × Except AppException FaultConfig :=
  match getDeviceProtocol protocols device with
  | .error e => (s, .error e)
  | .ok protocol =>
    let supported := protocol.supportedFaultTypes
    let supportedNames := String.intercalate ", " (supported.map FaultType.name)
    if data.faultType ∉ supported then
      (s, .error (validationException
        (s!"Fault type '{data.faultType.name}' is not supported for {protocol.name} devices. " ++
          s!"Supported types: {supportedNames}.")))
    else
      let s := { s with faults := s.faults.setFault device data }
      (s.hook protocol (·.applyFault device), .ok data)

def clearFault (protocols : Dict UUID Protocol) (s : FaultControl) (device : UUID) :
    FaultControl × Except AppException Unit :=
  match getDeviceProtocol protocols device with
  | .error e => (s, .error e)
  | .ok protocol =>
    let s := s.hook protocol (·.removeFault device)
    ({ s with faults := s.faults.clearFault device }, .ok ())

end FaultControl

end GhostMeter.Api
