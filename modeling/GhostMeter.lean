import GhostMeter.Api.ClientWrites
import GhostMeter.Api.FaultRoutes
import GhostMeter.Api.FaultVisibility
import GhostMeter.Api.Websocket
import GhostMeter.Backend
import GhostMeter.Exceptions
import GhostMeter.Integrity
import GhostMeter.Lib.AsyncTask
import GhostMeter.Lib.Binary
import GhostMeter.Lib.Bisect
import GhostMeter.Lib.Bytes
import GhostMeter.Lib.Check
import GhostMeter.Lib.Dict
import GhostMeter.Lib.Graph
import GhostMeter.Lib.Infix
import GhostMeter.Lib.Loop
import GhostMeter.Lib.OrderedDict
import GhostMeter.Lib.PyFloat
import GhostMeter.Lib.PyInt
import GhostMeter.Lib.PyLiteral
import GhostMeter.Lib.PyNumber
import GhostMeter.Lib.PyRepr
import GhostMeter.Lib.PyString
import GhostMeter.Lib.Run
import GhostMeter.Lib.SetIterator
import GhostMeter.Lib.Slice
import GhostMeter.Lib.Streak
import GhostMeter.Lib.Table
import GhostMeter.Lib.Window
import GhostMeter.Models
import GhostMeter.Protocols.BacnetAgent
import GhostMeter.Protocols.BacnetObjects
import GhostMeter.Protocols.BacnetRegistrations
import GhostMeter.Protocols.Base
import GhostMeter.Protocols.FailedAdds
import GhostMeter.Protocols.Manager
import GhostMeter.Protocols.ModbusEncoding
import GhostMeter.Protocols.ModbusRegisters
import GhostMeter.Protocols.ModbusRestore
import GhostMeter.Protocols.ModbusTcp
import GhostMeter.Protocols.ModbusTraffic
import GhostMeter.Protocols.MqttAdapter
import GhostMeter.Protocols.MqttAwaits
import GhostMeter.Protocols.MqttConnections
import GhostMeter.Protocols.MqttIsolation
import GhostMeter.Protocols.MqttServing
import GhostMeter.Protocols.MqttTasks
import GhostMeter.Protocols.OpcUa
import GhostMeter.Protocols.OpcUaValues
import GhostMeter.Protocols.OpcUaWrites
import GhostMeter.Protocols.PublishStats
import GhostMeter.Protocols.Registry
import GhostMeter.Protocols.ServedValues
import GhostMeter.Protocols.Snmp
import GhostMeter.Protocols.SnmpAgent
import GhostMeter.Protocols.SnmpFaults
import GhostMeter.Protocols.SnmpMaps
import GhostMeter.Protocols.SnmpWalk
import GhostMeter.Schemas.Anomaly
import GhostMeter.Schemas.Simulation
import GhostMeter.Schemas.System
import GhostMeter.Seed.Loader
import GhostMeter.Services.AcceptedAnomalies
import GhostMeter.Services.AnomalyService
import GhostMeter.Services.ApiHistories
import GhostMeter.Services.BatchCalls
import GhostMeter.Services.Builtins
import GhostMeter.Services.ComputedCycles
import GhostMeter.Services.Constraints
import GhostMeter.Services.DefaultProfiles
import GhostMeter.Services.DeviceCalls
import GhostMeter.Services.DeviceCreation
import GhostMeter.Services.DeviceRequests
import GhostMeter.Services.DeviceRows
import GhostMeter.Services.DeviceService
import GhostMeter.Services.EnabledPublishing
import GhostMeter.Services.ExportRows
import GhostMeter.Services.ImportConfigs
import GhostMeter.Services.ImportDevices
import GhostMeter.Services.ImportMqtt
import GhostMeter.Services.ImportProgress
import GhostMeter.Services.ImportPublishing
import GhostMeter.Services.ImportReplaces
import GhostMeter.Services.ImportRows
import GhostMeter.Services.ImportRules
import GhostMeter.Services.ImportTemplates
import GhostMeter.Services.MqttOrphans
import GhostMeter.Services.MqttRows
import GhostMeter.Services.MqttService
import GhostMeter.Services.OverlapChecks
import GhostMeter.Services.ProfileFiles
import GhostMeter.Services.RegisterIsolation
import GhostMeter.Services.RoundTrip
import GhostMeter.Services.ScenarioEnd
import GhostMeter.Services.ScenarioFiles
import GhostMeter.Services.ScenarioForce
import GhostMeter.Services.ScenarioRequests
import GhostMeter.Services.ScenarioRunner
import GhostMeter.Services.ScenarioService
import GhostMeter.Services.ScenarioStore
import GhostMeter.Services.ScenarioTimeline
import GhostMeter.Services.SimulationProfileService
import GhostMeter.Services.SimulationService
import GhostMeter.Services.SimulationWrites
import GhostMeter.Services.StartCalls
import GhostMeter.Services.StatusAgreement
import GhostMeter.Services.SystemService
import GhostMeter.Services.TemplateCopies
import GhostMeter.Services.TemplateService
import GhostMeter.Simulation.AnomalyInjector
import GhostMeter.Simulation.Arithmetic
import GhostMeter.Simulation.DataGenerator
import GhostMeter.Simulation.DeviceLoop
import GhostMeter.Simulation.DriftRuns
import GhostMeter.Simulation.Engine
import GhostMeter.Simulation.EngineCalls
import GhostMeter.Simulation.EngineCleanup
import GhostMeter.Simulation.EngineEntries
import GhostMeter.Simulation.EngineServing
import GhostMeter.Simulation.EngineSteps
import GhostMeter.Simulation.EngineStops
import GhostMeter.Simulation.EngineTasks
import GhostMeter.Simulation.ErrorRuns
import GhostMeter.Simulation.ExpressionParser
import GhostMeter.Simulation.FaultSimulator
import GhostMeter.Simulation.IncompleteConfigs
import GhostMeter.Simulation.ScheduledAnomalies
import GhostMeter.Simulation.TickOrder
import GhostMeter.Simulation.WriteTracker
