import GhostMeter.Protocols.Manager
import GhostMeter.Simulation.EngineCalls

/-! The backend process: the database, the simulation engine and the protocol manager that
the services share. -/

namespace GhostMeter

open GhostMeter.Simulation GhostMeter.Protocols

structure Backend (α : Type) where
  db : Database
  engine : SimulationEngine := {}
  manager : ProtocolManager α := {}

/-- How a request ends without its result: with an application exception, or with an
exception that nothing catches. -/
inductive RequestError
  | app (e : AppException)
  | unhandled

namespace Backend

variable {α : Type}

/-- `simulation_engine.start_device`, with what it loads from the database. -/
def startSimulation (s : Backend α) (device : UUID) : Backend α :=
  { s with engine :=
      s.engine.startNow device (s.db.enabledConfigs device) (s.db.enabledSchedules device) }

/-- `simulation_engine.stop_device`, and whether it returned. -/
def stopSimulation (s : Backend α) (device : UUID) : Backend α × Bool :=
  let (engine, returned) := s.engine.stopNow device
  ({ s with engine }, returned)

def reloadSimulation (s : Backend α) (device : UUID) : Backend α × Bool :=
  let (engine, returned) := s.engine.reloadNow device (s.db.enabledConfigs device)
    (s.db.enabledSchedules device)
  ({ s with engine }, returned)

end Backend

end GhostMeter
