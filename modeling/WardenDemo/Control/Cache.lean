import WardenDemo.Control.Schema

/-!
# The control cache of a worker process

A task of every worker process queries the scenario map now and then, and swaps
it in as a whole; activities read the map which is there.
-/

namespace WardenDemo.Control

/-- The module globals of `control.cache`. -/
structure Cache where
  scenarios : ScenarioMap := defaultScenarios

namespace Cache

def isEnabled (self : Cache) (name : String) : Bool := (scenarioOf self.scenarios name).enabled

def getParams (self : Cache) (name : String) : Dict Json :=
  (scenarioOf self.scenarios name).params

/-- One round of `run_control_refresher`: a query which raises leaves the last known
map in place. -/
def refreshed (self : Cache) : Option ScenarioMap → Cache
  | some state => { self with scenarios := state }
  | none => self

end Cache

end WardenDemo.Control
