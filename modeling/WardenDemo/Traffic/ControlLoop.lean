import WardenDemo.Common.Models
import WardenDemo.Control.Schema

/-!
# The generator's control relay

`control_loop` relays the entity_history scenario (S2) to the dispatch entity of
a region. A tick refreshes the scenario map, attempts at most two signals, and
remembers the degraded region, whether or not the signals were delivered.
-/

namespace WardenDemo.Traffic

open Control

/-- The instance attributes of `Generator` which the relay reads and writes;
no degraded region is `None`. -/
structure Generator where
  scenarios : ScenarioMap := ∅
  degradedRegion : Json := .null

namespace Generator

variable (text : Json.Text)

/-- A failed query leaves the last map in place. -/
def refreshScenarios (self : Generator) (queried : Option ScenarioMap) : Generator :=
  { self with scenarios := queried.getD self.scenarios }

def enabled (self : Generator) (name : String) : Bool :=
  (scenarioOf self.scenarios name).enabled

def params (self : Generator) (name : String) : Dict Json :=
  (scenarioOf self.scenarios name).params

def dispatchOf (region : Json) : String := dispatchId (text.format region)

/-- The region the observed map configures. -/
def configuredRegion (self : Generator) : Json :=
  ((self.params entityHistory).lookup "region").getD (.str "us-west")

/-- The degradation the observed map configures; `int` may raise. -/
def configuredDegradation (self : Generator) : Option Degradation :=
  let params := self.params entityHistory
  (((params.lookup "inflate_rate").getD (.int 40)).toInt text).map fun inflateRate =>
    { suspendCan := ((params.lookup "suspend_can").getD (.bool true)).truthy
      inflateHistory := ((params.lookup "inflate_history").getD (.bool true)).truthy
      inflateRate }

/-- A `set_degradation` signal to a dispatch workflow. -/
abbrev Attempt := String × Degradation

def resetRegion (region : Json) : Attempt := (dispatchOf text region, {})

/-- The signals one tick attempts, in order, and the state it leaves, or none
where it raises. -/
structure Tick where
  reset : Option Attempt := none
  degrade : Option Attempt := none
  after : Option Generator

/-- One iteration of `control_loop`, after the map has been refreshed. -/
def controlTick (self : Generator) : Tick :=
  if self.enabled entityHistory then
    let region := self.configuredRegion
    let reset :=
      if self.degradedRegion.truthy && !self.degradedRegion.same region then
        some (resetRegion text self.degradedRegion)
      else none
    match self.configuredDegradation text with
    | none => { reset, after := none }
    | some degr =>
        { reset
          degrade := some (dispatchOf text region, degr)
          after := some { self with degradedRegion := region } }
  else if self.degradedRegion.truthy then
    { reset := some (resetRegion text self.degradedRegion)
      after := some { self with degradedRegion := .null } }
  else { after := some self }

/-- A tick changes what the relay remembers, and never the map it observed. -/
theorem scenarios_after {text : Json.Text} {self after : Generator}
    (completed : (self.controlTick text).after = some after) :
    after.scenarios = self.scenarios := by
  unfold controlTick at completed
  split at completed <;> split at completed <;> cases completed <;> rfl

end Generator

open Generator

/-- The relay and the dispatch workflows: the generator process, if it has not
been stopped by an exception, and the last degradation delivered to each. -/
structure World where
  process : Option Generator := some {}
  delivered : Dict Degradation := ∅

inductive Label where
  | tick (queried : Option ScenarioMap) (resetDelivered degradeDelivered : Bool)
  | restart

/-- `_safe_signal`: an attempt which raises is swallowed. -/
def safeSignal (delivered : Dict Degradation) (succeeds : Bool) :
    Option Attempt → Dict Degradation
  | some (wfId, degr) => if succeeds then delivered.insert wfId degr else delivered
  | none => delivered

def World.step (text : Json.Text) (world : World) : Label → World
  | .restart => { world with process := some {} }
  | .tick queried resetDelivered degradeDelivered =>
      match world.process with
      | none => world
      | some generator =>
          let ticked := (generator.refreshScenarios queried).controlTick text
          { process := ticked.after
            delivered := safeSignal (safeSignal world.delivered resetDelivered ticked.reset)
              degradeDelivered ticked.degrade }

end WardenDemo.Traffic
