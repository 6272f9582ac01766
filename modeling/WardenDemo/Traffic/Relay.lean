import WardenDemo.Dispatch.Degradation
import WardenDemo.Durable.Network
import WardenDemo.Traffic.Healing

/-!
# Where S2 shows

The relay and the executions of the regions it signals. The server keeps the signals of
the relay in order until the region handles them; regions are terminated, and started
anew as healthy ones. As long as no reset is lost, the list filter for degraded regions
finds none but the region which the observed map configures.
-/

namespace WardenDemo.Traffic

open Control Durable Dispatch

/-- A running execution of a region, and the `set_degradation` signals which it has yet
to handle. -/
structure Region where
  name : String
  run : dispatchWorkflow.Execution { region := name }
  underWay : List Degradation := []

namespace Region

def anew (name : String) : Region where
  name := name
  run := ⟨[], dispatchWorkflow.fresh { region := name }, .start⟩

/-- The degradations delivered to an execution. -/
def delivered (self : Region) : List Degradation := degradations self.run.trace ++ self.underWay

/-- What the list filter sees of a region. -/
def shown (self : Region) : FleetStatus := fleetStatus self.run.trace

/-- Every degradation has been handled, and no upsert is owed. -/
def Settled (self : Region) : Prop :=
  self.underWay = [] ∧ ∃ pc object history, self.run.config = .running pc object history ∧
    owedUpserts pc object = 0

/-- A region blocked in its wait, with nothing under way, is settled. -/
theorem settled_of_waiting {self : Region} (handled : self.underWay = [])
    {object : DispatchWorkflow} {history : Nat}
    (waiting : self.run.config = .running .wait object history) : self.Settled := by
  have chain := self.run.chain
  rw [waiting] at chain
  exact ⟨handled, .wait, object, history, waiting, Dispatch.settled_of_waiting chain⟩

end Region

/-- The relay, and what runs under each workflow id. -/
structure Relay where
  world : World := {}
  regions : String → Option Region := fun _ => none

namespace Relay

/-- A signal which succeeds is queued for the execution it is sent to. -/
def post (regions : String → Option Region) (succeeds : Bool) :
    Option Generator.Attempt → String → Option Region
  | some (wfId, degr) =>
      if succeeds then
        Function.update regions wfId ((regions wfId).map fun region =>
          { region with underWay := region.underWay ++ [degr] })
      else regions
  | none => regions

/-- A signal only succeeds where an execution runs. -/
def Reaches (regions : String → Option Region) (succeeds : Bool)
    (attempt : Option Generator.Attempt) : Prop :=
  ∀ wfId degr, attempt = some (wfId, degr) → succeeds = true → (regions wfId).isSome = true

inductive Label where
  | tick (queried : Option ScenarioMap) (resetDelivered degradeDelivered : Bool)
  | restart
  | activate (wfId : String)
  | ended (wfId : String)
  | start (name : String)

/-- A label of the regions alone. -/
def Label.OfRegions : Label → Prop
  | .tick .. | .restart => False
  | .activate _ | .ended _ | .start _ => True

/-- One step of the generator, of a region, or of who terminates and starts regions. -/
inductive Step (text : Json.Text) (self : Relay) : Label → Relay → Prop where
  | tick {generator : Generator} {queried : Option ScenarioMap}
      {resetDelivered degradeDelivered : Bool}
      (running : self.world.process = some generator)
      (reset : Reaches self.regions resetDelivered
        ((generator.refreshScenarios queried).controlTick text).reset)
      (degrade : Reaches self.regions degradeDelivered
        ((generator.refreshScenarios queried).controlTick text).degrade) :
      Step text self (.tick queried resetDelivered degradeDelivered)
        { world := self.world.step text (.tick queried resetDelivered degradeDelivered)
          regions := post
            (post self.regions resetDelivered
              ((generator.refreshScenarios queried).controlTick text).reset)
            degradeDelivered ((generator.refreshScenarios queried).controlTick text).degrade }
  | restart : Step text self .restart { self with world := self.world.step text .restart }
  | activate {wfId : String} {region : Region} {activation : Activation Dispatch.Signal}
      {events : List Dispatch.Event} {config : Dispatch.Config} {rest : List Degradation}
      (here : self.regions wfId = some region)
      (activated : dispatchWorkflow.Activate activation region.run.config events config)
      (taken : region.underWay = collect Dispatch.Signal.degradation activation.signals ++ rest) :
      Step text self (.activate wfId)
        { self with
          regions := Function.update self.regions wfId (some
            { name := region.name
              run := ⟨region.run.trace ++ events, config, .activate region.run.chain activated⟩
              underWay := rest }) }
  | ended (wfId : String) :
      Step text self (.ended wfId)
        { world := { self.world with delivered := self.world.delivered.erase wfId }
          regions := Function.update self.regions wfId none }
  | start (name : String) (gone : self.regions (dispatchId name) = none) :
      Step text self (.start name)
        { self with
          regions := Function.update self.regions (dispatchId name) (some (.anew name)) }

/-- Steps in a row, each of which is admitted where it is taken. -/
inductive Run (text : Json.Text) (admits : Relay → Label → Prop) (start : Relay) :
    List Label → Relay → Prop where
  | none : Run text admits start [] start
  | step {labels : List Label} {label : Label} {before after : Relay}
      (ran : Run text admits start labels before) (admitted : admits before label)
      (stepped : Step text before label after) :
      Run text admits start (labels ++ [label]) after

/-- What the relay has delivered last to an execution is the last of what was delivered
to it. -/
def Follows (delivered : Dict Degradation) (regions : String → Option Region) : Prop :=
  ∀ wfId, delivered.lookup wfId = (regions wfId).bind fun region => region.delivered.getLast?

section Steps

variable {text : Json.Text} {relay after : Relay} {label : Label}
  {delivered : Dict Degradation} {regions : String → Option Region}

theorem Follows.post (follows : Follows delivered regions) {succeeds : Bool}
    {attempt : Option Generator.Attempt} (reaches : Reaches regions succeeds attempt) :
    Follows (safeSignal delivered succeeds attempt) (Relay.post regions succeeds attempt) := by
  cases attempt with
  | none => exact follows
  | some attempt =>
      cases succeeds with
      | false => exact follows
      | true =>
          obtain ⟨target, degr⟩ := attempt
          obtain ⟨region, here⟩ := Option.isSome_iff_exists.mp (reaches target degr rfl rfl)
          intro wfId
          rw [Relay.post, if_pos rfl, safeSignal, if_pos rfl, Dict.lookup_insert]
          by_cases same : wfId = target
          · subst same
            simp [here, Region.delivered]
          · rw [if_neg same, Function.update_of_ne same, follows wfId]

theorem isSome_post (succeeds : Bool) (attempt : Option Generator.Attempt) (wfId : String) :
    (Relay.post regions succeeds attempt wfId).isSome = (regions wfId).isSome := by
  unfold Relay.post
  split
  · next target degr =>
      split
      · by_cases same : wfId = target
        · subst same
          rw [Function.update_self, Option.isSome_map]
        · rw [Function.update_of_ne same]
      · rfl
  · rfl

/-- An activation moves what it handles from the queue to the trace. -/
theorem delivered_activate {region : Region} {activation : Activation Dispatch.Signal}
    {events : List Dispatch.Event} {config : Dispatch.Config} {rest : List Degradation}
    (activated : dispatchWorkflow.Activate activation region.run.config events config)
    (taken : region.underWay = collect Dispatch.Signal.degradation activation.signals ++ rest) :
    degradations (region.run.trace ++ events) ++ rest = region.delivered := by
  have reads : ∀ trace : List Dispatch.Event,
      degradations trace = collect Dispatch.Signal.degradation (collect receipt trace) := by
    intro trace
    rw [degradations, collect, collect, collect, List.filterMap_filterMap]
    refine List.filterMap_congr fun event _ => ?_
    cases event <;> rfl
  rw [Region.delivered, taken, reads, reads, collect_append, collect_append,
    activated.receipts, List.append_assoc]

theorem Follows.step (follows : Follows relay.world.delivered relay.regions)
    (stepped : relay.Step text label after) : Follows after.world.delivered after.regions := by
  cases stepped with
  | tick running reset degrade =>
      simp only [step_tick running]
      refine (follows.post reset).post fun wfId degr sent succeeds => ?_
      rw [isSome_post]
      exact degrade wfId degr sent succeeds
  | restart => exact follows
  | @activate wfId region activation events config rest here activated taken =>
      intro other
      dsimp only
      by_cases same : other = wfId
      · subst same
        have moved := delivered_activate activated taken
        rw [follows other, here, Function.update_self]
        exact congrArg List.getLast? moved.symm
      · rw [Function.update_of_ne same]
        exact follows other
  | ended wfId =>
      intro other
      dsimp only
      by_cases same : other = wfId
      · subst same
        rw [Finmap.lookup_erase, Function.update_self]
        rfl
      · rw [Finmap.lookup_erase_ne same, Function.update_of_ne same]
        exact follows other
  | start name gone =>
      intro other
      dsimp only
      by_cases same : other = dispatchId name
      · subst same
        rw [follows, gone, Function.update_self]
        rfl
      · rw [Function.update_of_ne same]
        exact follows other

end Steps

section Memory

variable {text : Json.Text} {world world' : World} {delivered delivered' : Dict Degradation}

/-- A relay which remembers does so over a fleet with fewer degraded regions. -/
theorem remembers_of_fewer (remembers : Remembers text world)
    (process : world'.process = world.process)
    (fewer : ∀ wfId, Degraded world'.delivered wfId → Degraded world.delivered wfId) :
    Remembers text world' := by
  intro generator running
  rw [process] at running
  obtain ⟨memory, remembered⟩ := remembers generator running
  exact ⟨memory, fun wfId sick => remembered wfId (fewer wfId sick)⟩

theorem safeSignal_lost (attempt : Option Generator.Attempt) :
    safeSignal delivered false attempt = delivered := by
  cases attempt <;> rfl

theorem degraded_safeSignal_mono
    (fewer : ∀ wfId, Degraded delivered wfId → Degraded delivered' wfId) (succeeds : Bool)
    (attempt : Option Generator.Attempt) (wfId : String)
    (sick : Degraded (safeSignal delivered succeeds attempt) wfId) :
    Degraded (safeSignal delivered' succeeds attempt) wfId := by
  cases attempt with
  | none => exact fewer wfId sick
  | some attempt =>
      cases succeeds with
      | false => exact fewer wfId sick
      | true =>
          obtain ⟨target, degr⟩ := attempt
          unfold Degraded safeSignal at sick ⊢
          by_cases same : wfId = target
          · subst same
            simpa [Finmap.lookup_insert] using sick
          · simp only [if_true, Finmap.lookup_insert_of_ne _ same] at sick ⊢
            exact fewer wfId sick

/-- What shows as degraded has been degraded. -/
theorem degraded_of_status {wfId : String}
    (shows : DispatchWorkflow.statusOf ((delivered.lookup wfId).getD {}) = .degraded) :
    Degraded delivered wfId := by
  cases found : delivered.lookup wfId with
  | none =>
      rw [found] at shows
      cases shows
  | some degr =>
      refine ⟨degr, found, ?_⟩
      rintro rfl
      rw [found] at shows
      cases shows

/-- A reset which is lost on a region that is not degraded is as good as delivered. -/
theorem degraded_of_reset {target : String} (healthy : ¬ Degraded delivered target)
    {wfId : String} (sick : Degraded delivered wfId) :
    Degraded (safeSignal delivered true (some (target, {}))) wfId := by
  rw [degraded_reset_iff]
  refine ⟨sick, ?_⟩
  rintro ⟨_, rfl⟩
  exact healthy sick

/-- After a completed tick, a relay which remembers only leaves the region degraded that
the observed map configures. -/
theorem configured_of_remembers {generator after : Generator} {wfId : String}
    (completed : (generator.controlTick text).after = some after)
    (remembered : after.degradedRegion.truthy = true ∧
      wfId = Generator.dispatchOf text after.degradedRegion) : Configured text after wfId := by
  obtain ⟨truthy, rfl⟩ := remembered
  rw [configured_after completed]
  have memory := degradedRegion_after completed
  by_cases on : generator.enabled entityHistory = true
  · rw [if_pos on] at memory
    exact ⟨on, by rw [memory]⟩
  · rw [if_neg on] at memory
    split at memory
    · rw [memory] at truthy
      cases truthy
    · next forgotten =>
        rw [memory] at truthy
        exact absurd truthy forgotten

/-- A completed tick has attempted to degrade the region which the map configures. -/
theorem degrade_of_completed {generator after : Generator}
    (completed : (generator.controlTick text).after = some after)
    (on : generator.enabled entityHistory = true) :
    ∃ degr, generator.configuredDegradation text = some degr ∧
      (generator.controlTick text).degrade =
        some (Generator.dispatchOf text generator.configuredRegion, degr) := by
  unfold Generator.controlTick at completed ⊢
  rw [if_pos on] at completed ⊢
  cases configures : generator.configuredDegradation text with
  | none =>
      rw [configures] at completed
      cases completed
  | some degr => exact ⟨degr, rfl, rfl⟩

end Memory

/-- Steps on which no reset is lost: it is delivered, or nothing runs where it is sent;
regions are named by non-empty strings, and the generator restarts only while no region
is degraded. -/
def Sure (text : Json.Text) (relay : Relay) : Label → Prop
  | .tick queried resetDelivered _ => ∀ generator, relay.world.process = some generator →
      (∃ region, region ≠ "" ∧
        (generator.refreshScenarios queried).configuredRegion = .str region) ∧
      (resetDelivered = true ∨ ∀ wfId degr,
        ((generator.refreshScenarios queried).controlTick text).reset = some (wfId, degr) →
          relay.regions wfId = none)
  | .restart => ∀ wfId, ¬ Degraded relay.world.delivered wfId
  | .activate _ | .ended _ | .start _ => True

section Runs

variable {text : Json.Text} {relay after : Relay} {label : Label} {labels : List Label}

theorem healthy_of_gone (follows : Follows relay.world.delivered relay.regions) {wfId : String}
    (gone : relay.regions wfId = none) : ¬ Degraded relay.world.delivered wfId := by
  rintro ⟨degr, found, _⟩
  rw [follows wfId, gone] at found
  cases found

theorem remembers_step (follows : Follows relay.world.delivered relay.regions)
    (remembers : Remembers text relay.world) (sure : Sure text relay label)
    (stepped : relay.Step text label after) : Remembers text after.world := by
  cases stepped with
  | @tick generator queried resetDelivered degradeDelivered running reset degrade =>
      obtain ⟨named, delivered⟩ := sure generator running
      have reliable : Reliable relay.world (.tick queried true degradeDelivered) := by
        refine ⟨rfl, fun before here => ?_⟩
        rw [running] at here
        cases here
        exact named
      have whole := remembers.step reliable
      cases resetDelivered with
      | true => exact whole
      | false =>
          have lost := delivered.resolve_left nofun
          apply remembers_of_fewer whole
          · rw [step_tick running, step_tick running]
          · rw [step_tick running, step_tick running]
            apply degraded_safeSignal_mono
            intro wfId sick
            rw [safeSignal_lost] at sick
            cases attempted : ((generator.refreshScenarios queried).controlTick text).reset with
            | none => exact sick
            | some attempt =>
                obtain ⟨target, degr⟩ := attempt
                have resets := attempted
                rw [controlTick_reset] at resets
                split at resets <;> cases resets
                exact degraded_of_reset (healthy_of_gone follows (lost _ _ attempted)) sick
  | restart =>
      have reliable : Reliable relay.world .restart := sure
      exact remembers.step reliable
  | activate here activated taken => exact remembers
  | ended wfId =>
      refine remembers_of_fewer remembers rfl ?_
      rintro other ⟨degr, found, unhealthy⟩
      by_cases same : other = wfId
      · subst same
        rw [Finmap.lookup_erase] at found
        cases found
      · rw [Finmap.lookup_erase_ne same] at found
        exact ⟨degr, found, unhealthy⟩
  | start name gone => exact remembers

theorem Run.follows {admits : Relay → Label → Prop} (ran : Run text admits relay labels after)
    (follows : Follows relay.world.delivered relay.regions) :
    Follows after.world.delivered after.regions := by
  induction ran with
  | none => exact follows
  | step _ _ stepped ih => exact ih.step stepped

theorem Run.remembers (ran : Run text (Sure text) relay labels after)
    (follows : Follows relay.world.delivered relay.regions)
    (remembers : Remembers text relay.world) : Remembers text after.world := by
  induction ran with
  | none => exact remembers
  | step ran sure stepped ih => exact remembers_step (ran.follows follows) ih sure stepped

theorem follows_initial : Follows ({} : Relay).world.delivered ({} : Relay).regions :=
  fun _ => rfl

theorem remembers_initial : Remembers text ({} : Relay).world := by
  rintro generator ⟨rfl⟩
  refine ⟨Or.inl rfl, ?_⟩
  rintro wfId ⟨degr, found, _⟩
  cases found

/-- A step of the regions leaves what was delivered to one, or ends it. -/
theorem delivered_step (stepped : relay.Step text label after) (ofRegions : label.OfRegions)
    (wfId : String) :
    after.world.delivered.lookup wfId = relay.world.delivered.lookup wfId ∨
      (label = .ended wfId ∧ after.world.delivered.lookup wfId = none) := by
  cases stepped with
  | tick | restart => exact ofRegions.elim
  | activate _ _ _ => exact Or.inl rfl
  | start name gone => exact Or.inl rfl
  | ended other =>
      by_cases same : wfId = other
      · subst same
        exact Or.inr ⟨rfl, Finmap.lookup_erase _ _⟩
      · exact Or.inl (Finmap.lookup_erase_ne same)

/-- While only regions move, what was delivered to one stays, or ends with it. -/
theorem delivered_kept (onward : Run text (fun _ label => label.OfRegions) relay labels after)
    (wfId : String) :
    after.world.delivered.lookup wfId = relay.world.delivered.lookup wfId ∨
      (.ended wfId ∈ labels ∧ after.world.delivered.lookup wfId = none) := by
  induction onward with
  | none => exact Or.inl rfl
  | step _ admitted stepped ih =>
      rw [List.mem_append, List.mem_singleton]
      rcases delivered_step stepped admitted wfId with same | ⟨ends, gone⟩
      · rw [same]
        exact ih.imp_right (And.imp_left Or.inl)
      · exact Or.inr ⟨Or.inr ends.symm, gone⟩

/-- A settled region shows the status of what the relay has delivered last to it, unless it
has handled a degradation before a run had begun. -/
theorem shown_of_settled (follows : Follows relay.world.delivered relay.regions) {wfId : String}
    {region : Region} (here : relay.regions wfId = some region) (settled : region.Settled)
    (kept : degradationsLost region.run.trace = []) :
    region.shown =
      DispatchWorkflow.statusOf ((relay.world.delivered.lookup wfId).getD {}) := by
  obtain ⟨handled, pc, object, history, running, owes⟩ := settled
  have chain := region.run.chain
  rw [running] at chain
  have last : relay.world.delivered.lookup wfId = (degradations region.run.trace).getLast? := by
    rw [follows wfId, here, Option.bind_some, Region.delivered, handled, List.append_nil]
  rw [last]
  exact fleetStatus_of_last chain owes kept

/-- After a completed tick of a run on which no reset is lost, and until the relay ticks
again, the list filter for degraded regions finds, among the settled ones, none but the
region which the observed map configures. It finds that one, if its signal was delivered
and it has not ended since, exactly when the map has it suspended or inflated. -/
theorem s2_found_where_configured {before ticked now : Relay} {labels' : List Label}
    {queried : Option ScenarioMap} {resetDelivered degradeDelivered : Bool}
    {observed : Generator} (ran : Run text (Sure text) {} labels before)
    (sure : Sure text before (.tick queried resetDelivered degradeDelivered))
    (stepped : before.Step text (.tick queried resetDelivered degradeDelivered) ticked)
    (completed : ticked.world.process = some observed)
    (onward : Run text (fun _ label => label.OfRegions) ticked labels' now)
    {wfId : String} {region : Region} (here : now.regions wfId = some region)
    (settled : region.Settled) (kept : degradationsLost region.run.trace = []) :
    (region.shown = .degraded → Configured text observed wfId) ∧
      (degradeDelivered = true → .ended wfId ∉ labels' → Configured text observed wfId →
        ∃ degr, observed.configuredDegradation text = some degr ∧
          region.shown = DispatchWorkflow.statusOf degr) := by
  have follows := ran.follows follows_initial
  have remembers := remembers_step follows (ran.remembers follows_initial remembers_initial)
    sure stepped
  have shown := shown_of_settled (onward.follows (follows.step stepped)) here settled kept
  have since := delivered_kept onward wfId
  cases stepped with
  | @tick generator _ _ _ running reset degrade =>
      simp only [step_tick running] at completed remembers since
      constructor
      · intro degraded
        obtain ⟨degr, found, unhealthy⟩ := degraded_of_status (shown.symm.trans degraded)
        rcases since with same | ⟨_, gone⟩
        · rw [same] at found
          have remembered := (remembers observed completed).2 wfId ⟨degr, found, unhealthy⟩
          exact configured_of_remembers completed remembered
        · rw [gone] at found
          cases found
      · rintro rfl alive configured
        obtain ⟨on, rfl⟩ := (configured_after completed).mp configured
        obtain ⟨degr, configures, degrades⟩ := degrade_of_completed completed on
        refine ⟨degr, ?_, ?_⟩
        · rw [← configures]
          simp only [Generator.configuredDegradation, Generator.params,
            Generator.scenarios_after completed]
        · have delivered := since.resolve_right fun ended => alive ended.1
          simp only [degrades, safeSignal, if_true, Finmap.lookup_insert] at delivered
          rw [shown, delivered]
          rfl

/-- Run a schedule of a region among the others. -/
theorem Run.activate {admits : Relay → Label → Prop} (ran : Run text admits relay labels after)
    (wfId : String) (admitted : admits after (.activate wfId)) {region : Region}
    (here : after.regions wfId = some region) (activation : Activation Dispatch.Signal)
    {events : List Dispatch.Event} {config : Dispatch.Config} (rest : List Degradation)
    (computed : dispatchWorkflow.activateWithin 10 activation region.run.config =
      some (events, config))
    (taken : region.underWay = collect Dispatch.Signal.degradation activation.signals ++ rest) :
    Run text admits relay (labels ++ [.activate wfId])
      { after with
        regions := Function.update after.regions wfId (some
          { name := region.name
            run := ⟨region.run.trace ++ events, config,
              .activate region.run.chain (.of_within computed)⟩
            underWay := rest }) } :=
  .step ran admitted (.activate here (.of_within computed) taken)

theorem Step.onward (_ : relay.Step text label after) :
    Run text (fun _ label => label.OfRegions) after [] after :=
  .none

/-- The first tick of a generator which observes S2 on us-west, where the region runs. -/
theorem Run.tick_enabled (_ : Run plainText (Sure plainText) {} labels relay)
    (idle : relay.world.process = some {})
    (runs : (relay.regions "dispatch-us-west").isSome = true) :
    Sure plainText relay (.tick (some s2Enabled) true true) ∧
      relay.Step plainText (.tick (some s2Enabled) true true)
        { world := relay.world.step plainText (.tick (some s2Enabled) true true)
          regions := post relay.regions true
            (some ("dispatch-us-west", { suspendCan := true, inflateHistory := true })) } := by
  constructor
  · intro generator running
    rw [idle] at running
    cases running
    exact ⟨⟨"us-west", by decide, rfl⟩, Or.inl rfl⟩
  · apply Step.tick idle
    · intro _ _ sent
      cases sent
    · intro _ _ sent _
      cases sent
      exact runs

/-- S2 is enabled on us-west, and the region has handled what the relay tells it. -/
theorem s2_found_where_configured_of_relay :
    ∃ (ticked now : Relay) (labels : List Label) (region : Region),
      Run plainText (fun _ label => label.OfRegions) ticked labels now ∧
      now.regions "dispatch-us-west" = some region ∧ region.Settled ∧
      region.shown = .degraded := by
  have idle : Run plainText (Sure plainText) {} [] {} := .none
  have started := idle.step (by exact trivial) (.start "us-west" rfl)
  have opened := started.activate "dispatch-us-west" trivial rfl ⟨[], none, 3⟩ [] rfl rfl
  obtain ⟨sure, ticked⟩ := opened.tick_enabled rfl rfl
  have handled := ticked.onward.activate "dispatch-us-west" trivial rfl
    ⟨[.setDegradation { suspendCan := true, inflateHistory := true }], none, 8⟩ [] rfl rfl
  have found := s2_found_where_configured opened sure ticked rfl handled
    (Function.update_self ..) ⟨rfl, _, _, _, rfl, rfl⟩ rfl
  obtain ⟨degr, configures, shows⟩ := found.2 rfl (by simp) ⟨rfl, rfl⟩
  cases configures
  exact ⟨_, _, _, _, handled, rfl, ⟨rfl, _, _, _, rfl, rfl⟩, shows⟩

end Runs

end Relay

end WardenDemo.Traffic
