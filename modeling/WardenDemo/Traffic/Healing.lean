import WardenDemo.Fold.Runs
import WardenDemo.Traffic.ControlLoop

/-!
# Reversing S2

The relay remembers one region, and forgets it as soon as it has attempted to
reset it. It heals the fleet along a run exactly when, at each tick, every region
still degraded is the one the tick degrades anew, or the remembered one whose
reset is delivered.
-/

namespace WardenDemo.Traffic

open Control Generator Fold

/-- The last degradation delivered to a dispatch workflow is not the healthy one. -/
def Degraded (delivered : Dict Degradation) (wfId : String) : Prop :=
  ∃ degr, delivered.lookup wfId = some degr ∧ degr ≠ {}

/-- The dispatch workflow the observed map degrades, if it degrades any. -/
def Configured (text : Json.Text) (generator : Generator) (wfId : String) : Prop :=
  generator.enabled entityHistory = true ∧
    wfId = dispatchOf text generator.configuredRegion

/-- The dispatch workflow a tick resets: the remembered region, unless the map
configures it still. A falsy region is no region to remember. -/
def Resets (text : Json.Text) (generator : Generator) (wfId : String) : Prop :=
  generator.degradedRegion.truthy = true ∧
    (generator.enabled entityHistory = true →
      generator.degradedRegion.same generator.configuredRegion = false) ∧
    wfId = dispatchOf text generator.degradedRegion

section Deliveries

variable {delivered : Dict Degradation} {wfId target : String} {succeeds : Bool}

/-- A reset which is delivered heals its target, and nothing else changes. -/
theorem degraded_reset_iff : Degraded (safeSignal delivered succeeds (some (target, {}))) wfId ↔
    Degraded delivered wfId ∧ ¬ (succeeds = true ∧ wfId = target) := by
  unfold Degraded safeSignal
  cases succeeds with
  | false => simp
  | true =>
      by_cases same : wfId = target
      · subst same
        simp [Finmap.lookup_insert]
      · simp [Finmap.lookup_insert_of_ne _ same, same]

theorem degraded_degrade_iff (other : wfId ≠ target) (degr : Degradation) :
    Degraded (safeSignal delivered succeeds (some (target, degr))) wfId ↔
      Degraded delivered wfId := by
  unfold Degraded safeSignal
  cases succeeds with
  | false => rfl
  | true => simp [Finmap.lookup_insert_of_ne _ other]

end Deliveries

section Ticks

variable {text : Json.Text} {generator : Generator} {delivered : Dict Degradation}
  {wfId : String} {succeeds : Bool}

/-- A tick only ever degrades the workflow of the configured region. -/
theorem configured_of_degrade {attempt : Attempt}
    (degrades : (generator.controlTick text).degrade = some attempt) :
    Configured text generator attempt.1 := by
  unfold controlTick at degrades
  split at degrades
  · next on =>
      split at degrades <;> cases degrades
      exact ⟨on, rfl⟩
  · split at degrades <;> cases degrades

/-- The reset a tick attempts, whether or not it then raises. -/
theorem controlTick_reset : (generator.controlTick text).reset =
    if generator.degradedRegion.truthy && !(generator.enabled entityHistory &&
      generator.degradedRegion.same generator.configuredRegion) then
      some (resetRegion text generator.degradedRegion)
    else none := by
  unfold controlTick
  cases generator.enabled entityHistory with
  | true => cases generator.configuredDegradation text <;> simp
  | false => cases generator.degradedRegion.truthy <;> simp

theorem resets_iff : Resets text generator wfId ↔
    (generator.controlTick text).reset = some (wfId, {}) := by
  rw [controlTick_reset, Option.ite_none_right_eq_some, Resets, resetRegion]
  simp only [Bool.and_eq_true, Bool.not_eq_true', Bool.and_eq_false_imp, Option.some.injEq,
    Prod.mk.injEq, and_true]
  constructor
  · rintro ⟨remembered, moved, rfl⟩
    exact ⟨⟨remembered, moved⟩, rfl⟩
  · rintro ⟨⟨remembered, moved⟩, rfl⟩
    exact ⟨remembered, moved, rfl⟩

/-- A tick leaves degraded, but for the configured region, what was degraded
and is not reset. -/
theorem degraded_tick_iff (other : ¬ Configured text generator wfId)
    (resetDelivered degradeDelivered : Bool) :
    Degraded (safeSignal
        (safeSignal delivered resetDelivered (generator.controlTick text).reset)
        degradeDelivered (generator.controlTick text).degrade) wfId ↔
      Degraded delivered wfId ∧ ¬ (resetDelivered = true ∧ Resets text generator wfId) := by
  have degrades : Degraded (safeSignal
        (safeSignal delivered resetDelivered (generator.controlTick text).reset)
        degradeDelivered (generator.controlTick text).degrade) wfId ↔
      Degraded (safeSignal delivered resetDelivered (generator.controlTick text).reset) wfId := by
    cases attempted : (generator.controlTick text).degrade with
    | none => exact Iff.rfl
    | some attempt =>
        refine degraded_degrade_iff (fun same => other ?_) attempt.2
        rw [same]
        exact configured_of_degrade attempted
  rw [degrades, resets_iff, controlTick_reset]
  split
  · rw [resetRegion, degraded_reset_iff]
    simp [eq_comm]
  · simp [safeSignal]

end Ticks

section Runs

variable (text : Json.Text)

/-- After a completed tick only the region the observed map configures is
degraded, and none is while it disables the scenario. -/
def HealsAt (world : World) (label : Label) : Prop :=
  ∀ queried resetDelivered degradeDelivered before after,
    label = .tick queried resetDelivered degradeDelivered →
    world.process = some before →
    ((before.refreshScenarios queried).controlTick text).after = some after →
    ∀ wfId, Degraded (world.step text label).delivered wfId → Configured text after wfId

/-- Before a tick which completes, every degraded region is the one the tick
degrades anew, or the remembered one, and then its reset is delivered. -/
def CoversAt (world : World) (label : Label) : Prop :=
  ∀ queried resetDelivered degradeDelivered before,
    label = .tick queried resetDelivered degradeDelivered →
    world.process = some before →
    ((before.refreshScenarios queried).controlTick text).after.isSome = true →
    ∀ wfId, Degraded world.delivered wfId →
      Configured text (before.refreshScenarios queried) wfId ∨
        (resetDelivered = true ∧ Resets text (before.refreshScenarios queried) wfId)

variable {text}

/-- What a completed tick leaves configures the region it has observed. -/
theorem configured_after {generator after : Generator} {wfId : String}
    (completed : (generator.controlTick text).after = some after) :
    Configured text after wfId ↔ Configured text generator wfId := by
  simp only [Configured, Generator.enabled, configuredRegion, params, scenarios_after completed]

/-- A tick of a running generator delivers what it attempts, as far as the
signals succeed. -/
theorem step_tick {world : World} {before : Generator} (running : world.process = some before)
    (queried : Option ScenarioMap) (resetDelivered degradeDelivered : Bool) :
    world.step text (.tick queried resetDelivered degradeDelivered) =
      let ticked := (before.refreshScenarios queried).controlTick text
      { process := ticked.after
        delivered := safeSignal (safeSignal world.delivered resetDelivered ticked.reset)
          degradeDelivered ticked.degrade } := by
  simp only [World.step, running]

theorem healsAt_iff_coversAt (world : World) (label : Label) :
    HealsAt text world label ↔ CoversAt text world label := by
  constructor
  · rintro heals queried resetDelivered degradeDelivered before rfl running completes wfId sick
    obtain ⟨after, completed⟩ := Option.isSome_iff_exists.mp completes
    by_cases named : Configured text (before.refreshScenarios queried) wfId
    · exact Or.inl named
    · right
      have healed := heals _ _ _ before after rfl running completed wfId
      rw [step_tick running, degraded_tick_iff named, configured_after completed] at healed
      exact Classical.not_not.mp fun kept => named (healed ⟨sick, kept⟩)
  · rintro covers queried resetDelivered degradeDelivered before after rfl running completed
      wfId sick
    have completes := Option.isSome_iff_exists.mpr ⟨after, completed⟩
    rw [configured_after completed]
    by_cases named : Configured text (before.refreshScenarios queried) wfId
    · exact named
    · rw [step_tick running, degraded_tick_iff named] at sick
      rcases covers _ _ _ before rfl running completes wfId sick.1 with configured | reset
      · exact configured
      · exact absurd reset sick.2

end Runs

/-- Along every run of the relay and of restarts of the generator, each completed
tick leaves degraded at most the region the observed map configures, if and only
if each completed tick covers every region degraded before it. -/
theorem heals_fleet_iff (text : Json.Text) (labels : List Label) :
    Along (World.step text) (HealsAt text) {} labels ↔
      Along (World.step text) (CoversAt text) {} labels :=
  along_congr healsAt_iff_coversAt {} labels

section Reliable

variable {text : Json.Text}

/-- Steps on which nothing is lost: resets are delivered, regions are named by
non-empty strings, and the generator restarts only over a healthy fleet. -/
def Reliable (world : World) : Label → Prop
  | .restart => ∀ wfId, ¬ Degraded world.delivered wfId
  | .tick queried resetDelivered _ => resetDelivered = true ∧
      ∀ before, world.process = some before → ∃ region, region ≠ "" ∧
        (before.refreshScenarios queried).configuredRegion = .str region

/-- The relay remembers the one region which may be degraded. -/
def Remembers (text : Json.Text) (world : World) : Prop :=
  ∀ generator, world.process = some generator →
    (generator.degradedRegion = .null ∨
      ∃ region, region ≠ "" ∧ generator.degradedRegion = .str region) ∧
    ∀ wfId, Degraded world.delivered wfId →
      generator.degradedRegion.truthy = true ∧ wfId = dispatchOf text generator.degradedRegion

theorem truthy_str {region : String} (named : region ≠ "") :
    (Json.str region).truthy = true := by
  simpa [Json.truthy] using named

theorem same_str {first second : String} :
    (Json.str first).same (.str second) = decide (first = second) := by
  rw [Json.same]

/-- What a completed tick remembers. -/
theorem degradedRegion_after {generator after : Generator}
    (completed : (generator.controlTick text).after = some after) :
    after.degradedRegion =
      if generator.enabled entityHistory then generator.configuredRegion
      else if generator.degradedRegion.truthy then .null
      else generator.degradedRegion := by
  unfold controlTick at completed
  split at completed
  · next on =>
      rw [if_pos on]
      split at completed <;> cases completed
      rfl
  · next off =>
      rw [if_neg off]
      split at completed <;> cases completed
      · next remembered => rw [if_pos remembered]
      · next forgotten => rw [if_neg forgotten]

theorem Remembers.covers {world : World} (remembers : Remembers text world) {label : Label}
    (reliable : Reliable world label) : CoversAt text world label := by
  rintro queried resetDelivered degradeDelivered before rfl running _ wfId sick
  obtain ⟨delivered, named⟩ := reliable
  obtain ⟨region, _, configured⟩ := named before running
  obtain ⟨memory, remembered⟩ := remembers before running
  obtain ⟨truthy, rfl⟩ := remembered wfId sick
  by_cases still : Configured text (before.refreshScenarios queried)
      (dispatchOf text before.degradedRegion)
  · exact Or.inl still
  · refine Or.inr ⟨delivered, truthy, fun on => ?_, rfl⟩
    rcases memory with none | ⟨known, _, known_eq⟩
    · rw [none] at truthy
      cases truthy
    · change before.degradedRegion.same _ = false
      rw [known_eq, configured, same_str, decide_eq_false_iff_not]
      rintro rfl
      refine still ⟨on, ?_⟩
      rw [known_eq, configured]

theorem Remembers.step {world : World} (remembers : Remembers text world) {label : Label}
    (reliable : Reliable world label) : Remembers text (world.step text label) := by
  have heals : HealsAt text world label :=
    (healsAt_iff_coversAt world label).mpr (remembers.covers reliable)
  cases label with
  | restart =>
      rintro generator ⟨rfl⟩
      exact ⟨Or.inl rfl, fun wfId sick => absurd sick (reliable wfId)⟩
  | tick queried resetDelivered degradeDelivered =>
      cases running : world.process with
      | none =>
          have same : world.step text (.tick queried resetDelivered degradeDelivered) = world := by
            simp only [World.step, running]
          rwa [same]
      | some before =>
          intro after completed
          rw [step_tick running] at completed
          have healed := heals _ _ _ before after rfl running completed
          have memory := degradedRegion_after completed
          obtain ⟨region, named, configured⟩ := reliable.2 before running
          by_cases on : (before.refreshScenarios queried).enabled entityHistory = true
          · rw [if_pos on, configured] at memory
            refine ⟨Or.inr ⟨region, named, memory⟩, fun wfId sick => ?_⟩
            have target := ((configured_after completed).mp (healed wfId sick)).2
            rw [memory]
            exact ⟨truthy_str named, by rw [target, configured]⟩
          · rw [if_neg on] at memory
            refine ⟨?_, fun wfId sick => ?_⟩
            · split at memory
              · exact Or.inl memory
              · next forgotten =>
                  rcases (remembers before running).1 with none | ⟨known, nonempty, known_eq⟩
                  · exact Or.inl (memory.trans none)
                  · refine absurd ?_ forgotten
                    change before.degradedRegion.truthy = true
                    rw [known_eq]
                    exact truthy_str nonempty
            · exact absurd ((configured_after completed).mp (healed wfId sick)).1 on

/-- The relay heals the fleet along every run on which nothing is lost. -/
theorem heals_of_reliable (labels : List Label)
    (reliable : Along (World.step text) Reliable {} labels) :
    Along (World.step text) (HealsAt text) {} labels := by
  have start : Remembers text {} := by
    rintro generator ⟨rfl⟩
    refine ⟨Or.inl rfl, ?_⟩
    rintro wfId ⟨degr, found, _⟩
    cases found
  exact reliable.of_invariant (fun _ _ remembers here => remembers.step here)
    (fun world label remembers here =>
      (healsAt_iff_coversAt world label).mpr (remembers.covers here)) start

end Reliable

/-- How text is read and written where every value is a string. -/
def plainText : Json.Text where
  parseInt _ := none
  format
    | .str value => value
    | _ => ""

/-- The map with S2 enabled on us-west, and the one with it reversed. -/
def s2Enabled : ScenarioMap := mergeScenario defaultScenarios entityHistory true ∅

def s2Reversed : ScenarioMap := mergeScenario s2Enabled entityHistory false ∅

/-- S2 is enabled on a region and then reversed, and the reset is not delivered. -/
theorem reset_lost_leaves_degraded :
    ¬ Along (World.step plainText) (HealsAt plainText) {}
      [.tick (some s2Enabled) true true, .tick (some s2Reversed) false true] := by
  intro healed
  have reversed := healed.2.1 _ _ _ _ _ rfl rfl rfl "dispatch-us-west"
    ⟨{ suspendCan := true, inflateHistory := true }, rfl, by decide⟩
  exact absurd reversed.1 (by decide)

end WardenDemo.Traffic
