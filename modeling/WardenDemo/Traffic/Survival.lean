import WardenDemo.Traffic.Parameters

/-!
# Surviving the client

With parameters that convert, a loop is only ever ended by an exception of the
client which its call site lets through. The keepalive loop has the one such call
site: `ensure_entities` expects the entities to run already, and nothing else.
-/

namespace WardenDemo.Traffic

open Control Generator Results

/-- The map a turn of `control_loop` observes. -/
def Turn.queried : Turn → Option ScenarioMap
  | .control queried _ _ => queried
  | _ => none

/-- A turn on which starting an entity raises something unexpected. -/
def Turn.losesEntity : Turn → Prop
  | .keepalive replies => ∃ wfId ∈ entityIds, replies wfId = .error .other
  | _ => False

/-- The process a turn of `courier_loop` leaves, with what it swallows left out. -/
def Process.courierTurn (config : Config) (draws : CourierDraws) (self : Process) : Process :=
  match self.tick with
  | none =>
      if (self.couriers.length : Int) < config.courierFleetSize then
        self.startCourier draws.hex draws.start
      else { self with tick := some 0 }
  | some last =>
      match self.retired (last + 1) with
      | none => { self with tick := some (last + 1) }
      | some _ =>
          let rest := { self with tick := some (last + 1), couriers := self.couriers.tail }
          rest.startCourier draws.hex draws.start

section Turns

variable {numerals : Json.Numerals} {config : Config} {self after : Process} {turn : Turn}

/-- Parameters belong to the map alone. -/
theorem Convertible.of_scenarios {observed later : Generator}
    (same : later.scenarios = observed.scenarios) (converts : Convertible numerals observed) :
    Convertible numerals later := by
  obtain ⟨scenarios, region⟩ := later
  cases same
  exact ⟨converts.1, converts.2, converts.3, converts.4, converts.5⟩

theorem convert_eq_ok {α : Type} {value : Option α} {converted : α} :
    convert value = .ok converted ↔ value = some converted := by
  cases value <;> simp [convert]

theorem tolerate_isOk (reply : Reply) : (tolerate reply).isOk = true ↔ reply ≠ .error .other := by
  cases reply with
  | ok done => simp [tolerate]
  | error raised => cases raised <;> simp [tolerate]

/-- Swallowed signals never end a turn of `courier_loop`. -/
theorem courierIteration_eq (draws : CourierDraws) :
    self.courierIteration config draws = .ok (self.courierTurn config draws) := by
  unfold Process.courierIteration Process.courierTurn
  cases self.tick with
  | none => exact (apply_ite Except.ok _ _ _).symm
  | some last =>
      simp only [suppress_eq, forM_eq_ok self.couriers fun _ => rfl]
      cases self.retired (last + 1) <;> rfl

@[simp] theorem startCourier_toGenerator (hex : String) (reply : Reply) :
    (self.startCourier hex reply).toGenerator = self.toGenerator := by
  unfold Process.startCourier
  split <;> rfl

@[simp] theorem courierTurn_toGenerator (draws : CourierDraws) :
    (self.courierTurn config draws).toGenerator = self.toGenerator := by
  unfold Process.courierTurn
  cases self.tick with
  | none =>
      dsimp only
      split <;> simp
  | some last =>
      dsimp only
      cases self.retired (last + 1) <;> simp

/-- With parameters that convert, a turn raises where it loses an entity. -/
theorem turn_isOk (converts : Convertible numerals self.toGenerator)
    (queried : ∀ map, turn.queried = some map → Convertible numerals { scenarios := map }) :
    (self.turn numerals config turn).isOk = true ↔ ¬ turn.losesEntity := by
  cases turn with
  | order draws reply =>
      refine iff_of_true (orderIteration_isOk draws reply |>.mpr ?_) id
      exact ⟨converts.failureProbability, converts.timeoutProbability⟩
  | courier draws => exact iff_of_true (by rw [Process.turn, courierIteration_eq]; rfl) id
  | batch batchId children reply =>
      refine iff_of_true (batchIteration_isOk batchId children reply |>.mpr ?_) id
      exact ⟨converts.fanoutChildren, converts.bloatIterations⟩
  | control query reset degrade =>
      refine iff_of_true (controlIteration_isOk query reset degrade |>.mpr ?_) id
      cases query with
      | none => exact converts.inflateRate
      | some map => exact (queried map rfl).inflateRate
  | keepalive replies =>
      have iterates : (self.turn numerals config (.keepalive replies)).isOk =
          (ensureEntities replies).isOk := isOk_bind_of_total _ fun _ => rfl
      rw [iterates, ensureEntities, isOk_forM]
      simp [tolerate_isOk, Turn.losesEntity]

/-- Only `control_loop` changes the map. -/
theorem scenarios_turn (completed : self.turn numerals config turn = .ok after) :
    after.scenarios = turn.queried.getD self.scenarios := by
  cases turn with
  | order draws reply =>
      obtain ⟨_, _, returned⟩ := bind_eq_ok.mp completed
      cases reply <;> cases returned <;> rfl
  | courier draws =>
      rw [Process.turn, courierIteration_eq] at completed
      cases completed
      rw [courierTurn_toGenerator]
      rfl
  | batch batchId children reply =>
      obtain ⟨_, _, signalled⟩ := bind_eq_ok.mp completed
      obtain ⟨_, _, returned⟩ := bind_eq_ok.mp signalled
      cases returned
      rfl
  | control queried reset degrade =>
      obtain ⟨_, _, ticked⟩ := bind_eq_ok.mp completed
      obtain ⟨generator, converted, signalled⟩ := bind_eq_ok.mp ticked
      obtain ⟨_, _, returned⟩ := bind_eq_ok.mp signalled
      cases returned
      exact scenarios_after (convert_eq_ok.mp converted)
  | keepalive replies =>
      obtain ⟨_, _, returned⟩ := bind_eq_ok.mp completed
      cases returned
      rfl

/-- The parameters convert as long as those of the queried maps do. -/
theorem Convertible.of_turn (converts : Convertible numerals self.toGenerator)
    (queried : ∀ map, turn.queried = some map → Convertible numerals { scenarios := map })
    (completed : self.turn numerals config turn = .ok after) :
    Convertible numerals after.toGenerator := by
  have observed := scenarios_turn completed
  cases query : turn.queried with
  | none => exact converts.of_scenarios (by rw [observed, query]; rfl)
  | some map => exact (queried map query).of_scenarios (by rw [observed, query]; rfl)

end Turns

/-- With parameters that convert, the gather goes on through every sequence of
turns, whatever the client replies, if and only if no turn of the keepalive loop
loses an entity. -/
theorem gather_goes_on_iff (numerals : Json.Numerals) (config : Config) (process : Process)
    (turns : List Turn) (converts : Convertible numerals process.toGenerator)
    (queried : ∀ turn ∈ turns, ∀ map, turn.queried = some map →
      Convertible numerals { scenarios := map }) :
    (gather numerals config process turns).isOk = true ↔
      ∀ turn ∈ turns, ¬ turn.losesEntity := by
  induction turns generalizing process with
  | nil => exact iff_of_true rfl (List.forall_mem_nil _)
  | cons turn rest ih =>
      have here : (process.turn numerals config turn).isOk = true ↔ ¬ turn.losesEntity :=
        turn_isOk converts (queried turn List.mem_cons_self)
      rw [gather, List.foldlM_cons, List.forall_mem_cons, ← here]
      cases completed : process.turn numerals config turn with
      | error raised => simp [bind, Except.bind]
      | ok after =>
          have later := ih after
            (converts.of_turn (queried turn List.mem_cons_self) completed)
            fun turn member => queried turn (List.mem_cons_of_mem _ member)
          simpa [bind, Except.bind, gather] using later

/-- Nothing is converted while no scenario is enabled. -/
theorem convertible_of_disabled {numerals : Json.Numerals} {observed : Generator}
    (disabled : ∀ name, observed.enabled name = false) : Convertible numerals observed := by
  constructor <;> intros <;> simp_all

/-- The generator before its first map, over a client that fails all it may. -/
def unreachableServer : List Turn :=
  [.order ⟨"us-west", "rest-1", "0123456789ab", 0, 0⟩ (.error .other),
    .courier { hex := "012345", start := .error .other },
    .batch "0123456789" 6 (.error .other),
    .control none (.error .other) (.error .other),
    .keepalive fun _ => .error .workflowAlreadyStarted]

theorem gather_goes_on_of_swallowed :
    (gather wordNumerals {} {} unreachableServer).isOk = true ↔
      ∀ turn ∈ unreachableServer, ¬ turn.losesEntity := by
  apply gather_goes_on_iff wordNumerals {} {} unreachableServer
  · exact convertible_of_disabled fun _ => rfl
  · rintro turn member map queried
    simp only [unreachableServer, List.mem_cons, List.not_mem_nil, or_false] at member
    rcases member with rfl | rfl | rfl | rfl | rfl <;> cases queried

/-- A client that fails while the entities are kept alive ends the gather. -/
theorem keepalive_ends_gather :
    ¬ ∀ (numerals : Json.Numerals) (config : Config) (process : Process) (turns : List Turn),
      Convertible numerals process.toGenerator →
      (∀ turn ∈ turns, ∀ map, turn.queried = some map →
        Convertible numerals { scenarios := map }) →
      (gather numerals config process turns).isOk = true := by
  intro goesOn
  have ended := goesOn wordNumerals {} {} [.keepalive fun _ => .error .other]
    (convertible_of_disabled fun _ => rfl) (by
      rintro turn member map queried
      cases List.mem_singleton.mp member
      cases queried)
  exact absurd ended (by decide)

end WardenDemo.Traffic
