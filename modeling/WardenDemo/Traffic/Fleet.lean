import WardenDemo.Fold.Runs
import WardenDemo.Traffic.Survival

/-!
# The courier fleet

`courier_loop` brings the fleet up to size once, and from then on replaces the
courier it retires. Popping it, ending its shift and starting the replacement fail
separately, and nothing tops the fleet up again. What the loop knows is compared
with the shifts that were started and those whose `end_shift` was delivered.
-/

namespace WardenDemo.Traffic

open Fold

/-- The id `_start_courier` gives the next courier. -/
def Process.nextCourier (hex : String) (self : Process) : String :=
  s!"{self.courierSeq + 1}-{hex}"

/-- The courier the next turn retires. -/
def Process.retires (self : Process) : Option String :=
  self.tick.bind fun last => self.retired (last + 1)

/-- The process with the shifts it started and those whose end was delivered. -/
structure Fleet where
  process : Process := {}
  started : List String := []
  ended : List String := []

namespace Fleet

abbrev couriers (fleet : Fleet) : List String := fleet.process.couriers

/-- Before `courier_loop` has started any courier. -/
def initial (observed : Generator) : Fleet := { process := { toGenerator := observed } }

def hire (hex : String) (reply : Reply) (fleet : Fleet) : Fleet :=
  { fleet with
    process := fleet.process.startCourier hex reply
    started := match reply with
      | .ok _ => fleet.started ++ [fleet.process.nextCourier hex]
      | .error _ => fleet.started }

/-- The oldest courier is popped, and its shift ended if the signal arrives. -/
def dismiss (reply : Reply) (fleet : Fleet) : Fleet :=
  { fleet with
    process := { fleet.process with couriers := fleet.process.couriers.tail }
    ended := match reply with
      | .ok _ => fleet.ended ++ fleet.process.couriers.head?.toList
      | .error _ => fleet.ended }

def ticked (tick : Nat) (fleet : Fleet) : Fleet :=
  { fleet with process := { fleet.process with tick := some tick } }

/-- A turn of `courier_loop`. -/
def step (config : Config) (fleet : Fleet) (draws : CourierDraws) : Fleet :=
  match fleet.process.tick with
  | none =>
      if (fleet.couriers.length : Int) < config.courierFleetSize then
        fleet.hire draws.hex draws.start
      else fleet.ticked 0
  | some last =>
      match fleet.process.retired (last + 1) with
      | none => fleet.ticked (last + 1)
      | some _ => ((fleet.ticked (last + 1)).dismiss draws.endShift).hire draws.hex draws.start

/-- The fleet follows the process, turn by turn. -/
theorem step_process (config : Config) (fleet : Fleet) (draws : CourierDraws) :
    fleet.process.courierIteration config draws = .ok (fleet.step config draws).process := by
  rw [courierIteration_eq, Except.ok.injEq]
  unfold Process.courierTurn step
  cases fleet.process.tick with
  | none =>
      dsimp only
      split <;> rfl
  | some last =>
      dsimp only
      cases fleet.process.retired (last + 1) <;> rfl

/-- Every started shift which has not been ended is still known. -/
def NoLeak (fleet : Fleet) : Prop :=
  ∀ courierId ∈ fleet.started, courierId ∉ fleet.ended → courierId ∈ fleet.couriers

/-- A courier the loop has numbered, so that later ones differ. -/
def Numbered (fleet : Fleet) (courierId : String) : Prop :=
  ∃ (number : Nat) (hex : String),
    number ≤ fleet.process.courierSeq ∧ courierId = s!"{number}-{hex}"

/-- Couriers are told apart, and those whose shift was ended are gone. -/
structure Distinct (fleet : Fleet) : Prop where
  nodup : fleet.couriers.Nodup
  away : ∀ courierId ∈ fleet.ended, courierId ∉ fleet.couriers
  known : ∀ courierId ∈ fleet.couriers, fleet.Numbered courierId
  started : ∀ courierId ∈ fleet.started, fleet.Numbered courierId
  ended : ∀ courierId ∈ fleet.ended, fleet.Numbered courierId

section Hiring

variable {fleet : Fleet} {hex : String} {reply : Reply}

theorem nextCourier_fresh {courierId : String} (numbered : fleet.Numbered courierId) :
    courierId ≠ fleet.process.nextCourier hex := by
  rintro rfl
  obtain ⟨number, hex', within, same⟩ := numbered
  have := numbered_injective same
  omega

theorem couriers_hire : (fleet.hire hex reply).couriers =
    fleet.couriers ++ if reply = .error .other then [] else [fleet.process.nextCourier hex] := by
  unfold hire Fleet.couriers Process.startCourier
  cases reply with
  | ok done => rfl
  | error raised => cases raised <;> simp [Process.nextCourier]

theorem courierSeq_hire :
    (fleet.hire hex reply).process.courierSeq = fleet.process.courierSeq + 1 := by
  rcases reply with raised | done
  · cases raised <;> rfl
  · rfl

theorem mem_couriers_hire {courierId : String}
    (member : courierId ∈ (fleet.hire hex reply).couriers) :
    courierId ∈ fleet.couriers ∨ courierId = fleet.process.nextCourier hex := by
  rw [couriers_hire] at member
  split at member <;> simp_all

theorem Numbered.hire {courierId : String} (numbered : fleet.Numbered courierId) :
    (fleet.hire hex reply).Numbered courierId := by
  obtain ⟨number, hex', within, same⟩ := numbered
  exact ⟨number, hex', courierSeq_hire ▸ Nat.le_succ_of_le within, same⟩

theorem numbered_nextCourier :
    (fleet.hire hex reply).Numbered (fleet.process.nextCourier hex) :=
  ⟨_, hex, courierSeq_hire ▸ Nat.le_refl _, rfl⟩

theorem Distinct.hire (distinct : fleet.Distinct) : (fleet.hire hex reply).Distinct := by
  constructor
  · rw [couriers_hire]
    split
    · simpa using distinct.nodup
    · apply List.nodup_append.mpr
      refine ⟨distinct.nodup, List.nodup_singleton _, fun courierId member _ new => ?_⟩
      rw [List.mem_singleton.mp new]
      exact nextCourier_fresh (distinct.known courierId member)
  · intro courierId ended member
    rcases mem_couriers_hire member with old | new
    · exact distinct.away courierId ended old
    · exact nextCourier_fresh (distinct.ended courierId ended) new
  · intro courierId member
    rcases mem_couriers_hire member with old | rfl
    · exact (distinct.known courierId old).hire
    · exact numbered_nextCourier
  · intro courierId member
    cases reply with
    | error raised => exact (distinct.started courierId member).hire
    | ok done =>
        rcases List.mem_append.mp member with old | new
        · exact (distinct.started courierId old).hire
        · rw [List.mem_singleton.mp new]
          exact numbered_nextCourier
  · intro courierId ended
    exact (distinct.ended courierId ended).hire

/-- A shift that starts is known, and one that may have been started is. -/
theorem noLeak_hire (distinct : fleet.Distinct) :
    (fleet.hire hex reply).NoLeak ↔ fleet.NoLeak := by
  constructor
  · intro kept courierId started notEnded
    have stays : courierId ∈ (fleet.hire hex reply).started := by
      cases reply with
      | error raised => exact started
      | ok done => exact List.mem_append_left _ started
    rcases mem_couriers_hire (kept courierId stays notEnded) with old | new
    · exact old
    · exact absurd new (nextCourier_fresh (distinct.started courierId started))
  · intro kept courierId started notEnded
    rw [couriers_hire]
    cases reply with
    | error raised => exact List.mem_append_left _ (kept courierId started notEnded)
    | ok done =>
        rcases List.mem_append.mp started with old | new
        · exact List.mem_append_left _ (kept courierId old notEnded)
        · exact List.mem_append_right _ new

end Hiring

section Dismissing

variable {fleet : Fleet} {reply : Reply} {old : String} {rest : List String}

theorem Distinct.dismiss (distinct : fleet.Distinct) (oldest : fleet.couriers = old :: rest) :
    (fleet.dismiss reply).Distinct := by
  have gone : (fleet.dismiss reply).couriers = rest := congrArg List.tail oldest
  have ⟨apart, nodup⟩ := List.nodup_cons.mp (oldest ▸ distinct.nodup)
  have known (courierId : String) (member : courierId ∈ rest) : courierId ∈ fleet.couriers :=
    oldest ▸ List.mem_cons_of_mem _ member
  have ended (courierId : String) (member : courierId ∈ (fleet.dismiss reply).ended) :
      courierId ∈ fleet.ended ∨ courierId = old := by
    cases reply with
    | error raised => exact Or.inl member
    | ok done =>
        have : fleet.process.couriers = old :: rest := oldest
        simpa [Fleet.dismiss, this] using member
  constructor
  · exact gone ▸ nodup
  · intro courierId member
    rw [gone]
    rcases ended courierId member with before | rfl
    · exact fun kept => distinct.away courierId before (known courierId kept)
    · exact apart
  · intro courierId member
    exact distinct.known courierId (known courierId (gone ▸ member))
  · exact distinct.started
  · intro courierId member
    rcases ended courierId member with before | rfl
    · exact distinct.ended courierId before
    · exact distinct.known courierId (oldest ▸ List.mem_cons_self)

/-- Dismissing a courier loses its shift where the shift was started and the signal
is lost. -/
theorem noLeak_dismiss (distinct : fleet.Distinct) (kept : fleet.NoLeak)
    (oldest : fleet.couriers = old :: rest) :
    (fleet.dismiss reply).NoLeak ↔ (old ∈ fleet.started → reply = .ok ()) := by
  have gone : (fleet.dismiss reply).couriers = rest := congrArg List.tail oldest
  have ⟨apart, _⟩ := List.nodup_cons.mp (oldest ▸ distinct.nodup)
  have known : old ∈ fleet.couriers := oldest ▸ List.mem_cons_self
  cases reply with
  | ok done =>
      refine iff_of_true (fun courierId started notEnded => ?_) fun _ => rfl
      have : fleet.process.couriers = old :: rest := oldest
      simp only [Fleet.dismiss, this, List.head?_cons, Option.toList_some, List.mem_append,
        List.mem_singleton, not_or] at notEnded
      have member := oldest ▸ kept courierId started notEnded.1
      exact gone ▸ (List.mem_cons.mp member).resolve_left notEnded.2
  | error raised =>
      constructor
      · intro later started
        have notEnded : old ∉ fleet.ended := fun ended => distinct.away old ended known
        exact absurd (gone ▸ later old started notEnded) apart
      · intro delivered courierId started notEnded
        have member := oldest ▸ kept courierId started notEnded
        rcases List.mem_cons.mp member with rfl | stays
        · cases delivered started
        · exact gone ▸ stays

end Dismissing

/-- The fleet has its size, and knows every shift it still has to end. -/
def Whole (config : Config) (fleet : Fleet) : Prop :=
  (fleet.couriers.length : Int) = max 0 config.courierFleetSize ∧ fleet.NoLeak

/-- Every tick of `courier_loop` ends with a whole fleet. -/
def StaysWhole (config : Config) (fleet : Fleet) (draws : CourierDraws) : Prop :=
  fleet.process.tick.isSome = true → (fleet.step config draws).Whole config

/-- A courier is only retired where its replacement starts, and where its shift is
ended if the generator started it. -/
def Replaces (fleet : Fleet) (draws : CourierDraws) : Prop :=
  ∀ old, fleet.process.retires = some old →
    draws.start ≠ .error .other ∧ (old ∈ fleet.started → draws.endShift = .ok ())

/-- The fleet is whole, or short while it is being brought up. -/
structure Kept (config : Config) (fleet : Fleet) : Prop extends Distinct fleet where
  noLeak : fleet.NoLeak
  within : (fleet.couriers.length : Int) ≤ max 0 config.courierFleetSize
  sized : fleet.process.tick.isSome = true →
    (fleet.couriers.length : Int) = max 0 config.courierFleetSize

section Turns

variable {config : Config} {fleet : Fleet} {draws : CourierDraws} {old : String} {tick : Nat}

theorem Distinct.ticked (distinct : fleet.Distinct) : (fleet.ticked tick).Distinct :=
  ⟨distinct.nodup, distinct.away, distinct.known, distinct.started, distinct.ended⟩

theorem couriers_of_retired (retired : fleet.process.retired tick = some old) :
    fleet.couriers = old :: fleet.couriers.tail := by
  unfold Process.retired at retired
  split at retired
  · exact List.eq_cons_of_mem_head? retired
  · cases retired

theorem step_bring_up (upcoming : fleet.process.tick = none) :
    fleet.step config draws =
      if (fleet.couriers.length : Int) < config.courierFleetSize then
        fleet.hire draws.hex draws.start
      else fleet.ticked 0 := by
  rw [step, upcoming]

theorem step_idle {last : Nat} (ticking : fleet.process.tick = some last)
    (idle : fleet.process.retired (last + 1) = none) :
    fleet.step config draws = fleet.ticked (last + 1) := by
  simp only [step, ticking, idle]

theorem step_rotation {last : Nat} (ticking : fleet.process.tick = some last)
    (retired : fleet.process.retired (last + 1) = some old) :
    fleet.step config draws =
      ((fleet.ticked (last + 1)).dismiss draws.endShift).hire draws.hex draws.start := by
  simp only [step, ticking, retired]

/-- A rotation keeps the fleet whole where it replaces what it retires. -/
theorem whole_rotation {last : Nat} (kept : fleet.Kept config)
    (ticking : fleet.process.tick = some last)
    (retired : fleet.process.retired (last + 1) = some old) :
    (fleet.step config draws).Whole config ↔
      draws.start ≠ .error .other ∧ (old ∈ fleet.started → draws.endShift = .ok ()) := by
  have oldest := couriers_of_retired retired
  have distinct : (fleet.ticked (last + 1)).Distinct := kept.toDistinct.ticked
  have size : ((fleet.couriers.tail.length : Int) + 1 = max 0 config.courierFleetSize) := by
    rw [← kept.sized (by rw [ticking]; rfl), oldest]
    rfl
  rw [step_rotation ticking retired, Whole]
  apply and_congr
  · rw [couriers_hire, List.length_append]
    have gone : ((fleet.ticked (last + 1)).dismiss draws.endShift).couriers =
        fleet.couriers.tail := rfl
    rw [gone]
    split
    · next failed =>
        refine iff_of_false ?_ (not_not_intro failed)
        rw [List.length_nil]
        omega
    · next started =>
        refine iff_of_true ?_ started
        rw [List.length_singleton]
        exact size
  · rw [noLeak_hire (distinct.dismiss oldest), noLeak_dismiss distinct kept.noLeak oldest]
    rfl

theorem staysWhole_iff (kept : fleet.Kept config) :
    fleet.StaysWhole config draws ↔ fleet.Replaces draws := by
  unfold StaysWhole Replaces Process.retires
  cases ticking : fleet.process.tick with
  | none => simp
  | some last =>
      cases retired : fleet.process.retired (last + 1) with
      | none =>
          refine iff_of_true (fun _ => ?_) (by simp [retired])
          rw [step_idle ticking retired]
          exact ⟨kept.sized (by rw [ticking]; rfl), kept.noLeak⟩
      | some old =>
          simp only [Option.isSome_some, true_implies, Option.bind_some, retired,
            Option.some.injEq, forall_eq']
          exact whole_rotation kept ticking retired

theorem Distinct.step (distinct : fleet.Distinct) : (fleet.step config draws).Distinct := by
  cases ticking : fleet.process.tick with
  | none =>
      rw [step_bring_up ticking]
      split
      · exact distinct.hire
      · exact distinct.ticked
  | some last =>
      cases retired : fleet.process.retired (last + 1) with
      | none =>
          rw [step_idle ticking retired]
          exact distinct.ticked
      | some old =>
          rw [step_rotation ticking retired]
          exact (distinct.ticked.dismiss (couriers_of_retired retired)).hire

theorem Kept.step (kept : fleet.Kept config) (replaces : fleet.Replaces draws) :
    (fleet.step config draws).Kept config := by
  have distinct : (fleet.step config draws).Distinct := kept.toDistinct.step
  cases ticking : fleet.process.tick with
  | none =>
      rw [step_bring_up ticking] at distinct ⊢
      have within := kept.within
      split
      · next short =>
          rw [if_pos short] at distinct
          have upcoming : (fleet.hire draws.hex draws.start).process.tick = none := by
            rcases draws.start with raised | done
            · cases raised <;> exact ticking
            · exact ticking
          refine ⟨distinct, (noLeak_hire kept.toDistinct).mpr kept.noLeak, ?_, ?_⟩
          · rw [couriers_hire, List.length_append]
            split <;> simp <;> omega
          · rw [upcoming]
            exact fun finished => nomatch finished
      · next full =>
          rw [if_neg full] at distinct
          have size : (fleet.couriers.length : Int) = max 0 config.courierFleetSize := by omega
          exact ⟨distinct, kept.noLeak, within, fun _ => size⟩
  | some last =>
      obtain ⟨size, noLeak⟩ := (staysWhole_iff kept).mpr replaces (by rw [ticking]; rfl)
      exact ⟨distinct, noLeak, size.le, fun _ => size⟩

end Turns

/-- The fleet the loop starts from. -/
theorem kept_initial (config : Config) (observed : Generator) :
    (initial observed).Kept config := by
  constructor
  · constructor <;> simp [initial, couriers]
  · simp [NoLeak, initial]
  · simp [initial]
  · simp [initial]

end Fleet

/-- Over every run of `courier_loop`, once the fleet has been brought up each tick
ends with a whole fleet, if and only if each rotation starts a replacement, and ends
the shift of a courier the generator started. -/
theorem fleet_stays_whole_iff (config : Config) (observed : Generator)
    (run : List CourierDraws) :
    Along (Fleet.step config) (Fleet.StaysWhole config) (Fleet.initial observed) run ↔
      Along (Fleet.step config) Fleet.Replaces (Fleet.initial observed) run := by
  have preserved (fleet : Fleet) (draws : CourierDraws) (kept : fleet.Kept config)
      (replaces : fleet.Replaces draws) : (fleet.step config draws).Kept config :=
    kept.step replaces
  have same (fleet : Fleet) (draws : CourierDraws) (kept : fleet.Kept config) :
      Fleet.StaysWhole config fleet draws ↔ fleet.Replaces draws :=
    Fleet.staysWhole_iff kept
  exact along_iff_of_invariant preserved same (Fleet.kept_initial config observed) run

/-- A fleet of one: it is brought up, ticks four times and loses the replacement. -/
def lostReplacement : List CourierDraws :=
  [{ hex := "aaaaaa" }, { hex := "" }, { hex := "" }, { hex := "" }, { hex := "" },
    { hex := "bbbbbb", start := .error .other }]

theorem lost_replacement_shrinks_fleet :
    ¬ ∀ (config : Config) (observed : Generator) (run : List CourierDraws),
      Along (Fleet.step config) (Fleet.StaysWhole config) (Fleet.initial observed) run := by
  intro whole
  obtain ⟨_, _, _, _, _, rotation, _⟩ := whole { courierFleetSize := 1 } {} lostReplacement
  exact absurd (rotation (by decide)).1 (by decide)

end WardenDemo.Traffic
