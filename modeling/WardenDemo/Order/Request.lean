import WardenDemo.Order.Descent
import WardenDemo.Order.Settlement

/-!
# What an order asks for, and who may carry it

An order asks its region for a courier at most once. Whoever it publishes or
settles with was assigned to it, or is the synthetic courier it falls back to.
-/

namespace WardenDemo.Order

open Durable

/-- What an event asks of a region, under the id it is signalled to. -/
def request : Event → Option (String × OrderReady)
  | .issued (.signalOrderReady dispatchWfId ready) => some (dispatchWfId, ready)
  | _ => none

def requests (trace : List Event) : List (String × OrderReady) := collect request trace

/-- What an order asks of its region. -/
def requestOf (inp : OrderInput) : String × OrderReady :=
  (dispatchId inp.region, ⟨inp.orderId, orderWfId inp.orderId, inp.region⟩)

/-- The courier an event assigns. -/
def assignedCourier : Event → Option String
  | .handled _ _ (.courierAssigned courierId) => some courierId
  | _ => none

/-- The `courier_assigned` signals of a trace, in the order handled. -/
def couriersAssigned (trace : List Event) : List String := collect assignedCourier trace

/-- Whether a place comes after the request to dispatch. -/
def Place.asked (place : Place) : Prop := place.height < Place.requestDispatch.height

/-- An order has asked nothing, or it has asked its region once and is past it. -/
structure Requested (inp : OrderInput) (trace : List Event) (pc : Pc) : Prop where
  input : pc.inp = inp
  asks : requests trace = [] ∨ pc.place.asked ∧ requests trace = [requestOf inp]

/-- Those who may carry an order: its synthetic courier, or one assigned to it. -/
def candidates (inp : OrderInput) (trace : List Event) : List String :=
  syntheticCourier inp.orderId :: couriersAssigned trace

/-- An order is carried by a candidate, and names no one else. -/
structure Entrusted (inp : OrderInput) (trace : List Event) (pc : Pc) (order : OrderWorkflow) :
    Prop where
  input : pc.inp = inp
  courier : ∀ courierId ∈ order.courierId, courierId ∈ candidates inp trace
  held : pc.place.phase = .chosen ∨ pc.place.phase = .carrying → order.courierId.isSome = true
  published : ∀ named ∈ publications trace,
    ∃ courierId ∈ candidates inp trace, named = orUnknown (some courierId)
  settled : ∀ started ∈ settlementStarts trace,
    ∃ courierId ∈ candidates inp trace, started = settlementOf inp (orUnknown (some courierId))

section Steps

attribute [local simp] requests request couriersAssigned assignedCourier

variable {inp : OrderInput} {trace events : List Event} {pc next : Pc} {place : Place}
  {self self' : OrderWorkflow} {history : Nat} {commands : List Command}

/-- A place which is looked at after the request comes after it. -/
theorem Place.asked_of_busyHeight {place : Place} (order : OrderWorkflow)
    (below : place.busyHeight order < Place.requestDispatch.height) : place.asked := by
  by_cases waiting : place = .awaitCourier
  · subst waiting
    exact (by decide : Place.height .awaitCourier < Place.height .requestDispatch)
  · rwa [Place.busyHeight_of_ne order waiting] at below

/-- What comes after the request stays after it. -/
theorem Place.asked_of_step
    (stepped : orderWorkflow.step history pc self = .proceed next self' commands)
    (asked : pc.place.height ≤ Place.requestDispatch.height) : next.place.asked := by
  apply Place.asked_of_busyHeight self'
  have descends := busyHeight_of_step stepped
  have below := pc.place.busyHeight_le self
  omega

/-- Only the request to dispatch asks for anything. -/
theorem requests_of_step
    (stepped : orderWorkflow.step history ⟨inp, place⟩ self = .proceed pc self' commands) :
    requests (commands.map .issued) =
      if place = .requestDispatch then [requestOf inp] else [] := by
  have unasked : ∀ stage extra, requests ((self.stage stage extra).map .issued) = [] := by
    intro stage extra
    unfold OrderWorkflow.stage
    split <;> rfl
  cases place with
  | preparing | awaitingCourier | inTransit =>
      cases stepped
      exact unasked _ _
  | awaitCourier =>
      simp only [orderWorkflow, OrderWorkflow.step] at stepped
      split at stepped <;> cases stepped
      rfl
  | awaitCall _ | awaitSleep _ | awaitRequest | awaitSettle | delivered | raised => cases stepped
  | _ =>
      cases stepped
      rfl

theorem Requested.append (holds : Requested inp trace pc) (quiet : requests events = []) :
    Requested inp (trace ++ events) pc := by
  refine ⟨holds.input, ?_⟩
  rw [requests, collect_append_of_nil quiet]
  exact holds.asks

theorem Requested.proceeds (holds : Requested inp trace pc)
    (stepped : orderWorkflow.step history pc self = .proceed next self' commands) :
    Requested inp (trace ++ commands.map .issued) next := by
  obtain ⟨input, place⟩ := pc
  obtain rfl : input = inp := holds.input
  refine ⟨(moves_of_step stepped).1, ?_⟩
  have issued := requests_of_step stepped
  rw [requests, collect_append, ← requests, ← requests, issued]
  rcases holds.asks with none | ⟨asked, once⟩
  · rw [none]
    split
    · next here =>
        subst here
        exact Or.inr ⟨Place.asked_of_step stepped (Nat.le_refl _), rfl⟩
    · exact Or.inl rfl
  · have later : place ≠ .requestDispatch := by
      rintro rfl
      exact absurd asked (Nat.lt_irrefl _)
    rw [once, if_neg later]
    exact Or.inr ⟨Place.asked_of_step stepped (Nat.le_of_lt asked), rfl⟩

theorem Requested.resumes (holds : Requested inp trace pc) {resolution : Resolution}
    (resumed : OrderWorkflow.resume resolution pc self = some next) :
    Requested inp trace next := by
  obtain ⟨same, reached⟩ := resumes_of_resume resumed
  refine ⟨same.trans holds.input, holds.asks.imp_right fun ⟨asked, once⟩ => ⟨?_, once⟩⟩
  exact Place.asked_of_busyHeight self
    (Nat.lt_trans (busyHeight_of_resumePlace reached) asked)

/-- An order asks its own region once, or not yet. -/
def requested (inp : OrderInput) : orderWorkflow.Invariant inp where
  Idle trace pc _ _ := Requested inp trace pc
  Busy trace pc _ _ := Requested inp trace pc
  initial := ⟨rfl, Or.inl rfl⟩
  handled _ holds := holds.append rfl
  advanced holds _ := holds.append rfl
  resolved holds _ resumed := by
    rw [List.append_assoc]
    exact (holds.resumes resumed).append rfl
  proceeds holds stepped := holds.proceeds stepped
  suspends holds _ := holds
  continues _ stepped := absurd stepped not_continues

theorem candidates_append (inp : OrderInput) (trace events : List Event) :
    candidates inp (trace ++ events) = candidates inp trace ++ couriersAssigned events := by
  rw [candidates, couriersAssigned, collect_append]
  rfl

theorem mem_candidates_append {courierId : String} (mem : courierId ∈ candidates inp trace)
    (events : List Event) : courierId ∈ candidates inp (trace ++ events) := by
  rw [candidates_append]
  exact List.mem_append_left _ mem

/-- Events which name only candidates, at a place of the same phase, entrust no one else. -/
theorem Entrusted.extend (holds : Entrusted inp trace pc self) (input : next.inp = inp)
    (courier : ∀ courierId ∈ self'.courierId, courierId ∈ candidates inp (trace ++ events))
    (held : next.place.phase = .chosen ∨ next.place.phase = .carrying →
      self'.courierId.isSome = true)
    (published : ∀ named ∈ publications events,
      ∃ courierId ∈ candidates inp trace, named = orUnknown (some courierId))
    (settled : ∀ started ∈ settlementStarts events, ∃ courierId ∈ candidates inp trace,
      started = settlementOf inp (orUnknown (some courierId))) :
    Entrusted inp (trace ++ events) next self' := by
  refine ⟨input, courier, held, ?_, ?_⟩
  · intro named mem
    rw [publications, collect_append, List.mem_append] at mem
    obtain ⟨courierId, candidate, same⟩ := mem.elim (holds.published named) (published named)
    exact ⟨courierId, mem_candidates_append candidate events, same⟩
  · intro started mem
    rw [settlementStarts, collect_append, List.mem_append] at mem
    obtain ⟨courierId, candidate, same⟩ := mem.elim (holds.settled started) (settled started)
    exact ⟨courierId, mem_candidates_append candidate events, same⟩

/-- Events which name no one leave an order as it is. -/
theorem Entrusted.append (holds : Entrusted inp trace pc self)
    (unpublished : publications events = []) (unsettled : settlementStarts events = []) :
    Entrusted inp (trace ++ events) pc self := by
  refine holds.extend holds.input ?_ holds.held ?_ ?_
  · exact fun courierId mem => mem_candidates_append (holds.courier courierId mem) events
  · rw [unpublished]
    exact List.forall_mem_nil _
  · rw [unsettled]
    exact List.forall_mem_nil _

/-- Whoever is assigned becomes a candidate, and the carrier. -/
theorem Entrusted.handled (holds : Entrusted inp trace pc self) (signal : Signal) :
    Entrusted inp (trace ++ [.handled pc self signal]) pc (self.handle signal) := by
  obtain ⟨assigned⟩ := signal
  refine holds.extend holds.input ?_ (fun _ => rfl) (List.forall_mem_nil _)
    (List.forall_mem_nil _)
  rintro courierId ⟨rfl⟩
  rw [candidates_append]
  exact List.mem_append_right _ (List.mem_singleton.mpr rfl)

/-- The carrier an order is in hand of is a candidate, and known by name. -/
theorem Entrusted.carrier (holds : Entrusted inp trace pc self)
    (held : pc.place.phase = .chosen ∨ pc.place.phase = .carrying) :
    ∃ courierId ∈ candidates inp trace, self.courierId = some courierId := by
  obtain ⟨courierId, known⟩ := Option.isSome_iff_exists.mp (holds.held held)
  exact ⟨courierId, holds.courier courierId known, known⟩

theorem Entrusted.proceeds (holds : Entrusted inp trace pc self)
    (stepped : orderWorkflow.step history pc self = .proceed next self' commands) :
    Entrusted inp (trace ++ commands.map .issued) next self' := by
  obtain ⟨input, place⟩ := pc
  obtain rfl : input = inp := holds.input
  obtain ⟨input, place'⟩ := next
  obtain ⟨same, moved, _⟩ := moves_of_step stepped
  have carried : ∀ courierId ∈ self.courierId,
      courierId ∈ candidates _ (trace ++ commands.map .issued) := fun courierId mem =>
    mem_candidates_append (holds.courier courierId mem) _
  cases moved with
  | keeps phase _ courier unpublished unsettled =>
      refine holds.extend same (courier ▸ carried) ?_ ?_ ?_
      · rw [phase, courier]
        exact holds.held
      · rw [unpublished]
        exact List.forall_mem_nil _
      · rw [unsettled]
        exact List.forall_mem_nil _
  | satisfied present =>
      exact holds.extend same carried (fun _ => present) (List.forall_mem_nil _)
        (List.forall_mem_nil _)
  | fallsBack =>
      refine holds.extend same ?_ (fun _ => rfl) (List.forall_mem_nil _) (List.forall_mem_nil _)
      rintro courierId ⟨rfl⟩
      exact List.mem_cons_self
  | publishes =>
      obtain ⟨courierId, candidate, known⟩ := holds.carrier (Or.inl rfl)
      refine holds.extend same carried (fun _ => holds.held (Or.inl rfl)) ?_ ?_
      · intro named mem
        refine ⟨courierId, candidate, ?_⟩
        rw [OrderWorkflow.stage, known] at mem
        split at mem
        · simpa [publications, publication] using mem
        · cases mem
      · rw [unsettled_stage]
        exact List.forall_mem_nil _
  | settles =>
      obtain ⟨courierId, candidate, known⟩ := holds.carrier (Or.inr rfl)
      refine holds.extend same carried (fun ahead => ?_) (List.forall_mem_nil _) ?_
      · rcases ahead with ahead | ahead <;> cases ahead
      · intro started mem
        refine ⟨courierId, candidate, ?_⟩
        rw [← known]
        simpa [settlementStarts, settlementStart, OrderWorkflow.settlement, settlementOf] using mem

theorem Entrusted.resumes (holds : Entrusted inp trace pc self) {resolution : Resolution}
    (resumed : OrderWorkflow.resume resolution pc self = some next) :
    Entrusted inp trace next self := by
  obtain ⟨same, reached⟩ := resumes_of_resume resumed
  refine ⟨same.trans holds.input, holds.courier, fun ahead => ?_, holds.published, holds.settled⟩
  rcases resumes_of_resumePlace reached with ⟨phase, _⟩ | ⟨_, fallback, _⟩ | raised
  · rw [phase] at ahead
    exact holds.held ahead
  · rw [fallback] at ahead
    rcases ahead with ahead | ahead <;> cases ahead
  · rw [raised] at ahead
    rcases ahead with ahead | ahead <;> cases ahead

/-- An order is carried by a candidate, along its one run. -/
def entrusted (inp : OrderInput) : orderWorkflow.Invariant inp where
  Idle trace pc self _ := Entrusted inp trace pc self
  Busy trace pc self _ := Entrusted inp trace pc self
  initial := ⟨rfl, nofun, nofun, nofun, nofun⟩
  handled signal holds := holds.handled signal
  advanced holds _ := holds.append rfl rfl
  resolved holds _ resumed := by
    rw [List.append_assoc]
    exact (holds.resumes resumed).append rfl rfl
  proceeds holds stepped := holds.proceeds stepped
  suspends holds _ := holds
  continues _ stepped := absurd stepped not_continues

end Steps

/-- Whatever becomes of an order, it has asked its own region for a courier at most
once, under its own workflow id. -/
theorem requests_of_chain {inp : OrderInput} {trace : List Event} {config : Config}
    (chain : orderWorkflow.Chain inp trace config) :
    requests trace = [] ∨ requests trace = [requestOf inp] :=
  (requested inp).everywhere (fun holds => holds.asks.imp_right And.right)
    (fun holds => holds.asks.imp_right And.right)
    (fun _ once => by simpa [requests, request] using once)
    (fun once => by simpa [requests, request] using once) chain

/-- Every courier an order has published, or started its settlement with, is a candidate. -/
def NamesCandidates (inp : OrderInput) (trace : List Event) : Prop :=
  (∀ named ∈ publications trace,
    ∃ courierId ∈ candidates inp trace, named = orUnknown (some courierId)) ∧
  ∀ started ∈ settlementStarts trace, ∃ courierId ∈ candidates inp trace,
    started = settlementOf inp (orUnknown (some courierId))

/-- Whatever becomes of an order, it names only couriers who were assigned to it, or its
synthetic one. -/
theorem names_of_chain {inp : OrderInput} {trace : List Event} {config : Config}
    (chain : orderWorkflow.Chain inp trace config) : NamesCandidates inp trace := by
  refine (entrusted inp).everywhere (fun holds => ⟨holds.published, holds.settled⟩)
    (fun holds => ⟨holds.published, holds.settled⟩) (fun _ names => ?_) (fun names => ?_) chain
  -- closing names no one
  all_goals
    simpa [NamesCandidates, publications, publication, settlementStarts, settlementStart,
      candidates, couriersAssigned, assignedCourier] using names

end WardenDemo.Order
