import WardenDemo.Common.Retry
import WardenDemo.Control.Cache
import WardenDemo.Order.Refusal

/-!
# The activities of an order

An attempt of an activity runs in a worker process: it reads the control cache of the
process, draws a number, and may sleep. The server gives up an attempt past its
start-to-close timeout, and one whose process has gone, and retries it.

An attempt of `authorize_payment` reads the cache twice, and the map may be swapped in
between.
-/

namespace WardenDemo.Order

open Control Durable

/-- What an attempt raises; `float` raises a `TypeError`, `ValueError` or `OverflowError`. -/
inductive ActivityError where
  | application (message : String) (nonRetryable : Bool)
  | conversion
  | startToClose
deriving DecidableEq, Repr

def ActivityError.retryable : ActivityError → Bool
  | .application _ nonRetryable => !nonRetryable
  | .conversion | .startToClose => true

/-- What an attempt finds: the cache as it is read for the switch and for the
parameters, the draw, and whether the process goes before the attempt is done. -/
structure Host where
  switch : Cache := {}
  params : Cache := {}
  draw : Rat := 0
  lost : Bool := false

/-- What the function of an activity does: how long it sleeps, in seconds, and what it
returns or raises then. -/
structure Performed where
  seconds : Nat := 0
  outcome : Except ActivityError Json

def validateOrder (slow : Bool) : Performed where
  seconds := if slow then 30 else 0
  outcome := .ok (.str "valid")

/-- The probability with which an enabled storm refuses a payment, if it converts. -/
def stormProbability (numerals : Json.Numerals) (cache : Cache) : Option FloatValue :=
  (((cache.getParams retryStorm).lookup "failure_probability").getD
    (.float .pointSix)).toFloat numerals

def authorizePayment (numerals : Json.Numerals) (orderId : String) (host : Host) : Performed where
  outcome :=
    if host.switch.isEnabled retryStorm then
      match stormProbability numerals host.params with
      | none => .error .conversion
      | some probability =>
          if probability.above host.draw then
            .error (.application "payment gateway timeout (injected)" false)
          else .ok (.str s!"auth-{orderId}")
    else .ok (.str s!"auth-{orderId}")

def sendToRestaurant (shouldFail : Bool) : Performed where
  outcome :=
    if shouldFail then .error (.application "restaurant rejected order (injected)" true)
    else .ok (.str "sent")

def pollRestaurantAccept : Performed where
  outcome := .ok (.bool true)

def markPickedUp : Performed where
  outcome := .ok (.str "picked_up")

def markDelivered : Performed where
  outcome := .ok (.str "delivered")

namespace Activity

def startToCloseTimeout : Activity → Nat
  | .validateOrder => 8
  | _ => 10

def retryPolicy : Activity → RetryPolicy
  | .authorizePayment => stormRetry
  | _ => defaultRetry

variable (numerals : Json.Numerals) (inp : OrderInput)

def perform (host : Host) : Activity → Performed
  | .validateOrder => Order.validateOrder inp.slowValidate
  | .authorizePayment => Order.authorizePayment numerals inp.orderId host
  | .sendToRestaurant => Order.sendToRestaurant inp.failAtRestaurant
  | .pollRestaurantAccept => Order.pollRestaurantAccept
  | .markPickedUp => Order.markPickedUp
  | .markDelivered => Order.markDelivered

/-- What the server makes of an attempt. -/
def attempt (activity : Activity) (host : Host) : Except ActivityError Json :=
  if host.lost ||
      decide (activity.startToCloseTimeout < (activity.perform numerals inp host).seconds) then
    .error .startToClose
  else (activity.perform numerals inp host).outcome

/-- What becomes of an activity whose attempts find the given hosts. -/
def execute (activity : Activity) (hosts : Nat → Host) : Retried ActivityError Json :=
  activity.retryPolicy.run ActivityError.retryable fun number =>
    activity.attempt numerals inp (hosts number)

end Activity

/-- How the activities of an order end, by the hosts their attempts find. -/
def outcomes (numerals : Json.Numerals) (inp : OrderInput) (hosts : Activity → Nat → Host)
    (activity : Activity) : Bool :=
  (activity.execute numerals inp (hosts activity)).result.isOk

/-- A host lets an attempt through: it stays up, and where the attempt is of a payment,
no storm refuses it. -/
def Host.Serves (numerals : Json.Numerals) (activity : Activity) (host : Host) : Prop :=
  host.lost = false ∧ (activity = .authorizePayment → host.switch.isEnabled retryStorm = true →
    ∃ probability, stormProbability numerals host.params = some probability ∧
      probability.above host.draw = false)

/-- The input spares an activity: validation is not slow, and the restaurant accepts. -/
def Activity.Spared (inp : OrderInput) : Activity → Prop
  | .validateOrder => inp.slowValidate = false
  | .sendToRestaurant => inp.failAtRestaurant = false
  | _ => True

section Attempts

variable {numerals : Json.Numerals} {inp : OrderInput} {activity : Activity} {host : Host}
  {hosts : Nat → Host}

/-- A payment is authorised unless a storm is on and refuses it. -/
theorem authorizePayment_isOk {orderId : String} :
    (authorizePayment numerals orderId host).outcome.isOk = true ↔
      (host.switch.isEnabled retryStorm = true →
        ∃ probability, stormProbability numerals host.params = some probability ∧
          probability.above host.draw = false) := by
  unfold authorizePayment
  by_cases storm : host.switch.isEnabled retryStorm = true
  · cases converted : stormProbability numerals host.params with
    | none => simp [storm, Except.isOk, Except.toBool]
    | some probability =>
        cases refused : probability.above host.draw <;>
          simp [storm, refused, Except.isOk, Except.toBool]
  · simp [storm, Except.isOk, Except.toBool]

/-- An attempt completes in time and without an error, on a host which stays up. -/
theorem attempt_isOk_iff_performed : (activity.attempt numerals inp host).isOk = true ↔
    host.lost = false ∧
      (activity.perform numerals inp host).seconds ≤ activity.startToCloseTimeout ∧
      (activity.perform numerals inp host).outcome.isOk = true := by
  unfold Activity.attempt
  split
  · next stopped =>
      simp only [Bool.or_eq_true, decide_eq_true_eq] at stopped
      simp only [Except.isOk, Except.toBool, Bool.false_eq_true, false_iff, not_and]
      intro up within
      rw [up] at stopped
      rcases stopped with gone | late
      · cases gone
      · exact absurd within (Nat.not_le.mpr late)
  · next running =>
      simp only [Bool.or_eq_true, decide_eq_true_eq, not_or, Bool.not_eq_true] at running
      simp [running.1, Nat.le_of_not_lt running.2]

/-- An attempt completes exactly if the input spares it and the host lets it through. -/
theorem attempt_isOk_iff : (activity.attempt numerals inp host).isOk = true ↔
    activity.Spared inp ∧ host.Serves numerals activity := by
  rw [attempt_isOk_iff_performed, Host.Serves]
  cases activity with
  | authorizePayment =>
      have prompt : (authorizePayment numerals inp.orderId host).seconds = 0 := rfl
      simp only [Activity.perform, Activity.Spared, authorizePayment_isOk, prompt, Nat.zero_le,
        true_and, forall_const]
  | validateOrder =>
      cases slow : inp.slowValidate <;>
        simp [Activity.perform, Activity.Spared, validateOrder, slow,
          Activity.startToCloseTimeout, Except.isOk, Except.toBool]
  | sendToRestaurant =>
      cases fails : inp.failAtRestaurant <;>
        simp [Activity.perform, Activity.Spared, sendToRestaurant, fails,
          Activity.startToCloseTimeout, Except.isOk, Except.toBool]
  | pollRestaurantAccept | markPickedUp | markDelivered =>
      simp [Activity.perform, Activity.Spared, pollRestaurantAccept, markPickedUp,
        markDelivered, Except.isOk, Except.toBool]

/-- Only the restaurant's refusal is final. -/
theorem retries_of_spared (spared : activity.Spared inp)
    (failed : ¬ (activity.attempt numerals inp host).isOk = true) :
    Retries ActivityError.retryable (activity.attempt numerals inp host) := by
  cases result : activity.attempt numerals inp host with
  | ok value =>
      rw [result] at failed
      exact absurd rfl failed
  | error raised =>
      refine ⟨raised, rfl, ?_⟩
      unfold Activity.attempt at result
      split at result
      · cases result
        rfl
      · cases activity with
        | authorizePayment =>
            simp only [Activity.perform, authorizePayment] at result
            split at result
            · split at result
              · cases result
                rfl
              · split at result <;> cases result
                rfl
            · cases result
        | sendToRestaurant =>
            have accepts : inp.failAtRestaurant = false := spared
            simp [Activity.perform, sendToRestaurant, accepts] at result
        | validateOrder | pollRestaurantAccept | markPickedUp | markDelivered =>
            cases result

theorem maximumAttempts_pos (activity : Activity) :
    0 < activity.retryPolicy.maximumAttempts := by
  cases activity <;> decide

/-- An activity completes exactly if the input spares it and one of the hosts of its
attempts lets it through. -/
theorem execute_isOk_iff : (activity.execute numerals inp hosts).result.isOk = true ↔
    activity.Spared inp ∧
      ∃ number < activity.retryPolicy.maximumAttempts, (hosts number).Serves numerals activity := by
  unfold Activity.execute
  by_cases spared : activity.Spared inp
  · rw [run_isOk_iff_of_retries (maximumAttempts_pos activity)]
    · simp only [attempt_isOk_iff, spared, true_and]
    · exact fun number => Classical.or_iff_not_imp_left.mpr (retries_of_spared spared)
  · rw [run_isOk_iff (maximumAttempts_pos activity)]
    simp [attempt_isOk_iff, spared]

theorem authorizePayment_of_serves (serves : host.Serves numerals .authorizePayment) :
    Activity.authorizePayment.attempt numerals inp host = .ok (.str s!"auth-{inp.orderId}") := by
  obtain ⟨up, passes⟩ := serves
  have prompt : (authorizePayment numerals inp.orderId host).seconds = 0 := rfl
  unfold Activity.attempt
  simp only [up, Activity.perform, prompt, Nat.not_lt_zero, decide_false, Bool.or_false,
    Bool.false_eq_true, if_false]
  unfold authorizePayment
  by_cases storm : host.switch.isEnabled retryStorm = true
  · obtain ⟨probability, converted, passed⟩ := passes rfl storm
    simp [storm, converted, passed]
  · simp [storm]

end Attempts

/-- While a storm refuses a payment, the payment is attempted again every second; the
first attempt which is let through authorises it, and only after a thousand refusals
does it fail. -/
theorem payment_outlasts_storm (numerals : Json.Numerals) (inp : OrderInput)
    (hosts : Nat → Host) :
    let refused := fun number => ¬ (hosts number).Serves numerals .authorizePayment
    let payment := Activity.authorizePayment.execute numerals inp hosts
    (∀ number < 1000, (∀ before < number, refused before) → ¬ refused number →
      payment = ⟨.ok (.str s!"auth-{inp.orderId}"), number + 1, number⟩) ∧
    ((∀ number < 1000, refused number) → ∃ raised, raised.retryable = true ∧
      payment = ⟨.error raised, 1000, 999⟩) := by
  intro refused payment
  have again : ∀ number, refused number → Retries ActivityError.retryable
      (Activity.authorizePayment.attempt numerals inp (hosts number)) := by
    intro number refuses
    have spared : Activity.authorizePayment.Spared inp := trivial
    apply retries_of_spared spared
    rw [attempt_isOk_iff]
    exact fun passes => refuses passes.2
  constructor
  · intro number within earlier passes
    have completes : Activity.authorizePayment.attempt numerals inp (hosts number) =
        .ok (.str s!"auth-{inp.orderId}") :=
      authorizePayment_of_serves (Classical.not_not.mp passes)
    have final : ¬ Retries ActivityError.retryable
        (Activity.authorizePayment.attempt numerals inp (hosts number)) := by
      rintro ⟨raised, failed, _⟩
      rw [completes] at failed
      cases failed
    have ran : payment = ⟨_, number + 1, stormRetry.waitedBefore number⟩ :=
      run_eq within (fun before below => again before (earlier before below)) (Or.inr final)
    rw [ran, completes, waitedBefore_stormRetry]
  · intro all
    obtain ⟨raised, failed, retried⟩ := again 999 (all 999 (by omega))
    have ran : payment = ⟨Activity.authorizePayment.attempt numerals inp (hosts 999), 1000,
        stormRetry.waitedBefore 999⟩ :=
      run_of_exhausted (maximumAttempts_pos .authorizePayment) fun number below =>
        again number (all number below)
    refine ⟨raised, retried, ?_⟩
    rw [ran, waitedBefore_stormRetry, failed]
    rfl

/-- The input spares an order, and each of its activities finds a host that serves it
within the attempts it has. -/
def Deliverable (numerals : Json.Numerals) (inp : OrderInput) (hosts : Activity → Nat → Host) :
    Prop :=
  inp.slowValidate = false ∧ inp.failAtRestaurant = false ∧
    ∀ activity, ∃ number < activity.retryPolicy.maximumAttempts,
      (hosts activity number).Serves numerals activity

theorem outcomes_iff {numerals : Json.Numerals} {inp : OrderInput}
    {hosts : Activity → Nat → Host} :
    (∀ activity, outcomes numerals inp hosts activity = true) ↔
      Deliverable numerals inp hosts := by
  simp only [outcomes, execute_isOk_iff, Deliverable]
  constructor
  · intro completes
    exact ⟨(completes .validateOrder).1, (completes .sendToRestaurant).1,
      fun activity => (completes activity).2⟩
  · rintro ⟨prompt, accepted, served⟩ activity
    refine ⟨?_, served activity⟩
    cases activity with
    | validateOrder => exact prompt
    | sendToRestaurant => exact accepted
    | authorizePayment | pollRestaurantAccept | markPickedUp | markDelivered => trivial

/-- An order which is over has started its settlement, once, exactly if it is spared and its
activities find hosts that serve them in time, and otherwise never. It has been delivered if
the server then has started the settlement child as well, and has failed if not. -/
theorem order_delivered_iff {numerals : Json.Numerals} {inp : OrderInput}
    {hosts : Activity → Nat → Host} {trace : List Event} {config : Config}
    (prompt : inp.forceTimeout = false) (chain : orderWorkflow.Chain inp trace config)
    (ends : Ends (outcomes numerals inp hosts) trace) (closed : config.Closed) :
    (settlements (milestones trace) = 1 ↔ Deliverable numerals inp hosts) ∧
    (settlements (milestones trace) = 0 ↔ ¬ Deliverable numerals inp hosts) ∧
    (config = .completed "delivered" ↔ Deliverable numerals inp hosts ∧ ¬ Refused trace) ∧
    (config = .failed ↔ ¬ Deliverable numerals inp hosts ∨ Refused trace) := by
  have succeeds_iff : succeeds (outcomes numerals inp hosts) (saga inp) = true ↔
      Deliverable numerals inp hosts :=
    (succeeds_saga_iff inp _).trans outcomes_iff
  have count := settlements_of_closed prompt chain ends closed
  have ended := ending_of_closed prompt chain ends closed
  rw [settlements_saga] at count
  rw [← succeeds_iff, count, ended]
  by_cases delivered : succeeds (outcomes numerals inp hosts) (saga inp) = true
  · by_cases refused : Refused trace <;> simp [delivered, refused]
  · simp [delivered]

/-- The storm enabled with its default probability. -/
def storming : Cache := { scenarios := mergeScenario defaultScenarios retryStorm true ∅ }

/-- A storm which is on for the first three attempts of everything. -/
def calming (_activity : Activity) (number : Nat) : Host :=
  if number < 3 then { switch := storming, params := storming } else {}

/-- An order whose payment a storm refuses three times before it is turned off, and the same
order when the server does not start its settlement. -/
theorem order_delivered_iff_of_storm :
    ∃ trace trace', orderWorkflow.Chain
        { orderId := "0123456789ab", region := "us-west", restaurantId := "r1" } trace
        (.completed "delivered") ∧
      orderWorkflow.Chain
        { orderId := "0123456789ab", region := "us-west", restaurantId := "r1" } trace'
        .failed ∧
      ¬ Refused trace ∧ Refused trace' ∧
      settlements (milestones trace) = 1 ∧ settlements (milestones trace') = 1 := by
  have chain := Workflow.Chain.of_replay orderWorkflow 10
    { orderId := "0123456789ab", region := "us-west", restaurantId := "r1" }
    [⟨[], none, 3⟩, ⟨[], some .activityCompleted, 9⟩, ⟨[], some .activityCompleted, 15⟩,
      ⟨[], some .activityCompleted, 21⟩, ⟨[], some .timerFired, 26⟩,
      ⟨[], some .activityCompleted, 32⟩, ⟨[], some .timerFired, 38⟩,
      ⟨[.courierAssigned "7-ab"], some .signalSent, 44⟩, ⟨[], some .activityCompleted, 50⟩,
      ⟨[], some .timerFired, 56⟩, ⟨[], some .activityCompleted, 62⟩,
      ⟨[], some .childStarted, 68⟩] rfl
  have chain' := Workflow.Chain.of_replay orderWorkflow 10
    { orderId := "0123456789ab", region := "us-west", restaurantId := "r1" }
    [⟨[], none, 3⟩, ⟨[], some .activityCompleted, 9⟩, ⟨[], some .activityCompleted, 15⟩,
      ⟨[], some .activityCompleted, 21⟩, ⟨[], some .timerFired, 26⟩,
      ⟨[], some .activityCompleted, 32⟩, ⟨[], some .timerFired, 38⟩,
      ⟨[.courierAssigned "7-ab"], some .signalSent, 44⟩, ⟨[], some .activityCompleted, 50⟩,
      ⟨[], some .timerFired, 56⟩, ⟨[], some .activityCompleted, 62⟩,
      ⟨[], some .childFailed, 68⟩] rfl
  have numerals : Json.Numerals := ⟨⟨fun _ => none, fun _ => ""⟩, fun _ => none⟩
  have deliverable : Deliverable numerals
      { orderId := "0123456789ab", region := "us-west", restaurantId := "r1" } calming := by
    refine ⟨rfl, rfl, fun activity => ⟨3, ?_, rfl, fun _ storm => ?_⟩⟩
    · cases activity <;> decide
    · cases storm
  have all : outcomes numerals
      { orderId := "0123456789ab", region := "us-west", restaurantId := "r1" } calming =
        fun _ => true :=
    funext (outcomes_iff.mpr deliverable)
  obtain ⟨once, -, delivered, -⟩ := @order_delivered_iff numerals _ calming _ _ rfl chain
    (by rw [all]; decide) trivial
  obtain ⟨once', -, -, failed⟩ := @order_delivered_iff numerals _ calming _ _ rfl chain'
    (by rw [all]; decide) trivial
  exact ⟨_, _, chain, chain', (delivered.mp rfl).2,
    (failed.mp rfl).resolve_left (not_not_intro deliverable), once.mpr deliverable,
    once'.mpr deliverable⟩

end WardenDemo.Order
