import Mathlib.Logic.Function.Basic

/-!
# Shared data models

The dataclasses used as workflow inputs and signal payloads, with the fields the
modelled workflows read, and the identifiers built from them.
-/

namespace WardenDemo

/-- Immutable start-time input of an order. -/
structure OrderInput where
  orderId : String
  region : String
  restaurantId : String
  failAtRestaurant : Bool := false
  slowValidate : Bool := false
  forceTimeout : Bool := false
  trackStages : Bool := true
deriving DecidableEq, Repr

/-- Live degradation signal for a dispatch region (S2). -/
structure Degradation where
  suspendCan : Bool := false
  inflateHistory : Bool := false
  inflateRate : Int := 40
deriving DecidableEq, Repr

structure OrderReady where
  orderId : String
  orderWfId : String
  region : String
deriving DecidableEq, Repr

structure CourierAvailable where
  courierId : String
  region : String
deriving DecidableEq, Repr

/-- The dict a dispatch region queues for a ready order. -/
structure PendingOrder where
  orderId : String
  orderWfId : String
deriving DecidableEq, Repr

/-- Carried state of a dispatch region across continue-as-new. -/
structure DispatchState where
  region : String
  pendingOrders : List PendingOrder := []
  availableCouriers : List String := []
  processed : Nat := 0
  degradation : Option Degradation := some {}
deriving DecidableEq, Repr

/-- Carried state of a courier shift across continue-as-new. -/
structure CourierState where
  courierId : String
  region : String
  assignments : Nat := 0
  pings : Nat := 0
  vehicleType : String := "bike"
deriving DecidableEq, Repr

/-- Carried from the parent order, with the same visibility dimensions. -/
structure SettlementInput where
  orderId : String
  region : String := ""
  restaurantId : String := ""
  courierId : String := ""
deriving DecidableEq, Repr

/-- The mode is any string; the modes the generator starts are `normal`,
`fanout_storm` and `sequential_bloat`. -/
structure BatchInput where
  batchId : String
  mode : String := "normal"
  children : Int := 6
  iterations : Int := 700
deriving DecidableEq, Repr

structure CandidateInput where
  batchId : String
  candidateId : String
deriving DecidableEq, Repr

/-- The id the generator starts an order under. -/
def orderWfId (orderId : String) : String := s!"order-{orderId}"

def dispatchId (region : String) : String := s!"dispatch-{region}"

/-- `courier_id`, which the generator imports as `courier_wf_id`. -/
def courierWfId (courier : String) : String := s!"courier-{courier}"

def settlementId (orderId : String) : String := s!"settle-{orderId}"

def candidateId (batchUuid : String) (n : Nat) : String := s!"cand-{batchUuid}-{n}"

/-- Counters which print alike are equal, and so are identifiers built from them. -/
theorem toString_nat_injective : Function.Injective fun counter : Nat => toString counter := by
  intro first second same
  have digits : Nat.toDigits 10 first = Nat.toDigits 10 second := String.ofList_injective same
  rw [← @Nat.ofDigitChars_ten_toDigits first, digits, Nat.ofDigitChars_ten_toDigits]

theorem orderWfId_injective : Function.Injective orderWfId := fun _ _ same =>
  (String.append_right_inj _).mp same

theorem dispatchId_injective : Function.Injective dispatchId := fun _ _ same =>
  (String.append_right_inj _).mp same

/-- The children of a batch have ids of their own. -/
theorem candidateId_injective (batchUuid : String) :
    Function.Injective (candidateId batchUuid) := by
  intro first second same
  apply toString_nat_injective
  exact (String.append_right_inj _).mp same

/-- A numbered identifier keeps its number: digits end at the dash. -/
theorem numbered_injective {first second : Nat} {hex suffix : String}
    (same : s!"{first}-{hex}" = s!"{second}-{suffix}") : first = second := by
  have digits (counter : Nat) (hex : String) :
      s!"{counter}-{hex}".toList.takeWhile Char.isDigit = Nat.toDigits 10 counter := by
    have spelled : (toString counter).toList = Nat.toDigits 10 counter := String.toList_ofList
    rw [String.toList_append, String.toList_append, spelled, List.append_assoc,
      List.takeWhile_append_of_pos fun _ => Nat.isDigit_of_mem_toDigits (by decide) (by decide)]
    simp [toString]
  apply toString_nat_injective
  exact congrArg String.ofList (by rw [← digits first hex, same, digits])

end WardenDemo
