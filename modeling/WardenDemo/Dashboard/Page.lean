import WardenDemo.Control.LastWriter

/-!
# Dashboard pages

A page keeps the scenario map of its last refresh. What is done on a card of it is
posted to the server together with everything else the page shows of that scenario,
and merged into the map when the post arrives. Any number of pages are open; posts
and answers are under way for any time, and overtake each other.
-/

namespace WardenDemo.Dashboard

open Control

/-- What the page and the server know of a control; labels and ranges are left out. -/
structure CardControl where
  param : String
  default : Json

/-- A card of the page: the scenario it is for, and controls for different params. -/
structure Card where
  key : String
  controls : List CardControl
  distinct : (controls.map CardControl.param).Nodup

def retryStormCard : Card where
  key := retryStorm
  controls := [⟨"failure_probability", .float .pointSix⟩]
  distinct := by decide

def entityHistoryCard : Card where
  key := entityHistory
  controls := [⟨"region", .str "us-west"⟩, ⟨"inflate_rate", .int 40⟩]
  distinct := by decide

def closeHistoryBloatCard : Card where
  key := closeHistoryBloat
  controls := [⟨"iterations", .int 700⟩]
  distinct := by decide

def workflowFailureCard : Card where
  key := workflowFailure
  controls := [⟨"failure_probability", .float .pointFour⟩]
  distinct := by decide

def timeoutSpikeCard : Card where
  key := timeoutSpike
  controls := [⟨"probability", .float (.finite (1 / 2))⟩]
  distinct := by decide

def fanoutStormCard : Card where
  key := fanoutStorm
  controls := [⟨"children", .int 400⟩]
  distinct := by decide

/-- `SCENARIOS`. -/
def scenarios : List Card :=
  [retryStormCard, entityHistoryCard, closeHistoryBloatCard, workflowFailureCard,
    timeoutSpikeCard, fanoutStormCard]

def paramValue (state : ScenarioMap) (key param : String) (default : Json) : Json :=
  ((scenarioOf state key).params.lookup param).getD default

/-- Everything a page shows of a scenario, with the fixed entity_history flags. -/
def collectParams (state : ScenarioMap) (card : Card) : Dict Json :=
  let params := card.controls.foldl
    (fun params control =>
      params.insert control.param (paramValue state card.key control.param control.default)) ∅
  if card.key = entityHistory then
    (params.insert "suspend_can" (.bool true)).insert "inflate_history" (.bool true)
  else params

/-- What is done on a card: its switch is flipped, or one of its controls is set. -/
inductive Action (card : Card) where
  | toggle (enabled : Bool)
  | edit (control : CardControl) (shown : control ∈ card.controls) (value : Json)

/-- A post under way, by what was done and the map the page had then. -/
structure Post where
  card : Card
  known : card ∈ scenarios
  action : Action card
  state : ScenarioMap

namespace Post

variable (post : Post)

/-- The switch the post carries: `onToggle` sends the new one, `onParam` the old. -/
def enabled : Bool :=
  match post.action with
  | .toggle enabled => enabled
  | .edit _ _ _ => (scenarioOf post.state post.card.key).enabled

def params : Dict Json :=
  match post.action with
  | .toggle _ => collectParams post.state post.card
  | .edit control _ value => (collectParams post.state post.card).insert control.param value

/-- What the server makes of the post. -/
def op : Op := .signal (.setScenario post.card.key post.enabled (some post.params))

end Post

/-- The server and the pages, what is under way between them, and the posts which
have arrived, in order. -/
structure World where
  server : ScenarioMap
  pages : Nat → ScenarioMap := fun _ => ∅
  answers : List (Nat × ScenarioMap) := []
  posts : List Post := []
  delivered : List Post := []

/-- The control workflow has handled some signals before the first page is opened. -/
def World.init (earlier : List Op) : World := { server := replayed earlier }

inductive Label where
  | poll (page : Nat) (available : Bool)
  | refresh (answer : Nat)
  | act (page : Nat) (card : Card) (known : card ∈ scenarios) (action : Action card)
  | deliver (post : Nat)

/-- `/api/health` answers with the defaults where the query fails; a page is
refreshed when an answer arrives. -/
def World.step (world : World) : Label → World
  | .poll page available =>
      let state := if available then world.server else defaultScenarios
      { world with answers := world.answers ++ [(page, state)] }
  | .refresh answer =>
      match world.answers[answer]? with
      | none => world
      | some (page, state) =>
          { world with
            pages := fun other => if other = page then state else world.pages other
            answers := world.answers.eraseIdx answer }
  | .act page card known action =>
      { world with posts := world.posts ++ [⟨card, known, action, world.pages page⟩] }
  | .deliver post =>
      match world.posts[post]? with
      | none => world
      | some arrived =>
          { world with
            server := applyOp world.server arrived.op
            posts := world.posts.eraseIdx post
            delivered := world.delivered ++ [arrived] }

end WardenDemo.Dashboard
