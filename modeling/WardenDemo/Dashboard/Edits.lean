import WardenDemo.Dashboard.Page
import WardenDemo.Fold.Runs

/-!
# Lost edits

The last post of a scenario to arrive decides all of it that the pages show: what
was done, and for the rest what the page showed then. So edits are kept exactly if
that page showed the others which have arrived, as it does when they are made one at
a time.
-/

namespace WardenDemo.Dashboard

open Control Fold

section Cards

theorem lookup_collected_of_absent (controls : List CardControl) (value : CardControl → Json)
    (start : Dict Json) {param : String} (absent : param ∉ controls.map CardControl.param) :
    (controls.foldl (fun params control => params.insert control.param (value control))
      start).lookup param = start.lookup param := by
  induction controls generalizing start with
  | nil => rfl
  | cons control rest ih =>
      obtain ⟨differs, later⟩ := not_or.mp (List.mem_cons.not.mp absent)
      rw [List.foldl_cons, ih _ later]
      exact Finmap.lookup_insert_of_ne _ differs

/-- The values collected are those of the controls, whatever was collected first. -/
theorem lookup_collected (controls : List CardControl) (value : CardControl → Json)
    (start : Dict Json) (distinct : (controls.map CardControl.param).Nodup)
    {control : CardControl} (shown : control ∈ controls) :
    (controls.foldl (fun params control => params.insert control.param (value control))
      start).lookup control.param = some (value control) := by
  induction controls generalizing start with
  | nil => cases shown
  | cons first rest ih =>
      obtain ⟨single, later⟩ := List.nodup_cons.mp distinct
      rw [List.foldl_cons]
      rcases List.mem_cons.mp shown with rfl | shown
      · rw [lookup_collected_of_absent rest value _ single]
        exact Finmap.lookup_insert _
      · exact ih _ later shown

theorem card_of_key {card other : Card} (known : card ∈ scenarios) (known' : other ∈ scenarios)
    (same : card.key = other.key) : card = other := by
  have distinct : (scenarios.map Card.key).Nodup := by decide
  exact List.inj_on_of_nodup_map distinct known known' same

/-- No control is for one of the fixed flags. -/
theorem control_not_fixed : ∀ card ∈ scenarios, ∀ control ∈ card.controls,
    control.param ≠ "suspend_can" ∧ control.param ≠ "inflate_history" := by
  decide

theorem lookup_collectParams {card : Card} (known : card ∈ scenarios) (state : ScenarioMap)
    {control : CardControl} (shown : control ∈ card.controls) :
    (collectParams state card).lookup control.param =
      some (paramValue state card.key control.param control.default) := by
  obtain ⟨unsuspended, uninflated⟩ := control_not_fixed card known control shown
  have collected := lookup_collected card.controls
    (fun control => paramValue state card.key control.param control.default) ∅ card.distinct shown
  unfold collectParams
  dsimp only
  split
  · rw [Finmap.lookup_insert_of_ne _ uninflated, Finmap.lookup_insert_of_ne _ unsuspended]
    exact collected
  · exact collected

end Cards

namespace Post

/-- The post itself, if it is for a scenario. -/
def about (key : String) (post : Post) : Option Post :=
  if post.card.key = key then some post else none

/-- What a post was made to set the switch to. -/
def toggled (post : Post) : Option Bool :=
  match post.action with
  | .toggle enabled => some enabled
  | .edit _ _ _ => none

/-- What a post was made to set a param to. -/
def edited (param : String) (post : Post) : Option Json :=
  match post.action with
  | .toggle _ => none
  | .edit control _ value => if control.param = param then some value else none

variable (post : Post)

theorem enabled_eq : post.enabled =
    post.toggled.getD (scenarioOf post.state post.card.key).enabled := by
  unfold enabled toggled
  cases post.action <;> rfl

/-- A post carries what it was made to set, and else what the page showed. -/
theorem lookup_params {control : CardControl} (shown : control ∈ post.card.controls) :
    post.params.lookup control.param = some ((post.edited control.param).getD
      (paramValue post.state post.card.key control.param control.default)) := by
  have collected := lookup_collectParams post.known post.state shown
  unfold params edited
  cases post.action with
  | toggle enabled => exact collected
  | edit target _ value =>
      dsimp only
      rw [Dict.lookup_insert]
      by_cases same : target.param = control.param
      · rw [if_pos same.symm, if_pos same, Option.getD_some]
      · rw [if_neg (Ne.symm same), if_neg same, Option.getD_none]
        exact collected

theorem enabledFor_op (key : String) :
    post.op.enabledFor key = (post.about key).bind fun post => some post.enabled := by
  rw [op, about, Op.enabledFor]
  by_cases same : post.card.key = key
  · rw [if_pos same, if_pos same, Option.bind_some]
  · rw [if_neg same, if_neg same, Option.bind_none]

theorem paramFor_op (key param : String) :
    post.op.paramFor key param = (post.about key).bind fun post => post.params.lookup param := by
  rw [op, about, Op.paramFor]
  by_cases same : post.card.key = key
  · rw [if_pos same, if_pos same, Option.bind_some, Option.getD_some]
  · rw [if_neg same, if_neg same, Option.bind_none]

end Post

namespace World

variable (world : World)

/-- The last post for a scenario to arrive. -/
def lastPost (key : String) : Option Post := lastWritten (Post.about key) world.delivered

/-- The last switch to arrive. -/
def lastToggle (key : String) : Option Bool :=
  lastWritten (fun post => (post.about key).bind Post.toggled) world.delivered

/-- The last value of a param to arrive from its control. -/
def lastEdit (key param : String) : Option Json :=
  lastWritten (fun post => (post.about key).bind (Post.edited param)) world.delivered

/-- Every scenario is as the last edits of it to arrive say. -/
def KeepsEdits : Prop :=
  ∀ key, (∀ enabled, world.lastToggle key = some enabled →
      (scenarioOf world.server key).enabled = enabled) ∧
    ∀ param value, world.lastEdit key param = some value →
      (scenarioOf world.server key).params.lookup param = some value

/-- The page that the last post of a scenario was made on showed what had arrived, or
was to arrive before the post, of what the post was not made to set. -/
def MadeUpToDate : Prop :=
  ∀ key post, world.lastPost key = some post →
    (∀ enabled, post.toggled = none → world.lastToggle key = some enabled →
      (scenarioOf post.state key).enabled = enabled) ∧
    ∀ control ∈ post.card.controls, ∀ value, post.edited control.param = none →
      world.lastEdit key control.param = some value →
        paramValue post.state key control.param control.default = value

/-- The map of the server is what the arrived posts have made of it. -/
def Merged (earlier : List Op) (world : World) : Prop :=
  world.server = replayed (earlier ++ world.delivered.map Post.op)

end World

section Runs

variable {world : World} {earlier : List Op} {key : String} {post : Post}

theorem about_eq_some {made : Post} : made.about key = some post ↔
    made = post ∧ made.card.key = key := by
  rw [Post.about, Option.ite_none_right_eq_some, Option.some.injEq, and_comm]

theorem key_of_lastPost (last : world.lastPost key = some post) : post.card.key = key := by
  obtain ⟨made, _, about⟩ := exists_of_lastWritten last
  obtain ⟨rfl, same⟩ := about_eq_some.mp about
  exact same

theorem merged_step (merged : world.Merged earlier) (label : Label) :
    (world.step label).Merged earlier := by
  cases label with
  | poll page available => exact merged
  | act page card known action => exact merged
  | refresh answer =>
      dsimp only [World.step]
      split <;> exact merged
  | deliver index =>
      dsimp only [World.step]
      split
      · exact merged
      · next arrived _ =>
          have before : world.server = replayed (earlier ++ world.delivered.map Post.op) := merged
          rw [World.Merged, before, List.map_append, ← List.append_assoc]
          simp [replayed]

theorem sinceReset_delivered :
    sinceReset Op.resets (earlier ++ world.delivered.map Post.op) =
      sinceReset Op.resets earlier ++ world.delivered.map Post.op := by
  apply sinceReset_append_of_none
  intro op member
  obtain ⟨post, _, rfl⟩ := List.mem_map.mp member
  rfl

/-- The last post decides the switch. -/
theorem enabled_of_lastPost (merged : world.Merged earlier)
    (last : world.lastPost key = some post) :
    (scenarioOf world.server key).enabled = post.enabled := by
  have written : lastWritten (fun post => Post.op post |>.enabledFor key) world.delivered =
      some post.enabled := by
    simp only [Post.enabledFor_op]
    exact lastWritten_bind last rfl
  rw [merged, enabled_replayed, sinceReset_delivered, lastWritten_append, lastWritten_of_map,
    written, Option.some_or, Option.getD_some]

/-- The last post decides each param it carries. -/
theorem param_of_lastPost {param : String} {value : Json} (merged : world.Merged earlier)
    (last : world.lastPost key = some post) (carried : post.params.lookup param = some value) :
    (scenarioOf world.server key).params.lookup param = some value := by
  have written : lastWritten (fun post => Post.op post |>.paramFor key param) world.delivered =
      some value := by
    simp only [Post.paramFor_op]
    exact lastWritten_bind last carried
  rw [merged, param_replayed, sinceReset_delivered, lastWritten_append, lastWritten_of_map,
    written, Option.some_or, Option.some_or]

/-- No post of a scenario has arrived, so nothing made on its card has. -/
theorem nothing_of_lastPost {α : Type} (last : world.lastPost key = none)
    (made : Post → Option α) :
    lastWritten (fun post => (post.about key).bind made) world.delivered = none := by
  have none := lastWritten_eq_none.mp last
  refine lastWritten_eq_none.mpr fun post member => ?_
  rw [none post member, Option.bind_none]

/-- What was edited on a card has a control on it. -/
theorem control_of_lastEdit {param : String} {value : Json}
    (arrived : world.lastEdit key param = some value) (last : world.lastPost key = some post) :
    ∃ control ∈ post.card.controls, control.param = param := by
  obtain ⟨made, _, written⟩ := exists_of_lastWritten arrived
  obtain ⟨other, about, edited⟩ := Option.bind_eq_some_iff.mp written
  obtain ⟨rfl, same⟩ := about_eq_some.mp about
  rw [← card_of_key made.known post.known (same.trans (key_of_lastPost last).symm)]
  unfold Post.edited at edited
  split at edited
  · cases edited
  · next control shown _ _ => exact ⟨control, shown, (Option.ite_none_right_eq_some.mp edited).1⟩

theorem KeepsEdits.madeUpToDate (merged : world.Merged earlier) (kept : world.KeepsEdits) :
    world.MadeUpToDate := by
  intro key post last
  obtain ⟨switch, params⟩ := kept key
  have same := key_of_lastPost last
  constructor
  · intro enabled untouched arrived
    have held := switch enabled arrived
    rwa [enabled_of_lastPost merged last, post.enabled_eq, untouched, same] at held
  · intro control shown value untouched arrived
    have held := params control.param value arrived
    rw [param_of_lastPost merged last (post.lookup_params shown), untouched, same] at held
    exact Option.some.inj held

theorem MadeUpToDate.keepsEdits (merged : world.Merged earlier) (current : world.MadeUpToDate) :
    world.KeepsEdits := by
  intro key
  cases last : world.lastPost key with
  | none =>
      constructor
      · intro enabled arrived
        cases (nothing_of_lastPost last _).symm.trans arrived
      · intro param value arrived
        cases (nothing_of_lastPost last _).symm.trans arrived
  | some post =>
      obtain ⟨switch, params⟩ := current key post last
      have same := key_of_lastPost last
      constructor
      · intro enabled arrived
        rw [enabled_of_lastPost merged last, post.enabled_eq, same]
        cases made : post.toggled with
        | none => exact switch enabled made arrived
        | some value => exact Option.some.inj ((lastWritten_bind last made).symm.trans arrived)
      · intro param value arrived
        obtain ⟨control, shown, rfl⟩ := control_of_lastEdit arrived last
        rw [param_of_lastPost merged last (post.lookup_params shown), same]
        cases made : post.edited control.param with
        | none => exact congrArg some (params control shown value made arrived)
        | some other => exact (lastWritten_bind last made).symm.trans arrived

theorem merged_init (earlier : List Op) : (World.init earlier).Merged earlier := by
  rw [World.Merged, World.init, List.map_nil, List.append_nil]

end Runs

/-- Over every interleaving of what any number of pages do, once all posts have
arrived every scenario is as the last edits of it say, if and only if the last post
of each was made on a page that showed the others. -/
theorem edits_kept_iff (earlier : List Op) (labels : List Label) :
    let world := labels.foldl World.step (World.init earlier)
    (world.posts = [] → world.KeepsEdits) ↔ (world.posts = [] → world.MadeUpToDate) := by
  have preserved (world : World) (label : Label) (merged : world.Merged earlier) :
      (world.step label).Merged earlier := merged_step merged label
  have merged := foldl_of_invariant preserved (merged_init earlier) labels
  exact imp_congr_right fun _ => ⟨KeepsEdits.madeUpToDate merged, MadeUpToDate.keepsEdits merged⟩

section OneAtATime

variable {world : World} {earlier : List Op} {post : Post}

/-- Something is done when nothing is under way, on a page that shows the map of the
server. -/
def OneAtATime (world : World) : Label → Prop
  | .act page _ _ _ => world.posts = [] ∧ world.pages page = world.server
  | .poll _ _ | .refresh _ | .deliver _ => True

/-- Edits have been kept, and the post under way, if there is one, was made on a page
that showed the map of the server. -/
structure Settled (earlier : List Op) (world : World) : Prop where
  merged : world.Merged earlier
  kept : world.KeepsEdits
  single : world.posts = [] ∨ ∃ post, world.posts = [post] ∧ post.state = world.server

/-- What a page shows as up to date stays so for the post made on it. -/
theorem madeUpToDate_delivered (merged : world.Merged earlier) (kept : world.KeepsEdits)
    (current : post.state = world.server) (posts : List Post) :
    World.MadeUpToDate { world with
      server := applyOp world.server post.op
      posts
      delivered := world.delivered ++ [post] } := by
  intro key last latest
  simp only [World.lastPost, World.lastToggle, World.lastEdit, lastWritten_append_singleton]
    at latest ⊢
  cases about : post.about key with
  | none =>
      rw [about, Option.none_or] at latest
      exact KeepsEdits.madeUpToDate merged kept key last latest
  | some made =>
      obtain ⟨rfl, _⟩ := about_eq_some.mp about
      rw [about, Option.some_or] at latest
      cases latest
      obtain ⟨switch, params⟩ := kept key
      constructor
      · intro enabled untouched arrived
        rw [Option.bind_some, untouched, Option.none_or] at arrived
        rw [current]
        exact switch enabled arrived
      · intro control _ value untouched arrived
        rw [Option.bind_some, untouched, Option.none_or] at arrived
        rw [paramValue, current, params control.param value arrived, Option.getD_some]

theorem Settled.step {label : Label} (settled : Settled earlier world)
    (alone : OneAtATime world label) : Settled earlier (world.step label) := by
  have merged := merged_step settled.merged label
  cases label with
  | poll page available => exact ⟨merged, settled.kept, settled.single⟩
  | act page card known action =>
      obtain ⟨none, current⟩ := alone
      refine ⟨merged, settled.kept, Or.inr ⟨⟨card, known, action, world.pages page⟩, ?_, current⟩⟩
      rw [World.step, none, List.nil_append]
  | refresh answer =>
      dsimp only [World.step] at merged ⊢
      split
      · exact settled
      · exact ⟨settled.merged, settled.kept, settled.single⟩
  | deliver index =>
      dsimp only [World.step] at merged ⊢
      split
      · exact settled
      · next arrived found =>
          rw [found] at merged
          rcases settled.single with none | ⟨post, single, current⟩
          · rw [none] at found
            cases found
          · rw [single, List.getElem?_singleton] at found
            split at found
            · next first =>
                cases found
                have upToDate := madeUpToDate_delivered settled.merged settled.kept current
                  (world.posts.eraseIdx index)
                refine ⟨merged, MadeUpToDate.keepsEdits merged upToDate, Or.inl ?_⟩
                simp [single, first]
            · cases found

/-- Edits made one at a time, each on a page that shows what the server has, are kept
at every step. -/
theorem edits_kept_one_at_a_time {labels : List Label}
    (alone : Along World.step OneAtATime (World.init earlier) labels) :
    Along World.step (fun world label => (world.step label).KeepsEdits) (World.init earlier)
      labels := by
  have start : Settled earlier (World.init earlier) := by
    refine ⟨merged_init earlier, fun key => ⟨?_, ?_⟩, Or.inl rfl⟩
    · intro enabled arrived
      cases arrived
    · intro param value arrived
      cases arrived
  have preserved (world : World) (label : Label) (settled : Settled earlier world)
      (alone : OneAtATime world label) : Settled earlier (world.step label) :=
    settled.step alone
  exact alone.of_invariant preserved
    (fun world label settled alone => (preserved world label settled alone).kept) start

end OneAtATime

/-- A switch flipped and a control set on a page once it is rendered, with no refresh in
between. -/
def quickClicks : List Label :=
  [.poll 0 true, .refresh 0,
    .act 0 retryStormCard List.mem_cons_self (.toggle true),
    .act 0 retryStormCard List.mem_cons_self
      (.edit ⟨"failure_probability", .float .pointSix⟩ List.mem_cons_self (.float .pointNine)),
    .deliver 0, .deliver 0]

/-- The second click takes back the first. -/
theorem second_click_undoes_toggle :
    ¬ ∀ (earlier : List Op) (labels : List Label),
      let world := labels.foldl World.step (World.init earlier)
      world.posts = [] → world.KeepsEdits := by
  intro kept
  have switch := (kept [] quickClicks rfl retryStorm).1 true rfl
  exact absurd switch (by decide)

end WardenDemo.Dashboard
