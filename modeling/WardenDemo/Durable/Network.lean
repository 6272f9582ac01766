import Mathlib.Data.List.Dedup
import Mathlib.Data.List.Perm.Subperm
import Mathlib.Logic.Function.Basic
import WardenDemo.Durable.Schedule
import WardenDemo.Durable.Trace

/-!
# Networks of parties

Parties share nothing but messages. A message is posted to an id, and any party
of that id may take it in. Nothing orders the messages under way, each of them is
taken in at most once, and it may stay under way for ever.

The logs `posted` and `delivered` are written by every step and read by none:
they are what the conservation of messages is stated about.
-/

namespace WardenDemo.Durable

/-- A state machine which takes in messages and sends some; what it has handled and
sent so far is read off its state. -/
structure Party (Id Message : Type) where
  State : Type
  start : State
  id : Id
  handled : State → List Message
  sent : State → List (Id × Message)
  Moves : State → List Message → List (Id × Message) → State → Prop
  handled_start : handled start = []
  sent_start : sent start = []
  handled_moves : ∀ {state taken out next}, Moves state taken out next →
    handled next = handled state ++ taken
  sent_moves : ∀ {state taken out next}, Moves state taken out next →
    sent next = sent state ++ out

/-- A message with whom it is from, a party or a client of the network, and the id
it is posted to. -/
structure Envelope (Address Id Message : Type) where
  sender : Option Address
  recipient : Id
  message : Message
deriving DecidableEq, Repr

variable {Address Id Message : Type}

/-- What an envelope asks for: a message handed to an id. -/
def Envelope.request (envelope : Envelope Address Id Message) : Id × Message :=
  (envelope.recipient, envelope.message)

/-- What a party or a client sends is put under way under its name. -/
def Envelope.stamp (sender : Option Address) (request : Id × Message) :
    Envelope Address Id Message :=
  ⟨sender, request.1, request.2⟩

/-- The parties of a network between two steps, and the messages under way. -/
structure Net (party : Address → Party Id Message) where
  state : ∀ address, (party address).State
  flight : List (Envelope Address Id Message) := []
  posted : List (Envelope Address Id Message) := []
  delivered : List (Address × Envelope Address Id Message) := []

section Shares

variable {ε α κ : Type} [DecidableEq κ]

/-- What an entry holds for a key, if the key is its own. -/
def keyed (key : ε → κ) (value : ε → α) (mine : κ) (entry : ε) : Option α :=
  if key entry = mine then some (value entry) else none

theorem collect_keyed_filter_ne {key : ε → κ} {value : ε → α} {mine other : κ}
    (differs : mine ≠ other) (entries : List ε) :
    collect (keyed key value mine) (entries.filter fun entry => key entry ≠ other) =
      collect (keyed key value mine) entries := by
  induction entries with
  | nil => rfl
  | cons entry rest ih =>
      by_cases here : key entry = other
      · have missed : keyed key value mine entry = none := by
          simp [keyed, here, Ne.symm differs]
        simpa [here, missed] using ih
      · simpa [here] using ih

/-- Distinct keys hold at most what there is, each entry once. -/
theorem shares_subperm (key : ε → κ) (value : ε → α) {keys : List κ}
    (distinct : keys.Nodup) (entries : List ε) :
    (keys.flatMap fun mine => collect (keyed key value mine) entries).Subperm
      (entries.map value) := by
  induction keys generalizing entries with
  | nil => exact List.nil_subperm
  | cons mine rest ih =>
      obtain ⟨fresh, distinct⟩ := List.nodup_cons.mp distinct
      have others : (rest.flatMap fun other => collect (keyed key value other) entries) =
          rest.flatMap fun other => collect (keyed key value other)
            (entries.filter fun entry => key entry ≠ mine) := by
        apply List.flatMap_congr
        intro other mem
        have differs : other ≠ mine := ne_of_mem_of_not_mem mem fresh
        exact (collect_keyed_filter_ne differs entries).symm
      have own : collect (keyed key value mine) entries =
          (entries.filter fun entry => key entry = mine).map value := by
        rw [collect, ← List.filterMap_eq_map, List.filterMap_filter]
        apply List.filterMap_congr
        intro entry _
        by_cases here : key entry = mine <;> simp [keyed, here]
      have parted := List.filter_append_perm (fun entry => decide (key entry = mine)) entries
      rw [List.flatMap_cons, own, others]
      refine List.Subperm.trans ?_ (parted.map value).subperm
      rw [List.map_append]
      refine (List.Subperm.refl _).append ?_
      simpa using ih distinct (entries.filter fun entry => key entry ≠ mine)

/-- Keys which no entry is of may be left out. -/
theorem countP_le_shares {key : ε → κ} {value : ε → α} {keys : List κ} {counts : α → Bool}
    {entries : List ε}
    (covers : ∀ entry ∈ entries, counts (value entry) = true → key entry ∈ keys) :
    (entries.map value).countP counts ≤
      (keys.flatMap fun mine => collect (keyed key value mine) entries).countP counts := by
  induction entries with
  | nil => exact Nat.zero_le _
  | cons entry rest ih =>
      have later := ih fun other mem => covers other (List.mem_cons_of_mem _ mem)
      have split : (keys.flatMap fun mine => collect (keyed key value mine) (entry :: rest)).Perm
          ((keys.flatMap fun mine => (keyed key value mine entry).toList) ++
            keys.flatMap fun mine => collect (keyed key value mine) rest) := by
        simpa only [collect_cons] using (List.flatMap_append_perm keys _ _).symm
      rw [split.countP_eq, List.countP_append, List.map_cons, List.countP_cons]
      by_cases counted : counts (value entry) = true
      · have mem := covers entry List.mem_cons_self counted
        have here : 0 < (keys.flatMap fun mine =>
            (keyed key value mine entry).toList).countP counts := by
          refine List.countP_pos_iff.mpr ⟨value entry, ?_, counted⟩
          exact List.mem_flatMap.mpr ⟨key entry, mem, by simp [keyed]⟩
        rw [if_pos counted]
        omega
      · rw [if_neg counted]
        omega

/-- Shares which each count for no more than others do so together. -/
theorem countP_flatMap_le {α β κ : Type} {keys : List κ} {first : κ → List α}
    {second : κ → List β} {counts : α → Bool} {counts' : β → Bool}
    (each : ∀ key ∈ keys, (first key).countP counts ≤ (second key).countP counts') :
    (keys.flatMap first).countP counts ≤ (keys.flatMap second).countP counts' := by
  induction keys with
  | nil => exact Nat.le_refl _
  | cons key rest ih =>
      have here := each key List.mem_cons_self
      have later := ih fun other mem => each other (List.mem_cons_of_mem _ mem)
      rw [List.flatMap_cons, List.flatMap_cons, List.countP_append, List.countP_append]
      omega

end Shares

section Steps

variable {party : Address → Party Id Message}

/-- Put what a party or a client sends under way. -/
def Net.post (net : Net party) (sender : Option Address) (out : List (Id × Message)) :
    Net party :=
  { net with
    flight := net.flight ++ out.map (Envelope.stamp sender)
    posted := net.posted ++ out.map (Envelope.stamp sender) }

/-- Hand a party messages, which leaves it in another state and the rest under way. -/
def Net.take [DecidableEq Address] (net : Net party) (address : Address)
    (state' : (party address).State) (taken rest : List (Envelope Address Id Message)) :
    Net party where
  state := Function.update net.state address state'
  flight := rest
  posted := net.posted
  delivered := net.delivered ++ taken.map (Prod.mk address)

/-- One step: a client posts a message it may send, or a party moves. -/
inductive Net.Step [DecidableEq Address] (client : Id × Message → Prop) :
    Net party → Net party → Prop where
  | posts {net request} (allowed : client request) : Step client net (net.post none [request])
  | moves {net address state' taken rest out}
      (under_way : net.flight.Perm (taken ++ rest))
      (addressed : ∀ envelope ∈ taken, envelope.recipient = (party address).id)
      (moved : (party address).Moves (net.state address) (taken.map (·.message)) out state') :
      Step client net ((net.take address state' taken rest).post (some address) out)

/-- The nets which can be reached from all parties at their start and nothing posted. -/
inductive Net.Reached [DecidableEq Address] (client : Id × Message → Prop) :
    Net party → Prop where
  | start : Reached client { state := fun address => (party address).start }
  | step {net next} (prior : Reached client net) (stepped : Net.Step client net next) :
      Reached client next

/-- What a log entry delivers to a party. -/
abbrev deliveredTo [DecidableEq Address] (address : Address) :
    Address × Envelope Address Id Message → Option Message :=
  keyed Prod.fst (fun entry => entry.2.message) address

/-- What an envelope asks for, if it is under the name of the party. -/
abbrev postedBy [DecidableEq Address] (address : Address) :
    Envelope Address Id Message → Option (Id × Message) :=
  keyed Envelope.sender Envelope.request (some address)

theorem collect_postedBy_stamp [DecidableEq Address] (address : Address)
    (sender : Option Address) (out : List (Id × Message)) :
    collect (postedBy address) (out.map (Envelope.stamp sender)) =
      if sender = some address then out else [] := by
  induction out with
  | nil => simp
  | cons request rest ih =>
      by_cases own : sender = some address <;>
        simp_all [keyed, Envelope.stamp, Envelope.request]

theorem collect_deliveredTo_mk [DecidableEq Address] (address other : Address)
    (taken : List (Envelope Address Id Message)) :
    collect (deliveredTo address) (taken.map (Prod.mk other)) =
      if other = address then taken.map (·.message) else [] := by
  induction taken with
  | nil => simp
  | cons envelope rest ih =>
      by_cases own : other = address <;> simp_all [keyed]

/-- The logs are what the parties have sent and handled, and every message posted is
delivered once or under way. -/
structure Net.Coherent [DecidableEq Address] (client : Id × Message → Prop) (net : Net party) :
    Prop where
  accounts : (net.delivered.map Prod.snd ++ net.flight).Perm net.posted
  addressed : ∀ entry ∈ net.delivered, entry.2.recipient = (party entry.1).id
  handled : ∀ address,
    collect (deliveredTo address) net.delivered = (party address).handled (net.state address)
  sent : ∀ address,
    collect (postedBy address) net.posted = (party address).sent (net.state address)
  clients : ∀ envelope ∈ net.posted, envelope.sender = none → client envelope.request

namespace Net

variable [DecidableEq Address] {client : Id × Message → Prop} {net next : Net party}

theorem Coherent.start :
    Coherent client ({ state := fun address => (party address).start } : Net party) where
  accounts := List.Perm.refl _
  addressed := List.forall_mem_nil _
  handled address := (party address).handled_start.symm
  sent address := (party address).sent_start.symm
  clients := List.forall_mem_nil _

/-- A client posts under no party's name. -/
theorem Coherent.posts (holds : Coherent client net) {request : Id × Message}
    (allowed : client request) : Coherent client (net.post none [request]) where
  accounts := by
    simpa [post, ← List.append_assoc] using
      holds.accounts.append_right [Envelope.stamp none request]
  addressed := holds.addressed
  handled := holds.handled
  sent address := by
    rw [post, collect_append, collect_postedBy_stamp, holds.sent]
    simp
  clients := by
    intro envelope mem unnamed
    rcases List.mem_append.mp mem with earlier | now
    · exact holds.clients envelope earlier unnamed
    · obtain rfl : envelope = Envelope.stamp none request := by simpa using now
      exact allowed

/-- A party takes in messages under way to its id, and sends under its own name. -/
theorem Coherent.moves (holds : Coherent client net) {address : Address}
    {state' : (party address).State} {taken rest : List (Envelope Address Id Message)}
    {out : List (Id × Message)} (under_way : net.flight.Perm (taken ++ rest))
    (addressed : ∀ envelope ∈ taken, envelope.recipient = (party address).id)
    (moved : (party address).Moves (net.state address) (taken.map (·.message)) out state') :
    Coherent client ((net.take address state' taken rest).post (some address) out) where
  accounts := by
    have accounts : (net.delivered.map Prod.snd ++ (taken ++ rest)).Perm net.posted :=
      (under_way.symm.append_left _).trans holds.accounts
    have same : taken.map (Prod.snd ∘ Prod.mk address) = taken := List.map_id taken
    simpa [post, take, same, ← List.append_assoc] using
      accounts.append_right (out.map (Envelope.stamp (some address)))
  addressed := by
    intro entry mem
    rcases List.mem_append.mp mem with earlier | now
    · exact holds.addressed entry earlier
    · obtain ⟨envelope, here, rfl⟩ := List.mem_map.mp now
      exact addressed envelope here
  handled other := by
    change collect (deliveredTo other) (net.delivered ++ taken.map (Prod.mk address)) =
      (party other).handled (Function.update net.state address state' other)
    rw [collect_append, holds.handled, collect_deliveredTo_mk]
    by_cases own : address = other
    · subst own
      simp [(party address).handled_moves moved]
    · simp [own, Function.update_of_ne (Ne.symm own)]
  sent other := by
    change collect (postedBy other) (net.posted ++ out.map (Envelope.stamp (some address))) =
      (party other).sent (Function.update net.state address state' other)
    rw [collect_append, holds.sent, collect_postedBy_stamp]
    by_cases own : address = other
    · subst own
      simp [(party address).sent_moves moved]
    · simp [own, Function.update_of_ne (Ne.symm own)]
  clients := by
    intro envelope mem unnamed
    rcases List.mem_append.mp mem with earlier | now
    · exact holds.clients envelope earlier unnamed
    · obtain ⟨request, _, rfl⟩ := List.mem_map.mp now
      cases unnamed

/-- Every net which can be reached is coherent. -/
theorem Reached.coherent (reached : Reached client net) : Coherent client net := by
  induction reached with
  | start => exact .start
  | step _ stepped ih =>
      cases stepped with
      | posts allowed => exact ih.posts allowed
      | moves under_way addressed moved => exact ih.moves under_way addressed moved

/-- What was posted under the name of a party was sent by it. -/
theorem Coherent.sent_of_posted (holds : Coherent client net) {sender : Address}
    {envelope : Envelope Address Id Message} (mem : envelope ∈ net.posted)
    (named : envelope.sender = some sender) :
    envelope.request ∈ (party sender).sent (net.state sender) := by
  rw [← holds.sent sender]
  exact List.mem_filterMap.mpr ⟨envelope, mem, by simp [keyed, named]⟩

/-- Whatever a party has handled was posted to its id, by a client which may post it
or by a party which has sent it. -/
theorem Reached.origin (reached : Reached client net) {address : Address} {message : Message}
    (mem : message ∈ (party address).handled (net.state address)) :
    client ((party address).id, message) ∨
      ∃ sender, ((party address).id, message) ∈ (party sender).sent (net.state sender) := by
  have holds := reached.coherent
  rw [← holds.handled address] at mem
  obtain ⟨entry, delivered, here⟩ := List.mem_filterMap.mp mem
  obtain ⟨rfl, rfl⟩ : entry.1 = address ∧ entry.2.message = message := by
    simpa [keyed, Option.ite_none_right_eq_some] using here
  have posted : entry.2 ∈ net.posted :=
    holds.accounts.subset (List.mem_append_left _ (List.mem_map_of_mem delivered))
  have asked : entry.2.request = ((party entry.1).id, entry.2.message) :=
    congrArg (Prod.mk · entry.2.message) (holds.addressed entry delivered)
  rw [← asked]
  cases named : entry.2.sender with
  | none => exact Or.inl (holds.clients entry.2 posted named)
  | some sender => exact Or.inr ⟨sender, holds.sent_of_posted posted named⟩

/-- The requests a party has taken in: its messages, under its id. -/
def received (net : Net party) (address : Address) : List (Id × Message) :=
  ((party address).handled (net.state address)).map (Prod.mk (party address).id)

/-- What a party has sent so far. -/
def sentBy (net : Net party) (address : Address) : List (Id × Message) :=
  (party address).sent (net.state address)

/-- The parties which have sent anything so far. -/
def senders (net : Net party) : List Address := (net.posted.filterMap Envelope.sender).dedup

/-- Distinct parties take in at most what was posted, each request once. -/
theorem Reached.received_subperm (reached : Reached client net) {addresses : List Address}
    (distinct : addresses.Nodup) :
    (addresses.flatMap net.received).Subperm (net.posted.map Envelope.request) := by
  have holds := reached.coherent
  have shares := shares_subperm Prod.fst
    (fun entry : Address × Envelope Address Id Message => entry.2.request) distinct net.delivered
  have taken : ((net.delivered.map Prod.snd).map Envelope.request).Subperm
      (net.posted.map Envelope.request) :=
    ((List.sublist_append_left _ net.flight).map _).subperm.trans
      (holds.accounts.map _).subperm
  have named : addresses.flatMap net.received = addresses.flatMap fun address =>
      collect (keyed Prod.fst (fun entry => entry.2.request) address) net.delivered := by
    refine List.flatMap_congr fun address _ => ?_
    rw [received, ← holds.handled address, collect, collect, List.map_filterMap]
    refine List.filterMap_congr fun entry mem => ?_
    by_cases own : entry.1 = address
    · subst own
      simp [keyed, Envelope.request, holds.addressed entry mem]
    · simp [keyed, own]
  rw [named]
  refine shares.trans ?_
  simpa [Function.comp_def] using taken

/-- What no client may post is taken in, over all parties, at most as often as parties
have sent it. -/
theorem Reached.countP_received_le (reached : Reached client net) {addresses : List Address}
    (distinct : addresses.Nodup) {counts : Id × Message → Bool}
    (clients : ∀ request, client request → counts request = false) :
    (addresses.flatMap net.received).countP counts ≤
      (net.senders.flatMap net.sentBy).countP counts := by
  have holds := reached.coherent
  have covers : ∀ envelope ∈ net.posted, counts envelope.request = true →
      envelope.sender ∈ net.senders.map some := by
    intro envelope mem counted
    cases named : envelope.sender with
    | none =>
        rw [clients _ (holds.clients envelope mem named)] at counted
        cases counted
    | some sender =>
        refine List.mem_map_of_mem (List.mem_dedup.mpr ?_)
        exact List.mem_filterMap.mpr ⟨envelope, mem, named⟩
  have sent : net.senders.flatMap net.sentBy = (net.senders.map some).flatMap fun sender =>
      collect (keyed Envelope.sender Envelope.request sender) net.posted := by
    rw [List.flatMap_map]
    exact List.flatMap_congr fun sender _ => (holds.sent sender).symm
  rw [sent]
  exact Nat.le_trans ((reached.received_subperm distinct).countP_le counts)
    (countP_le_shares covers)

/-- What one party alone sends is all among what that party has sent. -/
theorem countP_sentBy_le {senders : List Address} (distinct : senders.Nodup) {source : Address}
    {counts : Id × Message → Bool} (own : ∀ sender, ∀ request ∈ net.sentBy sender,
      counts request = true → sender = source) :
    (senders.flatMap net.sentBy).countP counts ≤ (net.sentBy source).countP counts := by
  induction senders with
  | nil => exact Nat.zero_le _
  | cons sender rest ih =>
      obtain ⟨fresh, distinct⟩ := List.nodup_cons.mp distinct
      rw [List.flatMap_cons, List.countP_append]
      by_cases here : sender = source
      · subst here
        have none : (rest.flatMap net.sentBy).countP counts = 0 := by
          refine List.countP_eq_zero.mpr fun request mem counted => ?_
          obtain ⟨other, there, sent⟩ := List.mem_flatMap.mp mem
          exact fresh (own other request sent counted ▸ there)
        omega
      · have none : (net.sentBy sender).countP counts = 0 :=
          List.countP_eq_zero.mpr fun request mem counted => here (own sender request mem counted)
        have later := ih distinct
        omega

end Net

section Turns

variable [DecidableEq Address] [DecidableEq Id] [DecidableEq Message]

/-- Take messages to an id out of those under way. -/
def takeOut (id : Id) : List Message → List (Envelope Address Id Message) →
    Option (List (Envelope Address Id Message) × List (Envelope Address Id Message))
  | [], flight => some ([], flight)
  | message :: messages, flight =>
      (flight.find? fun envelope => envelope.request = (id, message)).bind fun envelope =>
        (takeOut id messages (flight.erase envelope)).map fun split =>
          (envelope :: split.1, split.2)

theorem takeOut_eq_some {id : Id} {messages : List Message}
    {flight taken rest : List (Envelope Address Id Message)}
    (took : takeOut id messages flight = some (taken, rest)) :
    flight.Perm (taken ++ rest) ∧ (∀ envelope ∈ taken, envelope.recipient = id) ∧
      taken.map (·.message) = messages := by
  induction messages generalizing flight taken with
  | nil =>
      cases took
      exact ⟨List.Perm.refl _, List.forall_mem_nil _, rfl⟩
  | cons message messages ih =>
      obtain ⟨envelope, found, mapped⟩ := Option.bind_eq_some_iff.mp took
      obtain ⟨⟨later, left⟩, within, same⟩ := Option.map_eq_some_iff.mp mapped
      cases same
      obtain ⟨under_way, addressed, carries⟩ := ih within
      have asked : envelope.request = (id, message) := by simpa using List.find?_some found
      obtain ⟨recipient, rfl⟩ := Prod.mk.inj asked
      refine ⟨?_, ?_, by rw [List.map_cons, carries]⟩
      · exact (List.perm_cons_erase (List.mem_of_find?_eq_some found)).trans (under_way.cons _)
      · rintro other (_ | ⟨_, mem⟩)
        · exact recipient
        · exact addressed other mem

/-- A turn of a party, if what it takes in is under way. -/
def Net.turn (net : Net party) (address : Address) (messages : List Message)
    (out : List (Id × Message)) (state' : (party address).State) : Option (Net party) :=
  (takeOut (party address).id messages net.flight).map fun split =>
    (net.take address state' split.1 split.2).post (some address) out

theorem Net.Reached.turn {client : Id × Message → Prop} {net next : Net party}
    (reached : Net.Reached client net) {address : Address} {messages : List Message}
    {out : List (Id × Message)} {state' : (party address).State}
    (moved : (party address).Moves (net.state address) messages out state')
    (turned : net.turn address messages out state' = some next) : Net.Reached client next := by
  obtain ⟨⟨taken, rest⟩, took, rfl⟩ := Option.map_eq_some_iff.mp turned
  obtain ⟨under_way, addressed, rfl⟩ := takeOut_eq_some took
  exact .step reached (.moves under_way addressed moved)

end Turns

end Steps

section Workflows

variable {Input Signal Obj Pc Command Result : Type}

/-- The signal an event hands to the workflow. -/
def receipt : Event Input Signal Obj Pc Command Result → Option Signal
  | .handled _ _ signal => some signal
  | _ => none

/-- What `post` makes of a command, for the one event which issues it. -/
def posting (post : Command → Option (Id × Message)) :
    Event Input Signal Obj Pc Command Result → Option (Id × Message)
  | .issued command => post command
  | _ => none

/-- What is sent by commands which are read one by one. -/
theorem collect_posting {α : Type} {post : Command → Option (Id × Message)}
    {read : Event Input Signal Obj Pc Command Result → Option α} {request : α → Id × Message}
    (reads : ∀ event, posting post event = (read event).map request)
    (trace : List (Event Input Signal Obj Pc Command Result)) :
    collect (posting post) trace = (collect read trace).map request := by
  rw [collect, collect, List.map_filterMap]
  exact List.filterMap_congr fun event _ => reads event

namespace Workflow

/-- A chain of a workflow, with what it has come to. -/
structure Execution (w : Workflow Input Signal Obj Pc Command Result) (start : Input) where
  trace : List (Event Input Signal Obj Pc Command Result)
  config : Config Obj Pc Result
  chain : w.Chain start trace config

variable {w : Workflow Input Signal Obj Pc Command Result}

/-- The coroutine hands no signal to the workflow. -/
theorem Advance.receipts {history : Nat} {pc : Pc} {obj : Obj}
    {events : List (Event Input Signal Obj Pc Command Result)} {config : Config Obj Pc Result}
    (advance : w.Advance history pc obj events config) : collect receipt events = [] := by
  induction advance with
  | suspend _ => rfl
  | proceed _ _ ih => rw [collect_append, collect_issued fun _ => rfl, ih, List.append_nil]
  | continueAsNew _ => rw [collect_append, collect_issued fun _ => rfl]; rfl
  | complete _ => rfl
  | fail _ => rfl

/-- An activation hands the workflow its own signals, in order. -/
theorem Activate.receipts {activation : Activation Signal} {config config' : Config Obj Pc Result}
    {events : List (Event Input Signal Obj Pc Command Result)}
    (activated : w.Activate activation config events config') :
    collect receipt events = activation.signals := by
  cases activated with
  | @mk pc obj _ next woken _ _ _ wake advance =>
      have handled : collect receipt (w.handledEvents pc obj activation.signals) =
          collect some activation.signals :=
        collect_handledEvents_eq w (fun _ _ => rfl) activation.signals obj
      have quiet : collect receipt woken = [] := by
        cases woke : activation.wake with
        | none =>
            simp only [wakeAt, woke, Option.some.injEq, Prod.mk.injEq] at wake
            rw [← wake.2, collect_nil]
        | some resolution =>
            simp only [wakeAt, woke, Option.map_eq_some_iff, Prod.mk.injEq] at wake
            obtain ⟨_, _, _, rfl⟩ := wake
            rfl
      rw [collect_append, collect_append, handled, quiet, collect_cons, advance.receipts]
      simp [receipt, collect]

/-- The executions of a workflow as a party: it takes in the signals of its activations,
and sends what it posts. -/
def party (w : Workflow Input Signal Obj Pc Command Result) (start : Input) (id : Id)
    (message : Signal → Message) (post : Command → Option (Id × Message)) :
    Party Id Message where
  State := w.Execution start
  start := ⟨[], w.fresh start, .start⟩
  id
  handled execution := (collect receipt execution.trace).map message
  sent execution := collect (posting post) execution.trace
  Moves execution taken out next := ∃ activation events,
    w.Activate activation execution.config events next.config ∧
      next.trace = execution.trace ++ events ∧ taken = activation.signals.map message ∧
      out = collect (posting post) events
  handled_start := rfl
  sent_start := rfl
  handled_moves := by
    rintro execution taken out next ⟨activation, events, activated, extends_by, rfl, _⟩
    rw [extends_by, collect_append, activated.receipts, List.map_append]
  sent_moves := by
    rintro execution taken out next ⟨activation, events, _, extends_by, _, rfl⟩
    rw [extends_by, collect_append]

/-- Run one activation of an execution; the events it adds come second. -/
def Execution.activate {start : Input} (execution : w.Execution start) (fuel : Nat)
    (activation : Activation Signal) :
    Option (w.Execution start × List (Event Input Signal Obj Pc Command Result)) :=
  match ran : w.activateWithin fuel activation execution.config with
  | none => none
  | some ended =>
      some (⟨execution.trace ++ ended.1, ended.2, .activate execution.chain (.of_within ran)⟩,
        ended.1)

theorem Execution.moves_of_activate {start : Input} {execution next : w.Execution start}
    {fuel : Nat} {activation : Activation Signal}
    {events : List (Event Input Signal Obj Pc Command Result)}
    (activated : execution.activate fuel activation = some (next, events)) (id : Id)
    (message : Signal → Message) (post : Command → Option (Id × Message)) :
    (w.party start id message post).Moves execution (activation.signals.map message)
      (collect (posting post) events) next := by
  unfold Execution.activate at activated
  split at activated
  · cases activated
  · next ended ran =>
      cases activated
      exact ⟨activation, ended.1, .of_within ran, rfl, rfl, rfl⟩

end Workflow

end Workflows

end WardenDemo.Durable
