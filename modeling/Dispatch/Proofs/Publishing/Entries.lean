import Dispatch.Proofs.Delivery.Receipts

set_option autoImplicit false

namespace Dispatch

theorem Destination.eq_empty {d : Destination} (nowhere : d.isEmpty = true) : d = .empty := by
  obtain ⟨exchange, routingKey⟩ := d
  simpa [isEmpty, empty] using nowhere

namespace Request

def posted : Request → Except String Envelope
  | .message destination value => value.map (Envelope.json destination)
  | .context destination given => given.map fun given =>
      { Envelope.json destination given.payload with
        headers := given.headers
        correlationId := given.correlationId
        messageId := given.messageId }
  | .envelope given => .ok given
  | .withMetadata value metadata =>
      .ok { Envelope.json (.topic metadata.topic) value with headers := metadata.headers }

theorem outgoing_eq (options : PublisherOptions) (request : Request) :
    request.outgoing options =
      { destination := Outgoing.resolve options request.destination
        content := request.posted.map fun e =>
          { e with destination := Outgoing.resolve options request.destination } } := by
  cases request with
  | envelope | withMetadata => rfl
  | message destination value => cases value <;> rfl
  | context destination given => cases given <;> rfl

theorem posted_destination {request : Request} {e : Envelope} (posted : request.posted = .ok e) :
    e.destination = request.destination := by
  cases request with
  | envelope | withMetadata => cases posted; rfl
  | message destination value =>
      cases value with
      | error => cases posted
      | ok => cases posted; rfl
  | context destination given =>
      cases given with
      | error => cases posted
      | ok => cases posted; rfl

theorem resolve_self (request : Request) :
    Outgoing.resolve ⟨request.destination, .forward, none⟩ request.destination = request.destination := ite_self _

theorem outgoing_self (request : Request) :
    request.outgoing ⟨request.destination, .forward, none⟩ = ⟨request.destination, request.posted⟩ := by
  rw [outgoing_eq, resolve_self]
  cases posted : request.posted with
  | error reason => rfl
  | ok e => rw [← posted_destination posted]; rfl

def Alike (request other : Request) : Prop := request.destination = other.destination ∧ request.posted = other.posted

theorem alike_iff {request other : Request} :
    request.Alike other ↔ ∀ options, request.outgoing options = other.outgoing options := by
  constructor
  · rintro ⟨destination, posted⟩ options
    rw [outgoing_eq, outgoing_eq, destination, posted]
  · intro same
    have resolved (options : PublisherOptions) :
        Outgoing.resolve options request.destination = Outgoing.resolve options other.destination := by
      have same := congrArg Outgoing.destination (same options)
      rwa [outgoing_eq, outgoing_eq] at same
    have destination : request.destination = other.destination := by
      have mine := resolved ⟨request.destination, .forward, none⟩
      have theirs := resolved ⟨other.destination, .forward, none⟩
      rw [resolve_self] at mine theirs
      cases named : other.destination.isEmpty with
      | false => rwa [Outgoing.resolve, named] at mine
      | true =>
          cases named' : request.destination.isEmpty with
          | false => rwa [Outgoing.resolve, named'] at theirs
          | true => rw [Destination.eq_empty named, Destination.eq_empty named']
    refine ⟨destination, ?_⟩
    have content := same ⟨request.destination, .forward, none⟩
    rw [outgoing_self, destination, outgoing_self] at content
    exact congrArg Outgoing.content content

/-- The ways to publish a value with headers under a topic. Without headers there is one more. -/
inductive Posts (v : Json) (headers : Headers) (topic : String) : Request → Prop
  | producer : Posts v headers topic (.withMetadata v ⟨topic, headers⟩)
  | context : Posts v headers topic (.context (.topic topic) (.ok ⟨v, headers, none, none⟩))
  | envelope : Posts v headers topic (.envelope { Envelope.json (.topic topic) v with headers })
  | message (bare : headers = []) : Posts v headers topic (.message (.topic topic) (.ok v))

theorem Posts.posted {v : Json} {headers : Headers} {topic : String} {request : Request}
    (posts : request.Posts v headers topic) :
    request.destination = .topic topic ∧ request.posted = .ok { Envelope.json (.topic topic) v with headers } := by
  cases posts with
  | producer | context | envelope => exact ⟨rfl, rfl⟩
  | message bare =>
      subst bare
      exact ⟨rfl, rfl⟩

end Request

namespace Exchange

variable {ε ρ σ κ η : Type}

inductive Ask (ε ρ σ κ η : Type) where
  | publish (place : Nat) (request : Request)
  | other (move : Move ε ρ σ κ η)

def ask (x : Exchange ε ρ σ κ η) : Ask ε ρ σ κ η → Exchange ε ρ σ κ η
  | .publish place request =>
    match x.registry.adapters[place]? with
    | none => x
    | some a => x.perform (.publish place (request.outgoing a.options))
  | .other move => x.perform move

def asked (x : Exchange ε ρ σ κ η) (asks : List (Ask ε ρ σ κ η)) : Exchange ε ρ σ κ η := asks.foldl ask x

inductive Ask.Alike : Ask ε ρ σ κ η → Ask ε ρ σ κ η → Prop
  | publish (place : Nat) {v : Json} {headers : Headers} {topic : String} {request other : Request}
      (posts : request.Posts v headers topic) (posts' : other.Posts v headers topic) :
      Alike (.publish place request) (.publish place other)
  | other (move : Move ε ρ σ κ η) : Alike (.other move) (.other move)

theorem ask_alike (x : Exchange ε ρ σ κ η) {ask other : Ask ε ρ σ κ η} (alike : ask.Alike other) :
    x.ask ask = x.ask other := by
  cases alike with
  | other move => rfl
  | publish place posts posts' =>
      obtain ⟨destination, posted⟩ := posts.posted
      obtain ⟨destination', posted'⟩ := posts'.posted
      have alike := Request.alike_iff.1 ⟨destination.trans destination'.symm, posted.trans posted'.symm⟩
      simp only [Exchange.ask, alike]

/-- Two runs that differ only in the entry points by which values are published come to the same, whatever else
happens in them: results, broker, pools, breakers, metrics, spans and all. -/
theorem entry_points_agree (x : Exchange ε ρ σ κ η) {asks others : List (Ask ε ρ σ κ η)}
    (alike : List.Forall₂ Ask.Alike asks others) : x.asked asks = x.asked others := by
  induction alike generalizing x with
  | nil => rfl
  | cons alike _ ih =>
      rw [asked, asked, List.foldl_cons, List.foldl_cons, x.ask_alike alike]
      exact ih _

def topicless (request : Request) : List (Ask MemoryBroker MemoryHandle Nat MemoryCall Unit) :=
  .other (.register MemoryBroker.connector "orders" (.log { LogSettings.standard with topic := "placed" })) ::
    .publish 0 request :: List.replicate 12 (.other (.step 0 false))

def bareNull : Request := .message (.topic "") (.ok .null)

def envelopedNull : Request := .envelope (.json (.topic "") .null)

theorem entry_points_agree_topicless :
    List.Forall₂ Ask.Alike (topicless bareNull) (topicless envelopedNull) ∧
      (start MemoryBroker.new "shop").asked (topicless bareNull) =
        (start MemoryBroker.new "shop").asked (topicless envelopedNull) ∧
      ((start MemoryBroker.new "shop").asked (topicless bareNull)).errands[0]? =
        some (.ended (.published (.ok ⟨.log, .topic "placed", 4, false⟩))) := by
  have alike : List.Forall₂ Ask.Alike (topicless bareNull) (topicless envelopedNull) :=
    .cons (.other _) (.cons (.publish 0 (.message rfl) .envelope) (List.forall₂_same.2 fun ask member => by
      obtain rfl := List.eq_of_mem_replicate member
      exact .other _))
  exact ⟨alike, entry_points_agree _ alike, rfl⟩

end Exchange

end Dispatch
