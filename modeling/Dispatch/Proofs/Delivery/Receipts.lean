import Dispatch.Proofs.Delivery.Custody
import Dispatch.Proofs.Publishing.Outcomes

set_option autoImplicit false

namespace Dispatch

/-! ## Parcels -/

structure Parcel where
  backend : Backend
  topic : String
  key : String
  payload : Bytes
  connection : Nat
  deriving DecidableEq, Repr

def Frame.parcel (f : Frame) : Parcel := ⟨f.backend, f.topic, f.key, f.payload, f.connection⟩

def Backend.address (backend : Backend) (d : Destination) : String × String :=
  match backend with
  | .amqp => (d.exchange, d.routingKey)
  | .socket | .mqtt => (d.topicName, d.topicName)
  | .log => (if d.exchange.isEmpty then d.routingKey else d.exchange, d.routingKey)

def Parcel.of (backend : Backend) (e : Envelope) (lease : Lease MemoryHandle) : Parcel where
  backend
  topic := (backend.address e.destination).1
  key := (backend.address e.destination).2
  payload := e.payload
  connection := lease.resource.number

theorem Bytes.lossy_ofString (text : String) : lossy (ofString text) = text := by
  simp [lossy, pieces, decode?_ofString, Function.comp_def]

theorem Frame.ofSend_parcel (settings : BackendSettings) (lease : Lease MemoryHandle) (e : Envelope) :
    (Frame.ofSend settings lease e).parcel =
      { Parcel.of settings.backend e lease with backend := lease.resource.backend } := by
  cases settings with
  | amqp | log | mqtt => rfl
  | socket settings =>
      have topic := Bytes.lossy_ofString e.destination.topicName
      have arrived : (Frame.ofWire lease.resource.backend lease.resource.number (.frames (socketFrames e))).parcel =
        ⟨lease.resource.backend, Bytes.lossy (Bytes.ofString e.destination.topicName),
          Bytes.lossy (Bytes.ofString e.destination.topicName), e.payload, lease.resource.number⟩ := rfl
      rw [topic] at arrived
      exact arrived

theorem Frame.parcel_ofSend {settings : BackendSettings} {lease : Lease MemoryHandle}
    (kind : lease.resource.backend = settings.backend) (e : Envelope) :
    (Frame.ofSend settings lease e).parcel = .of settings.backend e lease := by
  rw [Frame.ofSend_parcel, kind]
  rfl

namespace Posting

def parcel? (p : Posting MemoryHandle) : Option Parcel :=
  match p.upshot, p.message.content, p.lease with
  | some (.returned (.ok _)), .ok envelope, some lease => some (.of p.backend envelope lease)
  | _, _, _ => none

theorem parcel_unconfirmed {p : Posting MemoryHandle}
    (unconfirmed : ∀ receipt, p.upshot ≠ some (.returned (.ok receipt))) : p.parcel? = none := by
  unfold parcel?
  split
  · rename_i receipt envelope lease upshot content leased
    exact absurd upshot (unconfirmed receipt)
  · rfl

theorem filterMap_close {postings : List (Posting MemoryHandle)} {span : Nat} {p : Posting MemoryHandle}
    (noted : postings[span]? = some p) (opened : p.upshot = none) (upshot : Upshot)
    (lease : Option (Lease MemoryHandle)) :
    ((postings.modify span (.close upshot lease)).filterMap parcel?).Perm
      (postings.filterMap parcel? ++ (p.close upshot lease).parcel?.toList) := by
  obtain ⟨before, held, after, rfl, rfl, modified⟩ := List.exists_of_modify (Posting.close upshot lease)
    (List.getElem?_eq_some_iff.1 noted).1
  obtain rfl : held = p := by simpa using noted
  have nothing : held.parcel? = none := parcel_unconfirmed fun receipt same => by rw [opened] at same; cases same
  rw [modified, List.filterMap_append, List.filterMap_append, List.filterMap_cons, List.filterMap_cons, nothing]
  cases (held.close upshot lease).parcel? with
  | none => simp
  | some parcel => exact (List.perm_middle.trans (List.perm_append_singleton parcel _).symm)

end Posting

/-! ## Requests -/

inductive Request where
  | message (destination : Destination) (value : Except String Json)
  | context (destination : Destination) (context : Except String MessageContext)
  | envelope (envelope : Envelope)
  | withMetadata (value : Json) (metadata : Metadata)

namespace Request

def outgoing (options : PublisherOptions) : Request → Outgoing
  | .message destination value => .message options destination value
  | .context destination given => .context options destination given
  | .envelope given => .envelope options given
  | .withMetadata value metadata => .withMetadata options value metadata

def destination : Request → Destination
  | .message destination _ | .context destination _ => destination
  | .envelope given => given.destination
  | .withMetadata _ metadata => .topic metadata.topic

def payload : Request → Except String Bytes
  | .message _ value => value.map fun value => Bytes.ofString value.text
  | .context _ given => given.map fun given => Bytes.ofString given.payload.text
  | .envelope given => .ok given.payload
  | .withMetadata value _ => .ok (Bytes.ofString value.text)

theorem content_outgoing {options : PublisherOptions} {request : Request} {e : Envelope}
    (content : (request.outgoing options).content = .ok e) :
    e.destination = Outgoing.resolve options request.destination ∧ request.payload = .ok e.payload := by
  cases request with
  | envelope given | withMetadata => cases content; exact ⟨rfl, rfl⟩
  | message destination value =>
      cases value with
      | error reason => cases content
      | ok value => cases content; exact ⟨rfl, rfl⟩
  | context destination context =>
      cases context with
      | error reason => cases content
      | ok context => cases content; exact ⟨rfl, rfl⟩

end Request

/-! ## Delivery -/

namespace Watch

variable {η : Type}

abbrev OnMemory (η : Type) := Watch MemoryBroker MemoryHandle Nat MemoryCall η

def frames (w : OnMemory η) : List Frame := w.exchange.registry.shared.air.frames

structure Delivering (w : OnMemory η) : Prop where
  sound : w.Sound
  orderly : w.exchange.Orderly
  frames : (w.frames.map Frame.parcel).Perm (w.postings.filterMap Posting.parcel?)
  leased : ∀ posting ∈ w.postings, ∀ receipt, posting.upshot = some (.returned (.ok receipt)) →
    posting.lease.isSome

namespace Delivering

variable {w : OnMemory η}

theorem start (process : String) : (Watch.start MemoryBroker.new process : OnMemory η).Delivering where
  sound := .start _ process
  orderly := .start process
  frames := .refl _
  leased posting member := by cases member

theorem quiet (delivering : w.Delivering) {y : MemoryExchange η} (sound : Sound ⟨y, w.postings⟩)
    (orderly : y.Orderly) (frames : y.registry.shared.air.frames = w.frames) : Delivering ⟨y, w.postings⟩ where
  sound := sound
  orderly := orderly
  frames := by
    rw [Watch.frames, frames]
    exact delivering.frames
  leased := delivering.leased

theorem ended (delivering : w.Delivering) {y : MemoryExchange η} {span : Nat} {p : Posting MemoryHandle}
    {upshot : Upshot} {lease : Option (Lease MemoryHandle)} (noted : w.postings[span]? = some p)
    (opened : p.upshot = none) (sound : Sound ⟨y, w.postings.modify span (.close upshot lease)⟩)
    (orderly : y.Orderly)
    (frames : y.registry.shared.air.frames.map Frame.parcel =
      w.frames.map Frame.parcel ++ (p.close upshot lease).parcel?.toList)
    (leased : ∀ receipt, upshot = .returned (.ok receipt) → lease.isSome) :
    Delivering ⟨y, w.postings.modify span (.close upshot lease)⟩ where
  sound := sound
  orderly := orderly
  frames := by
    rw [Watch.frames, frames]
    exact (delivering.frames.append_right _).trans (Posting.filterMap_close noted opened upshot lease).symm
  leased posting member receipt ok := by
    obtain ⟨there, held⟩ := List.getElem?_of_mem member
    rw [List.getElem?_modify] at held
    obtain ⟨old, listed, rfl⟩ := Option.map_eq_some_iff.1 held
    split at ok
    · rename_i same
      rw [if_pos same]
      exact leased receipt (Option.some.inj ok)
    · rename_i apart
      rw [if_neg apart]
      exact delivering.leased old (List.mem_of_getElem? listed) receipt ok

theorem closed (delivering : w.Delivering) {number place span : Nat} {message : Outgoing}
    {progress : Publishing MemoryHandle MemoryCall} {upshot : Upshot} {a : MemoryAdapter} {settings : BackendSettings}
    {y : MemoryExchange η}
    (found : w.exchange.errands[number]? = some (.running (.publishing place message progress)))
    (here : w.exchange.registry.adapters[place]? = some a) (wired : a.OnMemory settings)
    (own : w.postings[span]? = some ⟨number, a.backend, message, none, none⟩)
    (flight : (Part.publishing message progress : MemoryPart η).Flight settings w.exchange.registry.shared.air
      (.settled upshot.reply) y.registry.shared.air)
    (sound : Sound ⟨y, w.postings.modify span (.close upshot progress.standing.lease?)⟩) (orderly : y.Orderly) :
    Delivering ⟨y, w.postings.modify span (.close upshot progress.standing.lease?)⟩ := by
  by_cases confirmed : ∃ receipt, upshot = .returned (.ok receipt)
  · obtain ⟨receipt, rfl⟩ := confirmed
    have suits := delivering.orderly.suits number _ place _ found rfl a here
    have prepared := delivering.sound.prepared number _ place _ found rfl
    generalize landing : y.registry.shared.air = landed at flight
    cases flight with
    | kept _ unconfirmed => exact absurd rfl (unconfirmed receipt)
    | landed _ _ unconfirmed => exact absurd rfl (unconfirmed receipt)
    | @delivered _ _ lease envelope _ _ sending =>
        cases sending
        obtain ⟨original, content, destination, payload⟩ := prepared
        refine delivering.ended own rfl sound orderly ?_ fun receipt same => rfl
        have kind : lease.resource.backend = settings.backend :=
          (suits.kinds lease.resource (Multiset.mem_singleton_self _)).trans wired.backend.symm
        have frame : (Frame.ofSend settings lease envelope).parcel = .of a.backend original lease := by
          rw [Frame.parcel_ofSend kind, wired.backend, Parcel.of, Parcel.of, destination, payload]
        have parcel : Posting.parcel? ⟨number, a.backend, message, some (.returned (.ok receipt)), some lease⟩ =
            some (.of a.backend original lease) := by
          simp only [Posting.parcel?, content]
        rw [landing]
        change (w.frames ++ [Frame.ofSend settings lease envelope]).map Frame.parcel =
          w.frames.map Frame.parcel ++ (Posting.parcel?
            ⟨number, a.backend, message, some (.returned (.ok receipt)), some lease⟩).toList
        rw [parcel, List.map_append, List.map_singleton, frame]
        rfl
  · have unconfirmed (receipt : Receipt) : upshot ≠ .returned (.ok receipt) := fun same => confirmed ⟨receipt, same⟩
    have nothing : (Posting.close upshot progress.standing.lease?
        ⟨number, a.backend, message, none, none⟩).parcel? = none :=
      Posting.parcel_unconfirmed fun receipt same => unconfirmed receipt (Option.some.inj same)
    refine delivering.ended own rfl sound orderly ?_ fun receipt same => absurd same (unconfirmed receipt)
    rw [flight.frames, nothing]
    · exact (List.append_nil _).symm
    · rintro receipt same
      cases upshot with
      | returned result => cases same; exact unconfirmed receipt rfl
      | dropped => cases same

theorem perform (delivering : w.Delivering) (incident : Incident η) : (w.perform incident.move).Delivering := by
  have sound := delivering.sound.perform incident.move
  have orderly := delivering.orderly.perform incident
  have change := w.exchange.perform_change incident.move
  unfold Watch.perform at sound ⊢
  generalize w.exchange.perform incident.move = y at change sound orderly ⊢
  cases change with
  | tended unprompted errands tended =>
      simp only [unprompted] at sound ⊢
      exact delivering.quiet sound orderly
        (congrArg (fun desk => desk.1.frames) (delivering.orderly.tend_all tended errands).2)
  | began unprompted begins checks registry errands =>
      simp only [unprompted] at sound ⊢
      exact delivering.quiet sound orderly (by rw [registry]; rfl)
  | passed prompted idle registry errands =>
      simp only [prompted, Sound.note_idle y idle] at sound ⊢
      exact delivering.quiet sound orderly (by rw [registry]; rfl)
  | left prompted found vacant leaves registry errands =>
      simp only [prompted, delivering.sound.note_left found vacant leaves errands] at sound ⊢
      exact delivering.quiet sound orderly (by rw [registry]; rfl)
  | @acted number prompt call errand place part a next later fate prompted found known here deed succeeds registry
      errands =>
      simp only [prompted] at sound ⊢
      obtain ⟨⟨settings, wired⟩, -⟩ := delivering.orderly.wired place a here
      have quiet := delivering.orderly.quiet number call place part found known
      have flight := deed.flight wired quiet delivering.orderly.once
      have booking := deed.booking
      have there : y.errands[number]? = some errand := by
        rw [errands, List.getElem?_set_self (List.getElem?_eq_some_iff.1 found).1]
      have air : y.registry.shared.air = later.air := by rw [registry]
      rw [← air] at flight
      -- without a receipt nothing has arrived
      have arrived (unconfirmed : ∀ receipt, fate ≠ .settled (.published (.ok receipt))) :
          y.registry.shared.air.frames = w.frames := flight.frames unconfirmed
      generalize later.books = books at booking
      cases booking with
      | kept same unanswered =>
          have unnoted := Sound.note_same found errands
            ((succeeds.posted.trans same).trans (Errand.posted_running known).symm)
          rw [unnoted] at sound ⊢
          exact delivering.quiet sound orderly (arrived fun receipt => unanswered (.ok receipt))
      | @opened message progress first span =>
          subst first
          obtain rfl := Call.eq_publishing known
          have unconfirmed := arrived fun receipt same => by cases same
          cases succeeds with
          | goesOn nextKnown checks =>
              obtain rfl := Call.eq_publishing nextKnown
              rw [Sound.note_opened found here there span] at sound ⊢
              refine ⟨sound, orderly, ?_, fun posting member receipt ok => ?_⟩
              · have nothing : Posting.parcel? ⟨number, a.backend, message, none, none⟩ = none := rfl
                rw [Watch.frames, unconfirmed, List.filterMap_append, List.filterMap_cons, nothing]
                simpa using delivering.frames
              · rcases List.mem_append.1 member with member | member
                · exact delivering.leased posting member receipt ok
                · rw [List.mem_singleton.1 member] at ok
                  cases ok
      | @closed message progress span upshot posted spanKnown sent =>
          subst posted
          obtain rfl := Call.eq_publishing known
          have gone : errand = .ended upshot.reply := by
            cases upshot <;> cases succeeds <;> rfl
          subst gone
          rw [Sound.note_closed found there spanKnown] at sound ⊢
          obtain ⟨b, held, own⟩ := delivering.sound.own_posting found spanKnown
          rw [here] at held
          cases held
          exact delivering.closed found here wired own flight sound orderly

theorem run (delivering : w.Delivering) (incidents : List (Incident η)) :
    (w.run (incidents.map Incident.move)).Delivering := by
  induction incidents generalizing w with
  | nil => exact delivering
  | cons incident incidents ih => exact ih (delivering.perform incident)

end Delivering

/-- What a memory broker holds and what publish calls said, side by side. -/
structure Delivered (w : OnMemory η) : Prop where
  frames : (w.frames.map Frame.parcel).Perm (w.postings.filterMap Posting.parcel?)
  returned : ∀ posting ∈ w.postings, ∀ receipt, posting.upshot = some (.returned (.ok receipt)) →
    ∃ envelope lease, posting.message.content = .ok envelope ∧ posting.lease = some lease ∧
      posting.parcel? = some (.of posting.backend envelope lease)
  otherwise : ∀ posting ∈ w.postings, (∀ receipt, posting.upshot ≠ some (.returned (.ok receipt))) →
    posting.parcel? = none
  exclusive : w.exchange.registry.shared.surroundings.outside.violations = 0

theorem Delivering.delivered {w : OnMemory η} (delivering : w.Delivering) : w.Delivered where
  frames := delivering.frames
  returned posting member receipt ok := by
    obtain ⟨envelope, content, -⟩ := delivering.sound.receipts posting member receipt ok
    obtain ⟨lease, leased⟩ := Option.isSome_iff_exists.1 (delivering.leased posting member receipt ok)
    refine ⟨envelope, lease, content, leased, ?_⟩
    simp only [Posting.parcel?, ok, content, leased]
  otherwise posting _ unconfirmed := Posting.parcel_unconfirmed unconfirmed
  exclusive := delivering.orderly.exclusive

/-- Whatever happens to a memory broker and to the calls that use it, its frames are those of the publish
calls that returned a receipt, one for each of them, and no handle was used by two sends at once. What such
a call sent is the payload that it was asked to send, to the destination that its request resolves to. -/
theorem delivered_exactly_when_reported (process : String) (incidents : List (Incident η)) :
    let w := (Watch.start MemoryBroker.new process : OnMemory η).run (incidents.map Incident.move)
    w.exchange = (Exchange.start MemoryBroker.new process).run (incidents.map Incident.move) ∧
      w.Accounted ∧ w.Delivered ∧
      ∀ (options : PublisherOptions) (request : Request) (envelope : Envelope),
        (request.outgoing options).content = .ok envelope →
        envelope.destination = Outgoing.resolve options request.destination ∧
          request.payload = .ok envelope.payload := by
  have delivering := (Delivering.start process : (Watch.start _ process : OnMemory η).Delivering).run incidents
  exact ⟨run_exchange _ _, delivering.sound.accounted, delivering.delivered, fun _ _ _ => Request.content_outgoing⟩

end Watch

end Dispatch
