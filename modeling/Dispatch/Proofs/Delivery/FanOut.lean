import Dispatch.Proofs.Delivery.Messages

/-!
# What subscriptions receive

A `MemoryBroker.Act` is one poll of a call to a broker, or what a test does to it; a run is any list of acts, and its
history has what clients notice of them. A `Stay` is a subscription with all that happens from its opening on. What is
due to it are the frames that arrive until it ends and that its filter lets in. `Chronicled` says that the broker's
subscriptions are what the history makes of its stays, each with what is due to it and not yet received in its queue;
every act keeps that.
-/

set_option autoImplicit false

namespace Dispatch

namespace MemoryBroker

/-! ## Runs -/

inductive Happening where
  | accepted (frame : Frame)
  | injected (frame : Frame) (receivers : Nat)
  | opened (number : Nat) (filter : String)
  | received (number : Nat) (delivery : Delivery)
  | exhausted (number : Nat)
  | closed
  | left (number : Nat)

/-- What clients do to a broker, each call polled in whatever state it is, and what tests do to it. -/
inductive Act where
  | openHandle (opening : Opening) (now : Instant) (call : MemoryCall)
  | confirmSelect (handle : MemoryHandle) (now : Instant) (call : MemoryCall)
  | send (handle : MemoryHandle) (wire : Wire) (now : Instant) (call : MemoryCall)
  | giveUpSend (handle : MemoryHandle) (wire : Wire) (call : MemoryCall)
  | close (handle : MemoryHandle)
  | forget (handle : MemoryHandle)
  | listen (listening : Listening) (now : Instant) (call : MemoryCall)
  | next (number : Nat) (now : Instant) (call : MemoryCall)
  | ack (number : Nat) (now : Instant) (call : MemoryCall)
  | nack (number : Nat) (now : Instant) (call : MemoryCall)
  | leave (number : Nat)
  | fault (injected : Fault)

def good? {κ φ α : Type} : Turn κ (Except φ α) → Option α
  | .finished (.ok result) => some result
  | _ => none

def subscriber? (b : MemoryBroker) (number : Nat) : Option Subscriber := b.subscribers.find? (·.number = number)

def act (b : MemoryBroker) : Act → Option Happening × MemoryBroker
  | .openHandle opening now call => (none, ((connector.openHandle opening).step now b call).2)
  | .confirmSelect handle now call => (none, ((connector.confirmSelect handle).step now b call).2)
  | .send handle wire now call =>
    let (turn, b) := (connector.send handle wire).step now b call
    ((good? turn).map fun _ => .accepted (.ofWire handle.backend handle.number wire), b)
  | .giveUpSend handle wire call => (none, (connector.send handle wire).abandon b call)
  | .close handle => (none, connector.close handle b)
  | .forget handle => (none, connector.forget handle b)
  | .listen listening now call =>
    let (turn, b) := (connector.listen listening).step now b call
    ((good? turn).map (.opened · listening.source), b)
  | .next number now call =>
    match b.subscriber? number with
    | none => (none, b)
    | some _ =>
      let (turn, b) := (connector.next number).step now b call
      ((good? turn).map fun
        | some delivery => .received number delivery
        | none => .exhausted number, b)
  | .ack number now call => (none, ((connector.ack number).step now b call).2)
  | .nack number now call => (none, ((connector.nack number).step now b call).2)
  | .leave number =>
    match b.subscriber? number with
    | none => (none, b)
    | some _ => (some (.left number), connector.leave number b)
  | .fault (.inject source payload) =>
    let (receivers, b) := b.inject source payload
    (some (.injected (Frame.plain .amqp source source payload) receivers), b)
  | .fault .closeSubscriptions => (some .closed, b.closeSubscriptions)
  | .fault injected => (none, injected.apply b)

def chronicle (acts : List Act) : List Happening × MemoryBroker :=
  acts.foldl (fun (history, b) a => (history ++ (b.act a).1.toList, (b.act a).2)) ([], .new)

theorem chronicle_append (acts : List Act) (a : Act) :
    chronicle (acts ++ [a]) =
      ((chronicle acts).1 ++ ((chronicle acts).2.act a).1.toList, ((chronicle acts).2.act a).2) := by
  simp only [chronicle, List.foldl_append, List.foldl_cons, List.foldl_nil]

/-! ## One act -/

inductive Change (b next : MemoryBroker) : Option Happening → Prop
  | quiet (traffic : next.traffic = b.traffic) (numbers : next.nextSubscriber = b.nextSubscriber) : Change b next none
  | accepted {frame : Frame} (traffic : next.traffic = (b.frames ++ [frame], b.subscribers.map (·.offered frame)))
      (numbers : next.nextSubscriber = b.nextSubscriber) : Change b next (some (.accepted frame))
  | injected {frame : Frame} (traffic : next.traffic = (b.frames, b.subscribers.map (·.offered frame)))
      (numbers : next.nextSubscriber = b.nextSubscriber) :
      Change b next (some (.injected frame (b.subscribers.filter (·.takes frame)).length))
  | opened {filter : String}
      (traffic : next.traffic = (b.frames, b.subscribers ++ [⟨b.nextSubscriber, filter, [], true⟩]))
      (numbers : next.nextSubscriber = b.nextSubscriber + 1) : Change b next (some (.opened b.nextSubscriber filter))
  | received {number : Nat} {s : Subscriber} {delivery : Delivery} {queue : List Delivery}
      (found : b.subscriber? number = some s) (waits : s.queue = delivery :: queue)
      (traffic : next.traffic =
        (b.frames, b.subscribers.map fun s => if s.number = number then { s with queue } else s))
      (numbers : next.nextSubscriber = b.nextSubscriber) : Change b next (some (.received number delivery))
  | exhausted {number : Nat} {s : Subscriber} (found : b.subscriber? number = some s) (empty : s.queue = [])
      (ended : s.listening = false) (same : next = b) : Change b next (some (.exhausted number))
  | closed (traffic : next.traffic = (b.frames, b.subscribers.map fun s => { s with listening := false }))
      (numbers : next.nextSubscriber = b.nextSubscriber) : Change b next (some .closed)
  | left {number : Nat} {s : Subscriber} (found : b.subscriber? number = some s)
      (traffic : next.traffic = (b.frames, b.subscribers.filter (·.number != number)))
      (numbers : next.nextSubscriber = b.nextSubscriber) : Change b next (some (.left number))

theorem stall_change (b : MemoryBroker) (handle : MemoryHandle) (wire : Wire) (now : Instant)
    (deadline wake : Option Instant) (happening : Unit → Happening) :
    b.Change (stall handle wire now b deadline wake).2
      ((good? (stall handle wire now b deadline wake).1).map happening) := by
  unfold stall
  split <;> exact .quiet rfl rfl

theorem send_change (b : MemoryBroker) (handle : MemoryHandle) (wire : Wire) (now : Instant) (call : MemoryCall) :
    b.Change (b.act (.send handle wire now call)).2 (b.act (.send handle wire now call)).1 := by
  simp only [act, connector, send]
  cases call with
  | fresh | connecting =>
      dsimp only
      split <;> exact .quiet rfl rfl
  | hanging deadline => exact stall_change b handle wire now deadline none _
  | sending deadline until_ =>
      dsimp only
      split
      · exact stall_change b handle wire now deadline (some until_) _
      · split
        · exact .quiet rfl rfl
        · simp only [arrive]
          split
          · exact .quiet rfl rfl
          · split
            · exact .quiet rfl rfl
            · exact .accepted rfl rfl

theorem listen_change (b : MemoryBroker) (listening : Listening) (now : Instant) (call : MemoryCall) :
    b.Change (b.act (.listen listening now call)).2 (b.act (.listen listening now call)).1 := by
  simp only [act, connector, attempt]
  cases call with
  | fresh | sending | hanging => exact .quiet rfl rfl
  | connecting until_ =>
      dsimp only
      split
      · exact .quiet rfl rfl
      · split
        · exact .quiet rfl rfl
        · exact .opened rfl rfl

theorem next_change (b : MemoryBroker) (number : Nat) (now : Instant) (call : MemoryCall) :
    b.Change (b.act (.next number now call)).2 (b.act (.next number now call)).1 := by
  simp only [act]
  cases found : b.subscriber? number with
  | none => exact .quiet rfl rfl
  | some s =>
      have held : b.subscribers.find? (·.number = number) = some s := found
      simp only [connector, receive, held]
      cases waits : s.queue with
      | cons delivery queue => exact .received found waits rfl rfl
      | nil =>
          cases ended : s.listening with
          | true => exact .quiet rfl rfl
          | false => exact .exhausted found waits ended rfl

theorem act_change (b : MemoryBroker) (a : Act) : b.Change (b.act a).2 (b.act a).1 := by
  cases a with
  | send handle wire now call => exact b.send_change handle wire now call
  | listen listening now call => exact b.listen_change listening now call
  | next number now call => exact b.next_change number now call
  | openHandle opening now call =>
      have kept : ((connector.openHandle opening).step now b call).2.traffic = b.traffic ∧
          ((connector.openHandle opening).step now b call).2.nextSubscriber = b.nextSubscriber := by
        simp only [connector, attempt]
        cases call with
        | fresh | sending | hanging => exact ⟨rfl, rfl⟩
        | connecting until_ =>
            dsimp only
            split
            · exact ⟨rfl, rfl⟩
            · split <;> exact ⟨rfl, rfl⟩
      exact .quiet kept.1 kept.2
  | confirmSelect | ack | nack => exact .quiet rfl rfl
  | giveUpSend handle wire call => cases call <;> exact .quiet rfl rfl
  | close handle | forget handle =>
      refine .quiet (b.close_traffic handle) ?_
      simp only [act, connector, close]
      split <;> rfl
  | leave number =>
      simp only [act]
      cases found : b.subscriber? number with
      | none => exact .quiet rfl rfl
      | some s => exact .left found rfl rfl
  | fault injected =>
      cases injected with
      | inject source payload => exact .injected rfl rfl
      | closeSubscriptions => exact .closed rfl rfl
      | failConnects | failSends | rejectSends | hangSends | delaySends | delayConnects | breakConnections =>
          exact .quiet rfl rfl

/-! ## Stays -/

theorem takeWhile_concat {α : Type} (p : α → Bool) (xs : List α) (x : α) :
    (xs ++ [x]).takeWhile p = xs.takeWhile p ++ if xs.all p && p x then [x] else [] := by
  induction xs with
  | nil => cases held : p x <;> simp [held]
  | cons first xs ih => cases held : p first <;> simp [held, ih]

theorem filterMap_concat {α β : Type} (f : α → Option β) (xs : List α) (x : α) :
    (xs ++ [x]).filterMap f = xs.filterMap f ++ (f x).toList := by
  rw [List.filterMap_append, List.filterMap_cons]
  cases f x <;> rfl

theorem concat_prefix {α : Type} {xs ys rest : List α} {next : α} (sound : xs <+: ys)
    (left : ys.drop xs.length = next :: rest) : xs ++ [next] <+: ys := by
  refine ⟨rest, ?_⟩
  rw [List.append_assoc, List.singleton_append, ← left]
  exact List.prefix_iff_eq_append.1 sound

namespace Happening

def accepted? : Happening → Option Frame
  | .accepted frame => some frame
  | _ => none

def frame? : Happening → Option Frame
  | .accepted frame | .injected frame _ => some frame
  | _ => none

def ends (number : Nat) : Happening → Bool
  | .closed => true
  | .left dropped => dropped = number
  | _ => false

def drops (number : Nat) : Happening → Bool
  | .left dropped => dropped = number
  | _ => false

def delivery? (number : Nat) : Happening → Option Delivery
  | .received receiver delivery => if receiver = number then some delivery else none
  | _ => none

end Happening

structure Stay where
  number : Nat
  filter : String
  since : List Happening

namespace Stay

def share (stay : Stay) (frame : Frame) : Option Delivery :=
  if stay.filter = "" ∨ stay.filter = frame.topic ∨ stay.filter = frame.key then
    some
      { source := if stay.filter = "" then frame.topic else stay.filter
        payload := frame.payload
        headers := frame.headers
        correlationId := frame.correlationId
        messageId := frame.messageId }
  else none

def lifetime (stay : Stay) : List Happening := stay.since.takeWhile fun happening => !happening.ends stay.number

def due (stay : Stay) : List Delivery := stay.lifetime.filterMap fun happening => happening.frame?.bind stay.share

def got (stay : Stay) : List Delivery := stay.since.filterMap (·.delivery? stay.number)

def isOver (stay : Stay) : Bool := stay.since.any (·.ends stay.number)

def isDropped (stay : Stay) : Bool := stay.since.any (·.drops stay.number)

def answer (stay : Stay) : Option Happening :=
  match stay.due.drop stay.got.length with
  | delivery :: _ => some (.received stay.number delivery)
  | [] => if stay.isOver then some (.exhausted stay.number) else none

def subscriber (stay : Stay) : Subscriber where
  number := stay.number
  filter := stay.filter
  queue := stay.due.drop stay.got.length
  listening := !stay.isOver

def note (stay : Stay) (happening : Happening) : Stay := { stay with since := stay.since ++ [happening] }

variable (stay : Stay) (happening : Happening)

theorem share_eq (frame : Frame) :
    stay.share frame = if frame.matchesFilter stay.filter then some (frame.delivery stay.filter) else none := by
  simp [share, Frame.matchesFilter, Frame.delivery, String.isEmpty_iff, or_assoc]

theorem note_got : (stay.note happening).got = stay.got ++ (happening.delivery? stay.number).toList :=
  filterMap_concat _ stay.since happening

theorem note_isOver : (stay.note happening).isOver = (stay.isOver || happening.ends stay.number) := by
  simp [isOver, note, List.any_append]

theorem note_isDropped : (stay.note happening).isDropped = (stay.isDropped || happening.drops stay.number) := by
  simp [isDropped, note, List.any_append]

theorem note_due :
    (stay.note happening).due =
      stay.due ++ if stay.isOver then [] else (happening.frame?.bind stay.share).toList := by
  have going : (stay.since.all fun happening => !happening.ends stay.number) = !stay.isOver :=
    (List.not_any_eq_all_not ..).symm
  have lifetime : (stay.note happening).lifetime =
      stay.lifetime ++ if !stay.isOver && !happening.ends stay.number then [happening] else [] := by
    rw [← going]
    exact takeWhile_concat _ stay.since happening
  rw [due, lifetime, List.filterMap_append]
  refine congrArg (stay.due ++ ·) ?_
  cases stay.isOver with
  | true => rfl
  | false =>
      -- no frame arrives with what ends a subscription
      cases happening with
      | accepted frame | injected frame => exact filterMap_concat _ [] _
      | opened | received | exhausted | closed => rfl
      | left dropped =>
          by_cases own : dropped = stay.number <;> simp [Happening.ends, Happening.frame?, own]

variable {stay happening}

theorem got_kept (silent : happening.delivery? stay.number = none) : (stay.note happening).got = stay.got := by
  rw [note_got, silent]
  exact List.append_nil _

theorem due_kept (arrives : happening.frame? = none) : (stay.note happening).due = stay.due := by
  simp [note_due, arrives]

theorem quiet_of_frame {frame : Frame} (arrives : happening.frame? = some frame) (number : Nat) :
    happening.delivery? number = none ∧ happening.ends number = false ∧ happening.drops number = false := by
  cases happening with
  | accepted | injected => exact ⟨rfl, rfl, rfl⟩
  | opened | received | exhausted | closed | left => cases arrives

theorem note_frame_due {frame : Frame} (arrives : happening.frame? = some frame) :
    (stay.note happening).due =
      stay.due ++ if stay.subscriber.takes frame then [frame.delivery stay.filter] else [] := by
  rw [note_due, arrives, Option.bind_some, share_eq, Subscriber.takes]
  refine congrArg (stay.due ++ ·) ?_
  by_cases ended : stay.isOver <;> by_cases fits : frame.matchesFilter stay.filter <;> simp [subscriber, ended, fits]

theorem note_frame (sound : stay.got <+: stay.due) {frame : Frame} (arrives : happening.frame? = some frame) :
    (stay.note happening).subscriber = stay.subscriber.offered frame ∧
      (stay.note happening).isDropped = stay.isDropped ∧ (stay.note happening).got <+: (stay.note happening).due := by
  obtain ⟨silent, ends, drops⟩ := quiet_of_frame arrives stay.number
  have isOver : (stay.note happening).isOver = stay.isOver := by rw [note_isOver, ends, Bool.or_false]
  refine ⟨?_, by rw [note_isDropped, drops, Bool.or_false], ?_⟩
  · rw [subscriber, got_kept silent, note_frame_due arrives, isOver,
      List.drop_append_of_le_length sound.length_le, Subscriber.offered]
    split
    · rfl
    · rw [List.append_nil]
      rfl
  · rw [got_kept silent, note_frame_due arrives]
    exact sound.trans (List.prefix_append _ _)

theorem note_other (stay : Stay) (happening : Happening) (silent : happening.delivery? stay.number = none)
    (arrives : happening.frame? = none) (ends : happening.ends stay.number = false)
    (drops : happening.drops stay.number = false) :
    (stay.note happening).subscriber = stay.subscriber ∧ (stay.note happening).isDropped = stay.isDropped ∧
      (stay.note happening).got = stay.got ∧ (stay.note happening).due = stay.due := by
  refine ⟨?_, by rw [note_isDropped, drops, Bool.or_false], got_kept silent, due_kept arrives⟩
  rw [subscriber, got_kept silent, due_kept arrives, note_isOver, ends, Bool.or_false]
  rfl

theorem note_received (sound : stay.got <+: stay.due) {delivery : Delivery} {queue : List Delivery}
    (waits : stay.subscriber.queue = delivery :: queue) :
    (stay.note (.received stay.number delivery)).subscriber = { stay.subscriber with queue } ∧
      (stay.note (.received stay.number delivery)).isDropped = stay.isDropped ∧
      (stay.note (.received stay.number delivery)).got <+: (stay.note (.received stay.number delivery)).due := by
  have rest : stay.due.drop stay.got.length = delivery :: queue := waits
  have got : (stay.note (.received stay.number delivery)).got = stay.got ++ [delivery] := by
    rw [note_got, Happening.delivery?, if_pos rfl]
    rfl
  refine ⟨?_, by rw [note_isDropped]; exact Bool.or_false _, ?_⟩
  · rw [subscriber, got, due_kept rfl, List.length_append, List.length_singleton, ← List.drop_drop, rest, note_isOver]
    simp [subscriber, Happening.ends, note]
  · rw [got, due_kept rfl]
    exact concat_prefix sound rest

theorem note_closed :
    (stay.note .closed).subscriber = { stay.subscriber with listening := false } ∧
      (stay.note .closed).isDropped = stay.isDropped ∧ (stay.note .closed).got = stay.got ∧
      (stay.note .closed).due = stay.due := by
  refine ⟨?_, by rw [note_isDropped]; exact Bool.or_false _, got_kept rfl, due_kept rfl⟩
  rw [subscriber, got_kept rfl, due_kept rfl, note_isOver]
  simp [subscriber, Happening.ends, note]

theorem over_of_dropped (dropped : stay.isDropped = true) : stay.isOver = true := by
  obtain ⟨happening, member, drops⟩ := List.any_eq_true.1 dropped
  refine List.any_eq_true.2 ⟨happening, member, ?_⟩
  cases happening with
  | left => exact drops
  | accepted | injected | opened | received | exhausted | closed => cases drops

theorem closed_of_over (ended : stay.isOver = true) (undropped : stay.isDropped = false) : .closed ∈ stay.since := by
  obtain ⟨happening, member, ends⟩ := List.any_eq_true.1 ended
  cases happening with
  | closed => exact member
  | left dropped =>
      have drops : stay.isDropped = true := List.any_eq_true.2 ⟨.left dropped, member, ends⟩
      rw [undropped] at drops
      cases drops
  | accepted | injected | opened | received | exhausted => cases ends

end Stay

def stays : List Happening → List Stay
  | [] => []
  | .opened number filter :: since => ⟨number, filter, since⟩ :: stays since
  | _ :: since => stays since

def Happening.opening? : Happening → Option Stay
  | .opened number filter => some ⟨number, filter, []⟩
  | _ => none

theorem stays_append (history : List Happening) (happening : Happening) :
    stays (history ++ [happening]) = (stays history).map (·.note happening) ++ happening.opening?.toList := by
  induction history with
  | nil => cases happening <;> rfl
  | cons first history ih =>
      cases first with
      | opened number filter =>
          rw [List.cons_append, stays, stays, ih]
          rfl
      | accepted | injected | received | exhausted | closed | left => exact ih

structure Chronicled (history : List Happening) (b : MemoryBroker) : Prop where
  frames : b.frames = history.filterMap (·.accepted?)
  numbers : (stays history).map (·.number) = List.range b.nextSubscriber
  subscribers : b.subscribers = ((stays history).filter (!·.isDropped)).map Stay.subscriber
  sound : ∀ stay ∈ stays history, stay.got <+: stay.due

namespace Chronicled

variable {history : List Happening} {happening : Happening} {b next : MemoryBroker}

theorem new : Chronicled [] .new := ⟨rfl, rfl, rfl, nofun⟩

theorem unique (chronicled : Chronicled history b) {stay other : Stay} (member : stay ∈ stays history)
    (member' : other ∈ stays history) (same : stay.number = other.number) : stay = other := by
  have distinct : ((stays history).map (·.number)).Nodup := chronicled.numbers ▸ List.nodup_range
  exact List.inj_on_of_nodup_map distinct member member' same

theorem found (chronicled : Chronicled history b) {number : Nat} {s : Subscriber}
    (found : b.subscriber? number = some s) :
    ∃ stay ∈ stays history, stay.isDropped = false ∧ stay.number = number ∧ stay.subscriber = s := by
  have member := List.mem_of_find?_eq_some found
  rw [chronicled.subscribers] at member
  obtain ⟨stay, kept, rfl⟩ := List.mem_map.1 member
  obtain ⟨member, undropped⟩ := List.mem_filter.1 kept
  have number := List.find?_some found
  exact ⟨stay, member, by simpa using undropped, of_decide_eq_true number, rfl⟩

theorem kept (chronicled : Chronicled history b) {stay : Stay} (member : stay ∈ stays history)
    (undropped : stay.isDropped = false) : b.subscriber? stay.number = some stay.subscriber := by
  have there : stay.subscriber ∈ b.subscribers := by
    rw [chronicled.subscribers]
    exact List.mem_map_of_mem (List.mem_filter.2 ⟨member, by simp [undropped]⟩)
  cases held : b.subscriber? stay.number with
  | none => simpa [Stay.subscriber] using List.find?_eq_none.1 held _ there
  | some s =>
      obtain ⟨other, member', -, number, rfl⟩ := chronicled.found held
      rw [chronicled.unique member' member number]

theorem noted (chronicled : Chronicled history b) {f : Subscriber → Subscriber}
    (unopened : happening.opening? = none) (frames : next.frames = b.frames ++ happening.accepted?.toList)
    (subscribers : next.subscribers = b.subscribers.map f) (numbers : next.nextSubscriber = b.nextSubscriber)
    (each : ∀ stay ∈ stays history, (stay.note happening).subscriber = f stay.subscriber ∧
      (stay.note happening).isDropped = stay.isDropped ∧ (stay.note happening).got <+: (stay.note happening).due) :
    Chronicled (history ++ [happening]) next := by
  have later : stays (history ++ [happening]) = (stays history).map (·.note happening) := by
    rw [stays_append, unopened]
    exact List.append_nil _
  refine ⟨?_, ?_, ?_, ?_⟩
  · rw [filterMap_concat, ← chronicled.frames, frames]
  · rw [later, numbers, ← chronicled.numbers, List.map_map]
    rfl
  · rw [later, List.filter_map, List.map_map]
    have same : (stays history).filter ((!·.isDropped) ∘ (·.note happening)) = (stays history).filter (!·.isDropped) :=
      List.filter_congr fun stay member => congrArg Bool.not (each stay member).2.1
    rw [same, subscribers, chronicled.subscribers, List.map_map]
    exact List.map_congr_left fun stay member => ((each stay (List.mem_filter.1 member).1).1).symm
  · rw [later]
    intro stay member
    obtain ⟨earlier, before, rfl⟩ := List.mem_map.1 member
    exact (each earlier before).2.2

theorem received (chronicled : Chronicled history b) {number : Nat} {s : Subscriber} {delivery : Delivery}
    {queue : List Delivery} (found : b.subscriber? number = some s) (waits : s.queue = delivery :: queue)
    (traffic : next.traffic = (b.frames, b.subscribers.map fun s => if s.number = number then { s with queue } else s))
    (numbers : next.nextSubscriber = b.nextSubscriber) : Chronicled (history ++ [.received number delivery]) next := by
  refine chronicled.noted rfl ((congrArg Prod.fst traffic).trans (List.append_nil _).symm)
    (congrArg Prod.snd traffic) numbers fun stay member => ?_
  obtain ⟨receiver, member', -, rfl, rfl⟩ := chronicled.found found
  have sound := chronicled.sound stay member
  by_cases own : stay.number = receiver.number
  · obtain rfl := chronicled.unique member member' own
    obtain ⟨subscriber, isDropped, sound⟩ := Stay.note_received sound waits
    exact ⟨subscriber.trans (if_pos rfl).symm, isDropped, sound⟩
  · obtain ⟨subscriber, isDropped, got, due⟩ :=
      stay.note_other (.received receiver.number delivery) (if_neg (Ne.symm own)) rfl rfl rfl
    exact ⟨subscriber.trans (if_neg own).symm, isDropped, got ▸ due ▸ sound⟩

theorem closed (chronicled : Chronicled history b)
    (traffic : next.traffic = (b.frames, b.subscribers.map fun s => { s with listening := false }))
    (numbers : next.nextSubscriber = b.nextSubscriber) : Chronicled (history ++ [.closed]) next := by
  refine chronicled.noted rfl ((congrArg Prod.fst traffic).trans (List.append_nil _).symm)
    (congrArg Prod.snd traffic) numbers fun stay member => ?_
  obtain ⟨subscriber, isDropped, got, due⟩ := stay.note_closed
  exact ⟨subscriber, isDropped, got ▸ due ▸ chronicled.sound stay member⟩

theorem left (chronicled : Chronicled history b) {number : Nat}
    (traffic : next.traffic = (b.frames, b.subscribers.filter (·.number != number)))
    (numbers : next.nextSubscriber = b.nextSubscriber) : Chronicled (history ++ [.left number]) next := by
  have later : stays (history ++ [.left number]) = (stays history).map (·.note (.left number)) := by
    rw [stays_append]
    exact List.append_nil _
  have frames : next.frames = b.frames := congrArg Prod.fst traffic
  have subscribers : next.subscribers = b.subscribers.filter (·.number != number) := congrArg Prod.snd traffic
  -- the subscription leaves the list, so this is not the same change for each, and `noted` does not apply
  refine ⟨?_, ?_, ?_, ?_⟩
  · rw [filterMap_concat, ← chronicled.frames, frames]
    exact (List.append_nil _).symm
  · rw [later, numbers, ← chronicled.numbers, List.map_map]
    rfl
  · rw [later, List.filter_map, List.map_map, subscribers, chronicled.subscribers, List.filter_map, List.filter_filter]
    have same : (stays history).filter ((!·.isDropped) ∘ (·.note (.left number))) =
        (stays history).filter fun stay => ((·.number != number) ∘ Stay.subscriber) stay && !stay.isDropped := by
      refine List.filter_congr fun stay _ => ?_
      simp only [Function.comp_apply, Stay.note_isDropped, Happening.drops, Stay.subscriber]
      by_cases own : stay.number = number
      · simp [own]
      · simp [own, Ne.symm own]
    rw [same]
    refine List.map_congr_left fun stay member => ?_
    have apart : stay.number ≠ number := by
      have kept := (List.mem_filter.1 member).2
      simp only [Function.comp_apply, Stay.subscriber, Bool.and_eq_true, bne_iff_ne] at kept
      exact kept.1
    have away : decide (number = stay.number) = false := decide_eq_false (Ne.symm apart)
    exact (stay.note_other (.left number) rfl rfl away away).1.symm
  · rw [later]
    intro stay member
    obtain ⟨earlier, before, rfl⟩ := List.mem_map.1 member
    rw [Stay.got_kept rfl, Stay.due_kept rfl]
    exact chronicled.sound earlier before

theorem opened (chronicled : Chronicled history b) {filter : String}
    (traffic : next.traffic = (b.frames, b.subscribers ++ [⟨b.nextSubscriber, filter, [], true⟩]))
    (numbers : next.nextSubscriber = b.nextSubscriber + 1) :
    Chronicled (history ++ [.opened b.nextSubscriber filter]) next := by
  have later : stays (history ++ [.opened b.nextSubscriber filter]) =
      (stays history).map (·.note (.opened b.nextSubscriber filter)) ++ [⟨b.nextSubscriber, filter, []⟩] :=
    stays_append _ _
  have same (stay : Stay) := stay.note_other (.opened b.nextSubscriber filter) rfl rfl rfl rfl
  have frames : next.frames = b.frames := congrArg Prod.fst traffic
  have subscribers : next.subscribers = b.subscribers ++ [⟨b.nextSubscriber, filter, [], true⟩] :=
    congrArg Prod.snd traffic
  refine ⟨?_, ?_, ?_, ?_⟩
  · rw [filterMap_concat, ← chronicled.frames, frames]
    exact (List.append_nil _).symm
  · rw [later, numbers, List.range_succ, ← chronicled.numbers, List.map_append, List.map_map]
    rfl
  · rw [later, List.filter_append, List.map_append, List.filter_map, List.map_map, subscribers, chronicled.subscribers]
    have undropped : (stays history).filter ((!·.isDropped) ∘ (·.note (.opened b.nextSubscriber filter))) =
        (stays history).filter (!·.isDropped) :=
      List.filter_congr fun stay _ => congrArg Bool.not (same stay).2.1
    rw [undropped]
    exact congrArg (· ++ [(⟨b.nextSubscriber, filter, [], true⟩ : Subscriber)])
      (List.map_congr_left fun stay _ => (same stay).1.symm)
  · rw [later]
    intro stay member
    rcases List.mem_append.1 member with old | new
    · obtain ⟨earlier, before, rfl⟩ := List.mem_map.1 old
      rw [(same earlier).2.2.1, (same earlier).2.2.2]
      exact chronicled.sound earlier before
    · obtain rfl := List.mem_singleton.1 new
      exact List.nil_prefix

theorem change (chronicled : Chronicled history b) {noticed : Option Happening} (change : b.Change next noticed) :
    Chronicled (history ++ noticed.toList) next := by
  cases change with
  | quiet traffic numbers =>
      have frames : next.frames = b.frames := congrArg Prod.fst traffic
      have subscribers : next.subscribers = b.subscribers := congrArg Prod.snd traffic
      rw [Option.toList_none, List.append_nil]
      exact ⟨frames ▸ chronicled.frames, numbers ▸ chronicled.numbers, subscribers ▸ chronicled.subscribers,
        chronicled.sound⟩
  | accepted traffic numbers =>
      exact chronicled.noted rfl (congrArg Prod.fst traffic) (congrArg Prod.snd traffic) numbers fun stay member =>
        Stay.note_frame (chronicled.sound stay member) rfl
  | injected traffic numbers =>
      exact chronicled.noted rfl ((congrArg Prod.fst traffic).trans (List.append_nil _).symm)
        (congrArg Prod.snd traffic) numbers fun stay member => Stay.note_frame (chronicled.sound stay member) rfl
  | opened traffic numbers => exact chronicled.opened traffic numbers
  | received found waits traffic numbers => exact chronicled.received found waits traffic numbers
  | exhausted found empty ended same =>
      subst same
      refine chronicled.noted rfl (List.append_nil _).symm (List.map_id _).symm rfl fun stay member => ?_
      obtain ⟨subscriber, isDropped, got, due⟩ := stay.note_other (.exhausted _) rfl rfl rfl rfl
      exact ⟨subscriber, isDropped, got ▸ due ▸ chronicled.sound stay member⟩
  | closed traffic numbers => exact chronicled.closed traffic numbers
  | left found traffic numbers => exact chronicled.left traffic numbers

theorem act (chronicled : Chronicled history b) (a : Act) :
    Chronicled (history ++ (b.act a).1.toList) (b.act a).2 := chronicled.change (b.act_change a)

theorem chronicle (acts : List Act) : Chronicled (chronicle acts).1 (chronicle acts).2 := by
  induction acts using List.reverseRecOn with
  | nil => exact .new
  | append_singleton acts a ih =>
      rw [chronicle_append]
      exact ih.act a

end Chronicled

/-! ## What subscriptions receive -/

def Happening.Rightly (before : List Happening) : Happening → Prop
  | .injected frame receivers =>
    receivers = ((stays before).filter fun stay => (stay.note (.injected frame receivers)).due ≠ stay.due).length
  | .received number delivery =>
    ∃ stay ∈ stays before, stay.number = number ∧ stay.isDropped = false ∧ stay.got ++ [delivery] <+: stay.due
  | .exhausted number => ∃ stay ∈ stays before, stay.number = number ∧ .closed ∈ stay.since ∧ stay.got = stay.due
  | _ => True

theorem Chronicled.rightly {history : List Happening} {b next : MemoryBroker} (chronicled : Chronicled history b)
    {happening : Happening} (change : b.Change next (some happening)) : happening.Rightly history := by
  cases change with
  | accepted | opened | closed | left => trivial
  | @injected frame traffic numbers =>
      rw [Happening.Rightly, chronicled.subscribers, List.filter_map, List.length_map, List.filter_filter]
      refine congrArg List.length (List.filter_congr fun stay _ => ?_)
      rw [Stay.note_frame_due rfl]
      by_cases takes : stay.subscriber.takes frame
      · have undropped : stay.isDropped = false := by
          cases dropped : stay.isDropped with
          | false => rfl
          | true => simp [Subscriber.takes, Stay.subscriber, Stay.over_of_dropped dropped] at takes
        simp [takes, undropped]
      · simp [takes]
  | received found waits traffic numbers =>
      obtain ⟨stay, member, undropped, rfl, rfl⟩ := chronicled.found found
      exact ⟨stay, member, rfl, undropped, concat_prefix (chronicled.sound stay member) waits⟩
  | exhausted found empty ended same =>
      obtain ⟨stay, member, undropped, rfl, rfl⟩ := chronicled.found found
      have whole := List.prefix_iff_eq_append.1 (chronicled.sound stay member)
      have rest : stay.due.drop stay.got.length = [] := empty
      have isOver : stay.isOver = true := by simpa [Stay.subscriber] using ended
      rw [rest, List.append_nil] at whole
      exact ⟨stay, member, rfl, Stay.closed_of_over isOver undropped, whole⟩

theorem chronicle_rightly (acts : List Act) {before after : List Happening} {happening : Happening}
    (split : (chronicle acts).1 = before ++ happening :: after) : happening.Rightly before := by
  induction acts using List.reverseRecOn generalizing after with
  | nil => simp [chronicle] at split
  | append_singleton acts a ih =>
      rw [chronicle_append] at split
      have change := (chronicle acts).2.act_change a
      generalize (chronicle acts).2.act a = outcome at split change
      obtain ⟨noticed, next⟩ := outcome
      cases noticed with
      | none =>
          rw [Option.toList_none, List.append_nil] at split
          exact ih split
      | some last =>
          -- what is looked at is the last happening, or an earlier one
          rcases List.eq_nil_or_concat' after with rfl | ⟨rest, ultimate, rfl⟩
          · obtain ⟨rfl, same⟩ := List.append_inj' split rfl
            cases same
            exact (Chronicled.chronicle acts).rightly change
          · rw [← List.cons_append, ← List.append_assoc] at split
            exact ih (List.append_inj' split rfl).1

/-- What a history says of the subscriptions in it, and of its broker. -/
structure FansOut (history : List Happening) (b : MemoryBroker) : Prop where
  frames : b.frames = history.filterMap (·.accepted?)
  distinct : ((stays history).map (·.number)).Nodup
  exactly : ∀ stay ∈ stays history, stay.isDropped = false →
    ∃ s, b.subscriber? stay.number = some s ∧ stay.got ++ s.queue = stay.due
  dropped : ∀ stay ∈ stays history, stay.got <+: stay.due
  onward : ∀ stay ∈ stays history, stay.isDropped = false → ∀ now call,
    (b.act (.next stay.number now call)).1 = stay.answer
  rightly : ∀ before happening after, history = before ++ happening :: after → happening.Rightly before

theorem fans_out (acts : List Act) : FansOut (chronicle acts).1 (chronicle acts).2 := by
  have chronicled := Chronicled.chronicle acts
  refine ⟨chronicled.frames, chronicled.numbers ▸ List.nodup_range, ?_, chronicled.sound, ?_, ?_⟩
  · intro stay member undropped
    exact ⟨_, chronicled.kept member undropped, List.prefix_iff_eq_append.1 (chronicled.sound stay member)⟩
  · intro stay member undropped now call
    have kept := chronicled.kept member undropped
    have held : (chronicle acts).2.subscribers.find? (·.number = stay.number) = some stay.subscriber := kept
    simp only [act, kept, connector, receive, held, Stay.subscriber, Stay.answer]
    cases stay.due.drop stay.got.length with
    | cons delivery rest => rfl
    | nil => cases stay.isOver <;> rfl
  · exact fun before happening after split => chronicle_rightly acts split

example :
    (chronicle
      [.listen (.log "orders") 0 (.connecting 0), .listen (.log "audit") 0 (.connecting 0),
        .fault (.inject "orders" [123, 125]), .next 0 0 .fresh, .fault .closeSubscriptions, .next 0 0 .fresh]).1 =
      [.opened 0 "orders", .opened 1 "audit", .injected (.plain .amqp "orders" "orders" [123, 125]) 1,
        .received 0 (.new "orders" [123, 125]), .closed, .exhausted 0] := rfl

end MemoryBroker

end Dispatch
