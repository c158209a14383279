import Dispatch.Proofs.Readings

/-!
# Contacts of a consumer

A partner of a consumer is whoever it calls: the transport that holds the subscription, the handler.
`Operation.watched` is any operation together with a book in which it notes that it has been begun and
what it came to, so a consumer whose partners are watched leaves a record that they have kept, not the
consumer. An operation `Tells` if the book is that much longer after each of its steps.
-/

set_option autoImplicit false

namespace Dispatch

inductive Contact (σ : Type) where
  | asked (subscription : σ)
  | given (subscription : σ) (result : Except TransportError (Option Delivery))
  | handed (delivery : Delivery)
  | judged (delivery : Delivery) (verdict : Except String Unit)
  | settling (subscription : σ) (accepted : Bool)
  | settled (subscription : σ) (accepted : Bool) (result : Except TransportError Unit)

abbrev Watched (ε σ : Type) := ε × List (Contact σ)

namespace Operation

variable {ε φ κ ρ σ α : Type}

def watched (op : Operation ε κ α) (begins : List (Contact σ)) (ends : α → List (Contact σ)) :
    Operation (Watched ε σ) (Option κ) α where
  start := none
  step now environment
    | none => (.moved (some op.start), environment.1, environment.2 ++ begins)
    | some call =>
      let (turn, outside) := op.step now environment.1 call
      match turn with
      | .finished result => (.finished result, outside, environment.2 ++ ends result)
      | .moved next => (.moved (some next), outside, environment.2)
      | .blocked wake => (.blocked wake, outside, environment.2)
      | .overflowed => (.overflowed, outside, environment.2)
  abandon environment
    | none => environment
    | some call => (op.abandon environment.1 call, environment.2)

def along (op : Operation ε κ α) (form : φ ≃ ε) : Operation φ κ α where
  start := op.start
  step now environment call :=
    let (turn, after) := op.step now (form environment) call
    (turn, form.symm after)
  abandon environment call := form.symm (op.abandon (form environment) call)

def plain (op : Operation ε κ α) : Operation ε (TransportCall ρ κ) α where
  start := .plain op.start
  step now environment
    | .plain call =>
      let (turn, environment) := op.step now environment call
      (turn.lift .plain .finished, environment)
    | _ => (.blocked none, environment)
  abandon environment
    | .plain call => op.abandon environment call
    | _ => environment

end Operation

def Surroundings.split (ε σ : Type) : Surroundings (Watched ε σ) ≃ Watched (Surroundings ε) σ where
  toFun s := ({ s with outside := s.outside.1 }, s.outside.2)
  invFun w := { w.1 with outside := (w.1.outside, w.2) }

abbrev Surroundings.contacts {ε σ : Type} (s : Surroundings (Watched ε σ)) : List (Contact σ) := s.outside.2

abbrev WatchedCall (ρ κ : Type) := TransportCall ρ (Option (TransportCall ρ κ))

def Operation.noted {ε ρ σ κ α : Type} (op : Operation (Surroundings ε) (TransportCall ρ κ) α)
    (begins : List (Contact σ)) (ends : α → List (Contact σ)) :
    Operation (Surroundings (Watched ε σ)) (WatchedCall ρ κ) α :=
  ((op.watched begins ends).along (Surroundings.split ε σ)).plain

def Handler.watched {ε σ η : Type} (handler : Handler ε η) : Handler (Watched ε σ) (Option η) :=
  fun delivery => (handler delivery).watched [.handed delivery] fun verdict => [.judged delivery verdict]

/-- A transport that keeps the book of its subscriptions. -/
def Transport.watched {ε ρ σ κ : Type} (t : Transport ε ρ σ κ) :
    Transport (Watched ε σ) ρ σ (Option (TransportCall ρ κ)) where
  kind := t.kind
  endpoint := t.endpoint
  forwardsHeaders := t.forwardsHeaders
  connect := t.connect.noted [] fun _ => []
  isUsable outside := t.isUsable outside.1
  send handle envelope := (t.send handle envelope).noted [] fun _ => []
  close handle outside := (t.close handle outside.1, outside.2)
  forget handle outside := (t.forget handle outside.1, outside.2)
  subscribe source := (t.subscribe source).noted [] fun _ => []
  next subscription := (t.next subscription).noted [.asked subscription] fun result => [.given subscription result]
  ack subscription :=
    (t.ack subscription).noted [.settling subscription true] fun result => [.settled subscription true result]
  nack subscription :=
    (t.nack subscription).noted [.settling subscription false] fun result => [.settled subscription false result]
  leave subscription outside := (t.leave subscription outside.1, outside.2)

section Telling

variable {ε κ σ α : Type}

def soFar (made : κ → Bool) (begins : List (Contact σ)) (call : κ) : List (Contact σ) :=
  if made call then begins else []

def Turn.told (made : κ → Bool) (begins : List (Contact σ)) (ends : α → List (Contact σ)) (call : κ) :
    Turn κ α → List (Contact σ)
  | .finished result => begins ++ ends result
  | .moved next => soFar made begins next
  | .blocked _ | .overflowed => soFar made begins call

structure Operation.Tells (op : Operation ε κ α) (book : ε → List (Contact σ)) (made : κ → Bool)
    (begins : List (Contact σ)) (ends : α → List (Contact σ)) : Prop where
  start : made op.start = false
  step : ∀ now environment call before, book environment = before ++ soFar made begins call →
    book (op.step now environment call).2 = before ++ (op.step now environment call).1.told made begins ends call
  abandon : ∀ environment call, book (op.abandon environment call) = book environment

theorem Operation.Tells.keeps {op : Operation ε κ α} {book : ε → List (Contact σ)} {made : κ → Bool}
    (tells : op.Tells book made [] fun _ => []) : op.Keeps book where
  step now environment call := by
    have nothing (turn : Turn κ α) : turn.told made ([] : List (Contact σ)) (fun _ => []) call = [] := by
      cases turn <;> simp [Turn.told, soFar]
    have told := tells.step now environment call (book environment) (by simp [soFar])
    simpa only [nothing, List.append_nil] using told
  abandon := tells.abandon

end Telling

namespace Operation

variable {ε φ κ ρ σ α : Type} {begins : List (Contact σ)} {ends : α → List (Contact σ)}

theorem watched_tells (op : Operation ε κ α) (begins : List (Contact σ)) (ends : α → List (Contact σ)) :
    (op.watched begins ends).Tells Prod.snd Option.isSome begins ends where
  start := rfl
  step now environment call before kept := by
    obtain ⟨outside, book⟩ := environment
    obtain rfl : book = before ++ soFar Option.isSome begins call := kept
    cases call with
    | none => simp [watched, Turn.told, soFar]
    | some call =>
        rcases stepped : op.step now outside call with ⟨turn, after⟩
        cases turn <;> simp [watched, stepped, Turn.told, soFar]
  abandon environment call := by cases call <;> rfl

theorem Tells.along {op : Operation ε κ α} {book : ε → List (Contact σ)} {made : κ → Bool}
    (tells : op.Tells book made begins ends) (form : φ ≃ ε) :
    (op.along form).Tells (fun environment => book (form environment)) made begins ends where
  start := tells.start
  step now environment call before kept := by
    simpa only [Operation.along, Equiv.apply_symm_apply] using tells.step now (form environment) call before kept
  abandon environment call := by
    simpa only [Operation.along, Equiv.apply_symm_apply] using tells.abandon (form environment) call

end Operation

def TransportCall.made {ρ κ : Type} (made : κ → Bool) : TransportCall ρ κ → Bool
  | .plain call => made call
  | _ => true

theorem Turn.told_plain {ρ κ σ α : Type} (turn : Turn κ α) (made : κ → Bool) (begins : List (Contact σ))
    (ends : α → List (Contact σ)) (call : κ) :
    (turn.lift (.plain : κ → TransportCall ρ κ) .finished).told (TransportCall.made made) begins ends (.plain call) =
      turn.told made begins ends call := by
  cases turn <;> rfl

theorem Operation.Tells.plain {ε ρ κ σ α : Type} {begins : List (Contact σ)} {ends : α → List (Contact σ)}
    {op : Operation ε κ α} {book : ε → List (Contact σ)} {made : κ → Bool} (tells : op.Tells book made begins ends) :
    (op.plain : Operation ε (TransportCall ρ κ) α).Tells book (TransportCall.made made) begins ends where
  start := tells.start
  step now environment call before kept := by
    cases call with
    | plain call =>
        exact (tells.step now environment call before kept).trans
          (congrArg (before ++ ·) (Turn.told_plain _ made begins ends call).symm)
    | fresh | opening | confirming | sending | listening => exact kept
  abandon environment call := by
    cases call with
    | plain call => exact tells.abandon environment call
    | fresh | opening | confirming | sending | listening => rfl

abbrev WatchedCall.made {ρ κ : Type} : WatchedCall ρ κ → Bool := TransportCall.made Option.isSome

theorem Operation.noted_tells {ε ρ σ κ α : Type} (op : Operation (Surroundings ε) (TransportCall ρ κ) α)
    (begins : List (Contact σ)) (ends : α → List (Contact σ)) :
    (op.noted begins ends).Tells Surroundings.contacts WatchedCall.made begins ends :=
  ((op.watched_tells begins ends).along (Surroundings.split ε σ)).plain

end Dispatch
