import Dispatch.Proofs.Execution
import Dispatch.Proofs.Settings.Uri
import Dispatch.Transport

set_option autoImplicit false

namespace Dispatch

/-- The roll of a process: who the process is, and the number of its next session. -/
structure Roll where
  process : String
  next : UInt64
  deriving DecidableEq, Repr

def Surroundings.roll {ε : Type} (s : Surroundings ε) : Roll := ⟨s.process, s.sessions⟩

namespace MqttSettings

theorem toList_sessionClientId (s : MqttSettings) (process : String) (session : UInt64) :
    (s.sessionClientId process session).toList =
      (s.clientId.toList ++ '-' :: process.toList) ++ '-' :: Decimal.digits session.toNat := by
  have number : (toString session.toNat).toList = Decimal.digits session.toNat := Nat.toList_repr
  have text : s.sessionClientId process session = s.clientId ++ "-" ++ process ++ "-" ++ toString session.toNat := rfl
  simp only [text, String.toList_append, number, List.append_assoc]
  rfl

theorem sessionClientId_inj {s t : MqttSettings} {process other : String} {m n : UInt64}
    (same : s.sessionClientId process m = t.sessionClientId other n) : m = n := by
  have hyphen_notMem (k : Nat) : '-' ∉ Decimal.digits k := fun member => absurd (digits_isDigit member) (by decide)
  rw [← String.toList_inj, toList_sessionClientId, toList_sessionClientId,
    last_cut_unique (hyphen_notMem _) (hyphen_notMem _), digits_inj] at same
  exact UInt64.toNat_inj.1 same.2

end MqttSettings

namespace Roll

def Names (r : Roll) (session : MqttSession) : Prop :=
  ∃ settings : MqttSettings, session.clientId = settings.sessionClientId r.process r.next

/-- What one step of a call makes of the roll, by the session that the call has before and after the step: a call that
has none may open one, and then the next number is taken. -/
inductive Enters (r : Roll) : Option MqttSession → Option MqttSession → Roll → Prop
  | kept {before after : Option MqttSession} (same : after = none ∨ after = before) : Enters r before after r
  | opened {session : MqttSession} (named : r.Names session) :
      Enters r none (some session) { r with next := r.next + 1 }

namespace Enters

variable {r next : Roll} {before after : Option MqttSession}

theorem eq (enters : r.Enters before after next) (same : after = none ∨ after = before) : next = r := by
  cases enters with
  | kept => rfl
  | opened => simp at same

theorem of_eq (roll : next = r) (same : after = none ∨ after = before) : r.Enters before after next := roll ▸ .kept same

end Enters

end Roll

def Opening.session? : Opening → Option MqttSession
  | .session options => some options
  | .channel | .publisher _ | .producer => none

def Listening.session? : Listening → Option MqttSession
  | .filter options _ _ => some options
  | .queue _ | .subscriber _ _ | .log _ => none

def TransportCall.session? {ρ κ : Type} : TransportCall ρ κ → Option MqttSession
  | .opening request _ => request.session?
  | .listening request _ => request.session?
  | .fresh | .confirming _ _ | .sending _ _ | .plain _ => none

namespace Turn

variable {κ μ α β : Type}

def session? (own : κ → Option MqttSession) (call : κ) : Turn κ α → Option MqttSession
  | .finished _ => none
  | .moved next => own next
  | .blocked _ | .overflowed => own call

theorem session?_lift {own : κ → Option MqttSession} {own' : μ → Option MqttSession} {wrap : κ → μ}
    {finish : α → Turn μ β} {call : κ} (same : ∀ call, own' (wrap call) = own call)
    (ended : ∀ result, (finish result).session? own' (wrap call) = none) (turn : Turn κ α) :
    (turn.lift wrap finish).session? own' (wrap call) = turn.session? own call := by
  cases turn with
  | finished result => exact ended result
  | moved next => exact same next
  | blocked | overflowed => exact same call

theorem session?_within {own : μ → Option MqttSession} {wrap : κ → μ} {finish : α → Turn μ β} {call : κ}
    (same : ∀ next, own (wrap next) = own (wrap call)) (ended : ∀ result, (finish result).session? own (wrap call) = none)
    (turn : Turn κ α) :
    (turn.lift wrap finish).session? own (wrap call) = none ∨
      (turn.lift wrap finish).session? own (wrap call) = own (wrap call) := by
  cases turn with
  | finished result => exact .inl (ended result)
  | moved next => exact .inr (same next)
  | blocked | overflowed => exact .inr rfl

end Turn

theorem Roll.Enters.lift {κ μ α β : Type} {r next : Roll} {own : κ → Option MqttSession} {own' : μ → Option MqttSession}
    {wrap : κ → μ} {finish : α → Turn μ β} {call : κ} {turn : Turn κ α}
    (enters : r.Enters (own call) (turn.session? own call) next) (same : ∀ call, own' (wrap call) = own call)
    (ended : ∀ result, (finish result).session? own' (wrap call) = none) :
    r.Enters (own' (wrap call)) ((turn.lift wrap finish).session? own' (wrap call)) next := by
  rw [Turn.session?_lift same ended, same]
  exact enters

structure Operation.Enrolls {ε κ α : Type} (op : Operation (Surroundings ε) κ α) (own : κ → Option MqttSession) :
    Prop where
  start : own op.start = none
  step : ∀ (now : Instant) (s : Surroundings ε) (call : κ),
    s.roll.Enters (own call) ((op.step now s call).1.session? own call) (op.step now s call).2.roll
  abandon : ∀ (s : Surroundings ε) (call : κ), (op.abandon s call).roll = s.roll

theorem Operation.stepPart_roll {ε κ α : Type} {op : Operation ε κ α} {now : Instant} {s later : Surroundings ε}
    {call : κ} {turn : Turn κ α} (stepped : op.stepPart now s call = (turn, later)) : later.roll = s.roll := by
  cases stepped
  rfl

namespace Operation.Enrolls

open TransportCall (session?)

variable {ε ρ σ κ α β : Type} {op : Operation (Surroundings ε) κ α} {own : κ → Option MqttSession}

theorem stepped (enrolls : op.Enrolls own) {now : Instant} {s : Surroundings ε} {call : κ} {turn : Turn κ α}
    (stepped : (op.step now s call).1 = turn) :
    s.roll.Enters (own call) (turn.session? own call) (op.step now s call).2.roll :=
  stepped ▸ enrolls.step now s call

theorem finished (enrolls : op.Enrolls own) {now : Instant} {s : Surroundings ε} {call : κ} {result : α}
    (finished : (op.step now s call).1 = .finished result) : (op.step now s call).2.roll = s.roll :=
  (enrolls.stepped finished).eq (.inl rfl)

theorem map (enrolls : op.Enrolls own) (f : α → β) :
    (op.map f).Enrolls own where
  start := enrolls.start
  step now s call := (enrolls.step now s call).lift (fun _ => rfl) fun _ => rfl
  abandon := enrolls.abandon

theorem whole (op : Operation ε κ α) :
    (op.whole : Operation (Surroundings ε) (TransportCall ρ κ) α).Enrolls session? where
  start := rfl
  step now s call := by
    cases call with
    | plain call => exact .kept (Turn.session?_within (fun _ => rfl) (fun _ => rfl) _)
    | fresh | opening | confirming | sending | listening => exact .kept (.inr rfl)
  abandon s call := by cases call <;> rfl

theorem connectVia (c : Connector ε ρ σ κ) (settings : BackendSettings) :
    (Transport.connectVia c settings).Enrolls session? where
  start := rfl
  step now s call := by
    cases call with
    | fresh =>
        cases settings with
        | mqtt settings => exact .opened ⟨settings, rfl⟩
        | amqp | socket | log => exact .kept (.inl rfl)
    | opening request call =>
        refine .kept (Turn.session?_within (fun _ => rfl) (fun result => ?_) _)
        cases result with
        | error => rfl
        | ok handle =>
            dsimp only
            split <;> rfl
    | confirming handle call =>
        simp only [Transport.connectVia]
        split
        · rename_i stepped
          exact .of_eq (stepPart_roll stepped) (.inl rfl)
        · rename_i stepped
          have roll := stepPart_roll stepped
          exact .of_eq roll (.inl rfl)
        · rename_i stepped
          exact .of_eq (stepPart_roll stepped) (.inl rfl)
        · rename_i stepped
          exact .of_eq (stepPart_roll stepped) (.inl rfl)
        · rename_i stepped
          exact .of_eq (stepPart_roll stepped) (.inl rfl)
    | sending | listening | plain => exact .kept (.inr rfl)
  abandon s call := by cases call <;> rfl

theorem sendVia (c : Connector ε ρ σ κ) (settings : BackendSettings) (handle : ρ) (e : Envelope) :
    (Transport.sendVia c settings handle e).Enrolls session? where
  start := rfl
  step now s call := by
    cases call with
    | sending deadline call =>
        simp only [Transport.sendVia]
        split
        · rename_i stepped
          have roll := stepPart_roll stepped
          split
          · exact .of_eq roll (.inl rfl)
          · exact .of_eq roll (.inl rfl)
        · rename_i stepped
          exact .of_eq (stepPart_roll stepped) (Turn.session?_within (fun _ => rfl) (fun _ => rfl) _)
    | fresh | opening | confirming | listening | plain => exact .kept (.inr rfl)
  abandon s call := by cases call <;> rfl

theorem subscribeVia (c : Connector ε ρ σ κ) (settings : BackendSettings) (source : String) :
    (Transport.subscribeVia c settings source).Enrolls session? where
  start := rfl
  step now s call := by
    cases call with
    | fresh =>
        cases settings with
        | mqtt settings => exact .opened ⟨settings, rfl⟩
        | amqp | socket | log => exact .kept (.inl rfl)
    | listening request call => exact .kept (Turn.session?_within (fun _ => rfl) (fun _ => rfl) _)
    | opening | confirming | sending | plain => exact .kept (.inr rfl)
  abandon s call := by cases call <;> rfl

end Operation.Enrolls

structure Transport.Enrolls {ε ρ σ κ : Type} (t : Transport ε ρ σ κ) : Prop where
  connect : t.connect.Enrolls TransportCall.session?
  send : ∀ handle e, (t.send handle e).Enrolls TransportCall.session?
  subscribe : ∀ source, (t.subscribe source).Enrolls TransportCall.session?
  next : ∀ subscription, (t.next subscription).Enrolls TransportCall.session?
  ack : ∀ subscription, (t.ack subscription).Enrolls TransportCall.session?
  nack : ∀ subscription, (t.nack subscription).Enrolls TransportCall.session?

theorem Transport.ofSettings_enrolls {ε ρ σ κ : Type} (c : Connector ε ρ σ κ) (settings : BackendSettings) :
    (Transport.ofSettings c settings).Enrolls where
  connect := .connectVia c settings
  send := .sendVia c settings
  subscribe := .subscribeVia c settings
  next subscription := .whole (c.next subscription)
  ack subscription := .whole (c.ack subscription)
  nack subscription := .whole (c.nack subscription)

end Dispatch
