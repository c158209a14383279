import Dispatch.MemoryBroker
import Dispatch.Proofs.Sessions.Calls

/-!
# The sessions of a process

A process has any number of registries and may use transports without one; all of them share the surroundings of the
process and so its roll. `opened` lists the sessions that connectors were asked for, in order. Nothing that runs reads
it. The n-th of them has the number n on the roll (`Process.Enrolled`), and the numbers are different until they start
again.
-/

set_option autoImplicit false

namespace Dispatch

/-- A transport in use without a registry, for one handle or for one subscription to a source. -/
structure Use (ε ρ σ κ : Type) where
  connector : Connector ε ρ σ κ
  settings : BackendSettings
  source : Option String
  call : Option (TransportCall ρ κ)

namespace Use

variable {ε ρ σ κ : Type}

def operation (use : Use ε ρ σ κ) : Operation (Surroundings ε) (TransportCall ρ κ) Unit :=
  let transport := Transport.ofSettings use.connector use.settings
  match use.source with
  | none => transport.connect.map fun _ => ()
  | some source => (transport.subscribe source).map fun _ => ()

def begin (connector : Connector ε ρ σ κ) (settings : BackendSettings) (source : Option String) : Use ε ρ σ κ :=
  let use : Use ε ρ σ κ := { connector, settings, source, call := none }
  { use with call := some use.operation.start }

def drop (use : Use ε ρ σ κ) (s : Surroundings ε) : Use ε ρ σ κ × Surroundings ε :=
  match use.call with
  | none => (use, s)
  | some call => ({ use with call := none }, use.operation.abandon s call)

def step (use : Use ε ρ σ κ) (now : Instant) (s : Surroundings ε) : Use ε ρ σ κ × Surroundings ε :=
  match use.call with
  | none => (use, s)
  | some call =>
    let next := use.operation.step now s call
    match next.1 with
    | .finished _ => ({ use with call := none }, next.2)
    | .moved call => ({ use with call := some call }, next.2)
    | .blocked _ => (use, next.2)
    | .overflowed => use.drop next.2

def session? (use : Use ε ρ σ κ) : Option MqttSession := use.call.bind TransportCall.session?

theorem operation_enrolls (use : Use ε ρ σ κ) : use.operation.Enrolls TransportCall.session? := by
  have enrolls := Transport.ofSettings_enrolls use.connector use.settings
  unfold operation
  split
  · exact enrolls.connect.map _
  · exact (enrolls.subscribe _).map _

theorem begin_session (connector : Connector ε ρ σ κ) (settings : BackendSettings) (source : Option String) :
    (begin connector settings source).session? = none :=
  (Use.mk connector settings source none).operation_enrolls.start

theorem drop_enters (use : Use ε ρ σ κ) (s : Surroundings ε) :
    (use.drop s).1.session? = none ∧ (use.drop s).2.roll = s.roll := by
  unfold drop
  split
  · rename_i idle
    exact ⟨by rw [session?, idle]; rfl, rfl⟩
  · exact ⟨rfl, use.operation_enrolls.abandon s _⟩

theorem step_enters (use : Use ε ρ σ κ) (now : Instant) (s : Surroundings ε) :
    s.roll.Enters use.session? (use.step now s).1.session? (use.step now s).2.roll := by
  have enrolls := use.operation_enrolls
  unfold step
  split
  · exact .kept (.inr rfl)
  · rename_i call running
    have before : use.session? = call.session? := by rw [session?, running]; rfl
    dsimp only
    split <;> rename_i stepped
    · rw [before]
      exact enrolls.stepped stepped
    · rw [before]
      exact enrolls.stepped stepped
    · exact .of_eq ((enrolls.stepped stepped).eq (.inr rfl)) (.inr rfl)
    · have roll := (enrolls.stepped stepped).eq (.inr rfl)
      obtain ⟨ended, kept⟩ := use.drop_enters (use.operation.step now s call).2
      exact .of_eq (kept.trans roll) (.inl ended)

end Use

structure Process (ε ρ σ κ η : Type) where
  surroundings : Surroundings ε
  registries : List (Exchange ε ρ σ κ η)
  uses : List (Use ε ρ σ κ)
  opened : List MqttSession

def Exchange.within {ε ρ σ κ η : Type} (x : Exchange ε ρ σ κ η) (surroundings : Surroundings ε) : Exchange ε ρ σ κ η :=
  { x with registry := { x.registry with shared := { x.registry.shared with surroundings } } }

namespace Process

variable {ε ρ σ κ η : Type}

def start (outside : ε) (process : String) : Process ε ρ σ κ η where
  surroundings := .new outside process
  registries := []
  uses := []
  opened := []

/-- What can happen next: a registry is founded or makes a move, a transport is engaged, its call is polled or released.
An act that does not apply changes nothing. -/
inductive Act (ε ρ σ κ η : Type) where
  | found
  | move (registry : Nat) (made : Exchange.Move ε ρ σ κ η)
  | engage (connector : Connector ε ρ σ κ) (settings : BackendSettings) (source : Option String)
  | poll (use : Nat) (now : Instant)
  | release (use : Nat)
  | prepare (settings : MqttSettings)

inductive Caller where
  | call (registry number : Nat)
  | use (number : Nat)
  deriving DecidableEq

def Act.caller? : Act ε ρ σ κ η → Option Caller
  | .move registry made => made.prompt?.map fun entry => .call registry entry.1
  | .poll number _ | .release number => some (.use number)
  | .found | .engage _ _ _ | .prepare _ => none

def session? (p : Process ε ρ σ κ η) : Caller → Option MqttSession
  | .call registry number => p.registries[registry]?.bind (·.session? number)
  | .use number => p.uses[number]?.bind Use.session?

def change (p : Process ε ρ σ κ η) : Act ε ρ σ κ η → Process ε ρ σ κ η
  | .found =>
    { p with registries := p.registries ++ [.start p.surroundings.outside p.surroundings.process] }
  | .move registry made =>
    match p.registries[registry]? with
    | none => p
    | some x =>
      let x := (x.within p.surroundings).perform made
      { p with surroundings := x.registry.shared.surroundings, registries := p.registries.set registry x }
  | .engage connector settings source => { p with uses := p.uses ++ [.begin connector settings source] }
  | .poll number now =>
    match p.uses[number]? with
    | none => p
    | some use =>
      let (use, surroundings) := use.step now p.surroundings
      { p with surroundings, uses := p.uses.set number use }
  | .release number =>
    match p.uses[number]? with
    | none => p
    | some use =>
      let (use, surroundings) := use.drop p.surroundings
      { p with surroundings, uses := p.uses.set number use }
  | .prepare settings => { p with surroundings := (Transport.sessionOptions settings p.surroundings).2 }

def newly : Option MqttSession → Option MqttSession → List MqttSession
  | none, some session => [session]
  | none, none | some _, _ => []

def opens (p : Process ε ρ σ κ η) : Act ε ρ σ κ η → List MqttSession
  | .prepare settings => [(Transport.sessionOptions settings p.surroundings).1]
  | act => act.caller?.elim [] fun caller => newly (p.session? caller) ((p.change act).session? caller)

def perform (p : Process ε ρ σ κ η) (act : Act ε ρ σ κ η) : Process ε ρ σ κ η :=
  { p.change act with opened := p.opened ++ p.opens act }

def run (p : Process ε ρ σ κ η) (acts : List (Act ε ρ σ κ η)) : Process ε ρ σ κ η := acts.foldl perform p

/-! ## One act -/

def Wired (p : Process ε ρ σ κ η) : Prop :=
  ∀ (n : Nat) (x : Exchange ε ρ σ κ η), p.registries[n]? = some x → x.registry.Enrolls

variable {p : Process ε ρ σ κ η}

theorem Wired.change (wired : p.Wired) (act : Act ε ρ σ κ η) : (p.change act).Wired := by
  intro n y found
  cases act with
  | engage | prepare => exact wired n y found
  | found =>
      rcases getElem?_concat_cases found with found | ⟨-, rfl⟩
      · exact wired n y found
      · intro place a here
        cases here
  | move registry made =>
      simp only [Process.change] at found
      split at found
      · exact wired n y found
      · rename_i x here
        rcases getElem?_set_cases found with ⟨-, rfl⟩ | ⟨-, found⟩
        · exact ((x.within p.surroundings).perform_change made).enrolls (wired registry x here)
        · exact wired n y found
  | poll | release =>
      simp only [Process.change] at found
      split at found <;> exact wired n y found

theorem change_elsewhere (p : Process ε ρ σ κ η) {act : Act ε ρ σ κ η} {caller : Caller}
    (other : act.caller? ≠ some caller) : (p.change act).session? caller = p.session? caller := by
  have untouched {here there : Nat} (other : some (Caller.use here) ≠ some (.use there)) (after : Use ε ρ σ κ) :
      (p.uses.set here after)[there]?.bind Use.session? = p.uses[there]?.bind Use.session? := by
    rw [List.getElem?_set_ne fun same => other (congrArg (some ∘ Caller.use) same)]
  cases act with
  | prepare => rfl
  | found =>
      cases caller with
      | use => rfl
      | call registry number => exact bind_getElem?_concat rfl p.registries registry
  | engage connector settings source =>
      cases caller with
      | use number => exact bind_getElem?_concat (Use.begin_session connector settings source) p.uses number
      | call => rfl
  | move registry made =>
      simp only [Process.change]
      split
      · rfl
      · rename_i x here
        cases caller with
        | use => rfl
        | call there number =>
            by_cases same : registry = there
            · subst same
              rw [session?, session?, bind_getElem?_set here, here]
              refine ((x.within p.surroundings).perform_change made).elsewhere fun prompt prompted => ?_
              exact other (by simp [Act.caller?, prompted])
            · rw [session?, session?, List.getElem?_set_ne same]
  | poll here now | release here =>
      simp only [Process.change]
      split
      · rfl
      · cases caller with
        | use there => exact untouched other _
        | call => rfl

theorem change_enters (wired : p.Wired) {act : Act ε ρ σ κ η} {caller : Caller} (asked : act.caller? = some caller) :
    p.surroundings.roll.Enters (p.session? caller) ((p.change act).session? caller)
      (p.change act).surroundings.roll := by
  cases act with
  | found | engage | prepare => cases asked
  | move registry made =>
      simp only [Act.caller?, Option.map_eq_some_iff] at asked
      obtain ⟨⟨number, prompt⟩, prompted, rfl⟩ := asked
      simp only [Process.change]
      split
      · exact .kept (.inr rfl)
      · rename_i x here
        rw [session?, session?, bind_getElem?_set here, here]
        exact ((x.within p.surroundings).perform_change made).enters (wired registry x here) prompted
  | poll number now =>
      cases asked
      simp only [Process.change]
      split
      · exact .kept (.inr rfl)
      · rename_i use here
        rw [session?, session?, bind_getElem?_set here, here]
        exact use.step_enters now p.surroundings
  | release number =>
      cases asked
      simp only [Process.change]
      split
      · exact .kept (.inr rfl)
      · rename_i use here
        rw [session?, session?, bind_getElem?_set here, here]
        exact .of_eq (use.drop_enters p.surroundings).2 (.inl (use.drop_enters p.surroundings).1)

theorem change_unasked {act : Act ε ρ σ κ η} (unasked : act.caller? = none)
    (unprepared : ∀ settings, act ≠ .prepare settings) : (p.change act).surroundings.roll = p.surroundings.roll := by
  cases act with
  | found | engage => rfl
  | poll | release => cases unasked
  | prepare settings => exact absurd rfl (unprepared settings)
  | move registry made =>
      simp only [Process.change]
      split
      · rfl
      · rename_i x here
        exact ((x.within p.surroundings).perform_change made).unprompted (Option.map_eq_none_iff.1 unasked)

theorem newly_entered {r next : Roll} {before after : Option MqttSession} (entered : r.Enters before after next) :
    (newly before after = [] ∧ next = r) ∨
      ∃ session, newly before after = [session] ∧ r.Names session ∧ next = { r with next := r.next + 1 } := by
  cases entered with
  | kept same =>
      rcases same with rfl | rfl
      · exact .inl ⟨by cases before <;> rfl, rfl⟩
      · exact .inl ⟨by cases after <;> rfl, rfl⟩
  | opened named => exact .inr ⟨_, rfl, named, rfl⟩

theorem opens_asked (p : Process ε ρ σ κ η) {act : Act ε ρ σ κ η} {caller : Caller}
    (asked : act.caller? = some caller) :
    p.opens act = newly (p.session? caller) ((p.change act).session? caller) := by
  cases act with
  | found | engage | prepare => cases asked
  | move | poll | release => simp only [opens, asked, Option.elim_some]

theorem perform_roll (wired : p.Wired) (act : Act ε ρ σ κ η) :
    ((p.perform act).opened = p.opened ∧ (p.perform act).surroundings.roll = p.surroundings.roll) ∨
      ∃ session, (p.perform act).opened = p.opened ++ [session] ∧ p.surroundings.roll.Names session ∧
        (p.perform act).surroundings.roll = { p.surroundings.roll with next := p.surroundings.roll.next + 1 } := by
  by_cases prepares : ∃ settings, act = .prepare settings
  · -- options that are taken by hand have a number too, but no caller
    obtain ⟨settings, rfl⟩ := prepares
    exact .inr ⟨_, rfl, ⟨settings, rfl⟩, rfl⟩
  · have unprepared (settings : MqttSettings) : act ≠ .prepare settings := fun same => prepares ⟨settings, same⟩
    cases asked : act.caller? with
    | none =>
        have nothing : p.opens act = [] := by
          cases act with
          | prepare settings => exact absurd rfl (unprepared settings)
          | found | engage | move | poll | release => simp only [opens, asked, Option.elim_none]
        exact .inl ⟨by simp [perform, nothing], change_unasked asked unprepared⟩
    | some caller =>
        rcases newly_entered (change_enters wired asked) with ⟨nothing, roll⟩ | ⟨session, one, named, roll⟩
        · exact .inl ⟨by simp [perform, p.opens_asked asked, nothing], roll⟩
        · exact .inr ⟨session, by simp [perform, p.opens_asked asked, one], named, roll⟩

/-! ## Runs -/

structure Enrolled (process : String) (p : Process ε ρ σ κ η) : Prop where
  wired : p.Wired
  roll : p.surroundings.roll = ⟨process, .ofNat p.opened.length⟩
  named : ∀ n session, p.opened[n]? = some session → Roll.Names ⟨process, .ofNat n⟩ session

namespace Enrolled

variable {process : String}

theorem start (outside : ε) (process : String) : (start outside process : Process ε ρ σ κ η).Enrolled process where
  wired n x found := by cases found
  roll := rfl
  named n session found := by cases found

theorem perform (enrolled : p.Enrolled process) (act : Act ε ρ σ κ η) : (p.perform act).Enrolled process := by
  have wired : (p.perform act).Wired := enrolled.wired.change act
  rcases perform_roll enrolled.wired act with ⟨opened, roll⟩ | ⟨session, opened, named, roll⟩
  · exact ⟨wired, by rw [roll, opened, enrolled.roll], opened ▸ enrolled.named⟩
  · refine ⟨wired, ?_, fun n other found => ?_⟩
    · rw [roll, opened, enrolled.roll, List.length_append, List.length_singleton, UInt64.ofNat_add]
      rfl
    · rw [opened] at found
      rcases getElem?_concat_cases found with found | ⟨rfl, rfl⟩
      · exact enrolled.named n other found
      · exact enrolled.roll ▸ named

theorem run (enrolled : p.Enrolled process) (acts : List (Act ε ρ σ κ η)) : (p.run acts).Enrolled process := by
  induction acts generalizing p with
  | nil => exact enrolled
  | cons act acts ih => exact ih (enrolled.perform act)

theorem apart (enrolled : p.Enrolled process) (few : p.opened.length ≤ 2 ^ 64) :
    (p.opened.map MqttSession.clientId).Nodup := by
  refine List.pairwise_map.2 (List.pairwise_iff_getElem.2 fun i j first second before same => ?_)
  obtain ⟨settings, text⟩ := enrolled.named i _ (List.getElem?_eq_getElem first)
  obtain ⟨settings', text'⟩ := enrolled.named j _ (List.getElem?_eq_getElem second)
  have numbers := congrArg UInt64.toNat (MqttSettings.sessionClientId_inj (text.symm.trans (same.trans text')))
  simp only [UInt64.toNat_ofNat'] at numbers
  rw [Nat.mod_eq_of_lt (by omega), Nat.mod_eq_of_lt (by omega)] at numbers
  omega

end Enrolled

theorem perform_session (wired : p.Wired) {act : Act ε ρ σ κ η} {caller : Caller} {session : MqttSession}
    (has : (p.perform act).session? caller = some session) :
    p.session? caller = some session ∨ (p.perform act).opened = p.opened ++ [session] := by
  have has : (p.change act).session? caller = some session := by
    cases caller <;> exact has
  by_cases asked : act.caller? = some caller
  · have entered := change_enters wired asked
    have opens := p.opens_asked asked
    rw [has] at entered opens
    generalize p.session? caller = before at entered opens ⊢
    generalize (p.change act).surroundings.roll = next at entered
    cases entered with
    | kept same => exact .inl (same.resolve_left nofun).symm
    | opened named => exact .inr (congrArg (p.opened ++ ·) opens)
  · rw [change_elsewhere p asked] at has
    exact .inl has

/-- As long as the numbers of a process do not start again, no two of its MQTT sessions have the same client id, whoever
opens them, with whatever configured ids. And `opened` leaves out no session that a connector is asked for. -/
theorem client_ids_differ (outside : ε) (process : String) (acts : List (Act ε ρ σ κ η)) :
    let p := (start outside process : Process ε ρ σ κ η).run acts
    (p.opened.length ≤ 2 ^ 64 → (p.opened.map MqttSession.clientId).Nodup) ∧
      ∀ (act : Act ε ρ σ κ η) (caller : Caller) (session : MqttSession),
        (p.perform act).session? caller = some session →
          p.session? caller = some session ∨ (p.perform act).opened = p.opened ++ [session] := by
  intro p
  have enrolled : p.Enrolled process := (Enrolled.start outside process).run acts
  exact ⟨enrolled.apart, fun _ _ _ has => perform_session enrolled.wired has⟩

def gatewayActs : List (Act MemoryBroker MemoryHandle Nat MemoryCall Unit) :=
  let settings (id : String) : BackendSettings := .mqtt { MqttSettings.standard with clientId := id }
  [.found, .move 0 (.register MemoryBroker.connector "mqtt" (settings "gateway")),
    .move 0 (.disturb fun b => { b with failConnects := 1 }), .move 0 (.publish 0 (.envelope default default))] ++
    List.replicate 9 (.move 0 (.step 0 false)) ++ [.move 0 (.elapse (.ofSeconds 60))] ++
    List.replicate 4 (.move 0 (.step 0 false)) ++
    [.engage MemoryBroker.connector (settings "gateway-7") none, .poll 0 0,
      .move 0 (.consume 0 "plant" fun _ => .immediate () fun b => (.ok (), b)), .move 0 (.step 1 false),
      .move 0 (.step 1 false)]

theorem client_ids_differ_gateway :
    ((start MemoryBroker.new "7").run gatewayActs).opened.map MqttSession.clientId =
        ["gateway-7-0", "gateway-7-1", "gateway-7-7-2", "gateway-7-3"] ∧
      (((start MemoryBroker.new "7").run gatewayActs).opened.map MqttSession.clientId).Nodup := by
  have few : ((start MemoryBroker.new "7").run gatewayActs).opened.length ≤ 2 ^ 64 := by decide +kernel
  exact ⟨by decide +kernel, (client_ids_differ MemoryBroker.new "7" gatewayActs).1 few⟩

end Process

end Dispatch
