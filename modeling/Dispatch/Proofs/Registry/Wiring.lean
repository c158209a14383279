import Dispatch.MemoryBroker
import Dispatch.Proofs.Gauges
import Dispatch.Proofs.Settings.RoundTrip

set_option autoImplicit false

namespace Dispatch

def Bucket.highestRate : Nat := Duration.ofSeconds 1

def BrokerError.rateTooHigh : BrokerError :=
  .config ("invalid rate limit: " ++ (Failure.permanent "rate limit period must be > 0").message)

def PoolSettings.fullBucket (s : PoolSettings) : Option Bucket :=
  if s.maxMessagesPerSecond = 0 then none
  else some
    { maxRequests := s.maxMessagesPerSecond, period := .ofSeconds 1, tokens := s.maxMessagesPerSecond }

theorem PoolSettings.bucket_eq (s : PoolSettings) :
    s.bucket =
      if s.maxMessagesPerSecond ≤ Bucket.highestRate then .ok s.fullBucket else .error .rateTooHigh := by
  unfold bucket fullBucket
  generalize s.maxMessagesPerSecond = rate
  by_cases unset : rate = 0
  · simp [unset, Bucket.highestRate]
  have kept : Duration.ofSeconds 1 / rate * rate ≤ Bucket.longestPeriod :=
    Nat.le_trans (Nat.div_mul_le_self _ _) (by decide)
  have span : Duration.ofSeconds 1 / rate = 0 ↔ Bucket.highestRate < rate :=
    Nat.div_eq_zero_iff.trans (or_iff_right unset)
  simp only [if_neg unset, Bucket.perSecond, Bucket.new, span, if_neg (Nat.not_lt_of_le kept)]
  by_cases fast : Bucket.highestRate < rate
  · simp [fast, Nat.not_le_of_lt fast, BrokerError.rateTooHigh]
  · simp [fast, Nat.le_of_not_lt fast]

theorem PoolSettings.validate_ok_iff (s : PoolSettings) (heading : String) :
    s.validate heading = .ok () ↔
      0 < s.maxConnections ∧ s.maxConnections ≤ Slots.limit ∧ 0 < s.breakerThreshold := by
  unfold validate
  by_cases empty : s.maxConnections = 0
  · simp [empty]
  by_cases wide : s.maxConnections > Slots.limit
  · simp [empty, wide]
  by_cases never : s.breakerThreshold = 0
  · simp [empty, wide, never]
  · simp only [if_neg empty, if_neg wide, if_neg never, true_iff]
    omega

theorem check_then_ok {β : Type} (first second : Except β Unit) :
    (first >>= fun _ => second) = .ok () ↔ first = .ok () ∧ second = .ok () := by
  cases first with
  | error => simp [bind, Except.bind]
  | ok => simp [bind, Except.bind]

theorem BackendSettings.pool_valid {settings : BackendSettings} (valid : settings.validate = .ok ()) :
    0 < settings.pool.maxConnections ∧ settings.pool.maxConnections ≤ Slots.limit ∧
      0 < settings.pool.breakerThreshold := by
  cases settings with
  | amqp s => exact (s.pool.validate_ok_iff "amqp").1 ((check_then_ok _ _).1 valid).2
  | socket s => exact (s.pool.validate_ok_iff "socket").1 ((check_then_ok _ _).1 valid).2
  | log s => exact (s.pool.validate_ok_iff "log").1 ((check_then_ok _ _).1 valid).2
  | mqtt s =>
      have rest := ((check_then_ok _ _).1 valid).2
      split at rest
      · cases rest
      · exact (s.pool.validate_ok_iff "mqtt").1 rest

theorem check_section_ok {α β : Type} (check : α → Except β Unit) (o : Option α) :
    o.forM check = .ok () ↔ ∀ s ∈ o.toList, check s = .ok () := by
  cases o with
  | none => simp [Option.forM, pure, Except.pure]
  | some s => simp [Option.forM]

theorem Configuration.validate_ok_iff (c : Configuration) :
    c.validate = .ok () ↔ ∀ settings ∈ Registry.sections c, settings.validate = .ok () := by
  simp only [validate, check_then_ok, check_section_ok, Registry.sections, List.mem_append, or_imp, forall_and,
    Option.mem_toList, Option.map_eq_some_iff, forall_exists_index, and_imp, and_assoc]
  simp [BackendSettings.validate]

namespace Registry

variable {ε ρ σ κ : Type}

def enlisted (r : Registry ε ρ σ κ) (key : MetricsKey) : Registry ε ρ σ κ :=
  { r with shared := { r.shared with metrics := r.shared.metrics.enlist key } }

def adapterOf (connector : Connector ε ρ σ κ) (name : String) (settings : BackendSettings) :
    Adapter ε ρ σ κ :=
  .new name (.ofSettings connector settings) settings.pool settings.destination (defaultSource settings)
    settings.pool.fullBucket

inductive Outcome (r : Registry ε ρ σ κ) (connector : Connector ε ρ σ κ) (name : String)
    (settings : BackendSettings) : Except BrokerError Nat × Registry ε ρ σ κ → Prop
  | invalid {error : BrokerError} (refused : settings.validate = .error error) :
      Outcome r connector name settings (.error error, r)
  | taken (valid : settings.validate = .ok ()) (taken : (r.names.lookup name).isSome) :
      Outcome r connector name settings (.error (.takenName name), r)
  | tooFast (valid : settings.validate = .ok ()) (free : r.names.lookup name = none)
      (fast : Bucket.highestRate < settings.pool.maxMessagesPerSecond) :
      Outcome r connector name settings
        (.error .rateTooHigh, r.enlisted ⟨settings.backend.name, name⟩)
  | wired (valid : settings.validate = .ok ()) (free : r.names.lookup name = none)
      (slow : settings.pool.maxMessagesPerSecond ≤ Bucket.highestRate) {event : Event} :
      Outcome r connector name settings
        (.ok r.adapters.length,
          { adapters := r.adapters ++ [adapterOf connector name settings]
            names := insertSorted name r.adapters.length r.names
            shared := (r.enlisted ⟨settings.backend.name, name⟩).shared.report [event] })

theorem register_outcome (r : Registry ε ρ σ κ) (connector : Connector ε ρ σ κ) (name : String)
    (settings : BackendSettings) :
    Outcome r connector name settings (r.register connector name settings) := by
  unfold register
  split
  · rename_i error refused
    exact .invalid refused
  · rename_i valid
    split
    · rename_i taken
      exact .taken valid taken
    · rename_i free
      have free : r.names.lookup name = none := Option.not_isSome_iff_eq_none.1 free
      simp only [add, PoolSettings.bucket_eq]
      by_cases slow : settings.pool.maxMessagesPerSecond ≤ Bucket.highestRate
      · simp only [if_pos slow]
        exact .wired valid free slow
      · simp only [if_neg slow]
        exact .tooFast valid free (Nat.lt_of_not_le slow)

theorem register_fast {r : Registry ε ρ σ κ} {name : String} {settings : BackendSettings}
    (valid : settings.validate = .ok ()) (free : r.names.lookup name = none)
    (fast : Bucket.highestRate < settings.pool.maxMessagesPerSecond) (connector : Connector ε ρ σ κ) :
    r.register connector name settings = (.error .rateTooHigh, r.enlisted ⟨settings.backend.name, name⟩) := by
  have outcome := r.register_outcome connector name settings
  generalize r.register connector name settings = result at outcome ⊢
  cases outcome with
  | invalid refused => exact absurd (valid.symm.trans refused) nofun
  | taken _ taken => exact absurd free (Option.isSome_iff_ne_none.1 taken)
  | tooFast => rfl
  | wired _ _ slow => exact absurd slow (Nat.not_le_of_lt fast)

theorem register_ok_iff (r : Registry ε ρ σ κ) (connector : Connector ε ρ σ κ) (name : String)
    (settings : BackendSettings) :
    (∃ place, (r.register connector name settings).1 = .ok place) ↔
      settings.validate = .ok () ∧ r.names.lookup name = none ∧
        settings.pool.maxMessagesPerSecond ≤ Bucket.highestRate := by
  have outcome := r.register_outcome connector name settings
  generalize r.register connector name settings = result at outcome
  cases outcome with
  | invalid refused => simp [refused]
  | taken valid taken =>
      have held : r.names.lookup name ≠ none := Option.isSome_iff_ne_none.1 taken
      simp [held]
  | tooFast valid free fast => simp [Nat.not_le_of_lt fast]
  | wired valid free slow => simp [valid, free, slow]

structure MadeOf (connector : Connector ε ρ σ κ) (name : String) (settings : BackendSettings)
    (a : Adapter ε ρ σ κ) : Prop where
  made : a = adapterOf connector name settings
  room : ∀ slots, a.pool.slots = some slots →
    slots.free = settings.pool.maxConnections ∧ 0 < slots.free
  trips : 0 < a.connectBreaker.policy.threshold ∧ 0 < a.publishBreaker.policy.threshold
  tries : 0 < a.pool.connect.retry.maxAttempts ∧ 0 < a.publish.retry.maxAttempts
  refills : ∀ bucket, a.bucket = some bucket →
    bucket.tokens = settings.pool.maxMessagesPerSecond ∧ 0 < bucket.tokens ∧
      0 < bucket.period / bucket.maxRequests

theorem adapterOf_made {settings : BackendSettings} (valid : settings.validate = .ok ())
    (slow : settings.pool.maxMessagesPerSecond ≤ Bucket.highestRate) (connector : Connector ε ρ σ κ)
    (name : String) : MadeOf connector name settings (adapterOf connector name settings) := by
  obtain ⟨some, few, threshold⟩ := BackendSettings.pool_valid valid
  have tries (made : Nat) (delay : Duration) : 0 < (RetryPolicy.fixed made delay).maxAttempts :=
    Nat.lt_min.2 ⟨Nat.succ_pos made, by decide⟩
  refine ⟨rfl, ?_, ⟨threshold, threshold⟩, ⟨tries _ _, tries _ _⟩, ?_⟩
  · intro slots capped
    simp only [adapterOf, Adapter.new, Pool.new, PoolSettings.poolPolicy] at capped
    split at capped
    · cases capped
      have unclipped : min settings.pool.maxConnections Slots.limit = settings.pool.maxConnections :=
        Nat.min_eq_left few
      exact ⟨unclipped, by rwa [Slots.ofSize, unclipped]⟩
    · cases capped
  · intro bucket throttled
    simp only [adapterOf, Adapter.new, PoolSettings.fullBucket] at throttled
    split at throttled
    · cases throttled
    · rename_i set
      cases throttled
      have positive := Nat.pos_of_ne_zero set
      exact ⟨rfl, positive, Nat.div_pos slow positive⟩

theorem register_made {r : Registry ε ρ σ κ} {connector : Connector ε ρ σ κ} {name : String}
    {settings : BackendSettings} {place : Nat} (registered : (r.register connector name settings).1 = .ok place) :
    (r.register connector name settings).2.find name = .ok place ∧
      ∃ a, (r.register connector name settings).2.adapters[place]? = some a ∧
        MadeOf connector name settings a := by
  have outcome := r.register_outcome connector name settings
  generalize r.register connector name settings = result at outcome registered
  cases outcome with
  | invalid refused => cases registered
  | taken valid taken => cases registered
  | tooFast valid free fast => cases registered
  | wired valid free slow =>
      cases registered
      refine ⟨?_, _, List.getElem?_concat_length, adapterOf_made valid slow connector name⟩
      simp only [find, lookup_insertSorted, if_pos]

theorem sections_apart (c : Configuration) : ((sections c).map BackendSettings.backend).Nodup := by
  obtain ⟨logging, amqp, socket, log, mqtt⟩ := c
  cases amqp <;> cases socket <;> cases log <;> cases mqtt <;> simp [sections, BackendSettings.backend]

theorem connectSections_ok_iff (clients : Backend → Option (Connector ε ρ σ κ)) {list : List BackendSettings}
    (apart : (list.map BackendSettings.backend).Nodup)
    (valid : ∀ settings ∈ list, settings.validate = .ok ()) {r : Registry ε ρ σ κ}
    (free : ∀ settings ∈ list, r.names.lookup settings.backend.name = none) :
    (∃ r', connectSections clients r list = .ok r') ↔
      ∀ settings ∈ list, (clients settings.backend).isSome ∧
        settings.pool.maxMessagesPerSecond ≤ Bucket.highestRate := by
  induction list generalizing r with
  | nil => simp [connectSections]
  | cons settings rest ih =>
      obtain ⟨other, apart⟩ := List.nodup_cons.1 apart
      have validHere := valid settings List.mem_cons_self
      have freeHere := free settings List.mem_cons_self
      simp only [connectSections, List.forall_mem_cons]
      cases client : clients settings.backend with
      | none => simp
      | some connector =>
          have outcome := r.register_outcome connector settings.backend.name settings
          dsimp only
          generalize r.register connector settings.backend.name settings = result at outcome ⊢
          cases outcome with
          | invalid refused => exact absurd (validHere.symm.trans refused) nofun
          | taken _ taken => exact absurd freeHere (Option.isSome_iff_ne_none.1 taken)
          | tooFast _ _ fast => simp [Nat.not_le_of_lt fast]
          | wired _ _ slow =>
              simp only [Option.isSome_some, slow, true_and]
              apply ih apart fun s member => valid s (List.mem_cons_of_mem _ member)
              intro s member
              rw [lookup_insertSorted, if_neg]
              · exact free s (List.mem_cons_of_mem _ member)
              · intro same
                exact other (List.mem_map.2 ⟨s, member, Backend.name_injective same⟩)

theorem ofConfiguration_ok_iff (clients : Backend → Option (Connector ε ρ σ κ)) (shared : Shared ε)
    (c : Configuration) :
    (∃ r, ofConfiguration clients shared c = .ok r) ↔
      c.validate = .ok () ∧ ∀ settings ∈ sections c, (clients settings.backend).isSome ∧
        settings.pool.maxMessagesPerSecond ≤ Bucket.highestRate := by
  unfold ofConfiguration
  split
  · rename_i error refused
    simp [refused]
  · rename_i valid
    rw [connectSections_ok_iff clients (sections_apart c) (c.validate_ok_iff.1 valid) fun _ _ => rfl]
    simp [valid]

/-- Valid settings are registered under a free name, and a configuration that was read is wired, exactly
up to the highest rate; what is registered is found and in range. -/
theorem registered_up_to_highest_rate :
    (∀ (r : Registry ε ρ σ κ) (connector : Connector ε ρ σ κ) (name : String)
        (settings : BackendSettings),
      settings.validate = .ok () → r.names.lookup name = none →
        ((∃ place, (r.register connector name settings).1 = .ok place) ↔
          settings.pool.maxMessagesPerSecond ≤ Bucket.highestRate) ∧
        ∀ place, (r.register connector name settings).1 = .ok place →
          (r.register connector name settings).2.find name = .ok place ∧
            ∃ a, (r.register connector name settings).2.adapters[place]? = some a ∧
              MadeOf connector name settings a) ∧
      ∀ (clients : Backend → Option (Connector ε ρ σ κ)) (shared : Shared ε) (text : String)
        (c : Configuration), Configuration.ofToml text = .ok c →
          ((∃ r, ofConfiguration clients shared c = .ok r) ↔
            ∀ settings ∈ sections c, (clients settings.backend).isSome ∧
              settings.pool.maxMessagesPerSecond ≤ Bucket.highestRate) := by
  refine ⟨fun r connector name settings valid free => ⟨?_, fun place => register_made⟩, ?_⟩
  · rw [register_ok_iff]
    simp [valid, free]
  · intro clients shared text c read
    rw [ofConfiguration_ok_iff]
    simp [(Configuration.ofToml_eq_ok.1 read).2]

def restless : SocketSettings :=
  { SocketSettings.standard with
    pool := { PoolSettings.standard with maxMessagesPerSecond := 2000000000 } }

theorem restless_valid : (BackendSettings.socket restless).validate = .ok () := by decide +kernel

theorem restless_fast : Bucket.highestRate < (BackendSettings.socket restless).pool.maxMessagesPerSecond := by
  decide

theorem restless_not_registered :
    let r : Registry MemoryBroker MemoryHandle Nat MemoryCall := .new (.new .new "1")
    let c : Configuration := { Configuration.standard with socket := some restless }
    ((BackendSettings.socket restless).validate = .ok () ∧ r.names.lookup "socket" = none ∧
        (r.register MemoryBroker.connector "socket" (.socket restless)).1 = .error .rateTooHigh) ∧
      Configuration.ofToml "[socket]\nmax_messages_per_second = 2000000000\n" = .ok c ∧
        ¬∃ r, ofConfiguration (fun _ => some MemoryBroker.connector) (.new .new "1") c = .ok r := by
  intro r c
  have refused := register_fast restless_valid (show r.names.lookup "socket" = none from rfl) restless_fast
  refine ⟨⟨restless_valid, rfl, congrArg Prod.fst (refused MemoryBroker.connector)⟩, by decide +kernel, ?_⟩
  rw [ofConfiguration_ok_iff]
  intro registered
  have listed : .socket restless ∈ sections c := List.mem_cons_self
  exact Nat.not_lt_of_le (registered.2 _ listed).2 restless_fast

end Registry

end Dispatch
