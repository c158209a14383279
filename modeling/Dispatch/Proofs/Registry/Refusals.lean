import Dispatch.Proofs.Publishing.Books
import Dispatch.Proofs.Registry.Wiring
import Mathlib.Algebra.Order.BigOperators.Group.List
import Mathlib.Algebra.Order.Group.Nat

set_option autoImplicit false

namespace Dispatch

namespace MetricsRegistry

variable {m : MetricsRegistry} {key : MetricsKey}

def hasCounters (m : MetricsRegistry) (backend : String) : Bool :=
  m.counters.any fun entry => backend = entry.1

def HasBegun (m : MetricsRegistry) (key : MetricsKey) : Prop :=
  m.hasCounters key.backend = true ∧ m.hasGauges key = true

theorem countersOf_enlist (m : MetricsRegistry) (key : MetricsKey) (backend : String) :
    (m.enlist key).countersOf backend = m.countersOf backend := by
  rw [countersOf, countersOf, lookup_enlist]
  cases m.counters.lookup backend with
  | some counters => rfl
  | none =>
      rw [Option.none_or]
      split
      · rfl
      · rfl

theorem insert_perm {κ α : Type} (less : κ → κ → Bool) (name : κ) (initial : α)
    (entries : List (κ × α)) : (insert less name initial entries).Perm ((name, initial) :: entries) := by
  induction entries with
  | nil => exact .refl _
  | cons entry entries ih =>
      simp only [insert]
      split
      · exact .refl _
      · exact (ih.cons entry).trans (.swap _ _ _)

theorem enlist_begun (begun : m.HasBegun key) : m.enlist key = m := by
  have counters : (m.counters.any fun entry => key.backend = entry.1) = true := begun.1
  have gauges : (m.gauges.any fun entry => key.isSame entry.1) = true := begun.2
  simp only [enlist, ensure, counters, gauges, if_true]

def Family.length (f : Family) : Nat := if f.series.isEmpty then 0 else (familyText f).length

def counterFamilies : List (String × String × (Counters → Nat)) :=
  [("courier_connections_closed_total", "Broker connections closed", Counters.closed),
    ("courier_connections_opened_total", "Broker connections opened", Counters.opened),
    ("courier_messages_failed_total", "Publish calls that failed", Counters.failed),
    ("courier_messages_published_total", "Messages successfully published", Counters.published)]

def gaugeFamilies : List (String × String × (Gauges → Int)) :=
  [("courier_pool_idle", "Idle resources in the connection pool", Gauges.idle),
    ("courier_pool_leased", "Leased resources in the connection pool", Gauges.leased)]

theorem length_render (m : MetricsRegistry) :
    m.render.toList.length =
      (counterFamilies.map fun f => (m.family f.1 f.2.1 f.2.2).length).sum +
        (gaugeFamilies.map fun f => (m.gaugeFamily f.1 f.2.1 f.2.2).length).sum := by
  have shown (families : List Family) :
      ((families.filter fun f => !f.series.isEmpty).flatMap familyText).length =
        (families.map Family.length).sum := by
    induction families with
    | nil => rfl
    | cons f families ih =>
        cases empty : f.series.isEmpty <;> simp [empty, Family.length, ih]
  rw [render, String.toList_ofList, families, shown, ← List.sum_append]
  rfl

theorem familyText_append (f : Family) (series : List Series) :
    familyText { f with series } = familyText { f with series := [] } ++ series.flatMap (seriesText f.name) := by
  unfold familyText
  generalize "# HELP ".toList = help
  generalize "# TYPE ".toList = type
  simp only [List.flatMap_nil, List.nil_append, List.append_assoc, List.cons_append]

theorem Family.length_grows (f : Family) {s : Series} {later : List Series} (grown : later.Perm (s :: f.series)) :
    f.length < Family.length { f with series := later } := by
  have some : later.isEmpty = false := by
    cases later with
    | nil => cases grown.length_eq
    | cons => rfl
  have longer : (familyText f).length < (familyText { f with series := later }).length := by
    have nonempty : 0 < (seriesText f.name s).length := by
      simp only [seriesText, List.length_append, List.length_cons]
      omega
    rw [familyText_append f later, familyText_append f f.series, List.length_append, List.length_append,
      (grown.flatMap_right _).length_eq, List.flatMap_cons, List.length_append]
    omega
  simp only [length, some, Bool.false_eq_true, if_false]
  split
  · exact Nat.lt_of_le_of_lt (Nat.zero_le _) longer
  · exact longer

theorem Family.length_ensure {κ α : Type} (same less : κ → κ → Bool) (name : κ) (initial : α)
    (entries : List (κ × α)) (series : κ × α → Series) (f : Family)
    (listed : f.series = entries.map series) :
    f.length ≤ Family.length { f with series := (ensure same less name initial entries).map series } ∧
      ((entries.any fun entry => same name entry.1) = false →
        f.length < Family.length { f with series := (ensure same less name initial entries).map series }) := by
  unfold ensure
  split
  · rename_i has
    rw [← listed, has]
    exact ⟨Nat.le_refl _, nofun⟩
  · have grown : ((insert less name initial entries).map series).Perm (series (name, initial) :: f.series) := by
      rw [listed]
      exact (insert_perm less name initial entries).map series
    have longer := f.length_grows grown
    exact ⟨Nat.le_of_lt longer, fun _ => longer⟩

theorem render_enlist_iff : (m.enlist key).render = m.render ↔ m.HasBegun key := by
  constructor
  · intro same
    have length := congrArg (fun text => text.toList.length) same
    simp only [length_render] at length
    have counters (f : String × String × (Counters → Nat)) :=
      Family.length_ensure (fun a b => a = b) (fun a b => a < b) key.backend (⟨0, 0, 0, 0⟩ : Counters)
        m.counters _ (m.family f.1 f.2.1 f.2.2) rfl
    have gauges (f : String × String × (Gauges → Int)) :=
      Family.length_ensure MetricsKey.isSame keyLess key (⟨0, 0⟩ : Gauges) m.gauges _
        (m.gaugeFamily f.1 f.2.1 f.2.2) rfl
    have counted := List.sum_le_sum (l := counterFamilies) fun f _ => (counters f).1
    have gauged := List.sum_le_sum (l := gaugeFamilies) fun f _ => (gauges f).1
    constructor
    · refine Bool.of_not_eq_false fun new => ?_
      have more := List.sum_lt_sum_of_ne_nil (show counterFamilies ≠ [] from nofun) _ _
        fun f _ => (counters f).2 new
      exact absurd length (Nat.ne_of_gt (Nat.add_lt_add_of_lt_of_le more gauged))
    · refine Bool.of_not_eq_false fun new => ?_
      have more := List.sum_lt_sum_of_ne_nil (show gaugeFamilies ≠ [] from nofun) _ _
        fun f _ => (gauges f).2 new
      exact absurd length (Nat.ne_of_gt (Nat.add_lt_add_of_le_of_lt counted more))
  · intro begun
    rw [enlist_begun begun]

end MetricsRegistry

namespace Registry

variable {ε ρ σ κ : Type}

theorem enlisted_eq_iff (r : Registry ε ρ σ κ) (key : MetricsKey) :
    r.enlisted key = r ↔ r.shared.metrics.HasBegun key := by
  constructor
  · intro same
    apply MetricsRegistry.render_enlist_iff.1
    show (r.enlisted key).shared.metrics.render = r.shared.metrics.render
    rw [same]
  · intro begun
    rw [enlisted, MetricsRegistry.enlist_begun begun]

theorem refused_cases {r : Registry ε ρ σ κ} {connector : Connector ε ρ σ κ} {name : String}
    {settings : BackendSettings} {error : BrokerError}
    (refused : (r.register connector name settings).1 = .error error) :
    (r.register connector name settings).2 = r ∧
        (settings.validate ≠ .ok () ∨ (r.names.lookup name).isSome) ∨
      (r.register connector name settings).2 = r.enlisted ⟨settings.backend.name, name⟩ ∧
        settings.validate = .ok () ∧ r.names.lookup name = none := by
  have outcome := r.register_outcome connector name settings
  generalize r.register connector name settings = result at outcome refused ⊢
  cases outcome with
  | invalid invalid => exact Or.inl ⟨rfl, Or.inl (by rw [invalid]; exact nofun)⟩
  | taken valid taken => exact Or.inl ⟨rfl, Or.inr taken⟩
  | tooFast valid free fast => exact Or.inr ⟨rfl, valid, free⟩
  | wired => cases refused

/-- A registration that is refused changes no name, no adapter and no reading. It changes nothing at all,
and not the text of the metrics either, unless it is refused for its rate and its series were not there. -/
theorem refused_leaves_series {r : Registry ε ρ σ κ} {connector : Connector ε ρ σ κ} {name : String}
    {settings : BackendSettings} {error : BrokerError}
    (refused : (r.register connector name settings).1 = .error error) :
    let later := (r.register connector name settings).2
    (later.names = r.names ∧ later.find = r.find ∧ later.adapters = r.adapters ∧
        later.describe = r.describe) ∧
      (later.shared.surroundings = r.shared.surroundings ∧ later.shared.spans = r.shared.spans ∧
        later.shared.nextSpan = r.shared.nextSpan) ∧
      ((∀ backend, later.shared.metrics.countersOf backend = r.shared.metrics.countersOf backend) ∧
        ∀ key, later.shared.metrics.gaugesOf key = r.shared.metrics.gaugesOf key) ∧
      (later.shared.metrics.render = r.shared.metrics.render ↔ later = r) ∧
      (later = r ↔ settings.validate ≠ .ok () ∨ (r.names.lookup name).isSome ∨
        r.shared.metrics.HasBegun ⟨settings.backend.name, name⟩) := by
  intro later
  rcases refused_cases refused with ⟨same, reason⟩ | ⟨begins, valid, free⟩
  · have same : later = r := same
    rw [same]
    refine ⟨⟨rfl, rfl, rfl, rfl⟩, ⟨rfl, rfl, rfl⟩, ⟨fun _ => rfl, fun _ => rfl⟩,
      ⟨fun _ => rfl, fun _ => rfl⟩, ?_⟩
    exact ⟨fun _ => reason.imp_right Or.inl, fun _ => rfl⟩
  · have begins : later = r.enlisted ⟨settings.backend.name, name⟩ := begins
    rw [begins, enlisted_eq_iff]
    refine ⟨⟨rfl, rfl, rfl, rfl⟩, ⟨rfl, rfl, rfl⟩, ⟨MetricsRegistry.countersOf_enlist _ _, fun _ =>
      MetricsRegistry.gaugesOf_enlist _⟩, MetricsRegistry.render_enlist_iff, ?_⟩
    simp [valid, free]

theorem refused_leaves_series_again :
    let r : Registry MemoryBroker MemoryHandle Nat MemoryCall :=
      .enlisted (.new (.new .new "1")) ⟨"socket", "socket"⟩
    (r.register MemoryBroker.connector "socket" (.socket restless)).1 = .error .rateTooHigh ∧
      (r.register MemoryBroker.connector "socket" (.socket restless)).2 = r := by
  intro r
  have free : r.names.lookup "socket" = none := rfl
  have refused := congrArg Prod.fst (register_fast restless_valid free restless_fast MemoryBroker.connector)
  have begun : r.shared.metrics.HasBegun ⟨"socket", "socket"⟩ := ⟨rfl, rfl⟩
  exact ⟨refused, (refused_leaves_series refused).2.2.2.2.2 (Or.inr (Or.inr begun))⟩

theorem restless_leaves_series :
    let r : Registry MemoryBroker MemoryHandle Nat MemoryCall := .new (.new .new "1")
    let later := (r.register MemoryBroker.connector "socket" (.socket restless)).2
    (r.register MemoryBroker.connector "socket" (.socket restless)).1 = .error .rateTooHigh ∧
      later ≠ r ∧ later.shared.metrics.render ≠ r.shared.metrics.render := by
  intro r later
  have free : r.names.lookup "socket" = none := rfl
  have refused := register_fast restless_valid free restless_fast MemoryBroker.connector
  have begins : later = r.enlisted ⟨"socket", "socket"⟩ := congrArg Prod.snd refused
  have unknown : ¬r.shared.metrics.HasBegun ⟨"socket", "socket"⟩ := fun begun => by cases begun.1
  rw [begins]
  exact ⟨congrArg Prod.fst refused, mt (r.enlisted_eq_iff _).1 unknown,
    mt MetricsRegistry.render_enlist_iff.1 unknown⟩

end Registry

end Dispatch
