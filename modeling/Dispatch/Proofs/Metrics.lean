import Dispatch.Metrics

set_option autoImplicit false

namespace Dispatch

namespace MetricsKey

@[simp] theorem isSame_self (key : MetricsKey) : key.isSame key = true := by simp [isSame]

theorem isSame_comm (a b : MetricsKey) : a.isSame b = b.isSame a := by simp [isSame, eq_comm]

theorem isSame_congr {a b : MetricsKey} (same : a.isSame b = true) (c : MetricsKey) :
    a.isSame c = b.isSame c := by
  simp only [isSame, decide_eq_true_eq] at same
  simp [isSame, same]

end MetricsKey

namespace MetricsRegistry

variable {key other : MetricsKey}

def hasGauges (m : MetricsRegistry) (key : MetricsKey) : Bool :=
  m.gauges.any fun entry => key.isSame entry.1

theorem find?_update {κ α : Type} (test meant : κ → Bool) (f : α → α) (entries : List (κ × α)) :
    (update meant f entries).find? (fun entry => test entry.1) =
      (entries.find? fun entry => test entry.1).map fun entry =>
        if meant entry.1 then (entry.1, f entry.2) else entry := by
  have name (entry : κ × α) : (if meant entry.1 then (entry.1, f entry.2) else entry).1 = entry.1 := by
    split <;> rfl
  simp only [update, List.find?_map, Function.comp_def, name]

theorem find?_insert_other {κ α : Type} (less : κ → κ → Bool) {name : κ} (initial : α) {test : κ → Bool}
    (apart : test name = false) (entries : List (κ × α)) :
    (insert less name initial entries).find? (fun entry => test entry.1) =
      entries.find? fun entry => test entry.1 := by
  induction entries with
  | nil => simp [insert, apart]
  | cons entry entries ih =>
      simp only [insert]
      split
      · simp [apart]
      · simp only [List.find?_cons, ih]

theorem find?_insert_new {κ α : Type} (less : κ → κ → Bool) {name : κ} (initial : α) {test : κ → Bool}
    (meant : test name = true) {entries : List (κ × α)}
    (new : (entries.find? fun entry => test entry.1) = none) :
    (insert less name initial entries).find? (fun entry => test entry.1) = some (name, initial) := by
  induction entries with
  | nil => simp [insert, meant]
  | cons entry entries ih =>
      rw [List.find?_cons] at new
      split at new
      · cases new
      · rename_i apart
        simp only [insert]
        split
        · simp [meant]
        · simp only [List.find?_cons, apart, ih new]

theorem mem_insert {κ α : Type} (less : κ → κ → Bool) (name : κ) (initial : α) {entries : List (κ × α)}
    {entry : κ × α} (member : entry ∈ entries) : entry ∈ insert less name initial entries := by
  induction entries with
  | nil => cases member
  | cons held entries ih =>
      simp only [insert]
      split
      · exact List.mem_cons_of_mem _ member
      · rcases List.mem_cons.1 member with rfl | member
        · exact List.mem_cons_self
        · exact List.mem_cons_of_mem _ (ih member)

theorem gaugesOf_setSizes_self {m : MetricsRegistry} (has : m.hasGauges key) (idle leased : Nat) :
    (m.setSizes key idle leased).gaugesOf key = ⟨signed idle, signed leased⟩ := by
  obtain ⟨entry, member, same⟩ := List.any_eq_true.1 has
  have found : (m.gauges.find? fun entry => key.isSame entry.1).isSome :=
    List.find?_isSome.2 ⟨entry, member, same⟩
  obtain ⟨entry, found⟩ := Option.isSome_iff_exists.1 found
  have same := List.find?_some found
  simp only [gaugesOf, setSizes, find?_update, found, Option.map_some, same, if_true, Option.getD_some]

theorem gaugesOf_setSizes_other (m : MetricsRegistry) (apart : other.isSame key = false)
    (idle leased : Nat) : (m.setSizes key idle leased).gaugesOf other = m.gaugesOf other := by
  simp only [gaugesOf, setSizes, find?_update]
  cases found : m.gauges.find? fun entry => other.isSame entry.1 with
  | none => rfl
  | some entry =>
      -- the entry that is found goes by the other name, so it is not the one that is set
      have mine := List.find?_some found
      have unmeant : key.isSame entry.1 = false := by
        rw [MetricsKey.isSame_comm, ← MetricsKey.isSame_congr mine, apart]
      simp [unmeant]

@[simp] theorem hasGauges_setSizes (m : MetricsRegistry) (idle leased : Nat) :
    (m.setSizes key idle leased).hasGauges other = m.hasGauges other := by
  simp only [hasGauges, setSizes, update, List.any_map, Function.comp_def]
  congr 1
  funext entry
  split <;> rfl

def tell (m : MetricsRegistry) (key : MetricsKey) : Option (Nat × Nat) → MetricsRegistry
  | none => m
  | some (idle, leased) => m.setSizes key idle leased

theorem gaugesOf_congr {m n : MetricsRegistry} (same : m.gauges = n.gauges) (key : MetricsKey) :
    m.gaugesOf key = n.gaugesOf key := by
  rw [gaugesOf, gaugesOf, same]

theorem hasGauges_congr {m n : MetricsRegistry} (same : m.gauges = n.gauges) (key : MetricsKey) :
    m.hasGauges key = n.hasGauges key := by
  rw [hasGauges, hasGauges, same]

theorem tell_congr {m n : MetricsRegistry} (same : m.gauges = n.gauges) (size : Option (Nat × Nat)) :
    (m.tell key size).gauges = (n.tell key size).gauges := by
  cases size with
  | none => exact same
  | some size => simp only [tell, setSizes, same]

theorem tell_tell (m : MetricsRegistry) (first second : Option (Nat × Nat)) :
    ((m.tell key first).tell key second).gauges = (m.tell key (second.or first)).gauges := by
  cases second with
  | none => cases first <;> rfl
  | some second =>
      cases first with
      | none => rfl
      | some first =>
          simp only [tell, setSizes, update, List.map_map, Option.some_or]
          apply List.map_congr_left
          intro entry _
          cases meant : key.isSame entry.1 <;> simp [meant]

theorem gaugesOf_tell_other (m : MetricsRegistry) (apart : other.isSame key = false)
    (size : Option (Nat × Nat)) : (m.tell key size).gaugesOf other = m.gaugesOf other := by
  cases size with
  | none => rfl
  | some size => exact gaugesOf_setSizes_other m apart size.1 size.2

@[simp] theorem hasGauges_tell (m : MetricsRegistry) (size : Option (Nat × Nat)) :
    (m.tell key size).hasGauges other = m.hasGauges other := by
  cases size with
  | none => rfl
  | some size => exact hasGauges_setSizes m size.1 size.2

@[simp] theorem gaugesOf_enlist (m : MetricsRegistry) :
    (m.enlist key).gaugesOf other = m.gaugesOf other := by
  simp only [gaugesOf, enlist, ensure]
  split
  · rfl
  · rename_i new
    cases meant : other.isSame key with
    | false => rw [find?_insert_other _ _ meant]
    | true =>
        have none : (m.gauges.find? fun entry => other.isSame entry.1) = none := by
          simp only [MetricsKey.isSame_congr meant]
          simpa using new
        rw [find?_insert_new _ _ meant none, none]
        rfl

theorem hasGauges_enlist_self (m : MetricsRegistry) : (m.enlist key).hasGauges key = true := by
  simp only [hasGauges, enlist, ensure]
  split
  · assumption
  · rename_i new
    have none : (m.gauges.find? fun entry => key.isSame entry.1) = none := by simpa using new
    have found := find?_insert_new keyLess (⟨0, 0⟩ : Gauges) (MetricsKey.isSame_self key) none
    exact List.any_eq_true.2 ⟨_, List.mem_of_find?_eq_some found, MetricsKey.isSame_self key⟩

theorem hasGauges_enlist (m : MetricsRegistry) (has : m.hasGauges other = true) :
    (m.enlist key).hasGauges other = true := by
  obtain ⟨entry, member, same⟩ := List.any_eq_true.1 has
  refine List.any_eq_true.2 ⟨entry, ?_, same⟩
  simp only [enlist, ensure]
  split
  · exact member
  · exact mem_insert _ _ _ member

end MetricsRegistry

end Dispatch
