import Dispatch.Json.Value
import Mathlib.Data.List.Basic
import Mathlib.Data.String.Basic

set_option autoImplicit false

namespace Dispatch

theorem insertSorted_last {α : Type} {key : String} {sorted : List (String × α)} (value : α)
    (above : ∀ field ∈ sorted, field.1 < key) : insertSorted key value sorted = sorted ++ [(key, value)] := by
  induction sorted with
  | nil => rfl
  | cons field sorted ih =>
      have below : field.1 < key := above field (List.mem_cons_self ..)
      rw [insertSorted, if_neg (lt_asymm below), if_neg (ne_of_gt below),
        ih fun other member => above other (List.mem_cons_of_mem _ member), List.cons_append]

theorem sortedByKey_sorted {α : Type} {fields : List (String × α)}
    (sorted : fields.Pairwise fun field next => field.1 < next.1) : sortedByKey fields = fields := by
  have onward (before rest : List (String × α))
      (sorted : (before ++ rest).Pairwise fun field next => field.1 < next.1) :
      rest.foldl (fun sorted field => insertSorted field.1 field.2 sorted) before = before ++ rest := by
    induction rest generalizing before with
    | nil => simp
    | cons field rest ih =>
        have above : ∀ other ∈ before, other.1 < field.1 := fun other member =>
          (List.pairwise_append.1 sorted).2.2 other member field (List.mem_cons_self ..)
        rw [List.foldl_cons, insertSorted_last field.2 above, ih _ (by simpa using sorted), List.append_assoc]
        rfl
  exact onward [] fields sorted

theorem lookup_insertSorted {α : Type} (key other : String) (value : α) (fields : List (String × α)) :
    (insertSorted key value fields).lookup other =
      if other = key then some value else fields.lookup other := by
  have cons (held : String) (entry : α) (rest : List (String × α)) :
      ((held, entry) :: rest).lookup other = if other = held then some entry else rest.lookup other := by
    rw [List.lookup_cons]
    by_cases same : other = held
    · simp [same]
    · simp [beq_false_of_ne same, same]
  induction fields with
  | nil => exact cons key value []
  | cons field fields ih =>
      obtain ⟨held, entry⟩ := field
      simp only [insertSorted]
      split
      · exact cons key value _
      · split
        · rename_i replaced
          subst replaced
          simp only [cons]
          split <;> rfl
        · rename_i apart
          simp only [cons, ih]
          split
          · rename_i same
            rw [if_neg (same ▸ Ne.symm apart)]
          · rfl

theorem of_mem_insertSorted {α : Type} {key : String} {value : α} {fields : List (String × α)} {field : String × α}
    (member : field ∈ insertSorted key value fields) : field = (key, value) ∨ field ∈ fields := by
  induction fields with
  | nil => exact .inl (List.mem_singleton.1 member)
  | cons first fields ih =>
      rw [insertSorted] at member
      split at member
      · exact List.mem_cons.1 member
      · split at member
        · exact (List.mem_cons.1 member).imp_right (List.mem_cons_of_mem _)
        · rcases List.mem_cons.1 member with rfl | member
          · exact .inr List.mem_cons_self
          · exact (ih member).imp_right (List.mem_cons_of_mem _)

theorem insertSorted_sorted {α : Type} (key : String) (value : α) {fields : List (String × α)}
    (sorted : fields.Pairwise fun field next => field.1 < next.1) :
    (insertSorted key value fields).Pairwise fun field next => field.1 < next.1 := by
  induction fields with
  | nil => exact List.pairwise_singleton _ _
  | cons first fields ih =>
      obtain ⟨above, rest⟩ := List.pairwise_cons.1 sorted
      rw [insertSorted]
      split
      · rename_i below
        refine List.pairwise_cons.2 ⟨fun field member => ?_, sorted⟩
        rcases List.mem_cons.1 member with rfl | member
        · exact below
        · exact lt_trans below (above field member)
      · rename_i notBelow
        split
        · rename_i same
          exact List.pairwise_cons.2 ⟨fun field member => same ▸ above field member, rest⟩
        · rename_i apart
          refine List.pairwise_cons.2 ⟨fun field member => ?_, ih rest⟩
          rcases of_mem_insertSorted member with rfl | member
          · exact lt_of_le_of_ne (le_of_not_gt notBelow) (Ne.symm apart)
          · exact above field member

namespace Json

inductive Exact : Json → Prop
  | null : Exact .null
  | bool (value : Bool) : Exact (.bool value)
  | integer {value : Int} (low : -(twoTo 63 : Int) ≤ value) (high : value < twoTo 64) : Exact (.integer value)
  | string (value : String) : Exact (.string value)
  | array {elements : List Json} (each : ∀ element ∈ elements, Exact element) : Exact (.array elements)
  | members {fields : List (String × Json)} (sorted : fields.Pairwise fun field next => field.1 < next.1)
      (each : ∀ field ∈ fields, Exact field.2) : Exact (.members fields)

mutual

def depth : Json → Nat
  | .array elements => depthOfElements elements + 1
  | .members fields => depthOfFields fields + 1
  | _ => 0

def depthOfElements : List Json → Nat
  | [] => 0
  | element :: rest => max (depth element) (depthOfElements rest)

def depthOfFields : List (String × Json) → Nat
  | [] => 0
  | (_, value) :: rest => max (depth value) (depthOfFields rest)

end

example : depth (.array [.null, .array []]) = 2 := rfl

end Json

end Dispatch
