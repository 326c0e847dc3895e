/-!
# Sorted maps

Finite maps as lists of entries in strictly increasing order of their keys. The
order is part of the type, so two maps with the same entries are equal, and the
keys are always listed in order.
-/

namespace PolicyDecision

/-- Strings are keys of sorted maps. -/
instance stringOrder : Trans (α := String) (β := String) (γ := String) (· < ·) (· < ·) (· < ·) :=
  ⟨fun before after => String.lt_trans before after⟩

/-- A finite map whose entries are listed by increasing key. -/
structure SortedMap (κ : Type) (α : Type) [LT κ] where
  entries : List (κ × α)
  increasing : entries.Pairwise fun first second => first.1 < second.1

namespace SortedMap

variable {κ α : Type} [LT κ]

/-- The map without entries. -/
def empty : SortedMap κ α := ⟨[], .nil⟩

/-- The keys in increasing order. -/
def keys (map : SortedMap κ α) : List κ := map.entries.map Prod.fst

/-- The values in the order of their keys. -/
def values (map : SortedMap κ α) : List α := map.entries.map Prod.snd

/-- The value at a key. -/
def get? [DecidableEq κ] (map : SortedMap κ α) (key : κ) : Option α :=
  (map.entries.find? fun entry => entry.1 = key).map Prod.snd

variable [DecidableLT κ]

/-- Entries with the value at a key changed, which is absent before its first
change. -/
def alterEntries (key : κ) (change : Option α → α) : List (κ × α) → List (κ × α)
  | [] => [(key, change none)]
  | (held, value) :: rest =>
      if key < held then (key, change none) :: (held, value) :: rest
      else if held < key then (held, value) :: alterEntries key change rest
      else (held, change (some value)) :: rest

/-- Changed entries have the keys from before and the changed one. -/
theorem key_of_mem_alterEntries
    {key : κ} {change : Option α → α} {entries : List (κ × α)} {entry : κ × α}
    (member : entry ∈ alterEntries key change entries) :
    entry.1 = key ∨ ∃ earlier ∈ entries, earlier.1 = entry.1 := by
  induction entries with
  | nil =>
      simp only [alterEntries, List.mem_singleton] at member
      exact .inl (by rw [member])
  | cons head rest inductionHypothesis =>
      obtain ⟨held, value⟩ := head
      simp only [alterEntries] at member
      split at member
      · rcases List.mem_cons.mp member with rfl | tail
        · exact .inl rfl
        · exact .inr ⟨entry, tail, rfl⟩
      · split at member
        · rcases List.mem_cons.mp member with rfl | tail
          · exact .inr ⟨(held, value), List.mem_cons_self, rfl⟩
          · rcases inductionHypothesis tail with same | ⟨earlier, earlierMember, same⟩
            · exact .inl same
            · exact .inr ⟨earlier, List.mem_cons_of_mem _ earlierMember, same⟩
        · rcases List.mem_cons.mp member with rfl | tail
          · exact .inr ⟨(held, value), List.mem_cons_self, rfl⟩
          · exact .inr ⟨entry, List.mem_cons_of_mem _ tail, rfl⟩

/-- Changing the value at a key keeps the entries in order. -/
theorem alterEntries_increasing
    [Trans (α := κ) (β := κ) (γ := κ) (· < ·) (· < ·) (· < ·)]
    (key : κ) (change : Option α → α) (entries : List (κ × α))
    (increasing : entries.Pairwise fun first second => first.1 < second.1) :
    (alterEntries key change entries).Pairwise fun first second => first.1 < second.1 := by
  induction entries with
  | nil => simp [alterEntries]
  | cons head rest inductionHypothesis =>
      obtain ⟨held, value⟩ := head
      obtain ⟨headBelow, restIncreasing⟩ := List.pairwise_cons.mp increasing
      simp only [alterEntries]
      split
      · rename_i keyBelow
        refine List.pairwise_cons.mpr ⟨fun entry member => ?_, increasing⟩
        rcases List.mem_cons.mp member with rfl | tail
        · exact keyBelow
        · exact Trans.trans keyBelow (headBelow entry tail)
      · split
        · rename_i heldBelow
          refine List.pairwise_cons.mpr ⟨fun entry member => ?_, inductionHypothesis restIncreasing⟩
          rcases key_of_mem_alterEntries member with same | ⟨earlier, earlierMember, same⟩
          · rw [same]
            exact heldBelow
          · rw [← same]
            exact headBelow earlier earlierMember
        · exact List.pairwise_cons.mpr ⟨headBelow, restIncreasing⟩

variable [Trans (α := κ) (β := κ) (γ := κ) (· < ·) (· < ·) (· < ·)]

/-- The map with the value at a key changed; the change is told whether there
was one. -/
def alter (map : SortedMap κ α) (key : κ) (change : Option α → α) : SortedMap κ α :=
  ⟨alterEntries key change map.entries, alterEntries_increasing key change _ map.increasing⟩

/-- The map with a value put at a key, in place of any value there. -/
def insert (map : SortedMap κ α) (key : κ) (value : α) : SortedMap κ α :=
  map.alter key fun _ => value

/-- The map of the given entries, of which a later one replaces an earlier one
with the same key. -/
def ofList (entries : List (κ × α)) : SortedMap κ α :=
  entries.foldl (fun map entry => map.insert entry.1 entry.2) empty

end SortedMap
end PolicyDecision
