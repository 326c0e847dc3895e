import PolicyDecision.SortedMap

/-!
# Lookups in sorted maps

A changed map answers the changed key with the change and every other key as
before. A map of listed entries therefore answers each key with the last entry
listed for it.
-/

namespace PolicyDecision.SortedMap

variable {κ α : Type}

/-! ## Entries -/

section Entries

variable [DecidableEq κ]

/-- The value of the first entry at a key. -/
def lookup (entries : List (κ × α)) (key : κ) : Option α :=
  (entries.find? fun entry => entry.1 = key).map Prod.snd

theorem lookup_cons_self (key : κ) (value : α) (rest : List (κ × α)) :
    lookup ((key, value) :: rest) key = some value := by
  simp [lookup]

theorem lookup_cons_of_ne
    {held key : κ} (different : held ≠ key)
    (value : α) (rest : List (κ × α)) :
    lookup ((held, value) :: rest) key = lookup rest key := by
  simp [lookup, different]

theorem lookup_eq_none
    {entries : List (κ × α)} {key : κ}
    (absent : ∀ entry ∈ entries, entry.1 ≠ key) :
    lookup entries key = none := by
  rw [lookup, List.find?_eq_none.mpr, Option.map_none]
  intro entry member
  simpa using absent entry member

end Entries

variable [LT κ]

theorem ne_of_lt
    [Std.Irrefl (α := κ) (· < ·)]
    {first second : κ} (below : first < second) : first ≠ second := by
  rintro rfl
  exact Std.Irrefl.irrefl _ below

variable [DecidableEq κ]

theorem get?_eq_lookup (map : SortedMap κ α) (key : κ) :
    map.get? key = lookup map.entries key := rfl

section Irreflexive

variable [Std.Irrefl (α := κ) (· < ·)]

/-- The entries of a map are the values that it answers with. -/
theorem mem_entries_iff (map : SortedMap κ α) (key : κ) (value : α) :
    (key, value) ∈ map.entries ↔ map.get? key = some value := by
  obtain ⟨entries, increasing⟩ := map
  rw [get?_eq_lookup]
  induction entries with
  | nil => simp [lookup]
  | cons head rest inductionHypothesis =>
      obtain ⟨held, heldValue⟩ := head
      obtain ⟨headBelow, restIncreasing⟩ := List.pairwise_cons.mp increasing
      by_cases same : held = key
      · subst same
        rw [lookup_cons_self, List.mem_cons]
        constructor
        · rintro (isHead | inRest)
          · cases isHead
            rfl
          · have below : held < held := headBelow (held, value) inRest
            exact absurd rfl (ne_of_lt below)
        · intro isValue
          cases isValue
          exact .inl rfl
      · rw [lookup_cons_of_ne same, ← inductionHypothesis restIncreasing, List.mem_cons]
        constructor
        · rintro (isHead | inRest)
          · cases isHead
            exact absurd rfl same
          · exact inRest
        · exact .inr

theorem mem_keys_iff (map : SortedMap κ α) (key : κ) : key ∈ map.keys ↔ (map.get? key).isSome := by
  simp only [keys, List.mem_map, Option.isSome_iff_exists, ← mem_entries_iff]
  constructor
  · rintro ⟨⟨_, value⟩, member, rfl⟩
    exact ⟨value, member⟩
  · rintro ⟨value, member⟩
    exact ⟨(key, value), member, rfl⟩

theorem mem_values_iff (map : SortedMap κ α) (value : α) :
    value ∈ map.values ↔ ∃ key, map.get? key = some value := by
  simp only [values, List.mem_map, ← mem_entries_iff]
  constructor
  · rintro ⟨⟨key, _⟩, member, rfl⟩
    exact ⟨key, member⟩
  · rintro ⟨key, member⟩
    exact ⟨(key, value), member, rfl⟩

end Irreflexive

/-! ## Changes -/

section Changes

variable
  [DecidableLT κ]
  [Std.Trichotomous (α := κ) (· < ·)]

theorem lookup_alterEntries_of_ne
    {key other : κ} (different : key ≠ other)
    (change : Option α → α) (entries : List (κ × α)) :
    lookup (alterEntries key change entries) other = lookup entries other := by
  induction entries with
  | nil => exact lookup_cons_of_ne different _ _
  | cons head rest inductionHypothesis =>
      obtain ⟨held, value⟩ := head
      simp only [alterEntries]
      split
      · exact lookup_cons_of_ne different _ _
      · split
        · by_cases same : held = other
          · subst same
            rw [lookup_cons_self, lookup_cons_self]
          · rw [lookup_cons_of_ne same, lookup_cons_of_ne same, inductionHypothesis]
        · rename_i notBelow notAbove
          cases Std.Trichotomous.trichotomous key held notBelow notAbove
          rw [lookup_cons_of_ne different, lookup_cons_of_ne different]

variable
  [Trans (α := κ) (β := κ) (γ := κ) (· < ·) (· < ·) (· < ·)]
  [Std.Irrefl (α := κ) (· < ·)]

theorem lookup_alterEntries_self
    (key : κ) (change : Option α → α) (entries : List (κ × α))
    (increasing : entries.Pairwise fun first second => first.1 < second.1) :
    lookup (alterEntries key change entries) key = some (change (lookup entries key)) := by
  induction entries with
  | nil => rw [alterEntries, lookup_cons_self]; rfl
  | cons head rest inductionHypothesis =>
      obtain ⟨held, value⟩ := head
      obtain ⟨headBelow, restIncreasing⟩ := List.pairwise_cons.mp increasing
      simp only [alterEntries]
      split
      · rename_i keyBelow
        -- The key is new, since all held keys are above it.
        have absent : ∀ entry ∈ (held, value) :: rest, entry.1 ≠ key := by
          intro entry member
          rcases List.mem_cons.mp member with rfl | tail
          · exact (ne_of_lt keyBelow).symm
          · exact (ne_of_lt (Trans.trans keyBelow (headBelow entry tail))).symm
        rw [lookup_cons_self, lookup_eq_none absent]
      · split
        · rename_i heldBelow
          have different : held ≠ key := ne_of_lt heldBelow
          rw [lookup_cons_of_ne different, lookup_cons_of_ne different,
            inductionHypothesis restIncreasing]
        · rename_i notBelow notAbove
          cases Std.Trichotomous.trichotomous key held notBelow notAbove
          rw [lookup_cons_self, lookup_cons_self]

/-- A changed map answers the changed key with the change and every other key as
before. -/
theorem get?_alter
    (map : SortedMap κ α) (key : κ) (change : Option α → α) (asked : κ) :
    (map.alter key change).get? asked =
      if key = asked then some (change (map.get? key)) else map.get? asked := by
  split
  · rename_i same
    subst same
    exact lookup_alterEntries_self key change map.entries map.increasing
  · rename_i different
    exact lookup_alterEntries_of_ne different change map.entries

theorem get?_insert (map : SortedMap κ α) (key : κ) (value : α) (asked : κ) :
    (map.insert key value).get? asked = if key = asked then some value else map.get? asked :=
  get?_alter map key (fun _ => value) asked

/-- A map of listed entries answers with the last entry listed for a key. -/
theorem get?_ofList (entries : List (κ × α)) (key : κ) :
    (ofList entries).get? key = lookup entries.reverse key := by
  have after (map : SortedMap κ α) :
      (entries.foldl (fun held entry => held.insert entry.1 entry.2) map).get? key =
        (lookup entries.reverse key).or (map.get? key) := by
    induction entries generalizing map with
    | nil => rfl
    | cons entry rest inductionHypothesis =>
        obtain ⟨listed, value⟩ := entry
        rw [List.foldl_cons, inductionHypothesis, get?_insert, List.reverse_cons]
        simp only [lookup, List.find?_append, Option.map_or, Option.or_assoc]
        congr 1
        by_cases same : listed = key <;> simp [same]
  rw [ofList, after]
  exact Option.or_none

/-- The values of a map of listed entries were listed. -/
theorem mem_of_mem_values_ofList
    {entries : List (κ × α)} {value : α}
    (member : value ∈ (ofList entries).values) : ∃ entry ∈ entries, entry.2 = value := by
  obtain ⟨key, held⟩ := (mem_values_iff _ value).mp member
  rw [get?_ofList, lookup, Option.map_eq_some_iff] at held
  obtain ⟨entry, found, rfl⟩ := held
  exact ⟨entry, List.mem_reverse.mp (List.mem_of_find?_eq_some found), rfl⟩

end Changes

/-! ## Listed entries -/

section Listed

omit [DecidableEq κ]

variable
  [DecidableLT κ]
  [Trans (α := κ) (β := κ) (γ := κ) (· < ·) (· < ·) (· < ·)]
  [Std.Irrefl (α := κ) (· < ·)]

/-- A key above all others gets the last entry. -/
theorem alterEntries_of_forall_lt
    {key : κ} {entries : List (κ × α)}
    (above : ∀ entry ∈ entries, entry.1 < key)
    (change : Option α → α) :
    alterEntries key change entries = entries ++ [(key, change none)] := by
  induction entries with
  | nil => rfl
  | cons head rest inductionHypothesis =>
      have headBelow : head.1 < key := above head List.mem_cons_self
      have notAbove : ¬ key < head.1 := fun keyBelow =>
        Std.Irrefl.irrefl key (Trans.trans keyBelow headBelow)
      rw [alterEntries, if_neg notAbove, if_pos headBelow,
        inductionHypothesis fun entry member => above entry (List.mem_cons_of_mem _ member)]
      rfl

/-- Inserting entries in increasing order above those of a map appends them. -/
theorem entries_foldl_insert
    {map : SortedMap κ α} {entries : List (κ × α)}
    (increasing : (map.entries ++ entries).Pairwise fun first second => first.1 < second.1) :
    (entries.foldl (fun held entry => held.insert entry.1 entry.2) map).entries =
      map.entries ++ entries := by
  induction entries generalizing map with
  | nil => exact (List.append_nil _).symm
  | cons head rest inductionHypothesis =>
      have above (entry : κ × α) (member : entry ∈ map.entries) : entry.1 < head.1 :=
        (List.pairwise_append.mp increasing).2.2 entry member head List.mem_cons_self
      have inserted : (map.insert head.1 head.2).entries = map.entries ++ [head] :=
        alterEntries_of_forall_lt above fun _ => head.2
      rw [List.foldl_cons, inductionHypothesis, inserted, List.append_assoc]
      · rfl
      · rw [inserted, List.append_assoc]
        exact increasing

/-- A map is the map of its entries. -/
theorem ofList_entries (map : SortedMap κ α) : ofList map.entries = map := by
  have sameEntries : (ofList map.entries).entries = map.entries :=
    entries_foldl_insert map.increasing
  exact (SortedMap.mk.injEq ..).mpr sameEntries

end Listed
end PolicyDecision.SortedMap
