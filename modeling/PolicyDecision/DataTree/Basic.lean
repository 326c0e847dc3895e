/-!
# Data trees

Plain data as it stands in documents: texts, truth values, numbers, lists and
tables of named entries. Requests, results, policies and settings are all
written as such trees.
-/

namespace PolicyDecision

/-- Plain data. A number keeps its text. -/
inductive DataTree
  | null
  | boolean (truth : Bool)
  | number (text : String)
  | string (text : String)
  | list (items : List DataTree)
  | table (entries : List (String × DataTree))
  deriving Inhabited

namespace DataTree

mutual

/-- The number of levels of a tree. -/
def depth : DataTree → Nat
  | .list items => depthOfItems items + 1
  | .table entries => depthOfEntries entries + 1
  | .null | .boolean _ | .number _ | .string _ => 1

/-- The greatest number of levels of the items of a list. -/
def depthOfItems : List DataTree → Nat
  | [] => 0
  | item :: rest => max (depth item) (depthOfItems rest)

/-- The greatest number of levels of the entries of a table. -/
def depthOfEntries : List (String × DataTree) → Nat
  | [] => 0
  | (_, item) :: rest => max (depth item) (depthOfEntries rest)

end

/-- The entry of a table with a name. -/
def entry? (entries : List (String × DataTree)) (name : String) : Option DataTree :=
  (entries.find? fun entry => entry.1 = name).map Prod.snd

end DataTree
end PolicyDecision
