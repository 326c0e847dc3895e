import PolicyDecision.Request

/-!
# Splitting of requests

A request that repeats a category stands for every choice of one category per
identifier. The identifiers keep the order of their first appearance and the
categories of one identifier keep the order of the request; the choice for the
first identifier varies slowest.
-/

namespace PolicyDecision

/-- The groups with a category put into the group of its identifier, or into a
new group at the end. -/
def insertIntoGroups (category : AttributeCategory) :
    List (List AttributeCategory) → List (List AttributeCategory)
  | [] => [[category]]
  | group :: rest =>
      if group.any fun member => member.category = category.category then
        (group ++ [category]) :: rest
      else group :: insertIntoGroups category rest

/-- The categories grouped by identifier. -/
def groupCategories (categories : List AttributeCategory) : List (List AttributeCategory) :=
  categories.foldl (fun groups category => insertIntoGroups category groups) []

/-- All choices of one member from each group, the first group varying slowest. -/
def choices {α : Type} : List (List α) → List (List α)
  | [] => [[]]
  | group :: rest => group.flatMap fun member => (choices rest).map (member :: ·)

/-- Without groups there is one choice, of nothing. -/
@[simp] theorem choices_nil {α : Type} : choices ([] : List (List α)) = [[]] := rfl

/-- The individual requests of a request, each with the status of the request. -/
def Request.split (request : Request) : List IndividualRequest :=
  (choices (groupCategories request.categories)).map fun categories =>
    ⟨request.status, categories⟩

end PolicyDecision
