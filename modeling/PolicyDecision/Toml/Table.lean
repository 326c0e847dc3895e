import PolicyDecision.DataTree.Basic

/-!
# Tables of TOML documents

The assembly of tables from keys and headers. A table remembers how it came to
be, because that decides how it may grow: a table named by a header only under
that header, a table made by dotted keys only by dotted keys, and a table that
is only the parent of another one once by a header of its own. Values, inline
tables among them, never grow.
-/

namespace PolicyDecision
namespace Toml

/-- How a table came to be. -/
inductive TableKind
  | headed
  | implied
  | dotted
  deriving DecidableEq, Repr

/-- What a key stands for: a finished value, a table that may grow, or an array
of tables of which the last one may grow. -/
inductive Item
  | value (tree : DataTree)
  | table (kind : TableKind) (entries : List (String × Item))
  | tables (elements : List (List (String × Item)))

/-- The entries of a table. -/
abbrev Entries := List (String × Item)

namespace Item

mutual

/-- The data of an item. -/
def toTree : Item → DataTree
  | .value tree => tree
  | .table _ entries => .table (entryTrees entries)
  | .tables elements => .list (elementTrees elements)

/-- The data of the entries of a table. -/
def entryTrees : List (String × Item) → List (String × DataTree)
  | [] => []
  | (name, item) :: rest => (name, toTree item) :: entryTrees rest

/-- The data of the tables of an array. -/
def elementTrees : List (List (String × Item)) → List DataTree
  | [] => []
  | entries :: rest => .table (entryTrees entries) :: elementTrees rest

end

end Item

namespace Entries

/-- The item of a key. -/
def find? (entries : Entries) (key : String) : Option Item :=
  (List.find? (fun entry => entry.1 = key) entries).map Prod.snd

/-- The entries without a key. -/
def erase (entries : Entries) (key : String) : Entries :=
  entries.filter fun entry => entry.1 ≠ key

/-- The entries with the item of a key replaced or added. -/
def put (entries : Entries) (key : String) (item : Item) : Entries :=
  entries.erase key ++ [(key, item)]

/-- Change the table at the end of a path of keys. Tables on the path that do not
exist are made; through an array of tables the path goes into its last one. A
path of dotted keys does not enter a table with a header. -/
def changeAt
    {α : Type}
    (dotted : Bool)
    (change : TableKind → Entries → Option (Entries × α)) :
    List String → TableKind → Entries → Option (Entries × α)
  | [], kind, entries => change kind entries
  | key :: path, _, entries =>
      match entries.find? key with
      | none => do
          let kind := if dotted then .dotted else .implied
          let (inner, extra) ← changeAt dotted change path kind []
          return (entries.put key (.table kind inner), extra)
      | some (.table kind inner) =>
          if dotted && kind = .headed then none
          else do
            let (changed, extra) ← changeAt dotted change path kind inner
            return (entries.put key (.table kind changed), extra)
      | some (.tables elements) =>
          match elements.getLast? with
          | none => none
          | some last => do
              let (changed, extra) ← changeAt dotted change path .headed last
              return (entries.put key (.tables (elements.dropLast ++ [changed])), extra)
      | some (.value _) => none

/-- The entries with a value put at the end of a path of keys, where nothing may
be yet. The table there was made by dotted keys exactly when the path goes
through some. -/
def assign (entries : Entries) (path : List String) (key : String) (tree : DataTree) :
    Option Entries :=
  let insert (kind : TableKind) (inner : Entries) : Option (Entries × Unit) :=
    if (kind = .dotted) = (path = []) then none
    else if (inner.find? key).isSome then none
    else some (inner ++ [(key, .value tree)], ())
  (changeAt true insert path .headed entries).map Prod.fst

end Entries

/-- A document while it is read: the finished part, the open table, and the
header of the open table, which is empty for the table at the top. -/
structure Assembly where
  finished : Entries
  current : Entries
  header : List String
  isElement : Bool

namespace Assembly

/-- The document before its first line. -/
def empty : Assembly := ⟨[], [], [], false⟩

/-- Put the open table into the finished part. -/
def close (assembly : Assembly) : Option Entries :=
  match assembly.header.getLast? with
  | none => some assembly.current
  | some key =>
      let insert (_ : TableKind) (parent : Entries) : Option (Entries × Unit) :=
        if assembly.isElement then
          match parent.find? key with
          | some (.tables elements) =>
              some (parent.put key (.tables (elements ++ [assembly.current])), ())
          | _ => none
        else
          match parent.find? key with
          | none => some (parent.put key (.table .headed assembly.current), ())
          | some _ => none
      (Entries.changeAt false insert assembly.header.dropLast .headed assembly.finished).map
        Prod.fst

/-- Open the table of a header. It continues a table that so far was only a
parent. -/
def openTable (assembly : Assembly) (header : List String) : Option Assembly := do
  let finished ← assembly.close
  let key ← header.getLast?
  let take (_ : TableKind) (parent : Entries) : Option (Entries × Entries) :=
    match parent.find? key with
    | none => some (parent, [])
    | some (.table .implied inner) => some (parent.erase key, inner)
    | some _ => none
  let (rest, current) ← Entries.changeAt false take header.dropLast .headed finished
  return ⟨rest, current, header, false⟩

/-- Open one more table of an array of tables. -/
def openElement (assembly : Assembly) (header : List String) : Option Assembly := do
  let finished ← assembly.close
  let key ← header.getLast?
  let prepare (_ : TableKind) (parent : Entries) : Option (Entries × Unit) :=
    match parent.find? key with
    | none => some (parent.put key (.tables []), ())
    | some (.tables _) => some (parent, ())
    | some _ => none
  let (rest, _) ← Entries.changeAt false prepare header.dropLast .headed finished
  return ⟨rest, [], header, true⟩

/-- Put a value into the open table. -/
def assign (assembly : Assembly) (path : List String) (key : String) (tree : DataTree) :
    Option Assembly :=
  (assembly.current.assign path key tree).map fun current => { assembly with current }

end Assembly
end Toml
end PolicyDecision
