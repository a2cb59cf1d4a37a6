import TypedIds.Expansion.Struct

/-!
# Expanding a module

All candidates of a module tree are expanded first, in source order; then the structs are replaced.
What replaces a struct is looked up by the path of its module and its name.  When several structs
have the same path and name, the last expansion is the one that is kept, and it replaces the first
of them; the others stay as they are.
-/

set_option autoImplicit false

namespace TypedIds

/-- What replaces structs, by module path and name; every key stands once. -/
abbrev Replacements := List (TypeKey × Code)

namespace Replacements

/-- Adds a replacement; an earlier one for the same key is given up. -/
def insert (k : TypeKey) (c : Code) : Replacements → Replacements
  | [] => [(k, c)]
  | e :: es => if e.1 = k then (k, c) :: es else e :: insert k c es

/-- Takes out the replacement for a key. -/
def take? (k : TypeKey) : Replacements → Option (Code × Replacements)
  | [] => none
  | e :: es =>
    if e.1 = k then some (e.2, es)
    else (take? k es).map fun (c, es) ↦ (c, e :: es)

end Replacements

mutual

/-- Replaces the structs of an item that lies in the module at `path`. -/
def Item.splice (path : List String) : Item → Replacements → Item × Replacements
  | .struct s, r =>
    match Replacements.take? ⟨path, s.name⟩ r with
    | some (code, r) => (.other code, r)
    | none => (.struct s, r)
  | .module head items, r =>
    let (items, r) := Item.spliceAll (path ++ [head.name]) items r
    (.module head items, r)
  | .members b, r => (.members b, r)
  | .other code, r => (.other code, r)

/-- Replaces the structs of some items that lie in the module at `path`. -/
def Item.spliceAll (path : List String) : List Item → Replacements → List Item × Replacements
  | [], r => ([], r)
  | i :: is, r =>
    let (i, r) := Item.splice path i r
    let (is, r) := Item.spliceAll path is r
    (i :: is, r)

end

/-- Expands candidates one after the other. -/
def expandCandidates (x : Index) :
    List Candidate → Replacements → Units → Except NotAName (Replacements × Units)
  | [], r, us => .ok (r, us)
  | c :: cs, r, us => do
    let (e, us) ← c.expand x us
    let r :=
      match c.replacement? e with
      | some code => Replacements.insert ⟨c.path, c.item.name⟩ code r
      | none => r
    expandCandidates x cs r us

/-- Expands the items of a module. -/
def expandItems (items : List Item) (us : Units) : Except NotAName (List Item × Units) := do
  let (r, us) ← expandCandidates (.ofItems items) (Item.candidatesAll [] items) [] us
  return ((Item.spliceAll [] items r).1, us)

/-- The module to expand, if nothing is wrong with it and its arguments. -/
def moduleToExpand (args item : List Tree) : Except Diagnostic (ModuleHead × List Item) := do
  if !args.isEmpty then throw ⟨.moduleArguments, Tree.spanAll args⟩
  match ← Grammar.module.run .nowhere item with
  | .module head items => return (head, items)
  | _ => throw ⟨.moduleBody, Tree.spanAll item⟩

/-- Expands all marked structs in a module, given the arguments and the module. -/
def expandModule (args item : List Tree) (us : Units) :
    Except NotAName (Except Diagnostic Code × Units) := do
  match moduleToExpand args item with
  | .error d => return (.error d, us)
  | .ok (head, items) =>
    let (items, us) ← expandItems items us
    return (.ok (Item.module head items).code, us)

end TypedIds
