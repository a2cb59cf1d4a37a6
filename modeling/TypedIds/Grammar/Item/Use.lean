import TypedIds.Grammar.Fragment

/-!
# Reading imports

What a `use` names is a tree of names.  One in whose braces a path begins with `::` is kept as it is
written; that is possible only where no path stands before the braces.
-/

set_option autoImplicit false

namespace TypedIds.Grammar

open Reader

/-- What a tree of names may begin with. -/
def useStarts : List Wanted :=
  [.name, .keyword "self", .keyword "super", .keyword "crate", .keyword "try", .operator "*",
   .group .braces]

/-- The name that something gets, which may be `_`. -/
def newName : Reader String := do
  let ts ← rest
  if Ahead.name ts || Ahead.word "_" ts then return (← anyWord).1 else want [.nameOrUnderscore]

/-- A tree of names; none if it is kept as it is written.  A path in its braces may begin with `::`
if `roots`. -/
def useTreeTo (roots : Bool) : (depth : Nat) → Reader (Option Code)
  | 0 => do fail .tooDeep (← here)
  | n + 1 => do
    let ts ← rest
    if Ahead.name ts || Ahead.oneOf ["self", "super", "crate", "try"] ts then
      let (w, _) ← anyWord
      if ← operator? "::" then
        return (← useTreeTo false n).map (.word w :: Code.pathSep ++ ·)
      else if ← keyword? "as" then
        return some [.word w, .word "as", .word (← newName)]
      else return some [.word w]
    else if ← operator? "*" then return some [.mark '*' false]
    else if Ahead.group .braces ts then
      let (trees, trailing) ← group .braces (commaList do
        let isRoot ← if roots then operator? "::" else pure false
        let tree ← useTreeTo (roots && !isRoot) n
        return if isRoot then none else tree)
      return if trees.all Option.isSome then
          some (Code.within .braces (Code.commas (trees.map (·.getD [])) trailing))
        else none
    else want useStarts

/-- A `use`; none if it is kept as it is written. -/
def useItem : Reader (Option Code) := do
  let vis ← visibility
  keyword "use"
  let rooted ← operator? "::"
  let tree ← useTreeTo (!rooted) (Tree.sizeAll (← rest) + 1)
  let stop ← semicolon
  return tree.map fun t ↦
    vis ++ .word "use" :: (if rooted then Code.pathSep else []) ++ t ++ stop

/-- `extern crate`. -/
def externCrate : Reader Code := do
  let vis ← visibility
  keyword "extern"
  keyword "crate"
  let (n, _) ← if ← sees (Ahead.word "self") then anyWord else name
  let renamed ←
    if ← keyword? "as" then
      let (m, _) ← if ← sees (Ahead.word "_") then anyWord else name
      pure [.word "as", .word m]
    else pure []
  return vis ++ .word "extern" :: .word "crate" :: .word n :: renamed ++ (← semicolon)

end TypedIds.Grammar
