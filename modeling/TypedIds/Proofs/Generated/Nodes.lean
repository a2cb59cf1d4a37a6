import TypedIds.Generated.Item

/-!
# Nodes of generated code

The body of a function is expressions and statements, and those in them.  `Expr.nodes` lists them
all, whatever their depth, so a question about a body is a query for its nodes: which functions of
the type are called (`Node.ownCall?`), what is returned early, where `?` stands.
-/

set_option autoImplicit false

namespace TypedIds

namespace Generated

/-! ## Nodes -/

/-- An expression or a statement. -/
inductive Node where
  | expr (e : Expr)
  | stmt (s : Stmt)

mutual

/-- The nodes of an expression: itself, and then what lies in it. -/
@[simp] def Expr.nodes : Expr → List Node
  | .name code => [.expr (.name code)]
  | .text s => [.expr (.text s)]
  | .call callee args => .expr (.call callee args) :: Expr.nodesAll args
  | .method receiver name args =>
    .expr (.method receiver name args) :: (receiver.nodes ++ Expr.nodesAll args)
  | .propagate e => .expr (.propagate e) :: e.nodes
  | .field receiver name => .expr (.field receiver name) :: receiver.nodes
  | .index receiver i => .expr (.index receiver i) :: receiver.nodes
  | .borrow e => .expr (.borrow e) :: e.nodes
  | .tuple es => .expr (.tuple es) :: Expr.nodesAll es
  | .construct type none => [.expr (.construct type none)]
  | .construct type (some e) => .expr (.construct type (some e)) :: e.nodes
  | .closure params body => .expr (.closure params body) :: body.nodes
  | .equal a b => .expr (.equal a b) :: (a.nodes ++ b.nodes)
  | .block stmts result =>
    .expr (.block stmts result) :: (Stmt.nodesAll stmts ++ result.nodes)

/-- The nodes of some expressions. -/
@[simp] def Expr.nodesAll : List Expr → List Node
  | [] => []
  | e :: es => e.nodes ++ Expr.nodesAll es

/-- The nodes of a statement. -/
@[simp] def Stmt.nodes : Stmt → List Node
  | .bind name type e => .stmt (.bind name type e) :: e.nodes
  | .shared name type e => .stmt (.shared name type e) :: e.nodes
  | .run e => .stmt (.run e) :: e.nodes
  | .returnIf condition result =>
    .stmt (.returnIf condition result) :: (condition.nodes ++ result.nodes)
  | .ifSome name scrutinee stmts =>
    .stmt (.ifSome name scrutinee stmts) :: (scrutinee.nodes ++ Stmt.nodesAll stmts)

/-- The nodes of some statements. -/
@[simp] def Stmt.nodesAll : List Stmt → List Node
  | [] => []
  | s :: ss => s.nodes ++ Stmt.nodesAll ss

end

@[simp] theorem Stmt.nodesAll_append (ss ts : List Stmt) :
    Stmt.nodesAll (ss ++ ts) = Stmt.nodesAll ss ++ Stmt.nodesAll ts := by
  induction ss with
  | nil => rfl
  | cons s ss ih => simp [ih]

/-- The nodes of a function. -/
def Function.nodes (f : Function) : List Node := Stmt.nodesAll f.stmts ++ f.result.nodes

/-! ## Queries -/

/-- The name of a function of the type `type` that a path leads to: `Self::f` or `type::f`. -/
def ownName? (type : String) : Code → Option String
  | [.word t, .mark ':' true, .mark ':' false, .word f] =>
    if t = "Self" ∨ t = type then some f else none
  | _ => none

/-- The function of the type `type` that is called. -/
def Node.ownCallee? (type : String) : Node → Option String
  | .expr (.call callee _) => ownName? type callee
  | _ => none

/-- The function of the type `type` that is called, and with how many arguments. -/
def Node.ownCall? (type : String) : Node → Option (String × Nat)
  | .expr (.call callee args) => (ownName? type callee).map (·, args.length)
  | _ => none

/-- The condition of an early return, and what is returned. -/
def Node.earlyReturn? : Node → Option (Expr × Expr)
  | .stmt (.returnIf condition result) => some (condition, result)
  | _ => none

/-- The expression that `?` stands after. -/
def Node.propagated? : Node → Option Expr
  | .expr (.propagate e) => some e
  | _ => none

/-- The functions of the type `type` that a function calls, in the order in which the calls are
written, and with how many arguments. -/
def Function.ownCalls (type : String) (f : Function) : List (String × Nat) :=
  f.nodes.filterMap (Node.ownCall? type)

theorem filterMap_ownCallee? (type : String) (ns : List Node) :
    ns.filterMap (Node.ownCallee? type) = (ns.filterMap (Node.ownCall? type)).map Prod.fst := by
  have hquery : Node.ownCallee? type = fun n ↦ (n.ownCall? type).map Prod.fst := by
    funext n
    cases n with
    | stmt s => rfl
    | expr e => cases e <;> simp [Node.ownCallee?, Node.ownCall?, Function.comp_def]
  rw [hquery, List.map_filterMap]

end Generated

end TypedIds
