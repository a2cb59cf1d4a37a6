import TypedIds.Generated.Code
import TypedIds.Proofs.Generated.Nodes

/-!
# Constructors

What the body of a constructor does and what it leaves out, whatever is declared: it calls the hook
once if there is one, and no other function of the type (`ownCalls_constructor`); it does not return
early; and `?` stands nowhere but after a hook that may fail.
-/

set_option autoImplicit false

namespace TypedIds

variable {d : Declaration}

namespace Generated

/-! ## Paths to own functions -/

section

variable (type f : String)

@[simp] theorem ownName?_self : ownName? type (within selfType [f]) = some f := by
  simp [ownName?, within, absolute, selfType, word, Code.op, Code.ofMarks]

@[simp] theorem ownName?_typeName : ownName? d.name (within (typeName d) [f]) = some f := by
  simp [ownName?, within, absolute, typeName, word, Code.op, Code.ofMarks]

@[simp] theorem ownName?_absolute (n : String) (names : List String) :
    ownName? type (absolute (n :: names)) = none := by
  simp [ownName?, absolute, Code.op, Code.ofMarks]

@[simp] theorem ownName?_asTrait (t trait : Code) :
    ownName? type (within (asTrait t trait) [f]) = none := by
  simp [ownName?, within, asTrait, Code.angle]

/-- A longer path leads elsewhere. -/
theorem ownName?_of_length {c : Code} (h : 4 < c.length) : ownName? type c = none := by
  rw [ownName?.eq_def]
  split
  · simp at h
  · rfl

@[simp] theorem ownName?_library (n : String) : ownName? type (library d [n, f]) = none :=
  ownName?_of_length type (by simp [library, within, absolute, Code.op, Code.ofMarks])

end

/-! ## The constructor -/

/-- The error of a call is turned into a rejection. -/
def rejection (d : Declaration) (call : Expr) : Expr :=
  .method call "map_err" [.closure (word "err")
    (.call (library d ["__private", "reject"]) [.text d.name, .var "err"])]

section Constructor

variable {docs : List String} {params : List Code} {before : List Stmt} {input : Expr}

/-- No constructor returns early. -/
theorem earlyReturn_constructor
    (hbefore : (Stmt.nodesAll before).filterMap Node.earlyReturn? = [])
    (hinput : input.nodes.filterMap Node.earlyReturn? = []) :
    (constructor d docs params before input).nodes.filterMap Node.earlyReturn? = [] := by
  have hchecked : (checked d input).nodes.filterMap Node.earlyReturn? = [] := by
    rw [checked]
    split
    · exact hinput
    next h _ =>
      cases h.returns <;>
        simp [Node.earlyReturn?, rejecting, typeLabel, Expr.ownCall, Expr.var, Expr.clone, hinput,
          List.filterMap_cons, -List.filterMap_eq_nil_iff]
  rw [Function.nodes, constructor, constructed]
  split <;>
    simp [Node.earlyReturn?, Expr.ok, hbefore, hchecked, List.filterMap_cons,
      -List.filterMap_eq_nil_iff]

/-- The constructor calls the hook, if there is one, with one argument, and no other own
function. -/
theorem ownCalls_constructor
    (hbefore : (Stmt.nodesAll before).filterMap (Node.ownCall? d.name) = [])
    (hinput : input.nodes.filterMap (Node.ownCall? d.name) = []) :
    (constructor d docs params before input).ownCalls d.name =
      (d.hook.map fun h ↦ (h.name, 1)).toList := by
  have hchecked : (checked d input).nodes.filterMap (Node.ownCall? d.name) =
      (d.hook.map fun h ↦ (h.name, 1)).toList := by
    rw [checked]
    split
    next hd => simpa [hd] using hinput
    next h hd =>
      cases h.returns <;>
        simp [hd, Node.ownCall?, rejecting, typeLabel, Expr.ownCall, Expr.var, Expr.clone, hinput,
          List.filterMap_cons, -List.filterMap_eq_nil_iff]
  rw [Function.ownCalls, Function.nodes, constructor, constructed]
  split <;>
    simp [Node.ownCall?, Expr.ok, hbefore, hchecked, List.filterMap_cons,
      -List.filterMap_eq_nil_iff]

/-- Nothing but the error of the hook is propagated. -/
theorem propagated_constructor
    (hbefore : (Stmt.nodesAll before).filterMap Node.propagated? = [])
    (hinput : input.nodes.filterMap Node.propagated? = []) :
    if d.isFallible then
      ∃ h args, d.hook = some h ∧
        (constructor d docs params before input).nodes.filterMap Node.propagated? =
          [rejection d (.ownCall h.name args)]
    else (constructor d docs params before input).nodes.filterMap Node.propagated? = [] := by
  have hall : (constructor d docs params before input).nodes.filterMap Node.propagated? =
      (checked d input).nodes.filterMap Node.propagated? := by
    rw [Function.nodes, constructor, constructed]
    split <;>
      simp [Node.propagated?, Expr.ok, hbefore, List.filterMap_cons, -List.filterMap_eq_nil_iff]
  simp only [hall, checked, Declaration.isFallible]
  cases hd : d.hook with
  | none => simpa using hinput
  | some h =>
    cases hr : h.returns <;>
      simp [hr, HookReturn.isFallible, Node.propagated?, rejecting, rejection, typeLabel,
        Expr.ownCall, Expr.var, Expr.clone, hinput, List.filterMap_cons,
        -List.filterMap_eq_nil_iff]

end Constructor

/-! ## Scalar identifiers -/

namespace Scalar

/-- The constructor is given the property; that of a text converts it first. -/
theorem exists_new_eq : ∃ docs params before,
    new d = constructor d docs params before (.var d.scalar.name) ∧
      (before = [] ∨ before = [.bind d.scalar.name (some (valueType d))
        (.call (within (absolute ["core", "convert", "Into"]) ["into"])
          [.var d.scalar.name])]) := by
  rw [new]
  split
  · exact ⟨_, _, _, rfl, .inr rfl⟩
  · exact ⟨_, _, _, rfl, .inl rfl⟩

theorem name_new : (new d).name = "new" := by
  obtain ⟨docs, params, before, hnew, -⟩ := exists_new_eq (d := d)
  rw [hnew, constructor]

theorem earlyReturn_new : (new d).nodes.filterMap Node.earlyReturn? = [] := by
  obtain ⟨docs, params, before, hnew, rfl | rfl⟩ := exists_new_eq (d := d) <;>
    exact hnew ▸ earlyReturn_constructor rfl rfl

theorem ownCalls_new :
    (new d).ownCalls d.name = (d.hook.map fun h ↦ (h.name, 1)).toList := by
  have hinto : ownName? d.name (within (absolute ["core", "convert", "Into"]) ["into"]) = none :=
    ownName?_of_length _ (by simp [within, absolute, Code.op, Code.ofMarks])
  obtain ⟨docs, params, before, hnew, rfl | rfl⟩ := exists_new_eq (d := d)
  · exact hnew ▸ ownCalls_constructor rfl rfl
  · exact hnew ▸ ownCalls_constructor
      (by simp [Node.ownCall?, Expr.var, List.filterMap_cons, hinto]) rfl

theorem ownCallee_new :
    (new d).nodes.filterMap (Node.ownCallee? d.name) = (d.hook.map Hook.name).toList := by
  rw [filterMap_ownCallee?, ← Function.ownCalls, ownCalls_new]
  cases d.hook <;> rfl

theorem propagated_new :
    if d.isFallible then
      ∃ h args, d.hook = some h ∧
        (new d).nodes.filterMap Node.propagated? = [rejection d (.ownCall h.name args)]
    else (new d).nodes.filterMap Node.propagated? = [] := by
  obtain ⟨docs, params, before, hnew, rfl | rfl⟩ := exists_new_eq (d := d) <;>
    exact hnew ▸ propagated_constructor rfl rfl

end Scalar

/-! ## Combined identifiers -/

theorem Combined.ownCalls_new :
    (Combined.new d).ownCalls d.name = (d.hook.map fun h ↦ (h.name, 1)).toList := by
  have hnames (names : List String) :
      (Expr.nodesAll (names.map Expr.var)).filterMap (Node.ownCall? d.name) = [] := by
    induction names with
    | nil => rfl
    | cons n names ih => simpa [Expr.var, Node.ownCall?, List.filterMap_cons] using ih
  exact ownCalls_constructor rfl
    (by simpa [Node.ownCall?, List.filterMap_cons] using hnames d.names)

end Generated

end TypedIds
