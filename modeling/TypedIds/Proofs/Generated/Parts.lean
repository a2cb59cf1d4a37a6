import TypedIds.Proofs.Declaration.Accepted
import TypedIds.Proofs.Generated.Constructor
import TypedIds.Proofs.Validity.Members

/-!
# Parts of generated code

What is said of generated code is mostly that something stands in it once, or nowhere else, however
deep it lies in the bodies of functions.

* `found` — what a query finds in some items, with the site of each: the implementation and the
  member.
* `IsOwn` — a function is the only one of a name that the identifier has as its own.  Of an accepted
  declaration, every own member is (`Declaration.Accepted.isOwn`).
-/

set_option autoImplicit false

namespace TypedIds

namespace Generated

/-! ## Sites -/

/-- Where the body of a member stands. -/
structure Site where
  /-- The type that has the member. -/
  target : Code
  /-- The trait that the member belongs to, if it is not the type's own. -/
  trait : Option Trait
  member : String

/-- The nodes of a member of an implementation, each with its site. -/
def Member.sited (i : Implementation) : Member → List (Site × Node)
  | .function f => f.nodes.map (⟨i.target, i.trait, f.name⟩, ·)
  | .typeAlias _ _ => []
  | .constant name _ value => value.nodes.map (⟨i.target, i.trait, name⟩, ·)

/-- The nodes of an item, each with its site. -/
def Item.sited : Item → List (Site × Node)
  | .implementation i => i.members.flatMap (Member.sited i)
  | _ => []

section

variable {α : Type} (q : Node → Option α)

/-- What a query finds among nodes, with the site of each. -/
def foundAmong (ns : List (Site × Node)) : List (Site × α) :=
  ns.filterMap fun p ↦ (q p.2).map (p.1, ·)

/-- What a query finds in items, in source order, with the site of each. -/
def found (is : List Item) : List (Site × α) := foundAmong q (is.flatMap Item.sited)

@[simp] theorem foundAmong_append (ns ms : List (Site × Node)) :
    foundAmong q (ns ++ ms) = foundAmong q ns ++ foundAmong q ms := List.filterMap_append

@[simp] theorem found_append (is js : List Item) :
    found q (is ++ js) = found q is ++ found q js := by
  simp [found]

/-- What is found in a body. -/
theorem foundAmong_map (site : Site) (ns : List Node) :
    foundAmong q (ns.map (site, ·)) = (ns.filterMap q).map (site, ·) := by
  simp [foundAmong, List.filterMap_map, List.map_filterMap]

end

/-! ## Queries -/

/-- The conversion that an item is, an implementation of `From` or `TryFrom`, with the type that has
it. -/
def Item.conversion? : Item → Option (Code × Trait)
  | .implementation i =>
    (i.trait.filter fun t ↦ t.name == "From" || t.name == "TryFrom").map (i.target, ·)
  | _ => none

/-! ## Forms of expressions -/

/-- What is run when the unspecified identifier is asked for the first time, given what it is made
of: it is kept for later. -/
def once (init : Expr) : Expr := .method (.var "UNSPECIFIED") "get_or_init" [.closure [] init]

/-! ## Own functions -/

/-- A function is the only one of this name that items give to the type as its own. -/
def IsOwn (is : List Item) (name : String) (f : Function) : Prop :=
  (ownFunctions is).filter (·.name == name) = [f]

end Generated

namespace Declaration

variable {x : Index} {s : Struct} {d : Declaration} {is : List Generated.Item}

/-- The own members of an accepted declaration have different names. -/
theorem Accepted.nodup_memberNames (h : Accepted x s d) : d.memberNames.Nodup := by
  obtain ⟨span, hcheck⟩ := h.exists_check
  obtain ⟨hcount, hnames, hproperty⟩ := Validity.check_ok hcheck
  rw [Validity.checkNames_eq_ok_iff] at hnames
  rw [Validity.checkProperty_eq_ok_iff] at hproperty
  cases hkind : d.kind.isScalar with
  | true =>
    have hname : d.scalar.name = d.options.valueProperty := by
      rw [scalar, h.components_eq hkind]
      rfl
    rw [memberNames_scalar hkind, hname]
    simp only [reservedMembers, List.mem_cons, List.not_mem_nil, or_false, not_or] at hproperty
    simp [Ne.symm hproperty.1, Ne.symm hproperty.2.1, Ne.symm hproperty.2.2.1]
  | false =>
    have hcombined : d.kind = .combined := by
      cases hk : d.kind <;> simp_all [MarkerKind.isScalar]
    rw [hcombined] at hcount
    have hlength : 2 ≤ d.components.length := Validity.two_le_length hcount
    rw [memberNames_combined hkind]
    refine ((nodup_members_iff hproperty).mpr ⟨hnames.1, fun n hn ↦ ?_⟩).1
    obtain ⟨-, hprop, hres⟩ := hnames.2 n hn
    exact ⟨hres, hprop (by simp; omega)⟩

/-- Every own member of an accepted declaration is the only one of its name. -/
theorem Accepted.isOwn (h : Accepted x s d) (hi : d.items = .ok is) {f : Generated.Function}
    (hf : f ∈ d.ownMembers) : Generated.IsOwn is f.name f := by
  have hnodup := h.nodup_memberNames
  rw [Generated.IsOwn, ownFunctions_items hi]
  rw [memberNames] at hnodup
  obtain ⟨front, back, hmembers⟩ := List.append_of_mem hf
  rw [hmembers, List.map_append, List.map_cons, List.nodup_middle, List.nodup_cons,
    ← List.map_append] at hnodup
  have hothers : ∀ g ∈ front ++ back, (g.name == f.name) = false := fun g hg ↦
    beq_eq_false_iff_ne.mpr fun heq ↦ hnodup.1 (heq ▸ List.mem_map_of_mem hg)
  have hfront : front.filter (·.name == f.name) = [] :=
    List.filter_eq_nil_iff.mpr fun g hg ↦ by simp [hothers g (List.mem_append_left back hg)]
  have hback : back.filter (·.name == f.name) = [] :=
    List.filter_eq_nil_iff.mpr fun g hg ↦ by simp [hothers g (List.mem_append_right front hg)]
  rw [hmembers, List.filter_append, List.filter_cons, hfront, hback]
  simp

end Declaration

end TypedIds
