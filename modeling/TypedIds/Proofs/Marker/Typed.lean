import TypedIds.Proofs.Grammar.ChildPath
import TypedIds.Proofs.Marker.Property

/-!
# The type of a UUID

A UUID has the type that is called `Uuid` where the library is.  It is read from the trees that the
path of the library was read from, with `::Uuid` after them, and a path may begin with a word with
which no type begins.  Then nothing is reported, and all of the expansion stops.

* `Path.Serves` — the type can be read if the library is at this path, and so `MarkerArgs.IsTyped`.
  That is always so for the other kinds, and for a path of usual names (`Path.IsUsual.serves`).
* `MarkerArgs.typed_eq` — why asking for the first name of the path is enough.
* `MarkerArgs.parse_eq_ok_iff`, `MarkerArgs.parse_eq_report_iff`, `MarkerArgs.parse_eq_error_iff` —
  what becomes of the arguments of a marker, told by what is read and by the type.
-/

set_option autoImplicit false

namespace TypedIds

/-- A library at this path has types for the values of identifiers of this kind: those of UUIDs
begin with the path. -/
def Path.Serves (kind : MarkerKind) (p : Path) : Prop := kind = .guid → p.beginsType = true

instance (kind : MarkerKind) (p : Path) : Decidable (p.Serves kind) :=
  inferInstanceAs (Decidable (_ → _))

theorem Path.IsUsual.serves {p : Path} (h : p.IsUsual) (kind : MarkerKind) : p.Serves kind :=
  fun _ ↦ h.beginsType

namespace MarkerArgs

variable {kind : MarkerKind} {args : List Tree} {span : Span} {m : MarkerArgs}

/-- The type of the wrapped value can be read. -/
def IsTyped (kind : MarkerKind) (m : MarkerArgs) : Prop := m.options.crate.Serves kind

instance : Decidable (m.IsTyped kind) := inferInstanceAs (Decidable (Path.Serves _ _))

theorem typed_of_isTyped (h : m.IsTyped kind) : m.typed kind = .ok m := by
  rw [typed, if_neg]
  simp only [Bool.and_eq_true, decide_eq_true_eq, Bool.not_eq_true', not_and,
    Bool.not_eq_false]
  exact h

theorem typed_of_not_isTyped (h : ¬m.IsTyped kind) :
    m.typed kind = .error (.type (.wanted Grammar.typeStarts false)) := by
  obtain ⟨hk, hcrate⟩ := Classical.not_imp.mp h
  rw [typed, if_pos]
  simp [hk, hcrate]

/-- **What is asked of the path is whether the type can be read.**  Whatever trees the path was read
from, they are read with `::Uuid` after them, and as the type of the only component. -/
theorem typed_eq {scope : Span} {ts : List Tree}
    (h : Grammar.path.run scope ts = .ok m.options.crate) (place : Span) :
    ((Grammar.nested.typeOf true).run scope (ts ++ childTrees "Uuid" place)).mapError
        (NotAName.type ·.problem) =
      (m.typed .guid).map fun m ↦ (scalarComponent .guid m.options).ty := by
  have hname : isName "Uuid" = true := by decide
  cases hcrate : m.options.crate.beginsType with
  | true =>
    have hread : (Grammar.nested.typeOf true).run scope (ts ++ childTrees "Uuid" place) = .ok _ :=
      Grammar.Nested.typeOf_childTrees h hcrate hname true place
    rw [hread, typed_of_isTyped fun _ ↦ hcrate]
    rfl
  | false =>
    obtain ⟨place', hread⟩ := Grammar.Nested.typeOf_childTrees_eq_error h hcrate hname true place
    have hread : (Grammar.nested.typeOf true).run scope (ts ++ childTrees "Uuid" place) =
      .error _ := hread
    have hnot : ¬m.IsTyped .guid := fun hm ↦ Bool.false_ne_true (hcrate.symm.trans (hm rfl))
    rw [hread, typed_of_not_isTyped hnot]
    rfl

/-! ## What becomes of the arguments -/

theorem parse_eq_ok_iff :
    parse kind args span = .ok (.ok m) ↔ read kind args span = .ok m ∧ m.IsTyped kind := by
  rw [parse]
  cases read kind args span with
  | error d => simp
  | ok m' =>
    by_cases h : m'.IsTyped kind
    · simp only [typed_of_isTyped h, Except.map, Except.ok.injEq]
      exact ⟨fun hm ↦ ⟨hm, hm ▸ h⟩, And.left⟩
    · simp only [typed_of_not_isTyped h, Except.map, Except.ok.injEq, reduceCtorEq, false_iff]
      rintro ⟨rfl, hm⟩
      exact h hm

theorem parse_eq_report_iff {d : Diagnostic} :
    parse kind args span = .ok (.error d) ↔ read kind args span = .error d := by
  rw [parse]
  cases read kind args span with
  | error d' => simp
  | ok m =>
    dsimp only
    cases m.typed kind <;> simp [Except.map]

theorem parse_eq_error_iff {n : NotAName} :
    parse kind args span = .error n ↔
      ∃ m, read kind args span = .ok m ∧ ¬m.IsTyped kind ∧
        n = .type (.wanted Grammar.typeStarts false) := by
  rw [parse]
  cases read kind args span with
  | error d => simp
  | ok m =>
    simp only [Except.ok.injEq, exists_eq_left']
    by_cases h : m.IsTyped kind
    · simp [typed_of_isTyped h, Except.map, h]
    · simp [typed_of_not_isTyped h, Except.map, h, eq_comm]

end MarkerArgs

end TypedIds
