import Mathlib.Data.Fin.SuccPred
import TypedIds.Proofs.Validity.Checks

/-!
# Which name is blamed

The check of component names goes through the components once, with the names that it has seen, and
stops at the first thing that is wrong.  Here the same is said without the names seen: a component
is misnamed if it repeats the name of an earlier one, is named like the accessor of the value though
it does not stand alone, or has a reserved name (`MarkerArgs.MisnamedAt`).

* `Validity.checkNames_eq_error_iff` — the check stops at the first component of which something is
  wrong, given the names before it.
* `MarkerArgs.ReportedAt` — what is to be reported of a misnamed component: of several reasons the
  first one.
* **`Validity.names_blame_first`**: the check fails exactly if a component is misnamed, and then it
  reports the first one.
-/

set_option autoImplicit false

namespace TypedIds

/-! ## Where the check stops -/

namespace Validity

variable {alone : Bool} {property : String} {seen : List String}

/-- What is wrong with a name, reason by reason. -/
theorem nameProblem?_eq_some_iff {name : String} {p : Problem} :
    nameProblem? seen alone property name = some p ↔
      name ∈ seen ∧ p = .duplicateComponent name name ∨
      name ∉ seen ∧ (alone = false ∧ name = property) ∧ p = .accessorClash name ∨
      name ∉ seen ∧ ¬(alone = false ∧ name = property) ∧ name ∈ reservedMembers ∧
        p = .reservedComponent name := by
  have hclash : (alone = false ∧ name = property) ↔ (!alone && name == property) = true := by simp
  rw [nameProblem?, isReserved, hclash]
  generalize (!alone && name == property) = clash
  by_cases hseen : name ∈ seen
  · simp [hseen, eq_comm]
  cases clash with
  | true => simp [hseen, eq_comm]
  | false => by_cases hreserved : name ∈ reservedMembers <;> simp [hseen, hreserved, eq_comm]

/-- What is wrong with the name of a component, given those of the earlier ones. -/
def problemAt? (alone : Bool) (property : String) (seen : List String) (cs : List Component)
    (i : Fin cs.length) : Option Problem :=
  nameProblem? (((cs.take i).map Component.name).reverse ++ seen) alone property cs[i].name

theorem problemAt?_succ (c : Component) (cs : List Component) (i : Fin cs.length) :
    problemAt? alone property seen (c :: cs) i.succ =
      problemAt? alone property (c.name :: seen) cs i := by
  simp [problemAt?]

theorem checkNames_eq_ok_iff_problemAt? {cs : List Component} :
    checkNames alone property seen cs = .ok () ↔
      ∀ i, problemAt? alone property seen cs i = none := by
  induction cs generalizing seen with
  | nil => simp [checkNames]
  | cons c cs ih =>
    have hzero : problemAt? alone property seen (c :: cs) 0 =
        nameProblem? seen alone property c.name := rfl
    rw [checkNames]
    refine Iff.trans ?_ Fin.forall_fin_succ.symm
    rw [hzero]
    cases hc : nameProblem? seen alone property c.name with
    | some p => simp
    | none => simp [problemAt?_succ, ih]

/-- The check stops at the first component of which something is wrong. -/
theorem checkNames_eq_error_iff {cs : List Component} {e : Diagnostic} :
    checkNames alone property seen cs = .error e ↔
      ∃ i p, (∀ j < i, problemAt? alone property seen cs j = none) ∧
        problemAt? alone property seen cs i = some p ∧ e = ⟨p, cs[i].span⟩ := by
  induction cs generalizing seen with
  | nil => simp [checkNames]
  | cons c cs ih =>
    have hzero : problemAt? alone property seen (c :: cs) 0 =
        nameProblem? seen alone property c.name := rfl
    have hbefore (i : Fin cs.length) :
        (∀ j < i.succ, problemAt? alone property seen (c :: cs) j = none) ↔
          nameProblem? seen alone property c.name = none ∧
            ∀ j < i, problemAt? alone property (c.name :: seen) cs j = none := by
      refine Fin.forall_fin_succ.trans (and_congr ?_ (forall_congr' fun j ↦ ?_))
      · simp [hzero]
      · rw [Fin.succ_lt_succ_iff, problemAt?_succ]
    rw [checkNames]
    refine Iff.trans ?_ (Fin.exists_fin_succ.trans (or_congr_right (exists_congr fun i ↦
      exists_congr fun p ↦ and_congr_left' (hbefore i)))).symm
    simp only [problemAt?_succ, hzero]
    cases hc : nameProblem? seen alone property c.name with
    | some p => simp [eq_comm]
    | none => simp [ih]

end Validity

/-! ## Misnamed components -/

namespace MarkerArgs

variable (m : MarkerArgs) (i : Fin m.components.length)

/-- The component has the name of an earlier one. -/
def RepeatsAt : Prop := ∃ j < i, m.components[j].name = m.components[i].name

/-- The component is one of several and has the name of the accessor. -/
def ClashesAt : Prop :=
  1 < m.components.length ∧ m.components[i].name = m.options.valueProperty

/-- The component has a reserved name. -/
def ReservedAt : Prop := m.components[i].name ∈ reservedMembers

/-- The component cannot have the name that it has. -/
def MisnamedAt : Prop := m.RepeatsAt i ∨ m.ClashesAt i ∨ m.ReservedAt i

/-- What is to be reported of a component that is misnamed: of several reasons the first one. -/
inductive ReportedAt : Problem → Prop where
  | repeated (h : m.RepeatsAt i) :
    ReportedAt (.duplicateComponent m.components[i].name m.components[i].name)
  | clash (hrepeats : ¬m.RepeatsAt i) (h : m.ClashesAt i) :
    ReportedAt (.accessorClash m.components[i].name)
  | reserved (hrepeats : ¬m.RepeatsAt i) (hclashes : ¬m.ClashesAt i) (h : m.ReservedAt i) :
    ReportedAt (.reservedComponent m.components[i].name)

/-- What the check finds wrong with the component. -/
def problemAt? : Option Problem :=
  Validity.problemAt? (m.components.length ≤ 1) m.options.valueProperty [] m.components i

variable {m i}

/-- Something is to be reported of a component exactly if it is misnamed. -/
theorem exists_reportedAt_iff : (∃ p, m.ReportedAt i p) ↔ m.MisnamedAt i := by
  constructor
  · rintro ⟨p, h | ⟨-, h⟩ | ⟨-, -, h⟩⟩
    · exact .inl h
    · exact .inr (.inl h)
    · exact .inr (.inr h)
  · intro h
    by_cases hrepeats : m.RepeatsAt i
    · exact ⟨_, .repeated hrepeats⟩
    by_cases hclashes : m.ClashesAt i
    · exact ⟨_, .clash hrepeats hclashes⟩
    · exact ⟨_, .reserved hrepeats hclashes ((h.resolve_left hrepeats).resolve_left hclashes)⟩

/-- What the check finds wrong with a component is what is to be reported of it. -/
theorem problemAt?_eq_some_iff {p : Problem} : m.problemAt? i = some p ↔ m.ReportedAt i p := by
  have hseen : m.components[i].name ∈ ((m.components.take i).map Component.name).reverse ++ [] ↔
      m.RepeatsAt i := by
    simp only [List.append_nil, List.mem_reverse, List.mem_map, List.mem_take_iff_getElem,
      RepeatsAt]
    constructor
    · rintro ⟨c, ⟨j, hj, rfl⟩, hname⟩
      exact ⟨⟨j, by omega⟩, Fin.mk_lt_of_lt_val (by omega), hname⟩
    · rintro ⟨j, hj, hname⟩
      exact ⟨m.components[j], ⟨j, by omega, rfl⟩, hname⟩
  have hclash : decide (m.components.length ≤ 1) = false ∧
      m.components[i].name = m.options.valueProperty ↔ m.ClashesAt i := by
    rw [ClashesAt, decide_eq_false_iff_not, Nat.not_le]
  rw [problemAt?, Validity.problemAt?, Validity.nameProblem?_eq_some_iff, hseen, hclash]
  constructor
  · rintro (⟨hrepeats, rfl⟩ | ⟨hrepeats, hclashes, rfl⟩ | ⟨hrepeats, hclashes, hreserved, rfl⟩)
    · exact .repeated hrepeats
    · exact .clash hrepeats hclashes
    · exact .reserved hrepeats hclashes hreserved
  · rintro (hrepeats | ⟨hrepeats, hclashes⟩ | ⟨hrepeats, hclashes, hreserved⟩)
    · exact .inl ⟨hrepeats, rfl⟩
    · exact .inr (.inl ⟨hrepeats, hclashes, rfl⟩)
    · exact .inr (.inr ⟨hrepeats, hclashes, hreserved, rfl⟩)

/-- The check finds nothing wrong with a component exactly if it is not misnamed. -/
theorem problemAt?_eq_none_iff : m.problemAt? i = none ↔ ¬m.MisnamedAt i := by
  rw [← exists_reportedAt_iff, Option.eq_none_iff_forall_ne_some, not_exists]
  exact forall_congr' fun p ↦ not_congr problemAt?_eq_some_iff

end MarkerArgs

/-- **Names are checked exactly, and the first culprit is blamed.**  The check of component names
fails if and only if a component repeats the name of an earlier one, is one of several and named
like the accessor, or has a reserved name.  The error is then about the first such component, and of
its reasons the first one is reported.  The check of the accessor fails if and only if its name is
reserved. -/
theorem Validity.names_blame_first (m : MarkerArgs) :
    let names := checkNames (m.components.length ≤ 1) m.options.valueProperty [] m.components
    ((∃ e, names = .error e) ↔ ∃ i, m.RepeatsAt i ∨ m.ClashesAt i ∨ m.ReservedAt i) ∧
      (∀ e, names = .error e ↔
        ∃ i p, (∀ j < i, ¬m.MisnamedAt j) ∧ m.ReportedAt i p ∧ e = ⟨p, m.components[i].span⟩) ∧
      ∀ e, checkProperty m.options = .error e ↔
        m.options.valueProperty ∈ reservedMembers ∧
          e = ⟨.reservedProperty m.options.valueProperty, m.options.propertySpan⟩ := by
  intro names
  have hok : names = .ok () ↔ ∀ i, ¬m.MisnamedAt i := by
    rw [checkNames_eq_ok_iff_problemAt?]
    exact forall_congr' fun i ↦ MarkerArgs.problemAt?_eq_none_iff
  refine ⟨?_, fun e ↦ ?_, fun e ↦ ?_⟩
  · calc (∃ e, names = .error e) ↔ ¬names = .ok () := by cases names <;> simp
      _ ↔ ∃ i, m.MisnamedAt i := by rw [hok, not_forall_not]
  · rw [checkNames_eq_error_iff]
    refine exists_congr fun i ↦ exists_congr fun p ↦ and_congr ?_ (and_congr_left' ?_)
    · exact forall₂_congr fun j _ ↦ MarkerArgs.problemAt?_eq_none_iff
    · exact MarkerArgs.problemAt?_eq_some_iff
  · by_cases hreserved : m.options.valueProperty ∈ reservedMembers
    · simp [checkProperty, isReserved, hreserved, eq_comm]
    · simp [checkProperty, isReserved, hreserved]

end TypedIds
