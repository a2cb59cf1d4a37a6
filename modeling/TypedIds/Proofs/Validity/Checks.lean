import Mathlib.Data.List.Nodup
import TypedIds.Proofs.Grammar.Reader
import TypedIds.Validity

/-!
# What the checks of a declaration tell

The checks of a declaration stop at the first thing that is wrong.  What follows from none of them
stopping is said here, first for each check and then for all of them.
-/

set_option autoImplicit false

namespace TypedIds

namespace Validity

/-! ## The struct -/

theorem checkShape_eq_ok_iff {kind : MarkerKind} {s : Struct} :
    checkShape kind s = .ok () ↔
      s.generics.isEmpty = true ∧ s.predicates = none ∧ s.fields.isEmpty = true := by
  rw [checkShape, ← Option.isNone_iff_eq_none]
  cases s.generics.isEmpty <;> cases s.predicates <;> cases s.fields.isEmpty <;>
    simp [bind, Except.bind, pure, Except.pure, throw, throwThe, MonadExceptOf.throw]

theorem checkListed_eq_ok_iff {kind : MarkerKind} {type : String} {ps : List (Path × Span)} :
    checkListed kind type ps = .ok () ↔ ∀ p ∈ ps, p.1.last.name ∉ generatedTraits := by
  induction ps with
  | nil => simp [checkListed]
  | cons p ps ih =>
    rw [checkListed, List.forall_mem_cons, ← ih]
    split
    · next h => exact iff_of_false nofun fun hn ↦ hn.1 (List.contains_iff_mem.1 h)
    · next h => exact (and_iff_right fun hn ↦ h (List.contains_iff_mem.2 hn)).symm

/-- The check of derived traits succeeds exactly if every list of them can be read and names none of
the traits that the check knows. -/
theorem checkDerives_eq_ok_iff {kind : MarkerKind} {type : String} {as : List Attribute} :
    checkDerives kind type as = .ok () ↔
      ∀ a ∈ as, a.path.isName "derive" = true →
        ∃ ps, listedPaths a = .ok ps ∧ ∀ p ∈ ps, p.1.last.name ∉ generatedTraits := by
  induction as with
  | nil => simp [checkDerives]
  | cons a as ih =>
    rw [checkDerives, List.forall_mem_cons, ← ih]
    cases ha : a.path.isName "derive" with
    | false => exact (and_iff_right nofun).symm
    | true =>
      constructor
      · intro h
        obtain ⟨ps, hps, h⟩ := exists_of_bind_eq_ok h
        obtain ⟨⟨⟩, hlisted, h⟩ := exists_of_bind_eq_ok h
        exact ⟨fun _ ↦ ⟨ps, hps, checkListed_eq_ok_iff.1 hlisted⟩, h⟩
      · rintro ⟨hlist, h⟩
        obtain ⟨ps, hps, hfree⟩ := hlist rfl
        simpa [hps, checkListed_eq_ok_iff.2 hfree, bind, Except.bind] using h

/-! ## The components -/

theorem checkCount_eq_ok_iff {kind : MarkerKind} {m : MarkerArgs} :
    checkCount kind m = .ok () ↔
      (kind = .combined →
        leastComponents ≤ m.components.length ∧ m.components.length ≤ mostComponents) := by
  simp only [checkCount, Bool.and_eq_true, decide_eq_true_eq, Bool.not_eq_true',
    Bool.and_eq_false_iff, decide_eq_false_iff_not]
  split
  · next h =>
    refine iff_of_false nofun fun hcount ↦ ?_
    have hcount := hcount h.1
    omega
  · next h =>
    refine iff_of_true rfl fun hkind ↦ ?_
    by_contra hout
    exact h ⟨hkind, by omega⟩

theorem nameProblem?_eq_none_iff {seen : List String} {alone : Bool} {property name : String} :
    nameProblem? seen alone property name = none ↔
      name ∉ seen ∧ (alone = false → name ≠ property) ∧ name ∉ reservedMembers := by
  simp only [nameProblem?, isReserved, List.contains_iff_mem, Bool.and_eq_true, Bool.not_eq_true',
    beq_iff_eq]
  split
  · next hseen => exact iff_of_false (by simp) fun h ↦ h.1 hseen
  split
  · next hclash => exact iff_of_false (by simp) fun h ↦ h.2.1 hclash.1 hclash.2
  split
  · next hreserved => exact iff_of_false (by simp) fun h ↦ h.2.2 hreserved
  · next hseen hclash hreserved =>
    exact iff_of_true rfl ⟨hseen, fun halone hname ↦ hclash ⟨halone, hname⟩, hreserved⟩

/-- The check of component names succeeds exactly if no two components have one name and none has a
name that was seen before, that of the accessor (unless it stands alone) or a reserved one. -/
theorem checkNames_eq_ok_iff {alone : Bool} {property : String} {seen : List String}
    {cs : List Component} :
    checkNames alone property seen cs = .ok () ↔
      (cs.map Component.name).Nodup ∧ ∀ n ∈ cs.map Component.name,
        n ∉ seen ∧ (alone = false → n ≠ property) ∧ n ∉ reservedMembers := by
  induction cs generalizing seen with
  | nil => simp [checkNames]
  | cons c cs ih =>
    rw [checkNames, List.map_cons, List.nodup_cons]
    cases hc : nameProblem? seen alone property c.name with
    | some p =>
      refine iff_of_false (by simp) fun h ↦ ?_
      rw [nameProblem?_eq_none_iff.2 (h.2 c.name List.mem_cons_self)] at hc
      exact absurd hc (by simp)
    | none =>
      rw [nameProblem?_eq_none_iff] at hc
      simp only [ih]
      constructor
      · rintro ⟨hnodup, hnames⟩
        refine ⟨⟨fun hmem ↦ (hnames c.name hmem).1 List.mem_cons_self, hnodup⟩, fun n hn ↦ ?_⟩
        obtain rfl | hn := List.mem_cons.1 hn
        · exact hc
        · obtain ⟨hseen, hrest⟩ := hnames n hn
          exact ⟨fun hmem ↦ hseen (List.mem_cons_of_mem c.name hmem), hrest⟩
      · rintro ⟨⟨hfresh, hnodup⟩, hnames⟩
        refine ⟨hnodup, fun n hn ↦ ?_⟩
        obtain ⟨hseen, hrest⟩ := hnames n (List.mem_cons_of_mem c.name hn)
        refine ⟨fun hmem ↦ ?_, hrest⟩
        obtain rfl | hmem := List.mem_cons.1 hmem
        · exact hfresh hn
        · exact hseen hmem

theorem checkProperty_eq_ok_iff {o : Options} :
    checkProperty o = .ok () ↔ o.valueProperty ∉ reservedMembers := by
  rw [checkProperty, isReserved]
  split <;> simp_all

/-- A check succeeds exactly if its parts do. -/
theorem check_eq_ok_iff {kind : MarkerKind} {s : Struct} {m : MarkerArgs} :
    check kind s m = .ok () ↔
      checkShape kind s = .ok () ∧ checkDerives kind s.name s.attributes = .ok () ∧
        checkCount kind m = .ok () ∧
          checkNames (m.components.length ≤ 1) m.options.valueProperty [] m.components = .ok () ∧
            checkProperty m.options = .ok () := by
  rw [check]
  constructor
  · intro h
    obtain ⟨⟨⟩, hshape, h⟩ := exists_of_bind_eq_ok h
    obtain ⟨⟨⟩, hderives, h⟩ := exists_of_bind_eq_ok h
    obtain ⟨⟨⟩, hcount, h⟩ := exists_of_bind_eq_ok h
    obtain ⟨⟨⟩, hnames, hproperty⟩ := exists_of_bind_eq_ok h
    exact ⟨hshape, hderives, hcount, hnames, hproperty⟩
  · rintro ⟨hshape, hderives, hcount, hnames, hproperty⟩
    simp only [hshape, hderives, hcount, hnames, hproperty, bind, Except.bind]

/-- The parts of a check that succeeds have succeeded. -/
theorem check_ok {kind : MarkerKind} {s : Struct} {m : MarkerArgs}
    (h : check kind s m = .ok ()) :
    checkCount kind m = .ok () ∧
      checkNames (m.components.length ≤ 1) m.options.valueProperty [] m.components = .ok () ∧
      checkProperty m.options = .ok () :=
  (check_eq_ok_iff.1 h).2.2

/-- A combined identifier that is valid has more than one component. -/
theorem two_le_length {m : MarkerArgs} (h : checkCount .combined m = .ok ()) :
    2 ≤ m.components.length :=
  (checkCount_eq_ok_iff.1 h rfl).1

end Validity

end TypedIds
