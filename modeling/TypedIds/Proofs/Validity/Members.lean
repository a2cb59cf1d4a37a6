import Mathlib.Data.List.Nodup
import TypedIds.Expansion.Struct
import TypedIds.Proofs.Marker.Property
import TypedIds.Proofs.Validity.Checks

/-!
# The names of generated members

An identifier has functions of its own: the constructor, the unspecified value and the test for it,
an accessor for each component and for the value, and, if it wraps a tuple, one that takes it apart.
Checking a declaration is there to keep their names apart, and a raw name is where it does not: the
check compares names as they are written, and `new` and `r#new` are written differently but are one
name.

`Declaration.namesApart_iff` says what is to be shown of the components for all names to be apart.
The checks show it of all names as they are written, so a raw name is the only way for a valid
declaration to have two members of one name.
-/

set_option autoImplicit false

namespace TypedIds

/-! ## Raw names -/

/-- The name that a word spells: the word without the raw mark. -/
def unraw (word : String) : String :=
  if isRaw word then String.ofList (word.toList.drop 2) else word

theorem unraw_of_not_raw {word : String} (h : isRaw word = false) : unraw word = word := by
  simp [unraw, h]

/-- Two raw words spell one name only if they are the same. -/
theorem eq_of_unraw_eq {v w : String} (hv : isRaw v = true) (hw : isRaw w = true)
    (h : unraw v = unraw w) : v = w := by
  obtain ⟨vs, hvs⟩ := isRaw_iff.1 hv
  obtain ⟨ws, hws⟩ := isRaw_iff.1 hw
  rw [unraw, unraw, if_pos hv, if_pos hw, hvs, hws] at h
  obtain rfl : vs = ws := by simpa using congrArg String.toList h
  exact String.toList_injective (hvs.trans hws.symm)

/-- Different words spell different names unless one is raw and spells another one. -/
theorem nodup_map_unraw_iff {ws : List String} (hws : ws.Nodup) :
    (ws.map unraw).Nodup ↔
      ∀ w ∈ ws, isRaw w = true → ∀ v ∈ ws, isRaw v = false → unraw w ≠ v := by
  rw [List.nodup_map_iff_inj_on hws]
  constructor
  · intro hinj w hw hraw v hv hplain heq
    rw [← unraw_of_not_raw hplain] at heq
    obtain rfl := hinj w hw v hv heq
    rw [hraw] at hplain
    exact Bool.noConfusion hplain
  · intro hspell v hv w hw heq
    cases hvr : isRaw v with
    | true =>
      cases hwr : isRaw w with
      | true => exact eq_of_unraw_eq hvr hwr heq
      | false => exact absurd (heq.trans (unraw_of_not_raw hwr)) (hspell v hv hvr w hw hwr)
    | false =>
      cases hwr : isRaw w with
      | true => exact absurd (heq.symm.trans (unraw_of_not_raw hvr)) (hspell w hw hwr v hv hvr)
      | false => rwa [unraw_of_not_raw hvr, unraw_of_not_raw hwr] at heq

/-! ## Own members -/

namespace Generated

/-- The functions that an item gives to the type as its own, not as those of a trait. -/
def Item.ownFunctions : Item → List Function
  | .implementation i =>
    if i.trait.isNone then i.members.filterMap fun | .function f => some f | _ => none else []
  | _ => []

/-- The functions that items give to the type as its own. -/
def ownFunctions (is : List Item) : List Function := is.flatMap Item.ownFunctions

theorem Item.ownFunctions_inherent (target : Code) (fs : List Function) :
    Item.ownFunctions (.implementation ⟨none, none, target, fs.map .function⟩) = fs := by
  simp [Item.ownFunctions, List.filterMap_map]

/-- An implementation of a trait gives the type no functions of its own. -/
theorem Item.ownFunctions_of_trait {i : Implementation} (h : i.trait.isSome = true) :
    Item.ownFunctions (.implementation i) = [] := by
  simp [Item.ownFunctions, Option.isNone_eq_false_iff.2 h]

theorem Scalar.isSome_trait (d : Declaration) :
    ∀ i ∈ Scalar.conversions d ++ Scalar.formats d, i.trait.isSome = true := by
  have hvalue : (Scalar.fromValue d).trait.isSome = true := by
    rw [Scalar.fromValue]
    split <;> rfl
  have htext : (Scalar.fromText d).trait.isSome = true := by
    rw [Scalar.fromText]
    split <;> rfl
  intro i hi
  simp only [Scalar.conversions, Scalar.formats, List.mem_append, List.mem_cons, List.not_mem_nil,
    or_false] at hi
  obtain (((rfl | hi) | rfl | rfl) | hi) | (rfl | rfl) | hi := hi
  · exact hvalue
  · split at hi
    · obtain rfl := List.mem_singleton.1 hi
      exact htext
    · simp at hi
  · rfl
  · rfl
  · split at hi
    · obtain rfl := List.mem_singleton.1 hi
      rfl
    · simp at hi
  · rfl
  · rfl
  · split at hi
    · obtain rfl | hi := List.mem_cons.1 hi
      · rfl
      · obtain rfl := List.mem_singleton.1 hi
        rfl
    · simp at hi

end Generated

namespace Declaration

/-- The functions that the identifier has as its own. -/
def ownMembers (d : Declaration) : List Generated.Function :=
  if d.kind.isScalar then Generated.Scalar.members d else Generated.Combined.members d

/-- The names of the functions that the identifier has as its own. -/
def memberNames (d : Declaration) : List String := d.ownMembers.map Generated.Function.name

/-- The own functions are all that generated code gives to the identifier outside of traits. -/
theorem ownFunctions_items {d : Declaration} {is : List Generated.Item} (h : d.items = .ok is) :
    Generated.ownFunctions is = d.ownMembers := by
  rw [items] at h
  rw [ownMembers]
  split at h
  · next hscalar =>
    rw [if_pos hscalar]
    cases hc : converterName d.name with
    | error n => simp [hc, Except.map] at h
    | ok converter =>
      obtain rfl : Generated.Scalar.items d converter = is := by simpa [hc, Except.map] using h
      have htraits : ((Generated.Scalar.conversions d ++ Generated.Scalar.formats d).map
          Generated.Item.implementation).flatMap Generated.Item.ownFunctions = [] := by
        rw [List.flatMap_map, List.flatMap_eq_nil_iff]
        intro i hi
        exact Generated.Item.ownFunctions_of_trait (Generated.Scalar.isSome_trait d i hi)
      rw [Generated.Scalar.items, Generated.ownFunctions]
      simp only [List.flatMap_append, List.flatMap_cons, htraits,
        Generated.Item.ownFunctions_inherent]
      simp [Generated.coreTraits, Generated.Item.ownFunctions, Generated.defaultTrait,
        Generated.identifierTrait, Generated.Scalar.scalarTrait, Generated.Scalar.fromStr,
        Generated.Scalar.converterMembers]
  · next hcombined =>
    rw [if_neg hcombined]
    obtain rfl := Except.ok.inj h
    rw [Generated.Combined.items, Generated.ownFunctions]
    simp only [List.flatMap_append, List.flatMap_cons, Generated.Item.ownFunctions_inherent]
    simp [Generated.coreTraits, Generated.Item.ownFunctions, Generated.defaultTrait,
      Generated.identifierTrait, Generated.toValue, Generated.Combined.displayFormat,
      Generated.Combined.debugFormat, Generated.formatting, Generated.demands]

theorem memberNames_scalar {d : Declaration} (h : d.kind.isScalar = true) :
    d.memberNames = ["new", "unspecified", "is_unspecified", d.scalar.name] := by
  simp only [memberNames, ownMembers, h, if_true, Generated.Scalar.members, List.map_cons,
    List.map_nil, Generated.unspecified, Generated.isUnspecified, Generated.accessor]
  congr 1
  rw [Generated.Scalar.new]
  cases d.kind <;> rfl

theorem memberNames_combined {d : Declaration} (h : d.kind.isScalar = false) :
    d.memberNames = ["new", "unspecified", "is_unspecified"] ++ d.names ++
      [d.options.valueProperty, "into_parts"] := by
  have haccessors : (Generated.Combined.partAccessors d).map Generated.Function.name = d.names := by
    rw [Generated.Combined.partAccessors, List.map_map, names]
    conv_rhs => rw [← List.zipIdx_map_fst 0 d.components, List.map_map]
    rfl
  simp only [memberNames, ownMembers, h, Bool.false_eq_true, if_false, Generated.Combined.members,
    List.map_append, haccessors]
  rfl

end Declaration

/-! ## Names apart -/

namespace Declaration

/-- A raw name of which the spelled name is that of something else in the identifier. -/
def Respelled (d : Declaration) (name : String) : Prop :=
  isRaw name = true ∧
    (unraw name ∈ reservedMembers ∨ unraw name = d.options.valueProperty ∨
      ∃ other ∈ d.names, isRaw other = false ∧ unraw name = other)

/-- The members have different names, and no accessor has that of the hook. -/
def NamesApart (d : Declaration) : Prop :=
  (d.memberNames.map unraw).Nodup ∧
    "check_value" ∉ (d.options.valueProperty :: d.names).map unraw

instance (d : Declaration) : Decidable d.NamesApart := inferInstanceAs (Decidable (_ ∧ _))

instance (d : Declaration) (name : String) : Decidable (d.Respelled name) :=
  inferInstanceAs (Decidable (_ ∧ _))

/-- Names of accessors are apart from one another and from those that every identifier has. -/
theorem nodup_members_iff {names : List String} {property : String}
    (hproperty : property ∉ reservedMembers) :
    (["new", "unspecified", "is_unspecified"] ++ names ++ [property, "into_parts"]).Nodup ∧
        "check_value" ∉ property :: names ↔
      names.Nodup ∧ ∀ n ∈ names, n ∉ reservedMembers ∧ n ≠ property := by
  simp only [reservedMembers, List.nodup_append, List.nodup_cons, List.mem_cons, List.mem_append,
    List.not_mem_nil, List.nodup_nil, List.cons_append, List.nil_append] at hproperty ⊢
  grind

/-- If the names are apart as they are written, they are apart as names exactly if no raw name
spells the name of something else. -/
theorem namesApart_iff {d : Declaration} (hkind : d.kind.isScalar = false)
    (hplain : isRaw d.options.valueProperty = false)
    (hproperty : d.options.valueProperty ∉ reservedMembers) (hnodup : d.names.Nodup)
    (hnames : ∀ n ∈ d.names, n ∉ reservedMembers ∧ n ≠ d.options.valueProperty) :
    d.NamesApart ↔ ∀ n ∈ d.names, ¬d.Respelled n := by
  have hmembers : d.memberNames.map unraw = ["new", "unspecified", "is_unspecified"] ++
      d.names.map unraw ++ [d.options.valueProperty, "into_parts"] := by
    rw [memberNames_combined hkind]
    simp only [List.map_append, List.map_cons, List.map_nil, unraw_of_not_raw hplain]
    rfl
  rw [NamesApart, hmembers, List.map_cons, unraw_of_not_raw hplain, nodup_members_iff hproperty,
    nodup_map_unraw_iff hnodup]
  constructor
  · rintro ⟨hspell, hfree⟩ n hn ⟨hraw, hres | hprop | ⟨other, hother, hotherPlain, heq⟩⟩
    · exact (hfree (unraw n) (List.mem_map_of_mem hn)).1 hres
    · exact (hfree (unraw n) (List.mem_map_of_mem hn)).2 hprop
    · exact hspell n hn hraw other hother hotherPlain heq
  · intro hspell
    refine ⟨fun n hn hraw other hother hotherPlain heq ↦
      hspell n hn ⟨hraw, .inr (.inr ⟨other, hother, hotherPlain, heq⟩)⟩, fun name hname ↦ ?_⟩
    obtain ⟨n, hn, rfl⟩ := List.mem_map.1 hname
    cases hraw : isRaw n with
    | true =>
      exact ⟨fun hres ↦ hspell n hn ⟨hraw, .inl hres⟩,
        fun hprop ↦ hspell n hn ⟨hraw, .inr (.inl hprop)⟩⟩
    | false =>
      rw [unraw_of_not_raw hraw]
      exact hnames n hn

/-- A scalar identifier has the names that every identifier has and that of its accessor. -/
theorem namesApart_scalar {d : Declaration} (hkind : d.kind.isScalar = true)
    (hplain : isRaw d.options.valueProperty = false)
    (hproperty : d.options.valueProperty ∉ reservedMembers)
    (hcomponents : d.components = [scalarComponent d.kind d.options]) : d.NamesApart := by
  have hname : d.scalar.name = d.options.valueProperty := by
    rw [scalar, hcomponents]
    rfl
  have hnames : d.names = [d.options.valueProperty] := by
    rw [names, hcomponents]
    rfl
  have hmembers : d.memberNames.map unraw =
      ["new", "unspecified", "is_unspecified", d.options.valueProperty] := by
    rw [memberNames_scalar hkind, hname]
    simp only [List.map_cons, List.map_nil, unraw_of_not_raw hplain]
    rfl
  rw [NamesApart, hmembers, hnames]
  simp only [reservedMembers, List.mem_cons, List.not_mem_nil, or_false, not_or] at hproperty
  obtain ⟨hnew, hunspecified, htest, -, hcheck⟩ := hproperty
  refine ⟨?_, ?_⟩
  · simp [Ne.symm hnew, Ne.symm hunspecified, Ne.symm htest]
  · simpa [unraw_of_not_raw hplain] using Ne.symm hcheck

end Declaration

/-- **Two members of a valid declaration have one name only through a raw name.**  The members are
all the functions that generated code gives to the identifier outside of traits.  Their names are
apart, and none is that of the hook, exactly if no component has a raw name that spells the name of
a generated member, of the accessor of the value or of another component. -/
theorem Validity.namesApart_iff_not_respelled {kind : MarkerKind} {args : List Tree} {span : Span}
    {m : MarkerArgs} {s : Struct} (hread : MarkerArgs.read kind args span = .ok m)
    (hcheck : Validity.check kind s m = .ok ()) (hook : Option Hook)
    (defaults : List ComponentDefault) :
    let d : Declaration := ⟨kind, s, m.components, m.options, hook, defaults⟩
    (∀ is, d.items = .ok is → Generated.ownFunctions is = d.ownMembers) ∧
      (d.NamesApart ↔ ∀ n ∈ d.names, ¬d.Respelled n) := by
  intro d
  refine ⟨fun is ↦ Declaration.ownFunctions_items, ?_⟩
  obtain ⟨hcount, hnames, hproperty⟩ := Validity.check_ok hcheck
  rw [Validity.checkNames_eq_ok_iff] at hnames
  rw [Validity.checkProperty_eq_ok_iff] at hproperty
  have hplain : isRaw m.options.valueProperty = false := MarkerArgs.isRaw_valueProperty hread
  cases hkind : kind.isScalar with
  | true =>
    obtain ⟨e, -, hoptions, hcomponents⟩ := MarkerArgs.read_ok hread
    rw [if_pos hkind, ← hoptions] at hcomponents
    refine iff_of_true (Declaration.namesApart_scalar hkind hplain hproperty hcomponents) ?_
    intro n hn hrespelled
    obtain rfl : n = m.options.valueProperty := by
      simpa [d, Declaration.names, hcomponents, scalarComponent] using hn
    rw [hrespelled.1] at hplain
    exact Bool.noConfusion hplain
  | false =>
    obtain rfl : kind = .combined := by cases kind <;> simp_all [MarkerKind.isScalar]
    have hlength := Validity.two_le_length hcount
    refine Declaration.namesApart_iff hkind hplain hproperty hnames.1 fun n hn ↦ ?_
    obtain ⟨-, hprop, hres⟩ := hnames.2 n hn
    exact ⟨hres, hprop (by simp; omega)⟩

/-- A raw name that spells no other name is no trouble. -/
theorem Validity.namesApart_raw_keyword :
    ∃ args m s,
      Tree.read "r#type: u8, b: u8" = .ok args ∧ MarkerArgs.read .combined args .nowhere = .ok m ∧
        Validity.check .combined s m = .ok () ∧
          Declaration.NamesApart ⟨.combined, s, m.components, m.options, none, []⟩ := by
  have h : ((Tree.read "r#type: u8, b: u8").toOption.any fun args ↦
      match MarkerArgs.read .combined args .nowhere with
      | .ok m =>
        let d : Declaration := ⟨.combined, default, m.components, m.options, none, []⟩
        (Validity.check .combined default m).isOk && decide (∀ n ∈ d.names, ¬d.Respelled n)
      | .error _ => false) = true := by
    decide +kernel
  cases hargs : Tree.read "r#type: u8, b: u8" with
  | error p =>
    rw [hargs] at h
    cases h
  | ok args =>
    rw [hargs] at h
    dsimp only [Except.toOption, Option.any_some] at h
    split at h
    next m hm =>
      obtain ⟨hcheck, hnames⟩ := Bool.and_eq_true_iff.1 h
      have hvalid : Validity.check .combined default m = .ok () := by
        cases hc : Validity.check .combined default m with
        | error d =>
          rw [hc] at hcheck
          cases hcheck
        | ok _ => rfl
      exact ⟨args, m, default, rfl, hm, hvalid,
        (Validity.namesApart_iff_not_respelled hm hvalid none []).2.2 (of_decide_eq_true hnames)⟩
    next => cases h

/-- A component with the raw name `r#new` is valid, and its accessor has the name of the
constructor. -/
theorem Validity.not_namesApart_raw_new :
    ((Tree.read "r#new: u8, b: u8").toOption.bind fun args ↦
      (Tree.read "struct Key;").toOption.bind fun trees ↦
        (Grammar.item.run .nowhere trees).toOption.bind fun item ↦
          (markedItem .combined args item .nowhere).toOption.bind fun r ↦
            r.toOption.map fun d ↦ decide d.NamesApart) = some false := by
  decide +kernel

end TypedIds
