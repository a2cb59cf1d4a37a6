import TypedIds.Naming
import TypedIds.Proofs.Token.Word

/-!
# Keys of units

The key of a unit is the path, the name and the kind written one after the other, and no mark in it
is escaped: a name may have an underscore, and may itself end like a key, as `Order_GuidId` does.
Still the key tells all three (`unitKey_inj`).  The kind is read off the end, since no ending of a
kind is the ending of another one.  What is left are names with dots between them, and no identifier
has a dot.
-/

set_option autoImplicit false

namespace TypedIds

/-- A text is one identifier, which may be raw. -/
def IsIdentifier (w : String) : Prop := Lexer.anyWord? w.toList = some []

instance (w : String) : Decidable (IsIdentifier w) := inferInstanceAs (Decidable (_ = some []))

theorem IsIdentifier.dot_not_mem {w : String} (h : IsIdentifier w) : '.' ∉ w.toList := by
  have hplain {cs : List Char} (hcs : Lexer.plainWord? cs = some []) : '.' ∉ cs :=
    Lexer.not_mem_of_plainWord? hcs (by decide) (by decide)
  rw [IsIdentifier, Lexer.anyWord?.eq_def] at h
  split at h
  next rest hw =>
    split at h
    next after hrest =>
      split at h
      · cases h
      · rw [hw]
        simpa using hplain (hrest.trans h)
    next => cases h
  next => exact hplain h

/-! ## The kind -/

/-- How a key ends, with the mark before it. -/
def MarkerKind.ending (kind : MarkerKind) : List Char := '_' :: kind.unitSuffix.toList

/-- No kind ends like another one. -/
theorem MarkerKind.eq_of_ending_suffix {kind kind' : MarkerKind} (h : kind.ending <:+ kind'.ending) :
    kind = kind' := by
  revert h
  cases kind <;> cases kind' <;> decide

/-- A text that ends like a key does so in one way. -/
theorem MarkerKind.append_ending_inj {cs cs' : List Char} {kind kind' : MarkerKind}
    (h : cs ++ kind.ending = cs' ++ kind'.ending) : cs = cs' ∧ kind = kind' := by
  have hkind : kind = kind' := by
    have hsuffix : kind'.ending <:+ cs ++ kind.ending := h ▸ List.suffix_append _ _
    rcases List.suffix_or_suffix_of_suffix (List.suffix_append cs kind.ending) hsuffix with h | h
    · exact eq_of_ending_suffix h
    · exact (eq_of_ending_suffix h).symm
  subst hkind
  exact ⟨List.append_cancel_right h, rfl⟩

/-! ## The path and the name -/

/-- The names around a unit and its own, with dots between them. -/
def dotted (path : List String) (name : String) : List Char :=
  ['.'].intercalate ((path ++ [name]).map String.toList)

theorem dotted_eq (path : List String) (name : String) :
    dotted path name = path.flatMap (fun m ↦ m.toList ++ ['.']) ++ name.toList := by
  induction path with
  | nil => rw [dotted, List.nil_append, List.map_singleton, List.intercalate_singleton]; rfl
  | cons m path ih =>
    obtain ⟨n, rest, hrest⟩ := List.exists_cons_of_ne_nil
      (List.append_ne_nil_of_right_ne_nil path (List.cons_ne_nil name []))
    rw [dotted, hrest, List.map_cons] at ih
    rw [dotted, List.cons_append, hrest, List.map_cons, List.map_cons,
      List.intercalate_cons_cons, ih, List.flatMap_cons, List.append_assoc _ _ name.toList]

theorem toList_unitKey (path : List String) (name : String) (kind : MarkerKind) :
    (unitKey path name kind).toList = dotted path name ++ kind.ending := by
  rw [dotted_eq, MarkerKind.ending, unitKey]
  simp [List.flatMap_map]

/-- Names with dots between them are read off at the dots. -/
theorem splitOn_dotted {path : List String} {name : String} (hpath : ∀ m ∈ path, IsIdentifier m)
    (hname : IsIdentifier name) :
    (dotted path name).splitOn '.' = (path ++ [name]).map String.toList := by
  refine List.splitOn_intercalate '.' (List.forall_mem_map.2 ?_) (by simp)
  exact List.forall_mem_append.2
    ⟨fun m hm ↦ (hpath m hm).dot_not_mem, List.forall_mem_singleton.2 hname.dot_not_mem⟩

/-- **Keys of units tell the path, the name and the kind**, although a name may end like a key. -/
theorem unitKey_inj {path path' : List String} {name name' : String} {kind kind' : MarkerKind}
    (hpath : ∀ m ∈ path, IsIdentifier m) (hname : IsIdentifier name)
    (hpath' : ∀ m ∈ path', IsIdentifier m) (hname' : IsIdentifier name') :
    unitKey path name kind = unitKey path' name' kind' ↔
      path = path' ∧ name = name' ∧ kind = kind' := by
  constructor
  · intro h
    have hkey := congrArg String.toList h
    rw [toList_unitKey, toList_unitKey] at hkey
    obtain ⟨hdotted, hkind⟩ := MarkerKind.append_ending_inj hkey
    have hnames : (path ++ [name]).map String.toList = (path' ++ [name']).map String.toList := by
      rw [← splitOn_dotted hpath hname, hdotted, splitOn_dotted hpath' hname']
    obtain ⟨hpaths, hlast⟩ :=
      List.append_inj' ((List.map_inj_right fun _ _ ↦ String.toList_inj.1).1 hnames) rfl
    exact ⟨hpaths, List.singleton_inj.1 hlast, hkind⟩
  · rintro ⟨rfl, rfl, rfl⟩
    rfl

/-- A name that ends like a key. -/
example : unitKey ["shop"] "Order_GuidId" .string = "shop.Order_GuidId_StringId" := by decide

end TypedIds
