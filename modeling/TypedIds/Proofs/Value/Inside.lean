import TypedIds.Proofs.Identifier.Verdict
import TypedIds.Session

/-!
# Identifiers inside of values

A value may hold identifiers: in the fields of a tuple, in an option, or in the value of an
identifier.  `ValueType.Each` says that every one of them has a property, which may look at the type
of the identifier, at the type of the value that it wraps and at that value.

No identifier is made from data, so a value that is read from data has every property of this sort.
Identifiers get into a value from the slots of a session, or from the unspecified value of a
component.
-/

set_option autoImplicit false

namespace TypedIds

variable {Key : Type} {Q : (k : Key) → (t : ValueType Key) → t.Val → Prop}

mutual

/-- Every identifier inside of a value has a property. -/
def ValueType.Each (Q : (k : Key) → (t : ValueType Key) → t.Val → Prop) :
    (t : ValueType Key) → t.Val → Prop
  | .uuid, _ | .text, _ | .char, _ | .truth, _ | .number _ _, _ | .custom _, _ => True
  | .option _, none => True
  | .option t, some a => t.Each Q a
  | .identifier k t, a => Q k t a.value ∧ t.Each Q a.value
  | .tuple fs, a => fs.Each Q a

/-- Every identifier inside of the values of fields has a property. -/
def FieldTypes.Each (Q : (k : Key) → (t : ValueType Key) → t.Val → Prop) :
    (fs : FieldTypes Key) → fs.Val → Prop
  | .nil, _ => True
  | .cons _ t fs, a => t.Each Q a.1 ∧ fs.Each Q a.2

end

theorem ValueType.each_uuid (u : Uuid) : (ValueType.uuid : ValueType Key).Each Q u := by
  rw [ValueType.Each]
  trivial

theorem ValueType.each_text (s : String) : (ValueType.text : ValueType Key).Each Q s := by
  rw [ValueType.Each]
  trivial

mutual

/-- A value that is read from data holds no identifiers. -/
theorem ValueType.each_of_ofData? :
    (t : ValueType Key) → {d : Data} → {a : t.Val} → t.ofData? d = some a → t.Each Q a
  | .uuid, _, _, _ | .text, _, _, _ | .char, _, _, _ | .truth, _, _, _ | .number _ _, _, _, _
  | .custom _, _, _, _ => by
    rw [ValueType.Each]
    trivial
  | .option _, _, none, _ => by
    rw [ValueType.Each]
    trivial
  | .option t, d, some b, h => by
    have hmap : (t.ofData? d).map some = some (some b) := by
      cases d <;> simp_all [ValueType.ofData?]
    obtain ⟨c, hc, hcb⟩ := Option.map_eq_some_iff.1 hmap
    obtain rfl := Option.some.inj hcb
    rw [ValueType.Each]
    exact t.each_of_ofData? hc
  | .identifier _ _, d, _, h => by
    cases d <;> simp [ValueType.ofData?] at h
  | .tuple fs, d, a, h => by
    cases d with
    | list ds =>
      rw [ValueType.ofData?] at h
      rw [ValueType.Each]
      exact fs.each_of_ofData? h
    | _ => simp [ValueType.ofData?] at h

/-- Values of fields that are read from data hold no identifiers. -/
theorem FieldTypes.each_of_ofData? :
    (fs : FieldTypes Key) → {ds : List Data} → {a : fs.Val} → fs.ofData? ds = some a → fs.Each Q a
  | .nil, _, _, _ => by
    rw [FieldTypes.Each]
    trivial
  | .cons _ t fs, [], _, h => by
    simp [FieldTypes.ofData?] at h
  | .cons _ t fs, d :: ds, a, h => by
    rw [FieldTypes.ofData?] at h
    obtain ⟨b, hb, hrest⟩ := Option.bind_eq_some_iff.1 h
    obtain ⟨bs, hbs, rfl⟩ := Option.map_eq_some_iff.1 hrest
    rw [FieldTypes.Each]
    exact ⟨t.each_of_ofData? hb, fs.each_of_ofData? hbs⟩

end

/-! ## Values of identifiers -/

section

variable {values : Key → ValueType Key}

/-- A scalar identifier wraps a value without identifiers. -/
theorem Shape.each_of_scalar? {t : ValueType Key} {shape : Shape values t} {s : ScalarValue t.Val}
    (h : shape.scalar? = some s) (v : t.Val) : t.Each Q v := by
  cases shape with
  | guid => exact ValueType.each_uuid v
  | text => exact ValueType.each_text v
  | combined ps => exact nomatch h

/-- Every identifier inside of the plain values has a property. -/
def Parts.PlainEach (Q : (k : Key) → (t : ValueType Key) → t.Val → Prop) :
    {fs : FieldTypes Key} → Parts values fs → Prop
  | _, .nil => True
  | .cons _ t _, .cons (.plain v) ps => t.Each Q v ∧ ps.PlainEach Q
  | _, .cons (.identifier _) ps => ps.PlainEach Q

/-- Every identifier inside of the plain values has a property. -/
def Shape.PlainEach (Q : (k : Key) → (t : ValueType Key) → t.Val → Prop) {t : ValueType Key} :
    Shape values t → Prop
  | .guid | .text => True
  | .combined ps => ps.PlainEach Q

end

/-- An identifier and every identifier inside of its value have a property. -/
def AnyIdentifier.Throughout {F : Family Key}
    (Q : (k : Key) → (t : ValueType Key) → t.Val → Prop) (a : AnyIdentifier F) : Prop :=
  Q a.key (F.values a.key) a.id.value ∧ (F.values a.key).Each Q a.id.value

section

variable {F : Family Key}

theorem Parts.each_blank {fs : FieldTypes Key} (parts : Parts F.values fs)
    (hplain : parts.PlainEach Q) {get : (p : Key) → p ∈ parts.keys → F.Id p}
    (hget : ∀ p hp, AnyIdentifier.Throughout Q (F := F) ⟨p, get p hp⟩) :
    fs.Each Q (parts.blank get) := by
  induction parts with
  | nil =>
    rw [FieldTypes.Each]
    trivial
  | cons part parts ih =>
    rw [FieldTypes.Each]
    cases part with
    | plain v => exact ⟨hplain.1, ih hplain.2 fun p hp ↦ hget p (List.mem_append_right _ hp)⟩
    | identifier k =>
      refine ⟨?_, ih hplain fun p hp ↦ hget p (List.mem_append_right _ hp)⟩
      rw [ValueType.Each]
      exact hget k _

/-- The blank raw value has in it what the unspecified identifiers of its components are, and what
its plain values hold. -/
theorem Shape.each_blank {t : ValueType Key} (shape : Shape F.values t)
    (hplain : shape.PlainEach Q) {get : (p : Key) → p ∈ shape.keys → F.Id p}
    (hget : ∀ p hp, AnyIdentifier.Throughout Q (F := F) ⟨p, get p hp⟩) :
    t.Each Q (shape.blank get) := by
  cases shape with
  | guid => exact ValueType.each_uuid _
  | text => exact ValueType.each_text _
  | combined parts =>
    rw [ValueType.Each]
    exact parts.each_blank hplain hget

end

section

variable [DecidableEq Key] {F : Family Key} {slots : List (AnyIdentifier F)}

/-- An identifier that a slot is asked for is in a slot. -/
theorem Family.mem_of_inSlot? {k : Key} {n : Nat} {id : F.Id k}
    (h : F.inSlot? slots k n = some id) : ⟨k, id⟩ ∈ slots := by
  rw [Family.inSlot?] at h
  obtain ⟨a, ha, hid⟩ := Option.bind_eq_some_iff.1 h
  split at hid
  · next hk =>
    subst hk
    obtain rfl := Option.some.inj hid
    exact List.mem_of_getElem? ha
  · exact nomatch hid

theorem Part.each_of_ofData? (hslots : ∀ a ∈ slots, a.Throughout Q) {t : ValueType Key}
    (part : Part F.values t) {d : Data} {v : t.Val} (h : part.ofData? slots d = some v) :
    t.Each Q v := by
  cases part with
  | plain _ => exact t.each_of_ofData? h
  | identifier k =>
    cases d with
    | number n =>
      cases n with
      | ofNat n =>
        rw [ValueType.Each]
        exact hslots _ (Family.mem_of_inSlot? h)
      | negSucc n => exact nomatch h
    | _ => exact nomatch h

theorem Parts.each_of_ofData? (hslots : ∀ a ∈ slots, a.Throughout Q) {fs : FieldTypes Key}
    (parts : Parts F.values fs) {ds : List Data} {v : fs.Val}
    (h : parts.ofData? slots ds = some v) : fs.Each Q v := by
  induction parts generalizing ds with
  | nil =>
    rw [FieldTypes.Each]
    trivial
  | cons part parts ih =>
    cases ds with
    | nil => exact nomatch h
    | cons d ds =>
      rw [Parts.ofData?] at h
      obtain ⟨b, hb, hrest⟩ := Option.bind_eq_some_iff.1 h
      obtain ⟨bs, hbs, rfl⟩ := Option.map_eq_some_iff.1 hrest
      rw [FieldTypes.Each]
      exact ⟨part.each_of_ofData? hslots hb, ih hbs⟩

/-- A raw value that is read from data has in it what the slots hold. -/
theorem Shape.each_of_ofData? (hslots : ∀ a ∈ slots, a.Throughout Q) {t : ValueType Key}
    (shape : Shape F.values t) {d : Data} {v : t.Val} (h : shape.ofData? slots d = some v) :
    t.Each Q v := by
  cases shape with
  | guid => exact ValueType.each_uuid _
  | text => exact ValueType.each_text _
  | combined parts =>
    cases d with
    | list ds =>
      rw [ValueType.Each]
      exact parts.each_of_ofData? hslots h
    | _ => exact nomatch h

end

end TypedIds
