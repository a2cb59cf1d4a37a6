import TypedIds.Proofs.Identifier.Settled
import TypedIds.Proofs.Uuid.RoundTrip

/-!
# What a conversion settles

Every way from a raw value to a scalar identifier settles the verdict on that value.  The ways
differ in the empty value: some take a shortcut to the unspecified identifier.  Only a type without
a hook has the shortcut, and the unspecified identifier of such a type wraps the empty value, so the
shortcut leads where the others do.

A way from a text settles the verdict on the value that the text writes (`Family.reading`), and the
text of a value writes that value.
-/

set_option autoImplicit false

namespace TypedIds

variable {Key : Type}

/-! ## Scalar values -/

/-- Only the empty value is empty, and the text of a value writes that value. -/
structure ScalarValue.Lawful {α : Type} (s : ScalarValue α) : Prop where
  eq_empty : ∀ v, s.isEmpty v = true → v = s.empty
  read_write : ∀ v, s.read (s.write v) = .ok v

/-- Only the nil UUID has no bit set. -/
theorem Uuid.eq_nil_of_isNil {u : Uuid} (hu : u.isNil = true) : u = Uuid.nil := by
  have hzero : u.bits.toNat = 0 := by simpa [Uuid.isNil, Uuid.toNat] using hu
  have hbits : u.bits = 0 := BitVec.eq_of_toNat_eq hzero
  rw [Uuid.nil, ← hbits]

theorem ScalarValue.uuid_lawful : ScalarValue.uuid.Lawful where
  eq_empty _ hu := Uuid.eq_nil_of_isNil hu
  read_write u := by
    simp only [ScalarValue.uuid, String.toList_ofList]
    exact Uuid.read_write .small u

theorem ScalarValue.text_lawful : ScalarValue.text.Lawful where
  eq_empty s hs := by simpa [ScalarValue.text] using hs
  read_write _ := rfl

namespace Shape

theorem scalar?_lawful {values : Key → ValueType Key} {t : ValueType Key} {shape : Shape values t}
    {s : ScalarValue t.Val} (h : shape.scalar? = some s) : s.Lawful := by
  cases shape with
  | guid =>
    obtain rfl := Option.some.inj h
    exact ScalarValue.uuid_lawful
  | text =>
    obtain rfl := Option.some.inj h
    exact ScalarValue.text_lawful
  | combined ps => exact nomatch h

/-- The blank raw value of a scalar identifier is the empty value. -/
theorem blank_eq_empty {F : Family Key} {t : ValueType Key} {shape : Shape F.values t}
    {s : ScalarValue t.Val} (h : shape.scalar? = some s)
    (get : (p : Key) → p ∈ shape.keys → F.Id p) : shape.blank get = s.empty := by
  cases shape with
  | guid =>
    obtain rfl := Option.some.inj h
    rfl
  | text =>
    obtain rfl := Option.some.inj h
    rfl
  | combined ps => exact nomatch h

end Shape

namespace Family

section

variable {F : Family Key} {k : Key} {s : ScalarValue (F.Raw k)}

theorem blankRaw_eq_empty (hs : (F.shape k).scalar? = some s) : F.blankRaw k = s.empty :=
  Shape.blank_eq_empty hs _

/-- The unspecified identifier of a type without a hook wraps the blank raw value. -/
theorem blank_of_no_hook (hk : F.hook k = none) : F.blank k = ⟨F.blankRaw k⟩ := by
  rw [blank_eq, settled, verdict_of_no_hook hk]
  cases F.origin k with
  | generated => rfl
  | handWritten => rfl

/-- If the blank raw value of a generated type is taken, what comes of it is the unspecified
identifier. -/
theorem blank_of_verdict (hk : F.origin k = .generated) {id : F.Id k}
    (h : F.verdict k (F.blankRaw k) = .ok id) : F.blank k = id := by
  rw [blank_eq, settled, hk, h]
  rfl

/-- What comes of a text: the verdict on the value that it writes, if it writes one. -/
def reading (F : Family Key) (k : Key) (s : ScalarValue (F.Raw k)) (input : String) : Made F k :=
  match s.read input with
  | .ok v => F.verdict k v
  | .error e => .error (.unreadable (F.name k) input (.uuid e))

/-- An identifier comes of a text only if it is what comes of the value that the text writes. -/
theorem reading_eq_ok {input : String} {id : F.Id k} (h : F.reading k s input = .ok id) :
    ∃ v, s.read input = .ok v ∧ F.verdict k v = .ok id := by
  rw [reading] at h
  split at h
  · next v hv => exact ⟨v, hv, h⟩
  · exact nomatch h

/-- The text of a value is read as that value. -/
theorem reading_write (hs : s.Lawful) (v : F.Raw k) :
    F.reading k s (s.write v) = F.verdict k v := by
  rw [reading, hs.read_write]

theorem toText_settles (id : F.Id k) : (F.toText k s id).Settles (s.write id.value) :=
  (Run.Settles.note _).bind (.pure _)

end

/-! ## Conversions -/

variable [DecidableEq Key] {F : Family Key} {k : Key} {s : ScalarValue (F.Raw k)}

/-- The shortcut leads to what the constructor makes of the value. -/
theorem shortcut_settles (hk : F.hook k = none) (hs : (F.shape k).scalar? = some s)
    (v : F.Raw k) : (F.shortcut k s v).Settles (F.verdict k v) := by
  rw [shortcut]
  split
  · next hempty =>
    have hv : v = F.blankRaw k := by
      rw [blankRaw_eq_empty hs]
      exact (Shape.scalar?_lawful hs).eq_empty v hempty
    rw [verdict_of_no_hook hk, hv, ← blank_of_no_hook hk]
    exact (unspecified_settles k).bind (.pure _)
  · exact new_settles k v

theorem tryFromValue_settles (hs : (F.shape k).scalar? = some s) (v : F.Raw k) :
    (F.tryFromValue k s v).Settles (F.verdict k v) := by
  rw [tryFromValue]
  split
  · exact new_settles k v
  · next hk => exact shortcut_settles hk hs v

theorem fromValue_settles (hs : (F.shape k).scalar? = some s) (v : F.Raw k) :
    (F.fromValue k s v).Settles (F.verdict k v) := by
  rw [fromValue]
  split
  · exact tryFromValue_settles hs v
  · split
    · exact new_settles k v
    · next hk => exact shortcut_settles hk hs v

theorem parse_settles (hs : (F.shape k).scalar? = some s) (input : String) :
    (F.parse k s input).Settles (F.reading k s input) := by
  rw [parse, reading]
  cases s.read input with
  | ok v => exact tryFromValue_settles hs v
  | error e => exact .pure _

theorem fromString_settles (hs : (F.shape k).scalar? = some s) (input : String) :
    (F.fromString k s input).Settles (F.reading k s input) :=
  (Run.Settles.note _).bind (parse_settles hs input)

theorem isUnspecified_settles (id : F.Id k) :
    (F.isUnspecified id).Settles (decide (id = F.blank k)) :=
  (unspecified_settles k).bind (.pure _)

end Family

end TypedIds
