import TypedIds.Marker.Args
import TypedIds.Proofs.Grammar.Reader
import TypedIds.Proofs.Naming.Property

/-!
# The accessor of the wrapped value

The accessor is named `value`, or by the snake case of the name that the option `value` gives.
Either way its name has no raw mark.  This is a fact about reading the arguments, not about checking
them: the option is given as a text, and whatever is read from it is in snake case.

The accessor of a scalar identifier is the only component it has.
-/

set_option autoImplicit false

namespace TypedIds

open Reader (Yields)

theorem isRaw_iff {word : String} :
    isRaw word = true ↔ ∃ rest, word.toList = 'r' :: '#' :: rest := by
  rw [isRaw, List.isPrefixOf_iff_prefix]
  constructor
  · rintro ⟨rest, h⟩
    exact ⟨rest, h.symm⟩
  · rintro ⟨rest, h⟩
    exact ⟨rest, h.symm⟩

/-- A name without a raw mark: read as a text, it is itself and nothing else. -/
structure IsPlainName (name : String) : Prop where
  /-- The text is one word, and the word is all of it. -/
  read : ∃ s, Tree.read name = .ok [.word name s]
  /-- The word is no keyword. -/
  isName : isName name = true
  /-- The word is an identifier from its first character to its last. -/
  plain : Lexer.plainWord? name.toList = some []

theorem IsPlainName.isRaw_eq_false {name : String} (h : IsPlainName name) : isRaw name = false := by
  rw [← Bool.not_eq_true, isRaw_iff]
  rintro ⟨rest, hrest⟩
  have hplain := h.plain
  rw [hrest, Lexer.plainWord?, if_pos (by decide)] at hplain
  have hmark : Text.isIdentifierContinue '#' = false := rfl
  simp [hmark] at hplain

/-- **A name that is made from a text is plain.** -/
theorem isPlainName_of_propertyName {property name : String}
    (h : propertyName property = .ok name) : IsPlainName name := by
  obtain ⟨rfl, hplain, hname⟩ := propertyName_eq_ok_iff.mp h
  rw [← String.toList_ofList (l := Text.snakeCase property.toList)] at hplain
  exact ⟨Tree.read_of_plainWord hplain, hname, hplain⟩

/-- A name that is made from a text is not raw. -/
theorem isRaw_propertyName {property name : String} (h : propertyName property = .ok name) :
    isRaw name = false :=
  (isPlainName_of_propertyName h).isRaw_eq_false

/-- The option `value`, if it is given, gives a name that is not raw. -/
def Entries.PlainValue (e : Entries) : Prop := ∀ v ∈ e.value, isRaw v.1 = false

namespace Grammar

theorem setOnce_yields {α : Type} {slot : Option α} {a : α} {key : String} {s : Span} :
    Yields (· = some a) (setOnce slot a key s) := by
  rw [setOnce]
  split
  · exact .fail _ _
  · exact .pure rfl

/-- Only the option `value` sets the name of the accessor, and it sets one that is not raw. -/
theorem option_yields {e : Entries} (he : e.PlainValue) : Yields Entries.PlainValue (option e) := by
  refine .andThen fun ⟨key, s⟩ ↦ ?_
  dsimp only
  split
  · refine .andThen fun ⟨l, place⟩ ↦ ?_
    dsimp only
    split
    · exact .fail _ _
    · next name hname =>
      refine setOnce_yields.bind fun value hvalue ↦ .pure fun v hv ↦ ?_
      obtain rfl : value = some v := hv
      obtain rfl := Option.some.inj hvalue
      exact isRaw_propertyName hname
  -- The other options leave the name as it is.
  split
  · refine .andThen fun given ↦ ?_
    split
    · exact .andThen fun _ ↦ .andThen fun _ ↦ .pure he
    · exact .andThen fun _ ↦ .andThen fun _ ↦ .pure he
  split
  · refine .andThen fun ⟨l, place⟩ ↦ ?_
    dsimp only
    split
    · exact .fail _ _
    · exact .andThen fun _ ↦ .pure he
  split
  · refine .andThen fun ⟨l, place⟩ ↦ ?_
    dsimp only
    split
    · exact .fail _ _
    · exact .andThen fun _ ↦ .pure he
  · exact .fail _ _

theorem entry_yields {e : Entries} (he : e.PlainValue) : Yields Entries.PlainValue (entry e) := by
  refine .andThen fun isComponent ↦ ?_
  split
  · exact .andThen fun _ ↦ .pure he
  · exact option_yields he

theorem entriesFor_yields {e : Entries} (he : e.PlainValue) (rounds : Nat) :
    Yields Entries.PlainValue (entriesFor e rounds) := by
  induction rounds generalizing e with
  | zero => exact .andThen fun _ ↦ .fail _ _
  | succ n ih =>
    refine .andThen fun ended ↦ ?_
    split
    · exact .pure he
    · refine (entry_yields he).bind fun e he ↦ .andThen fun ended ↦ ?_
      split
      · exact .pure he
      · exact .andThen fun _ ↦ ih he

theorem entries_yields : Yields Entries.PlainValue entries :=
  .andThen fun _ ↦ entriesFor_yields (fun _ hv ↦ absurd hv (by simp [Entries.empty])) _

end Grammar

/-- The name of the accessor is not raw. -/
theorem Entries.PlainValue.options {e : Entries} (he : e.PlainValue) :
    isRaw e.options.valueProperty = false := by
  rw [Entries.options]
  cases hv : e.value with
  | none =>
    show isRaw "value" = false
    decide
  | some v => exact he v hv

/-- What is read is the options of some entries, with their components, or with the only component
that a scalar identifier has. -/
theorem MarkerArgs.read_iff_entries {kind : MarkerKind} {args : List Tree} {span : Span}
    {m : MarkerArgs} :
    MarkerArgs.read kind args span = .ok m ↔
      ∃ e, Grammar.entries.run .nowhere args = .ok e ∧
        (kind.isScalar = true → e.components = []) ∧
        m = ⟨if kind.isScalar then [scalarComponent kind e.options] else e.components, e.options,
          span⟩ := by
  rw [MarkerArgs.read]
  cases Grammar.entries.run .nowhere args with
  | error d => exact ⟨fun h ↦ (nomatch h), fun ⟨_, h, _⟩ ↦ nomatch h⟩
  | ok e =>
    show (if kind.isScalar = true then _ else _ : Except Diagnostic MarkerArgs) = _ ↔ _
    cases hscalar : kind.isScalar with
    | false => simp [eq_comm, Pure.pure, Except.pure]
    | true =>
      cases hcomponents : e.components with
      | nil => simp [eq_comm, Pure.pure, Except.pure, hcomponents]
      | cons c cs => simp [hcomponents]

theorem MarkerArgs.read_ok {kind : MarkerKind} {args : List Tree} {span : Span} {m : MarkerArgs}
    (h : MarkerArgs.read kind args span = .ok m) :
    ∃ e, Grammar.entries.run .nowhere args = .ok e ∧ m.options = e.options ∧
      m.components = if kind.isScalar then [scalarComponent kind e.options] else e.components := by
  obtain ⟨e, he, -, rfl⟩ := MarkerArgs.read_iff_entries.mp h
  exact ⟨e, he, rfl, rfl⟩

/-- **The accessor of the value is never named by a raw name.** -/
theorem MarkerArgs.isRaw_valueProperty {kind : MarkerKind} {args : List Tree} {span : Span}
    {m : MarkerArgs} (h : MarkerArgs.read kind args span = .ok m) :
    isRaw m.options.valueProperty = false := by
  obtain ⟨e, he, -, rfl⟩ := MarkerArgs.read_iff_entries.mp h
  exact (Grammar.entries_yields.run he).options

end TypedIds
