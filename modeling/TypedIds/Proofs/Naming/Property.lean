import Mathlib.Data.List.Forall2
import TypedIds.Naming
import TypedIds.Proofs.Text.SnakeCase
import TypedIds.Proofs.Token.Word

/-!
# Property names

A property is named by its snake case.  There is nothing in a snake case name at which the reader of
tokens would do anything else than read a word, so there is a name if and only if the snake case is
an identifier and no keyword (`propertyName_eq_ok_iff`).

**`propertyName_canonical`**: what that means for ASCII properties.  Their snake case is joined runs
of small letters and digits, so only an empty one, or a digit at the beginning, keeps it from being
an identifier, and it is its own snake case.
-/

set_option autoImplicit false

namespace TypedIds

open Text (snakeCase IsRun SplitsAtBoundaries isAlphanumeric)

/-- **What a property is named**: its snake case, if that is an identifier and no keyword. -/
theorem propertyName_eq_ok_iff {property name : String} :
    propertyName property = .ok name ↔
      name = String.ofList (snakeCase property.toList) ∧
        Lexer.plainWord? (snakeCase property.toList) = some [] ∧ isName name = true := by
  have hchars : ∀ c ∈ (String.ofList (snakeCase property.toList)).toList,
      Text.isSeparating c = false := by
    intro c hc
    rw [String.toList_ofList] at hc
    rw [← Bool.not_eq_true]
    exact fun hseparating ↦ Text.not_mem_snakeCase hseparating _ hc
  have hname := isNameText_iff hchars
  rw [String.toList_ofList] at hname
  rw [propertyName]
  constructor
  · intro h
    split at h
    · cases h
    · split at h
      next htext =>
        obtain rfl := Except.ok.inj h
        exact ⟨rfl, hname.mp htext⟩
      next => cases h
  · rintro ⟨rfl, hplain, hnot⟩
    have hempty : (String.ofList (snakeCase property.toList)).isEmpty = false := by
      obtain ⟨c, rest, hsnake, -⟩ := Lexer.plainWord?_eq_some_nil_iff.mp hplain
      simp [hsnake]
    rw [hempty, if_neg (by decide), if_pos (hname.mpr ⟨hplain, hnot⟩)]

/-! ## Joined runs -/

/-- What stands in joined runs is an underscore or stands in a run. -/
theorem mem_joined {runs : List (List Char)} (h : ∀ r ∈ runs, IsRun r) {c : Char}
    (hc : c ∈ ['_'].intercalate runs) : c = '_' ∨ (c.isLower || c.isDigit) = true := by
  by_contra hnot
  obtain ⟨hunderscore, hrun⟩ := not_or.1 hnot
  exact Text.not_mem_intercalate (by simpa using hunderscore) runs
    (fun r hr hmem ↦ hrun ((h r hr).2 c hmem)) hc

/-- An identifier goes on with each of these characters, and begins with each that is no digit. -/
theorem identifier_of_joined {c : Char} (hc : c = '_' ∨ (c.isLower || c.isDigit) = true) :
    Text.isIdentifierContinue c = true ∧ (Text.isIdentifierStart c = true ↔ c.isDigit = false) := by
  obtain rfl | hrun := hc
  · decide +kernel
  · exact Text.forall_ascii
      (P := fun c ↦ (c.isLower || c.isDigit) = true → Text.isIdentifierContinue c = true ∧
        (Text.isIdentifierStart c = true ↔ c.isDigit = false))
      (Text.ascii_of_run hrun) (by decide +kernel) hrun

/-- Joined runs are an identifier if there are any and they do not begin with a digit. -/
theorem plainWord?_joined {runs : List (List Char)} (h : ∀ r ∈ runs, IsRun r) :
    Lexer.plainWord? (['_'].intercalate runs) = some [] ↔
      ['_'].intercalate runs ≠ [] ∧ (['_'].intercalate runs).head?.any Char.isDigit = false := by
  have hchars := fun c hc ↦ identifier_of_joined (mem_joined h (c := c) hc)
  rw [Lexer.plainWord?_eq_some_nil_iff]
  cases hjoined : ['_'].intercalate runs with
  | nil => simp
  | cons d ds =>
    rw [hjoined] at hchars
    constructor
    · rintro ⟨c, rest, hcons, hstart, -⟩
      obtain ⟨rfl, rfl⟩ := List.cons.inj hcons
      simpa using (hchars d List.mem_cons_self).2.1 hstart
    · rintro ⟨-, hdigit⟩
      exact ⟨d, ds, rfl, (hchars d List.mem_cons_self).2.2 (by simpa using hdigit),
        fun c hc ↦ (hchars c (List.mem_cons_of_mem d hc)).1⟩

/-- A property whose snake case is some joined runs gets them as its name, unless they are empty,
begin with a digit or are a keyword. -/
theorem propertyName_eq_ok_iff_of_joined {property name : String} {runs : List (List Char)}
    (h : ∀ r ∈ runs, IsRun r) (hsnake : snakeCase property.toList = ['_'].intercalate runs) :
    propertyName property = .ok name ↔
      name = String.ofList (snakeCase property.toList) ∧ snakeCase property.toList ≠ [] ∧
        (snakeCase property.toList).head?.any Char.isDigit = false ∧ name ∉ keywords := by
  have hname : isName name = true ↔ name ∉ keywords := by simp [isName]
  rw [propertyName_eq_ok_iff, hsnake, plainWord?_joined h, hname, and_assoc]

/-! ## ASCII properties -/

/-- **Property names are canonical.**  An ASCII property is named by its snake case, unless that is
empty, begins with a digit or is a keyword.  Its snake case is runs of small letters and digits with
single underscores between them, and a name is the name of itself.  The runs are the words of the
property in lower case: it is cut into stretches at the characters that are neither letter nor
number, and the stretches into words at their boundaries. -/
theorem propertyName_canonical {text : String} (hascii : ∀ c ∈ text.toList, c.toNat < 128) :
    (∀ name, propertyName text = .ok name ↔
      name = String.ofList (snakeCase text.toList) ∧ snakeCase text.toList ≠ [] ∧
        (snakeCase text.toList).head?.any Char.isDigit = false ∧ name ∉ keywords) ∧
    (∃ runs, snakeCase text.toList = ['_'].intercalate runs ∧ ∀ r ∈ runs, IsRun r) ∧
    (∀ name, propertyName text = .ok name → propertyName name = .ok name) ∧
    ∃ pieces,
      List.Forall₂ SplitsAtBoundaries (text.toList.splitOnP fun c ↦ !isAlphanumeric c) pieces ∧
      snakeCase text.toList = ['_'].intercalate (pieces.flatten.map (List.map Char.toLower)) := by
  have hsnake := Text.snakeCase_of_ascii hascii
  have hruns : ∀ r ∈ (Text.words text.toList).map (List.map Char.toLower), IsRun r :=
    List.forall_mem_map.2 fun w hw ↦ Text.isRun_of_mem_words hascii hw
  have hok {name : String} : propertyName text = .ok name ↔ _ :=
    propertyName_eq_ok_iff_of_joined hruns hsnake
  refine ⟨fun _ ↦ hok, ⟨_, hsnake, hruns⟩, fun name hname ↦ ?_,
    (Text.stretches text.toList).map (Text.splitAtCase .none []), ?_, ?_⟩
  · -- The snake case of the name is the name.
    obtain ⟨rfl, hspec⟩ := hok.1 hname
    have hself : snakeCase (String.ofList (snakeCase text.toList)).toList =
        snakeCase text.toList := by
      rw [String.toList_ofList, hsnake, Text.snakeCase_intercalate hruns]
    rw [propertyName_eq_ok_iff_of_joined hruns (hself.trans hsnake), hself]
    exact ⟨rfl, hspec⟩
  · rw [← Text.stretches_eq_splitOnP, List.forall₂_map_right_iff, List.forall₂_same]
    exact fun s hs ↦ Text.splitsAtBoundaries_of_ascii hascii hs
  · rw [hsnake, Text.words, List.flatMap_def]

/-- A property with a run of capitals, digits after letters of either case and more than one
separator. -/
theorem propertyName_canonical_mixed :
    (∀ c ∈ "XMLHttp--request2ID".toList, c.toNat < 128) ∧
    propertyName "XMLHttp--request2ID" = .ok "xml_http_request2_id" ∧
    propertyName "xml_http_request2_id" = .ok "xml_http_request2_id" := by
  have hall : ("XMLHttp--request2ID".toList.all fun c ↦ c.toNat < 128) = true := by decide +kernel
  have hascii : ∀ c ∈ "XMLHttp--request2ID".toList, c.toNat < 128 := fun c hc ↦ by
    simpa using List.all_eq_true.1 hall c hc
  obtain ⟨hok, -, hself, -⟩ := propertyName_canonical hascii
  have hname : propertyName "XMLHttp--request2ID" = .ok "xml_http_request2_id" :=
    (hok _).2 (by decide +kernel)
  exact ⟨hascii, hname, hself _ hname⟩

end TypedIds
