import TypedIds.Catalogue
import TypedIds.Proofs.Session.RoundTrip
import TypedIds.Proofs.Text.Casing

/-!
# Stock-keeping codes are canonical

The hook of stock-keeping codes looks for white space first and puts the text into capital letters
afterwards, so what it wraps is not what it has looked at.  It would still take it: there is no
white space in the upper case of a text without, and an upper case is its own upper case.  Hence a
code that was made is made again, unchanged, from its own text.
-/

set_option autoImplicit false

namespace TypedIds.Catalogue

open Text

/-! ## The hook -/

theorem toList_capital (text : String) : (capital text).toList = uppercase text.toList := by
  rw [capital, String.toList_ofList]

/-- A text in capital letters stays as it is when it is put into capital letters. -/
theorem capital_capital (text : String) : capital (capital text) = capital text := by
  rw [capital, toList_capital, uppercase_uppercase, ← capital]

/-- Capital letters bring no white space. -/
theorem isBlank_capital {text : String} (htext : ∀ c ∈ text.toList, isBlank c = false) :
    ∀ c ∈ (capital text).toList, isBlank c = false := by
  rw [toList_capital]
  exact isBlank_of_mem_uppercase htext

theorem skuCodeHook_eq_error_iff {text : String} {c : Cause} :
    skuCodeHook.apply text = .error c ↔
      (∃ a ∈ text.toList, isBlank a = true) ∧ c = .text "whitespace is not allowed" := by
  show (if text.toList.any isBlank then .error (.text "whitespace is not allowed")
    else .ok (capital text) : Except Cause String) = .error c ↔ _
  rw [← List.any_eq_true]
  split
  · next h => simp [h, eq_comm]
  · next h => simp [h]

theorem skuCodeHook_eq_ok_iff {text w : String} :
    skuCodeHook.apply text = .ok w ↔
      (∀ a ∈ text.toList, isBlank a = false) ∧ w = capital text := by
  show (if text.toList.any isBlank then .error (.text "whitespace is not allowed")
    else .ok (capital text) : Except Cause String) = .ok w ↔ _
  rw [show (∀ a ∈ text.toList, isBlank a = false) ↔ text.toList.any isBlank = false by simp]
  split
  · next h => simp [h]
  · next h => simp [h, eq_comm]

/-- **The hook keeps what it has made.** -/
theorem skuCodeHook_keeps {text w : String} (h : skuCodeHook.apply text = .ok w) :
    skuCodeHook.Keeps w := by
  obtain ⟨hblank, rfl⟩ := skuCodeHook_eq_ok_iff.1 h
  exact skuCodeHook_eq_ok_iff.2 ⟨isBlank_capital hblank, (capital_capital text).symm⟩

/-! ## In a session -/

/-- **Stock-keeping codes are canonical.**  In a reachable session no code is made of a text exactly
if there is white space in the text.  The text of a code that is made has no white space and is its
own upper case, and it is read as that code.  And for every text, capital letters bring no white
space, and are put into capital letters already. -/
theorem skuCode_canonical {s : Session family} (hs : s.Reachable) (text : String) :
    let made := ((family.tryFromValue .skuCode .text text).run s.state).1
    (∀ e, made = .error e ↔
      (∃ c ∈ text.toList, isBlank c = true) ∧
        e = .rejected "SkuCode" (.text "whitespace is not allowed")) ∧
    (∀ id, made = .ok id →
      id.value = capital text ∧ capital id.value = id.value ∧
        (∀ c ∈ String.toList id.value, isBlank c = false) ∧
        ((family.throughText .skuCode .text id).run s.state).1 = .ok id) ∧
    ((∀ c ∈ text.toList, isBlank c = false) → ∀ c ∈ (capital text).toList, isBlank c = false) ∧
    capital (capital text) = capital text := by
  intro made
  have hscalar : (family.shape .skuCode).scalar? = some ScalarValue.text := rfl
  have hhook : family.hook .skuCode = some skuCodeHook := rfl
  have hmade : made = family.verdict .skuCode text :=
    (Family.tryFromValue_settles hscalar text _ hs.sound).1
  have herror : ∀ e, made = .error e ↔
      ∃ c, skuCodeHook.apply text = .error c ∧ e = .rejected "SkuCode" c := fun e ↦ by
    rw [hmade]
    exact Family.verdict_eq_error_iff hhook
  have hok : ∀ id, made = .ok id ↔ skuCodeHook.apply text = .ok id.value := fun id ↦ by
    rw [hmade]
    exact Family.verdict_eq_ok_iff hhook
  refine ⟨fun e ↦ ?_, fun id hid ↦ ?_, isBlank_capital, capital_capital text⟩
  · rw [herror]
    constructor
    · rintro ⟨c, hc, rfl⟩
      obtain ⟨hblank, rfl⟩ := skuCodeHook_eq_error_iff.1 hc
      exact ⟨hblank, rfl⟩
    · rintro ⟨hblank, rfl⟩
      exact ⟨_, skuCodeHook_eq_error_iff.2 ⟨hblank, rfl⟩, rfl⟩
  · have happly := (hok id).1 hid
    obtain ⟨hblank, hvalue⟩ := skuCodeHook_eq_ok_iff.1 happly
    have hback := (Family.throughText_settles hscalar id _ hs.sound).1
    refine ⟨hvalue, ?_, ?_, hback.trans ?_⟩
    · rw [hvalue]
      exact capital_capital text
    · rw [hvalue]
      exact isBlank_capital hblank
    · exact (Family.verdict_eq_ok_iff hhook).2 (skuCodeHook_keeps happly)

/-- The upper case of `ŉ` is two characters, and that of `ß` is. -/
theorem skuCode_canonical_long :
    let state := (Session.start family []).state
    let code : family.Id .skuCode := ⟨"ʼNSS-1"⟩
    ((family.tryFromValue .skuCode .text "ŉß-1").run state).1 = .ok code ∧
      ((family.throughText .skuCode .text code).run state).1 = .ok code ∧
      ∃ e, ((family.tryFromValue .skuCode .text "ŉ\u2003ß").run state).1 = .error e := by
  intro state code
  have hstart : (Session.start family []).Reachable := .start []
  obtain ⟨-, hmade, -⟩ := skuCode_canonical hstart "ŉß-1"
  obtain ⟨herror, -⟩ := skuCode_canonical hstart "ŉ\u2003ß"
  have hcode : ((family.tryFromValue .skuCode .text "ŉß-1").run state).1 = .ok code := rfl
  obtain ⟨-, -, -, hback⟩ := hmade code hcode
  exact ⟨hcode, hback, _, (herror _).2 ⟨⟨'\u2003', by decide, by decide⟩, rfl⟩⟩

end TypedIds.Catalogue
