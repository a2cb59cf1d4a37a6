import TypedIds.Proofs.Token.Lexer
import TypedIds.Token.Printer

/-!
# What code begins with

The character that code begins with, when it is shown.  A type that begins with neither `(` nor `&`
is written as no tuple and no reference; one that begins with `?` cannot be read at all, which tells
a relaxed bound in parentheses from a tuple.
-/

set_option autoImplicit false

namespace TypedIds

namespace Code

variable {P Q : Char → Prop} {a b : Code} {t : Token}

/-- The first character of code has a property, if there is any code. -/
def Begins (P : Char → Prop) (c : Code) : Prop := ∀ t ∈ c.head?, ∃ m ∈ t.text.toList.head?, P m

namespace Begins

theorem nil : Begins P [] := nofun

theorem cons (h : ∃ m ∈ t.text.toList.head?, P m) : Begins P (t :: a) :=
  fun _ hu ↦ Option.some.inj hu ▸ h

theorem append (ha : a.Begins P) (hb : b.Begins P) : (a ++ b).Begins P := by
  cases a with
  | nil => exact hb
  | cons t a => exact .cons (ha t rfl)

theorem weaken (ha : a.Begins P) (h : ∀ m, P m → Q m) : a.Begins Q := by
  intro t ht
  obtain ⟨m, hm, hP⟩ := ha t ht
  exact ⟨m, hm, h m hP⟩

theorem mark {m : Char} {joined : Bool} (h : P m) : Begins P (.mark m joined :: a) :=
  .cons ⟨m, by simp [Token.text], h⟩

theorem opening {d : Delimiter} (h : P d.opening) : Begins P (.opening d :: a) :=
  .cons ⟨d.opening, by simp [Token.text], h⟩

theorem lifetime {n : String} (h : P Text.singleQuote) : Begins P (.lifetime n :: a) :=
  .cons ⟨Text.singleQuote, by simp [Token.text, Text.singleQuote], h⟩

end Begins

/-- What is written first is the first token. -/
theorem exists_shown_cons (t : Token) (c : Code) : ∃ s, Code.shown (t :: c) = t.text ++ s := by
  cases t with
  | opening d =>
    cases d <;> exact ⟨_, by simp [Code.shown, Code.showAfter, String.append_assoc]; rfl⟩
  | closing d => cases d <;> exact ⟨_, by simp [Code.shown, Code.showAfter]; rfl⟩
  | _ => exact ⟨_, by simp [Code.shown, Code.showAfter]; rfl⟩

theorem Begins.shown (h : a.Begins P) : ∀ m ∈ a.shown.toList.head?, P m := by
  cases a with
  | nil => exact nofun
  | cons t a =>
    obtain ⟨s, hs⟩ := exists_shown_cons t a
    obtain ⟨m, hm, hP⟩ := h t rfl
    intro n hn
    rw [hs, String.toList_append, List.head?_append, hm] at hn
    exact Option.some.inj hn ▸ hP

/-- Code that is no tuple, no reference, not in parentheses and no relaxed bound. -/
def IsFree (c : Code) : Prop := c.Begins fun m ↦ m ≠ '(' ∧ m ≠ '&' ∧ m ≠ '?'

namespace IsFree

theorem nil : IsFree [] := Begins.nil

theorem append (ha : a.IsFree) (hb : b.IsFree) : (a ++ b).IsFree := Begins.append ha hb

-- `Rat.den_nz._autoParam` is `by decide`: what a rule asks of a literal is decided at each use.
theorem mark {m : Char} {joined : Bool}
    (h : autoParam (m ≠ '(' ∧ m ≠ '&' ∧ m ≠ '?') Rat.den_nz._autoParam) :
    IsFree (.mark m joined :: a) :=
  Begins.mark h

theorem lifetime {n : String} : IsFree (.lifetime n :: a) := Begins.lifetime (by decide)

theorem word {w : String} (h : autoParam (StartsName w) Rat.den_nz._autoParam) :
    IsFree (.word w :: a) := by
  obtain ⟨c, hc, hstart⟩ := (Option.any_eq_true _ _).mp h
  have hne {m : Char} (hm : Text.isIdentifierStart m = false) : c ≠ m := by
    rintro rfl
    rw [hm] at hstart
    cases hstart
  exact .cons ⟨c, hc, hne (by decide), hne (by decide), hne (by decide)⟩

theorem getD {o : Option Code} (h : ∀ c ∈ o, c.IsFree) : Code.IsFree (o.getD []) := by
  cases o with
  | none => exact nil
  | some c => exact h c rfl

end IsFree

end Code

end TypedIds
