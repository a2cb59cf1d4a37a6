import TypedIds.Generated.Item

/-!
# Code in the place of a word

`Code.replace` puts code in the place of every occurrence of a word.  It does so token by token, so
it commutes with everything that puts code together, and it leaves code alone in which the word does
not occur.
-/

set_option autoImplicit false

namespace TypedIds

/-- The word that a token is. -/
def Token.word? : Token → Option String
  | .word w => some w
  | _ => none

namespace Code

/-- The words of code. -/
def words (c : Code) : List String := c.filterMap Token.word?

/-- Code with other code in the place of a word. -/
def replace (c : Code) (x : String) (q : Code) : Code :=
  c.flatMap fun t ↦ if t.word? = some x then q else [t]

variable {x : String} {q a b : Code}

@[simp] theorem words_append : (a ++ b).words = a.words ++ b.words := List.filterMap_append ..

/-- Nothing is replaced if the word does not occur. -/
theorem replace_eq_self (h : x ∉ a.words) : a.replace x q = a := by
  induction a with
  | nil => rfl
  | cons t a ih =>
    have ht : t.word? ≠ some x := fun hx ↦ h (List.mem_filterMap.mpr ⟨t, List.mem_cons_self, hx⟩)
    have ha : x ∉ words a := fun hx ↦ h ((List.sublist_cons_self t a).filterMap _ |>.subset hx)
    rw [replace, List.flatMap_cons, if_neg ht]
    exact congrArg (t :: ·) (ih ha)

/-- A word that has been replaced by code without it does not occur any more. -/
theorem notMem_words_replace (h : x ∉ q.words) : x ∉ (a.replace x q).words := by
  intro hx
  obtain ⟨t, ht, hword⟩ := List.mem_filterMap.mp hx
  obtain ⟨u, -, hu⟩ := List.mem_flatMap.mp ht
  split at hu
  · exact h (List.mem_filterMap.mpr ⟨t, hu, hword⟩)
  next hne =>
    obtain rfl := List.mem_singleton.mp hu
    exact hne hword

/-! ## What it commutes with -/

@[simp] theorem replace_nil : replace [] x q = [] := rfl

@[simp] theorem replace_append : (a ++ b).replace x q = a.replace x q ++ b.replace x q :=
  List.flatMap_append

@[simp] theorem replace_cons_word (w : String) :
    replace (.word w :: a) x q = (if w = x then q else [.word w]) ++ a.replace x q := by
  simp [replace, Token.word?]

@[simp] theorem replace_cons_mark (c : Char) (joined : Bool) :
    replace (.mark c joined :: a) x q = .mark c joined :: a.replace x q := rfl

@[simp] theorem replace_cons_literal (text : String) :
    replace (.literal text :: a) x q = .literal text :: a.replace x q := rfl

@[simp] theorem replace_cons_lifetime (name : String) :
    replace (.lifetime name :: a) x q = .lifetime name :: a.replace x q := rfl

@[simp] theorem replace_within (d : Delimiter) :
    (within d a).replace x q = within d (a.replace x q) := by
  show replace (.opening d :: a ++ [.closing d]) x q = _
  rw [replace_append]
  rfl

@[simp] theorem replace_angle : (angle a).replace x q = angle (a.replace x q) := by
  rw [angle, replace_append]
  rfl

/-- An operator has no words. -/
@[simp] theorem replace_op (s : String) : (op s).replace x q = op s := by
  rw [op]
  induction s.toList using ofMarks.induct with
  | case1 => rfl
  | case2 c => rfl
  | case3 c cs hcs ih => rw [ofMarks, replace_cons_mark, ih]; exact hcs

theorem replace_flatMap {α : Type} (as : List α) (f : α → Code) :
    replace (as.flatMap f) x q = as.flatMap fun i ↦ (f i).replace x q := by
  induction as with
  | nil => rfl
  | cons i as ih => rw [List.flatMap_cons, replace_append, ih, List.flatMap_cons]

/-- Nothing changes if nothing changes in any piece. -/
theorem replace_flatMap_eq {α : Type} {as : List α} {f g : α → Code}
    (h : ∀ i ∈ as, (f i).replace x q = g i) : replace (as.flatMap f) x q = as.flatMap g := by
  rw [replace_flatMap, List.flatMap_def, List.flatMap_def, List.map_congr_left h]

@[simp] theorem replace_commaIf (trailing : Bool) :
    (commaIf trailing).replace x q = commaIf trailing := by
  cases trailing <;> rfl

@[simp] theorem replace_terminate (after : Code) (cs : List Code) :
    (terminate after cs).replace x q = terminate (after.replace x q) (cs.map (replace · x q)) := by
  simp [terminate, replace_flatMap, List.flatMap_map]

@[simp] theorem replace_separate (between : Code) (cs : List Code) :
    (separate between cs).replace x q =
      separate (between.replace x q) (cs.map (replace · x q)) := by
  induction cs with
  | nil => rfl
  | cons c cs ih =>
    cases cs with
    | nil => simp [separate]
    | cons d cs =>
      simp only [separate, List.map_cons, List.intercalate_cons_cons, replace_append] at ih ⊢
      rw [ih]

end Code

end TypedIds
