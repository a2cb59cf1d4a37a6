import TypedIds.Grammar.Reader

/-!
# Looking ahead at the end of an entry

An entry of a list ends where its trees end or a comma comes, and an entry in angle brackets may end
at the closing one too.  A test that looks ahead cannot tell what it is that comes after the entry
unless it asks for it, nor does it see what follows a comma or a bracket: it is *blind* to the tail.
For a test that does ask for a comma this still holds as long as a tree of the entry is left
(`inner`).
-/

set_option autoImplicit false

namespace TypedIds

/-- What may come after an entry of a list: nothing, or a comma and whatever follows it. -/
inductive Ends : List Tree → Prop
  | nothing : Ends []
  | comma (joined : Bool) (span : Span) (more : List Tree) : Ends (.mark ',' joined span :: more)

/-- The ways in which trees may end that are read as one thing. -/
inductive Ending where
  /-- As an entry of a list. -/
  | entry
  /-- Before a `>`. -/
  | bracket

/-- What comes after trees that end in this way. -/
def Ending.Tail : Ending → List Tree → Prop
  | entry => Ends
  | bracket => fun ts ↦ ∃ joined span more, ts = .mark '>' joined span :: more

/-- Whether an item of a list has to be told from a tail by a tree that is left, since it might be
the tail that goes on with the list. -/
def Ending.isEntry : Ending → Bool
  | entry => true
  | bracket => false

/-- A test that holds neither at the end nor of a mark does not hold of a tail. -/
theorem Ending.Tail.test_eq_false {k : Ending} {tail : List Tree} {test : List Tree → Bool}
    (ht : k.Tail tail) (hnil : test [] = false)
    (hmark : ∀ c joined span more, test (.mark c joined span :: more) = false) :
    test tail = false := by
  cases k with
  | entry =>
    cases ht with
    | nothing => exact hnil
    | comma joined span more => exact hmark _ _ _ _
  | bracket =>
    obtain ⟨joined, span, more, rfl⟩ := ht
    exact hmark _ _ _ _

/-- The test gives the same answer whatever comes after the entry.  If `inner`, only while a tree of
the entry is left. -/
def Blind (k : Ending) (inner : Bool) (test : List Tree → Bool) : Prop :=
  ∀ ts tail tail', k.Tail tail → k.Tail tail' → (inner = true → ts ≠ []) →
    test (ts ++ tail) = test (ts ++ tail')

/-- The test does not hold unless so many trees are left before the tail. -/
def Asks (k : Ending) (n : Nat) (test : List Tree → Bool) : Prop :=
  ∀ ts tail, k.Tail tail → test (ts ++ tail) = true → n ≤ ts.length

variable {k : Ending}

/-- A test that asks for a tree which is no mark. -/
theorem Asks.ofHead {f : List Tree → Bool} (hnil : f [] = false)
    (hmark : ∀ c joined span more, f (.mark c joined span :: more) = false) : Asks k 1 f := by
  rintro (_ | ⟨t, ts⟩) tail ht h
  · rw [List.nil_append, ht.test_eq_false hnil hmark] at h
    cases h
  · simp

/-- Of two tests both have to hold. -/
theorem Asks.and {n : Nat} {f g : List Tree → Bool} (hf : Asks k n f) :
    Asks k n fun ts ↦ f ts && g ts :=
  fun ts tail ht h ↦ hf ts tail ht (Bool.and_eq_true_iff.mp h).1

namespace Blind

variable {inner : Bool} {f g : List Tree → Bool}

theorem and (hf : Blind k inner f) (hg : Blind k inner g) :
    Blind k inner fun ts ↦ f ts && g ts := by
  intro ts tail tail' ht ht' hi
  dsimp only
  rw [hf ts tail tail' ht ht' hi, hg ts tail tail' ht ht' hi]

theorem or (hf : Blind k inner f) (hg : Blind k inner g) :
    Blind k inner fun ts ↦ f ts || g ts := by
  intro ts tail tail' ht ht' hi
  dsimp only
  rw [hf ts tail tail' ht ht' hi, hg ts tail tail' ht ht' hi]

theorem not (hf : Blind k inner f) : Blind k inner fun ts ↦ !f ts := by
  intro ts tail tail' ht ht' hi
  dsimp only
  rw [hf ts tail tail' ht ht' hi]

/-- A constant test. -/
theorem const (b : Bool) : Blind k inner fun _ ↦ b := fun _ _ _ _ _ _ ↦ rfl

/-- A second test further on is made only if the first one holds of trees of the entry. -/
theorem andDrop {n : Nat} (hf : Blind k inner f) (hn : Asks k n f) (hg : Blind k false g) :
    Blind k inner fun ts ↦ f ts && g (ts.drop n) := by
  intro ts tail tail' ht ht' hi
  dsimp only
  rw [hf ts tail tail' ht ht' hi]
  cases hts : f (ts ++ tail') with
  | false => rfl
  | true =>
    have hlen := hn ts tail' ht' hts
    rw [List.drop_append_of_le_length hlen, List.drop_append_of_le_length hlen,
      hg _ tail tail' ht ht' (by simp)]

/-- A test that looks at the first tree only, and asks for one that is no mark. -/
theorem ofHead (hnil : f [] = false)
    (hmark : ∀ c joined span more, f (.mark c joined span :: more) = false)
    (hf : ∀ t ts, f (t :: ts) = f [t]) : Blind k inner f := by
  rintro (_ | ⟨t, ts⟩) tail tail' ht ht' -
  · rw [List.nil_append, List.nil_append, ht.test_eq_false hnil hmark,
      ht'.test_eq_false hnil hmark]
  · rw [List.cons_append, List.cons_append, hf, hf t (ts ++ tail')]

end Blind

namespace Ahead

variable {inner : Bool}

theorem word_blind (w : String) : Blind k inner (word w) :=
  .ofHead rfl (fun _ _ _ _ ↦ rfl) (by rintro (_ | _ | _ | _ | _) ts <;> rfl)

theorem oneOf_blind (ws : List String) : Blind k inner (oneOf ws) :=
  .ofHead rfl (fun _ _ _ _ ↦ rfl) (by rintro (_ | _ | _ | _ | _) ts <;> rfl)

theorem anyWord_blind : Blind k inner anyWord :=
  .ofHead rfl (fun _ _ _ _ ↦ rfl) (by rintro (_ | _ | _ | _ | _) ts <;> rfl)

theorem name_blind : Blind k inner name :=
  .ofHead rfl (fun _ _ _ _ ↦ rfl) (by rintro (_ | _ | _ | _ | _) ts <;> rfl)

theorem lifetime_blind : Blind k inner lifetime :=
  .ofHead rfl (fun _ _ _ _ ↦ rfl) (by rintro (_ | _ | _ | _ | _) ts <;> rfl)

theorem text_blind : Blind k inner text :=
  .ofHead rfl (fun _ _ _ _ ↦ rfl) (by rintro (_ | _ | _ | _ | _) ts <;> rfl)

theorem group_blind (d : Delimiter) : Blind k inner (group d) :=
  .ofHead rfl (fun _ _ _ _ ↦ rfl) (by rintro (_ | _ | _ | _ | _) ts <;> rfl)

theorem word_asks (w : String) : Asks k 1 (word w) := .ofHead rfl fun _ _ _ _ ↦ rfl

theorem name_asks : Asks k 1 name := .ofHead rfl fun _ _ _ _ ↦ rfl

theorem lifetime_asks : Asks k 1 lifetime := .ofHead rfl fun _ _ _ _ ↦ rfl

/-! ## Operators -/

@[simp] theorem marks_nil (ts : List Tree) : marks [] ts = false := by
  rw [marks]
  · simp
  · simp

@[simp] theorem marks_cons_nil (c : Char) (cs : List Char) : marks (c :: cs) [] = false := by
  rw [marks]
  · simp
  · simp

/-- One character of an operator, and those that have to follow at once. -/
theorem marks_cons_mark (c : Char) (cs : List Char) (d : Char) (joined : Bool) (span : Span)
    (ts : List Tree) :
    marks (c :: cs) (.mark d joined span :: ts) =
      (c == d && (cs.isEmpty || joined && marks cs ts)) := by
  cases cs with
  | nil => simp [marks]
  | cons e es => simp [marks, Bool.and_assoc]

/-- A single mark is an operator, whatever follows it. -/
theorem operator_cons_mark {op : String} {m : Char} (hop : op.toList = [m]) (joined : Bool)
    (span : Span) (ts : List Tree) : operator op (.mark m joined span :: ts) = true := by
  rw [operator, hop, marks_cons_mark]
  simp

/-- Only marks make an operator. -/
theorem marks_cons_of_ne {c : Char} {cs : List Char} {t : Tree} {ts : List Tree}
    (ht : ∀ d joined span, t ≠ .mark d joined span) : marks (c :: cs) (t :: ts) = false := by
  rw [marks]
  · rintro _ d joined span _ _ ⟨⟩
    exact ht d joined span rfl
  · rintro _ _ d joined span _ _ ⟨⟩
    exact ht d joined span rfl

/-- Trees that begin with an operator begin with its first mark. -/
theorem exists_mark_of_operator {op : String} {c : Char} {cs : List Char} {ts : List Tree}
    (hop : op.toList = c :: cs) (h : operator op ts = true) :
    ∃ joined span more, ts = .mark c joined span :: more := by
  rw [operator, hop] at h
  rcases ts with _ | ⟨_ | _ | _ | ⟨d, joined, span⟩ | _, ts⟩
  case cons.mark =>
    rw [marks_cons_mark, Bool.and_eq_true, beq_iff_eq] at h
    exact ⟨joined, span, ts, by rw [h.1]⟩
  all_goals simp [marks_cons_of_ne] at h

/-- An operator is not longer than the trees that begin with it. -/
theorem length_le_of_marks {cs : List Char} {ts : List Tree} (h : marks cs ts = true) :
    cs.length ≤ ts.length := by
  induction cs generalizing ts with
  | nil => exact Nat.zero_le _
  | cons c cs ih =>
    rcases ts with _ | ⟨_ | _ | _ | ⟨d, joined, span⟩ | _, ts⟩
    case cons.mark =>
      rw [marks_cons_mark, Bool.and_eq_true, Bool.or_eq_true, Bool.and_eq_true] at h
      rcases h.2 with he | ⟨-, hm⟩
      · simp [List.isEmpty_iff.mp he]
      · exact Nat.succ_le_succ (ih hm)
    all_goals simp [marks_cons_of_ne] at h

/-- Trees that are as long as an operator tell whether they begin with it. -/
theorem marks_append_of_length_le {cs : List Char} {ts : List Tree} (h : cs.length ≤ ts.length)
    (tail : List Tree) : marks cs (ts ++ tail) = marks cs ts := by
  induction cs generalizing ts with
  | nil => simp
  | cons c cs ih =>
    rcases ts with _ | ⟨t, ts⟩
    · simp at h
    · have hlen : cs.length ≤ ts.length := Nat.le_of_succ_le_succ h
      cases t with
      | mark d joined span => rw [List.cons_append, marks_cons_mark, marks_cons_mark, ih hlen]
      | _ => simp [marks_cons_of_ne]

/-- An operator that has been seen is seen whatever comes after it. -/
theorem operator_append {op : String} {ts : List Tree} (h : operator op ts = true)
    (tail : List Tree) : operator op (ts ++ tail) = true :=
  (marks_append_of_length_le (length_le_of_marks h) tail).trans h

/-- An operator is not looked for in what comes after a mark that is not in it. -/
theorem marks_append_cons {cs : List Char} {c : Char} (hc : c ∉ cs) (ts : List Tree) (joined : Bool)
    (span : Span) (more : List Tree) :
    marks cs (ts ++ .mark c joined span :: more) = marks cs ts := by
  induction cs generalizing ts with
  | nil => simp
  | cons d cs ih =>
    rw [List.mem_cons, not_or] at hc
    rcases ts with _ | ⟨t, ts⟩
    · simp [marks_cons_mark, Ne.symm hc.1]
    · cases t with
      | mark e joined span => rw [List.cons_append, marks_cons_mark, marks_cons_mark, ih hc.2]
      | _ => simp [marks_cons_of_ne]

/-- An operator with neither a comma nor a `>` is not looked for in what comes after an entry. -/
theorem marks_append {cs : List Char} (hcomma : ',' ∉ cs) (hclose : '>' ∉ cs) (ts : List Tree)
    {tail : List Tree} (ht : k.Tail tail) : marks cs (ts ++ tail) = marks cs ts := by
  cases k with
  | entry =>
    cases ht with
    | nothing => rw [List.append_nil]
    | comma joined span more => exact marks_append_cons hcomma ts joined span more
  | bracket =>
    obtain ⟨joined, span, more, rfl⟩ := ht
    exact marks_append_cons hclose ts joined span more

/-- Of the characters of an operator it is only a last `>` that is found in a tail. -/
theorem marks_tail {c : Char} {cs : List Char} {tail : List Tree} (ht : k.Tail tail)
    (hcomma : c ≠ ',') (hclose : cs = [] ∨ c ≠ '>') :
    marks (c :: cs) tail = (!k.isEntry && c == '>') := by
  cases k with
  | entry =>
    cases ht with
    | nothing => simp [Ending.isEntry]
    | comma joined span more => simp [marks_cons_mark, hcomma, Ending.isEntry]
  | bracket =>
    obtain ⟨joined, span, more, rfl⟩ := ht
    rw [marks_cons_mark]
    rcases hclose with rfl | hclose
    · simp [Ending.isEntry]
    · rw [beq_eq_false_iff_ne.mpr hclose, Bool.false_and, Bool.and_false]

/-- An operator with a `>` at its end at most is found in all tails or in none. -/
theorem marks_append_tail {cs : List Char} (hcomma : ',' ∉ cs) (hclose : '>' ∉ cs.dropLast)
    (ts : List Tree) {tail tail' : List Tree} (ht : k.Tail tail) (ht' : k.Tail tail') :
    marks cs (ts ++ tail) = marks cs (ts ++ tail') := by
  induction cs generalizing ts with
  | nil => simp
  | cons c cs ih =>
    rw [List.mem_cons, not_or] at hcomma
    have hcut : cs = [] ∨ c ≠ '>' ∧ '>' ∉ cs.dropLast := by
      rcases cs with _ | ⟨e, es⟩
      · exact .inl rfl
      · rw [List.dropLast_cons_cons, List.mem_cons, not_or] at hclose
        exact .inr ⟨Ne.symm hclose.1, hclose.2⟩
    rcases ts with _ | ⟨t, ts⟩
    · have hc := hcut.imp_right And.left
      rw [List.nil_append, List.nil_append, marks_tail ht (Ne.symm hcomma.1) hc,
        marks_tail ht' (Ne.symm hcomma.1) hc]
    · cases t with
      | mark d joined span =>
        rw [List.cons_append, List.cons_append, marks_cons_mark, marks_cons_mark]
        rcases hcut with rfl | ⟨-, hcs⟩
        · rfl
        · rw [ih hcomma.2 hcs]
      | _ => simp [marks_cons_of_ne]

theorem operator_blind {op : String} (h : ',' ∉ op.toList ∧ '>' ∉ op.toList.dropLast) :
    Blind k inner (operator op) :=
  fun ts _ _ ht ht' _ ↦ marks_append_tail h.1 h.2 ts ht ht'

/-- A single mark is compared with a tree of the entry if there is one left, and with the `>` after
it otherwise. -/
theorem operator_blind_inner {op : String} (h : op.toList.length ≤ 1) :
    Blind k k.isEntry (operator op) := by
  rintro (_ | ⟨t, ts⟩) tail tail' ht ht' hts
  · cases k with
    | entry => exact absurd rfl (hts rfl)
    | bracket =>
      obtain ⟨joined, span, more, rfl⟩ := ht
      obtain ⟨joined', span', more', rfl⟩ := ht'
      have hmarks : ∀ cs : List Char, cs.length ≤ 1 → marks cs (.mark '>' joined span :: more) =
          marks cs (.mark '>' joined' span' :: more') := by
        rintro (_ | ⟨c, _ | ⟨d, cs⟩⟩) hcs
        · simp
        · simp [marks_cons_mark]
        · simp at hcs
      exact hmarks op.toList h
  · have hlen : op.toList.length ≤ (t :: ts).length := Nat.le_trans h (by simp)
    exact (marks_append_of_length_le hlen tail).trans (marks_append_of_length_le hlen tail').symm

/-- Where an entry ends, an item in it does. -/
theorem atEnd_blind : Blind k inner fun ts ↦ ts.isEmpty || operator "," ts := by
  rintro (_ | ⟨t, ts⟩) tail tail' ht ht' -
  · cases k with
    | entry => cases ht <;> cases ht' <;> rfl
    | bracket =>
      obtain ⟨joined, span, more, rfl⟩ := ht
      obtain ⟨joined', span', more', rfl⟩ := ht'
      rfl
  · have hcomma : ∀ more, operator "," (t :: ts ++ more) = operator "," (t :: ts) :=
      marks_append_of_length_le (by simp)
    dsimp only
    rw [hcomma, hcomma, List.cons_append, List.cons_append, List.isEmpty_cons, List.isEmpty_cons]

theorem operator_asks {op : String} (h : ',' ∉ op.toList ∧ '>' ∉ op.toList) :
    Asks k op.toList.length (operator op) := by
  intro ts tail ht hop
  rw [operator, marks_append h.1 h.2 ts ht] at hop
  exact length_le_of_marks hop

theorem length_of_operator {op : String} {ts : List Tree} (h : operator op ts = true) :
    op.toList.length ≤ ts.length :=
  length_le_of_marks h

/-- A test that asks for a tree needs one. -/
theorem length_of_first {test : List Tree → Bool} {ts : List Tree} (h : test ts = true)
    (hnil : test [] = false) : 1 ≤ ts.length := by
  cases ts with
  | nil =>
    rw [hnil] at h
    cases h
  | cons t ts => simp

/-! ## Literals -/

/-- Whether the trees begin with a number without its sign. -/
def number : List Tree → Bool
  | .literal t _ :: _ => isNumber t
  | _ => false

theorem number_blind : Blind k inner number :=
  .ofHead rfl (fun _ _ _ _ ↦ rfl) (by rintro (_ | _ | _ | _ | _) ts <;> rfl)

theorem literal_cons_mark (d : Char) (joined : Bool) (span : Span) (ts : List Tree) :
    literal (.mark d joined span :: ts) = (d == '-' && number ts) := by
  by_cases hd : d = '-'
  · subst hd
    rcases ts with _ | ⟨_ | _ | _ | _ | _, ts⟩ <;> rfl
  · rw [literal]
    · simp [hd]
    · simp
    · simp
    · rintro _ _ _ _ _ ⟨⟩
      exact hd rfl

theorem literal_tail {tail : List Tree} (ht : k.Tail tail) : literal tail = false := by
  cases k with
  | entry => cases ht <;> rfl
  | bracket =>
    obtain ⟨joined, span, more, rfl⟩ := ht
    rfl

theorem literal_blind : Blind k inner literal := by
  rintro (_ | ⟨t, ts⟩) tail tail' ht ht' -
  · exact (literal_tail ht).trans (literal_tail ht').symm
  · cases t with
    | mark d joined span =>
      rw [List.cons_append, List.cons_append, literal_cons_mark, literal_cons_mark,
        number_blind ts tail tail' ht ht' (fun h : false = true ↦ nomatch h)]
    | _ => rfl

end Ahead

end TypedIds
