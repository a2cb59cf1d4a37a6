import TypedIds.Proofs.Marker.Args

/-!
# What stands around an option

An option whose value is a text is three trees, and what comes after it cannot make it longer.  So
arguments that hold it after some other entries can be taken apart there: into the entries before
it (`SpelledBefore.spelledAll_iff`), the option, and the entries after it
(`IsTextOption.spelledAll_iff`).  Hence the option can be replaced by another value for it, and
nothing else is read in another way (`MarkerArgs.exists_read_replace`).
-/

set_option autoImplicit false

namespace TypedIds

open MarkerEntry

/-- How entries are spelled before another one: with a comma after each. -/
inductive SpelledBefore : List MarkerEntry → List Tree → Prop
  | nil : SpelledBefore [] []
  | cons {trees more : List Tree} {e : MarkerEntry} {es : List MarkerEntry} (joined : Bool)
      (comma : Span) (h : e.Spelled trees) (hmore : SpelledBefore es more) :
      SpelledBefore (e :: es) (trees ++ .mark ',' joined comma :: more)

/-- What may come before an entry: entries, or what no arguments begin with, so that nothing could
be read however they go on. -/
def BeforeEntry (front : List Tree) : Prop :=
  (∃ es, SpelledBefore es front) ∨ ∀ es rest, ¬SpelledAll es (front ++ rest)

variable {es fs : List MarkerEntry} {front rest : List Tree}

/-- What is spelled after some entries is spelled alone. -/
theorem SpelledBefore.spelledAll_iff (h : SpelledBefore es front) :
    SpelledAll fs (front ++ rest) ↔ ∃ gs, fs = es ++ gs ∧ SpelledAll gs rest := by
  induction h generalizing fs with
  | nil => exact ⟨fun hfs ↦ ⟨fs, rfl, hfs⟩, fun ⟨gs, hfs, hgs⟩ ↦ hfs ▸ hgs⟩
  | @cons trees more e es joined comma he hes ih =>
    rw [List.append_assoc, List.cons_append]
    constructor
    · intro hfs
      generalize hts : trees ++ .mark ',' joined comma :: (more ++ rest) = ts at hfs
      cases hfs with
      | nil => simp at hts
      | last he' =>
        have h := Grammar.spelled_unique he he' (.comma joined comma _) .nothing
          (hts.trans (List.append_nil _).symm)
        exact absurd h.2 (by simp)
      | @cons trees' more' e' fs joined' comma' he' hfs =>
        obtain ⟨rfl, htail⟩ := Grammar.spelled_unique he he' (.comma joined comma _)
          (.comma joined' comma' _) hts
        obtain rfl : more ++ rest = more' := (List.cons.inj htail).2
        obtain ⟨gs, rfl, hgs⟩ := ih.mp hfs
        exact ⟨gs, rfl, hgs⟩
    · rintro ⟨gs, rfl, hgs⟩
      exact .cons joined comma he (ih.mpr ⟨gs, rfl, hgs⟩)

/-- The trees of an option whose value is a text.  The option `private_constructor` has no such
value, and is complete without one. -/
def IsTextOption (trees : List Tree) : Prop :=
  ∃ key s joined sign text place, key ≠ "private_constructor" ∧
    trees = [.word key s, .mark '=' joined sign, .literal text place]

variable {trees trees' back back' : List Tree} {e e' : MarkerEntry}

/-- Whatever comes after an option with a text, it is that option which comes first. -/
theorem IsTextOption.eq_of_spelled (h : IsTextOption trees) (he : e.Spelled trees')
    (heq : trees ++ back = trees' ++ back') : trees' = trees ∧ back = back' := by
  obtain ⟨key, s, joined, sign, text, place, hkey, rfl⟩ := h
  cases he <;> simp only [List.cons_append, List.nil_append, List.cons.injEq, Tree.word.injEq,
    Tree.mark.injEq, reduceCtorEq, false_and, and_false] at heq
  case component => exact absurd heq.2.1.1 (by decide)
  case isPrivate => exact absurd heq.1.1 hkey
  all_goals
    obtain ⟨⟨rfl, rfl⟩, ⟨-, rfl, rfl⟩, hliteral, rfl⟩ := heq
    exact ⟨by rw [hliteral], rfl⟩

/-- What comes after an option with a text is the end, or a comma and further entries. -/
theorem IsTextOption.spelledAll_iff (h : IsTextOption trees) :
    SpelledAll fs (trees ++ back) ↔
      ∃ x gs, fs = x :: gs ∧ x.Spelled trees ∧
        (back = [] ∧ gs = [] ∨
          ∃ joined comma more, back = .mark ',' joined comma :: more ∧ SpelledAll gs more) := by
  constructor
  · intro hfs
    generalize hts : trees ++ back = ts at hfs
    cases hfs with
    | nil =>
      obtain ⟨_, _, _, _, _, _, -, rfl⟩ := h
      cases hts
    | @last _ x hx =>
      obtain ⟨rfl, rfl⟩ := h.eq_of_spelled hx (hts.trans (List.append_nil _).symm)
      exact ⟨x, [], rfl, hx, .inl ⟨rfl, rfl⟩⟩
    | @cons _ more x gs joined comma hx hgs =>
      obtain ⟨rfl, rfl⟩ := h.eq_of_spelled hx hts
      exact ⟨x, gs, rfl, hx, .inr ⟨joined, comma, more, rfl, hgs⟩⟩
  · rintro ⟨x, gs, rfl, hx, ⟨rfl, rfl⟩ | ⟨joined, comma, more, rfl, hgs⟩⟩
    · rw [List.append_nil]
      exact .last hx
    · exact .cons joined comma hx hgs

/-- Trees that spell an entry spell no other. -/
theorem MarkerEntry.Spelled.unique (h : e.Spelled trees) (h' : e'.Spelled trees) : e = e' :=
  (Grammar.spelled_unique h h' .nothing .nothing rfl).1

/-- An option with a text is no component. -/
theorem IsTextOption.component?_eq_none (h : IsTextOption trees) (he : e.Spelled trees) :
    e.component? = none := by
  obtain ⟨_, _, _, _, _, _, -, rfl⟩ := h
  generalize hts : [Tree.word _ _, .mark '=' _ _, .literal _ _] = ts at he
  cases he with
  | component =>
    simp only [List.cons.injEq, Tree.mark.injEq] at hts
    exact absurd hts.2.1.1 (by decide)
  | _ => rfl

/-- What an option among other entries says is added to what they say. -/
theorem Entries.ofList_insert (he : e.component? = none)
    (hnodup : (MarkerEntry.keys (es ++ e :: fs)).Nodup) :
    Entries.ofList (es ++ e :: fs) = (Entries.ofList (es ++ fs)).add e := by
  have hperm : (es ++ e :: fs).Perm (es ++ fs ++ [e]) :=
    List.perm_middle.trans (List.perm_append_singleton e (es ++ fs)).symm
  have hcomponents : MarkerEntry.components (es ++ e :: fs) =
      MarkerEntry.components (es ++ fs ++ [e]) := by
    simp [MarkerEntry.components, he]
  have hlast : (MarkerEntry.keys (es ++ fs ++ [e])).Nodup := (hperm.filterMap _).nodup_iff.mp hnodup
  have hothers : (MarkerEntry.keys (es ++ fs)).Nodup :=
    hlast.sublist ((List.sublist_append_left _ _).filterMap _)
  rw [MarkerEntry.ofList_perm hnodup hperm hcomponents,
    Entries.ofList_concat ((MarkerEntry.nodup_keys_concat hothers).mp hlast)]

/-- What arguments say that set a text option, all of whose entries but that one are `others`. -/
def MarkerArgs.ofInserted (kind : MarkerKind) (others : List MarkerEntry) (e : MarkerEntry)
    (span : Span) : MarkerArgs :=
  let all := (Entries.ofList others).add e
  ⟨if kind.isScalar then [scalarComponent kind all.options] else all.components, all.options, span⟩

/-- **A text option may be replaced by another one that sets the same option**, whatever stands
around it: the arguments are still read, and say the same about all else. -/
theorem MarkerArgs.exists_read_replace {kind : MarkerKind} {span : Span} {m : MarkerArgs}
    (hfront : BeforeEntry front) (h : IsTextOption trees)
    (hm : MarkerArgs.read kind (front ++ (trees ++ back)) span = .ok m) :
    ∃ x others, x.Spelled trees ∧ m = ofInserted kind others x span ∧
      ∀ y trees', IsTextOption trees' → y.Spelled trees' → y.key? = x.key? →
        MarkerArgs.read kind (front ++ (trees' ++ back)) span =
          .ok (ofInserted kind others y span) := by
  obtain ⟨all, hall, hnodup, hscalar, rfl⟩ := read_iff_spelled.mp hm
  obtain ⟨es, hes⟩ | hunread := hfront
  case inr => exact absurd hall (hunread _ _)
  obtain ⟨_, rfl, hrest⟩ := hes.spelledAll_iff.mp hall
  obtain ⟨x, gs, rfl, hx, hback⟩ := h.spelledAll_iff.mp hrest
  have hinserted {y : MarkerEntry} (hy : y.component? = none)
      (hkeys : (keys (es ++ y :: gs)).Nodup) :
      ofEntries kind (es ++ y :: gs) span = ofInserted kind (es ++ gs) y span := by
    rw [ofEntries, Entries.ofList_insert hy hkeys, ofInserted]
  refine ⟨x, es ++ gs, hx, hinserted (h.component?_eq_none hx) hnodup, fun y trees' h' hy hkey ↦ ?_⟩
  have hkeys : keys (es ++ y :: gs) = keys (es ++ x :: gs) := by
    simp [keys, List.filterMap_cons, hkey]
  have hcomponents : MarkerEntry.components (es ++ y :: gs) =
      MarkerEntry.components (es ++ x :: gs) := by
    simp [MarkerEntry.components, h.component?_eq_none hx, h'.component?_eq_none hy]
  rw [← hkeys] at hnodup
  rw [← hcomponents] at hscalar
  have hspelled : SpelledAll (es ++ y :: gs) (front ++ (trees' ++ back)) :=
    hes.spelledAll_iff.mpr ⟨_, rfl, h'.spelledAll_iff.mpr ⟨y, gs, rfl, hy, hback⟩⟩
  exact read_iff_spelled.mpr
    ⟨_, hspelled, hnodup, hscalar, (hinserted (h'.component?_eq_none hy) hnodup).symm⟩

end TypedIds
