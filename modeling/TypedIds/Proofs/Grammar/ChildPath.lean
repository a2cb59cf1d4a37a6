import TypedIds.Proofs.Grammar.Path

/-!
# The path of a name inside what a path names

Trees that are read as a path are read as a longer one if `::` and a name come after them, and the
longer path is read where a type is wanted.  So a path that has been read can be put before a name
and the whole be read again, whatever arguments the path has.

A reader `Extends` by some trees if it reads the same with these trees after what it is given.  No
reader of a single name of a path looks so far ahead that it would mistake them for its own, and
arguments end at their own `>`.  The rounds of the loop over the names are the one place where the
new name shows (`manyFor_concat`).
-/

set_option autoImplicit false

namespace TypedIds

namespace Reader

variable {α β : Type} {tail : List Tree}

/-! ## Readers with further trees after what they are given -/

/-- What a reader reads it also reads with these trees at the end, which it does not take. -/
structure Extends (tail : List Tree) (p : Reader α) : Prop where
  shrinks : Shrinks p
  run : ∀ {ts rest : List Tree} {scope : Span} {a : α},
    p ⟨ts, scope, none⟩ = .ok (a, ⟨rest, scope, none⟩) →
    p ⟨ts ++ tail, scope, none⟩ = .ok (a, ⟨rest ++ tail, scope, none⟩)

namespace Extends

variable {p : Reader α} {f : α → Reader β}

theorem never (h : Fails p) : Extends tail p :=
  ⟨fun c _ _ hp ↦ absurd hp (h c _), fun hp ↦ absurd hp (h _ _)⟩

theorem pure (a : α) : Extends tail (pure a) where
  shrinks := .pure a
  run h := by
    obtain ⟨rfl, hc⟩ := Prod.mk.inj (Except.ok.inj h)
    rw [(Cursor.mk.inj hc).1]
    rfl

theorem bind (hp : Extends tail p) (hf : ∀ a, Extends tail (f a)) : Extends tail (p >>= f) where
  shrinks := hp.shrinks.bind fun a ↦ (hf a).shrinks
  run h := by
    obtain ⟨a, mid, -, -, ha, hb⟩ := exists_between hp.shrinks (fun a ↦ (hf a).shrinks) h
    rw [bind_apply (hp.run ha)]
    exact (hf a).run hb

theorem ite {c : Prop} [Decidable c] {q : Reader α} (hp : Extends tail p) (hq : Extends tail q) :
    Extends tail (if c then p else q) := by
  split
  · exact hp
  · exact hq

/-- A choice between two readers before the same continuation. -/
theorem iteBind {c : Prop} [Decidable c] {q : Reader α} (hp : Extends tail p)
    (hq : Extends tail q) (hf : ∀ a, Extends tail (f a)) :
    Extends tail (if c then p >>= f else q >>= f) :=
  ite (bind hp hf) (bind hq hf)

/-- A test that does not see the trees at the end if what it chooses can be read. -/
theorem ofSees {test : List Tree → Bool} {g : Bool → Reader β}
    (htest : ∀ c r, g (test c.trees) c = .ok r → test (c.trees ++ tail) = test c.trees)
    (hg : ∀ b, Extends tail (g b)) : Extends tail (sees test >>= g) where
  shrinks := .bind (.sees test) fun b ↦ (hg b).shrinks
  run {ts rest scope a} h := by
    rw [bind_apply (rfl : sees test ⟨ts, scope, none⟩ = .ok (test ts, ⟨ts, scope, none⟩))] at h
    rw [bind_apply (rfl : sees test ⟨ts ++ tail, scope, none⟩ =
      .ok (test (ts ++ tail), ⟨ts ++ tail, scope, none⟩)), htest _ _ h]
    exact (hg (test ts)).run h

/-- A test that does not see the trees at the end. -/
theorem sees {test : List Tree → Bool} (h : ∀ ts, test (ts ++ tail) = test ts) :
    Extends tail (sees test) :=
  ofSees (fun _ _ _ ↦ h _) fun b ↦ pure b

theorem ofTakesFront (h : TakesFront p) : Extends tail p where
  shrinks := h.shrinks
  run {ts rest scope a} hp := by
    obtain ⟨front, -, htrees, -, hfront⟩ := h _ _ _ hp
    obtain rfl : ts = front ++ rest := htrees
    rw [List.append_assoc]
    exact hfront _ _ _

/-- What ends at a `>` does so with any trees after it. -/
theorem closed (hp : ∀ most, Follows .bracket false most p p) (hf : ∀ a, Extends tail (f a)) :
    Extends tail (do let a ← p; operator ">"; f a) where
  shrinks := (hp 0).shrinks.bind fun a ↦
    (takesFront_operator (by decide)).shrinks.bind fun _ ↦ (hf a).shrinks
  run {ts rest scope b} h := by
    have hclose : TakesFront (operator ">") := takesFront_operator (by decide)
    have hrest := fun a ↦ (ofTakesFront hclose).bind fun _ ↦ hf a
    obtain ⟨a, mid, -, ⟨inner, rfl⟩, ha, hb⟩ :=
      exists_between (hp 0).shrinks (fun a ↦ (hrest a).shrinks) h
    obtain ⟨⟨⟩, next, hmark, -⟩ := bind_eq_ok hb
    obtain ⟨joined, s, hmid⟩ := (operator_eq_ok_iff '>' rfl).mp hmark
    obtain rfl : mid = .mark '>' joined s :: next.trees := congrArg Cursor.trees hmid
    rw [← List.nil_append (.mark '>' joined s :: next.trees)] at ha
    have hagain := (hp (inner.length + 1)).run (Nat.lt_succ_self _) ⟨joined, s, _, rfl⟩
      ⟨joined, s, next.trees ++ tail, rfl⟩ (by simp) ha
    rw [List.append_assoc, List.cons_append, bind_apply hagain]
    exact (hrest a).run hb

end Extends

theorem Shrinks.manyFor {go : List Tree → Bool} {item : Reader α} (h : Shrinks item) (n : Nat) :
    Shrinks (manyFor go item n) := by
  induction n with
  | zero => exact fun _ _ _ hp ↦ absurd hp (Fails.bind (fun _ ↦ .fail _ _) _ _)
  | succ n ih =>
    refine .bind (.sees go) fun more ↦ ?_
    split
    · exact h.bind fun a ↦ ih.bind fun as ↦ .pure _
    · exact .pure _

/-- Items to the end of the trees, and one more item after them. -/
theorem manyFor_concat {go : List Tree → Bool} {item : Reader α} {u : α} {scope : Span}
    (hitem : Extends tail item) (hgo : ∀ ts, go ts = true → go (ts ++ tail) = true)
    (htail : go tail = true) (hu : item ⟨tail, scope, none⟩ = .ok (u, ⟨[], scope, none⟩))
    (hnil : go [] = false) {n m : Nat} (hnm : n < m) {ts : List Tree} {as : List α}
    (h : manyFor go item n ⟨ts, scope, none⟩ = .ok (as, ⟨[], scope, none⟩)) :
    manyFor go item m ⟨ts ++ tail, scope, none⟩ = .ok (as ++ [u], ⟨[], scope, none⟩) := by
  induction n generalizing m ts as with
  | zero => exact absurd h (Fails.bind (fun _ ↦ .fail _ _) _ _)
  | succ n ih =>
    obtain _ | m := m
    · cases hnm
    have hnm := Nat.lt_of_succ_lt_succ hnm
    rw [manyFor, bind_apply (rfl : sees go ⟨ts, scope, none⟩ = .ok (go ts, ⟨ts, scope, none⟩))] at h
    rw [manyFor, bind_apply (rfl : sees go ⟨ts ++ tail, scope, none⟩ =
      .ok (go (ts ++ tail), ⟨ts ++ tail, scope, none⟩))]
    cases hts : go ts with
    | false =>
      rw [hts] at h
      cases h
      obtain _ | m := m
      · cases hnm
      rw [List.nil_append, htail, if_pos rfl, bind_apply hu, manyFor, bind_assoc]
      rw [bind_apply (rfl : sees go ⟨[], scope, none⟩ = .ok (go [], ⟨[], scope, none⟩)), hnil]
      rfl
    | true =>
      rw [hts, if_pos rfl] at h
      rw [hgo ts hts, if_pos rfl]
      have hmore : Shrinks (manyFor go item n) := hitem.shrinks.manyFor n
      obtain ⟨a, mid, -, -, ha, h⟩ :=
        exists_between hitem.shrinks (fun a ↦ hmore.bind fun as ↦ .pure _) h
      obtain ⟨as', mid', -, -, has, h⟩ := exists_between hmore (fun as ↦ .pure _) h
      cases h
      rw [bind_apply (hitem.run ha), bind_apply (ih hnm has)]
      rfl

end Reader

/-- `::` and a name. -/
def childTrees (name : String) (s : Span) : List Tree :=
  [.mark ':' true s, .mark ':' false s, .word name s]

namespace Grammar

open Reader

/-! ## Arguments -/

namespace Nested

variable {r : Nested}

theorem Steady.extends_argumentsAfter (hr : r.Steady) (tail : List Tree) (turbofish : Bool) :
    Extends tail (r.argumentsAfter turbofish) :=
  .bind (.ofTakesFront (takesFront_operator (by decide))) fun _ ↦
    .closed (fun _ ↦ hr.argumentList) fun _ ↦ .pure _

theorem Steady.extends_argumentsOf (hr : r.Steady) (tail : List Tree) :
    Extends tail r.argumentsOf := by
  rw [Nested.argumentsOf, operator?_bind]
  refine .ofSees (fun c a h ↦ ?_) fun found ↦ .ite ?_ (hr.extends_argumentsAfter tail false)
  · cases hc : Ahead.operator "::" c.trees with
    | true => exact Ahead.operator_append hc tail
    | false =>
      rw [hc, if_neg Bool.false_ne_true] at h
      obtain ⟨⟨⟩, next, hopen, -⟩ := bind_eq_ok h
      obtain ⟨joined, s, rfl⟩ := (operator_eq_ok_iff '<' rfl).mp hopen
      simp [Ahead.operator, Ahead.marks_cons_mark]
  · exact .bind (.ofTakesFront (takesFront_operator (by decide))) fun _ ↦
      hr.extends_argumentsAfter tail true

theorem extends_arguments (tail : List Tree) (depth : Nat) :
    Extends tail (nestedTo depth).arguments := by
  cases depth with
  | zero => exact .never (.bind fun _ ↦ .fail _ _)
  | succ depth => exact (steady_nestedTo depth).extends_argumentsOf tail

end Nested

/-! ## Paths -/

variable {name : String} {s : Span}

theorem startsArguments_append (ts : List Tree) :
    startsArguments true (ts ++ childTrees name s) = startsArguments true ts := by
  have hmarks : ∀ (op : String) (ts : List Tree), ':' ∉ op.toList →
      Ahead.operator op (ts ++ childTrees name s) = Ahead.operator op ts :=
    fun op ts hop ↦ Ahead.marks_append_cons hop ts true s _
  have hturbofish : (Ahead.operator "::" (ts ++ childTrees name s) &&
      Ahead.operator "<" ((ts ++ childTrees name s).drop 2)) =
        (Ahead.operator "::" ts && Ahead.operator "<" (ts.drop 2)) := by
    obtain _ | ⟨t, _ | ⟨u, ts⟩⟩ := ts
    · rfl
    · have hone : Ahead.operator "::" [t] = false := by
        cases t <;> simp [Ahead.operator, Ahead.marks]
      rw [hone]
      exact Bool.and_false _
    · rw [Ahead.operator, Ahead.marks_append_of_length_le (by simp), ← Ahead.operator]
      exact congrArg (Ahead.operator "::" (t :: u :: ts) && ·) (hmarks "<" ts (by decide))
  rw [startsArguments, startsArguments, hmarks "<" ts (by decide), hmarks "<=" ts (by decide),
    hmarks "<<=" ts (by decide), hturbofish]

namespace Nested

variable {r : Nested}

/-- The name at the end. -/
theorem another_childTrees (hname : isName name = true) (scope : Span) :
    r.another ⟨childTrees name s, scope, none⟩ = .ok (⟨name, .none⟩, ⟨[], scope, none⟩) := by
  have hplain : Segment.IsPlain ⟨name, .none⟩ := ⟨.inl hname, rfl⟩
  exact another_plain hplain s s s rfl

variable (hargs : Extends (childTrees name s) r.arguments)

include hargs

theorem extends_segment : Extends (childTrees name s) (r.segment true) := by
  have hhead : ∀ ws, ∀ ts, Ahead.oneOf ws (ts ++ childTrees name s) = Ahead.oneOf ws ts := by
    rintro ws (_ | ⟨t, ts⟩)
    · rfl
    · cases t <;> rfl
  have hself : ∀ ts, Ahead.word "Self" (ts ++ childTrees name s) = Ahead.word "Self" ts := by
    rintro (_ | ⟨t, ts⟩)
    · rfl
    · cases t <;> rfl
  refine .bind (.sees (hhead _)) fun _ ↦ .ite ?_ (.bind (.sees hself) fun _ ↦ ?_)
  · exact .bind (.ofTakesFront takesFront_anyWord) fun _ ↦ .pure _
  · dsimp only
    refine .iteBind (.ofTakesFront takesFront_anyWord) (.ofTakesFront takesFront_name)
      fun (w, _) ↦ ?_
    refine .bind (.sees startsArguments_append) fun _ ↦ .ite ?_ (.pure _)
    exact .bind hargs fun _ ↦ .pure _

theorem extends_another : Extends (childTrees name s) r.another :=
  .bind (.ofTakesFront (takesFront_operator (by decide))) fun _ ↦ extends_segment hargs

theorem many_another (hname : isName name = true) {ts : List Tree} {scope : Span}
    {as : List Segment} (h : many startsMore r.another ⟨ts, scope, none⟩ =
      .ok (as, ⟨[], scope, none⟩)) :
    many startsMore r.another ⟨ts ++ childTrees name s, scope, none⟩ =
      .ok (as ++ [⟨name, .none⟩], ⟨[], scope, none⟩) := by
  have hlen : ts.length + 1 < (ts ++ childTrees name s).length + 1 := by simp [childTrees]
  refine manyFor_concat (extends_another hargs) (fun us hus ↦ ?_) rfl
    (another_childTrees hname scope) rfl hlen h
  rw [startsMore, Bool.and_eq_true] at hus ⊢
  have hgroup : ∀ us, Ahead.group .parens (us ++ childTrees name s) = Ahead.group .parens us := by
    rintro (_ | ⟨t, us⟩)
    · rfl
    · cases t <;> rfl
  have hlen : 2 ≤ us.length := Ahead.length_of_operator hus.1
  rw [List.drop_append_of_le_length hlen, hgroup]
  exact ⟨Ahead.operator_append hus.1 _, hus.2⟩

theorem shrinks_pathAfter (rooted : Bool) : Shrinks (r.pathAfter rooted) :=
  (extends_segment hargs).shrinks.bind fun _ ↦
    .bind (fun c ↦ (extends_another hargs).shrinks.manyFor _ c) fun _ ↦ .pure _

theorem pathAfter_concat (hname : isName name = true) {rooted : Bool} {ts : List Tree}
    {scope : Span} {p : Path}
    (h : r.pathAfter rooted ⟨ts, scope, none⟩ = .ok (p, ⟨[], scope, none⟩)) :
    r.pathAfter rooted ⟨ts ++ childTrees name s, scope, none⟩ =
      .ok (p.child name, ⟨[], scope, none⟩) := by
  have hsegment := extends_segment hargs
  have hmany : Shrinks (many startsMore r.another) :=
    fun c ↦ (extends_another hargs).shrinks.manyFor _ c
  obtain ⟨first, mid, -, -, hfirst, h⟩ :=
    exists_between hsegment.shrinks (fun _ ↦ hmany.bind fun _ ↦ .pure _) h
  obtain ⟨more, rest, -, -, hmore, h⟩ := exists_between hmany (fun _ ↦ .pure _) h
  cases h
  rw [pathAfter, bind_apply (hsegment.run hfirst), bind_apply (many_another hargs hname hmore),
    splitLast_concat]
  rfl

/-- **A path with one more name after it.** -/
theorem path_concat (hname : isName name = true) {ts : List Tree} {scope : Span} {p : Path}
    (h : r.path ⟨ts, scope, none⟩ = .ok (p, ⟨[], scope, none⟩)) :
    r.path ⟨ts ++ childTrees name s, scope, none⟩ = .ok (p.child name, ⟨[], scope, none⟩) := by
  have hsees : ∀ ts, sees (Ahead.operator "::") ⟨ts, scope, none⟩ =
    .ok (Ahead.operator "::" ts, ⟨ts, scope, none⟩) := fun _ ↦ rfl
  rw [path_eq, operator?_bind, bind_apply (hsees _)] at h ⊢
  cases hts : Ahead.operator "::" ts with
  | true =>
    rw [hts, if_pos rfl] at h
    have hsep : Extends (childTrees name s) (operator "::") :=
      .ofTakesFront (takesFront_operator (by decide))
    obtain ⟨⟨⟩, mid, -, -, hmid, h⟩ :=
      exists_between hsep.shrinks (fun _ ↦ shrinks_pathAfter hargs true) h
    rw [if_pos (Ahead.operator_append hts _), bind_apply (hsep.run hmid)]
    exact pathAfter_concat hargs hname h
  | false =>
    rw [hts, if_neg Bool.false_ne_true] at h
    -- the path begins with a name, so the `::` at the end is not at its beginning
    obtain ⟨first, mid, hfirst, -⟩ := bind_eq_ok h
    obtain ⟨place, more, rfl, -⟩ := segment_eq_ok hfirst
    have hunrooted : ¬Ahead.operator "::" (.word first.name place :: more ++ childTrees name s) =
        true := Bool.not_eq_true _ ▸ Ahead.marks_cons_of_ne (by simp)
    rw [if_neg hunrooted]
    exact pathAfter_concat hargs hname h

omit hargs in
/-- A path of which the whole has been read, and one more name. -/
theorem path_childTrees {depth : Nat} {ts : List Tree} {scope : Span} {p : Path}
    (h : (nestedTo depth).path.run scope ts = .ok p) (hname : isName name = true) (s : Span) :
    (nestedTo depth).path ⟨ts ++ childTrees name s, scope, none⟩ =
      .ok (p.child name, ⟨[], scope, none⟩) := by
  have hpath : Shrinks (nestedTo depth).path :=
    ((steady_nestedTo depth).path : Follows .entry false 0 _ _).shrinks
  exact path_concat (extends_arguments _ depth) hname ((run_eq_ok_iff hpath).mp h)

omit hargs in
/-- **A path and one more name are read as a type**, to whatever depth the path has been read, if a
type may begin with the path. -/
theorem typeOf_childTrees {depth : Nat} {ts : List Tree} {scope : Span} {p : Path}
    (h : (nestedTo depth).path.run scope ts = .ok p) (hp : p.beginsType = true)
    (hname : isName name = true) (plus : Bool) (s : Span) :
    ((nestedTo depth).typeOf plus).run scope (ts ++ childTrees name s) =
      .ok (p.child name).toTy := by
  have htype : Shrinks ((nestedTo depth).typeOf plus) :=
    ((steady_nestedTo depth).typeOf plus : Follows .entry false 0 _ _).shrinks
  rw [run_eq_ok_iff htype]
  have hchild : (p.child name).beginsType = true := p.beginsType_child name ▸ hp
  exact typeOf_of_path plus hchild (path_childTrees h hname s) rfl

omit hargs in
/-- **Otherwise they are not**, and the problem is where the path begins. -/
theorem typeOf_childTrees_eq_error {depth : Nat} {ts : List Tree} {scope : Span} {p : Path}
    (h : (nestedTo depth).path.run scope ts = .ok p) (hp : p.beginsType = false)
    (hname : isName name = true) (plus : Bool) (s : Span) :
    ∃ place, ((nestedTo depth).typeOf plus).run scope (ts ++ childTrees name s) =
      .error ⟨.wanted typeStarts false, place⟩ := by
  have hchild : (p.child name).beginsType = false := p.beginsType_child name ▸ hp
  obtain ⟨place, hplace⟩ := typeOf_of_not_beginsType plus hchild (path_childTrees h hname s)
  exact ⟨place, by rw [run, hplace]; rfl⟩

end Nested

end Grammar

end TypedIds
