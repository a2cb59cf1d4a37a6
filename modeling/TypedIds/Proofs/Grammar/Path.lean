import TypedIds.Proofs.Grammar.Type

/-!
# Paths

A path is read name by name.  Most names are `IsUsual`: names in the sense of `isName`, or one of
the words that stand for a module or a type.  The exception is `try`, which a path may hold although
no type begins with it.

* `Nested.typeOf_of_path` — where a path is all there is and a type may begin with it, it is read as
  a type too.
* `Nested.typeOf_of_not_beginsType` — no type is read where any other path is read.
* `Nested.path_plain` — a path of usual names without arguments is read from its own code.
-/

set_option autoImplicit false

namespace TypedIds

/-! ## Usual names -/

/-- A segment is called by a name, or by one of the words that stand for a module or a type. -/
def Segment.IsUsual (s : Segment) : Prop := isName s.name = true ∨ s.name ∈ Grammar.pathWords

instance (s : Segment) : Decidable s.IsUsual := inferInstanceAs (Decidable (_ ∨ _))

/-- All segments are. -/
def Path.IsUsual (p : Path) : Prop := ∀ s ∈ p.segments, s.IsUsual

namespace Path

/-- The path that is one name. -/
def ofName (x : String) : Path := .ofNames false [] x

@[simp] theorem code_ofName (x : String) : (ofName x).code = [.word x] := rfl

theorem eq_ofName {p : Path} {x : String} (h : p.isName x = true) : p = .ofName x := by
  obtain ⟨rooted, front, ⟨name, args⟩⟩ := p
  simp only [isName, Segment.args, Segment.name, Bool.and_eq_true, Bool.not_eq_true',
    List.isEmpty_iff, beq_iff_eq] at h
  obtain ⟨⟨⟨rfl, rfl⟩, hargs⟩, rfl⟩ := h
  cases args with
  | none => rfl
  | angle => cases hargs

theorem head?_segments (p : Path) : p.segments.head? = some p.first := by
  obtain ⟨rooted, _ | ⟨a, front⟩, last⟩ := p <;> rfl

theorem first_mem_segments (p : Path) : p.first ∈ p.segments :=
  List.mem_of_head? p.head?_segments

@[simp] theorem first_child (p : Path) (name : String) : (p.child name).first = p.first := by
  obtain ⟨rooted, _ | ⟨a, front⟩, last⟩ := p <;> rfl

@[simp] theorem beginsType_child (p : Path) (name : String) :
    (p.child name).beginsType = p.beginsType := by
  rw [beginsType, beginsType, first_child]
  rfl

theorem IsUsual.beginsType {p : Path} (h : p.IsUsual) : p.beginsType = true := by
  have htry : p.first.name ≠ "try" := by
    intro htry
    rcases h p.first p.first_mem_segments with hname | hword
    · rw [htry] at hname
      exact absurd hname (by decide)
    · rw [htry] at hword
      exact absurd hword (by decide)
  rw [Path.beginsType, Bool.or_eq_true]
  exact .inr (bne_iff_ne.mpr htry)

end Path

theorem Segment.IsUsual.notMem {a : Segment} (h : a.IsUsual) {ws : List String}
    (hws : ∀ w ∈ ws, isName w = false ∧ w ∉ Grammar.pathWords) : a.name ∉ ws := by
  intro hmem
  obtain ⟨hname, hword⟩ := hws _ hmem
  rcases h with h | h
  · rw [hname] at h
    cases h
  · exact hword h

/-- What holds of all segments of a path, and of a name, holds of all segments of the longer
path. -/
theorem Path.forall_segments_child {P : Segment → Prop} {p : Path} {name : String}
    (hp : ∀ a ∈ p.segments, P a) (hname : P ⟨name, .none⟩) :
    ∀ a ∈ (p.child name).segments, P a := by
  intro a ha
  rcases List.mem_append.mp ha with ha | ha
  · exact hp a ha
  · obtain rfl := List.mem_singleton.mp ha
    exact hname

namespace Grammar

open Reader

/-! ## Names of a path -/

theorem splitLast_concat (s u : Segment) (ts : List Segment) :
    splitLast s (ts ++ [u]) = ((splitLast s ts).1 ++ [(splitLast s ts).2], u) := by
  induction ts generalizing s with
  | nil => rfl
  | cons t ts ih => simp [splitLast, ih]

theorem segments_splitLast (s : Segment) (ts : List Segment) :
    (splitLast s ts).1 ++ [(splitLast s ts).2] = s :: ts := by
  induction ts generalizing s with
  | nil => rfl
  | cons t ts ih => simp [splitLast, ih]

/-- Whether another name of a path comes next. -/
def startsMore (ts : List Tree) : Bool :=
  Ahead.operator "::" ts && !Ahead.group .parens (ts.drop 2)

namespace Nested

variable {r : Nested} {s scope : Span} {leftover : Option Diagnostic} {ts : List Tree}

/-- Another name of a path. -/
def another (r : Nested) : Reader Segment := do operator "::"; r.segment true

/-- A path after the `::` that it may begin with. -/
def pathAfter (r : Nested) (rooted : Bool) : Reader Path := do
  let first ← r.segment true
  let more ← many startsMore r.another
  return ⟨rooted, (splitLast first more).1, (splitLast first more).2⟩

theorem path_eq : r.path = operator? "::" >>= r.pathAfter := rfl

/-- The first tree of a name of a path is that name, a usual one or `try`. -/
theorem segment_eq_ok {direct : Bool} {c next : Cursor} {a : Segment}
    (h : r.segment direct c = .ok (a, next)) :
    ∃ s ts, c.trees = .word a.name s :: ts ∧ (a.IsUsual ∨ a.name = "try") := by
  obtain ⟨_ | ⟨⟨w, s⟩ | _ | _ | _ | _, ts⟩, scope, leftover⟩ := c
  case cons.word =>
    have hnamed : ∀ v : String × Span, Yields (fun a : Segment ↦ a.name = v.1)
        (do if ← sees (startsArguments direct) then return ⟨v.1, ← r.arguments⟩
            else return ⟨v.1, .none⟩) :=
      fun v ↦ .andThen fun _ ↦ .ite (.andThen fun _ ↦ .pure rfl) (.pure rfl)
    rw [segment, bind_apply (rfl : sees _ _ = _)] at h
    split at h
    next hword =>
      cases h
      have hspecial : ∀ w ∈ ["super", "self", "crate", "try"], w ∈ pathWords ∨ w = "try" := by
        decide
      exact ⟨s, ts, rfl, (hspecial w (List.contains_iff_mem.mp hword)).imp_left .inr⟩
    rw [bind_apply (rfl : sees _ _ = _)] at h
    dsimp only at h
    split at h
    next hself =>
      obtain ⟨v, mid, hv, hmore⟩ := bind_eq_ok h
      cases hv
      have ha : a.name = w := hnamed _ _ _ _ hmore
      have hw : w ∈ pathWords := (beq_iff_eq.mp hself : w = "Self") ▸ by decide
      exact ⟨s, ts, by rw [ha], .inl (.inr (ha ▸ hw))⟩
    · obtain ⟨⟨v, s'⟩, mid, hv, hmore⟩ := bind_eq_ok h
      obtain ⟨hname, hnext⟩ := name_eq_ok_iff.mp hv
      have ha : a.name = v := hnamed _ _ _ _ hmore
      exact ⟨s', mid.trees, by rw [ha, hnext], .inl (.inl (ha ▸ hname))⟩
  all_goals exact absurd h (Fails.want [.name] _ _)

/-- A usual word with no arguments after it is a segment. -/
theorem segment_word {w : String} (h : isName w = true ∨ w ∈ pathWords)
    (hts : startsArguments true ts = false) :
    r.segment true ⟨.word w s :: ts, scope, leftover⟩ =
      .ok (⟨w, .none⟩, ⟨ts, scope, leftover⟩) := by
  have hnone : (do if ← sees (startsArguments true) then return ⟨w, ← r.arguments⟩
                   else return ⟨w, .none⟩ : Reader Segment) ⟨ts, scope, leftover⟩ =
      .ok (⟨w, .none⟩, ⟨ts, scope, leftover⟩) := by
    rw [bind_apply (rfl : sees _ _ = _), hts]
    rfl
  rw [segment, bind_apply (rfl : sees _ _ = _)]
  split
  · rfl
  next hspecial =>
    rw [bind_apply (rfl : sees _ _ = _)]
    dsimp only
    split
    · exact hnone
    next hself =>
      have hname : isName w = true := by
        rcases h with hname | hword
        · exact hname
        · simp only [Ahead.oneOf, Ahead.word, pathWords, List.contains_iff_mem, List.mem_cons,
            List.not_mem_nil, beq_iff_eq] at hspecial hself hword
          grind only
      rw [bind_apply (name_apply hname ..)]
      exact hnone

/-! ## Paths as types -/

theorem path_builtIn (s s' scope : Span) (joined : Bool) (more : List Tree)
    (leftover : Option Diagnostic) :
    r.path ⟨.word "builtin" s :: .mark '#' joined s' :: more, scope, leftover⟩ =
      .ok (⟨false, [], ⟨"builtin", .none⟩⟩, ⟨.mark '#' joined s' :: more, scope, leftover⟩) := rfl

theorem binder?_apply {c : Cursor} (h : Ahead.word "for" c.trees = false) :
    r.binder? c = .ok (none, c) := by
  rw [binder?, keyword?_bind, bind_apply (rfl : sees _ c = _), h]
  rfl

theorem pathType_of_path {c next : Cursor} {p : Path} {plus : Bool} (h : r.path c = .ok (p, next))
    (hend : next.trees = []) :
    r.pathType none plus c = .ok (p.toTy, next) := by
  have hmacro : startsMacro next.trees = false := by rw [hend]; rfl
  have hplus : Ahead.operator "+" next.trees = false := by rw [hend]; rfl
  rw [pathType, bind_apply h, bind_apply (rfl : sees _ next = _), hmacro, Bool.and_false,
    if_neg Bool.false_ne_true, bind_apply (rfl : sees _ next = _), hplus, Bool.and_false]
  rfl

/-- A path begins with `::`, or with its first name. -/
theorem path_eq_ok {c next : Cursor} {p : Path} (h : r.path c = .ok (p, next)) :
    Ahead.operator "::" c.trees = p.rooted ∧
      (p.rooted = false → ∃ s more, c.trees = .word p.first.name s :: more ∧
        (p.first.IsUsual ∨ p.first.name = "try")) := by
  have hafter (rooted : Bool) {c : Cursor} (h : r.pathAfter rooted c = .ok (p, next)) :
      p.rooted = rooted ∧ ∃ s more, c.trees = .word p.first.name s :: more ∧
        (p.first.IsUsual ∨ p.first.name = "try") := by
    obtain ⟨first, mid, hfirst, h⟩ := bind_eq_ok h
    obtain ⟨more, last, -, h⟩ := bind_eq_ok h
    cases h
    have hsegments := congrArg List.head? (segments_splitLast first more)
    rw [← Path.segments.eq_1 ⟨rooted, _, _⟩, Path.head?_segments] at hsegments
    rw [Option.some.inj hsegments]
    exact ⟨rfl, segment_eq_ok hfirst⟩
  rw [path_eq, operator?_bind, bind_apply (rfl : sees _ c = _)] at h
  cases hroot : Ahead.operator "::" c.trees with
  | true =>
    rw [hroot, if_pos rfl] at h
    obtain ⟨⟨⟩, mid, -, h⟩ := bind_eq_ok h
    obtain ⟨hrooted, -⟩ := hafter true h
    exact ⟨hrooted.symm, fun hfalse ↦ absurd (hrooted.symm.trans hfalse) (by decide)⟩
  | false =>
    rw [hroot, if_neg Bool.false_ne_true] at h
    obtain ⟨hrooted, hword⟩ := hafter false h
    exact ⟨hrooted.symm, fun _ ↦ hword⟩

theorem typeAfter_of_startsPath {c : Cursor} {plus : Bool}
    (hparens : ¬Ahead.group .parens c.trees = true)
    (hfn : ¬Ahead.oneOf ["fn", "unsafe", "extern"] c.trees = true)
    (hbuiltIn : ¬startsBuiltIn c.trees = true) (hangle : ¬Ahead.operator "<" c.trees = true)
    (hpath : startsPath c.trees = true) :
    r.typeAfter none plus c = r.pathType none plus c := by
  rw [typeAfter, bind_apply (rfl : rest c = _), if_neg hparens, if_neg hfn, if_neg hbuiltIn,
    if_neg hangle, if_pos hpath]

/-- After `::` nothing but a path is read. -/
theorem typeAfter_of_root {c : Cursor} (plus : Bool) (h : Ahead.operator "::" c.trees = true) :
    Ahead.word "for" c.trees = false ∧ r.typeAfter none plus c = r.pathType none plus c := by
  obtain ⟨ts, scope, leftover⟩ := c
  have hop : "::".toList = [':', ':'] := rfl
  obtain ⟨joined, s, more, rfl⟩ := Ahead.exists_mark_of_operator hop h
  refine ⟨rfl, typeAfter_of_startsPath Bool.false_ne_true Bool.false_ne_true Bool.false_ne_true
    ?_ ?_⟩
  · simp [Ahead.operator, Ahead.marks_cons_mark]
  · simp only [startsPath, h, Bool.or_true]

/-- Nor is it after a usual name, unless the name is `builtin` and a `#` comes next. -/
theorem typeAfter_of_word {a : Segment} (plus : Bool) (ha : a.IsUsual) {s scope : Span}
    {more : List Tree} {leftover : Option Diagnostic}
    (hbuiltIn : ¬startsBuiltIn (.word a.name s :: more) = true) :
    Ahead.word "for" (.word a.name s :: more) = false ∧
      r.typeAfter none plus ⟨.word a.name s :: more, scope, leftover⟩ =
        r.pathType none plus ⟨.word a.name s :: more, scope, leftover⟩ := by
  have hfor : a.name ≠ "for" := fun hfor ↦ ha.notMem (by decide) (List.mem_singleton.mpr hfor)
  refine ⟨beq_eq_false_iff_ne.mpr hfor,
    typeAfter_of_startsPath Bool.false_ne_true ?_ hbuiltIn ?_ ?_⟩
  · rw [Ahead.oneOf, List.contains_iff_mem]
    exact ha.notMem (by decide)
  · simp [Ahead.operator, Ahead.marks_cons_of_ne]
  · rcases ha with hname | hword
    · simp [startsPath, Ahead.name, hname]
    · simp [startsPath, Ahead.oneOf, hword]

/-- A path that is all there is does not begin like a built-in type: with a `#` after it the name
would be the whole path. -/
theorem not_startsBuiltIn_of_path {c next : Cursor} {p : Path} (h : r.path c = .ok (p, next))
    (hend : next.trees = []) {w : String} {s : Span} {more : List Tree}
    (hc : c.trees = .word w s :: more) : ¬startsBuiltIn (.word w s :: more) = true := by
  intro hbuiltIn
  rw [startsBuiltIn, Bool.and_eq_true] at hbuiltIn
  obtain rfl : w = "builtin" := beq_iff_eq.mp hbuiltIn.1
  have hop : "#".toList = ['#'] := rfl
  obtain ⟨joined, s', more, rfl⟩ := Ahead.exists_mark_of_operator hop hbuiltIn.2
  obtain ⟨ts, scope, leftover⟩ := c
  subst hc
  rw [path_builtIn] at h
  cases h
  cases hend

/-- **A path is a type**, if a type may begin with it. -/
theorem typeOf_of_path {c next : Cursor} {p : Path} (plus : Bool) (hp : p.beginsType = true)
    (h : r.path c = .ok (p, next)) (hend : next.trees = []) :
    r.typeOf plus c = .ok (p.toTy, next) := by
  have hstart : Ahead.word "for" c.trees = false ∧
      r.typeAfter none plus c = r.pathType none plus c := by
    obtain ⟨hroot, hword⟩ := path_eq_ok h
    cases hrooted : p.rooted with
    | true => exact typeAfter_of_root plus (hroot.trans hrooted)
    | false =>
      obtain ⟨s, more, hc, hfirst⟩ := hword hrooted
      have husual : p.first.IsUsual := by
        refine hfirst.resolve_right ?_
        rw [Path.beginsType, hrooted, Bool.false_or] at hp
        exact bne_iff_ne.mp hp
      have hbuiltIn := not_startsBuiltIn_of_path h hend hc
      obtain ⟨ts, scope, leftover⟩ := c
      obtain rfl : ts = .word p.first.name s :: more := hc
      exact typeAfter_of_word plus husual hbuiltIn
  rw [typeOf, bind_apply (binder?_apply hstart.1)]
  show r.typeAfter none plus c = _
  rw [hstart.2]
  exact pathType_of_path h hend

/-- No type begins with the word `try`. -/
theorem typeOf_try (plus : Bool) (s scope : Span) (more : List Tree)
    (leftover : Option Diagnostic) :
    r.typeOf plus ⟨.word "try" s :: more, scope, leftover⟩ =
      .error ⟨.wanted typeStarts false, s⟩ := rfl

/-- **Any other path is no type**: the reader of types wants something else in the place of the
first name. -/
theorem typeOf_of_not_beginsType {c next : Cursor} {p : Path} (plus : Bool)
    (hp : p.beginsType = false) (h : r.path c = .ok (p, next)) :
    ∃ s, r.typeOf plus c = .error ⟨.wanted typeStarts false, s⟩ := by
  obtain ⟨ts, scope, leftover⟩ := c
  rw [Path.beginsType, Bool.or_eq_false_iff] at hp
  obtain ⟨s, more, hc, -⟩ := (path_eq_ok h).2 hp.1
  have hname : p.first.name = "try" := bne_eq_false_iff_eq.mp hp.2
  obtain rfl : ts = .word p.first.name s :: more := hc
  exact ⟨s, hname ▸ typeOf_try plus s scope more leftover⟩

end Nested

end Grammar

/-! ## Code of paths -/

theorem Tree.exists_word_of_code {ts : List Tree} {w : String} {c : Code}
    (h : Tree.codeAll ts = .word w :: c) :
    ∃ s more, ts = .word w s :: more ∧ Tree.codeAll more = c := by
  obtain _ | ⟨⟨v, s⟩ | _ | _ | _ | _, ts⟩ := ts
  case cons.word =>
    obtain ⟨hv, hts⟩ := List.cons.inj h
    obtain rfl := Token.word.inj hv
    exact ⟨s, ts, rfl, hts⟩
  all_goals simp [Tree.codeAll, Tree.code, Code.within] at h

theorem Tree.exists_mark_of_code {ts : List Tree} {m : Char} {joined : Bool} {c : Code}
    (h : Tree.codeAll ts = .mark m joined :: c) :
    ∃ s more, ts = .mark m joined s :: more ∧ Tree.codeAll more = c := by
  obtain _ | ⟨_ | _ | _ | ⟨n, j, s⟩ | _, ts⟩ := ts
  case cons.mark =>
    obtain ⟨hm, hts⟩ := List.cons.inj h
    obtain ⟨rfl, rfl⟩ := Token.mark.inj hm
    exact ⟨s, ts, rfl, hts⟩
  all_goals simp [Tree.codeAll, Tree.code, Code.within] at h

theorem Tree.eq_nil_of_code {ts : List Tree} (h : Tree.codeAll ts = []) : ts = [] := by
  obtain _ | ⟨_ | _ | _ | _ | _, ts⟩ := ts
  · rfl
  all_goals simp [Tree.codeAll, Tree.code, Code.within] at h

/-- The code of names with `::` before each. -/
def Segment.codeMore (segments : List Segment) : Code :=
  segments.flatMap fun a ↦ Code.pathSep ++ a.code

/-- A segment is a name without arguments. -/
def Segment.IsPlain (a : Segment) : Prop := a.IsUsual ∧ a.args.isNone = true

instance (a : Segment) : Decidable a.IsPlain := inferInstanceAs (Decidable (_ ∧ _))

theorem Segment.code_eq (a : Segment) : a.code = .word a.name :: a.args.code := by
  obtain ⟨name, args⟩ := a
  rfl

theorem Segment.IsPlain.code_eq {a : Segment} (h : a.IsPlain) : a.code = [.word a.name] := by
  obtain ⟨name, _ | _⟩ := a
  · rfl
  · cases h.2

theorem Segment.IsPlain.code_args {a : Segment} (h : a.IsPlain) : a.args.code = [] := by
  obtain ⟨name, _ | _⟩ := a
  · rfl
  · cases h.2

theorem Tree.exists_root_of_code {ts : List Tree} {c : Code}
    (h : Tree.codeAll ts = Code.pathSep ++ c) :
    ∃ s₁ s₂ us, ts = .mark ':' true s₁ :: .mark ':' false s₂ :: us ∧ Tree.codeAll us = c := by
  have hsep : Code.pathSep = [.mark ':' true, .mark ':' false] := rfl
  rw [hsep] at h
  obtain ⟨s₁, us, rfl, hus⟩ := Tree.exists_mark_of_code h
  obtain ⟨s₂, vs, rfl, hvs⟩ := Tree.exists_mark_of_code hus
  exact ⟨s₁, s₂, vs, rfl, hvs⟩

theorem Tree.exists_name_of_code {ts : List Tree} {a : Segment} {more : List Segment}
    (h : Tree.codeAll ts = Segment.codeMore (a :: more)) :
    ∃ s₁ s₂ s₃ us, ts = .mark ':' true s₁ :: .mark ':' false s₂ :: .word a.name s₃ :: us ∧
      Tree.codeAll us = a.args.code ++ Segment.codeMore more := by
  rw [Segment.codeMore, List.flatMap_cons, List.append_assoc, Segment.code_eq] at h
  obtain ⟨s₁, s₂, us, rfl, hus⟩ := Tree.exists_root_of_code h
  obtain ⟨s₃, vs, rfl, hvs⟩ := Tree.exists_word_of_code hus
  exact ⟨s₁, s₂, s₃, vs, rfl, hvs⟩

namespace Grammar

open Reader

theorem startsArguments_of_code {ts : List Tree} {segments : List Segment}
    (h : Tree.codeAll ts = Segment.codeMore segments) : startsArguments true ts = false := by
  cases segments with
  | nil =>
    obtain rfl := Tree.eq_nil_of_code h
    rfl
  | cons a more =>
    obtain ⟨s₁, s₂, s₃, us, rfl, -⟩ := Tree.exists_name_of_code h
    rfl

theorem exists_splitLast (front : List Segment) (last : Segment) :
    ∃ first more, splitLast first more = (front, last) := by
  cases front with
  | nil => exact ⟨last, [], rfl⟩
  | cons f fs => exact ⟨f, fs ++ [last], by rw [splitLast_concat, segments_splitLast]⟩

theorem code_splitLast (first : Segment) (more : List Segment) :
    Segment.codeFront (splitLast first more).1 ++ (splitLast first more).2.code =
      first.code ++ Segment.codeMore more := by
  induction more generalizing first with
  | nil => simp [splitLast, Segment.codeFront, Segment.codeMore]
  | cons a more ih =>
    simpa [splitLast, Segment.codeFront, Segment.codeMore] using ih a

namespace Nested

variable {r : Nested} {a : Segment} {s scope : Span} {leftover : Option Diagnostic}
  {ts : List Tree}

theorem segment_plain (h : a.IsPlain) (hts : startsArguments true ts = false) :
    r.segment true ⟨.word a.name s :: ts, scope, leftover⟩ = .ok (a, ⟨ts, scope, leftover⟩) := by
  obtain ⟨w, _ | _⟩ := a
  · exact segment_word h.1 hts
  · cases h.2

theorem another_plain (h : a.IsPlain) (s₁ s₂ s₃ : Span) (hts : startsArguments true ts = false) :
    r.another ⟨.mark ':' true s₁ :: .mark ':' false s₂ :: .word a.name s₃ :: ts, scope,
      leftover⟩ = .ok (a, ⟨ts, scope, leftover⟩) := by
  have hsep : operator "::" ⟨.mark ':' true s₁ :: .mark ':' false s₂ :: .word a.name s₃ :: ts,
      scope, leftover⟩ = .ok ((), ⟨.word a.name s₃ :: ts, scope, leftover⟩) := rfl
  rw [another, bind_apply hsep]
  exact segment_plain h hts

theorem manyFor_plain {segments : List Segment} (h : ∀ a ∈ segments, a.IsPlain)
    (hts : Tree.codeAll ts = Segment.codeMore segments) {n : Nat} (hn : ts.length < n) :
    manyFor startsMore r.another n ⟨ts, scope, leftover⟩ =
      .ok (segments, ⟨[], scope, leftover⟩) := by
  induction segments generalizing ts n with
  | nil =>
    obtain rfl := Tree.eq_nil_of_code hts
    obtain _ | n := n
    · cases hn
    · rfl
  | cons a segments ih =>
    obtain _ | n := n
    · cases hn
    obtain ⟨ha, hmore⟩ := List.forall_mem_cons.mp h
    obtain ⟨s₁, s₂, s₃, us, rfl, hus⟩ := Tree.exists_name_of_code hts
    rw [ha.code_args, List.nil_append] at hus
    have hlen : us.length < n := by simp at hn; omega
    rw [manyFor, bind_apply (rfl : sees _ _ = _)]
    show (do let a ← r.another; return a :: (← manyFor startsMore r.another n)) _ = _
    rw [bind_apply (another_plain ha s₁ s₂ s₃ (startsArguments_of_code hus)),
      bind_apply (ih hmore hus hlen)]
    rfl

theorem pathAfter_plain {first : Segment} {more : List Segment}
    (h : ∀ a ∈ first :: more, a.IsPlain)
    (hts : Tree.codeAll ts = first.code ++ Segment.codeMore more) (rooted : Bool) :
    r.pathAfter rooted ⟨ts, scope, leftover⟩ = .ok
      (⟨rooted, (splitLast first more).1, (splitLast first more).2⟩, ⟨[], scope, leftover⟩) := by
  obtain ⟨hfirst, hmore⟩ := List.forall_mem_cons.mp h
  rw [hfirst.code_eq] at hts
  obtain ⟨s, us, rfl, hus⟩ := Tree.exists_word_of_code hts
  have hmany : many startsMore r.another ⟨us, scope, leftover⟩ =
      .ok (more, ⟨[], scope, leftover⟩) := manyFor_plain hmore hus (Nat.lt_succ_self _)
  rw [pathAfter, bind_apply (segment_plain hfirst (startsArguments_of_code hus)),
    bind_apply hmany]
  rfl

theorem path_plain {p : Path} (h : ∀ a ∈ p.segments, a.IsPlain)
    (hts : Tree.codeAll ts = p.code) :
    r.path ⟨ts, scope, leftover⟩ = .ok (p, ⟨[], scope, leftover⟩) := by
  obtain ⟨rooted, front, last⟩ := p
  obtain ⟨first, more, hsplit⟩ := exists_splitLast front last
  obtain ⟨rfl, rfl⟩ := Prod.mk.inj hsplit
  rw [Path.segments, segments_splitLast] at h
  have hcode : (Path.mk rooted (splitLast first more).1 (splitLast first more).2).code =
      (if rooted then Code.pathSep else []) ++ (first.code ++ Segment.codeMore more) := by
    rw [← code_splitLast, ← List.append_assoc]
    rfl
  rw [hcode] at hts
  rw [path_eq, operator?_bind, bind_apply (rfl : sees _ _ = _)]
  cases rooted with
  | true =>
    obtain ⟨s₁, s₂, us, rfl, hus⟩ := Tree.exists_root_of_code hts
    have hsep : operator "::" ⟨.mark ':' true s₁ :: .mark ':' false s₂ :: us, scope, leftover⟩ =
        .ok ((), ⟨us, scope, leftover⟩) := rfl
    show (operator "::" >>= fun _ ↦ r.pathAfter true) _ = _
    rw [bind_apply hsep]
    exact pathAfter_plain h hus true
  | false =>
    obtain ⟨s, us, hts', -⟩ := Tree.exists_word_of_code (first.code_eq ▸ hts)
    have hunrooted : ¬Ahead.operator "::" ts = true := by
      rw [hts']
      exact Bool.not_eq_true _ ▸ Ahead.marks_cons_of_ne (by simp)
    rw [if_neg hunrooted]
    exact pathAfter_plain h hts false

end Nested

theorem shrinks_path : Shrinks path :=
  ((Nested.steady_nestedTo deepest).path : Follows .entry false 0 path path).shrinks

/-- A path of usual names without arguments is read from its own code. -/
theorem path_run_code {p : Path} (h : ∀ a ∈ p.segments, a.IsPlain) {ts : List Tree} {scope : Span}
    (hts : Tree.codeAll ts = p.code) : path.run scope ts = .ok p :=
  (run_eq_ok_iff shrinks_path).mpr (Nested.path_plain h hts)

/-- It is read as a type too. -/
theorem type_run_code {p : Path} (h : ∀ a ∈ p.segments, a.IsPlain) {ts : List Tree} {scope : Span}
    (hts : Tree.codeAll ts = p.code) : type.run scope ts = .ok p.toTy := by
  have hbegins : p.beginsType = true := Path.IsUsual.beginsType fun a ha ↦ (h a ha).1
  rw [run_eq_ok_iff shrinks_type]
  obtain ⟨n, hn⟩ := exists_nested_eq
  rw [type, hn]
  exact Nested.typeOf_of_path true hbegins (Nested.path_plain h hts) rfl

end Grammar

end TypedIds
