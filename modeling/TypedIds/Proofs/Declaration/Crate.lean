import TypedIds.Generated.Code
import TypedIds.Proofs.Generated.CombinedCrate
import TypedIds.Proofs.Generated.ScalarCrate
import TypedIds.Proofs.Marker.Crate

/-!
# Declarations that name another library

Neither what is checked of a declaration nor what is looked up for it depends on where the library
is, although the type of UUIDs lies there (`Declaration.ofMarked_withCrate`).  So the path shows in
the code only: with another path the code is that with a word for the path, and the path in the
place of the word (`Declaration.Lacks.replace_code`).

A word that does not stand in the code for one path stands in the code for the path that is this
word only where the path is, and can be replaced there (`Declaration.replace_code`).
-/

set_option autoImplicit false

namespace TypedIds

/-! ## What does not depend on the path -/

section

variable {kind : MarkerKind} {s : Struct} {m : MarkerArgs} {x : Index} {path : List String}

/-- The only component of a scalar identifier is the wrapped value. -/
theorem MarkerArgs.components_of_read {args : List Tree} {span : Span}
    (h : MarkerArgs.read kind args span = .ok m) (hk : kind.isScalar = true) :
    m.components = [scalarComponent kind m.options] := by
  obtain ⟨e, -, hoptions, hcomponents⟩ := read_ok h
  rw [hcomponents, hk, hoptions]
  rfl

/-- What is checked does not depend on where the library is. -/
theorem Validity.check_withCrate
    (hm : kind.isScalar = true → m.components = [scalarComponent kind m.options]) (p : Path) :
    check kind s (m.withCrate kind p) = check kind s m := by
  cases hk : kind.isScalar with
  | false => rw [MarkerArgs.withCrate, hk]; rfl
  | true =>
    -- the path is in the type of the only component, which is not looked at
    have hcomponents : (m.withCrate kind p).components =
        [scalarComponent kind { m.options with crate := p }] := by
      rw [MarkerArgs.withCrate, hk]
      rfl
    have hcount : checkCount kind (m.withCrate kind p) = checkCount kind m := by
      rw [checkCount, checkCount, hcomponents, hm hk]
      rfl
    rw [check, check, hcount, hcomponents, hm hk]
    rfl

/-- The shape of the value of a scalar identifier is told by the kind. -/
theorem Hook.classify_scalar (hk : kind.isScalar = true) (cs cs' : List Component) :
    classify kind cs = classify kind cs' := by
  cases kind with
  | guid => rfl
  | string => rfl
  | combined => cases hk

/-- What becomes of a struct with a marker does not depend on where the library is: the same hook is
found, the same values are inferred, or the same problem is reported. -/
theorem Declaration.ofMarked_withCrate
    (hm : kind.isScalar = true → m.components = [scalarComponent kind m.options]) (p : Path) :
    ofMarked kind s (m.withCrate kind p) x path =
      (ofMarked kind s m x path).map (withCrate · p) := by
  rw [ofMarked, ofMarked, Validity.check_withCrate hm]
  cases Validity.check kind s m with
  | error d => rfl
  | ok _ =>
    cases hk : kind.isScalar with
    | true =>
      have hhook (cs cs' : List Component) (f : Option String) :
          Hook.detect x path s.name kind cs f = Hook.detect x path s.name kind cs' f := by
        cases f with
        | none => rw [Hook.detect, Hook.detect, Hook.classify_scalar hk cs cs']
        | some f => rfl
      simp only [MarkerArgs.withCrate, withCrate, hk, hhook _ m.components, bind, Except.bind, pure,
        Except.pure, Except.map, if_true]
    | false =>
      simp only [MarkerArgs.withCrate, withCrate, hk, bind, Except.bind, Bool.false_eq_true,
        if_false]
      cases ComponentDefault.inferAll x m.components with
      | error d => rfl
      | ok vs => simp [Except.map, hk, pure, Except.pure]

end

/-! ## The path in the code -/

/-- A word can be put in the place of another one and be replaced in its turn, if it does not stand
in the code otherwise; for that it is enough to look at what the other one is replaced by some other
code. -/
theorem Code.replace_word {a q : Code} {x y : String} (h : x ∉ (a.replace y q).words) (r : Code) :
    (a.replace y [.word x]).replace x r = a.replace y r := by
  induction a with
  | nil => rfl
  | cons t a ih =>
    have hcons (r : Code) : replace (t :: a) y r =
        (if t.word? = some y then r else [t]) ++ replace a y r := List.flatMap_cons
    rw [hcons, words_append, List.mem_append, not_or] at h
    rw [hcons, hcons, replace_append, ih h.2]
    by_cases ht : t.word? = some y
    · rw [if_pos ht, if_pos ht, replace_cons_word, if_pos rfl, replace_nil, List.append_nil]
    · rw [if_neg ht] at h ⊢
      rw [if_neg ht, replace_eq_self h.1]

namespace Declaration

variable {d : Declaration} {x : String}

/-- There is a word that a declaration lacks: one that is long enough. -/
theorem exists_lacks (d : Declaration) : ∃ x, d.Lacks x := by
  let n := 40 + (d.words.map String.length).sum
  have hlength : (String.ofList (List.replicate n 'x')).length = n := by simp
  have hne (w : String) (hw : w.length < n) : w ≠ String.ofList (List.replicate n 'x') := by
    intro heq
    rw [heq, hlength] at hw
    exact Nat.lt_irrefl _ hw
  have hown (w : String) (hw : w.length < 40) : w ≠ String.ofList (List.replicate n 'x') :=
    hne w (Nat.lt_of_lt_of_le hw (Nat.le_add_right _ _))
  refine ⟨String.ofList (List.replicate n 'x'), ⟨?_, fun hx ↦ ?_⟩⟩
  · and_intros <;> exact hown _ (by decide)
  · refine hne _ ?_ rfl
    have hle := List.single_le_sum (fun _ _ ↦ Nat.zero_le _) _
      (List.mem_map_of_mem (f := String.length) hx)
    exact Nat.lt_of_le_of_lt hle (by omega)

/-- **The path shows where it is needed, and nowhere else.**  If the path is a word that stands
nowhere else, the code with any other path is that with the other path in the place of the word. -/
theorem Lacks.replace_code (h : d.Lacks x) (p : Path) :
    (d.withCrate (.ofName x)).code.map (Code.replace · x p.code) = (d.withCrate p).code := by
  rw [code, code, items, items, kind_withCrate, kind_withCrate, name_withCrate, name_withCrate]
  cases hk : d.kind.isScalar with
  | true =>
    rw [if_pos rfl, if_pos rfl, converterName]
    cases isRaw d.name with
    | true => rfl
    | false => exact congrArg Except.ok (h.replace_scalarItems p hk h.converter_ne)
  | false => exact congrArg Except.ok (h.replace_combinedItems p hk)

/-- A word that is neither one of the declaration nor one of the path is one of those that generated
code has of its own. -/
theorem Lacks.notMem_words (h : d.Lacks x) {p : Path} (hp : x ∉ p.code.words) {code : Code}
    (hcode : (d.withCrate p).code = .ok code) : x ∉ code.words := by
  rw [← h.replace_code p] at hcode
  cases hc : (d.withCrate (.ofName x)).code with
  | error n => rw [hc] at hcode; cases hcode
  | ok c =>
    rw [hc] at hcode
    obtain rfl := Except.ok.inj hcode
    exact Code.notMem_words_replace hp

/-- Whether there is code does not depend on where the library is. -/
theorem isSome_code_withCrate (d : Declaration) (p q : Path) :
    (d.withCrate p).code.toOption.isSome = (d.withCrate q).code.toOption.isSome := by
  obtain ⟨y, hy⟩ := d.exists_lacks
  rw [← hy.replace_code p, ← hy.replace_code q]
  cases (d.withCrate (.ofName y)).code <;> rfl

/-- The code with one path is that with a word for the path, and the path in the place of the word,
if the word does not stand in the code with some path. -/
theorem replace_code {q : Path} (h : ∀ code, (d.withCrate q).code = .ok code → x ∉ code.words)
    (p : Path) :
    (d.withCrate (.ofName x)).code.map (Code.replace · x p.code) = (d.withCrate p).code := by
  obtain ⟨y, hy⟩ := d.exists_lacks
  rw [← hy.replace_code q] at h
  rw [← hy.replace_code (.ofName x), ← hy.replace_code p]
  cases hc : (d.withCrate (.ofName y)).code with
  | error n => rfl
  | ok c =>
    rw [hc] at h
    exact congrArg Except.ok (Code.replace_word (h _ rfl) p.code)

end Declaration

end TypedIds
