import TypedIds.Proofs.Grammar.Ahead
import TypedIds.Proofs.Grammar.Reader

/-!
# Readers and what comes after an entry

What is read in an entry of a list should not depend on what comes after the entry: a comma and
further entries, or nothing; or a `>`, if the list stands in angle brackets.  `Follows` is the
relation that says so, of two readers at once since the rounds of a loop are counted down from the
number of trees, and these differ.  It asks about runs that stay in the entry only, so a separator
within angle brackets is no different from any other token.

* `Follows.bind` and the other rules take a reader apart along its definition; what is left to look
  at are the tests that choose between two readers (`Blind`).
* `Follows.bindProgress`, `Follows.rounds` — loops: a reader that takes a tree in each round has
  rounds enough.
* `follows_group` — in a group a reader never comes to the end of the entry, so any reader will do.
* `Follows.alone_iff` — an entry is read as if it stood alone.
-/

set_option autoImplicit false

namespace TypedIds.Reader

variable {α β : Type}

/-! ## Readers only take trees from the front -/

/-- A reader leaves an end of the trees it is given, stays in its scope, and keeps in mind that
trees were left over. -/
def Shrinks (p : Reader α) : Prop :=
  ∀ c a next, p c = .ok (a, next) →
    next.trees <:+ c.trees ∧ next.scope = c.scope ∧ (next.leftover = none → c.leftover = none)

theorem Shrinks.of_same {p : Reader α} (h : ∀ c a next, p c = .ok (a, next) → next = c) :
    Shrinks p := by
  intro c a next hp
  obtain rfl := h c a next hp
  exact ⟨List.suffix_rfl, rfl, id⟩

theorem Shrinks.pure (a : α) : Shrinks (pure a) :=
  .of_same fun _ _ _ h ↦ (Prod.mk.inj (Except.ok.inj h)).2.symm

theorem Shrinks.sees (test : List Tree → Bool) : Shrinks (sees test) :=
  .of_same fun _ _ _ h ↦ (Prod.mk.inj (Except.ok.inj h)).2.symm

theorem Shrinks.here : Shrinks here :=
  .of_same fun _ _ _ h ↦ (Prod.mk.inj (Except.ok.inj h)).2.symm

/-- A reader takes a tree at least. -/
def Progresses (p : Reader α) : Prop :=
  ∀ c a next, p c = .ok (a, next) → next.trees.length < c.trees.length

/-- A reader always fails. -/
def Fails (p : Reader α) : Prop := ∀ c r, p c ≠ .ok r

theorem Fails.fail (p : Problem) (s : Span) : Fails (α := α) (fail p s) := fun _ _ h ↦ nomatch h

theorem Fails.bind {p : Reader α} {f : α → Reader β} (hf : ∀ a, Fails (f a)) :
    Fails (p >>= f) := by
  rintro c ⟨b, next⟩ h
  obtain ⟨a, mid, -, hb⟩ := bind_eq_ok h
  exact hf a mid _ hb

theorem Fails.andThen {p : Reader α} {f : α → Reader β} (hp : Fails p) : Fails (p >>= f) := by
  rintro c ⟨b, next⟩ h
  obtain ⟨a, mid, ha, -⟩ := bind_eq_ok h
  exact hp c _ ha

theorem Fails.want (ws : List Wanted) : Fails (α := α) (want ws) :=
  .bind fun _ ↦ .bind fun _ ↦ .fail _ _

theorem bind_apply {p : Reader α} {f : α → Reader β} {c mid : Cursor} {a : α}
    (h : p c = .ok (a, mid)) : (p >>= f) c = f a mid := by
  show Except.bind (p c) _ = _
  rw [h]
  rfl

theorem Shrinks.bind {p : Reader α} {f : α → Reader β} (hp : Shrinks p)
    (hf : ∀ a, Shrinks (f a)) : Shrinks (p >>= f) := by
  intro c b next h
  obtain ⟨a, mid, ha, hb⟩ := bind_eq_ok h
  obtain ⟨hsuffix, hscope, hleft⟩ := hp c a mid ha
  obtain ⟨hsuffix', hscope', hleft'⟩ := hf a mid b next hb
  exact ⟨hsuffix'.trans hsuffix, hscope'.trans hscope, fun h ↦ hleft (hleft' h)⟩

theorem Progresses.taking {p : Reader α} (hp : Progresses p) : Progresses (taking p) := by
  intro c r next h
  obtain ⟨⟨a, mid⟩, ha, h⟩ := exists_of_bind_eq_ok h
  obtain ⟨-, rfl⟩ := Prod.mk.inj (Except.ok.inj h)
  exact hp c a mid ha

/-- Where errors point does not show in what a reader yields. -/
def IgnoresSpan (f : Span → Reader α) : Prop := ∀ s s' c r, f s c = .ok r → f s' c = .ok r

namespace IgnoresSpan

theorem const (p : Reader α) : IgnoresSpan fun _ ↦ p := fun _ _ _ _ h ↦ h

theorem fails {f : Span → Reader α} (hf : ∀ s, Fails (f s)) : IgnoresSpan f :=
  fun s _ c r h ↦ absurd h (hf s c r)

theorem bind {p : Reader α} {f : Span → α → Reader β} (hf : ∀ a, IgnoresSpan fun s ↦ f s a) :
    IgnoresSpan fun s ↦ p >>= f s := by
  rintro s s' c ⟨b, next⟩ h
  obtain ⟨a, mid, ha, hb⟩ := bind_eq_ok h
  dsimp only
  rw [bind_apply ha]
  exact hf a s s' mid _ hb

theorem andThen {g : Span → Reader α} {f : α → Reader β} (hg : IgnoresSpan g) :
    IgnoresSpan fun s ↦ g s >>= f := by
  rintro s s' c ⟨b, next⟩ h
  obtain ⟨a, mid, ha, hb⟩ := bind_eq_ok h
  dsimp only
  rwa [bind_apply (hg s s' c _ ha)]

theorem ite {c : Prop} [Decidable c] {f g : Span → Reader α} (hf : IgnoresSpan f)
    (hg : IgnoresSpan g) : IgnoresSpan fun s ↦ if c then f s else g s := by
  split
  · exact hf
  · exact hg

theorem taking {f : Span → Reader α} (hf : IgnoresSpan f) :
    IgnoresSpan fun s ↦ taking (f s) := by
  rintro s s' c ⟨r, next⟩ h
  obtain ⟨⟨a, mid⟩, ha, h⟩ := exists_of_bind_eq_ok h
  show Except.bind (f s' c) _ = _
  rw [hf s s' c _ ha]
  exact h

end IgnoresSpan

/-- A chain of two readers after which no trees have been left over in groups. -/
theorem exists_between {p : Reader α} {f : α → Reader β} (hp : Shrinks p)
    (hf : ∀ a, Shrinks (f a)) {ts rest : List Tree} {scope : Span} {b : β}
    (h : (p >>= f) ⟨ts, scope, none⟩ = .ok (b, ⟨rest, scope, none⟩)) :
    ∃ a mid, rest <:+ mid ∧ mid <:+ ts ∧ p ⟨ts, scope, none⟩ = .ok (a, ⟨mid, scope, none⟩) ∧
      f a ⟨mid, scope, none⟩ = .ok (b, ⟨rest, scope, none⟩) := by
  obtain ⟨a, ⟨mid, scope', leftover⟩, ha, hb⟩ := bind_eq_ok h
  obtain ⟨hrest, rfl, hleft⟩ := hf a _ b _ hb
  obtain ⟨hmid, -, -⟩ := hp _ a _ ha
  obtain rfl : leftover = none := hleft rfl
  exact ⟨a, mid, hrest, hmid, ha, hb⟩

/-- A chain of two readers that stays in the entry stays there in between. -/
theorem exists_mid {p : Reader α} {f : α → Reader β} (hp : Shrinks p) (hf : ∀ a, Shrinks (f a))
    {ts rest tail : List Tree} {scope : Span} {b : β}
    (h : (p >>= f) ⟨ts ++ tail, scope, none⟩ = .ok (b, ⟨rest ++ tail, scope, none⟩)) :
    ∃ a mid, rest <:+ mid ∧ mid <:+ ts ∧
      p ⟨ts ++ tail, scope, none⟩ = .ok (a, ⟨mid ++ tail, scope, none⟩) ∧
      f a ⟨mid ++ tail, scope, none⟩ = .ok (b, ⟨rest ++ tail, scope, none⟩) := by
  obtain ⟨a, mid, ⟨front, rfl⟩, hmid, ha, hb⟩ := exists_between hp hf h
  rw [← List.append_assoc] at ha hb hmid
  exact ⟨a, front ++ rest, List.suffix_append front rest, List.suffix_append_self_iff.mp hmid,
    ha, hb⟩

/-! ## Following -/

/-- What `p` reads in an entry of fewer than `most` trees, `q` reads there too, whatever comes after
the entry.  If `inner`, only what `p` reads before the last tree of the entry counts. -/
structure Follows (k : Ending) (inner : Bool) (most : Nat) (p q : Reader α) : Prop where
  shrinks : Shrinks p
  run : ∀ {ts rest tail tail' : List Tree} {scope : Span} {a : α}, ts.length < most →
    k.Tail tail → k.Tail tail' → (inner = true → rest ≠ []) →
    p ⟨ts ++ tail, scope, none⟩ = .ok (a, ⟨rest ++ tail, scope, none⟩) →
    q ⟨ts ++ tail', scope, none⟩ = .ok (a, ⟨rest ++ tail', scope, none⟩)

/-- A reader that takes a tree still does with another one after it. -/
theorem Progresses.before {p : Reader α} {f : α → Reader β} (hp : Progresses p)
    (hf : ∀ a, Follows .entry false 0 (f a) (f a)) : Progresses (p >>= f) := by
  intro c b next h
  obtain ⟨a, mid, ha, hb⟩ := bind_eq_ok h
  exact Nat.lt_of_le_of_lt ((hf a).shrinks mid b next hb).1.length_le (hp c a mid ha)

namespace Follows

variable {k : Ending} {inner : Bool} {most : Nat} {p q : Reader α} {f g : α → Reader β}

theorem never (h : Fails p) : Follows k inner most p q :=
  ⟨fun c _ _ hp ↦ absurd hp (h c _), fun _ _ _ _ hp ↦ absurd hp (h _ _)⟩

/-- What counts for all the trees of the entry does before the last one. -/
theorem weaken (h : Follows k false most p q) : Follows k inner most p q where
  shrinks := h.shrinks
  run hts ht ht' _ := h.run hts ht ht' (by simp)

theorem pure (a : α) : Follows k inner most (pure a) (pure a) where
  shrinks := .pure a
  run _ _ _ _ h := by
    obtain ⟨rfl, hc⟩ := Prod.mk.inj (Except.ok.inj h)
    rw [← List.append_cancel_right (Cursor.mk.inj hc).1]
    rfl

theorem bind (hp : Follows k inner most p q) (hf : ∀ a, Follows k inner most (f a) (g a)) :
    Follows k inner most (p >>= f) (q >>= g) where
  shrinks := hp.shrinks.bind fun a ↦ (hf a).shrinks
  run hts ht ht' hi h := by
    obtain ⟨a, mid, hmid, hmidts, ha, hb⟩ := exists_mid hp.shrinks (fun a ↦ (hf a).shrinks) h
    have hne : inner = true → mid ≠ [] := fun hinner hnil ↦ by
      rw [hnil, List.suffix_nil] at hmid
      exact hi hinner hmid
    rw [bind_apply (hp.run hts ht ht' hne ha)]
    exact (hf a).run (Nat.lt_of_le_of_lt hmidts.length_le hts) ht ht' hi hb

/-- After a tree has been taken there is one less. -/
theorem bindProgress (hp : Follows k inner (most + 1) p q) (hprogress : Progresses p)
    (hf : ∀ a, Follows k inner most (f a) (g a)) :
    Follows k inner (most + 1) (p >>= f) (q >>= g) where
  shrinks := hp.shrinks.bind fun a ↦ (hf a).shrinks
  run hts ht ht' hi h := by
    obtain ⟨a, mid, hmid, hmidts, ha, hb⟩ := exists_mid hp.shrinks (fun a ↦ (hf a).shrinks) h
    have hne : inner = true → mid ≠ [] := fun hinner hnil ↦ by
      rw [hnil, List.suffix_nil] at hmid
      exact hi hinner hmid
    have hlt := hprogress _ _ _ ha
    rw [List.length_append, List.length_append] at hlt
    rw [bind_apply (hp.run hts ht ht' hne ha)]
    exact (hf a).run (by omega) ht ht' hi hb

/-- A reader that does not end an entry may come after one that is told from the tail by the trees
of the entry that are left. -/
theorem bindInner (hp : Follows k true most p q)
    (hne : ∀ a (rest tail : List Tree) scope b, k.Tail tail →
      f a ⟨tail, scope, none⟩ ≠ .ok (b, ⟨rest ++ tail, scope, none⟩))
    (hf : ∀ a, Follows k inner most (f a) (g a)) : Follows k inner most (p >>= f) (q >>= g) where
  shrinks := hp.shrinks.bind fun a ↦ (hf a).shrinks
  run hts ht ht' hi h := by
    obtain ⟨a, mid, hmid, hmidts, ha, hb⟩ := exists_mid hp.shrinks (fun a ↦ (hf a).shrinks) h
    have hmidne : mid ≠ [] := by
      rintro rfl
      exact hne a _ _ _ _ ht hb
    rw [bind_apply (hp.run hts ht ht' (fun _ ↦ hmidne) ha)]
    exact (hf a).run (Nat.lt_of_le_of_lt hmidts.length_le hts) ht ht' hi hb

/-- After an item of a list that ends with a tail of this kind. -/
theorem bindItem (hp : Follows k k.isEntry most p q)
    (hne : k = .entry → ∀ a (rest tail : List Tree) scope b, k.Tail tail →
      f a ⟨tail, scope, none⟩ ≠ .ok (b, ⟨rest ++ tail, scope, none⟩))
    (hf : ∀ a, Follows k inner most (f a) (g a)) : Follows k inner most (p >>= f) (q >>= g) := by
  cases k with
  | entry => exact bindInner hp (hne rfl) hf
  | bracket => exact bind hp.weaken hf

theorem ite {c : Prop} [Decidable c] {p' q' : Reader α} (hp : Follows k inner most p q)
    (hp' : Follows k inner most p' q') :
    Follows k inner most (if c then p else p') (if c then q else q') := by
  split
  · exact hp
  · exact hp'

/-- A choice between two readers before the same continuation. -/
theorem iteBind {c : Prop} [Decidable c] {p' q' : Reader α} (hp : Follows k inner most p q)
    (hp' : Follows k inner most p' q') (hf : ∀ a, Follows k inner most (f a) (g a)) :
    Follows k inner most (if c then p >>= f else p' >>= f) (if c then q >>= g else q' >>= g) :=
  ite (bind hp hf) (bind hp' hf)

theorem sees {test : List Tree → Bool} (h : Blind k inner test) :
    Follows k inner most (sees test) (sees test) where
  shrinks := .sees test
  run := by
    intro ts rest tail tail' scope a hts ht ht' hi hp
    obtain ⟨ha, hc⟩ := Prod.mk.inj (Except.ok.inj hp)
    obtain rfl := List.append_cancel_right (Cursor.mk.inj hc).1
    rw [← ha, h ts tail tail' ht ht' hi]
    rfl

/-- A choice by tests of the trees that have not been read. -/
theorem ofRest {f : List Tree → Reader β} (hf : ∀ ts, Follows k inner most (f ts) (f ts))
    (hblind : ∀ ts us, (∀ {test}, Blind k false test → test us = test ts) → f us = f ts) :
    Follows k inner most (rest >>= f) (rest >>= f) where
  shrinks c b next h := (hf c.trees).shrinks c b next h
  run := by
    intro ts rest tail tail' scope b hts ht ht' hi h
    have hsame : f (ts ++ tail') = f (ts ++ tail) :=
      hblind (ts ++ tail) (ts ++ tail') fun htest ↦ htest ts tail' tail ht' ht (by simp)
    show f (ts ++ tail') ⟨ts ++ tail', scope, none⟩ = _
    rw [hsame]
    exact (hf (ts ++ tail)).run hts ht ht' hi h

/-- A choice by a test of the trees that have not been read. -/
theorem ofTest {test : List Tree → Bool} {p' q' : Reader α} (h : Blind k inner test)
    (hp : Follows k inner most p q) (hp' : Follows k inner most p' q') :
    Follows k inner most (do if test (← rest) then p else p')
      (do if test (← rest) then q else q') :=
  have h : Follows k inner most (do if ← Reader.sees test then p else p')
      (do if ← Reader.sees test then q else q') := bind (sees h) fun _ ↦ ite hp hp'
  h

/-- Where an error would point does not matter if there is none. -/
theorem ofHere {f : Span → Reader β} (hf : ∀ s, Follows k inner most (f s) (f s))
    (hspan : IgnoresSpan f) :
    Follows k inner most (here >>= f) (here >>= f) where
  shrinks := .bind .here fun s ↦ (hf s).shrinks
  run hts ht ht' hi h := by
    obtain ⟨s, mid, hs, hb⟩ := bind_eq_ok h
    obtain ⟨-, rfl⟩ := Prod.mk.inj (Except.ok.inj hs)
    exact hspan _ _ _ _ ((hf s).run hts ht ht' hi hb)

/-- Where the next token is, if there has to be one. -/
theorem hereBind {f : Span → Reader β} (hf : ∀ s, Follows k inner most (f s) (f s))
    (hprogress : ∀ s, Progresses (f s)) : Follows k inner most (here >>= f) (here >>= f) := by
  refine bindInner ⟨.here, ?_⟩ (fun s rest tail scope b _ h ↦ ?_) hf
  · intro ts rest tail tail' scope s _ _ _ hi h
    obtain ⟨hs, hc⟩ := Prod.mk.inj (Except.ok.inj h)
    obtain rfl := List.append_cancel_right (Cursor.mk.inj hc).1
    obtain ⟨t, ts, rfl⟩ := List.exists_cons_of_ne_nil (hi rfl)
    rw [← hs]
    rfl
  · have hlt : (rest ++ tail).length < tail.length := hprogress s _ _ _ h
    rw [List.length_append] at hlt
    omega

theorem taking (hp : Follows k inner most p q) : Follows k inner most (taking p) (taking q) where
  shrinks c r next h := by
    obtain ⟨⟨a, mid⟩, ha, h⟩ := exists_of_bind_eq_ok h
    obtain ⟨-, rfl⟩ := Prod.mk.inj (Except.ok.inj h)
    exact hp.shrinks c a mid ha
  run := by
    intro ts rest tail tail' scope r hts ht ht' hi h
    obtain ⟨⟨a, mid⟩, ha, h⟩ := exists_of_bind_eq_ok h
    obtain ⟨rfl, rfl⟩ := Prod.mk.inj (Except.ok.inj h)
    have htaken : ∀ more : List Tree,
        (ts ++ more).take ((ts ++ more).length - (rest ++ more).length) =
          ts.take (ts.length - rest.length) := by
      intro more
      rw [List.length_append, List.length_append, Nat.add_sub_add_right,
        List.take_append_of_le_length (Nat.sub_le _ _)]
    have hq := hp.run hts ht ht' hi ha
    show Except.bind (q ⟨ts ++ tail', scope, none⟩) _ = _
    rw [hq]
    show Except.ok ((a, (ts ++ tail').take _), _) = Except.ok ((a, (ts ++ tail).take _), _)
    rw [htaken tail, htaken tail']

theorem mapError (e : Diagnostic → Diagnostic) (hp : Follows k inner most p q) :
    Follows k inner most (mapError e p) (mapError e q) where
  shrinks c a next h := by
    rw [Reader.mapError] at h
    cases ha : p c with
    | error d => rw [ha] at h; cases h
    | ok r =>
      rw [ha] at h
      cases h
      exact hp.shrinks c a next ha
  run := by
    intro ts rest tail tail' scope a hts ht ht' hi h
    rw [Reader.mapError] at h ⊢
    cases ha : p ⟨ts ++ tail, scope, none⟩ with
    | error d => rw [ha] at h; cases h
    | ok r =>
      rw [ha] at h
      cases h
      rw [hp.run hts ht ht' hi ha]
      rfl

/-! ### Loops -/

/-- A loop that is given enough rounds, if a round takes a tree before it goes on to the next. -/
theorem fuel {q : Nat → Reader α} (hzero : Fails (q 0))
    (hsucc : ∀ n m most, Follows k inner most (q n) (q m) →
      Follows k inner (most + 1) (q (n + 1)) (q (m + 1))) :
    ∀ n m most, most ≤ m → Follows k inner most (q n) (q m) := by
  intro n
  induction n with
  | zero => exact fun m most _ ↦ never hzero
  | succ n ih =>
    rintro m (_ | most) hm
    · exact ⟨(hsucc n 0 0 (ih 0 0 Nat.le.refl)).shrinks, fun hts ↦ absurd hts (Nat.not_lt_zero _)⟩
    · cases m with
      | zero => exact absurd hm (Nat.not_succ_le_zero most)
      | succ m => exact hsucc n m most (ih m most (Nat.le_of_succ_le_succ hm))

/-- A loop that is given as many rounds as there are trees, and one more. -/
theorem rounds {q : Nat → Reader α} (hzero : Fails (q 0))
    (hsucc : ∀ n m most, Follows k inner most (q n) (q m) →
      Follows k inner (most + 1) (q (n + 1)) (q (m + 1))) :
    Follows k inner most (do q ((← rest).length + 1)) (do q ((← rest).length + 1)) where
  shrinks c a next h := (fuel hzero hsucc _ 0 0 Nat.le.refl).shrinks c a next h
  run := by
    intro ts rest tail tail' scope a _ ht ht' hi h
    have hmost : ts.length + 1 ≤ (ts ++ tail').length + 1 := by simp
    exact (fuel hzero hsucc _ _ _ hmost).run (Nat.lt_succ_self _) ht ht' hi h

/-- What follows a loop. -/
theorem roundsBind {q : Nat → Reader α}
    (hq : Follows k inner most (do q ((← rest).length + 1)) (do q ((← rest).length + 1)))
    (hf : ∀ a, Follows k inner most (f a) (g a)) :
    Follows k inner most (do let ts ← rest; let a ← q (ts.length + 1); f a)
      (do let ts ← rest; let a ← q (ts.length + 1); g a) := by
  have h := bind hq hf
  rwa [bind_assoc, bind_assoc] at h

end Follows

/-! ## Readers of a few tokens -/

/-- A reader takes some trees and looks at no others. -/
def TakesFront (p : Reader α) : Prop :=
  ∀ c a next, p c = .ok (a, next) →
    ∃ front, front ≠ [] ∧ c.trees = front ++ next.trees ∧
      next = ⟨next.trees, c.scope, c.leftover⟩ ∧
      ∀ more scope leftover, p ⟨front ++ more, scope, leftover⟩ = .ok (a, ⟨more, scope, leftover⟩)

section

variable {k : Ending} {inner : Bool} {most n : Nat} {p : Reader α} {test : List Tree → Bool}
  {e : Reader Unit}

theorem TakesFront.progresses (h : TakesFront p) : Progresses p := by
  intro c a next hp
  obtain ⟨front, hfront, htrees, -, -⟩ := h c a next hp
  have hpos := List.length_pos_iff.mpr hfront
  rw [htrees, List.length_append]
  omega

theorem TakesFront.shrinks (h : TakesFront p) : Shrinks p := by
  intro c a next hp
  obtain ⟨front, -, htrees, hnext, -⟩ := h c a next hp
  rw [hnext, htrees]
  exact ⟨List.suffix_append front _, rfl, id⟩

theorem TakesFront.follows (h : TakesFront p) : Follows k inner most p p where
  shrinks := h.shrinks
  run := by
    intro ts rest tail tail' scope a _ _ _ _ hp
    obtain ⟨front, -, htrees, -, hfront⟩ := h _ _ _ hp
    have hts : ts ++ tail = front ++ rest ++ tail := htrees.trans (List.append_assoc ..).symm
    obtain rfl := List.append_cancel_right hts
    rw [List.append_assoc]
    exact hfront _ _ _

/-- Passing over as many trees as a test has looked at. -/
theorem TakesFront.guarded (hn : 0 < n)
    (htest : ∀ ts tail, n ≤ ts.length → test (ts ++ tail) = test ts)
    (hlen : ∀ ts, test ts = true → n ≤ ts.length) (he : Fails e) :
    TakesFront (do if ← sees test then drop n else e) := by
  rintro c ⟨⟩ next h
  change (if test c.trees = true then drop n else e : Reader Unit) c = _ at h
  split at h
  next htrees =>
    cases h
    have htake : (c.trees.take n).length = n := by
      rw [List.length_take, Nat.min_eq_left (hlen _ htrees)]
    refine ⟨c.trees.take n, ?_, (List.take_append_drop n _).symm, rfl, fun more scope left ↦ ?_⟩
    · rw [← List.length_pos_iff, htake]
      exact hn
    · have hagain : test (c.trees.take n ++ more) = true := by
        have hle := Nat.le_of_eq htake.symm
        rw [htest _ _ hle, ← htest _ (c.trees.drop n) hle, List.take_append_drop, htrees]
      show (if test (c.trees.take n ++ more) = true then drop n else e : Reader Unit) _ = _
      rw [if_pos hagain]
      show Except.ok ((), Cursor.mk ((c.trees.take n ++ more).drop n) scope left) = _
      rw [List.drop_left' htake]
  next => exact absurd h (he c _)

/-- Passing over an operator that has been seen. -/
theorem TakesFront.guardedOperator {op : String} (h : 0 < op.length) (he : Fails e) :
    TakesFront (do if ← sees (Ahead.operator op) then drop op.length else e) := by
  refine .guarded h (fun ts tail h ↦ ?_) (fun ts h ↦ ?_) he
  · exact Ahead.marks_append_of_length_le (by rwa [String.length_toList]) tail
  · exact String.length_toList ▸ Ahead.length_of_operator h

theorem takesFront_operator {op : String} (h : 0 < op.length) : TakesFront (operator op) :=
  .guardedOperator h (.bind fun _ ↦ .fail _ _)

theorem follows_operator {op : String} (h : 0 < op.length) :
    Follows k inner most (operator op) (operator op) :=
  (takesFront_operator h).follows

theorem takesFront_keyword (w : String) : TakesFront (keyword w) := by
  refine .guarded Nat.one_pos (fun ts tail h ↦ ?_) (fun ts h ↦ Ahead.length_of_first h rfl)
    (.want _)
  cases ts with
  | nil => cases h
  | cons t ts => cases t <;> rfl

theorem takesFront_anyWord : TakesFront anyWord := by
  rintro ⟨_ | ⟨⟨w, s⟩ | _ | _ | _ | _, ts⟩, scope, leftover⟩ a next h
  case cons.word =>
    cases h
    exact ⟨[.word w s], List.cons_ne_nil _ _, rfl, rfl, fun _ _ _ ↦ rfl⟩
  all_goals exact absurd h (Fails.want _ _ _)

theorem takesFront_name : TakesFront name := by
  rintro ⟨_ | ⟨⟨w, s⟩ | _ | _ | _ | _, ts⟩, scope, leftover⟩ a next h
  case cons.word =>
    change (if isName w = true then _ else _ : Reader (String × Span)) _ = _ at h
    split at h
    next hw =>
      cases h
      refine ⟨[.word w s], List.cons_ne_nil _ _, rfl, rfl, fun _ _ _ ↦ ?_⟩
      show (if isName w = true then _ else _ : Reader (String × Span)) _ = _
      rw [if_pos hw]
      rfl
    next => cases h
  all_goals exact absurd h (Fails.want _ _ _)

theorem takesFront_lifetime : TakesFront lifetime := by
  rintro ⟨_ | ⟨_ | ⟨n, q, s⟩ | _ | _ | _, ts⟩, scope, leftover⟩ a next h
  case cons.lifetime =>
    cases h
    exact ⟨[.lifetime n q s], List.cons_ne_nil _ _, rfl, rfl, fun _ _ _ ↦ rfl⟩
  all_goals exact absurd h (Fails.want _ _ _)

theorem takesFront_anyGroup : TakesFront anyGroup := by
  rintro ⟨_ | ⟨_ | _ | _ | _ | ⟨d, inside, s⟩, ts⟩, scope, leftover⟩ a next h
  case cons.group =>
    cases h
    exact ⟨[.group d inside s], List.cons_ne_nil _ _, rfl, rfl, fun _ _ _ ↦ rfl⟩
  all_goals exact absurd h (Fails.want _ _ _)

variable {c next : Cursor} {s : Span} {ts : List Tree}

theorem operator_apply {op : String} (m : Char) (hop : op.toList = [m]) (joined : Bool) (s : Span)
    (ts : List Tree) (scope : Span) (leftover : Option Diagnostic) :
    operator op ⟨.mark m joined s :: ts, scope, leftover⟩ = .ok ((), ⟨ts, scope, leftover⟩) := by
  have hlen : op.length = 1 := by rw [← String.length_toList, hop, List.length_singleton]
  rw [operator, bind_apply (rfl : sees _ _ = _), if_pos (Ahead.operator_cons_mark hop ..), hlen]
  rfl

theorem operator_eq_ok_iff {op : String} (m : Char) (hop : op.toList = [m]) :
    operator op c = .ok ((), next) ↔
      ∃ joined s, c = ⟨.mark m joined s :: next.trees, next.scope, next.leftover⟩ := by
  constructor
  · intro h
    obtain ⟨⟨⟩ | ⟨_ | _ | _ | ⟨d, joined, s⟩ | _, ts⟩, scope, leftover⟩ := c
    case cons.mark =>
      by_cases hd : m = d
      · subst hd
        rw [operator_apply m hop] at h
        cases h
        exact ⟨joined, s, rfl⟩
      · have hseen : ¬Ahead.operator op (.mark d joined s :: ts) = true := by
          simp [Ahead.operator, hop, Ahead.marks_cons_mark, hd]
        rw [operator, bind_apply (rfl : sees _ _ = _), if_neg hseen] at h
        exact absurd h (Fails.bind (fun _ ↦ .fail _ _) _ _)
    all_goals
      rw [operator, bind_apply (rfl : sees _ _ = _), if_neg] at h
      · exact absurd h (Fails.bind (fun _ ↦ .fail _ _) _ _)
      · simp [Ahead.operator, hop, Ahead.marks_cons_of_ne]
  · rintro ⟨joined, s, rfl⟩
    exact operator_apply m hop joined s _ _ _

theorem name_apply {w : String} (hw : isName w = true) (scope : Span)
    (leftover : Option Diagnostic) :
    name ⟨.word w s :: ts, scope, leftover⟩ = .ok ((w, s), ⟨ts, scope, leftover⟩) := by
  show (if isName w = true then _ else _ : Reader (String × Span)) _ = _
  rw [if_pos hw]
  rfl

theorem name_eq_ok_iff {w : String} :
    name c = .ok ((w, s), next) ↔
      isName w = true ∧ c = ⟨.word w s :: next.trees, next.scope, next.leftover⟩ := by
  constructor
  · obtain ⟨_ | ⟨⟨v, s⟩ | _ | _ | _ | _, ts⟩, scope, leftover⟩ := c
    case cons.word =>
      intro h
      change (if isName v = true then _ else _ : Reader (String × Span)) _ = _ at h
      split at h
      next hv =>
        cases h
        exact ⟨hv, rfl⟩
      next => cases h
    all_goals exact fun h ↦ absurd h (Fails.want _ _ _)
  · rintro ⟨hw, rfl⟩
    exact name_apply hw _ _

theorem anyWord_apply (w : String) (scope : Span) (leftover : Option Diagnostic) :
    anyWord ⟨.word w s :: ts, scope, leftover⟩ = .ok ((w, s), ⟨ts, scope, leftover⟩) := rfl

/-- An operator that may be missing is read if it is seen. -/
theorem operator?_bind (op : String) (f : Bool → Reader β) :
    operator? op >>= f = (do
      if ← sees (Ahead.operator op) then
        operator op
        f true
      else f false) := by
  funext c
  have hsees : sees (Ahead.operator op) c = .ok (Ahead.operator op c.trees, c) := rfl
  rw [bind_apply hsees]
  cases h : Ahead.operator op c.trees with
  | false =>
    have hop : operator? op c = .ok (false, c) := by
      rw [operator?, bind_apply hsees, h]
      rfl
    rw [bind_apply hop]
    rfl
  | true =>
    have hop : operator op c = .ok ((), { c with trees := c.trees.drop op.length }) := by
      rw [operator, bind_apply hsees, h]
      rfl
    have hop' : operator? op c = .ok (true, { c with trees := c.trees.drop op.length }) := by
      rw [operator?, bind_apply hsees, h]
      rfl
    rw [bind_apply hop', if_pos rfl, bind_apply hop]

/-- A word that may be missing is read if it is seen. -/
theorem keyword?_bind (w : String) (f : Bool → Reader β) :
    keyword? w >>= f = (do
      if ← sees (Ahead.word w) then
        keyword w
        f true
      else f false) := by
  funext c
  have hsees : sees (Ahead.word w) c = .ok (Ahead.word w c.trees, c) := rfl
  rw [bind_apply hsees]
  cases h : Ahead.word w c.trees with
  | false =>
    have hw : keyword? w c = .ok (false, c) := by
      rw [keyword?, bind_apply hsees, h]
      rfl
    rw [bind_apply hw]
    rfl
  | true =>
    have hw : keyword w c = .ok ((), { c with trees := c.trees.drop 1 }) := by
      rw [keyword, bind_apply hsees, h]
      rfl
    have hw' : keyword? w c = .ok (true, { c with trees := c.trees.drop 1 }) := by
      rw [keyword?, bind_apply hsees, h]
      rfl
    rw [bind_apply hw', if_pos rfl, bind_apply hw]

namespace Follows

variable {f g : Bool → Reader β}

/-- An operator that may be missing; if it is there, there is a tree less for what follows it. -/
theorem bindOperator? {op : String} (hcomma : ',' ∉ op.toList ∧ '>' ∉ op.toList.dropLast)
    (hop : 0 < op.length)
    (htrue : Follows k inner most (f true) (g true))
    (hfalse : Follows k inner (most + 1) (f false) (g false)) :
    Follows k inner (most + 1) (operator? op >>= f) (operator? op >>= g) := by
  have htakes := takesFront_operator hop
  rw [operator?_bind, operator?_bind]
  refine bind (sees (Ahead.operator_blind hcomma)) fun found ↦ ite ?_ hfalse
  exact bindProgress htakes.follows htakes.progresses fun _ ↦ htrue

theorem operator? (op : String) (hcomma : ',' ∉ op.toList ∧ '>' ∉ op.toList.dropLast)
    (hop : 0 < op.length) :
    Follows k inner most (Reader.operator? op) (Reader.operator? op) := by
  have h : Follows k inner most (Reader.operator? op >>= Pure.pure)
      (Reader.operator? op >>= Pure.pure) := by
    rw [operator?_bind]
    refine bind (sees (Ahead.operator_blind hcomma)) fun found ↦ ite ?_ (pure false)
    exact bind (follows_operator hop) fun _ ↦ pure true
  rwa [bind_pure] at h

theorem keyword? (w : String) :
    Follows k inner most (Reader.keyword? w) (Reader.keyword? w) := by
  have h : Follows k inner most (Reader.keyword? w >>= Pure.pure)
      (Reader.keyword? w >>= Pure.pure) := by
    rw [keyword?_bind]
    refine bind (sees (Ahead.word_blind w)) fun found ↦ ite ?_ (pure false)
    exact bind (takesFront_keyword w).follows fun _ ↦ pure true
  rwa [bind_pure] at h

theorem lifetime? : Follows k inner most Reader.lifetime? Reader.lifetime? :=
  bind (sees Ahead.lifetime_blind) fun _ ↦
    ite (bind takesFront_lifetime.follows fun _ ↦ pure _) (pure _)

end Follows

end

/-! ## Groups -/

/-- What is left over in a group after a reader has read what is inside. -/
def leftIn (d : Delimiter) (after : Cursor) : Option Diagnostic :=
  after.leftover.or (after.trees.head?.map fun t ↦ ⟨.leftover (some d), t.leftoverSpan⟩)

theorem group_apply {d : Delimiter} {p : Reader α} {inner : List Tree} {s : Span} {a : α}
    {after : Cursor} (hp : p ⟨inner, s.lastChar, none⟩ = .ok (a, after)) (ts : List Tree)
    (scope : Span) (leftover : Option Diagnostic) :
    group d p ⟨.group d inner s :: ts, scope, leftover⟩ =
      .ok (a, ⟨ts, scope, leftover.or (leftIn d after)⟩) := by
  show (if d = d then inside inner d s p else _ : Reader α) _ = _
  rw [if_pos rfl, inside, hp]
  rfl

/-- A group is read by its own trees alone. -/
theorem group_eq_ok {d : Delimiter} {p : Reader α} {c next : Cursor} {a : α}
    (h : group d p c = .ok (a, next)) :
    ∃ inner s ts after, c.trees = .group d inner s :: ts ∧
      p ⟨inner, s.lastChar, none⟩ = .ok (a, after) ∧
      next = ⟨ts, c.scope, c.leftover.or (leftIn d after)⟩ := by
  obtain ⟨_ | ⟨_ | _ | _ | _ | ⟨e, inner, s⟩, ts⟩, scope, leftover⟩ := c
  case cons.group =>
    change (if d = e then inside inner d s p else want _ : Reader α) _ = _ at h
    split at h
    next hd =>
      subst hd
      obtain ⟨⟨b, after⟩, hp, h⟩ := exists_of_bind_eq_ok h
      cases h
      exact ⟨inner, s, ts, after, rfl, hp, rfl⟩
    next => exact absurd h (Fails.want _ _ _)
  all_goals exact absurd h (Fails.want _ _ _)

theorem Yields.group {P : α → Prop} {p : Reader α} (hp : Yields P p) (d : Delimiter) :
    Yields P (group d p) := by
  intro c a next h
  obtain ⟨inner, s, ts, after, -, ha, -⟩ := group_eq_ok h
  exact hp _ a after ha

/-- In a group any reader will do. -/
theorem follows_group {k : Ending} {inner : Bool} {most : Nat} (d : Delimiter) (p : Reader α) :
    Follows k inner most (group d p) (group d p) where
  shrinks c a next h := by
    obtain ⟨inside, s, ts, after, hc, -, rfl⟩ := group_eq_ok h
    refine ⟨hc ▸ List.suffix_cons _ _, rfl, fun hleft ↦ ?_⟩
    cases hc : c.leftover with
    | none => rfl
    | some d => rw [hc] at hleft; cases hleft
  run := by
    intro ts rest tail tail' scope a _ _ _ _ h
    obtain ⟨inside, s, more, after, hc, hp, hnext⟩ := group_eq_ok h
    obtain ⟨hrest, -, hleft⟩ := Cursor.mk.inj hnext
    rcases ts with _ | ⟨t, ts⟩
    · have hlen : tail.length = more.length + 1 := by simpa using congrArg List.length hc
      rw [← hrest, List.length_append] at hlen
      omega
    · obtain ⟨rfl, hts⟩ := List.cons.inj hc
      rw [← hts] at hrest
      obtain rfl := List.append_cancel_right hrest
      rw [List.cons_append, group_apply hp, ← hleft]

/-! ## Lists -/

section

variable {k : Ending} {inner : Bool} {most : Nat} {go stop : List Tree → Bool} {item : Reader α}

/-- Items, one after the other, if each takes a tree. -/
theorem follows_many (hgo : Blind k inner go) (hitem : ∀ most, Follows k inner most item item)
    (hprogress : Progresses item) : Follows k inner most (many go item) (many go item) := by
  refine .rounds (.bind fun _ ↦ .fail _ _) fun n m most h ↦ ?_
  refine .bind (.sees hgo) fun more ↦ .ite ?_ (.pure [])
  exact .bindProgress (hitem _) hprogress fun a ↦ .bind h fun as ↦ .pure _

/-- Items with separators between them, up to an end that is not a comma.  In an entry such an end
has to come after the last item, so no item needs to be told from what comes after the entry. -/
theorem follows_separated {separator : Reader Unit} (hstop : Blind k false stop)
    (hnil : stop [] = false) (hitem : ∀ most, Follows k k.isEntry most item item)
    (hseparator : ∀ most, Follows k inner most separator separator)
    (hprogress : Progresses separator) :
    Follows k inner most (separated separator stop item) (separated separator stop item) := by
  have hblind : Blind k inner stop :=
    fun ts tail tail' ht ht' _ ↦ hstop ts tail tail' ht ht' (by simp)
  refine .rounds (.bind fun _ ↦ .fail _ _) fun n m most h ↦ ?_
  refine .bind (.sees hblind) fun stopped ↦ .ite (.pure _) ?_
  have hnext := fun a ↦ h.bind fun r ↦ (.pure (a :: r.1, r.2) : Follows k inner most _ _)
  refine .bindItem (hitem _) (fun hk a rest tail scope b ht hb ↦ ?_) fun a ↦ ?_
  · -- after an item that ends the entry there would have to be a separator in the tail
    subst hk
    obtain ⟨stopped, mid, hseen, hb⟩ := bind_eq_ok hb
    obtain ⟨rfl, rfl⟩ := Prod.mk.inj (Except.ok.inj hseen)
    have hgoes : ¬stop tail = true := by
      rw [← List.nil_append tail, hstop [] tail [] ht .nothing (by simp), List.nil_append, hnil]
      exact Bool.false_ne_true
    rw [if_neg hgoes] at hb
    obtain ⟨_, mid, hsep, hb⟩ := bind_eq_ok hb
    have hlt := hprogress _ _ _ hsep
    have hle := ((hnext a).shrinks _ _ _ hb).1.length_le
    simp only [List.length_append] at hle hlt
    omega
  · refine .bind (.sees hblind) fun stopped ↦ .ite (.pure _) ?_
    exact .bindProgress (hseparator _) hprogress fun _ ↦ hnext a

end

/-! ## An entry alone -/

/-- What a reader has taken, if no trees were left over in a group. -/
theorem exists_front {p : Reader α} (hp : Shrinks p) {ts : List Tree} {scope : Span} {a : α}
    {next : Cursor} (h : p ⟨ts, scope, none⟩ = .ok (a, next)) (hleft : next.leftover = none) :
    ∃ front rest, ts = front ++ rest ∧ next = ⟨rest, scope, none⟩ := by
  obtain ⟨rest, scope', leftover⟩ := next
  obtain ⟨⟨front, hts⟩, rfl, -⟩ := hp _ a _ h
  obtain rfl : leftover = none := hleft
  exact ⟨front, rest, hts.symm, rfl⟩

theorem run_eq_ok_iff {p : Reader α} (hp : Shrinks p) {scope : Span} {ts : List Tree} {a : α} :
    p.run scope ts = .ok a ↔ p ⟨ts, scope, none⟩ = .ok (a, ⟨[], scope, none⟩) := by
  constructor
  · intro h
    obtain ⟨⟨b, next⟩, hb, h⟩ := exists_of_bind_eq_ok h
    dsimp only at h
    split at h
    · exact nomatch h
    · exact nomatch h
    · next hleft htrees =>
      obtain rfl := Except.ok.inj h
      obtain ⟨front, rest, -, rfl⟩ := exists_front hp hb hleft
      obtain rfl : rest = [] := htrees
      exact hb
  · intro h
    show Except.bind (p ⟨ts, scope, none⟩) _ = _
    rw [h]
    rfl

/-- **An entry is read as if it stood alone.** -/
theorem Follows.alone_iff {p : Reader α} (hp : ∀ most, Follows .entry false most p p)
    {ts tail : List Tree} (ht : Ends tail) {scope : Span} {a : α} :
    p ⟨ts ++ tail, scope, none⟩ = .ok (a, ⟨tail, scope, none⟩) ↔
      p ⟨ts, scope, none⟩ = .ok (a, ⟨[], scope, none⟩) := by
  have hfollows := hp (ts.length + 1)
  have hmost := Nat.lt_succ_self ts.length
  have hi : false = true → ([] : List Tree) ≠ [] := by simp
  constructor
  · intro h
    have halone := hfollows.run hmost ht .nothing hi h
    rwa [List.append_nil] at halone
  · intro h
    rw [← List.append_nil ts] at h
    exact hfollows.run hmost .nothing ht hi h

end TypedIds.Reader
