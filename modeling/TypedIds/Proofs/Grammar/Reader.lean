import TypedIds.Grammar.Reader

/-!
# What a reader can yield

A property of results that holds whatever trees a reader is given.  It says nothing about which
trees are taken or whether there is a result at all, so it composes without looking at the trees:
the result of a chain of readers has the property when that of the last one has.
-/

set_option autoImplicit false

namespace TypedIds

/-- A chain of two results is a result only if both are. -/
theorem exists_of_bind_eq_ok {ε α β : Type} {x : Except ε α} {f : α → Except ε β} {b : β}
    (h : (x >>= f) = .ok b) : ∃ a, x = .ok a ∧ f a = .ok b := by
  cases x with
  | error e => exact nomatch h
  | ok a => exact ⟨a, rfl, h⟩

/-- A result that has a property is no error. -/
theorem exists_of_any_toOption {ε α : Type} {x : Except ε α} {p : α → Bool}
    (h : x.toOption.any p = true) : ∃ a, x = .ok a ∧ p a = true := by
  cases x with
  | error e => cases h
  | ok a => exact ⟨a, rfl, h⟩

namespace Reader

variable {α β : Type} {P : α → Prop} {Q : β → Prop}

/-- Whatever the reader yields, on any trees, has the property. -/
def Yields (P : α → Prop) (p : Reader α) : Prop := ∀ c a next, p c = .ok (a, next) → P a

theorem Yields.pure {a : α} (h : P a) : Yields P (pure a) := by
  intro c b next hb
  obtain ⟨rfl, -⟩ := Prod.mk.inj (Except.ok.inj hb)
  exact h

theorem Yields.fail (p : Problem) (s : Span) : Yields P (fail p s) := by
  intro c a next h
  exact absurd h (by simp [Reader.fail])

theorem Yields.and {P' : α → Prop} {p : Reader α} (hp : Yields P p) (hp' : Yields P' p) :
    Yields (fun a ↦ P a ∧ P' a) p :=
  fun c a next h ↦ ⟨hp c a next h, hp' c a next h⟩

/-- A chain of two readers yields nothing unless both do. -/
theorem bind_eq_ok {p : Reader α} {f : α → Reader β} {c next : Cursor} {b : β}
    (h : (p >>= f) c = .ok (b, next)) : ∃ a mid, p c = .ok (a, mid) ∧ f a mid = .ok (b, next) := by
  obtain ⟨r, hp, hf⟩ := exists_of_bind_eq_ok h
  exact ⟨r.1, r.2, hp, hf⟩

theorem Yields.bind {p : Reader α} {f : α → Reader β} (hp : Yields P p)
    (hf : ∀ a, P a → Yields Q (f a)) : Yields Q (p >>= f) := by
  intro c b next h
  obtain ⟨a, mid, ha, hb⟩ := bind_eq_ok h
  exact hf a (hp c a mid ha) mid b next hb

/-- The property of a chain is that of its last reader. -/
theorem Yields.andThen {p : Reader α} {f : α → Reader β} (hf : ∀ a, Yields Q (f a)) :
    Yields Q (p >>= f) := by
  intro c b next h
  obtain ⟨a, mid, -, hb⟩ := bind_eq_ok h
  exact hf a mid b next hb

/-- The property of a choice is that of both readers. -/
theorem Yields.ite {c : Prop} [Decidable c] {p q : Reader α} (hp : Yields P p) (hq : Yields P q) :
    Yields P (if c then p else q) := by
  split
  · exact hp
  · exact hq

/-- Also yielding the trees that are taken leaves the property as it is. -/
theorem Yields.taking {p : Reader α} (hp : Yields P p) :
    Yields (fun a ↦ P a.1) (taking p) := by
  intro c a next h
  obtain ⟨⟨b, mid⟩, hb, h⟩ := exists_of_bind_eq_ok h
  obtain ⟨rfl, -⟩ := Prod.mk.inj (Except.ok.inj h)
  exact hp c b mid hb

/-- Reading all of some trees yields what the reader yields. -/
theorem Yields.run {p : Reader α} (hp : Yields P p) {scope : Span} {ts : List Tree} {a : α}
    (h : p.run scope ts = .ok a) : P a := by
  rw [Reader.run] at h
  obtain ⟨⟨b, next⟩, hb, h⟩ := exists_of_bind_eq_ok h
  dsimp only at h
  split at h
  · exact nomatch h
  · exact nomatch h
  · obtain rfl := Except.ok.inj h
    exact hp _ b next hb

end Reader

end TypedIds
