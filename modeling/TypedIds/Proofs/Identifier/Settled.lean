import TypedIds.Proofs.Identifier.Verdict

/-!
# What a run settles

A run changes its state: it builds unspecified identifiers and keeps them, and it records events.
None of this has a say in what it yields.  A state is *sound* if the identifiers that it keeps are
the blank ones, and `Run.Settles` says that a run yields the same from every sound state and ends in
a sound one.  So what was built or made before does not matter: `Family.unspecified_settles` is this
for the unspecified identifier, `Family.new_settles` for a new one.
-/

set_option autoImplicit false

namespace TypedIds

variable {Key : Type}

/-! ## Settled runs -/

/-- The unspecified identifiers that are kept are the blank ones. -/
def RunState.Sound {F : Family Key} (σ : RunState F) : Prop :=
  ∀ k id, σ.built k = some id → id = F.blank k

namespace Run

variable {F : Family Key} {α β : Type}

/-- From every sound state the run yields `a`, and ends in a sound state. -/
def Settles (m : Run F α) (a : α) : Prop :=
  ∀ σ : RunState F, σ.Sound → (m.run σ).1 = a ∧ (m.run σ).2.Sound

theorem Settles.pure (a : α) : Settles (pure a : Run F α) a := fun _ hσ ↦ ⟨rfl, hσ⟩

theorem Settles.bind {m : Run F α} {f : α → Run F β} {a : α} {b : β} (hm : m.Settles a)
    (hf : (f a).Settles b) : Settles (m >>= f) b := by
  intro σ hσ
  obtain ⟨ha, hmid⟩ := hm σ hσ
  have hrun : (m >>= f).run σ = (f a).run (m.run σ).2 := by
    rw [← ha]
    rfl
  rw [hrun]
  exact hf _ hmid

/-- An event has no part in what is kept. -/
theorem Settles.note (e : Event Key) : Settles (modify (·.note e) : Run F Unit) () :=
  fun _ hσ ↦ ⟨rfl, hσ⟩

end Run

namespace Family

variable {F : Family Key}

theorem ask_settles (k : Key) (purpose : Purpose) (v : F.Raw k) :
    (F.ask k purpose v).Settles (F.verdict k v) := by
  rw [ask, verdict]
  cases F.hook k with
  | none => exact .pure _
  | some h =>
    dsimp only
    cases h.apply v with
    | ok w => exact (Run.Settles.note _).bind (.pure _)
    | error c => exact (Run.Settles.note _).bind (.pure _)

/-- A new identifier is what the hook makes of the value. -/
theorem new_settles (k : Key) (v : F.Raw k) : (F.new k v).Settles (F.verdict k v) :=
  ask_settles k .construction v

theorem ofUnspecified_settles (k : Key) (v : F.Raw k) :
    (F.ofUnspecified k v).Settles (F.settled k v) := by
  rw [ofUnspecified, settled]
  cases F.origin k with
  | handWritten => exact .pure _
  | generated =>
    refine (ask_settles k .unspecified v).bind ?_
    cases F.verdict k v with
    | ok id => exact .pure _
    | error e => exact .pure _

theorem rank_lt_of_mem {n : Nat} {k : Key} (hk : F.rank k < n + 1) :
    ∀ p ∈ (F.shape k).keys, F.rank p < n := by
  intro p hp
  exact Nat.lt_of_lt_of_le (F.rank_lt k p hp) (Nat.le_of_lt_succ hk)

end Family

section

variable {F : Family Key} {P : Key → Prop} {get : (p : Key) → P p → Run F (F.Id p)}

theorem Part.unspecified_settles {t : ValueType Key} (part : Part F.values t)
    (hP : ∀ p ∈ part.keys, P p) {known : (p : Key) → p ∈ part.keys → F.Id p}
    (hget : ∀ p hp, (get p (hP p hp)).Settles (known p hp)) :
    (part.unspecified get hP).Settles (part.blank known) := by
  cases part with
  | plain v => exact .pure v
  | identifier k => exact hget k _

theorem Parts.unspecified_settles {fs : FieldTypes Key} (parts : Parts F.values fs)
    (hP : ∀ p ∈ parts.keys, P p) {known : (p : Key) → p ∈ parts.keys → F.Id p}
    (hget : ∀ p hp, (get p (hP p hp)).Settles (known p hp)) :
    (parts.unspecified get hP).Settles (parts.blank known) := by
  induction parts with
  | nil => exact .pure ()
  | cons part parts ih =>
    rw [Parts.unspecified, Parts.blank]
    have hpart := part.unspecified_settles _ fun p hp ↦ hget p (List.mem_append_left _ hp)
    have hparts := ih _ fun p hp ↦ hget p (List.mem_append_right _ hp)
    exact hpart.bind (hparts.bind (.pure _))

theorem Shape.unspecified_settles {t : ValueType Key} (shape : Shape F.values t)
    (hP : ∀ p ∈ shape.keys, P p) {known : (p : Key) → p ∈ shape.keys → F.Id p}
    (hget : ∀ p hp, (get p (hP p hp)).Settles (known p hp)) :
    (shape.unspecified get hP).Settles (shape.blank known) := by
  cases shape with
  | guid => exact .pure _
  | text => exact .pure _
  | combined parts => exact parts.unspecified_settles hP hget

end

/-! ## The unspecified identifier -/

variable {F : Family Key}

theorem RunState.Sound.start : (RunState.start F).Sound := fun _ _ h ↦ nomatch h

variable [DecidableEq Key]

theorem RunState.Sound.keep {σ : RunState F} (hσ : σ.Sound) (k : Key) :
    (σ.keep k (F.blank k)).Sound := by
  intro j id hid
  simp only [RunState.keep] at hid
  split at hid
  · next hj =>
    subst hj
    exact (Option.some.inj hid).symm
  · exact hσ j id hid

theorem Run.Settles.keep (k : Key) :
    Settles (modify (·.keep k (F.blank k)) : Run F Unit) () := fun _ hσ ↦ ⟨rfl, hσ.keep k⟩

namespace Family

/-- Building the unspecified identifier of a type, when none is kept. -/
def build (F : Family Key) (n : Nat) (k : Key) (hn : ∀ p ∈ (F.shape k).keys, F.rank p < n) :
    Run F (F.Id k) := do
  let v ← (F.shape k).unspecified (F.unspecifiedBelow n) hn
  let id ← F.ofUnspecified k v
  modify (·.keep k id)
  return id

theorem run_unspecifiedBelow (n : Nat) (k : Key) (hk : F.rank k < n + 1) (σ : RunState F) :
    (F.unspecifiedBelow (n + 1) k hk).run σ =
      match σ.built k with
      | some id => (id, σ)
      | none => (F.build n k (rank_lt_of_mem hk)).run σ := by
  rw [unspecifiedBelow]
  show (match σ.built k with
    | some id => (pure id : Run F (F.Id k))
    | none => F.build n k (rank_lt_of_mem hk)).run σ = _
  cases σ.built k with
  | some id => rfl
  | none => rfl

theorem unspecifiedBelow_settles (n : Nat) (k : Key) (hk : F.rank k < n) :
    (F.unspecifiedBelow n k hk).Settles (F.blank k) := by
  induction n generalizing k with
  | zero => exact absurd hk (Nat.not_lt_zero _)
  | succ n ih =>
    have hbuild : (F.build n k (rank_lt_of_mem hk)).Settles (F.blank k) := by
      have hraw : ((F.shape k).unspecified (F.unspecifiedBelow n) (rank_lt_of_mem hk)).Settles
          (F.blankRaw k) :=
        (F.shape k).unspecified_settles _ fun p hp ↦ ih p (rank_lt_of_mem hk p hp)
      have hid := ofUnspecified_settles k (F.blankRaw k)
      rw [← blank_eq] at hid
      exact hraw.bind (hid.bind ((Run.Settles.keep k).bind (.pure _)))
    -- A sound state keeps the blank identifier or none, and the blank one is what is built.
    intro σ hσ
    rw [run_unspecifiedBelow]
    cases hkept : σ.built k with
    | some id => exact ⟨hσ k id hkept, hσ⟩
    | none => exact hbuild σ hσ

/-- **The unspecified identifier of a type depends on the type alone**, not on what was built or
made before. -/
theorem unspecified_settles (k : Key) : (F.unspecified k).Settles (F.blank k) :=
  unspecifiedBelow_settles _ k _

end Family

end TypedIds
