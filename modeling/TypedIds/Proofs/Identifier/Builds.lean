import TypedIds.Proofs.Identifier.Settled

/-!
# How often an unspecified identifier is built

The unspecified identifier of a type is built when it is first asked for, and with it those of the
types of its components, if they are not built yet.  Every time the hook of a type is asked about a
blank value is an event, so the history of a run tells how often that was (`RunState.builds`).

A state is *thrifty* if the hook of a type was asked at most once, and not at all unless the
unspecified identifier of the type is kept.  Building an identifier asks the hooks of types up to
its own rank and leaves all others alone (`Run.BuildsBelow`), so when it comes to its own hook it
has not been asked yet.

* `Family.unspecifiedBelow_buildsBelow` — what asking for an unspecified identifier does to the
  history.
* `Family.unspecified_keeps_thrifty` — it keeps a thrifty state thrifty.
-/

set_option autoImplicit false

namespace TypedIds

variable {Key : Type}

/-! ## Runs that keep a property -/

namespace Run

variable {F : Family Key} {α β : Type} {Q : RunState F → Prop}

/-- The run ends in a state with the property `Q` if it starts in one. -/
def Keeps (Q : RunState F → Prop) (m : Run F α) : Prop := ∀ σ, Q σ → Q (m.run σ).2

theorem Keeps.pure (a : α) : Keeps Q (pure a : Run F α) := fun _ hσ ↦ hσ

theorem Keeps.bind {m : Run F α} {f : α → Run F β} (hm : m.Keeps Q) (hf : ∀ a, (f a).Keeps Q) :
    Keeps Q (m >>= f) := fun σ hσ ↦ hf (m.run σ).1 _ (hm σ hσ)

end Run

variable [DecidableEq Key]

/-! ## Counting -/

/-- The hook of the type `k` was asked about the blank value. -/
def Event.isBuild (k : Key) : Event Key → Bool
  | .asked j .unspecified _ => j = k
  | _ => false

namespace RunState

variable {F : Family Key}

/-- How often the hook of the type `k` was asked about the blank value. -/
def builds (σ : RunState F) (k : Key) : Nat := σ.history.countP (Event.isBuild k)

/-- Every hook was asked about the blank value at most once, and not at all if the unspecified
identifier of its type is not kept. -/
def Thrifty (σ : RunState F) : Prop := ∀ k, σ.builds k ≤ (σ.built k).isSome.toNat

theorem Thrifty.start : (RunState.start F).Thrifty := fun _ ↦ Nat.le_refl 0

theorem Thrifty.builds_le_one {σ : RunState F} (hσ : σ.Thrifty) (k : Key) : σ.builds k ≤ 1 :=
  Nat.le_trans (hσ k) (Bool.toNat_le _)

theorem builds_note (e : Event Key) (σ : RunState F) (k : Key) :
    (σ.note e).builds k = σ.builds k + (e.isBuild k).toNat := by
  rw [builds, note, List.countP_append, List.countP_singleton]
  cases e.isBuild k <;> rfl

@[simp] theorem builds_keep (j : Key) (id : F.Id j) (σ : RunState F) (k : Key) :
    (σ.keep j id).builds k = σ.builds k := rfl

theorem built_keep_self (k : Key) (id : F.Id k) (σ : RunState F) :
    (σ.keep k id).built k = some id := by
  rw [keep]
  exact dif_pos rfl

theorem built_keep_of_ne {j k : Key} (h : k ≠ j) (id : F.Id j) (σ : RunState F) :
    (σ.keep j id).built k = σ.built k := by
  rw [keep]
  exact dif_neg h

end RunState

/-! ## What is left alone -/

namespace Run

variable {F : Family Key} {α β : Type} {m n : Nat}

/-- The run keeps thrifty states thrifty, and has nothing to do with the unspecified identifiers of
types of the rank `n` or a higher one. -/
def BuildsBelow (n : Nat) (m : Run F α) : Prop :=
  ∀ σ : RunState F, σ.Thrifty → (m.run σ).2.Thrifty ∧
    ∀ k, n ≤ F.rank k → (m.run σ).2.built k = σ.built k ∧ (m.run σ).2.builds k = σ.builds k

theorem BuildsBelow.pure (a : α) : BuildsBelow n (pure a : Run F α) :=
  fun _ hσ ↦ ⟨hσ, fun _ _ ↦ ⟨rfl, rfl⟩⟩

theorem BuildsBelow.bind {r : Run F α} {f : α → Run F β} (hr : r.BuildsBelow n)
    (hf : ∀ a, (f a).BuildsBelow n) : BuildsBelow n (r >>= f) := by
  intro σ hσ
  obtain ⟨hmid, hsame⟩ := hr σ hσ
  obtain ⟨hend, hsame'⟩ := hf (r.run σ).1 _ hmid
  refine ⟨hend, fun k hk ↦ ?_⟩
  obtain ⟨hbuilt, hbuilds⟩ := hsame k hk
  obtain ⟨hbuilt', hbuilds'⟩ := hsame' k hk
  exact ⟨hbuilt'.trans hbuilt, hbuilds'.trans hbuilds⟩

theorem BuildsBelow.mono {r : Run F α} (hr : r.BuildsBelow m) (h : m ≤ n) : r.BuildsBelow n :=
  fun σ hσ ↦ ⟨(hr σ hσ).1, fun k hk ↦ (hr σ hσ).2 k (Nat.le_trans h hk)⟩

end Run

/-! ## Building -/

section

variable {F : Family Key} {P : Key → Prop} {get : (p : Key) → P p → Run F (F.Id p)} {n : Nat}

theorem Part.unspecified_buildsBelow {t : ValueType Key} (part : Part F.values t)
    (hP : ∀ p ∈ part.keys, P p) (hget : ∀ p hp, (get p (hP p hp)).BuildsBelow n) :
    (part.unspecified get hP).BuildsBelow n := by
  cases part with
  | plain v => exact .pure v
  | identifier k => exact hget k (List.mem_singleton.mpr rfl)

theorem Parts.unspecified_buildsBelow {fs : FieldTypes Key} (parts : Parts F.values fs)
    (hP : ∀ p ∈ parts.keys, P p) (hget : ∀ p hp, (get p (hP p hp)).BuildsBelow n) :
    (parts.unspecified get hP).BuildsBelow n := by
  induction parts with
  | nil => exact .pure ()
  | cons part parts ih =>
    rw [Parts.unspecified]
    have hpart := part.unspecified_buildsBelow _ fun p hp ↦ hget p (List.mem_append_left _ hp)
    have hparts := ih _ fun p hp ↦ hget p (List.mem_append_right _ hp)
    exact hpart.bind fun a ↦ hparts.bind fun b ↦ .pure _

theorem Shape.unspecified_buildsBelow {t : ValueType Key} (shape : Shape F.values t)
    (hP : ∀ p ∈ shape.keys, P p) (hget : ∀ p hp, (get p (hP p hp)).BuildsBelow n) :
    (shape.unspecified get hP).BuildsBelow n := by
  cases shape with
  | guid => exact .pure _
  | text => exact .pure _
  | combined parts => exact parts.unspecified_buildsBelow hP hget

end

namespace Family

variable {F : Family Key}

omit [DecidableEq Key] in
/-- At most one event comes of asking about a blank value, and it is that of the type's own hook. -/
theorem run_ofUnspecified (k : Key) (v : F.Raw k) (σ : RunState F) :
    ((F.ofUnspecified k v).run σ).2 = σ ∨
      ∃ rejection, ((F.ofUnspecified k v).run σ).2 = σ.note (.asked k .unspecified rejection) := by
  rw [ofUnspecified]
  cases F.origin k with
  | handWritten => exact .inl rfl
  | generated =>
    dsimp only
    rw [ask]
    cases F.hook k with
    | none => exact .inl rfl
    | some h =>
      dsimp only
      cases h.apply v with
      | ok w => exact .inr ⟨none, rfl⟩
      | error c => exact .inr ⟨some c, rfl⟩

/-- Asking about a blank value counts once at most, and for the type of the value only. -/
theorem builds_ofUnspecified (k : Key) (v : F.Raw k) (σ : RunState F) :
    ((F.ofUnspecified k v).run σ).2.built = σ.built ∧
      ((F.ofUnspecified k v).run σ).2.builds k ≤ σ.builds k + 1 ∧
        ∀ j ≠ k, ((F.ofUnspecified k v).run σ).2.builds j = σ.builds j := by
  obtain hsame | ⟨rejection, hnote⟩ := run_ofUnspecified k v σ
  · rw [hsame]
    exact ⟨rfl, Nat.le_succ _, fun _ _ ↦ rfl⟩
  · rw [hnote]
    refine ⟨rfl, ?_, fun j hj ↦ ?_⟩
    · rw [RunState.builds_note]
      exact Nat.add_le_add_left (Bool.toNat_le _) _
    · have hother : Event.isBuild j (.asked k .unspecified rejection) = false := by
        simpa [Event.isBuild] using hj.symm
      rw [RunState.builds_note, hother]
      rfl

/-- Making an identifier of a blank value and keeping it, the type's hook not having been asked. -/
theorem keep_ofUnspecified_thrifty (k : Key) (v : F.Raw k) {σ : RunState F} (hσ : σ.Thrifty)
    (hk : σ.built k = none) :
    let m : Run F (F.Id k) := do
      let id ← F.ofUnspecified k v
      modify (·.keep k id)
      return id
    (m.run σ).2.Thrifty ∧
      ∀ j ≠ k, (m.run σ).2.built j = σ.built j ∧ (m.run σ).2.builds j = σ.builds j := by
  intro m
  obtain ⟨hbuilt, hself, hother⟩ := builds_ofUnspecified k v σ
  generalize hmade : (F.ofUnspecified k v).run σ = made at hbuilt hself hother
  have hend : (m.run σ).2 = made.2.keep k made.1 := by
    rw [← hmade]
    rfl
  have hrest : ∀ j ≠ k, (m.run σ).2.built j = σ.built j ∧ (m.run σ).2.builds j = σ.builds j := by
    intro j hj
    rw [hend, RunState.built_keep_of_ne hj, hbuilt, RunState.builds_keep]
    exact ⟨rfl, hother j hj⟩
  refine ⟨fun j ↦ ?_, hrest⟩
  by_cases hj : j = k
  · subst hj
    have hzero : σ.builds j ≤ 0 := by simpa [hk] using hσ j
    rw [hend, RunState.builds_keep, RunState.built_keep_self]
    exact Nat.le_trans hself (Nat.add_le_add_right hzero 1)
  · rw [(hrest j hj).1, (hrest j hj).2]
    exact hσ j

/-- Asking for the unspecified identifier of a type asks no hook of a type of a higher rank, and
none twice. -/
theorem unspecifiedBelow_buildsBelow (n : Nat) (k : Key) (hk : F.rank k < n) :
    (F.unspecifiedBelow n k hk).BuildsBelow (F.rank k + 1) := by
  induction n generalizing k with
  | zero => exact absurd hk (Nat.not_lt_zero _)
  | succ n ih =>
    intro σ hσ
    rw [run_unspecifiedBelow]
    cases hkept : σ.built k with
    | some id => exact ⟨hσ, fun _ _ ↦ ⟨rfl, rfl⟩⟩
    | none =>
      -- The components are of lower ranks, so the type itself is still not built after them.
      have hraw : ((F.shape k).unspecified (F.unspecifiedBelow n)
          (rank_lt_of_mem hk)).BuildsBelow (F.rank k) :=
        (F.shape k).unspecified_buildsBelow _ fun p hp ↦
          (ih p (rank_lt_of_mem hk p hp)).mono (F.rank_lt k p hp)
      obtain ⟨hmid, hsame⟩ := hraw σ hσ
      obtain ⟨hend, hrest⟩ := keep_ofUnspecified_thrifty k
        (((F.shape k).unspecified (F.unspecifiedBelow n) (rank_lt_of_mem hk)).run σ).1 hmid
        ((hsame k (Nat.le_refl _)).1.trans hkept)
      refine ⟨hend, fun j hj ↦ ?_⟩
      have hne : j ≠ k := by
        rintro rfl
        exact Nat.not_succ_le_self _ hj
      obtain ⟨hbuilt, hbuilds⟩ := hsame j (Nat.le_of_succ_le hj)
      obtain ⟨hbuilt', hbuilds'⟩ := hrest j hne
      exact ⟨hbuilt'.trans hbuilt, hbuilds'.trans hbuilds⟩

/-- **An unspecified identifier is built at most once**: what asking for one does to a state in
which that is so keeps it so. -/
theorem unspecified_keeps_thrifty (k : Key) : (F.unspecified k).Keeps RunState.Thrifty :=
  fun σ hσ ↦ (unspecifiedBelow_buildsBelow _ k (Nat.lt_succ_self _) σ hσ).1

end Family

end TypedIds
