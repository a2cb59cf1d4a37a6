import Mathlib.Data.List.Nodup
import TypedIds.Expansion.Module

/-!
# What is taken from the replacements

The replacements of a module are filled in one pass over its structs and emptied in another, and
all that goes from the one to the other is a key.  This file is about lists of structs only; the
trees that they come from are left to `TypedIds.Proofs.Expansion.Placement`.

* `get?` is what a key stands for.  Putting in gives up what was there (`get?_insert`), and taking
  out leaves nothing behind (`take?_spec`), since every key stands once (`Distinct`).
* `takeAll` is the second pass on the keys alone.  A key that stands for nothing stays so
  (`eq_none_of_takeAll`).
* `ofLast` is what a key stands for after the first pass (`get?_insertAll_eq_ofLast`).
* **`takeAll_insertAll_iff`**: each struct gets out what was put in for it exactly if nothing was
  put in for a struct that comes after another one of its key.
-/

set_option autoImplicit false

namespace TypedIds

/-- What the replacement of a candidate is found by. -/
def Candidate.key (c : Candidate) : TypeKey := ⟨c.path, c.item.name⟩

namespace Replacements

variable {k l : TypeKey} {code : Code} {r r' : Replacements}

/-! ## One key -/

/-- What a key stands for. -/
def get? (k : TypeKey) (r : Replacements) : Option Code := (take? k r).map Prod.fst

/-- Every key stands once. -/
def Distinct (r : Replacements) : Prop := (r.map Prod.fst).Nodup

@[simp] theorem get?_nil : get? k [] = none := rfl

theorem get?_cons (e : TypeKey × Code) :
    get? k (e :: r) = if e.1 = k then some e.2 else get? k r := by
  rw [get?, take?]
  split
  · rfl
  · rw [get?, Option.map_map]
    rfl

theorem get?_eq_none_iff : get? k r = none ↔ k ∉ r.map Prod.fst := by
  induction r with
  | nil => simp
  | cons e r ih =>
    rw [get?_cons, List.map_cons, List.mem_cons, not_or, ← ih]
    by_cases h : e.1 = k
    · simp [h]
    · simp [h, Ne.symm h]

theorem take?_eq_none_iff : take? k r = none ↔ get? k r = none := by
  rw [get?, Option.map_eq_none_iff]

/-- The replacement that is put in gives up the one that was there. -/
theorem get?_insert : get? l (insert k code r) = if k = l then some code else get? l r := by
  induction r with
  | nil => exact get?_cons (k, code)
  | cons e r ih =>
    rw [insert]
    split
    next he =>
      rw [get?_cons, get?_cons, he]
      split <;> rfl
    next he =>
      rw [get?_cons, get?_cons, ih]
      by_cases hl : e.1 = l
      · have hk : k ≠ l := fun h ↦ he (hl.trans h.symm)
        rw [if_pos hl, if_pos hl, if_neg hk]
      · rw [if_neg hl, if_neg hl]

theorem map_fst_insert (h : k ∈ r.map Prod.fst) :
    (insert k code r).map Prod.fst = r.map Prod.fst := by
  induction r with
  | nil => simp at h
  | cons e r ih =>
    rw [insert]
    split
    next he => simp [he]
    next he =>
      rw [List.map_cons, List.mem_cons] at h
      rw [List.map_cons, List.map_cons, ih (h.resolve_left (Ne.symm he))]

theorem map_fst_insert_of_not_mem (h : k ∉ r.map Prod.fst) :
    (insert k code r).map Prod.fst = r.map Prod.fst ++ [k] := by
  induction r with
  | nil => rfl
  | cons e r ih =>
    rw [List.map_cons, List.mem_cons, not_or] at h
    rw [insert, if_neg (Ne.symm h.1), List.map_cons, ih h.2, List.map_cons, List.cons_append]

theorem Distinct.insert (h : Distinct r) (k : TypeKey) (code : Code) :
    Distinct (insert k code r) := by
  rw [Distinct]
  by_cases hk : k ∈ r.map Prod.fst
  · rwa [map_fst_insert hk]
  · rw [map_fst_insert_of_not_mem hk, List.nodup_append]
    refine ⟨h, List.nodup_singleton k, fun a ha b hb ↦ ?_⟩
    rw [List.mem_singleton.mp hb]
    exact fun hab ↦ hk (hab ▸ ha)

/-- What is taken out is no longer there, and all else stays. -/
theorem take?_spec (h : Distinct r) (ht : take? k r = some (code, r')) :
    Distinct r' ∧ (∀ j ∈ r'.map Prod.fst, j ∈ r.map Prod.fst) ∧
      ∀ j, get? j r' = if j = k then none else get? j r := by
  induction r generalizing r' with
  | nil => simp [take?] at ht
  | cons e r ih =>
    rw [Distinct, List.map_cons, List.nodup_cons] at h
    rw [take?] at ht
    split at ht
    next he =>
      obtain ⟨-, rfl⟩ := Prod.mk.inj (Option.some.inj ht)
      refine ⟨h.2, fun j hj ↦ List.mem_cons_of_mem _ hj, fun j ↦ ?_⟩
      rw [get?_cons]
      by_cases hj : j = k
      · rw [if_pos hj, hj, get?_eq_none_iff, ← he]
        exact h.1
      · rw [if_neg hj, if_neg (fun h ↦ hj (h.symm.trans he))]
    next he =>
      obtain ⟨⟨c, s⟩, hs, hcs⟩ := Option.map_eq_some_iff.mp ht
      obtain ⟨rfl, rfl⟩ := Prod.mk.inj hcs
      obtain ⟨hd, hsub, hget⟩ := ih h.2 hs
      refine ⟨List.nodup_cons.mpr ⟨fun hm ↦ h.1 (hsub _ hm), hd⟩, ?_, fun j ↦ ?_⟩
      · intro j hj
        rcases List.mem_cons.mp hj with rfl | hj
        · exact List.mem_cons_self
        · exact List.mem_cons_of_mem _ (hsub j hj)
      · rw [get?_cons, get?_cons, hget]
        by_cases hj : j = k
        · rw [if_pos hj, if_pos hj, if_neg (fun h ↦ he (h.trans hj))]
        · rw [if_neg hj, if_neg hj]

/-! ## All keys -/

/-- Takes out the replacements for some keys, one after the other. -/
def takeAll : List TypeKey → Replacements → List (Option Code) × Replacements
  | [], r => ([], r)
  | k :: ks, r =>
    match take? k r with
    | some (code, r) => (some code :: (takeAll ks r).1, (takeAll ks r).2)
    | none => (none :: (takeAll ks r).1, (takeAll ks r).2)

/-- What is left after the replacement for a key is taken out. -/
def without (k : TypeKey) (r : Replacements) : Replacements :=
  ((take? k r).map Prod.snd).getD r

theorem takeAll_cons (k : TypeKey) (ks : List TypeKey) (r : Replacements) :
    takeAll (k :: ks) r =
      (get? k r :: (takeAll ks (without k r)).1, (takeAll ks (without k r)).2) := by
  rw [takeAll, get?, without]
  rcases take? k r with _ | ⟨code, r'⟩ <;> rfl

theorem takeAll_append (ks ls : List TypeKey) (r : Replacements) :
    takeAll (ks ++ ls) r =
      ((takeAll ks r).1 ++ (takeAll ls (takeAll ks r).2).1, (takeAll ls (takeAll ks r).2).2) := by
  induction ks generalizing r with
  | nil => rfl
  | cons k ks ih =>
    rw [List.cons_append, takeAll_cons, takeAll_cons, ih]
    rfl

@[simp] theorem length_takeAll (ks : List TypeKey) (r : Replacements) :
    (takeAll ks r).1.length = ks.length := by
  induction ks generalizing r with
  | nil => rfl
  | cons k ks ih => rw [takeAll_cons, List.length_cons, List.length_cons, ih]

theorem without_spec (h : Distinct r) (k : TypeKey) :
    Distinct (without k r) ∧ ∀ j, get? j (without k r) = if j = k then none else get? j r := by
  rcases ht : take? k r with _ | ⟨code, r'⟩
  · rw [without, ht]
    refine ⟨h, fun j ↦ ?_⟩
    by_cases hj : j = k
    · rw [if_pos hj, hj]
      exact take?_eq_none_iff.mp ht
    · rw [if_neg hj]
      rfl
  · rw [without, ht]
    obtain ⟨hd, -, hget⟩ := take?_spec h ht
    exact ⟨hd, hget⟩

/-- What is left after the replacements for some keys are taken out. -/
theorem takeAll_spec (h : Distinct r) (ks : List TypeKey) :
    Distinct (takeAll ks r).2 ∧ ∀ j, get? j (takeAll ks r).2 = if j ∈ ks then none else get? j r := by
  induction ks generalizing r with
  | nil => exact ⟨h, fun j ↦ by simp [takeAll]⟩
  | cons k ks ih =>
    obtain ⟨hd, hget⟩ := without_spec h k
    obtain ⟨hd', hget'⟩ := ih hd
    rw [takeAll_cons]
    refine ⟨hd', fun j ↦ ?_⟩
    rw [hget', hget]
    by_cases hj : j = k <;> by_cases hjs : j ∈ ks <;> simp [hj, hjs]

variable {f : Candidate → Option Code} {cs : List Candidate}

/-- Nothing is put in between, so a key that stands for nothing stays so. -/
theorem eq_none_of_takeAll (h : Distinct r) (hk : get? k r = none)
    (ht : (takeAll (cs.map Candidate.key) r).1 = cs.map f) :
    ∀ c ∈ cs, c.key = k → f c = none := by
  induction cs generalizing r with
  | nil => simp
  | cons c cs ih =>
    rw [List.map_cons, takeAll_cons, List.map_cons, List.cons.injEq] at ht
    obtain ⟨hd, hget⟩ := without_spec h c.key
    intro d hd' hdk
    rcases List.mem_cons.mp hd' with rfl | hd'
    · rw [← ht.1, hdk, hk]
    · refine ih hd ?_ ht.2 d hd' hdk
      rw [hget, hk, ite_self]

/-- If each struct gets its own replacement, there is none for a struct that comes after another
one of its key. -/
theorem pairwise_of_takeAll (h : Distinct r)
    (ht : (takeAll (cs.map Candidate.key) r).1 = cs.map f) :
    cs.Pairwise fun a b ↦ a.key = b.key → f b = none := by
  induction cs generalizing r with
  | nil => exact .nil
  | cons c cs ih =>
    rw [List.map_cons, takeAll_cons, List.map_cons, List.cons.injEq] at ht
    obtain ⟨hd, hget⟩ := without_spec h c.key
    have hc : get? c.key (without c.key r) = none := by rw [hget, if_pos rfl]
    refine .cons (fun b hb hcb ↦ ?_) (ih hd ht.2)
    exact eq_none_of_takeAll hd hc ht.2 b hb hcb.symm

/-- What the first of some structs with this key is replaced by. -/
def ofFirst (f : Candidate → Option Code) (cs : List Candidate) (k : TypeKey) : Option Code :=
  (cs.find? (·.key = k)).bind f

theorem ofFirst_cons (c : Candidate) :
    ofFirst f (c :: cs) k = if c.key = k then f c else ofFirst f cs k := by
  rw [ofFirst, List.find?_cons]
  by_cases h : c.key = k <;> simp [h, ofFirst]

/-- Structs that follow one of their key are replaced by nothing, so the first of them is not. -/
theorem ofFirst_eq_none {c : Candidate} (h : ∀ b ∈ cs, c.key = b.key → f b = none) :
    ofFirst f cs c.key = none := by
  rw [ofFirst]
  cases hb : cs.find? (·.key = c.key) with
  | none => rfl
  | some b =>
    have hbk : b.key = c.key := by simpa using List.find?_some hb
    exact h b (List.mem_of_find?_eq_some hb) hbk.symm

/-- Each struct gets its own replacement if every key stands for that of its first struct. -/
theorem takeAll_eq_map (h : Distinct r) (hr : ∀ k, get? k r = ofFirst f cs k)
    (hp : cs.Pairwise fun a b ↦ a.key = b.key → f b = none) :
    (takeAll (cs.map Candidate.key) r).1 = cs.map f := by
  induction cs generalizing r with
  | nil => rfl
  | cons c cs ih =>
    rw [List.pairwise_cons] at hp
    obtain ⟨hd, hget⟩ := without_spec h c.key
    rw [List.map_cons, takeAll_cons, List.map_cons, hr, ofFirst_cons, if_pos rfl]
    refine congrArg (f c :: ·) (ih hd (fun k ↦ ?_) hp.2)
    rw [hget]
    by_cases hk : k = c.key
    · rw [if_pos hk, hk, ofFirst_eq_none hp.1]
    · rw [if_neg hk, hr, ofFirst_cons, if_neg (Ne.symm hk)]

/-! ## Putting in and taking out -/

/-- Puts in the replacements of some structs, one after the other. -/
def insertAll (f : Candidate → Option Code) (cs : List Candidate) (r : Replacements) :
    Replacements :=
  cs.foldl (fun r c ↦ match f c with | some code => insert c.key code r | none => r) r

theorem insertAll_cons (c : Candidate) :
    insertAll f (c :: cs) r =
      insertAll f cs (match f c with | some code => insert c.key code r | none => r) := rfl

theorem insertAll_filter {p : Candidate → Bool} (h : ∀ c, p c = false → f c = none) :
    insertAll f (cs.filter p) r = insertAll f cs r := by
  induction cs generalizing r with
  | nil => rfl
  | cons c cs ih =>
    rw [insertAll_cons, List.filter_cons]
    cases hc : p c with
    | true => rw [if_pos rfl, insertAll_cons, ih]
    | false => rw [if_neg Bool.false_ne_true, ih, h c hc]

theorem Distinct.insertAll (h : Distinct r) : Distinct (insertAll f cs r) := by
  induction cs generalizing r with
  | nil => exact h
  | cons c cs ih =>
    rw [insertAll_cons]
    cases f c with
    | none => exact ih h
    | some code => exact ih (h.insert _ _)

theorem get?_insertAll (hp : cs.Pairwise fun a b ↦ a.key = b.key → f b = none) :
    get? k (insertAll f cs r) = (ofFirst f cs k).or (get? k r) := by
  induction cs generalizing r with
  | nil => rfl
  | cons c cs ih =>
    rw [List.pairwise_cons] at hp
    rw [insertAll_cons, ih hp.2, ofFirst_cons]
    by_cases hk : c.key = k
    · rw [if_pos hk, ← hk, ofFirst_eq_none hp.1, Option.none_or]
      cases f c with
      | none => rfl
      | some code => rw [get?_insert, if_pos rfl, Option.some_or]
    · rw [if_neg hk]
      cases f c with
      | none => rfl
      | some code => rw [get?_insert, if_neg hk]

/-- What the last of some structs with this key that is replaced at all is replaced by. -/
def ofLast (f : Candidate → Option Code) (cs : List Candidate) (k : TypeKey) : Option Code :=
  cs.reverse.findSome? fun c ↦ if c.key = k then f c else none

theorem ofLast_cons (c : Candidate) :
    ofLast f (c :: cs) k = (ofLast f cs k).or (if c.key = k then f c else none) := by
  rw [ofLast, ofLast, List.reverse_cons, List.findSome?_append, List.findSome?_singleton]

theorem ofLast_eq_some_iff :
    ofLast f cs k = some code ↔
      ∃ front c back, cs = front ++ c :: back ∧ c.key = k ∧ f c = some code ∧
        ∀ b ∈ back, b.key = k → f b = none := by
  rw [ofLast, List.findSome?_eq_some_iff]
  constructor
  · rintro ⟨back, c, front, hcs, hc, hback⟩
    have hk : c.key = k := by
      by_contra hk
      rw [if_neg hk] at hc
      cases hc
    rw [if_pos hk] at hc
    refine ⟨front.reverse, c, back.reverse, ?_, hk, hc, fun b hb hbk ↦ ?_⟩
    · rw [← List.reverse_reverse cs, hcs]
      simp
    · have hn := hback b (List.mem_reverse.mp hb)
      rwa [if_pos hbk] at hn
  · rintro ⟨front, c, back, rfl, hk, hc, hback⟩
    refine ⟨back.reverse, c, front.reverse, by simp, by rw [if_pos hk, hc], fun b hb ↦ ?_⟩
    by_cases hbk : b.key = k
    · rw [if_pos hbk]
      exact hback b (List.mem_reverse.mp hb) hbk
    · exact if_neg hbk

/-- Whatever was there before, what is put in last is there. -/
theorem get?_insertAll_eq_ofLast :
    get? k (insertAll f cs r) = (ofLast f cs k).or (get? k r) := by
  induction cs generalizing r with
  | nil => rfl
  | cons c cs ih =>
    rw [insertAll_cons, ih, ofLast_cons, Option.or_assoc]
    refine congrArg (Option.or (ofLast f cs k)) ?_
    cases f c with
    | none => rw [ite_self, Option.none_or]
    | some code =>
      rw [get?_insert]
      by_cases hk : c.key = k
      · rw [if_pos hk, if_pos hk, Option.some_or]
      · rw [if_neg hk, if_neg hk, Option.none_or]

/-- **Each struct gets out what was put in for it** exactly if nothing was put in for a struct that
comes after another one of its key. -/
theorem takeAll_insertAll_iff :
    (takeAll (cs.map Candidate.key) (insertAll f cs [])).1 = cs.map f ↔
      cs.Pairwise fun a b ↦ a.key = b.key → f b = none := by
  have hd : Distinct (insertAll f cs []) := Distinct.insertAll List.nodup_nil
  refine ⟨pairwise_of_takeAll hd, fun hp ↦ takeAll_eq_map hd (fun k ↦ ?_) hp⟩
  rw [get?_insertAll hp, get?_nil, Option.or_none]

end Replacements

end TypedIds
