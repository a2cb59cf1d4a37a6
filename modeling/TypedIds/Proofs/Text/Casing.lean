import TypedIds.Text.Casing

/-!
# Case tables

A case mapping is a table of special cases and runs, and what it does to a code point can be seen
from the entries: the image of a code point is an image that a special case lists, or one of the
images of a run, or else the code point itself (`mem_caseImages`).  So it is enough to look at
the entries to see that no image is in some set (`not_holds_of_mem_caseImages`).

For upper case two things are seen so.  White space is no image, and no image is mapped any further.
Hence a text in capital letters has white space only where the text had it
(`isBlank_of_mem_uppercase`), and it is its own upper case (`uppercase_uppercase`).
-/

set_option autoImplicit false

namespace TypedIds.Text

/-! ## Sets of code points -/

/-- Whether no interval of one set meets one of the other. -/
def Ranges.apart (t u : Ranges) : Bool :=
  t.all fun r ↦ u.all fun s ↦ Nat.blt r.2 s.1 || Nat.blt s.2 r.1

theorem Ranges.not_holds_of_apart {t u : Ranges} (h : t.apart u = true) {n : Nat}
    (hn : t.holds n = true) : u.holds n = false := by
  obtain ⟨r, hr, hfirst, hlast⟩ := Ranges.holds_iff.mp hn
  rw [← Bool.not_eq_true, Ranges.holds_iff]
  rintro ⟨s, hs, hfirst', hlast'⟩
  have hrs := List.all_eq_true.mp (List.all_eq_true.mp h r hr) s hs
  simp only [Bool.or_eq_true, Nat.blt_eq] at hrs
  omega

/-- What holds of the first 128 characters holds of every ASCII character. -/
@[elab_as_elim]
theorem forall_ascii {P : Char → Prop} {c : Char} (hc : c.toNat < 128)
    (h : ∀ n < 128, P (Char.ofNat n)) : P c := by
  rw [← Char.ofNat_toNat c]
  exact h c.toNat hc

theorem ascii_of_le {c d : Char} (h : c ≤ d) (hd : d.toNat < 128) : c.toNat < 128 :=
  Nat.lt_of_le_of_lt (UInt32.le_iff_toNat_le.mp h) hd

/-- A code point whose character is not the null character is that character's code point. -/
theorem toNat_of_ofNat_eq {n : Nat} {c : Char} (h : Char.ofNat n = c) (hc : c.toNat ≠ 0) :
    n = c.toNat := by
  subst h
  by_cases hn : n.isValidChar
  · rw [Char.ofNat, dif_pos hn]
    rfl
  · rw [Char.ofNat, dif_neg hn] at hc
    exact absurd rfl hc

/-! ## Images -/

theorem CaseRun.map?_eq_some_iff {r : CaseRun} {n i : Nat} :
    r.map? n = some i ↔
      (r.first ≤ n ∧ n ≤ r.last ∧ (n - r.first) % r.step = 0) ∧ r.image + (n - r.first) = i := by
  simp [map?, and_assoc]

/-- The images of a run, as an interval. -/
def CaseRun.images (r : CaseRun) : Nat × Nat := (r.image, r.image + (r.last - r.first))

theorem CaseRun.images_of_map? {r : CaseRun} {n i : Nat} (h : r.map? n = some i) :
    r.images.1 ≤ i ∧ i ≤ r.images.2 := by
  obtain ⟨⟨hfirst, hlast, -⟩, rfl⟩ := map?_eq_some_iff.1 h
  simp only [images]
  omega

section

variable {special : List (Nat × List Nat)} {runs : List CaseRun} {n i : Nat}

/-- Where an image of a code point comes from. -/
theorem mem_caseImages (hi : i ∈ caseImages special runs n) :
    (∃ e ∈ special, i ∈ e.2) ∨ (∃ r ∈ runs, r.map? n = some i) ∨
      i = n ∧ caseImages special runs n = [n] := by
  rw [caseImages] at hi ⊢
  split at hi
  · next e he => exact .inl ⟨e, List.mem_of_find?_eq_some he, hi⟩
  · cases hfound : runs.findSome? (·.map? n) with
    | none =>
      rw [hfound] at hi
      exact .inr (.inr ⟨List.mem_singleton.1 hi, rfl⟩)
    | some j =>
      rw [hfound] at hi
      obtain rfl := List.mem_singleton.1 hi
      exact .inr (.inl (List.exists_of_findSome?_eq_some hfound))

/-- A set that holds no image of an entry holds no image of a code point outside of it. -/
theorem not_holds_of_mem_caseImages {t : Ranges}
    (hspecial : ∀ e ∈ special, ∀ i ∈ e.2, t.holds i = false)
    (hruns : ∀ r ∈ runs, Ranges.apart [r.images] t = true) (hn : t.holds n = false)
    (hi : i ∈ caseImages special runs n) : t.holds i = false := by
  obtain ⟨e, he, hi⟩ | ⟨r, hr, hi⟩ | ⟨rfl, -⟩ := mem_caseImages hi
  · exact hspecial e he i hi
  · exact Ranges.not_holds_of_apart (hruns r hr)
      (Ranges.holds_iff.mpr ⟨_, List.mem_singleton_self _, CaseRun.images_of_map? hi⟩)
  · exact hn

/-! ## Images that are mapped no further -/

/-- The code points that a table maps: its runs, and each special case as a run by itself. -/
def mapped (special : List (Nat × List Nat)) (runs : List CaseRun) : List CaseRun :=
  special.map (fun e ↦ ⟨e.1, e.1, 1, e.1⟩) ++ runs

theorem caseImages_eq_self (h : ∀ q ∈ mapped special runs, q.map? n = none) :
    caseImages special runs n = [n] := by
  have hspecial : special.find? (fun e ↦ Nat.beq e.1 n) = none :=
    List.find?_eq_none.2 fun e he hen ↦ by
      have hmap := h ⟨e.1, e.1, 1, e.1⟩ (List.mem_append_left _ (List.mem_map_of_mem he))
      obtain rfl := Nat.eq_of_beq_eq_true hen
      simp [CaseRun.map?] at hmap
  have hruns : runs.findSome? (·.map? n) = none :=
    List.findSome?_eq_none_iff.2 fun q hq ↦ h q (List.mem_append_right _ hq)
  rw [caseImages, hspecial, hruns]
  rfl

end

namespace CaseRun

/-- Whether the code points of a run are all of one parity. -/
def isEven (r : CaseRun) : Bool := Nat.beq r.step 2 || Nat.beq r.first r.last

/-- Whether the second run maps no image of the first: the two are apart, or every second code point
is an image, and the others are mapped. -/
def clears (r q : CaseRun) : Bool :=
  Nat.blt r.images.2 q.first || Nat.blt q.last r.images.1 ||
    (r.isEven && q.isEven && Nat.beq ((r.image + q.first) % 2) 1)

theorem even_of_isEven {r : CaseRun} (h : r.isEven = true) {n : Nat}
    (hn : r.first ≤ n ∧ n ≤ r.last ∧ (n - r.first) % r.step = 0) : (n - r.first) % 2 = 0 := by
  rw [isEven, Bool.or_eq_true] at h
  obtain h | h := h
  · rw [← Nat.eq_of_beq_eq_true h]
    exact hn.2.2
  · have := Nat.eq_of_beq_eq_true h
    omega

theorem map?_eq_none_of_clears {r q : CaseRun} (h : r.clears q = true) {n i : Nat}
    (hi : r.map? n = some i) : q.map? i = none := by
  rw [Option.eq_none_iff_forall_ne_some]
  intro j hj
  obtain ⟨hlow, hhigh⟩ := images_of_map? hi
  obtain ⟨hr, rfl⟩ := map?_eq_some_iff.1 hi
  obtain ⟨hq, -⟩ := map?_eq_some_iff.1 hj
  simp only [clears, Bool.or_eq_true, Bool.and_eq_true, Nat.blt_eq] at h
  obtain (h | h) | ⟨⟨hreven, hqeven⟩, hodd⟩ := h
  · omega
  · omega
  · have hr' := even_of_isEven hreven hr
    have hq' := even_of_isEven hqeven hq
    have hodd' := Nat.eq_of_beq_eq_true hodd
    omega

end CaseRun

/-! ## Upper case -/

/-- The upper case of an upper case letter is that letter. -/
theorem caseImages_of_mem_upper {n i : Nat}
    (hi : i ∈ caseImages Table.upperSpecial Table.upperRuns n) :
    caseImages Table.upperSpecial Table.upperRuns i = [i] := by
  have hspecial : (Table.upperSpecial.all fun e ↦ e.2.all fun i ↦
      caseImages Table.upperSpecial Table.upperRuns i == [i]) = true := by
    decide +kernel
  have hruns : (Table.upperRuns.all fun r ↦
      (mapped Table.upperSpecial Table.upperRuns).all r.clears) = true := by
    decide +kernel
  obtain ⟨e, he, hi⟩ | ⟨r, hr, hi⟩ | ⟨rfl, hself⟩ := mem_caseImages hi
  · exact eq_of_beq (List.all_eq_true.1 (List.all_eq_true.1 hspecial e he) i hi)
  · exact caseImages_eq_self fun q hq ↦ CaseRun.map?_eq_none_of_clears
      (List.all_eq_true.1 (List.all_eq_true.1 hruns r hr) q hq) hi
  · exact hself

/-- A character that the table leaves as it is is its own upper case. -/
theorem upper_eq_self {c : Char}
    (hc : caseImages Table.upperSpecial Table.upperRuns c.toNat = [c.toNat]) : upper c = [c] := by
  rw [upper]
  split
  · next hsmall =>
    have hascii : c.toUpper ≠ c →
        caseImages Table.upperSpecial Table.upperRuns c.toNat ≠ [c.toNat] :=
      forall_ascii hsmall (by decide +kernel)
    rw [Decidable.not_imp_not.1 hascii hc]
  · rw [hc, List.map_singleton, Char.ofNat_toNat]

/-- **No character of an upper case has another upper case than itself.** -/
theorem upper_of_mem_upper {c d : Char} (hd : d ∈ upper c) : upper d = [d] := by
  rw [upper] at hd
  split at hd
  · next hsmall =>
    rw [List.mem_singleton.1 hd]
    exact forall_ascii hsmall (by decide +kernel)
  · obtain ⟨i, hi, hchar⟩ := List.mem_map.1 hd
    by_cases hnull : d.toNat = 0
    · have hd : d = Char.ofNat 0 := by rw [← hnull, Char.ofNat_toNat]
      rw [hd]
      rfl
    · refine upper_eq_self ?_
      rw [← toNat_of_ofNat_eq hchar hnull]
      exact caseImages_of_mem_upper hi

/-- A text in capital letters is its own upper case. -/
theorem uppercase_uppercase (s : List Char) : uppercase (uppercase s) = uppercase s := by
  have hself : ∀ t : List Char, (∀ d ∈ t, upper d = [d]) → uppercase t = t := by
    intro t ht
    induction t with
    | nil => rfl
    | cons d t ih =>
      obtain ⟨hd, ht⟩ := List.forall_mem_cons.1 ht
      rw [uppercase, List.flatMap_cons, hd, ← uppercase, ih ht]
      rfl
  refine hself _ fun d hd ↦ ?_
  obtain ⟨c, -, hd⟩ := List.mem_flatMap.1 hd
  exact upper_of_mem_upper hd

/-- White space is the upper case of white space only. -/
theorem isBlank_of_mem_upper {c d : Char} (hd : d ∈ upper c) (hblank : isBlank d = true) :
    isBlank c = true := by
  rw [upper] at hd
  split at hd
  · next hsmall =>
    rw [List.mem_singleton.1 hd] at hblank
    revert hblank
    exact forall_ascii hsmall (by decide +kernel)
  · obtain ⟨i, hi, hchar⟩ := List.mem_map.1 hd
    have hspecial : ∀ e ∈ Table.upperSpecial, ∀ i ∈ e.2, Table.blank.holds i = false := by
      decide +kernel
    have hruns : ∀ r ∈ Table.upperRuns, Ranges.apart [r.images] Table.blank = true := by
      decide +kernel
    have hnull : d.toNat ≠ 0 := fun h0 ↦ by
      rw [isBlank, h0] at hblank
      exact absurd hblank (by decide)
    rw [isBlank, ← toNat_of_ofNat_eq hchar hnull] at hblank
    rw [isBlank, ← Bool.not_eq_false]
    intro hc
    rw [not_holds_of_mem_caseImages hspecial hruns hc hi] at hblank
    exact nomatch hblank

/-- White space in a text in capital letters was there before. -/
theorem isBlank_of_mem_uppercase {s : List Char} (hs : ∀ c ∈ s, isBlank c = false) :
    ∀ d ∈ uppercase s, isBlank d = false := by
  intro d hd
  obtain ⟨c, hc, hd⟩ := List.mem_flatMap.1 hd
  rw [← Bool.not_eq_true]
  intro hblank
  have hblankc := isBlank_of_mem_upper hd hblank
  rw [hs c hc] at hblankc
  exact nomatch hblankc

end TypedIds.Text
