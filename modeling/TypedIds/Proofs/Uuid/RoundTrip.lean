import TypedIds.Uuid.Reader

/-!
# Writing and reading UUIDs

The text of a UUID is read as that UUID, whatever the case of the letters.  The text has 36 bytes,
so the hyphenated form is chosen; each of its groups ends where a hyphen was put; and the digits
between the hyphens are those of the number.
-/

set_option autoImplicit false

namespace TypedIds

namespace Text

/-- All digits of a number are digits. -/
theorem isHex_of_mem_fixedHex {letters : LetterCase} {count n : Nat} {c : Char}
    (hc : c ∈ fixedHex letters count n) : isHex c = true := by
  induction count generalizing n with
  | zero => simp [fixedHex] at hc
  | succ count ih =>
    rw [fixedHex, List.mem_append, List.mem_singleton] at hc
    obtain hc | rfl := hc
    · exact ih hc
    · exact isHex_hexDigit (Nat.mod_lt n (by decide))

/-- A digit is one byte long. -/
theorem utf8Size_of_isHex {c : Char} (hc : isHex c = true) : c.utf8Size = 1 := by
  rw [Char.utf8Size_eq_one_iff]
  simp only [isHex, Char.isDigit, Bool.or_eq_true, Bool.and_eq_true, decide_eq_true_eq,
    Char.le_def] at hc
  obtain (⟨-, h⟩ | ⟨-, h⟩) | ⟨-, h⟩ := hc
  · exact UInt32.le_trans h (by decide)
  · exact UInt32.le_trans h (by decide)
  · exact UInt32.le_trans h (by decide)

end Text

namespace Uuid

open Text

/-! ## Groups -/

/-- A list cut into groups has the characters of the list and hyphens. -/
theorem mem_hyphenate {lengths : List Nat} {s : List Char} {c : Char}
    (hc : c ∈ hyphenate lengths s) : c ∈ s ∨ c = '-' := by
  fun_induction hyphenate lengths s with
  | case1 s => exact .inl hc
  | case2 _ s => exact .inl hc
  | case3 n ns s _ ih =>
    obtain hc | hc := List.mem_append.1 hc
    · exact .inl (List.mem_of_mem_take hc)
    · obtain rfl | hc := List.mem_cons.1 hc
      · exact .inr rfl
      · obtain hc | rfl := ih hc
        · exact .inl (List.mem_of_mem_drop hc)
        · exact .inr rfl

/-- Each group but the last is followed by one hyphen. -/
theorem length_hyphenate {lengths : List Nat} {s : List Char} :
    (hyphenate lengths s).length = s.length + (lengths.length - 1) := by
  fun_induction hyphenate lengths s with
  | case1 s => rfl
  | case2 _ s => rfl
  | case3 n ns s hns ih =>
    have hpos : ns ≠ [] := fun h ↦ hns (by rw [h])
    have hlength : 0 < ns.length := List.length_pos_iff.2 hpos
    simp only [List.length_append, List.length_cons, List.length_take, List.length_drop] at ih ⊢
    omega

/-- The digits of a list that is cut into groups are the list. -/
theorem groupedDigits?_hyphenate {lengths : List Nat} {s : List Char} (hne : lengths ≠ [])
    (hlength : s.length = lengths.foldr (· + ·) 0) (hs : ∀ c ∈ s, isHex c = true) :
    groupedDigits? lengths (hyphenate lengths s) = some s := by
  fun_induction hyphenate lengths s with
  | case1 s => exact absurd rfl hne
  | case2 n s =>
    have hall : s.all isHex = true := List.all_eq_true.2 hs
    simp [groupedDigits?, hall, hlength]
  | case3 n ns s hns ih =>
    have htake : (s.take n).length = n := by
      rw [List.length_take, hlength, List.foldr_cons]
      omega
    have hall : (s.take n).all isHex = true :=
      List.all_eq_true.2 fun c hc ↦ hs c (List.mem_of_mem_take hc)
    have hrest := ih (fun h ↦ hns (by rw [h])) (by simp [hlength])
      fun c hc ↦ hs c (List.mem_of_mem_drop hc)
    have hafter : (s.take n ++ '-' :: hyphenate ns (s.drop n)).drop n =
        '-' :: hyphenate ns (s.drop n) := List.drop_left' htake
    have hbefore : (s.take n ++ '-' :: hyphenate ns (s.drop n)).take n = s.take n :=
      List.take_left' htake
    rw [groupedDigits?, hafter, hbefore]
    · simp [hall, hrest]
    · exact hns

/-! ## The text of a UUID -/

theorem byteLength_eq_length {s : List Char} (hs : ∀ c ∈ s, c.utf8Size = 1) :
    byteLength s = s.length := by
  induction s with
  | nil => rfl
  | cons c rest ih =>
    rw [byteLength, hs c List.mem_cons_self, ih fun d hd ↦ hs d (List.mem_cons_of_mem c hd),
      List.length_cons, Nat.add_comm]

/-- The text of a UUID is 36 bytes long. -/
theorem byteLength_write (letters : LetterCase) (u : Uuid) : byteLength (u.write letters) = 36 := by
  rw [byteLength_eq_length, write, length_hyphenate, length_fixedHex]
  · rfl
  · intro c hc
    obtain hc | rfl := mem_hyphenate hc
    · exact utf8Size_of_isHex (isHex_of_mem_fixedHex hc)
    · rfl

/-- **The text of a UUID is read as that UUID.** -/
theorem read_write (letters : LetterCase) (u : Uuid) : read (u.write letters) = .ok u := by
  have hdigits : groupedDigits? groupLengths (u.write letters) =
      some (fixedHex letters 32 u.toNat) := by
    refine groupedDigits?_hyphenate (by decide) ?_ fun c hc ↦ isHex_of_mem_fixedHex hc
    rw [length_fixedHex]
    rfl
  rw [read, hyphenated?, byteLength_write]
  simp only [hdigits, ofDigits_fixedHex]

end Uuid

end TypedIds
