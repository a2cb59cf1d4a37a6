import TypedIds.Catalogue
import TypedIds.Proofs.Identifier.Sorting
import TypedIds.Proofs.Session.Settled

/-!
# Unspecified identifiers come first

The empty value comes before every other value of its type: the nil UUID is the least number, and
the empty text is the beginning of every other.  The unspecified identifier of a scalar type wraps
the empty value, unless the hook of the type puts something else in its place.  So if the hook
rejects the empty value or leaves it as it is, the unspecified identifier comes before every other
one of its type, and in a sorted list all unspecified identifiers come first.

* `Shape.order_empty` — nothing comes before the empty value.
* `Family.blank_of_untouched` — when the unspecified identifier wraps the empty value.
* **`Session.Reachable.unspecified_least`**: what comes of it in a reachable session.
-/

set_option autoImplicit false

namespace TypedIds

variable {Key : Type}

/-! ## The empty value -/

theorem Uuid.order_nil {u : Uuid} (hu : u ≠ Uuid.nil) : Uuid.nil.order u = .lt := by
  have hbits : u.bits ≠ 0 := fun h ↦ hu (by rw [Uuid.nil, ← h])
  have hcompare : Uuid.nil.order u = compareOfLessAndEq 0 u.bits := rfl
  rw [hcompare, compareOfLessAndEq_eq_lt]
  exact (BitVec.pos_iff_ne_zero u.bits).2 hbits

/-- The empty text is the beginning of every text. -/
theorem compare_empty_text {s : String} (hs : s ≠ "") : compare "" s = .lt := by
  have hcompare : compare "" s = compareOfLessAndEq "" s := rfl
  rw [hcompare, compareOfLessAndEq_eq_lt]
  show "".toList < s.toList
  cases hchars : s.toList with
  | nil => exact absurd (String.toList_eq_nil_iff.1 hchars) hs
  | cons c cs => exact List.nil_lt_cons c cs

/-- **The empty value comes before every other value.** -/
theorem Shape.order_empty {values : Key → ValueType Key} {t : ValueType Key}
    {shape : Shape values t} {s : ScalarValue t.Val} (hs : shape.scalar? = some s) {v : t.Val}
    (hv : v ≠ s.empty) : t.order s.empty v = .lt := by
  cases shape with
  | guid =>
    obtain rfl := Option.some.inj hs
    exact Uuid.order_nil hv
  | text =>
    obtain rfl := Option.some.inj hs
    exact compare_empty_text hv
  | combined ps => exact nomatch hs

namespace Family

variable {F : Family Key} {k : Key} {s : ScalarValue (F.Raw k)}

/-- The hook of the type, if it has one, rejects the empty value or leaves it as it is. -/
def LeavesEmpty (F : Family Key) (k : Key) (s : ScalarValue (F.Raw k)) : Prop :=
  ∀ h, F.hook k = some h → (∃ c, h.apply s.empty = .error c) ∨ h.apply s.empty = .ok s.empty

/-- The unspecified identifier wraps the empty value, if the hook puts nothing in its place. -/
theorem blank_of_leavesEmpty (hs : (F.shape k).scalar? = some s) (hk : F.LeavesEmpty k s) :
    F.blank k = ⟨s.empty⟩ := by
  obtain hverdict | ⟨hblank, -⟩ := F.blank_cases k
  · rw [blankRaw_eq_empty hs] at hverdict
    cases hhook : F.hook k with
    | none =>
      rw [verdict_of_no_hook hhook] at hverdict
      exact (Except.ok.inj hverdict).symm
    | some h =>
      rw [verdict_eq_ok_iff hhook] at hverdict
      obtain ⟨c, hc⟩ | hok := hk h hhook
      · rw [hc] at hverdict
        exact nomatch hverdict
      · rw [hok] at hverdict
        exact congrArg Identifier.mk (Except.ok.inj hverdict).symm
  · rw [hblank, blankRaw_eq_empty hs]

/-- The unspecified identifier comes before every other one of its type. -/
theorem order_blank (hs : (F.shape k).scalar? = some s) (hk : F.LeavesEmpty k s) {id : F.Id k}
    (hid : id ≠ F.blank k) : (F.values k).order (F.blank k).value id.value = .lt := by
  rw [blank_of_leavesEmpty hs hk] at hid ⊢
  exact Shape.order_empty hs fun h ↦ hid (congrArg Identifier.mk h)

/-- No other identifier of its type is before the unspecified one in a sorted list. -/
theorem order_of_blank (hs : (F.shape k).scalar? = some s) (hk : F.LeavesEmpty k s) {id : F.Id k}
    (hid : id ≠ F.blank k) : (F.values k).order id.value (F.blank k).value = .gt := by
  have := (F.values k).transCmp_order
  have hswap : (F.values k).order id.value (F.blank k).value =
      ((F.values k).order (F.blank k).value id.value).swap := Std.OrientedCmp.eq_swap
  rw [hswap, order_blank hs hk hid]
  rfl

/-- Whatever has its unspecified identifiers comes first when it is sorted by identifiers. -/
theorem blank_first (hs : (F.shape k).scalar? = some s) (hk : F.LeavesEmpty k s) {α : Type}
    (f : α → F.Id k) {as : List α}
    (has : as.Pairwise fun a b ↦ (F.values k).order (f a).value (f b).value ≠ .gt) :
    as = (as.filter fun a ↦ f a == F.blank k) ++ as.filter fun a ↦ !f a == F.blank k := by
  refine eq_filter_append_filter (fun a b ha hb hab ↦ hab ?_) has
  rw [eq_of_beq hb]
  exact order_of_blank hs hk (ne_of_beq_false ha)

end Family

/-! ## In a session -/

section

variable {F : Family Key} {k : Key} {slots : List (AnyIdentifier F)}

theorem AnyIdentifier.inSlot_eq_ok {n : Nat} {a : AnyIdentifier F} (h : slots[n]? = some a) :
    AnyIdentifier.inSlot slots n = .ok a := by
  rw [inSlot, h]

/-- Slots that hold identifiers of one type, looked up one after the other. -/
theorem AnyIdentifier.mapM_inSlot {ns : List Nat}
    (hns : ∀ n ∈ ns, ∃ id : F.Id k, slots[n]? = some ⟨k, id⟩) :
    ∃ xs : List (Nat × F.Id k), xs.map Prod.fst = ns ∧
      (∀ x ∈ xs, slots[x.1]? = some ⟨k, x.2⟩) ∧
      (ns.mapM fun n ↦ return (n, ← AnyIdentifier.inSlot slots n) : Except Refusal _) =
        .ok (xs.map (ofType k)) := by
  induction ns with
  | nil => exact ⟨[], rfl, by simp, rfl⟩
  | cons n ns ih =>
    obtain ⟨id, hid⟩ := hns n List.mem_cons_self
    obtain ⟨xs, rfl, hxs, hmap⟩ := ih fun m hm ↦ hns m (List.mem_cons_of_mem n hm)
    refine ⟨(n, id) :: xs, rfl, List.forall_mem_cons.2 ⟨hid, hxs⟩, ?_⟩
    rw [List.mapM_cons, hmap, inSlot_eq_ok hid]
    rfl

variable [DecidableEq Key]

/-- The step that compares two slots. -/
theorem Step.answer_compare {m n : Nat} {a b : AnyIdentifier F} (hm : slots[m]? = some a)
    (hn : slots[n]? = some b) :
    (Step.compare m n).answer slots = pure (.ok (.compared a b (a.compare b))) := by
  rw [answer, AnyIdentifier.inSlot_eq_ok hm, AnyIdentifier.inSlot_eq_ok hn]
  rfl

/-- The step that sorts slots with identifiers of one type gives the slots in the order of the
values. -/
theorem Step.answer_sort {ns : List Nat}
    (hns : ∀ n ∈ ns, ∃ id : F.Id k, slots[n]? = some ⟨k, id⟩) :
    ∃ xs : List (Nat × F.Id k), xs.map Prod.fst = ns ∧
      (∀ x ∈ xs, slots[x.1]? = some ⟨k, x.2⟩) ∧
      (Step.sort ns).answer slots =
        pure (.ok (.sorted ((xs.mergeSort AnyIdentifier.notAfter).map Prod.fst))) := by
  obtain ⟨xs, hfst, hxs, hmap⟩ := AnyIdentifier.mapM_inSlot hns
  refine ⟨xs, hfst, hxs, ?_⟩
  rw [answer, hmap]
  simp only [Bind.bind, Except.bind, AnyIdentifier.sorted?_ofType]
  rw [List.map_map]
  rfl

end

namespace Session

variable [DecidableEq Key] {F : Family Key} {k : Key}

/-- **Unspecified identifiers come first.**  Let `u` be the unspecified identifier of a scalar type
without a hook, or whose hook rejects the empty value or leaves it as it is.  In a reachable session

* `u` comes before every other identifier of the type, in the order of the values and in that of
  identifiers of any types, and the step that compares the two says so;
* a sorted list of identifiers of the type is `u`, as often as the list has it, and then the others;
* the step that sorts slots with identifiers of the type puts all that hold `u` before all others. -/
theorem Reachable.unspecified_least {s : Session F} (hs : s.Reachable)
    {sv : ScalarValue (F.Raw k)} (hsv : (F.shape k).scalar? = some sv)
    (hk : F.LeavesEmpty k sv) :
    let u := ((F.unspecified k).run s.state).1
    (∀ id ≠ u, (F.values k).order u.value id.value = .lt ∧
      (⟨k, u⟩ : AnyIdentifier F).order? ⟨k, id⟩ = some .lt) ∧
    (∀ m n id, id ≠ u → s.slots[m]? = some ⟨k, u⟩ → s.slots[n]? = some ⟨k, id⟩ →
      ∃ c, (s.perform (.compare m n)).1 = .ok (.compared ⟨k, u⟩ ⟨k, id⟩ c) ∧
        c.order = some .lt ∧ c.isLT = true) ∧
    (∀ ids : List (F.Id k),
      ids.Pairwise (fun a b ↦ (F.values k).order a.value b.value ≠ .gt) →
        ids = List.replicate (ids.count u) u ++ ids.filter (· != u)) ∧
    ∀ ns, (∀ n ∈ ns, ∃ id : F.Id k, s.slots[n]? = some ⟨k, id⟩) →
      ∃ first rest, (s.perform (.sort ns)).1 = .ok (.sorted (first ++ rest)) ∧
        (first ++ rest).Perm ns ∧
        (∀ n ∈ first, s.slots[n]? = some ⟨k, u⟩) ∧ ∀ n ∈ rest, s.slots[n]? ≠ some ⟨k, u⟩ := by
  intro u
  have hu : u = F.blank k := (Family.unspecified_settles k _ hs.sound).1
  clear_value u
  subst hu
  have hlt : ∀ id ≠ F.blank k,
      (⟨k, F.blank k⟩ : AnyIdentifier F).order? ⟨k, id⟩ = some .lt := fun id hid ↦ by
    rw [AnyIdentifier.order?_of_key_eq, Family.order_blank hsv hk hid]
  refine ⟨fun id hid ↦ ⟨Family.order_blank hsv hk hid, hlt id hid⟩, ?compare, ?sorted, ?sort⟩
  case compare =>
    intro m n id hid hm hn
    refine ⟨AnyIdentifier.compare ⟨k, F.blank k⟩ ⟨k, id⟩, ?_, hlt id hid, ?_⟩
    · rw [Session.perform, Step.answer_compare hm hn]
      rfl
    · rw [Comparison.isLT, AnyIdentifier.compare, hlt id hid]
      rfl
  case sorted =>
    intro ids hids
    have hparts := Family.blank_first hsv hk (fun id ↦ id) hids
    rw [List.filter_beq] at hparts
    exact hparts
  case sort =>
    intro ns hns
    obtain ⟨xs, rfl, hxs, hanswer⟩ := Step.answer_sort hns
    have hparts := Family.blank_first hsv hk Prod.snd (AnyIdentifier.pairwise_mergeSort_notAfter xs)
    have hperm := xs.mergeSort_perm AnyIdentifier.notAfter
    have hslot : ∀ x ∈ xs.mergeSort AnyIdentifier.notAfter, s.slots[x.1]? = some ⟨k, x.2⟩ :=
      fun x hx ↦ hxs x (hperm.mem_iff.1 hx)
    generalize xs.mergeSort AnyIdentifier.notAfter = sorted at hanswer hparts hperm hslot
    refine ⟨(sorted.filter (·.2 == F.blank k)).map Prod.fst,
      (sorted.filter (!·.2 == F.blank k)).map Prod.fst, ?_, ?_, ?_, ?_⟩
    · rw [Session.perform, hanswer, ← List.map_append, ← hparts]
      rfl
    · rw [← List.map_append, ← hparts]
      exact hperm.map Prod.fst
    · simp only [List.mem_map, List.mem_filter]
      rintro n ⟨x, ⟨hx, hblank⟩, rfl⟩
      rw [hslot x hx, eq_of_beq hblank]
    · simp only [List.mem_map, List.mem_filter]
      rintro n ⟨x, ⟨hx, hblank⟩, rfl⟩
      rw [hslot x hx]
      simpa using hblank

/-- A live identifier, and the unspecified one, whose value the hook rejects. -/
def liveFirst : Session Catalogue.family :=
  [Step.make .liveId .new (some (.text "000000000000000000000000000000ab")),
    .make .liveId .unspecified none].foldl (fun s step ↦ (s.perform step).2.2) (.start _ [])

theorem unspecified_least_liveFirst :
    let u := ((Catalogue.family.unspecified .liveId).run liveFirst.state).1
    let live : Catalogue.family.Id .liveId := ⟨⟨0xab⟩⟩
    live ≠ u ∧ (Catalogue.family.values .liveId).order u.value live.value = .lt ∧
      (∃ c, (liveFirst.perform (.compare 1 0)).1 = .ok (.compared ⟨.liveId, u⟩ ⟨.liveId, live⟩ c) ∧
        c.order = some .lt ∧ c.isLT = true) ∧
      ∃ first rest, (liveFirst.perform (.sort [0, 1])).1 = .ok (.sorted (first ++ rest)) ∧
        (first ++ rest).Perm [0, 1] := by
  intro u live
  have hreachable : liveFirst.Reachable := .perform (.perform (.start []) _) _
  have hscalar : (Catalogue.family.shape .liveId).scalar? = some ScalarValue.uuid := rfl
  have hhook : Catalogue.family.LeavesEmpty .liveId ScalarValue.uuid := fun h hh ↦ by
    obtain rfl := Option.some.inj hh
    exact .inl ⟨.hook "nil", rfl⟩
  have hne : live ≠ u := by decide +kernel
  obtain ⟨hlt, hcompare, -, hsort⟩ := hreachable.unspecified_least hscalar hhook
  obtain ⟨first, rest, hanswer, hperm, -⟩ := hsort [0, 1] fun n hn ↦ by
    obtain rfl | rfl : n = 0 ∨ n = 1 := by simpa using hn
    · exact ⟨live, rfl⟩
    · exact ⟨u, rfl⟩
  exact ⟨hne, (hlt live hne).1, hcompare 1 0 live hne rfl rfl, first, rest, hanswer, hperm⟩

end Session

end TypedIds
