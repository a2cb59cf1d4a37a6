import Mathlib
import TypedIds.Proofs.Grammar.Form
import TypedIds.Proofs.Marker.Entry
import TypedIds.Proofs.Marker.Property
import TypedIds.Proofs.Marker.Typed

/-!
# The arguments of a marker

The reader of a marker's arguments accepts its grammar and nothing else.  The grammar is stated for
entries (`MarkerEntry.Spelled`) and for lists of them (`SpelledAll`); the rest is an induction on
the rounds of the reader, each of which takes an entry as if it stood alone.

* `Grammar.entriesFor_succ_iff` — what one round does.
* `Grammar.entriesFor_eq_ok_iff` — what all rounds do: by induction, with the entries that have been
  read before as the accumulator.
* `Grammar.spelledAll_unique` — the grammar is not ambiguous, although a type may have commas.
* `MarkerArgs.isRead_of_read` — the types of components are types that are read.
* `MarkerArgs.parse_iff_spelled` — the whole of the arguments.  One thing is asked that is not in
  the grammar: the type of a UUID has to be read, and if it cannot be, nothing reports it.
-/

set_option autoImplicit false

namespace TypedIds

open Reader

namespace Grammar

variable {done : List MarkerEntry} {e e' : Entries} {ts : List Tree} {n : Nat}

/-! ## Lists of entries -/

theorem shrinks_entriesFor (e : Entries) (n : Nat) : Shrinks (entriesFor e n) := by
  induction n generalizing e with
  | zero => exact fun _ _ _ h ↦ absurd h (Fails.bind (fun _ ↦ .fail _ _) _ _)
  | succ n ih =>
    have hentry : Follows .entry false 0 (entry e) (entry e) := follows_entry e
    have hcomma : Follows .entry false 0 (operator ",") (operator ",") :=
      follows_operator (by decide)
    refine .bind (.sees _) fun ended ↦ ?_
    split
    · exact .pure _
    · refine hentry.shrinks.bind fun e ↦ .bind (.sees _) fun ended ↦ ?_
      split
      · exact .pure _
      · exact hcomma.shrinks.bind fun _ ↦ ih e

/-- What comes after an entry is the end, or a comma and further entries. -/
theorem afterEntry_iff {c : Cursor} :
    (do
      if ← atEnd then return e
      operator ","
      entriesFor e n) c = .ok (e', ⟨[], .nowhere, none⟩) ↔
      c = ⟨[], .nowhere, none⟩ ∧ e' = e ∨
        ∃ joined comma more, c = ⟨.mark ',' joined comma :: more, .nowhere, none⟩ ∧
          entriesFor e n ⟨more, .nowhere, none⟩ = .ok (e', ⟨[], .nowhere, none⟩) := by
  rw [bind_apply (rfl : atEnd c = .ok (c.trees.isEmpty, c))]
  constructor
  · intro h
    split at h
    · cases h
      exact .inl ⟨rfl, rfl⟩
    · obtain ⟨⟨⟩, next, hcomma, hmore⟩ := bind_eq_ok h
      obtain ⟨joined, comma, rfl⟩ := (operator_eq_ok_iff ',' rfl).mp hcomma
      obtain ⟨-, hscope, hleft⟩ := shrinks_entriesFor e n _ _ _ hmore
      obtain ⟨more, scope, leftover⟩ := next
      obtain rfl : Span.nowhere = scope := hscope
      obtain rfl : leftover = none := hleft rfl
      exact .inr ⟨joined, comma, more, rfl, hmore⟩
  · rintro (⟨rfl, rfl⟩ | ⟨joined, comma, more, rfl, hmore⟩)
    · rfl
    · rw [if_neg (by simp), bind_apply (operator_apply ',' rfl ..), hmore]

/-- One round: nothing, or an entry and what comes after it. -/
theorem entriesFor_succ_iff :
    entriesFor e (n + 1) ⟨ts, .nowhere, none⟩ = .ok (e', ⟨[], .nowhere, none⟩) ↔
      ts = [] ∧ e' = e ∨
        ∃ x : MarkerEntry, ∃ front, x.Spelled front ∧ e.Free x ∧
          (ts = front ∧ e' = e.add x ∨
            ∃ joined comma more, ts = front ++ .mark ',' joined comma :: more ∧
              entriesFor (e.add x) n ⟨more, .nowhere, none⟩ = .ok (e', ⟨[], .nowhere, none⟩)) := by
  rw [entriesFor, bind_apply (rfl : atEnd ⟨ts, _, _⟩ = .ok (ts.isEmpty, ⟨ts, _, _⟩))]
  constructor
  · intro h
    split at h
    · cases h
      exact .inl ⟨rfl, rfl⟩
    · obtain ⟨e₁, mid, hentry, hafter⟩ := bind_eq_ok h
      rcases afterEntry_iff.mp hafter with ⟨rfl, rfl⟩ | ⟨joined, comma, more, rfl, hmore⟩
      · obtain ⟨x, hspelled, hfree, rfl⟩ := entry_eq_ok_iff.mp hentry
        exact .inr ⟨x, ts, hspelled, hfree, .inl ⟨rfl, rfl⟩⟩
      · -- the entry has been read with a comma after it, so it can be read alone
        have hshrinks : Shrinks (entry e) := (follows_entry e : Follows .entry false 0 _ _).shrinks
        obtain ⟨front, rest, rfl, hmid⟩ := exists_front hshrinks hentry rfl
        cases hmid
        have halone := (Follows.alone_iff (fun _ ↦ follows_entry e) (.comma ..)).mp hentry
        obtain ⟨x, hspelled, hfree, rfl⟩ := entry_eq_ok_iff.mp halone
        exact .inr ⟨x, front, hspelled, hfree, .inr ⟨joined, comma, more, rfl, hmore⟩⟩
  · rintro (⟨rfl, rfl⟩ | ⟨x, front, hspelled, hfree, hafter⟩)
    · rfl
    · have hentry := entry_eq_ok_iff.mpr ⟨x, hspelled, hfree, rfl⟩
      have hfront := hspelled.ne_nil
      rcases hafter with ⟨rfl, rfl⟩ | ⟨joined, comma, more, rfl, hmore⟩
      · rw [if_neg (by simpa using hfront), bind_apply hentry]
        rfl
      · have hentry := (Follows.alone_iff (fun _ ↦ follows_entry e)
          (.comma joined comma more)).mpr hentry
        rw [if_neg (by simp), bind_apply hentry]
        exact afterEntry_iff.mpr (.inr ⟨joined, comma, more, rfl, hmore⟩)

/-- **Entries are read exactly if they are spelled with commas between them and set no option
twice**, those that have been read before included. -/
theorem entriesFor_eq_ok_iff (hdone : (MarkerEntry.keys done).Nodup) (hn : ts.length < n) :
    entriesFor (.ofList done) n ⟨ts, .nowhere, none⟩ = .ok (e', ⟨[], .nowhere, none⟩) ↔
      ∃ es, SpelledAll es ts ∧ (MarkerEntry.keys (done ++ es)).Nodup ∧
        e' = .ofList (done ++ es) := by
  induction n generalizing done ts with
  | zero => exact absurd hn (Nat.not_lt_zero _)
  | succ n ih =>
    rw [entriesFor_succ_iff]
    constructor
    · rintro (⟨rfl, rfl⟩ | ⟨x, front, hspelled, hfree, hafter⟩)
      · exact ⟨[], .nil, by rwa [List.append_nil], by rw [List.append_nil]⟩
      · have hdone' := (MarkerEntry.nodup_keys_concat hdone).mpr hfree
        rw [← Entries.ofList_concat hfree] at hafter
        rcases hafter with ⟨rfl, rfl⟩ | ⟨joined, comma, more, rfl, hmore⟩
        · exact ⟨[x], .last hspelled, hdone', rfl⟩
        · obtain ⟨es, hes, hnodup, rfl⟩ := (ih hdone' (by simp at hn; omega)).mp hmore
          rw [List.append_assoc, List.singleton_append] at hnodup ⊢
          exact ⟨x :: es, .cons joined comma hspelled hes, hnodup, rfl⟩
    · rintro ⟨es, hspelled, hnodup, rfl⟩
      cases hspelled with
      | nil => exact .inl ⟨rfl, by rw [List.append_nil]⟩
      | @last _ x hx =>
        have hfree := (MarkerEntry.nodup_keys_concat hdone).mp hnodup
        exact .inr ⟨x, ts, hx, hfree, .inl ⟨rfl, Entries.ofList_concat hfree⟩⟩
      | @cons front more x es joined comma hx hes =>
        rw [List.append_cons] at hnodup
        have hdone' : (MarkerEntry.keys (done ++ [x])).Nodup :=
          hnodup.sublist ((List.sublist_append_left _ _).filterMap _)
        have hfree := (MarkerEntry.nodup_keys_concat hdone).mp hdone'
        have hmore := (ih hdone' (by simp at hn; omega)).mpr
          ⟨es, hes, hnodup, congrArg Entries.ofList (List.append_cons done x es)⟩
        rw [Entries.ofList_concat hfree] at hmore
        exact .inr ⟨x, front, hx, hfree, .inr ⟨joined, comma, more, rfl, hmore⟩⟩

theorem entries_run_eq_ok_iff :
    entries.run .nowhere ts = .ok e ↔
      ∃ es, SpelledAll es ts ∧ (MarkerEntry.keys es).Nodup ∧ e = .ofList es := by
  have hshrinks : Shrinks entries := fun c ↦ shrinks_entriesFor .empty _ c
  rw [run_eq_ok_iff hshrinks]
  have hnil : (MarkerEntry.keys []).Nodup := List.nodup_nil
  exact entriesFor_eq_ok_iff hnil (Nat.lt_succ_self _)

/-! ## Spellings -/

theorem Entries.add_injective {x x' : MarkerEntry}
    (h : Entries.empty.add x = Entries.empty.add x') : x = x' := by
  cases x <;> cases x' <;> simp_all [Entries.add, Entries.empty]

/-- An entry is read whatever comes after it. -/
theorem entry_of_spelled {x : MarkerEntry} (h : x.Spelled ts) {tail : List Tree} (ht : Ends tail) :
    entry .empty ⟨ts ++ tail, .nowhere, none⟩ =
      .ok (Entries.empty.add x, ⟨tail, .nowhere, none⟩) := by
  have hfree : Entries.empty.Free x := by
    cases x <;> simp [Entries.Free, Entries.empty]
  exact (Follows.alone_iff (fun _ ↦ follows_entry _) ht).mpr
    (entry_eq_ok_iff.mpr ⟨x, h, hfree, rfl⟩)

/-- Trees that spell an entry, and what comes after it, do so in one way. -/
theorem spelled_unique {x x' : MarkerEntry} {front front' tail tail' : List Tree}
    (h : x.Spelled front) (h' : x'.Spelled front') (ht : Ends tail) (ht' : Ends tail')
    (heq : front ++ tail = front' ++ tail') : x = x' ∧ tail = tail' := by
  have hread := entry_of_spelled h ht
  rw [heq, entry_of_spelled h' ht'] at hread
  obtain ⟨hx, hc⟩ := Prod.mk.inj (Except.ok.inj hread)
  exact ⟨(Entries.add_injective hx).symm, (Cursor.mk.inj hc).1.symm⟩

/-- The grammar is not ambiguous. -/
theorem spelledAll_unique {es es' : List MarkerEntry} (h : SpelledAll es ts)
    (h' : SpelledAll es' ts) : es = es' := by
  induction h generalizing es' with
  | nil =>
    generalize hts : ([] : List Tree) = ts at h'
    cases h' with
    | nil => rfl
    | last hx => exact absurd hts.symm hx.ne_nil
    | cons _ _ hx hes => simp at hts
  | @last trees x hx =>
    cases h' with
    | nil => exact absurd rfl hx.ne_nil
    | last hx' => rw [(spelled_unique hx hx' .nothing .nothing rfl).1]
    | @cons front' more' x' es' joined' comma' hx' hes' =>
      have h := spelled_unique hx hx' .nothing (.comma joined' comma' more')
        (List.append_nil _)
      exact absurd h.2 (by simp)
  | @cons front more x es joined comma hx hes ih =>
    generalize hts : front ++ .mark ',' joined comma :: more = ts at h'
    cases h' with
    | nil => simp at hts
    | last hx' =>
      have h := spelled_unique hx hx' (.comma joined comma more) .nothing
        (hts.trans (List.append_nil _).symm)
      exact absurd h.2 (by simp)
    | @cons front' more' x' es' joined' comma' hx' hes' =>
      obtain ⟨rfl, htail⟩ := spelled_unique hx hx' (.comma joined comma more)
        (.comma joined' comma' more') hts
      obtain rfl : more = more' := (List.cons.inj htail).2
      rw [ih hes']

end Grammar

/-- A literal that is read as a name says that the library is there. -/
theorem MarkerEntry.spelled_crate {literal name : String}
    (hl : TextLiteral.ofText? literal = some ⟨name, ""⟩)
    (hp : (Grammar.readText Grammar.path ⟨name, ""⟩ .nowhere).toOption.any (·.isName name) = true) :
    (crate (.ofName name)).Spelled
      [.word "crate" .nowhere, .mark '=' false .nowhere, .literal literal .nowhere] := by
  obtain ⟨p, hp, hname⟩ := exists_of_any_toOption hp
  exact .crate hl (Path.eq_ofName hname ▸ hp)

/-! ## Arguments -/

theorem MarkerArgs.read_iff_spelled {kind : MarkerKind} {args : List Tree} {span : Span}
    {m : MarkerArgs} :
    MarkerArgs.read kind args span = .ok m ↔
      ∃ es, SpelledAll es args ∧ (MarkerEntry.keys es).Nodup ∧
        (kind.isScalar = true → MarkerEntry.components es = []) ∧ m = .ofEntries kind es span := by
  rw [MarkerArgs.read_iff_entries]
  constructor
  · rintro ⟨e, he, hscalar, rfl⟩
    obtain ⟨es, hspelled, hnodup, rfl⟩ := Grammar.entries_run_eq_ok_iff.mp he
    exact ⟨es, hspelled, hnodup, hscalar, rfl⟩
  · rintro ⟨es, hspelled, hnodup, hscalar, rfl⟩
    exact ⟨.ofList es, Grammar.entries_run_eq_ok_iff.mpr ⟨es, hspelled, hnodup, rfl⟩, hscalar, rfl⟩

theorem MarkerEntry.Spelled.isRead {x : MarkerEntry} {trees : List Tree} (h : x.Spelled trees)
    (htrees : Tree.Lexed trees) : ∀ c ∈ x.component?, c.ty.IsRead := by
  cases h with
  | component _ _ hty => exact forall_mem_some (.of_run htrees.tail.tail hty)
  | _ => nofun

theorem SpelledAll.isRead {es : List MarkerEntry} {args : List Tree} (h : SpelledAll es args)
    (hargs : Tree.Lexed args) : ∀ x ∈ es, ∀ c ∈ x.component?, c.ty.IsRead := by
  induction h with
  | nil => nofun
  | last hx => exact List.forall_mem_singleton.mpr (hx.isRead hargs)
  | cons joined comma hx _ ih =>
    have hmore := (hargs.of_suffix (List.suffix_append _ _)).tail
    exact List.forall_mem_cons.mpr ⟨hx.isRead (hargs.before nofun), ih hmore⟩

/-- **The types of components are types that are read**, if the arguments are cut from a text. -/
theorem MarkerArgs.isRead_of_read {args : List Tree} {span : Span} {m : MarkerArgs}
    (hargs : Tree.Lexed args) (h : MarkerArgs.read .combined args span = .ok m) :
    ∀ c ∈ m.components, c.ty.IsRead := by
  obtain ⟨es, hspelled, -, -, rfl⟩ := MarkerArgs.read_iff_spelled.mp h
  intro c hc
  obtain ⟨x, hx, hxc⟩ := List.mem_filterMap.mp hc
  exact hspelled.isRead hargs x hx c hxc

/-- The options may stand anywhere among the components. -/
theorem MarkerArgs.ofEntries_perm {kind : MarkerKind} {es es' : List MarkerEntry} {span : Span}
    (hnodup : (MarkerEntry.keys es).Nodup) (h : es.Perm es')
    (hcomponents : MarkerEntry.components es = MarkerEntry.components es') :
    MarkerArgs.ofEntries kind es span = .ofEntries kind es' span := by
  rw [MarkerArgs.ofEntries, MarkerArgs.ofEntries, MarkerEntry.ofList_perm hnodup h hcomponents]

theorem MarkerArgs.read_of_perm {kind : MarkerKind} {args args' : List Tree}
    {es es' : List MarkerEntry} {span : Span} {m : MarkerArgs} (hes : SpelledAll es args)
    (hes' : SpelledAll es' args') (h : es.Perm es')
    (hcomponents : MarkerEntry.components es = MarkerEntry.components es')
    (hm : MarkerArgs.read kind args span = .ok m) : MarkerArgs.read kind args' span = .ok m := by
  obtain ⟨_, hspelled, hnodup, hscalar, rfl⟩ := MarkerArgs.read_iff_spelled.mp hm
  obtain rfl := Grammar.spelledAll_unique hes hspelled
  refine MarkerArgs.read_iff_spelled.mpr ⟨es', hes', (h.filterMap _).nodup_iff.mp hnodup, ?_, ?_⟩
  · rwa [← hcomponents]
  · exact MarkerArgs.ofEntries_perm hnodup h hcomponents

/-- The arguments of a marker are in its grammar: they spell entries, no option is set twice, and a
scalar identifier has no components.  What they say is what the entries say. -/
def MarkerArgs.InGrammar (kind : MarkerKind) (args : List Tree) (span : Span) (m : MarkerArgs) :
    Prop :=
  ∃ es, SpelledAll es args ∧ (MarkerEntry.keys es).Nodup ∧
    (kind.isScalar = true → MarkerEntry.components es = []) ∧ m = .ofEntries kind es span

/-- **The arguments of a marker are accepted exactly if they are in its grammar**, and the type of
the wrapped value can be read with the path of the library.  Arguments that are in the grammar stop
the expansion exactly if that type cannot be read.

Where the options stand among the components does not matter: if two lists of arguments spell the
same entries, with the components in the same order, the same becomes of both. -/
theorem MarkerArgs.parse_iff_spelled (kind : MarkerKind) (args : List Tree) (span : Span) :
    (∀ m, parse kind args span = .ok (.ok m) ↔ InGrammar kind args span m ∧ m.IsTyped kind) ∧
    (∀ n, parse kind args span = .error n ↔
      ∃ m, InGrammar kind args span m ∧ ¬m.IsTyped kind ∧
        n = .type (.wanted Grammar.typeStarts false)) ∧
    ∀ args' es es', SpelledAll es args → SpelledAll es' args' → es.Perm es' →
      MarkerEntry.components es = MarkerEntry.components es' →
      (∀ m, parse kind args span = .ok (.ok m) ↔ parse kind args' span = .ok (.ok m)) ∧
      ∀ n, parse kind args span = .error n ↔ parse kind args' span = .error n := by
  refine ⟨fun m ↦ ?_, fun n ↦ ?_, fun args' es es' hes hes' h hcomponents ↦ ?_⟩
  · rw [parse_eq_ok_iff, read_iff_spelled, InGrammar]
  · simp only [parse_eq_error_iff, read_iff_spelled, InGrammar]
  · have hread (m : MarkerArgs) : read kind args span = .ok m ↔ read kind args' span = .ok m :=
      ⟨read_of_perm hes hes' h hcomponents, read_of_perm hes' hes h.symm hcomponents.symm⟩
    exact ⟨fun m ↦ by rw [parse_eq_ok_iff, parse_eq_ok_iff, hread],
      fun n ↦ by simp only [parse_eq_error_iff, hread]⟩

/-- `id: u8` -/
def byteComponent : List Tree :=
  [.word "id" .nowhere, .mark ':' false .nowhere, .word "u8" .nowhere]

/-- `private_constructor = true` -/
def privateOption : List Tree :=
  [.word "private_constructor" .nowhere, .mark '=' false .nowhere, .word "true" .nowhere]

/-- The component that `id: u8` is. -/
def byteEntry : MarkerEntry := .component ⟨"id", .path false [] ⟨"u8", .none⟩, .nowhere, .nowhere⟩

theorem spelled_byteComponent : byteEntry.Spelled byteComponent := by
  have hty : Grammar.type.run .nowhere [.word "u8" .nowhere] =
      .ok (.path false [] ⟨"u8", .none⟩) :=
    Grammar.type_run_code (p := .ofName "u8") (by decide) rfl
  exact .component rfl rfl hty

/-- A component and an option are read alike in either order. -/
theorem parse_byteComponent :
    let es := [byteEntry, .privateConstructor true]
    let es' := [.privateConstructor true, byteEntry]
    let args := byteComponent ++ .mark ',' false .nowhere :: privateOption
    let args' := privateOption ++ .mark ',' false .nowhere :: byteComponent
    SpelledAll es args ∧ SpelledAll es' args' ∧ es.Perm es' ∧
      MarkerEntry.components es = MarkerEntry.components es' ∧
      MarkerArgs.parse .combined args .nowhere = .ok (.ok (.ofEntries .combined es .nowhere)) ∧
      MarkerArgs.parse .combined args' .nowhere = .ok (.ok (.ofEntries .combined es .nowhere)) := by
  intro es es' args args'
  have hes : SpelledAll es args :=
    .cons false .nowhere spelled_byteComponent (.last .privateConstructor)
  have hes' : SpelledAll es' args' :=
    .cons false .nowhere .privateConstructor (.last spelled_byteComponent)
  have hperm : es.Perm es' := .swap ..
  obtain ⟨hparse, -, hmove⟩ := MarkerArgs.parse_iff_spelled .combined args .nowhere
  have hargs : MarkerArgs.parse .combined args .nowhere =
      .ok (.ok (.ofEntries .combined es .nowhere)) := by
    refine (hparse _).mpr ⟨⟨es, hes, by decide, fun h ↦ ?_, rfl⟩, fun h ↦ ?_⟩ <;> cases h
  exact ⟨hes, hes', hperm, rfl, hargs, ((hmove args' es es' hes hes' hperm rfl).1 _).mp hargs⟩

/-- `crate = "try"` -/
def tryOption : List Tree :=
  [.word "crate" .nowhere, .mark '=' false .nowhere, .literal "\"try\"" .nowhere]

/-- The arguments are in the grammar, for `try` is a path, but no UUID is accepted with them. -/
theorem parse_tryOption :
    SpelledAll [.crate (.ofName "try")] tryOption ∧
      (∃ m, MarkerArgs.InGrammar .guid tryOption .nowhere m) ∧
      ∀ m, MarkerArgs.parse .guid tryOption .nowhere ≠ .ok (.ok m) := by
  have hspelled : SpelledAll [.crate (.ofName "try")] tryOption :=
    .last (MarkerEntry.spelled_crate (by decide +kernel) (by decide +kernel))
  have hgrammar : MarkerArgs.InGrammar .guid tryOption .nowhere
      (.ofEntries .guid [.crate (.ofName "try")] .nowhere) :=
    ⟨_, hspelled, by decide, fun _ ↦ rfl, rfl⟩
  refine ⟨hspelled, ⟨_, hgrammar⟩, fun m hm ↦ ?_⟩
  obtain ⟨hread, htyped⟩ := MarkerArgs.parse_eq_ok_iff.mp hm
  obtain ⟨es, hes, -, -, rfl⟩ := MarkerArgs.read_iff_spelled.mp hread
  obtain rfl := Grammar.spelledAll_unique hspelled hes
  exact absurd (htyped rfl) (by decide)

end TypedIds
