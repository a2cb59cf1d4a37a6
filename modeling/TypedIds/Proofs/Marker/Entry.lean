import Mathlib.Data.List.Nodup
import TypedIds.Marker.Args
import TypedIds.Proofs.Grammar.Type

/-!
# Entries of a marker's arguments

The arguments of a marker are read entry by entry.  Here is their grammar without a reader: what an
entry is and how it is spelled (`MarkerEntry.Spelled`), how entries are put together with commas
(`SpelledAll`), and what they say (`Entries.ofList`).  Types, names, paths and the values of string
literals are what their readers say, each of which is given the trees of its own entry and no
others.

* `Grammar.entry_eq_ok_iff` — an entry alone is read if it is spelled and sets no option that is set
  already.
* `Grammar.follows_entry` — it is read as if it stood alone, since a type in it is
  (`Grammar.follows_type`).
* `MarkerEntry.ofList_perm` — where an option is set does not matter if no option is set twice.
-/

set_option autoImplicit false

namespace TypedIds

open Reader

/-! ## The grammar -/

/-- An entry of the arguments of a marker. -/
inductive MarkerEntry where
  | component (c : Component)
  /-- The name of the accessor, and where it is given. -/
  | value (name : String) (place : Span)
  | privateConstructor (flag : Bool)
  | check (name : String)
  | crate (path : Path)

namespace MarkerEntry

/-- How an entry is spelled.  The `:` after the name of a component does not begin a `::`. -/
inductive Spelled : MarkerEntry → List Tree → Prop
  | component {name : String} {s colon : Span} {joined : Bool} {trees : List Tree} {ty : Ty}
      (hname : isName name = true)
      (hcolon : Ahead.operator "::" (.mark ':' joined colon :: trees) = false)
      (hty : Grammar.type.run .nowhere trees = .ok ty) :
      Spelled (.component ⟨name, ty, s, Tree.spanAll trees⟩)
        (.word name s :: .mark ':' joined colon :: trees)
  | value {s sign place : Span} {joined : Bool} {text name : String} {l : TextLiteral}
      (htext : TextLiteral.ofText? text = some l) (hname : propertyName l.value = .ok name) :
      Spelled (.value name place)
        [.word "value" s, .mark '=' joined sign, .literal text place]
  | isPrivate {s : Span} : Spelled (.privateConstructor true) [.word "private_constructor" s]
  | privateConstructor {s sign place : Span} {joined flag : Bool} :
      Spelled (.privateConstructor flag)
        [.word "private_constructor" s, .mark '=' joined sign, .word (toString flag) place]
  | check {s sign place nameSpan : Span} {joined : Bool} {text name : String} {l : TextLiteral}
      (htext : TextLiteral.ofText? text = some l)
      (hname : Grammar.readText Reader.name l place = .ok (name, nameSpan)) :
      Spelled (.check name) [.word "check" s, .mark '=' joined sign, .literal text place]
  | crate {s sign place : Span} {joined : Bool} {text : String} {l : TextLiteral} {path : Path}
      (htext : TextLiteral.ofText? text = some l)
      (hpath : Grammar.readText Grammar.path l place = .ok path) :
      Spelled (.crate path) [.word "crate" s, .mark '=' joined sign, .literal text place]

theorem Spelled.ne_nil {x : MarkerEntry} {trees : List Tree} (h : x.Spelled trees) :
    trees ≠ [] := by
  cases h <;> simp

/-- The component that an entry is. -/
def component? : MarkerEntry → Option Component
  | .component c => some c
  | _ => none

/-- The accessor that an entry names. -/
def value? : MarkerEntry → Option (String × Span)
  | .value name place => some (name, place)
  | _ => none

/-- Whether an entry makes the constructor private. -/
def privateConstructor? : MarkerEntry → Option Bool
  | .privateConstructor flag => some flag
  | _ => none

/-- The function for checks that an entry names. -/
def check? : MarkerEntry → Option String
  | .check name => some name
  | _ => none

/-- The library that an entry names. -/
def crate? : MarkerEntry → Option Path
  | .crate path => some path
  | _ => none

/-- The option that an entry sets; a component sets none. -/
def key? : MarkerEntry → Option String
  | .component _ => none
  | .value .. => some "value"
  | .privateConstructor _ => some "private_constructor"
  | .check _ => some "check"
  | .crate _ => some "crate"

/-- The components among some entries, in their order. -/
def components (es : List MarkerEntry) : List Component := es.filterMap component?

/-- The options that some entries set, in their order. -/
def keys (es : List MarkerEntry) : List String := es.filterMap key?

end MarkerEntry

/-- How entries are spelled: with commas between them, and perhaps one at the end. -/
inductive SpelledAll : List MarkerEntry → List Tree → Prop
  | nil : SpelledAll [] []
  | last {trees : List Tree} {x : MarkerEntry} (h : x.Spelled trees) : SpelledAll [x] trees
  | cons {trees more : List Tree} {x : MarkerEntry} {es : List MarkerEntry} (joined : Bool)
      (comma : Span) (h : x.Spelled trees) (hmore : SpelledAll es more) :
      SpelledAll (x :: es) (trees ++ .mark ',' joined comma :: more)

/-- What some entries say together: the components in their order, and the first value for each
option, which is the only one if no option is set twice (`IsOption.findSome?_eq_some_iff`). -/
def Entries.ofList (es : List MarkerEntry) : Entries where
  components := MarkerEntry.components es
  value := es.findSome? MarkerEntry.value?
  privateConstructor := es.findSome? MarkerEntry.privateConstructor?
  check := es.findSome? MarkerEntry.check?
  crate := es.findSome? MarkerEntry.crate?

/-- What some entries say about an identifier: an option that none of them sets has its default, and
the only component of a scalar identifier is the wrapped value. -/
def MarkerArgs.ofEntries (kind : MarkerKind) (es : List MarkerEntry) (span : Span) : MarkerArgs :=
  let e := Entries.ofList es
  ⟨if kind.isScalar then [scalarComponent kind e.options] else e.components, e.options, span⟩

/-! ## Entries one by one -/

namespace Entries

variable {done : List MarkerEntry} {x : MarkerEntry}

/-- Entries with one more after them. -/
def add (e : Entries) : MarkerEntry → Entries
  | .component c => { e with components := e.components ++ [c] }
  | .value name place => { e with value := some (name, place) }
  | .privateConstructor flag => { e with privateConstructor := some flag }
  | .check name => { e with check := some name }
  | .crate path => { e with crate := some path }

/-- The option that an entry sets is not set yet. -/
def Free (e : Entries) : MarkerEntry → Prop
  | .component _ => True
  | .value .. => e.value = none
  | .privateConstructor _ => e.privateConstructor = none
  | .check _ => e.check = none
  | .crate _ => e.crate = none

theorem ofList_concat (h : (ofList done).Free x) :
    ofList (done ++ [x]) = (ofList done).add x := by
  have hor : ofList (done ++ [x]) =
      { components := (ofList done).components ++ x.component?.toList
        value := (ofList done).value.or x.value?
        privateConstructor := (ofList done).privateConstructor.or x.privateConstructor?
        check := (ofList done).check.or x.check?
        crate := (ofList done).crate.or x.crate? } := by
    cases hx : x.component? <;> simp [ofList, MarkerEntry.components, List.findSome?_append, hx]
  rw [hor]
  cases x <;> simp only [Free] at h <;>
    simp [add, h, MarkerEntry.component?, MarkerEntry.value?, MarkerEntry.privateConstructor?,
      MarkerEntry.check?, MarkerEntry.crate?]

end Entries

namespace MarkerEntry

variable {done es : List MarkerEntry} {x : MarkerEntry} {α : Type} {f : MarkerEntry → Option α}
  {key : String}

/-- The entries that `f` looks for are those that set the option. -/
def IsOption (f : MarkerEntry → Option α) (key : String) : Prop :=
  ∀ x, (f x).isSome = true ↔ x.key? = some key

theorem isOption_value : IsOption value? "value" := by
  rintro (_ | _ | _ | _ | _) <;> simp [value?, key?]

theorem isOption_privateConstructor : IsOption privateConstructor? "private_constructor" := by
  rintro (_ | _ | _ | _ | _) <;> simp [privateConstructor?, key?]

theorem isOption_check : IsOption check? "check" := by
  rintro (_ | _ | _ | _ | _) <;> simp [check?, key?]

theorem isOption_crate : IsOption crate? "crate" := by
  rintro (_ | _ | _ | _ | _) <;> simp [crate?, key?]

/-- An option has no value if it is not set. -/
theorem IsOption.findSome?_eq_none_iff (hf : IsOption f key) :
    es.findSome? f = none ↔ key ∉ keys es := by
  rw [List.findSome?_eq_none_iff, keys, List.mem_filterMap]
  constructor
  · rintro h ⟨x, hx, hkey⟩
    have hsome := (hf x).mpr hkey
    rw [h x hx] at hsome
    cases hsome
  · intro h x hx
    rw [← Option.not_isSome_iff_eq_none]
    exact fun hsome ↦ h ⟨x, hx, (hf x).mp hsome⟩

/-- An option has the value of the only entry that sets it. -/
theorem IsOption.findSome?_eq_some_iff (hf : IsOption f key) (hnodup : (keys es).Nodup) {a : α} :
    es.findSome? f = some a ↔ ∃ x ∈ es, f x = some a := by
  refine ⟨List.exists_of_findSome?_eq_some, ?_⟩
  rintro ⟨x, hx, ha⟩
  induction es with
  | nil => cases hx
  | cons y ys ih =>
    have hkey : x.key? = some key := (hf x).mp (by rw [ha]; rfl)
    rcases List.mem_cons.mp hx with rfl | hx
    · rw [List.findSome?_cons, ha]
    · cases hy : f y with
      | none =>
        rw [List.findSome?_cons, hy]
        exact ih (hnodup.sublist ((List.sublist_cons_self y ys).filterMap _)) hx
      | some b =>
        -- the option would be set by both entries
        have hykey : y.key? = some key := (hf y).mp (by rw [hy]; rfl)
        rw [keys, List.filterMap_cons, hykey] at hnodup
        exact absurd (List.mem_filterMap.mpr ⟨x, hx, hkey⟩) (List.nodup_cons.mp hnodup).1

/-- Where an option is set among the entries does not matter. -/
theorem IsOption.findSome?_perm (hf : IsOption f key) (hnodup : (keys es).Nodup)
    {es' : List MarkerEntry} (h : es.Perm es') : es.findSome? f = es'.findSome? f := by
  have hnodup' : (keys es').Nodup := (h.filterMap _).nodup_iff.mp hnodup
  ext a
  rw [hf.findSome?_eq_some_iff hnodup, hf.findSome?_eq_some_iff hnodup']
  simp only [h.mem_iff]

theorem ofList_perm {es' : List MarkerEntry} (hnodup : (keys es).Nodup) (h : es.Perm es')
    (hcomponents : components es = components es') : Entries.ofList es = Entries.ofList es' := by
  rw [Entries.ofList, Entries.ofList, hcomponents, isOption_value.findSome?_perm hnodup h,
    isOption_privateConstructor.findSome?_perm hnodup h, isOption_check.findSome?_perm hnodup h,
    isOption_crate.findSome?_perm hnodup h]

theorem free_ofList_iff :
    (Entries.ofList done).Free x ↔ ∀ key ∈ x.key?, key ∉ keys done := by
  cases x with
  | component c => simp [Entries.Free, key?]
  | value name place => exact isOption_value.findSome?_eq_none_iff.trans (by simp [key?])
  | privateConstructor flag =>
    exact isOption_privateConstructor.findSome?_eq_none_iff.trans (by simp [key?])
  | check name => exact isOption_check.findSome?_eq_none_iff.trans (by simp [key?])
  | crate path => exact isOption_crate.findSome?_eq_none_iff.trans (by simp [key?])

theorem nodup_keys_concat (hdone : (keys done).Nodup) :
    (keys (done ++ [x])).Nodup ↔ (Entries.ofList done).Free x := by
  have hkeys : keys (done ++ [x]) = keys done ++ x.key?.toList := by
    cases hx : x.key? <;> simp [keys, hx]
  rw [hkeys, free_ofList_iff]
  cases x.key? with
  | none => simpa using hdone
  | some key =>
    rw [Option.toList_some, (List.perm_append_singleton key (keys done)).nodup_iff, List.nodup_cons]
    simp [hdone]

end MarkerEntry

/-! ## Options -/

namespace Grammar

variable {c next : Cursor} {done : List MarkerEntry} {e e' : Entries} {l : TextLiteral}
  {s place : Span} {ts : List Tree}

theorem textLiteral_apply {text : String} (hl : TextLiteral.ofText? text = some l)
    (scope : Span) (leftover : Option Diagnostic) :
    textLiteral ⟨.literal text place :: ts, scope, leftover⟩ =
      .ok ((l, place), ⟨ts, scope, leftover⟩) := by
  rw [textLiteral, bind_apply (rfl : rest ⟨.literal text place :: ts, scope, leftover⟩ = _)]
  simp only [hl]
  rfl

theorem textLiteral_eq_ok_iff :
    textLiteral c = .ok ((l, place), next) ↔
      ∃ text, TextLiteral.ofText? text = some l ∧
        c = ⟨.literal text place :: next.trees, next.scope, next.leftover⟩ := by
  constructor
  · obtain ⟨_ | ⟨_ | _ | ⟨text, place⟩ | _ | _, ts⟩, scope, leftover⟩ := c
    case cons.literal =>
      intro h
      cases hl : TextLiteral.ofText? text with
      | none =>
        rw [textLiteral,
          bind_apply (rfl : rest ⟨.literal text place :: ts, scope, leftover⟩ = _)] at h
        simp only [hl] at h
        exact absurd h (Fails.want _ _ _)
      | some l =>
        rw [textLiteral_apply hl] at h
        cases h
        exact ⟨text, hl, rfl⟩
    all_goals exact fun h ↦ absurd h (Fails.want _ _ _)
  · rintro ⟨text, hl, rfl⟩
    exact textLiteral_apply hl _ _

theorem truthLiteral_apply (flag : Bool) (scope : Span) (leftover : Option Diagnostic) :
    truthLiteral ⟨.word (toString flag) s :: ts, scope, leftover⟩ =
      .ok (flag, ⟨ts, scope, leftover⟩) := by
  cases flag <;> rfl

theorem truthLiteral_eq_ok_iff {flag : Bool} :
    truthLiteral c = .ok (flag, next) ↔
      ∃ s, c = ⟨.word (toString flag) s :: next.trees, next.scope, next.leftover⟩ := by
  constructor
  · obtain ⟨_ | ⟨⟨w, s⟩ | _ | _ | _ | _, ts⟩, scope, leftover⟩ := c
    case cons.word =>
      intro h
      change (if (w == "true" || w == "false") = true then _ else _ : Reader Bool) _ = _ at h
      split at h
      next hw =>
        cases h
        refine ⟨s, ?_⟩
        rw [Bool.or_eq_true, beq_iff_eq, beq_iff_eq] at hw
        rcases hw with rfl | rfl <;> rfl
      next => exact absurd h (Fails.want _ _ _)
    all_goals exact fun h ↦ absurd h (Fails.want _ _ _)
  · rintro ⟨s, rfl⟩
    exact truthLiteral_apply flag _ _

theorem optionText_eq_ok_iff {key : String} :
    optionText key s c = .ok ((l, place), next) ↔
      ∃ joined sign text, TextLiteral.ofText? text = some l ∧
        c = ⟨.mark '=' joined sign :: .literal text place :: next.trees, next.scope,
          next.leftover⟩ := by
  constructor
  · intro h
    obtain ⟨_, _, hseen, hvalue⟩ := bind_eq_ok h
    obtain ⟨rfl, rfl⟩ := Prod.mk.inj (Except.ok.inj hseen)
    split at hvalue
    · obtain ⟨⟨⟩, mid, hsign, htext⟩ := bind_eq_ok hvalue
      obtain ⟨joined, sign, hc⟩ := (operator_eq_ok_iff '=' rfl).mp hsign
      obtain ⟨text, hl, rfl⟩ := textLiteral_eq_ok_iff.mp htext
      exact ⟨joined, sign, text, hl, hc⟩
    · cases hvalue
  · rintro ⟨joined, sign, text, hl, rfl⟩
    rw [optionText, bind_apply (rfl : sees _ _ = _), if_pos (Ahead.operator_cons_mark rfl ..),
      bind_apply (operator_apply '=' rfl ..)]
    exact textLiteral_eq_ok_iff.mpr ⟨text, hl, rfl⟩

theorem setOnce_bind_eq_ok_iff {α β : Type} {slot : Option α} {a : α} {key : String}
    {f : Option α → Reader β} {b : β} :
    (setOnce slot a key s >>= f) c = .ok (b, next) ↔
      slot = none ∧ f (some a) c = .ok (b, next) := by
  cases slot with
  | some a =>
    refine ⟨fun h ↦ ?_, fun h ↦ nomatch h.1⟩
    obtain ⟨_, _, hset, -⟩ := bind_eq_ok h
    cases hset
  | none => exact ⟨fun h ↦ ⟨rfl, h⟩, fun h ↦ h.2⟩

/-- An option whose value is read from a text. -/
theorem textOption_iff {ε α β : Type} {key : String} {f : TextLiteral × Span → Reader Entries}
    (read : TextLiteral → Span → Except ε α) (slot : Option β) (given : α → Span → β)
    (set : Option β → Entries)
    (herror : ∀ l place d, read l place = .error d → Fails (f (l, place)))
    (hok : ∀ l place a, read l place = .ok a →
      f (l, place) = setOnce slot (given a place) key s >>= fun v ↦ pure (set v)) :
    (optionText key s >>= f) ⟨ts, .nowhere, none⟩ = .ok (e', ⟨[], .nowhere, none⟩) ↔
      ∃ joined sign text place l a, TextLiteral.ofText? text = some l ∧ read l place = .ok a ∧
        ts = [.mark '=' joined sign, .literal text place] ∧ slot = none ∧
        e' = set (some (given a place)) := by
  constructor
  · intro h
    obtain ⟨⟨l, place⟩, mid, htext, hvalue⟩ := bind_eq_ok h
    obtain ⟨joined, sign, text, hl, hc⟩ := optionText_eq_ok_iff.mp htext
    cases ha : read l place with
    | error d => exact absurd hvalue (herror l place d ha _ _)
    | ok a =>
      rw [hok l place a ha, setOnce_bind_eq_ok_iff] at hvalue
      obtain ⟨rfl, rfl⟩ := Prod.mk.inj (Except.ok.inj hvalue.2)
      exact ⟨joined, sign, text, place, l, a, hl, ha, congrArg Cursor.trees hc, hvalue.1, rfl⟩
  · rintro ⟨joined, sign, text, place, l, a, hl, ha, rfl, hnone, rfl⟩
    have htext : optionText key s ⟨[.mark '=' joined sign, .literal text place], .nowhere, none⟩ =
        .ok ((l, place), ⟨[], .nowhere, none⟩) :=
      optionText_eq_ok_iff.mpr ⟨joined, sign, text, hl, rfl⟩
    rw [bind_apply htext, hok l place a ha]
    exact setOnce_bind_eq_ok_iff.mpr ⟨hnone, rfl⟩

/-- The option `value` alone. -/
theorem option_value_iff :
    option e ⟨.word "value" s :: ts, .nowhere, none⟩ = .ok (e', ⟨[], .nowhere, none⟩) ↔
      ∃ name place, (MarkerEntry.value name place).Spelled (.word "value" s :: ts) ∧
        e.value = none ∧ e' = { e with value := some (name, place) } := by
  rw [option, bind_apply (anyWord_apply ..)]
  dsimp only
  rw [if_pos (beq_self_eq_true _),
    textOption_iff (fun l _ ↦ propertyName l.value) e.value Prod.mk fun v ↦ { e with value := v }]
  · constructor
    · rintro ⟨joined, sign, text, place, l, name, hl, hname, rfl, hnone, rfl⟩
      exact ⟨name, place, .value hl hname, hnone, rfl⟩
    · rintro ⟨name, place, hspelled, hnone, rfl⟩
      cases hspelled with
      | value hl hname => exact ⟨_, _, _, _, _, _, hl, hname, rfl, hnone, rfl⟩
  · intro l place p hp
    dsimp only
    rw [hp]
    exact .fail _ _
  · intro l place name hname
    dsimp only
    rw [hname]

/-- The option `check` alone. -/
theorem option_check_iff :
    option e ⟨.word "check" s :: ts, .nowhere, none⟩ = .ok (e', ⟨[], .nowhere, none⟩) ↔
      ∃ name, (MarkerEntry.check name).Spelled (.word "check" s :: ts) ∧ e.check = none ∧
        e' = { e with check := some name } := by
  rw [option, bind_apply (anyWord_apply ..)]
  dsimp only
  rw [if_neg (by decide), if_neg (by decide), if_pos (beq_self_eq_true _),
    textOption_iff (readText name) e.check (fun name _ ↦ name.1) fun v ↦ { e with check := v }]
  · constructor
    · rintro ⟨joined, sign, text, place, l, name, hl, hname, rfl, hnone, rfl⟩
      exact ⟨name.1, .check hl hname, hnone, rfl⟩
    · rintro ⟨name, hspelled, hnone, rfl⟩
      cases hspelled with
      | check hl hname => exact ⟨_, _, _, _, _, _, hl, hname, rfl, hnone, rfl⟩
  · intro l place d hd
    dsimp only
    rw [hd]
    exact .fail _ _
  · intro l place name hname
    dsimp only
    rw [hname]

/-- The option `crate` alone. -/
theorem option_crate_iff :
    option e ⟨.word "crate" s :: ts, .nowhere, none⟩ = .ok (e', ⟨[], .nowhere, none⟩) ↔
      ∃ path, (MarkerEntry.crate path).Spelled (.word "crate" s :: ts) ∧ e.crate = none ∧
        e' = { e with crate := some path } := by
  rw [option, bind_apply (anyWord_apply ..)]
  dsimp only
  rw [if_neg (by decide), if_neg (by decide), if_neg (by decide), if_pos (beq_self_eq_true _),
    textOption_iff (readText path) e.crate (fun path _ ↦ path) fun v ↦ { e with crate := v }]
  · constructor
    · rintro ⟨joined, sign, text, place, l, path, hl, hpath, rfl, hnone, rfl⟩
      exact ⟨path, .crate hl hpath, hnone, rfl⟩
    · rintro ⟨path, hspelled, hnone, rfl⟩
      cases hspelled with
      | crate hl hpath => exact ⟨_, _, _, _, _, _, hl, hpath, rfl, hnone, rfl⟩
  · intro l place d hd
    dsimp only
    rw [hd]
    exact .fail _ _
  · intro l place path hpath
    dsimp only
    rw [hpath]

/-- The option `private_constructor` alone. -/
theorem option_privateConstructor_iff :
    option e ⟨.word "private_constructor" s :: ts, .nowhere, none⟩ =
        .ok (e', ⟨[], .nowhere, none⟩) ↔
      ∃ flag, (MarkerEntry.privateConstructor flag).Spelled (.word "private_constructor" s :: ts) ∧
        e.privateConstructor = none ∧ e' = { e with privateConstructor := some flag } := by
  rw [option, bind_apply (anyWord_apply ..)]
  dsimp only
  rw [if_neg (by decide), if_pos (beq_self_eq_true _), operator?_bind,
    bind_apply (rfl : sees _ _ = _)]
  constructor
  · intro h
    split at h
    · obtain ⟨⟨⟩, mid, hsign, hgiven⟩ := bind_eq_ok h
      obtain ⟨joined, sign, hc⟩ := (operator_eq_ok_iff '=' rfl).mp hsign
      obtain ⟨flag, after, hflag, hset⟩ := bind_eq_ok hgiven
      obtain ⟨place, rfl⟩ := truthLiteral_eq_ok_iff.mp hflag
      obtain ⟨hnone, hset⟩ := setOnce_bind_eq_ok_iff.mp hset
      cases hset
      cases hc
      exact ⟨flag, .privateConstructor, hnone, rfl⟩
    · obtain ⟨flag, _, hflag, hset⟩ := bind_eq_ok h
      obtain ⟨rfl, rfl⟩ := Prod.mk.inj (Except.ok.inj hflag)
      obtain ⟨hnone, hset⟩ := setOnce_bind_eq_ok_iff.mp hset
      cases hset
      exact ⟨true, .isPrivate, hnone, rfl⟩
  · rintro ⟨flag, hspelled, hnone, rfl⟩
    cases hspelled with
    | isPrivate =>
      have hsign : ¬Ahead.operator "=" [] = true := by decide
      rw [if_neg hsign, if_neg Bool.false_ne_true, pure_bind]
      exact setOnce_bind_eq_ok_iff.mpr ⟨hnone, rfl⟩
    | @privateConstructor _ sign place joined =>
      rw [if_pos (Ahead.operator_cons_mark rfl ..), bind_apply (operator_apply '=' rfl ..),
        if_pos rfl, bind_apply (truthLiteral_apply ..)]
      exact setOnce_bind_eq_ok_iff.mpr ⟨hnone, rfl⟩

/-- An option alone. -/
theorem option_eq_ok_iff :
    option e ⟨ts, .nowhere, none⟩ = .ok (e', ⟨[], .nowhere, none⟩) ↔
      ∃ x : MarkerEntry, x.Spelled ts ∧ x.key?.isSome = true ∧ e.Free x ∧ e' = e.add x := by
  constructor
  · intro h
    rcases ts with _ | ⟨⟨key, s⟩ | _ | _ | _ | _, ts⟩
    case cons.word =>
      by_cases hvalue : key = "value"
      · subst hvalue
        obtain ⟨name, place, hspelled, hnone, rfl⟩ := option_value_iff.mp h
        exact ⟨_, hspelled, rfl, hnone, rfl⟩
      by_cases hprivate : key = "private_constructor"
      · subst hprivate
        obtain ⟨flag, hspelled, hnone, rfl⟩ := option_privateConstructor_iff.mp h
        exact ⟨_, hspelled, rfl, hnone, rfl⟩
      by_cases hcheck : key = "check"
      · subst hcheck
        obtain ⟨name, hspelled, hnone, rfl⟩ := option_check_iff.mp h
        exact ⟨_, hspelled, rfl, hnone, rfl⟩
      by_cases hcrate : key = "crate"
      · subst hcrate
        obtain ⟨path, hspelled, hnone, rfl⟩ := option_crate_iff.mp h
        exact ⟨_, hspelled, rfl, hnone, rfl⟩
      · rw [option, bind_apply (anyWord_apply ..)] at h
        simp only [beq_iff_eq, hvalue, hprivate, hcheck, hcrate, if_false] at h
        cases h
    all_goals
      obtain ⟨_, _, hkey, -⟩ := bind_eq_ok h
      exact absurd hkey (Fails.want _ _ _)
  · rintro ⟨x, hspelled, hkey, hfree, rfl⟩
    cases hspelled with
    | component => cases hkey
    | value hl hname => exact option_value_iff.mpr ⟨_, _, .value hl hname, hfree, rfl⟩
    | isPrivate => exact option_privateConstructor_iff.mpr ⟨_, .isPrivate, hfree, rfl⟩
    | privateConstructor =>
      exact option_privateConstructor_iff.mpr ⟨_, .privateConstructor, hfree, rfl⟩
    | check hl hname => exact option_check_iff.mpr ⟨_, .check hl hname, hfree, rfl⟩
    | crate hl hpath => exact option_crate_iff.mpr ⟨_, .crate hl hpath, hfree, rfl⟩

/-! ## Components -/

theorem mapError_taking_eq_ok_iff {α : Type} {f : Diagnostic → Diagnostic} {p : Reader α} {a : α}
    {taken : List Tree} :
    mapError f (taking p) c = .ok ((a, taken), next) ↔
      p c = .ok (a, next) ∧ taken = c.trees.take (c.trees.length - next.trees.length) := by
  have htaking : taking p c = (p c).bind fun r ↦
      .ok ((r.1, c.trees.take (c.trees.length - r.2.trees.length)), r.2) := rfl
  rw [mapError, htaking]
  cases p c with
  | error d => simp [Except.bind, Except.mapError]
  | ok r =>
    obtain ⟨b, after⟩ := r
    simp only [Except.bind, Except.mapError, Except.ok.injEq, Prod.mk.injEq]
    constructor
    · rintro ⟨⟨rfl, rfl⟩, rfl⟩
      exact ⟨⟨rfl, rfl⟩, rfl⟩
    · rintro ⟨⟨rfl, rfl⟩, rfl⟩
      exact ⟨⟨rfl, rfl⟩, rfl⟩

theorem startsComponent_cons (n : String) (s colon : Span) (joined : Bool) (ts : List Tree) :
    startsComponent (.word n s :: .mark ':' joined colon :: ts) =
      (isName n && !Ahead.operator "::" (.mark ':' joined colon :: ts)) := by
  have hcolon : Ahead.operator ":" (.mark ':' joined colon :: ts) = true :=
    Ahead.operator_cons_mark rfl ..
  show (isName n && Ahead.operator ":" (.mark ':' joined colon :: ts) && _) = _
  rw [hcolon, Bool.and_true]
  rfl

/-- A component alone. -/
theorem component_eq_ok_iff {x : Component} :
    startsComponent ts = true ∧
        component ⟨ts, .nowhere, none⟩ = .ok (x, ⟨[], .nowhere, none⟩) ↔
      (MarkerEntry.component x).Spelled ts := by
  constructor
  · rintro ⟨hstarts, h⟩
    obtain ⟨⟨n, s⟩, ⟨trees, scope, leftover⟩, hname, hafter⟩ := bind_eq_ok h
    obtain ⟨hn, hc⟩ := name_eq_ok_iff.mp hname
    obtain ⟨⟨⟩, ⟨trees', scope', leftover'⟩, hcolon, hty⟩ := bind_eq_ok hafter
    obtain ⟨joined, colon, hc'⟩ := (operator_eq_ok_iff ':' rfl).mp hcolon
    cases hc'
    cases hc
    obtain ⟨⟨ty, taken⟩, next, hty, hx⟩ := bind_eq_ok hty
    cases hx
    obtain ⟨hty, htaken⟩ := mapError_taking_eq_ok_iff.mp hty
    obtain rfl : taken = trees' := by simpa using htaken
    rw [startsComponent_cons, hn, Bool.true_and, Bool.not_eq_true'] at hstarts
    exact .component hn hstarts ((run_eq_ok_iff shrinks_type).mpr hty)
  · intro hspelled
    cases hspelled with
    | @component n s colon joined trees ty hname hcolon hty =>
      refine ⟨?_, ?_⟩
      · rw [startsComponent_cons, hname, hcolon]
        rfl
      · have hty := (run_eq_ok_iff shrinks_type).mp hty
        have htaken : mapError (fun d ↦ ⟨.componentType n, d.span⟩) (taking type)
            ⟨trees, .nowhere, none⟩ = .ok ((ty, trees), ⟨[], .nowhere, none⟩) :=
          mapError_taking_eq_ok_iff.mpr ⟨hty, by simp⟩
        rw [component, bind_apply (name_apply hname ..)]
        dsimp only
        rw [bind_apply (operator_apply ':' rfl ..), bind_apply htaken]
        rfl

/-- An option is not taken for a component. -/
theorem startsComponent_option {x : MarkerEntry} (h : x.Spelled ts) (hkey : x.key?.isSome = true) :
    startsComponent ts = false := by
  cases h with
  | component => cases hkey
  | isPrivate => simp [startsComponent, Ahead.operator]
  | value | privateConstructor | check | crate =>
    simp [startsComponent, Ahead.operator, Ahead.marks_cons_mark]

/-- **An entry alone is read if it is spelled and sets no option that is set already.** -/
theorem entry_eq_ok_iff :
    entry e ⟨ts, .nowhere, none⟩ = .ok (e', ⟨[], .nowhere, none⟩) ↔
      ∃ x : MarkerEntry, x.Spelled ts ∧ e.Free x ∧ e' = e.add x := by
  rw [entry, bind_apply (rfl : sees _ _ = _)]
  dsimp only
  constructor
  · intro h
    split at h
    · next hstarts =>
      obtain ⟨x, next, hx, h⟩ := bind_eq_ok h
      cases h
      exact ⟨.component x, component_eq_ok_iff.mp ⟨hstarts, hx⟩, trivial, rfl⟩
    · obtain ⟨x, hspelled, -, hfree, rfl⟩ := option_eq_ok_iff.mp h
      exact ⟨x, hspelled, hfree, rfl⟩
  · rintro ⟨x, hspelled, hfree, rfl⟩
    cases hkey : x.key?.isSome with
    | true =>
      rw [if_neg (Bool.eq_false_iff.mp (startsComponent_option hspelled hkey))]
      exact option_eq_ok_iff.mpr ⟨x, hspelled, hkey, hfree, rfl⟩
    | false =>
      cases x with
      | component x =>
        obtain ⟨hstarts, hx⟩ := component_eq_ok_iff.mpr hspelled
        rw [if_pos hstarts, bind_apply hx]
        rfl
      | value | privateConstructor | check | crate => cases hkey

/-! ## What comes after an entry -/

theorem takesFront_textLiteral : TakesFront textLiteral := by
  rintro c ⟨l, place⟩ next h
  obtain ⟨text, hl, rfl⟩ := textLiteral_eq_ok_iff.mp h
  exact ⟨[.literal text place], List.cons_ne_nil _ _, rfl, rfl, fun more scope leftover ↦
    textLiteral_eq_ok_iff.mpr ⟨text, hl, rfl⟩⟩

theorem takesFront_truthLiteral : TakesFront truthLiteral := by
  rintro c flag next h
  obtain ⟨s, rfl⟩ := truthLiteral_eq_ok_iff.mp h
  exact ⟨[.word (toString flag) s], List.cons_ne_nil _ _, rfl, rfl, fun more scope leftover ↦
    truthLiteral_apply flag scope leftover⟩

section

variable {k : Ending} {inner : Bool} {most : Nat}

theorem follows_optionText (key : String) (s : Span) :
    Follows k inner most (optionText key s) (optionText key s) := by
  refine .bind (.sees (Ahead.operator_blind (by decide))) fun _ ↦ .ite ?_ (.never (.fail _ _))
  exact .bind (follows_operator (by decide)) fun _ ↦ takesFront_textLiteral.follows

theorem follows_setOnce {α : Type} (slot : Option α) (a : α) (key : String) (s : Span) :
    Follows k inner most (setOnce slot a key s) (setOnce slot a key s) :=
  .ite (.never (.fail _ _)) (.pure _)

theorem follows_option (e : Entries) : Follows k inner most (option e) (option e) := by
  refine .bind takesFront_anyWord.follows fun (key, s) ↦ ?_
  dsimp only
  refine .ite (.bind (follows_optionText _ _) fun (l, place) ↦ ?_) ?_
  · dsimp only
    cases propertyName l.value with
    | error p => exact .never (.fail _ _)
    | ok name => exact .bind (follows_setOnce _ _ _ _) fun _ ↦ .pure _
  refine .ite (.bind (.operator? "=" (by decide) (by decide)) fun _ ↦ ?_) ?_
  · refine .iteBind takesFront_truthLiteral.follows (.pure _) fun _ ↦ ?_
    exact .bind (follows_setOnce _ _ _ _) fun _ ↦ .pure _
  refine .ite (.bind (follows_optionText _ _) fun (l, place) ↦ ?_) ?_
  · dsimp only
    cases readText name l place with
    | error p => exact .never (.fail _ _)
    | ok name => exact .bind (follows_setOnce _ _ _ _) fun _ ↦ .pure _
  refine .ite (.bind (follows_optionText _ _) fun (l, place) ↦ ?_) (.never (.fail _ _))
  · dsimp only
    cases readText path l place with
    | error p => exact .never (.fail _ _)
    | ok path => exact .bind (follows_setOnce _ _ _ _) fun _ ↦ .pure _

theorem startsComponent_blind : Blind k inner startsComponent := by
  have hcolon : Blind k inner fun ts ↦ Ahead.name ts && Ahead.operator ":" (ts.drop 1) :=
    .andDrop Ahead.name_blind Ahead.name_asks (Ahead.operator_blind (by decide))
  refine hcolon.andDrop (g := fun ts ↦ !Ahead.operator "::" ts) Ahead.name_asks.and (.not ?_)
  exact Ahead.operator_blind (by decide)

/-- What entry is read does not depend on what comes after it. -/
theorem follows_entry (e : Entries) : Follows k inner most (entry e) (entry e) := by
  refine .bind (.sees startsComponent_blind) fun _ ↦ .ite (.bind ?_ fun _ ↦ .pure _) ?_
  · exact .bind takesFront_name.follows fun (_, _) ↦ .bind (follows_operator (by decide)) fun _ ↦
      .bind (.mapError _ (.taking follows_type)) fun (_, _) ↦ .pure _
  · exact follows_option e

end

end Grammar

end TypedIds
