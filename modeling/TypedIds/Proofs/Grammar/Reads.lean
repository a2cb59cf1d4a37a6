import TypedIds.Proofs.Grammar.Follows
import TypedIds.Proofs.Token.Lexed

/-!
# What is read from a text

A property of what a reader yields from trees as they are cut from a text.  What is left has to be
such trees again, and so has what was taken, since some readers keep that: a quote is never taken
without the literal that it stands before.

* `Reader.Reads` has a rule for each way of putting readers together, so that the property of a
  reader follows its definition.
* `Reader.ReadsFrom` is for readers that look at the trees before they pass over some of them.
* `Reader.ReadsSince` is for readers that may go back to where they started.
-/

set_option autoImplicit false

namespace TypedIds

/-- What holds of a value holds of all that is there. -/
theorem forall_mem_some {α : Type} {P : α → Prop} {a : α} (h : P a) : ∀ b ∈ some a, P b :=
  fun _ hb ↦ Option.some.inj hb ▸ h

/-- What is made of a value that has a property, if there is one. -/
theorem forall_mem_map {α β : Type} {P : α → Prop} {Q : β → Prop} {o : Option α} {f : α → β}
    (ho : ∀ a ∈ o, P a) (h : ∀ a, P a → Q (f a)) : ∀ b ∈ o.map f, Q b := by
  intro b hb
  obtain ⟨a, ha, rfl⟩ := Option.map_eq_some_iff.mp hb
  exact h a (ho a ha)

/-- What is left of some trees after others have been taken, a quote together with its literal. -/
def Tree.Leaves (ts left : List Tree) : Prop := ∃ taken, Lexed taken ∧ ts = taken ++ left

namespace Tree.Leaves

theorem refl (ts : List Tree) : Leaves ts ts := ⟨[], .nil, rfl⟩

theorem trans {ts mid left : List Tree} (h : Leaves ts mid) (h' : Leaves mid left) :
    Leaves ts left := by
  obtain ⟨taken, htaken, rfl⟩ := h
  obtain ⟨taken', htaken', rfl⟩ := h'
  exact ⟨taken ++ taken', htaken.append htaken', (List.append_assoc ..).symm⟩

theorem lexed {ts left : List Tree} (h : Leaves ts left) (hts : Lexed ts) : Lexed left := by
  obtain ⟨taken, -, rfl⟩ := h
  exact hts.of_suffix (List.suffix_append taken left)

/-- One tree that is no quote has been taken. -/
theorem one {t : Tree} {ts : List Tree} (h : Lexed (t :: ts))
    (hne : ∀ s, t ≠ .mark Text.singleQuote true s) : Leaves (t :: ts) ts :=
  ⟨[t], h.head hne, rfl⟩

end Tree.Leaves

/-- The tree that a word is found in. -/
theorem Ahead.exists_of_word {w : String} {ts : List Tree} (h : word w ts = true) :
    ∃ s more, ts = .word w s :: more := by
  rcases ts with _ | ⟨⟨v, s⟩ | _ | _ | _ | _, more⟩
  case cons.word =>
    obtain rfl := eq_of_beq h
    exact ⟨s, more, rfl⟩
  all_goals cases h

/-- The tree that a lifetime is found in. -/
theorem Ahead.exists_of_lifetime {ts : List Tree} (h : lifetime ts = true) :
    ∃ n q s more, ts = .lifetime n q s :: more := by
  rcases ts with _ | ⟨_ | ⟨n, q, s⟩ | _ | _ | _, more⟩
  case cons.lifetime => exact ⟨n, q, s, more, rfl⟩
  all_goals cases h

namespace Reader

open TypedIds.Tree (Lexed Leaves)

variable {α β : Type} {P : α → Prop} {Q : β → Prop} {p : Reader α} {f : α → Reader β}

/-- What a reader yields from trees as they are cut from a text has a property. -/
def Reads (P : α → Prop) (p : Reader α) : Prop :=
  ∀ c a next, Lexed c.trees → p c = .ok (a, next) → P a ∧ Leaves c.trees next.trees

/-- What a reader yields from these trees has a property. -/
def ReadsFrom (ts : List Tree) (P : α → Prop) (p : Reader α) : Prop :=
  ∀ c a next, c.trees = ts → p c = .ok (a, next) → P a ∧ Leaves ts next.trees

/-- What a reader yields after it has read from `start` on has a property. -/
def ReadsSince (start : Cursor) (P : α → Prop) (p : Reader α) : Prop :=
  ∀ c a next, Leaves start.trees c.trees → p c = .ok (a, next) →
    P a ∧ Leaves start.trees next.trees

/-! ## Rules -/

namespace Reads

theorem pure {a : α} (h : P a) : Reads P (pure a) := by
  intro c b next _ hb
  obtain ⟨rfl, rfl⟩ := Prod.mk.inj (Except.ok.inj hb)
  exact ⟨h, .refl _⟩

theorem fails (h : Fails p) : Reads P p := fun c _ _ _ hp ↦ absurd hp (h c _)

theorem want (ws : List Wanted) : Reads P (want ws) := fails (.want ws)

theorem fail (problem : Problem) (s : Span) : Reads P (fail problem s) := fails (.fail problem s)

/-- A loop without rounds. -/
theorem noRounds : Reads P (do Reader.fail .tooDeep (← here)) := fails (.bind fun _ ↦ .fail _ _)

/-- A property that holds of the result whatever the trees are. -/
theorem of_yields {P' : α → Prop} (hp : Reads P' p) (h : Yields P p) : Reads P p :=
  fun c a next hc ha ↦ ⟨h c a next ha, (hp c a next hc ha).2⟩

theorem weaken {P' : α → Prop} (hp : Reads P p) (h : ∀ a, P a → P' a) : Reads P' p := by
  intro c a next hc ha
  obtain ⟨hP, hleaves⟩ := hp c a next hc ha
  exact ⟨h a hP, hleaves⟩

theorem and {P' : α → Prop} (hp : Reads P p) (hp' : Reads P' p) : Reads (fun a ↦ P a ∧ P' a) p :=
  fun c a next hc ha ↦
    ⟨⟨(hp c a next hc ha).1, (hp' c a next hc ha).1⟩, (hp c a next hc ha).2⟩

theorem bind (hp : Reads P p) (hf : ∀ a, P a → Reads Q (f a)) : Reads Q (p >>= f) := by
  intro c b next hc h
  obtain ⟨a, mid, ha, hb⟩ := bind_eq_ok h
  obtain ⟨hP, hmid⟩ := hp c a mid hc ha
  obtain ⟨hQ, hnext⟩ := hf a hP mid b next (hmid.lexed hc) hb
  exact ⟨hQ, hmid.trans hnext⟩

/-- What is read first does not matter. -/
theorem andThen (hp : Reads P p) (hf : ∀ a, Reads Q (f a)) : Reads Q (p >>= f) :=
  bind hp fun a _ ↦ hf a

/-- A result that is only given a name. -/
theorem pureBind {a : α} (hf : Reads Q (f a)) : Reads Q (Pure.pure a >>= f) := hf

/-- The property of what is made of a result. -/
theorem map {g : α → β} (hp : Reads P p) (h : ∀ a, P a → Q (g a)) :
    Reads Q (do return g (← p)) :=
  bind hp fun a ha ↦ pure (h a ha)

/-- What is there, of a reader that may yield nothing elsewhere. -/
theorem mapSome (hp : Reads P p) : Reads (fun o ↦ ∀ a ∈ o, P a) (some <$> p) := by
  rw [map_eq_pure_bind]
  exact hp.map fun _ ha ↦ forall_mem_some ha

theorem ite {c : Prop} [Decidable c] {q : Reader α} (hp : Reads P p) (hq : Reads P q) :
    Reads P (if c then p else q) := by
  split
  · exact hp
  · exact hq

/-- A choice between two readers before the same continuation. -/
theorem iteBind {c : Prop} [Decidable c] {q : Reader α} (hp : Reads P p) (hq : Reads P q)
    (hf : ∀ a, P a → Reads Q (f a)) : Reads Q (if c then p >>= f else q >>= f) :=
  ite (bind hp hf) (bind hq hf)

/-- Something that is read in one case before what is read anyway. -/
theorem onlyIf {γ : Type} {R : γ → Prop} {c : Prop} [Decidable c] {q : Reader γ}
    {k : Reader β} (hq : Reads R q) (hk : Reads Q k) :
    Reads Q (if c then q >>= fun _ ↦ k else k) :=
  ite (andThen hq fun _ ↦ hk) hk

/-- What is made of a result in one case is given in the other one. -/
theorem optional {γ : Type} {R : γ → Prop} {c : Prop} [Decidable c] {q : Reader γ} {g : γ → α}
    {d : α} (hq : Reads R q) (hg : ∀ x, R x → P (g x)) (hd : P d)
    (hf : ∀ a, P a → Reads Q (f a)) :
    Reads Q (if c then q >>= fun x ↦ Pure.pure (g x) >>= f else Pure.pure d >>= f) :=
  ite (bind hq fun x hx ↦ pureBind (hf (g x) (hg x hx))) (pureBind (hf d hd))

theorem ofRest {f : List Tree → Reader β} (hf : ∀ ts, Reads Q (f ts)) : Reads Q (rest >>= f) :=
  fun c ↦ hf c.trees c

theorem ofSees {test : List Tree → Bool} {f : Bool → Reader β} (hf : ∀ found, Reads Q (f found)) :
    Reads Q (sees test >>= f) :=
  fun c ↦ hf (test c.trees) c

theorem ofHere {f : Span → Reader β} (hf : ∀ s, Reads Q (f s)) : Reads Q (here >>= f) :=
  fun c ↦ hf _ c

/-- A choice by the trees that have not been read. -/
theorem ofTrees {f : List Tree → Reader β} (hf : ∀ ts, Lexed ts → ReadsFrom ts Q (f ts)) :
    Reads Q (rest >>= f) :=
  fun c b next hc h ↦ hf c.trees hc c b next rfl h

/-- A choice by a test of the trees that have not been read. -/
theorem ofTest {test : List Tree → Bool} {f : Bool → Reader β}
    (hf : ∀ ts, Lexed ts → ReadsFrom ts Q (f (test ts))) : Reads Q (sees test >>= f) :=
  fun c b next hc h ↦ hf c.trees hc c b next rfl h

/-- A reader that may go back to where it started. -/
theorem ofGet {f : Cursor → Reader β}
    (hf : ∀ start, Lexed start.trees → ReadsSince start Q (f start)) : Reads Q (get >>= f) :=
  fun c b next hc h ↦ hf c hc c b next (.refl _) h

end Reads

namespace ReadsFrom

variable {ts : List Tree}

theorem of_reads (h : Reads P p) (hts : Lexed ts) : ReadsFrom ts P p := by
  rintro c a next rfl
  exact h c a next hts

theorem and {P' : α → Prop} (hp : ReadsFrom ts P p) (hp' : ReadsFrom ts P' p) :
    ReadsFrom ts (fun a ↦ P a ∧ P' a) p :=
  fun c a next hc ha ↦
    ⟨⟨(hp c a next hc ha).1, (hp' c a next hc ha).1⟩, (hp c a next hc ha).2⟩

theorem ofRest {f : List Tree → Reader β} (hf : ReadsFrom ts Q (f ts)) :
    ReadsFrom ts Q (rest >>= f) := by
  rintro c b next rfl h
  exact hf c b next rfl h

theorem ofTest {test : List Tree → Bool} {f : Bool → Reader β} (hf : ReadsFrom ts Q (f (test ts))) :
    ReadsFrom ts Q (sees test >>= f) := by
  rintro c b next rfl h
  exact hf c b next rfl h

theorem ofHere {f : Span → Reader β} (hf : ∀ s, ReadsFrom ts Q (f s)) :
    ReadsFrom ts Q (here >>= f) :=
  fun c ↦ hf _ c

/-- A reader that takes nothing from these trees. -/
theorem skip {a : α} (hp : ∀ c, c.trees = ts → p c = .ok (a, c)) (hf : ReadsFrom ts Q (f a)) :
    ReadsFrom ts Q (p >>= f) := by
  intro c b next hc h
  rw [bind_apply (hp c hc)] at h
  exact hf c b next hc h

/-- Some of the trees are passed over at the end. -/
theorem dropped {n : Nat} (h : Leaves ts (ts.drop n)) :
    ReadsFrom ts (fun _ ↦ True) (Reader.drop n) := by
  rintro c a next rfl hdrop
  cases hdrop
  exact ⟨trivial, h⟩

theorem bind (hts : Lexed ts) (hp : ReadsFrom ts P p) (hf : ∀ a, P a → Reads Q (f a)) :
    ReadsFrom ts Q (p >>= f) := by
  rintro c b next rfl h
  obtain ⟨a, mid, ha, hb⟩ := bind_eq_ok h
  obtain ⟨hP, hmid⟩ := hp c a mid rfl ha
  obtain ⟨hQ, hnext⟩ := hf a hP mid b next (hmid.lexed hts) hb
  exact ⟨hQ, hmid.trans hnext⟩

theorem taking (hp : ReadsFrom ts P p) : ReadsFrom ts (fun r ↦ P r.1 ∧ Lexed r.2) (taking p) := by
  rintro c r next rfl h
  obtain ⟨⟨a, mid⟩, ha, h⟩ := exists_of_bind_eq_ok h
  obtain ⟨rfl, rfl⟩ := Prod.mk.inj (Except.ok.inj h)
  obtain ⟨hP, taken, htaken, htrees⟩ := hp c a mid rfl ha
  refine ⟨⟨hP, ?_⟩, taken, htaken, htrees⟩
  rw [htrees, List.length_append, Nat.add_sub_cancel, List.take_left]
  exact htaken

/-- Some of the trees are passed over. -/
theorem drop (front : List Tree) {f : Unit → Reader β} (hts : Lexed (front ++ ts))
    (hfront : Lexed front) (hf : Reads Q (f ())) :
    ReadsFrom (front ++ ts) Q (Reader.drop front.length >>= f) := by
  rintro ⟨_, scope, leftover⟩ b next rfl h
  have hleaves : Leaves (front ++ ts) ts := ⟨front, hfront, rfl⟩
  have hdrop : Reader.drop front.length ⟨front ++ ts, scope, leftover⟩ =
      .ok ((), ⟨ts, scope, leftover⟩) := by rw [Reader.drop, List.drop_left]
  rw [bind_apply hdrop] at h
  obtain ⟨hQ, hnext⟩ := hf _ b next (hleaves.lexed hts) h
  exact ⟨hQ, hleaves.trans hnext⟩

/-- A tree that is no quote is passed over. -/
theorem dropOne {t : Tree} {f : Unit → Reader β} (hts : Lexed (t :: ts))
    (hne : ∀ s, t ≠ .mark Text.singleQuote true s) (hf : Reads Q (f ())) :
    ReadsFrom (t :: ts) Q (Reader.drop 1 >>= f) :=
  drop [t] hts (hts.head hne) hf

theorem ite {c : Prop} [Decidable c] {q : Reader α} (hp : c → ReadsFrom ts P p)
    (hq : ¬c → ReadsFrom ts P q) : ReadsFrom ts P (if c then p else q) := by
  split
  next h => exact hp h
  next h => exact hq h

/-- Only the other reader goes by what these trees are. -/
theorem orElse {c : Prop} [Decidable c] {q : Reader α} (hts : Lexed ts) (hp : Reads P p)
    (hq : ¬c → ReadsFrom ts P q) : ReadsFrom ts P (if c then p else q) :=
  ite (fun _ ↦ of_reads hp hts) hq

/-- A word that has been seen is passed over before what is read anyway. -/
theorem dropWord {c : Prop} [Decidable c] {w : String} {f : Unit → Reader β} (hts : Lexed ts)
    (hseen : c → Ahead.word w ts = true) (hf : Reads Q (f ())) :
    ReadsFrom ts Q (if c then Reader.drop 1 >>= f else f ()) := by
  refine ite (fun h ↦ ?_) fun _ ↦ of_reads hf hts
  obtain ⟨s, more, rfl⟩ := Ahead.exists_of_word (hseen h)
  exact dropOne hts nofun hf

end ReadsFrom

namespace ReadsSince

variable {start : Cursor}

theorem of_reads (hstart : Lexed start.trees) (h : Reads P p) : ReadsSince start P p := by
  intro c a next hc ha
  obtain ⟨hP, hnext⟩ := h c a next (hc.lexed hstart) ha
  exact ⟨hP, hc.trans hnext⟩

theorem bind (hstart : Lexed start.trees) (hp : Reads P p)
    (hf : ∀ a, P a → ReadsSince start Q (f a)) : ReadsSince start Q (p >>= f) := by
  intro c b next hc h
  obtain ⟨a, mid, ha, hb⟩ := bind_eq_ok h
  obtain ⟨hP, hmid⟩ := hp c a mid (hc.lexed hstart) ha
  exact hf a hP mid b next (hc.trans hmid) hb

theorem ite {c : Prop} [Decidable c] {q : Reader α} (hp : ReadsSince start P p)
    (hq : ReadsSince start P q) : ReadsSince start P (if c then p else q) := by
  split
  · exact hp
  · exact hq

theorem ofRest {f : List Tree → Reader β} (hf : ∀ ts, ReadsSince start Q (f ts)) :
    ReadsSince start Q (rest >>= f) :=
  fun c ↦ hf c.trees c

/-- Going back to where it started. -/
theorem goBack {f : PUnit → Reader β} (hstart : Lexed start.trees) (hf : Reads Q (f ())) :
    ReadsSince start Q (set start >>= f) :=
  fun _ b next _ h ↦ hf start b next hstart h

end ReadsSince

/-! ## Tokens -/

/-- Trees that are marks and no quotes. -/
def AreMarks (ts : List Tree) : Prop := ∀ t ∈ ts, ∃ c joined s, t = .mark c joined s ∧ IsMark c

theorem AreMarks.lexed {ts : List Tree} (h : AreMarks ts) : Lexed ts := by
  induction ts with
  | nil => exact .nil
  | cons t ts ih =>
    obtain ⟨⟨c, joined, s, rfl, hc⟩, hts⟩ := List.forall_mem_cons.mp h
    exact .mark hc (ih hts)

/-- A reader takes marks that are no quotes. -/
def TakesMarks (p : Reader α) : Prop :=
  ∀ c a next, p c = .ok (a, next) → ∃ front, AreMarks front ∧ c.trees = front ++ next.trees

namespace TakesMarks

theorem bind (hp : TakesMarks p) (hf : ∀ a, TakesMarks (f a)) : TakesMarks (p >>= f) := by
  intro c b next h
  obtain ⟨a, mid, ha, hb⟩ := bind_eq_ok h
  obtain ⟨front, hfront, hc⟩ := hp c a mid ha
  obtain ⟨front', hfront', hmid⟩ := hf a mid b next hb
  refine ⟨front ++ front', fun t ht ↦ ?_, by rw [hc, hmid, List.append_assoc]⟩
  exact (List.mem_append.mp ht).elim (hfront t) (hfront' t)

theorem reads (hp : TakesMarks p) : Reads (fun _ ↦ True) p := by
  intro c a next _ h
  obtain ⟨front, hfront, hc⟩ := hp c a next h
  exact ⟨trivial, front, hfront.lexed, hc⟩

theorem taking (hp : TakesMarks p) : Reads (fun r ↦ AreMarks r.2) (taking p) := by
  intro c r next _ h
  obtain ⟨⟨a, mid⟩, ha, h⟩ := exists_of_bind_eq_ok h
  obtain ⟨rfl, rfl⟩ := Prod.mk.inj (Except.ok.inj h)
  obtain ⟨front, hfront, hc⟩ := hp c a mid ha
  refine ⟨?_, front, hfront.lexed, hc⟩
  rw [hc, List.length_append, Nat.add_sub_cancel, List.take_left]
  exact hfront

end TakesMarks

/-- The trees that an operator is found in. -/
theorem exists_areMarks {cs : List Char} (hcs : ∀ c ∈ cs, IsMark c) {ts : List Tree}
    (h : Ahead.marks cs ts = true) :
    ∃ front, AreMarks front ∧ ts = front ++ ts.drop cs.length := by
  induction cs generalizing ts with
  | nil => simp at h
  | cons c cs ih =>
    obtain ⟨hc, hcs⟩ := List.forall_mem_cons.mp hcs
    rcases ts with _ | ⟨_ | _ | _ | ⟨d, joined, s⟩ | _, ts⟩
    case cons.mark =>
      rw [Ahead.marks_cons_mark, Bool.and_eq_true, beq_iff_eq] at h
      obtain ⟨rfl, h⟩ := h
      have hmark : ∃ e j s', Tree.mark c joined s = .mark e j s' ∧ IsMark e :=
        ⟨c, joined, s, rfl, hc⟩
      cases cs with
      | nil => exact ⟨[.mark c joined s], List.forall_mem_singleton.mpr hmark, rfl⟩
      | cons e cs =>
        obtain h | h := Bool.or_eq_true_iff.mp h
        · cases h
        · obtain ⟨front, hfront, hts⟩ := ih hcs (Bool.and_eq_true_iff.mp h).2
          refine ⟨.mark c joined s :: front, List.forall_mem_cons.mpr ⟨hmark, hfront⟩, ?_⟩
          exact congrArg (.mark c joined s :: ·) hts
    all_goals simp [Ahead.marks_cons_of_ne] at h

theorem leaves_of_operator {op : String} {ts : List Tree} (h : Ahead.operator op ts = true)
    (hop : autoParam (IsOperator op) Rat.den_nz._autoParam) : Leaves ts (ts.drop op.length) := by
  obtain ⟨front, hfront, hts⟩ := exists_areMarks hop h
  exact ⟨front, hfront.lexed, String.length_toList ▸ hts⟩

/-- An operator that is there is read. -/
theorem readsFrom_operator? {op : String} {ts : List Tree} (h : Ahead.operator op ts = true)
    (hop : autoParam (IsOperator op) Rat.den_nz._autoParam) :
    ReadsFrom ts (fun found ↦ found = true) (operator? op) := by
  rintro c a next rfl ha
  rw [operator?, bind_apply (rfl : sees _ _ = _), h] at ha
  cases ha
  exact ⟨rfl, leaves_of_operator h hop⟩

theorem takesMarks_operator {op : String} (h : autoParam (IsOperator op) Rat.den_nz._autoParam) :
    TakesMarks (operator op) := by
  intro c a next hop
  rw [operator, bind_apply (rfl : sees _ _ = _)] at hop
  split at hop
  next hseen =>
    cases hop
    exact String.length_toList ▸ exists_areMarks h hseen
  next => exact absurd hop (Fails.bind (fun _ ↦ .fail _ _) _ _)

theorem reads_operator {op : String} (h : autoParam (IsOperator op) Rat.den_nz._autoParam) :
    Reads (fun _ ↦ True) (operator op) :=
  (takesMarks_operator h).reads

theorem reads_keyword (w : String) : Reads (fun _ ↦ True) (keyword w) := by
  intro c a next hc h
  rw [keyword, bind_apply (rfl : sees _ _ = _)] at h
  split at h
  next hseen =>
    obtain ⟨_ | ⟨⟨v, s⟩ | _ | _ | _ | _, ts⟩, scope, leftover⟩ := c
    case cons.word =>
      cases h
      exact ⟨trivial, .one hc fun _ h ↦ by cases h⟩
    all_goals cases hseen
  next => exact absurd h (Fails.want _ _ _)

theorem reads_anyWord : Reads (fun r ↦ IsWord r.1) anyWord := by
  rintro ⟨_ | ⟨⟨w, s⟩ | _ | _ | _ | _, ts⟩, scope, leftover⟩ a next hc h
  case cons.word =>
    cases h
    exact ⟨hc.isWord, .one hc nofun⟩
  all_goals exact absurd h (Fails.want _ _ _)

theorem reads_name : Reads (fun r ↦ IsWord r.1) name := by
  rintro ⟨_ | ⟨⟨w, s⟩ | _ | _ | _ | _, ts⟩, scope, leftover⟩ a next hc h
  case cons.word =>
    change (if isName w = true then _ else _ : Reader (String × Span)) _ = _ at h
    split at h
    · cases h
      exact ⟨hc.isWord, .one hc nofun⟩
    · cases h
  all_goals exact absurd h (Fails.want _ _ _)

theorem reads_lifetime : Reads IsWord lifetime := by
  rintro ⟨_ | ⟨_ | ⟨n, q, s⟩ | _ | _ | _, ts⟩, scope, leftover⟩ a next hc h
  case cons.lifetime =>
    cases h
    exact ⟨hc.isWord_lifetime, .one hc nofun⟩
  all_goals exact absurd h (Fails.want _ _ _)

theorem reads_lifetime? : Reads (fun o ↦ ∀ n ∈ o, IsWord n) lifetime? :=
  .ofSees fun _ ↦ .ite (reads_lifetime.map fun _ hn ↦ forall_mem_some hn) (.pure nofun)

theorem reads_group (d : Delimiter) (hp : Reads P p) : Reads P (group d p) := by
  intro c a next hc h
  obtain ⟨inner, s, ts, after, htrees, ha, rfl⟩ := group_eq_ok h
  rw [htrees] at hc ⊢
  exact ⟨(hp _ a after (hc.inner) ha).1, .one hc nofun⟩

theorem reads_anyGroup : Reads (fun r ↦ Lexed r.2) anyGroup := by
  rintro ⟨_ | ⟨_ | _ | _ | _ | ⟨d, inner, s⟩, ts⟩, scope, leftover⟩ a next hc h
  case cons.group =>
    cases h
    exact ⟨hc.inner, .one hc nofun⟩
  all_goals exact absurd h (Fails.want _ _ _)

theorem reads_takeAll : Reads Lexed takeAll := by
  rintro c a next hc h
  cases h
  exact ⟨hc, c.trees, hc, (List.append_nil _).symm⟩

/-! ## Readers of readers -/

namespace Reads

theorem taking (hp : Reads P p) : Reads (fun r ↦ P r.1 ∧ Lexed r.2) (taking p) :=
  fun c r next hc h ↦ ReadsFrom.taking (.of_reads hp hc) c r next rfl h

theorem after (hp : Reads P p) : Reads (fun r ↦ P r.1) (after p) := by
  intro c r next hc h
  obtain ⟨⟨a, mid⟩, ha, h⟩ := exists_of_bind_eq_ok h
  obtain ⟨rfl, rfl⟩ := Prod.mk.inj (Except.ok.inj h)
  exact ⟨(hp c a mid hc ha).1, .refl _⟩

theorem attempt (hp : Reads P p) : Reads (fun o ↦ ∀ a ∈ o, P a) (attempt p) := by
  intro c o next hc h
  rw [Reader.attempt] at h
  split at h
  next a mid ha =>
    cases h
    obtain ⟨hP, hleaves⟩ := hp c a _ hc ha
    exact ⟨forall_mem_some hP, hleaves⟩
  next =>
    cases h
    exact ⟨nofun, .refl _⟩

theorem ofOperator {op : String} {f : Unit → Reader β} (hf : Reads Q (f ()))
    (hop : autoParam (IsOperator op) Rat.den_nz._autoParam) : Reads Q (operator op >>= f) :=
  andThen (reads_operator hop) fun _ ↦ hf

theorem ofOperator? {op : String} {f : Bool → Reader β} (hf : ∀ found, Reads Q (f found))
    (hop : autoParam (IsOperator op) Rat.den_nz._autoParam) : Reads Q (operator? op >>= f) := by
  rw [operator?_bind]
  exact ofSees fun _ ↦ ite (ofOperator (hf true) hop) (hf false)

theorem ofKeyword {w : String} {f : Unit → Reader β} (hf : Reads Q (f ())) :
    Reads Q (keyword w >>= f) :=
  andThen (reads_keyword w) fun _ ↦ hf

theorem ofKeyword? {w : String} {f : Bool → Reader β} (hf : ∀ found, Reads Q (f found)) :
    Reads Q (keyword? w >>= f) := by
  rw [keyword?_bind]
  exact ofSees fun _ ↦ ite (ofKeyword (hf true)) (hf false)

theorem operator? {op : String} (hop : autoParam (IsOperator op) Rat.den_nz._autoParam) :
    Reads (fun _ ↦ True) (operator? op) := by
  rw [← bind_pure (Reader.operator? op)]
  exact ofOperator? (fun _ ↦ pure trivial) hop

theorem keyword? (w : String) : Reads (fun _ ↦ True) (keyword? w) := by
  rw [← bind_pure (Reader.keyword? w)]
  exact ofKeyword? fun _ ↦ pure trivial

/-- Items with separators between them. -/
theorem separated {separator : Reader Unit} {stop : List Tree → Bool}
    (hseparator : Reads (fun _ ↦ True) separator) (hitem : Reads P p) :
    Reads (fun r ↦ ∀ a ∈ r.1, P a) (separated separator stop p) := by
  refine ofRest fun ts ↦ ?_
  generalize ts.length + 1 = n
  induction n with
  | zero => exact noRounds
  | succ n ih =>
    refine ofSees fun stopped ↦ ite (pure nofun) (bind hitem fun a ha ↦ ?_)
    refine ofSees fun stopped ↦ ite (pure (List.forall_mem_singleton.mpr ha)) ?_
    refine andThen hseparator fun _ ↦ ih.map fun r hr ↦ ?_
    exact List.forall_mem_cons.mpr ⟨ha, hr⟩

theorem commaList (hitem : Reads P p) : Reads (fun r ↦ ∀ a ∈ r.1, P a) (commaList p) :=
  separated reads_operator hitem

/-- Items, one after the other. -/
theorem manyFor {go : List Tree → Bool} (hitem : Reads P p) (n : Nat) :
    Reads (fun as ↦ ∀ a ∈ as, P a) (manyFor go p n) := by
  induction n with
  | zero => exact noRounds
  | succ n ih =>
    refine ofSees fun more ↦ ite (bind hitem fun a ha ↦ ih.map fun as has ↦ ?_) (pure nofun)
    exact List.forall_mem_cons.mpr ⟨ha, has⟩

theorem many {go : List Tree → Bool} (hitem : Reads P p) :
    Reads (fun as ↦ ∀ a ∈ as, P a) (many go p) :=
  ofRest fun _ ↦ manyFor hitem _

end Reads

end Reader

end TypedIds
