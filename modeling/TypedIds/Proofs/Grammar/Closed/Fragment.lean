import TypedIds.Grammar.Fragment
import TypedIds.Proofs.Grammar.Closed
import TypedIds.Proofs.Grammar.Path
import TypedIds.Proofs.Grammar.Reads

/-!
# Fragments are closed

The small pieces of declarations are written as closed code, since their words and literals are
those of the text.
-/

set_option autoImplicit false

namespace TypedIds

/-! ## Paths -/

/-- The name of a segment is a word, and the code of its arguments is closed. -/
structure Segment.Closed (s : Segment) : Prop where
  name : IsWord s.name
  args : s.args.code.Closed

/-- All segments of a path are closed. -/
def Path.Closed (p : Path) : Prop := ∀ s ∈ p.segments, s.Closed

theorem Args.closed_none : Args.none.code.Closed := by simpa [Args.code] using .nil

theorem Segment.Closed.ofName {n : String} (h : IsWord n) : (Segment.mk n .none).Closed :=
  ⟨h, Args.closed_none⟩

theorem Segment.Closed.code {s : Segment} (h : s.Closed) : s.code.Closed := by
  obtain ⟨n, args⟩ := s
  rw [Segment.code]
  exact .word h.args h.name.2

namespace Path

variable {p : Path}

theorem Closed.code (h : p.Closed) : p.code.Closed := by
  have hfront : (Segment.codeFront p.front).Closed :=
    Segment.closed_codeFront fun s hs ↦ (h s (List.mem_append_left _ hs)).code
  have hlast : p.last.code.Closed :=
    (h p.last (List.mem_append_right _ (List.mem_singleton_self _))).code
  rw [Path.code, Path.toTy, Ty.code]
  exact .append (.append (.ite .op .nil) hfront) hlast

theorem Closed.ofNames {rooted : Bool} {front : List String} {last : String}
    (hfront : ∀ n ∈ front, IsWord n) (hlast : IsWord last) :
    (ofNames rooted front last).Closed := by
  intro s hs
  rw [segments, List.mem_append, List.mem_singleton] at hs
  obtain hs | rfl := hs
  · obtain ⟨n, hn, rfl⟩ := List.mem_map.mp hs
    exact .ofName (hfront n hn)
  · exact .ofName hlast

end Path

namespace Grammar

open Reader
open TypedIds.Tree (Lexed)

/-! ## Words and literals -/

theorem reads_literal : Reads Code.Closed literal := by
  refine .ofTrees fun ts hts ↦ ?_
  split
  · exact .dropOne hts nofun (.pure (.literalToken hts.isPassed))
  · refine .ite (fun _ ↦ .dropOne hts nofun ?_) fun _ ↦ .of_reads (.want _) hts
    exact .pure (.wordToken hts.isWord.2)
  · refine .ite (fun _ ↦ ?_) fun _ ↦ .of_reads (.want _) hts
    refine .drop [.mark '-' _ _, .literal _ _] hts ?_ ?_
    · exact .mark (by decide) (hts.tail.head nofun)
    · exact .pure (.mark (.literalToken hts.tail.isPassed))
  · exact .of_reads (.want _) hts

theorem reads_keywordCode (w : String) (h : autoParam (IsPlainWord w) Rat.den_nz._autoParam) :
    Reads Code.Closed (keywordCode w) :=
  .ofKeyword (.pure (.wordToken h))

theorem reads_keywordCode? (w : String) (h : autoParam (IsPlainWord w) Rat.den_nz._autoParam) :
    Reads Code.Closed (keywordCode? w) :=
  .ofKeyword? fun _ ↦ .ite (.pure (.wordToken h)) (.pure .nil)

theorem reads_operatorCode? (op : String) (h : autoParam (IsOperator op) Rat.den_nz._autoParam) :
    Reads Code.Closed (operatorCode? op) :=
  .ofOperator? (fun _ ↦ .ite (.pure (.op h)) (.pure .nil)) h

theorem reads_semicolon : Reads Code.Closed semicolon := .ofOperator (.pure (.mark .nil))

theorem reads_abi : Reads Code.Closed abi := by
  have hextern : Code.Closed [.word "extern"] := .word .nil
  rw [abi_eq]
  refine .ofKeyword? fun _ ↦ .ite (.ofSees fun _ ↦ .ite (.ofTrees fun ts hts ↦ ?_) ?_) (.pure .nil)
  · split
    · exact .dropOne hts nofun (.pure (.append hextern (.literalToken hts.isPassed)))
    · exact .of_reads (.want _) hts
  · exact .pure hextern

theorem reads_lifetimeCode? : Reads Code.Closed lifetimeCode? := by
  refine .bind reads_lifetime? fun o ho ↦ ?_
  cases o with
  | none => exact .pure .nil
  | some l => exact .pure (.lifetimeToken (ho l rfl).1 (ho l rfl).2)

theorem reads_nameOrTry : Reads IsWord nameOrTry :=
  .ofSees fun _ ↦ .ite (reads_anyWord.map fun _ h ↦ h) (reads_name.map fun _ h ↦ h)

theorem reads_builtIn : Reads Code.Closed builtIn := by
  have htaken : Reads (fun _ ↦ True) (do
      keyword "builtin"
      operator "#"
      let _ ← name
      let _ ← group .parens takeAll) :=
    .ofKeyword (.ofOperator (.andThen reads_name fun _ ↦
      .andThen (reads_group _ reads_takeAll) fun _ ↦ .pure trivial))
  exact htaken.taking.map fun _ h ↦ .of_lexed h.2

/-! ## Plain paths -/

theorem reads_plainNames (n : Nat) : Reads (fun r ↦ ∀ w ∈ r.1, IsWord w) (plainNames n) := by
  induction n with
  | zero => exact .noRounds
  | succ n ih =>
    refine .ofRest fun ts ↦ .ite (.bind reads_anyWord fun (w, _) hw ↦ ?_) (.pure nofun)
    refine .ofOperator? fun _ ↦ .ite (.bind ih fun (ws, _) hws ↦ .pure ?_) (.pure ?_)
    · exact List.forall_mem_cons.mpr ⟨hw, hws⟩
    · exact List.forall_mem_singleton.mpr hw

theorem reads_plainPath : Reads Path.Closed plainPath := by
  refine .ofOperator? fun rooted ↦ .ofRest fun ts ↦ ?_
  refine .bind (reads_plainNames _) fun (names, trailing) hnames ↦ ?_
  dsimp only
  split
  · exact .andThen reads_name fun _ ↦ .ofHere fun _ ↦ .fail _ _
  next last front hreverse =>
    have hreverse : ∀ n ∈ last :: front, IsWord n :=
      fun n hn ↦ hnames n (List.mem_reverse.mp (hreverse ▸ hn))
    obtain ⟨hlast, hfront⟩ := List.forall_mem_cons.mp hreverse
    refine .ite (.fails (.bind fun _ ↦ .bind fun _ ↦ .fail _ _)) (.pure (.ofNames ?_ hlast))
    exact fun n hn ↦ hfront n (List.mem_reverse.mp hn)

/-! ## Macros -/

theorem reads_macroTrees : Reads (fun r ↦ r.2.Closed) macroTrees :=
  .bind reads_anyGroup fun _ h ↦ .pure (.within (.of_lexed h) _)

theorem reads_macroRest : Reads (fun r ↦ r.2.Closed) macroRest :=
  .ofOperator (.bind reads_macroTrees fun _ h ↦ .pure (.mark h))

/-! ## Visibility -/

theorem reads_scope : Reads (fun o ↦ ∀ c ∈ o, Code.Closed c) scope := by
  refine .ofRest fun ts ↦ .ite (.bind reads_anyWord fun (w, _) hw ↦ ?_) ?_
  · refine .ofSees fun _ ↦ .ite (.pure ?_) (.pure nofun)
    rintro _ ⟨⟩
    exact .wordToken hw.2
  · refine .ofKeyword? fun _ ↦ .ite (.bind reads_plainPath fun p hp ↦ .pure ?_) (.pure nofun)
    rintro _ ⟨⟩
    exact .word hp.code

theorem reads_visibility : Reads Code.Closed visibility := by
  have hpub : Code.Closed [.word "pub"] := .word .nil
  refine .ofKeyword? fun _ ↦ .ite (.ofSees fun _ ↦ .ite ?_ (.pure hpub)) (.pure .nil)
  refine .ofGet fun start hstart ↦ .bind hstart (reads_group _ reads_scope) fun o ho ↦ ?_
  cases o with
  | none => exact .goBack hstart (.pure hpub)
  | some code => exact .of_reads hstart (.pure (.word ((ho code rfl).within _)))

/-! ## Fields -/

theorem closed_indexCode (n : Nat) : (indexCode n).Closed := by
  refine .literalToken fun d ↦ Scan.IsOutside.run (Scan.isOutside_plain d) fun c hc ↦ ?_
  have hdigits : c ∈ Nat.toDigits 10 n := by simpa [toString, Nat.repr] using hc
  exact Scan.isPlain_of_isDigit (Nat.isDigit_of_mem_toDigits (by decide) (by decide) hdigits)

theorem reads_index (text : String) (negative : Bool) (s : Span) :
    Reads Code.Closed (index text negative s) := by
  rw [index]
  split
  · exact .pure (closed_indexCode _)
  · exact .fail _ _

theorem reads_fieldName : Reads (fun r ↦ r.1.Closed) fieldName := by
  refine .ofTrees fun ts hts ↦ ?_
  split
  · refine .ite (fun _ ↦ .dropOne hts nofun ?_) fun _ ↦ .of_reads (.want _) hts
    exact .pure (.wordToken hts.isWord.2)
  · refine .ite (fun _ ↦ .dropOne hts nofun ?_) fun _ ↦ .of_reads (.want _) hts
    exact (reads_index _ _ _).map fun _ h ↦ h
  · refine .ite (fun _ ↦ ?_) fun _ ↦ .of_reads (.want _) hts
    refine .drop [.mark '-' _ _, .literal _ _] hts ?_ ?_
    · exact .mark (by decide) (hts.tail.head nofun)
    · exact (reads_index _ _ _).map fun _ h ↦ h
  · exact .of_reads (.want _) hts

end Grammar

end TypedIds
