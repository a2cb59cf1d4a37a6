import Mathlib.Data.List.Forall2
import Mathlib.Data.Option.Basic
import TypedIds.Proofs.Grammar.Signature
import TypedIds.Proofs.Hook.Callable
import TypedIds.Proofs.Marker.Args

/-!
# What a hook is recognised by

A hook is recognised by the shape of its types.  Redundant parentheses are no part of it, wherever
they stand; nor is it where the path of a `Result` begins, nor, for scalar identifiers, where the
path of the value begins.

* `Ty.ValueAlike`, `Ty.OutputAlike` — types that differ in nothing else.
* `Method.Alike` — functions that differ in nothing else.
* `Ty.AllRead.of_read` — the types of functions and components are types that are read, so their
  texts tell them apart.
* **`Hook.classify_congr`**: such functions are the same hook, or both none.
-/

set_option autoImplicit false

namespace TypedIds

/-! ## Questions about types without parentheses -/

namespace Ty

theorem isUnit_bare : ∀ t : Ty, t.bare.isUnit = t.strip.isUnit
  | .paren t => isUnit_bare t
  | .tuple elems _ => by cases elems <;> rfl
  | .path .. | .qualified .. | .reference .. | .array .. | .slice _ | .object .. | .other .. => rfl

theorem endsIn_bare (name : String) : ∀ t : Ty, t.bare.endsIn name = t.strip.endsIn name
  | .paren t => endsIn_bare name t
  | .path .. | .qualified .. | .tuple .. | .reference .. | .array .. | .slice _ | .object ..
  | .other .. => rfl

theorem argumentOf?_bare (name : String) :
    ∀ t : Ty, t.bare.argumentOf? name = t.strip.argumentOf? name
  | .paren t => argumentOf?_bare name t
  | .path .. | .qualified .. | .tuple .. | .reference .. | .array .. | .slice _ | .object ..
  | .other .. => rfl

/-- The elements of a tuple. -/
def elems? : Ty → Option (List Ty)
  | .tuple elems _ => some elems
  | _ => none

theorem elems?_bare : ∀ t : Ty, t.bare.elems? = t.strip.elems?.map bareAll
  | .paren t => elems?_bare t
  | .path .. | .qualified .. | .tuple .. | .reference .. | .array .. | .slice _ | .object ..
  | .other .. => rfl

theorem isUnit_of_hasArgument {t u : Ty} {name : String} (h : t.HasArgument name u) :
    t.isUnit = false := by
  obtain ⟨_, _, _, hlast⟩ := h
  cases t <;> first | rfl | cases hlast

/-! ## Types that are alike -/

/-- Two types differ by redundant parentheses, or, for a scalar identifier, by where a path
begins. -/
inductive ValueAlike (kind : MarkerKind) (t t' : Ty) : Prop where
  | bare (h : t.bare = t'.bare)
  | path {rooted rooted' : Bool} {front front' : List Segment} {last : Segment}
    (hkind : kind.isScalar = true) (ht : t.strip = .path rooted front last)
    (ht' : t'.strip = .path rooted' front' last)

/-- Two types that functions yield are alike as values, or each is a `Result` of one of two types
that are; where the path of the `Result` begins and what else it is given does not count. -/
inductive OutputAlike (kind : MarkerKind) (t t' : Ty) : Prop where
  | value (h : ValueAlike kind t t')
  | result {u u' : Ty} (hu : t.strip.HasArgument "Result" u)
    (hu' : t'.strip.HasArgument "Result" u') (h : ValueAlike kind u u')

variable {kind : MarkerKind} {t t' : Ty}

theorem ValueAlike.isUnit_eq (h : ValueAlike kind t t') : t.strip.isUnit = t'.strip.isUnit := by
  cases h with
  | bare h => rw [← isUnit_bare, ← isUnit_bare, h]
  | path _ ht ht' =>
    rw [ht, ht']
    rfl

theorem ValueAlike.endsIn_eq (h : ValueAlike kind t t') (name : String) :
    t.strip.endsIn name = t'.strip.endsIn name := by
  cases h with
  | bare h => rw [← endsIn_bare, ← endsIn_bare, h]
  | path _ ht ht' =>
    rw [ht, ht']
    rfl

theorem ValueAlike.argumentOf?_eq (h : ValueAlike kind t t') (name : String) :
    t.strip.argumentOf? name = t'.strip.argumentOf? name := by
  cases h with
  | bare h => rw [← argumentOf?_bare, ← argumentOf?_bare, h]
  | path _ ht ht' =>
    rw [ht, ht']
    rfl

theorem OutputAlike.isUnit_eq (h : OutputAlike kind t t') : t.strip.isUnit = t'.strip.isUnit := by
  cases h with
  | value h => exact h.isUnit_eq
  | result hu hu' => rw [isUnit_of_hasArgument hu, isUnit_of_hasArgument hu']

/-- What a function yields is a `Result` in both spellings or in none. -/
theorem OutputAlike.results (h : OutputAlike kind t t') :
    (∃ u u', t.strip.argumentOf? "Result" = some u ∧ t'.strip.argumentOf? "Result" = some u' ∧
      ValueAlike kind u u') ∨
    t.strip.argumentOf? "Result" = none ∧ t'.strip.argumentOf? "Result" = none ∧
      ValueAlike kind t t' := by
  cases h with
  | value h =>
    rw [← h.argumentOf?_eq "Result"]
    cases t.strip.argumentOf? "Result" with
    | none => exact .inr ⟨rfl, rfl, h⟩
    | some u => exact .inl ⟨u, u, rfl, rfl, .bare rfl⟩
  | result hu hu' h =>
    exact .inl ⟨_, _, argumentOf?_eq_some_iff.mpr hu, argumentOf?_eq_some_iff.mpr hu', h⟩

end Ty

/-- The parameters are alike. -/
inductive Param.Alike (kind : MarkerKind) : Param → Param → Prop where
  | receiver (code : Code) : Param.Alike kind (.receiver code) (.receiver code)
  | typed (attrs pattern : Code) {t t' : Ty} (h : t.ValueAlike kind t') :
    Param.Alike kind (.typed attrs pattern t) (.typed attrs pattern t')

/-- Two functions differ only in how the types of their parameters and what they yield are
written. -/
structure Method.Alike (kind : MarkerKind) (f f' : Method) : Prop where
  rest : ∃ params output, f' = { f with signature.params := params, signature.output := output }
  params : List.Forall₂ (Param.Alike kind) f.signature.params f'.signature.params
  output : Option.Rel (Ty.OutputAlike kind) f.signature.output f'.signature.output

/-- The types of components without parentheses. -/
def Component.bareTypes (cs : List Component) : List Ty := Ty.bareAll (cs.map Component.ty)

/-! ## Types that are compared with the components -/

/-- The type of a parameter that is no receiver. -/
def Param.ty? : Param → Option Ty
  | .typed _ _ t => some t
  | .receiver _ => none

/-- What is looked at of the type that a function yields: the type itself, and if it is a `Result`,
what this holds. -/
def Ty.outputs (t : Ty) : List Ty := t :: (t.strip.argumentOf? "Result").toList

/-- The types of a function that are compared with those of the components. -/
def Method.valueTypes (f : Method) : List Ty :=
  f.signature.params.filterMap Param.ty? ++ f.signature.output.toList.flatMap Ty.outputs

/-- The types of components and those that are compared with them, if any are, are types that are
read. -/
def Ty.AllRead (kind : MarkerKind) (cs : List Component) (ts : List Ty) : Prop :=
  kind = .combined → (∀ t ∈ ts, t.IsRead) ∧ ∀ c ∈ cs, c.ty.IsRead

theorem Ty.AllRead.mono {kind : MarkerKind} {cs : List Component} {ts us : List Ty}
    (h : Ty.AllRead kind cs ts) (hsub : us ⊆ ts) : Ty.AllRead kind cs us := by
  intro hkind
  obtain ⟨hts, hcs⟩ := h hkind
  exact ⟨fun t ht ↦ hts t (hsub ht), hcs⟩

/-- A function that is read as a member of a block, nested to any depth, from trees as they are cut
from texts. -/
def Method.IsRead (f : Method) : Prop :=
  ∃ (depth : Nat) (c next : Cursor),
    Tree.Lexed c.trees ∧ (Grammar.nestedTo depth).method c = .ok (f, next)

/-- The types of a function that is read are read. -/
theorem Method.IsRead.signature {f : Method} (h : f.IsRead) : f.signature.IsRead := by
  obtain ⟨depth, c, next, hlexed, hread⟩ := h
  have hr := Grammar.Nested.closed_nestedTo depth
  have hmethod : Reader.Reads (fun f : Method ↦ f.signature.IsRead)
      (Grammar.nestedTo depth).method :=
    .andThen hr.outerCode fun _ ↦ .andThen Grammar.reads_visibility fun _ ↦ .ofKeyword? fun _ ↦
      .bind (Grammar.isRead_signature depth) fun _ hs ↦ hr.body.map fun _ _ ↦ hs
  exact (hmethod c f next hlexed hread).1

theorem Signature.IsRead.valueTypes {f : Method} (h : f.signature.IsRead) :
    ∀ t ∈ f.valueTypes, t.IsRead := by
  obtain ⟨hparams, houtput⟩ := h
  intro t ht
  rw [Method.valueTypes, List.mem_append, List.mem_filterMap, List.mem_flatMap] at ht
  obtain ⟨p, hp, hpt⟩ | ⟨out, hout, hout'⟩ := ht
  · have hread := hparams p hp
    cases p with
    | receiver code => cases hpt
    | typed attrs pattern u =>
      obtain rfl := Option.some.inj hpt
      exact hread
  · have hread := houtput out (Option.mem_toList.mp hout)
    obtain rfl | hinner := List.mem_cons.mp hout'
    · exact hread
    · exact hread.argument (Option.mem_toList.mp hinner)

/-- **Nothing has to be asked of functions and components that are read.** -/
theorem Ty.AllRead.of_read {kind : MarkerKind} {f : Method} {args : List Tree} {span : Span}
    {m : MarkerArgs} (hf : f.signature.IsRead) (hargs : Tree.Lexed args)
    (hm : MarkerArgs.read kind args span = .ok m) : Ty.AllRead kind m.components f.valueTypes := by
  rintro rfl
  exact ⟨hf.valueTypes, MarkerArgs.isRead_of_read hargs hm⟩

/-- What is reached in types that are read is told apart by its text. -/
theorem Ty.AllRead.discernible {kind : MarkerKind} {cs : List Component} {ts : List Ty}
    (h : Ty.AllRead kind cs ts) (hkind : kind = .combined) {t : Ty} (ht : t ∈ ts) :
    ∀ c ∈ cs, t.Discernible c.ty := by
  intro c hc
  obtain ⟨hts, hcs⟩ := h hkind
  exact .of_telling (hts t ht).telling (hcs c hc).telling

/-- The elements of a tuple are reached in it. -/
theorem Ty.Discernible.of_elems? {t u : Ty} {elems : List Ty} (h : t.Discernible u)
    (helems : t.strip.elems? = some elems) : ∀ e ∈ elems, e.Discernible u := by
  intro e he v hv
  have hreached : v ∈ t.strip.reached := by
    cases ht : t.strip <;> rw [ht] at helems <;> cases helems
    exact List.mem_cons_of_mem _ (mem_reachedAll he hv)
  exact h v (reached_strip t ▸ hreached)

namespace Hook

variable {kind : MarkerKind} {cs cs' : List Component} {t t' : Ty}

theorem hasShape_combined (cs : List Component) (t : Ty) :
    hasShape .combined cs t =
      t.strip.elems?.any fun elems ↦ Ty.sameAll elems (cs.map Component.ty) := by
  simp only [Ty.sameAll_eq_zip, List.length_map, List.zip_map_right, List.all_map]
  rw [hasShape.eq_def]
  cases t.strip <;> rfl

/-- Types that are alike have both the shape of the value, or neither has. -/
theorem hasShape_congr (ht : t.ValueAlike kind t')
    (hcs : Component.bareTypes cs = Component.bareTypes cs')
    (h : kind = .combined → ∀ c ∈ cs, t.Discernible c.ty)
    (h' : kind = .combined → ∀ c ∈ cs', t'.Discernible c.ty) :
    hasShape kind cs t = hasShape kind cs' t' := by
  cases kind with
  | guid => exact ht.endsIn_eq "Uuid"
  | string => exact ht.endsIn_eq "String"
  | combined =>
    have hbare : t.bare = t'.bare := by
      cases ht with
      | bare h => exact h
      | path hkind => cases hkind
    have helems : t.strip.elems?.map Ty.bareAll = t'.strip.elems?.map Ty.bareAll := by
      rw [← Ty.elems?_bare, ← Ty.elems?_bare, hbare]
    rw [hasShape_combined, hasShape_combined]
    cases hes : t.strip.elems? with
    | none =>
      rw [hes, eq_comm, Option.map_none, Option.map_eq_none_iff] at helems
      rw [helems]
      rfl
    | some elems =>
      rw [hes, eq_comm, Option.map_some, Option.map_eq_some_iff] at helems
      obtain ⟨elems', hes', helems⟩ := helems
      rw [hes']
      refine Ty.sameAll_congr (fun e he u hu ↦ ?_) (fun e he u hu ↦ ?_) helems.symm hcs
      · obtain ⟨c, hc, rfl⟩ := List.mem_map.mp hu
        exact (h rfl c hc).of_elems? hes e he
      · obtain ⟨c, hc, rfl⟩ := List.mem_map.mp hu
        exact (h' rfl c hc).of_elems? hes' e he

theorem hasShape_strip (kind : MarkerKind) (cs : List Component) (t : Ty) :
    hasShape kind cs t.strip = hasShape kind cs t := by
  rw [hasShape.eq_def, hasShape.eq_def, Ty.strip_strip]

/-- Functions that yield types which are alike yield the same of a hook, or are both none. -/
theorem returnOf?_congr (ht : t.OutputAlike kind t')
    (hcs : Component.bareTypes cs = Component.bareTypes cs')
    (h : Ty.AllRead kind cs t.outputs) (h' : Ty.AllRead kind cs' t'.outputs) :
    returnOf? kind cs t = returnOf? kind cs' t' := by
  rw [returnOf?, returnOf?, ht.isUnit_eq]
  obtain ⟨u, u', hu, hu', halike⟩ | ⟨hu, hu', halike⟩ := ht.results
  · have hmem : u ∈ t.outputs := by simp [Ty.outputs, hu]
    have hmem' : u' ∈ t'.outputs := by simp [Ty.outputs, hu']
    have hshape := hasShape_congr halike hcs (h.discernible · hmem) (h'.discernible · hmem')
    simp only [hu, hu', halike.isUnit_eq, hshape]
  · have hshape := hasShape_congr halike hcs (h.discernible · List.mem_cons_self)
      (h'.discernible · List.mem_cons_self)
    simp only [hu, hu', hasShape_strip, hshape]

/-- The type of the only parameter, if there is one and no other. -/
def onlyType? : List Param → Option Ty
  | [.typed _ _ t] => some t
  | _ => none

/-- What a function with this output yields as a hook. -/
def outputOf? (kind : MarkerKind) (cs : List Component) : Option Ty → Option HookReturn
  | none => some .unit
  | some t => returnOf? kind cs t

/-- A function is no hook by what stands around its types. -/
def isExcluded (f : Method) : Bool :=
  !f.visibility.isEmpty || f.signature.hasReceiver || !f.signature.generics.isEmpty ||
    f.signature.isAsync || f.signature.variadic.isSome

theorem classify_eq (f : Method) :
    classify kind cs f =
      if isExcluded f then none
      else (onlyType? f.signature.params).bind fun t ↦
        if hasShape kind cs t then
          (outputOf? kind cs f.signature.output).map (⟨f.signature.name, ·⟩)
        else none := by
  rw [classify.eq_def, isExcluded]
  dsimp only
  congr 1
  rcases f.signature.params with _ | ⟨_ | _, _ | _⟩ <;> cases f.signature.output <;> rfl

theorem any_isReceiver_congr {ps ps' : List Param} (h : List.Forall₂ (Param.Alike kind) ps ps') :
    ps.any Param.isReceiver = ps'.any Param.isReceiver := by
  induction h with
  | nil => rfl
  | cons hp hps ih =>
    rw [List.any_cons, List.any_cons, ih]
    cases hp <;> rfl

theorem isExcluded_congr {f f' : Method} (h : f.Alike kind f') : isExcluded f = isExcluded f' := by
  obtain ⟨params, output, hrest⟩ := h.rest
  have hreceiver : f.signature.hasReceiver = f'.signature.hasReceiver :=
    any_isReceiver_congr h.params
  rw [isExcluded, isExcluded, hreceiver, hrest]

theorem name_congr {f f' : Method} (h : f.Alike kind f') :
    f.signature.name = f'.signature.name := by
  obtain ⟨params, output, hrest⟩ := h.rest
  rw [hrest]

theorem onlyType?_congr {ps ps' : List Param} (h : List.Forall₂ (Param.Alike kind) ps ps') :
    Option.Rel (Ty.ValueAlike kind) (onlyType? ps) (onlyType? ps') := by
  cases h with
  | nil => exact .none
  | cons hp hps =>
    cases hp with
    | receiver code => exact .none
    | typed attrs pattern ht =>
      cases hps with
      | nil => exact .some ht
      | cons => exact .none

theorem mem_valueTypes_of_onlyType? {f : Method} {t : Ty}
    (h : onlyType? f.signature.params = some t) : t ∈ f.valueTypes := by
  refine List.mem_append_left _ ?_
  rw [onlyType?.eq_def] at h
  split at h
  next hparams =>
    obtain rfl := Option.some.inj h
    simp [hparams, Param.ty?]
  next => cases h

/-- **A hook is recognised by shape alone.**  Functions that differ only in redundant parentheses,
around the types of parameters, what they yield, what a `Result` holds, elements of tuples or
whatever is reached through tuples and references, are the same hook, or both none; also if the
components differ in redundant parentheses.  It does not matter either where the path of a `Result`
begins, or where the path of the value does if the identifier is a scalar one. -/
theorem classify_congr {f f' : Method} (hf : f.Alike kind f')
    (hcs : Component.bareTypes cs = Component.bareTypes cs')
    (h : Ty.AllRead kind cs f.valueTypes) (h' : Ty.AllRead kind cs' f'.valueTypes) :
    classify kind cs f = classify kind cs' f' := by
  have houtput : outputOf? kind cs f.signature.output = outputOf? kind cs' f'.signature.output := by
    have hmem (g : Method) (t : Ty) (ht : g.signature.output = some t) :
        t.outputs ⊆ g.valueTypes := by simp [Method.valueTypes, ht]
    have hrel := hf.output
    generalize ho : f.signature.output = o, ho' : f'.signature.output = o' at hrel
    cases hrel with
    | none => rfl
    | some ht =>
      exact returnOf?_congr ht hcs (h.mono (hmem f _ ho)) (h'.mono (hmem f' _ ho'))
  have hinput := onlyType?_congr hf.params
  rw [classify_eq, classify_eq, isExcluded_congr hf, name_congr hf, houtput]
  congr 1
  generalize hp : onlyType? f.signature.params = p,
    hp' : onlyType? f'.signature.params = p' at hinput
  cases hinput with
  | none => rfl
  | some ht =>
    have hmem := mem_valueTypes_of_onlyType? hp
    have hmem' := mem_valueTypes_of_onlyType? hp'
    have hshape := hasShape_congr ht hcs (h.discernible · hmem) (h'.discernible · hmem')
    rw [Option.bind_some, Option.bind_some, hshape]

/-! ### A function in two spellings -/

/-- A path of one plain name. -/
def named (name : String) : Ty := (Path.ofNames false [] name).toTy

/-- `Result<t, Error>`, with names before it. -/
def resultOf (front : List String) (t : Ty) : Ty :=
  .path false (front.map fun n ↦ ⟨n, .none⟩)
    ⟨"Result", .angle false [.type t, .type (named "Error")] false⟩

/-- `fn check_value(v: t) -> out {}` -/
def takingValue (t out : Ty) : Method :=
  { looking with
    signature.params := [.typed [] [.word "v"] t]
    signature.output := some out }

/-- `(u8, String)` -/
def pair : Ty := .tuple [named "u8", named "String"] false

/-- `((u8, (String)))` -/
def wrappedPair : Ty := .paren (.tuple [named "u8", .paren (named "String")] false)

/-- `fn check_value(v: (u8, String)) -> Result<(u8, String), Error> {}` -/
def plainCheck : Method := takingValue pair (resultOf [] pair)

/-- `fn check_value(v: ((u8), ((String)))) -> (core::Result<((u8, (String))), Error>) {}` -/
def wrappedCheck : Method :=
  takingValue (.tuple [.paren (named "u8"), (named "String").wrapped 2] false)
    (.paren (resultOf ["core"] wrappedPair))

/-- A component without a place. -/
def unplaced (name : String) (t : Ty) : Component := ⟨name, t, .nowhere, .nowhere⟩

/-! ### Reading their types -/

theorem lexed_word {w : String} (hw : IsWord w) : Tree.Lexed [.word w .nowhere] :=
  .word hw.1 hw.2 .nil

theorem lexed_parens {ts : List Tree} (hts : Tree.Lexed ts) :
    Tree.Lexed [.group .parens ts .nowhere] := .group hts .nil

theorem lexed_comma {ts us : List Tree} (hts : Tree.Lexed ts) (hus : Tree.Lexed us) :
    Tree.Lexed (ts ++ .mark ',' false .nowhere :: us) := hts.append (.mark (by decide) hus)

/-- `Result<t, Error>`, the type `t` being that of the trees. -/
theorem lexed_result {ts : List Tree} (hts : Tree.Lexed ts) :
    Tree.Lexed (.word "Result" .nowhere :: .mark '<' false .nowhere :: ts ++
      [.mark ',' false .nowhere, .word "Error" .nowhere, .mark '>' false .nowhere]) :=
  lexed_comma ((lexed_word (by decide)).append (.mark (by decide) hts))
    ((lexed_word (by decide)).append (.mark (by decide) .nil))

theorem lexed_byte : Tree.Lexed [.word "u8" .nowhere] := lexed_word (by decide)

theorem lexed_string : Tree.Lexed [.word "String" .nowhere] := lexed_word (by decide)

/-- `name: t` -/
def nameAnd (name : String) (t : List Tree) : List Tree :=
  .word name .nowhere :: .mark ':' false .nowhere :: t

theorem lexed_nameAnd {name : String} {t : List Tree} (hname : IsWord name) (ht : Tree.Lexed t) :
    Tree.Lexed (nameAnd name t) := (lexed_word hname).append (.mark (by decide) ht)

/-- `fn check_value(v: param) -> out {}` -/
def checkTrees (param out : List Tree) : List Tree :=
  .word "fn" .nowhere :: .word functionName .nowhere ::
    .group .parens (nameAnd "v" param) .nowhere ::
    .mark '-' true .nowhere :: .mark '>' false .nowhere :: out ++ [.group .braces [] .nowhere]

theorem lexed_checkTrees {param out : List Tree} (hparam : Tree.Lexed param)
    (hout : Tree.Lexed out) : Tree.Lexed (checkTrees param out) :=
  .append (.word (by decide) (by decide) <| .word (by decide) (by decide) <|
    .group (lexed_nameAnd (by decide) hparam) <| .mark (by decide) <| .mark (by decide) hout)
    (.group .nil .nil)

theorem isRead_plainCheck : plainCheck.IsRead := by
  have hpair := lexed_parens (lexed_comma lexed_byte lexed_string)
  exact ⟨8, ⟨_, .nowhere, none⟩, _, lexed_checkTrees hpair (lexed_result hpair), by cbv⟩

theorem isRead_wrappedCheck : wrappedCheck.signature.IsRead := by
  have hpair := lexed_parens (lexed_parens (lexed_comma lexed_byte (lexed_parens lexed_string)))
  have hpath {ts : List Tree} (hts : Tree.Lexed ts) : Tree.Lexed
      (.word "core" .nowhere :: .mark ':' true .nowhere :: .mark ':' false .nowhere :: ts) :=
    (lexed_word (by decide)).append (.mark (by decide) (.mark (by decide) hts))
  have hparam : (Ty.tuple [.paren (named "u8"), (named "String").wrapped 2] false).IsRead :=
    .of_eight (lexed_parens
      (lexed_comma (lexed_parens lexed_byte) (lexed_parens (lexed_parens lexed_string)))) rfl
  have houtput : (Ty.paren (resultOf ["core"] wrappedPair)).IsRead :=
    .of_eight (lexed_parens (hpath (lexed_result hpair))) rfl
  exact ⟨List.forall_mem_singleton.mpr hparam, forall_mem_some houtput⟩

theorem read_named {w : String} (hw : isName w = true) :
    Grammar.type.run .nowhere [.word w .nowhere] = .ok (named w) :=
  Grammar.type_run_code (p := .ofName w) (List.forall_mem_singleton.mpr ⟨.inl hw, rfl⟩) rfl

theorem read_wrappedByte :
    Grammar.type.run .nowhere [.group .parens [.word "u8" .nowhere] .nowhere] =
      .ok (.paren (named "u8")) := by
  obtain ⟨n, hn⟩ := Grammar.exists_nested_eq
  rw [Grammar.type, hn]
  cbv

/-- `a: byte, b: String` -/
def componentTrees (byte : List Tree) : List Tree :=
  nameAnd "a" byte ++ .mark ',' false .nowhere :: nameAnd "b" [.word "String" .nowhere]

theorem lexed_componentTrees {byte : List Tree} (hbyte : Tree.Lexed byte) :
    Tree.Lexed (componentTrees byte) :=
  lexed_comma (lexed_nameAnd (by decide) hbyte) (lexed_nameAnd (by decide) lexed_string)

theorem read_componentTrees {byte : List Tree} {t : Ty}
    (hread : Grammar.type.run .nowhere byte = .ok t) (hspan : Tree.spanAll byte = .nowhere) :
    MarkerArgs.read .combined (componentTrees byte) .nowhere =
      .ok ⟨[unplaced "a" t, unplaced "b" (named "String")], .default, .nowhere⟩ := by
  have hbyte : (MarkerEntry.component ⟨"a", t, .nowhere, Tree.spanAll byte⟩).Spelled
      (nameAnd "a" byte) := .component rfl rfl hread
  rw [hspan] at hbyte
  have hstring : (MarkerEntry.component (unplaced "b" (named "String"))).Spelled
      (nameAnd "b" [.word "String" .nowhere]) := .component rfl rfl (read_named (by decide))
  exact MarkerArgs.read_iff_spelled.mpr
    ⟨_, .cons false .nowhere hbyte (.last hstring), .nil, nofun, rfl⟩

theorem classify_congr_plainCheck :
    plainCheck.Alike .combined wrappedCheck ∧
      classify .combined [unplaced "a" (named "u8"), unplaced "b" (named "String")] plainCheck =
        some ⟨functionName, .resultValue⟩ ∧
      classify .combined [unplaced "a" (.paren (named "u8")), unplaced "b" (named "String")]
        wrappedCheck = some ⟨functionName, .resultValue⟩ := by
  have hresult : (resultOf [] pair).strip.HasArgument "Result" pair := ⟨_, _, _, rfl⟩
  have hwrapped : (Ty.paren (resultOf ["core"] wrappedPair)).strip.HasArgument "Result"
      wrappedPair := ⟨_, _, _, rfl⟩
  have halike : plainCheck.Alike .combined wrappedCheck :=
    ⟨⟨_, _, rfl⟩, .cons (.typed _ _ (.bare rfl)) .nil, .some (.result hresult hwrapped (.bare rfl))⟩
  have hplain : classify .combined
      [unplaced "a" (named "u8"), unplaced "b" (named "String")] plainCheck =
        some ⟨functionName, .resultValue⟩ := by decide +kernel
  have hread := Ty.AllRead.of_read isRead_plainCheck.signature (lexed_componentTrees lexed_byte)
    (read_componentTrees (read_named (by decide)) rfl)
  have hread' := Ty.AllRead.of_read isRead_wrappedCheck
    (lexed_componentTrees (lexed_parens lexed_byte)) (read_componentTrees read_wrappedByte rfl)
  refine ⟨halike, hplain, ?_⟩
  rw [← hplain, eq_comm]
  exact classify_congr halike rfl hread hread'

end Hook

end TypedIds
