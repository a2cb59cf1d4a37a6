import TypedIds.Proofs.Marker.Surrounding
import TypedIds.Proofs.Marker.Typed

/-!
# Arguments that name another library

Two lists of arguments are the same but for the library if they differ in one entry, which is the
path of the library in both.  What comes before the entry is either made of entries or is nothing
that arguments can begin with; what comes after it may be anything.  Then both lists are read, or
neither is, and what they say is the same but for the path (`MarkerArgs.SameButCrate.read`).
-/

set_option autoImplicit false

namespace TypedIds

open MarkerEntry

theorem MarkerEntry.Spelled.isTextOption_crate {p : Path} {trees : List Tree}
    (h : (MarkerEntry.crate p).Spelled trees) : IsTextOption trees := by
  cases h with
  | crate => exact ⟨_, _, _, _, _, _, by decide, rfl⟩

namespace MarkerArgs

/-- Two lists of arguments are the same, but the library is at `p` for one and at `q` for the
other. -/
inductive SameButCrate (p q : Path) : List Tree → List Tree → Prop
  | entry {front trees trees' back : List Tree} (hfront : BeforeEntry front)
      (hp : (MarkerEntry.crate p).Spelled trees) (hq : (MarkerEntry.crate q).Spelled trees') :
      SameButCrate p q (front ++ (trees ++ back)) (front ++ (trees' ++ back))

/-- The same arguments with another path of the library, which the type of UUIDs depends on. -/
def withCrate (kind : MarkerKind) (p : Path) (m : MarkerArgs) : MarkerArgs :=
  let options := { m.options with crate := p }
  { m with
    options
    components := if kind.isScalar then [scalarComponent kind options] else m.components }

theorem SameButCrate.symm {p q : Path} {args args' : List Tree} (h : SameButCrate p q args args') :
    SameButCrate q p args' args := by
  cases h with
  | entry hfront hp hq => exact .entry hfront hq hp

/-- What the second list says is said by the first one, with the other path. -/
theorem SameButCrate.read_eq_ok {kind : MarkerKind} {span : Span} {p q : Path} {m : MarkerArgs}
    {args args' : List Tree} (h : SameButCrate p q args args')
    (hm : MarkerArgs.read kind args' span = .ok m) :
    MarkerArgs.read kind args span = .ok (m.withCrate kind p) := by
  cases h with
  | entry hfront hp hq =>
    obtain ⟨x, others, hx, rfl, hreplace⟩ := exists_read_replace hfront hq.isTextOption_crate hm
    obtain rfl := hx.unique hq
    rw [hreplace _ _ hp.isTextOption_crate hp rfl, withCrate, ofInserted, ofInserted]
    cases kind.isScalar <;> rfl

/-- **What is read is the same but for the path.**  If one of the lists cannot be read, then neither
can the other. -/
theorem SameButCrate.read {p q : Path} {args args' : List Tree} (h : SameButCrate p q args args')
    (kind : MarkerKind) (span : Span) :
    (MarkerArgs.read kind args span).toOption =
      (MarkerArgs.read kind args' span).toOption.map (withCrate kind p) := by
  cases hm : MarkerArgs.read kind args' span with
  | ok m => rw [h.read_eq_ok hm]; rfl
  | error d =>
    cases hm' : MarkerArgs.read kind args span with
    | error d' => rfl
    | ok m => rw [h.symm.read_eq_ok hm'] at hm; cases hm

/-- The arguments say that the library is at the path they have. -/
theorem SameButCrate.crate_eq {kind : MarkerKind} {span : Span} {p q : Path} {m : MarkerArgs}
    {args args' : List Tree} (h : SameButCrate p q args args')
    (hm : MarkerArgs.read kind args span = .ok m) : m.options.crate = p := by
  have hback := h.read_eq_ok (h.symm.read_eq_ok hm)
  rw [hm] at hback
  rw [Except.ok.inj hback]
  rfl

/-- If the type of UUIDs can be read at their path, arguments that are read do not stop. -/
theorem SameButCrate.parse_eq {kind : MarkerKind} {p q : Path} {args args' : List Tree}
    (h : SameButCrate p q args args') (hp : p.Serves kind) (span : Span) :
    MarkerArgs.parse kind args span = .ok (MarkerArgs.read kind args span) := by
  cases hm : MarkerArgs.read kind args span with
  | error d => exact parse_eq_report_iff.mpr hm
  | ok m =>
    have htyped : m.IsTyped kind := by
      rw [IsTyped, h.crate_eq hm]
      exact hp
    exact parse_eq_ok_iff.mpr ⟨hm, htyped⟩

end MarkerArgs

end TypedIds
