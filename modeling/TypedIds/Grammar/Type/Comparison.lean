import TypedIds.Grammar.Type

/-!
# Comparing types

Two types are taken for the same by their form, since names are not resolved.  A path is the same as
another one that ends in it, so that `Uuid` is the same as `uuid::Uuid`; parentheses and lifetimes
of references do not count; whatever else there is has to agree as a text.
-/

set_option autoImplicit false

namespace TypedIds.Ty

/-- Whether one of two lists is a part at the end of the other. -/
def endsAlike (xs ys : List String) : Bool := xs.isSuffixOf ys || ys.isSuffixOf xs

/-- The names of a path and their arguments, as texts. -/
def segmentTexts (front : List Segment) (last : Segment) : List String :=
  (front ++ [last]).map Segment.text

mutual

/-- Whether two types are the same by their form. -/
def same : Ty → Ty → Bool
  | .paren a, b => same a b
  | .path rooted front last, b =>
    match b.strip with
    | .path _ front' last' => endsAlike (segmentTexts front last) (segmentTexts front' last')
    | b => (Ty.path rooted front last).text == b.text
  | .tuple elems trailing, b =>
    match b.strip with
    | .tuple elems' _ => sameAll elems elems'
    | b => (Ty.tuple elems trailing).text == b.text
  | .reference lifetime isMut target, b =>
    match b.strip with
    | .reference _ isMut' target' => isMut == isMut' && same target target'
    | b => (Ty.reference lifetime isMut target).text == b.text
  | .qualified front last, b => (Ty.qualified front last).text == b.strip.text
  | .array elem length, b => (Ty.array elem length).text == b.strip.text
  | .slice elem, b => (Ty.slice elem).text == b.strip.text
  | .object isDyn bounds trailing, b => (Ty.object isDyn bounds trailing).text == b.strip.text
  | .other form code, b => (Ty.other form code).text == b.strip.text

/-- Whether two lists hold the same types. -/
def sameAll : List Ty → List Ty → Bool
  | [], [] => true
  | a :: as, b :: bs => same a b && sameAll as bs
  | _, _ => false

end

end TypedIds.Ty
