import TypedIds.Proofs.Generated.Constructor

/-!
# Hooks that can be called

The constructor of an identifier calls the hook of the type as `Self::name(…)`, with one argument.
It is a safe and synchronous function, and so are all functions of generated code, so not every
function can be called in that way: `Method.CallableWith` says which ones can.

* `Hook.callable_of_classify` — what is recognised as a hook can be called, if it is safe.
* `Generated.Scalar.ownCalls_new`, `Generated.Combined.ownCalls_new` — the constructor calls the
  hook once, with one argument, and no other function of the type.
* **`Hook.callable_iff_of_classify`**: whether a hook can be called depends on `unsafe` alone, which
  is the only part of a signature before the name that is not looked at.
-/

set_option autoImplicit false

namespace TypedIds

/-! ## Functions that can be called -/

/-- A safe and synchronous function of a type can call this one as `Self::name(…)` with as many
arguments, and no one outside of the module can. -/
structure Method.CallableWith (args : Nat) (f : Method) : Prop where
  isPrivate : f.visibility = []
  noReceiver : ∀ p ∈ f.signature.params, p.isReceiver = false
  params : f.signature.params.length = args
  notVariadic : f.signature.variadic = none
  notGeneric : f.signature.generics.params = []
  notAsync : f.signature.isAsync = false
  notUnsafe : f.signature.isUnsafe = false

/-- The function without `unsafe` before it. -/
def Method.safe (f : Method) : Method := { f with signature.isUnsafe := false }

theorem Method.callableWith_iff_safe {args : Nat} {f : Method} (h : f.safe.CallableWith args) :
    f.CallableWith args ↔ f.signature.isUnsafe = false := by
  constructor
  · intro hf
    exact hf.notUnsafe
  · intro hf
    have hsafe : f.safe = f := by rw [Method.safe, ← hf]
    rwa [hsafe] at h

namespace Hook

variable {kind : MarkerKind} {cs : List Component} {f : Method} {h : Hook}

/-- The hook that a function is has its name, and can be called with one argument, but for
`unsafe`. -/
theorem callable_of_classify (hf : classify kind cs f = some h) :
    h.name = f.signature.name ∧ f.safe.CallableWith 1 := by
  simp only [classify] at hf
  split at hf
  · cases hf
  next hform =>
    simp only [Bool.or_eq_true, Bool.not_eq_true', not_or, Bool.not_eq_false, Bool.not_eq_true,
      Option.isSome_eq_false_iff] at hform
    obtain ⟨⟨⟨⟨hvisibility, hreceiver⟩, hgenerics⟩, hasync⟩, hvariadic⟩ := hform
    split at hf
    next attrs pattern t hparams =>
      split at hf
      · obtain ⟨returns, -, rfl⟩ := Option.map_eq_some_iff.mp hf
        exact ⟨rfl, {
          isPrivate := List.isEmpty_iff.mp hvisibility
          noReceiver := by simpa [Signature.hasReceiver, Method.safe] using hreceiver
          params := by rw [Method.safe, hparams, List.length_singleton]
          notVariadic := Option.isNone_iff_eq_none.mp hvariadic
          notGeneric := List.isEmpty_iff.mp hgenerics
          notAsync := hasync
          notUnsafe := rfl }⟩
      · cases hf
    · cases hf

end Hook

/-! ## Hooks and their calls -/

namespace Hook

variable {kind : MarkerKind} {cs : List Component} {f : Method} {h : Hook}

/-- **Whether a hook can be called depends on `unsafe` alone.**  A function that is recognised as a
hook can be called with one argument if it has no `unsafe` before it, and only then; every other
reason why it could not be called makes it no hook.  The constructor of an identifier that has the
hook, scalar or combined, calls it by its name once, with one argument, and calls no other function
of the type. -/
theorem callable_iff_of_classify (hf : classify kind cs f = some h) :
    (f.CallableWith 1 ↔ f.signature.isUnsafe = false) ∧ f.safe.CallableWith 1 ∧
      h.name = f.signature.name ∧ ∀ d : Declaration, d.hook = some h →
        (Generated.Scalar.new d).ownCalls d.name = [(h.name, 1)] ∧
          (Generated.Combined.new d).ownCalls d.name = [(h.name, 1)] := by
  obtain ⟨hname, hsafe⟩ := callable_of_classify hf
  refine ⟨Method.callableWith_iff_safe hsafe, hsafe, hname, fun d hd ↦ ⟨?_, ?_⟩⟩
  · rw [Generated.Scalar.ownCalls_new, hd]
    rfl
  · rw [Generated.Combined.ownCalls_new, hd]
    rfl

/-- `fn check_value(v: Uuid) {}`. -/
def looking : Method where
  visibility := []
  signature := {
    isConst := false, isAsync := false, isUnsafe := false, abi := [], name := functionName
    generics := .none, params := [.typed [] [.word "v"] (.path false [] ⟨"Uuid", .none⟩)]
    trailing := false, variadic := none, output := none, predicates := none }

theorem callable_iff_of_classify_looking :
    classify .guid [] looking = some ⟨functionName, .unit⟩ ∧ looking.CallableWith 1 := by
  have hlooking : classify .guid [] looking = some ⟨functionName, .unit⟩ := by decide +kernel
  exact ⟨hlooking, (callable_iff_of_classify hlooking).1.mpr rfl⟩

/-- `unsafe fn check_value(v: Uuid) {}`. -/
def unsafeLooking : Method := { looking with signature.isUnsafe := true }

/-- A hook need not be one that can be called. -/
theorem classify_unsafeLooking :
    classify .guid [] unsafeLooking = some ⟨functionName, .unit⟩ ∧
      ¬unsafeLooking.CallableWith 1 := by
  refine ⟨by decide +kernel, fun h ↦ ?_⟩
  cases h.notUnsafe

end Hook

end TypedIds
