import Mathlib.Data.List.Basic
import EventPipeline.Failure

/-! What a failure was before it was passed on.

A layer that carries a failure of the layer below it shows that failure and nothing else, so on every way up
the same is said, and from the last error the first failure can be told. A failed construction is different:
it has a message of its own, and what it was caused by is listed below it, once for every construction. -/

namespace EventPipeline

/-! ### Origins -/

def FactoryError.origin : FactoryError → Failure
  | .missingType => .missingType
  | .resolution error => .resolution error

def InvokeError.origin : InvokeError → Failure
  | .argument error => .argument error
  | .handler cause => .body cause
  | error => .invoke error

def ActivationError.origin : ActivationError → Failure
  | .missingType => .missingType
  | .resolution error => .resolution error
  | .invoke error => error.origin

def DispatchError.origin : DispatchError → Failure
  | .missingType => .missingType
  | .resolution error => .resolution error
  | .activation error => error.origin
  | .timeout budget => .timeout budget
  | error => .dispatch error

namespace Failure

/-- The failure below all layers that only carry it. -/
def origin : Failure → Failure
  | .factory error => error.origin
  | .invoke error => error.origin
  | .activation error => error.origin
  | .dispatch error => error.origin
  | failure => failure

theorem toCause_origin (failure : Failure) : failure.origin.toCause = failure.toCause := by
  have invoked : ∀ error : InvokeError, error.origin.toCause = error.toCause := by
    intro error
    cases error <;> rfl
  have activated : ∀ error : ActivationError, error.origin.toCause = error.toCause := by
    intro error
    cases error with
    | invoke error => exact invoked error
    | _ => rfl
  cases failure with
  | factory error => cases error <;> rfl
  | invoke error => exact invoked error
  | activation error => exact activated error
  | dispatch error =>
    cases error with
    | activation error => exact activated error
    | _ => rfl
  | _ => rfl

theorem origin_raise {layer : Layer} {failure raised : Failure}
    (carried : failure.raise layer = some raised) : raised.origin = failure.origin := by
  cases layer <;> cases failure <;> cases carried
  case activation.factory error => cases error <;> rfl
  case dispatch.factory error => cases error <;> rfl
  all_goals rfl

/-- One failure carries another when it says the same and comes from the same. -/
def Carries (carrier original : Failure) : Prop :=
  carrier.toCause = original.toCause ∧ carrier.origin = original.origin

theorem carries_of_origin {carrier original : Failure} (same : carrier.origin = original.origin) :
    carrier.Carries original :=
  ⟨by rw [← toCause_origin, same, toCause_origin], same⟩

/-! ### Ways up -/

def raiseAll : List Layer → Failure → Option Failure
  | [], failure => some failure
  | layer :: rest, failure => (failure.raise layer).bind (raiseAll rest)

theorem carries_of_raiseAll {layers : List Layer} {failure raised : Failure}
    (carried : failure.raiseAll layers = some raised) : raised.Carries failure := by
  apply carries_of_origin
  induction layers generalizing failure with
  | nil =>
    cases carried
    rfl
  | cons layer rest ih =>
    obtain ⟨between, first, later⟩ := Option.bind_eq_some_iff.mp carried
    rw [ih later, origin_raise first]

/-- The ways up that a failure can take, on each of which it is carried unchanged. -/
structure CarriedAlong (original : Failure) (Way : List Layer → Prop) : Prop where
  ways : ∀ layers, (original.raiseAll layers).isSome = true ↔ Way layers
  carried : ∀ layers raised, original.raiseAll layers = some raised → raised.Carries original

theorem carriedAlong_of_ways {original : Failure} {Way : List Layer → Prop}
    (ways : ∀ layers, (original.raiseAll layers).isSome = true ↔ Way layers) :
    original.CarriedAlong Way :=
  ⟨ways, fun _ _ => carries_of_raiseAll⟩

theorem ways_of_dispatch (error : DispatchError) (layers : List Layer) :
    ((Failure.dispatch error).raiseAll layers).isSome = true ↔ layers = [] := by
  cases layers with
  | nil => simp [raiseAll]
  | cons layer rest => cases layer <;> simp [raiseAll, raise]

theorem ways_of_activation (error : ActivationError) (layers : List Layer) :
    ((Failure.activation error).raiseAll layers).isSome = true ↔ layers.Sublist [.dispatch] := by
  cases layers with
  | nil => simp [raiseAll]
  | cons layer rest => cases layer <;> simp [raiseAll, raise, ways_of_dispatch]

theorem ways_of_invoke (error : InvokeError) (layers : List Layer) :
    ((Failure.invoke error).raiseAll layers).isSome = true ↔ layers <+: [.activation, .dispatch] := by
  cases layers with
  | nil => simp [raiseAll]
  | cons layer rest => cases layer <;> simp [raiseAll, raise, ways_of_activation, List.prefix_cons_iff]

theorem ways_of_factory (error : FactoryError) (layers : List Layer) :
    ((Failure.factory error).raiseAll layers).isSome = true ↔ layers.Sublist [.activation, .dispatch] := by
  cases layers with
  | nil => simp [raiseAll]
  | cons layer rest =>
    cases layer <;> simp [raiseAll, raise, ways_of_activation, ways_of_dispatch, List.cons_sublist_cons']

theorem ways_of_resolution (error : ResolutionError) (layers : List Layer) :
    ((Failure.resolution error).raiseAll layers).isSome = true ↔
      layers.Sublist [.factory, .activation, .dispatch] := by
  cases layers with
  | nil => simp [raiseAll]
  | cons layer rest =>
    cases layer <;> simp [raiseAll, raise, ways_of_factory, ways_of_activation, ways_of_dispatch,
      List.cons_sublist_cons']

theorem ways_of_invoked {original : Failure} {error : InvokeError}
    (invoked : ∀ layer, original.raise layer = if layer = .invoke then some (.invoke error) else none)
    (layers : List Layer) :
    (original.raiseAll layers).isSome = true ↔ layers <+: [.invoke, .activation, .dispatch] := by
  cases layers with
  | nil => simp [raiseAll]
  | cons layer rest =>
    by_cases same : layer = .invoke
    · subst same
      simp [raiseAll, invoked, ways_of_invoke]
    · simp [raiseAll, invoked, same]

end Failure

/-! ### Constructions -/

/-- A failure that constructors have passed on, each as the cause of its own; the outermost comes first. -/
def ResolutionError.within (names : List String) (innermost : ResolutionError) : ResolutionError :=
  names.foldr (fun name error => .construction name error.toCause) innermost

/-- The causes list all failed constructions, and below them the whole of the innermost failure. -/
theorem ResolutionError.chain_within (names : List String) (innermost : ResolutionError) :
    (ResolutionError.within names innermost).toCause.chain =
      names.map (fun name => "failed to construct `" ++ name ++ "`") ++ innermost.toCause.chain := by
  induction names with
  | nil => rfl
  | cons name rest ih =>
    rw [List.map_cons, List.cons_append, ← ih]
    rfl

/-- A shop whose desk lacks its ledger, as the one who has called for the shop sees it. -/
example :
    (DispatchError.activation (.resolution (.within ["Shop", "Desk"] (.unbound "Ledger")))).toCause =
      ⟨"failed to construct `Shop`",
        ["failed to construct `Desk`", "no binding registered for `Ledger`"]⟩ := by
  decide

/-! ### Method bodies -/

theorem ActivationError.handler?_iff {error : ActivationError} {cause : Cause} :
    error.handler? = some cause ↔ (Failure.activation error).origin = .body cause := by
  cases error with
  | missingType => simp [handler?, Failure.origin, origin]
  | resolution error => simp [handler?, Failure.origin, origin]
  | invoke error =>
    cases error <;> simp [handler?, InvokeError.handler?, Failure.origin, origin, InvokeError.origin]

end EventPipeline
