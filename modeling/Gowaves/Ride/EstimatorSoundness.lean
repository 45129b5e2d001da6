import Gowaves.Ride.Catalogue
import Gowaves.Ride.EstimatorV4

/-!
# The estimator and the evaluator resolve user functions differently

The estimator (`EstimatorV4`) resolves a call of a user function lexically: inside the body
of `func g() = …` the name `g` still denotes whatever it denoted before the declaration,
typically the library function of that name.  The evaluator resolves it dynamically: it
searches the whole stack of declared user functions from the most recent, and the function
being called is on that stack while its body runs.  A user function named like a library
function and calling that library function in its body therefore calls itself in the
evaluator: the estimate charges one library call, and the evaluation never returns.

Results: `selfCall_exhausted` — a user function whose body is a call of its own name with no
arguments runs out of fuel, for every fuel, from every state where it is the most recent
declaration of its name; and `selfNamedThrow_estimatedOne_diverges` — the V6 expression
`func throw() = throw(); throw()` is estimated `1` and its evaluation never returns.
-/

set_option autoImplicit false

namespace Gowaves.Ride

open GoLib GoLib.StOutcome

/-- **A user function whose body calls its own name never returns**: every call finds the
function itself, pushes a frame and walks the same call again, whatever the fuel. -/
theorem selfCall_exhausted {Action : Type} (env : Environment Action) (name : GoString)
    (uf : EsFunction) (hbody : uf.body = .functionCallNode (.userFunction name) [])
    (hargs : uf.arguments = []) :
    ∀ (fuel : Nat) (st : EvalState), st.cc.err = none → st.s.userFunction name = some uf →
      (walk env fuel (some (.functionCallNode (.userFunction name) [])) st).1 = .exhausted := by
  intro fuel
  induction fuel with
  | zero => intro st _ _; rfl
  | succ n ih =>
    intro st herr huf
    simp only [walk, walkNode, get_bind_run, herr, huf, materializeArguments, pushing,
      mapError_pure, pure_bind_run, evaluateUserFunction]
    apply withDefer_run_exhausted
    simp only [callUserFunction, get_bind_run, huf, hargs, List.length_nil, ne_eq,
      not_true_eq_false, if_false, modifyScope, modify_bind_run]
    apply bind_run_exhausted
    apply mapError_run_exhausted
    rw [hbody]
    exact ih _ herr huf

/-- `throw()`, a call of the library function `throw` through the user-function syntax. -/
def throwCall : Node := .functionCallNode (.userFunction (ascii "throw")) []

/-- `func throw() = throw(); throw()`, in library version 6. -/
def selfNamedThrowScript : Tree :=
  { Tree.new contentTypeExpression 6 with
    verifier := some (.functionDeclarationNode (ascii "throw") [] throwCall (some throwCall) []) }

theorem selfNamedThrow_estimatedOne_diverges :
    (estimateTreeV4 (catalogueGet catalogueV6) selfNamedThrowScript).map (·.estimation) =
      .ok 1 ∧
    ∀ {Action : Type} (env : Environment Action) (fuel : Nat) (limit : UInt32),
      (callVerifier env fuel selfNamedThrowScript ((Calculator.new .v2).setLimit limit)).1 =
        .exhausted := by
  refine ⟨by decide, ?_⟩
  intro Action env fuel limit
  generalize hcc : (Calculator.new .v2).setLimit limit = cc
  have herr : cc.err = none := by rw [← hcc]; rfl
  let decl := Node.functionDeclarationNode (ascii "throw") [] throwCall (some throwCall) []
  have hev : treeVerifierEvaluator env selfNamedThrowScript =
      .ok (⟨false, some decl, ascii "verifier"⟩, EvaluationScope.new env.constants) := rfl
  have hwalk : (walk env fuel (some decl) ⟨EvaluationScope.new env.constants, cc⟩).1 =
      .exhausted := by
    cases fuel with
    | zero => rfl
    | succ n =>
      simp only [walk, walkNode, get_bind_run, herr, decl, modifyScope, modify_bind_run]
      apply bind_run_exhausted
      apply mapError_run_exhausted
      exact selfCall_exhausted env (ascii "throw") ⟨ascii "throw", [], throwCall, 1⟩ rfl rfl n _
        herr rfl
  have heval : (evaluate env fuel ⟨false, some decl, ascii "verifier"⟩
      ⟨EvaluationScope.new env.constants, cc⟩).1 = .exhausted := by
    simp only [evaluate, bind_run_exhausted hwalk]
    rfl
  simp only [callVerifier, hev]
  rw [heval]

end Gowaves.Ride
