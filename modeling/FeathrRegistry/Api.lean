import FeathrRegistry.Run

/-!
# FeathrRegistry.Api

The HTTP layer of `api/v1` over the registry. A create handler resolves its path parameters with
`get_entity_id` and makes the registry call (`Request.run`); `DELETE /entity/{entity}` is
`deleteEntityHandler`. `ApiReachable b` is every store HTTP requests reach from the empty
database on branch `b`.

A request runs the call it resolves to, so every store the API reaches is reachable by registry
calls (`ApiReachable.reachable`): what holds over `Reachable` holds for the API. A registry call
whose ids are in UUID form is the request with the same path parameters
(`Call.request_resolve`), so runs of such calls reach stores of the API
(`ApiReachable.runCalls`).
-/

namespace FeathrRegistry

/-- One HTTP request served to completion on branch `b`; the `uuid4` it draws is fresh for the
call its path parameters resolve to. -/
inductive ApiStep (b : Branch) : Store → Store → Prop
  | create {s s' : Store} {r : Request} {c : Call} {u : String} {res : Except Err String} :
      r.resolve s = .ok c → Fresh s c u → r.run b s u = (s', res) → ApiStep b s s'
  | delete {s s' : Store} {fuel : Nat} {x : String} {res : Except Err Unit} :
      deleteEntityHandler b fuel s x = some (s', res) → ApiStep b s s'

/-- The stores HTTP requests reach on branch `b` from the empty database. -/
inductive ApiReachable (b : Branch) : Store → Prop
  | init : ApiReachable b .empty
  | step {s s' : Store} : ApiReachable b s → ApiStep b s s' → ApiReachable b s'

theorem Request.run_of_resolve {b : Branch} {s : Store} {u : String} {r : Request} {c : Call}
    (h : r.resolve s = .ok c) : r.run b s u = c.run b s u := by
  simp [Request.run, h]

theorem ApiStep.step {b : Branch} {s s' : Store} (h : ApiStep b s s') : Step b s s' := by
  cases h with
  | create hr hf hrun => exact .create hf ((Request.run_of_resolve hr).symm.trans hrun)
  | delete hd => exact .delete hd

/-- Every store the API reaches is reachable by registry calls. -/
theorem ApiReachable.reachable {b : Branch} {s : Store} (h : ApiReachable b s) :
    Reachable b s := by
  induction h with
  | init => exact .init
  | step _ hs ih => exact ih.step hs.step

/-- The request whose path parameters are the ids of call `c`. -/
def Call.request : Call → Request
  | .createProject d => .newProject d
  | .createProjectDatasource p d => .newProjectDatasource p d
  | .createProjectAnchor p d => .newProjectAnchor p d
  | .createProjectAnchorFeature p a d => .newProjectAnchorFeature p a d
  | .createProjectDerivedFeature p d => .newProjectDerivedFeature p d

/-- The path parameters of `c.request`. -/
def Call.pathArgs : Call → List String
  | .createProject _ => []
  | .createProjectDatasource p _ => [p]
  | .createProjectAnchor p _ => [p]
  | .createProjectAnchorFeature p a _ => [p, a]
  | .createProjectDerivedFeature p _ => [p]

/-- Path parameters in UUID form resolve to themselves. -/
theorem Call.request_resolve {s : Store} {c : Call} (h : ∀ x ∈ c.pathArgs, toUuid x = some x) :
    c.request.resolve s = .ok c := by
  cases c <;> simp_all [Call.pathArgs, Call.request, Request.resolve,
    Store.getEntityId_of_toUuid, bind, Except.bind, pure, Except.pure]

/-- Every call of the run has its path parameters in UUID form and a fresh `uuid4`. -/
def apiRun (b : Branch) : List (Call × String) → Store → Bool
  | [], _ => true
  | (c, u) :: cs, s =>
    decide (Fresh s c u ∧ ∀ x ∈ c.pathArgs, toUuid x = some x) && apiRun b cs (c.run b s u).1

theorem ApiReachable.runCalls {b : Branch} {s : Store} (h : ApiReachable b s) :
    ∀ {cs : List (Call × String)}, apiRun b cs s = true → ApiReachable b (runCalls b cs s)
  | [], _ => h
  | (c, u) :: cs, hf => by
    simp only [apiRun, Bool.and_eq_true, decide_eq_true_eq] at hf
    have hr := Call.request_resolve (s := s) hf.1.2
    exact ApiReachable.runCalls (h.step (.create hr hf.1.1 (Request.run_of_resolve hr))) hf.2

theorem apiReachable_scenarioStore (b : Branch) : ApiReachable b (scenarioStore b) :=
  ApiReachable.init.runCalls (by cases b <;> decide)

theorem reachable_scenarioStore (b : Branch) : Reachable b (scenarioStore b) :=
  (apiReachable_scenarioStore b).reachable

end FeathrRegistry
