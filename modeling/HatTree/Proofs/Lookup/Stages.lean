import HatTree.Lookup
import HatTree.Proofs.Compile.Checked

/-!
# The stages of a request

Before anything is sent for a request, every stage has to pass: for each projection the check of its
vocabulary, the check of the bounds and the compilation, then the look-up of the endpoint. The first
stage that fails gives the outcome. Once all have passed, one document is handed to the executor,
and what it does decides the outcome.

## Main definitions

* `Stage`, `Request.stages`: the stages of a request, in order
* `Stage.fault?`: why a stage fails, if it does
* `Passes`: acts that go through stages without sending anything
* `IsSent`: what is sent for a request

## Main results

* `Passes.bind`: stages follow each other as acts do
* `passes_selectAll`: the selections of a request go through the stages of its projections
* `passes_prepare`: a request is prepared by going through its stages
* `run_of_fault`, `run_of_stages`: a request that is held back, and one that is sent
-/

namespace HatTree.Lookup

/-- **A stage of a request**: the check of a projection against the vocabulary of a type, the check
of the bounds, the compilation of a projection, the look-up of the endpoint. -/
inductive Stage where
  | vocabulary (t : ObjectType) (projection : Value)
  | bounds
  | compilation (t : ObjectType) (projection : Value)
  | endpoint

/-- The stages of a projection from a type. -/
def stagesOf (x : ObjectType × Value) : List Stage :=
  [.vocabulary x.1 x.2, .bounds, .compilation x.1 x.2]

/-- **The stages of a request**, projection by projection. -/
def Request.stages (r : Request) : List Stage :=
  r.projections.flatMap stagesOf ++ [.endpoint]

example (text : String) (ofTrees ofHats ofWearers : Value) :
    (Request.search text ofTrees ofHats ofWearers).stages =
      [.vocabulary .tree ofTrees, .bounds, .compilation .tree ofTrees,
        .vocabulary .hat ofHats, .bounds, .compilation .hat ofHats,
        .vocabulary .wearer ofWearers, .bounds, .compilation .wearer ofWearers, .endpoint] := rfl

/-- The failure of a result, if it is one. -/
def failure? {ε α : Type} : Except ε α → Option ε
  | .ok _ => none
  | .error e => some e

theorem failure?_mapError {ε ε' α : Type} (r : Except ε α) (f : ε → ε') :
    failure? (r.mapError f) = (failure? r).map f := by
  cases r <;> rfl

theorem failure?_eq_some {ε α : Type} {r : Except ε α} {e : ε} :
    failure? r = some e ↔ r = .error e := by
  cases r <;> simp [failure?]

section Stages

variable (endpoints : Endpoints) (filters : Filters) (chain : Value)

/-- The compilation of a projection in a request. -/
def compiled (t : ObjectType) (projection : Value) : Except Compile.Fault (String × Note) :=
  Compile.run (.text t.label) projection filters (.int endpoints.pageSize)

/-- **Why a stage fails**, if it does. -/
def Stage.fault? : Stage → Option Fault
  | .vocabulary t projection => (failure? (Vocabulary.check t projection)).map .vocabulary
  | .bounds => (failure? filters.bounds).map .bounds
  | .compilation t projection =>
    (failure? (compiled endpoints filters t projection)).map .compile
  | .endpoint => failure? (endpointOf endpoints chain)

/-- **An act that goes through stages** without sending anything. If a stage fails, the act fails
with the fault of the first such stage, otherwise it has a result with a given property. -/
structure Passes {α : Type} (stages : List Stage) (P : α → Prop) (act : Act α) : Prop where
  /-- The first fault of the stages is the fault of the act. -/
  fails : ∀ fault, stages.findSome? (Stage.fault? endpoints filters chain) = some fault →
    ∀ trace, ∃ trace', act.run trace = .error fault trace' ∧ trace'.calls = trace.calls
  /-- Without a fault the act succeeds. -/
  succeeds : stages.findSome? (Stage.fault? endpoints filters chain) = none →
    ∀ trace, ∃ x trace', act.run trace = .ok x trace' ∧ trace'.calls = trace.calls ∧ P x

variable {endpoints filters chain}

namespace Passes

variable {α β : Type} {P : α → Prop}

theorem pure {x : α} (hx : P x) :
    Passes endpoints filters chain [] P (Pure.pure x : Act α) :=
  ⟨fun _ h => (by cases h), fun _ trace => ⟨x, trace, rfl, rfl, hx⟩⟩

/-- A note is taken at no stage. -/
theorem takeNote (note : Note) :
    Passes endpoints filters chain [] (fun _ => True) (takeNote note) :=
  ⟨fun _ h => (by cases h),
    fun _ trace => ⟨(), { trace with notes := trace.notes ++ [note] }, rfl, rfl, trivial⟩⟩

/-- A result is settled at a stage that fails as the result does. -/
theorem settle {r : Except Fault α} {stage : Stage}
    (hstage : stage.fault? endpoints filters chain = failure? r) :
    Passes endpoints filters chain [stage] (r = .ok ·) (settle r) := by
  constructor
  · intro fault hfault trace
    rw [List.findSome?_singleton, hstage] at hfault
    cases r with
    | ok x => cases hfault
    | error e =>
      cases hfault
      exact ⟨trace, rfl, rfl⟩
  · intro hnone trace
    rw [List.findSome?_singleton, hstage] at hnone
    cases r with
    | ok x => exact ⟨x, trace, rfl, rfl, rfl⟩
    | error e => cases hnone

/-- **Stages follow each other as acts do.** -/
theorem bind {stages stages' : List Stage} {Q : β → Prop} {act : Act α} {next : α → Act β}
    (h : Passes endpoints filters chain stages P act)
    (hnext : ∀ x, P x → Passes endpoints filters chain stages' Q (next x)) :
    Passes endpoints filters chain (stages ++ stages') Q (act >>= next) := by
  constructor
  · intro fault hfault trace
    rw [List.findSome?_append] at hfault
    cases hfirst : stages.findSome? (Stage.fault? endpoints filters chain) with
    | some fault' =>
      rw [hfirst] at hfault
      cases hfault
      obtain ⟨trace', hrun, hcalls⟩ := h.fails fault hfirst trace
      refine ⟨trace', ?_, hcalls⟩
      rw [EStateM.run_bind, hrun]
    | none =>
      -- The first act succeeds, so that the fault is one of the second.
      rw [hfirst, Option.none_or] at hfault
      obtain ⟨x, trace', hrun, hcalls, hx⟩ := h.succeeds hfirst trace
      obtain ⟨trace'', hrun', hcalls'⟩ := (hnext x hx).fails fault hfault trace'
      refine ⟨trace'', ?_, hcalls'.trans hcalls⟩
      rw [EStateM.run_bind, hrun]
      exact hrun'
  · intro hnone trace
    rw [List.findSome?_append, Option.or_eq_none_iff] at hnone
    obtain ⟨x, trace', hrun, hcalls, hx⟩ := h.succeeds hnone.1 trace
    obtain ⟨y, trace'', hrun', hcalls', hy⟩ := (hnext x hx).succeeds hnone.2 trace'
    refine ⟨y, trace'', ?_, hcalls'.trans hcalls, hy⟩
    rw [EStateM.run_bind, hrun]
    exact hrun'

end Passes

/-! ## The selections of a request -/

/-- A projection is compiled to a text. -/
def CompilesTo (endpoints : Endpoints) (filters : Filters) (x : ObjectType × Value)
    (text : String) : Prop :=
  ∃ note, compiled endpoints filters x.1 x.2 = .ok (text, note)

/-- Compilation looks at the bounds only, not at how they are given. -/
theorem run_ofBounds {bounds : Option PageBounds} (hb : filters.bounds = .ok bounds)
    (type projection size : Value) :
    Compile.run type projection (.ofBounds bounds) size =
      Compile.run type projection filters size := by
  simp only [Compile.run, Compile.selection, Filters.bounds_ofBounds, hb]

/-- **A selection goes through the stages of its projection.** -/
theorem passes_select (x : ObjectType × Value) :
    Passes endpoints filters chain (stagesOf x) (CompilesTo endpoints filters x)
      (select endpoints filters x.1 x.2) := by
  have hvocabulary : Passes endpoints filters chain [.vocabulary x.1 x.2] _
      (Lookup.settle ((Vocabulary.check x.1 x.2).mapError .vocabulary)) :=
    .settle (failure?_mapError _ _).symm
  have hbounds : Passes endpoints filters chain [.bounds] _
      (Lookup.settle (filters.bounds.mapError .bounds)) :=
    .settle (failure?_mapError _ _).symm
  have hcompilation : Passes endpoints filters chain [.compilation x.1 x.2] _
      (Lookup.settle ((compiled endpoints filters x.1 x.2).mapError .compile)) :=
    .settle (failure?_mapError _ _).symm
  refine hvocabulary.bind fun _ _ => hbounds.bind fun bounds hb => ?_
  rw [run_ofBounds (mapError_eq_ok.mp hb)]
  exact hcompilation.bind fun (text, note) hrun =>
    (Passes.takeNote note).bind fun _ _ => .pure ⟨note, mapError_eq_ok.mp hrun⟩

/-- **The selections of several projections** go through the stages of each. -/
theorem passes_selectAll (projections : List (ObjectType × Value)) :
    Passes endpoints filters chain (projections.flatMap stagesOf)
      (List.Forall₂ (CompilesTo endpoints filters) projections)
      (selectAll endpoints filters projections) := by
  induction projections with
  | nil => exact .pure .nil
  | cons x rest ih =>
    rw [List.flatMap_cons]
    refine (passes_select x).bind fun text htext => ?_
    rw [← List.append_nil (rest.flatMap stagesOf)]
    exact ih.bind fun texts htexts => .pure (.cons htext htexts)

/-! ## Requests -/

/-- **What is sent for a request**: the document around the texts of its projections and the
variables, to the endpoint of the chain. -/
structure IsSent (endpoints : Endpoints) (filters : Filters) (chain : Value) (request : Request)
    (sent : Sent) : Prop where
  /-- The endpoint is that of the chain. -/
  endpoint : endpoints.find? chain = .ok (some sent.endpoint)
  /-- The document is that of the request, around the texts of its projections. -/
  query : ∃ texts, List.Forall₂ (CompilesTo endpoints filters) request.projections texts ∧
    sent.query = (request.document texts).text
  /-- The variables are those of the request. -/
  bindings : sent.bindings = request.bindings

theorem endpointOf_eq_ok {url : String} (h : endpointOf endpoints chain = .ok url) :
    endpoints.find? chain = .ok (some url) := by
  rw [endpointOf] at h
  split at h
  next => cases h
  next => cases h
  next hfind =>
    cases h
    exact hfind

variable {executor : Sent → Except Report Value} {request : Request}

/-- What is done for a request up to the moment when it is sent. -/
def prepare (endpoints : Endpoints) (chain : Value) (filters : Filters) (request : Request) :
    Act Sent := do
  let selections ← selectAll endpoints filters request.projections
  let endpoint ← settle (endpointOf endpoints chain)
  let query := (request.document selections).text
  takeNote (.querying endpoint query chain)
  pure { endpoint, query, bindings := request.bindings }

/-- A request is prepared, sent and answered. -/
theorem conduct_eq : conduct endpoints executor chain filters request =
    prepare endpoints chain filters request >>= fun sent =>
      call executor sent >>= fun response => settle (request.answer chain response) := by
  simp only [conduct, query, prepare, bind_assoc, pure_bind]

/-- **A request is prepared** by going through its stages. -/
theorem passes_prepare (request : Request) :
    Passes endpoints filters chain request.stages (IsSent endpoints filters chain request)
      (prepare endpoints chain filters request) := by
  have hendpoint : Passes endpoints filters chain [.endpoint] _
      (settle (endpointOf endpoints chain)) := .settle rfl
  refine (passes_selectAll request.projections).bind fun texts htexts => ?_
  exact hendpoint.bind fun url hurl => (Passes.takeNote _).bind fun _ _ =>
    .pure ⟨endpointOf_eq_ok hurl, ⟨texts, htexts, rfl⟩, rfl⟩

variable (executor) in
/-- **A request is held back** when a stage fails, and the first fault is the outcome. -/
theorem run_of_fault {fault : Fault}
    (hfault : request.stages.findSome? (Stage.fault? endpoints filters chain) = some fault) :
    (run endpoints executor chain filters request).calls = [] ∧
      (run endpoints executor chain filters request).outcome = .error fault := by
  obtain ⟨trace, hrun, hcalls⟩ := (passes_prepare request).fails fault hfault {}
  rw [run, conduct_eq, EStateM.run_bind, hrun]
  exact ⟨hcalls, rfl⟩

/-- A document that is handed over is added to the trace, and the executor decides what follows. -/
theorem call_run (sent : Sent) (trace : Trace) :
    (call executor sent).run trace =
      match executor sent with
      | .ok response => .ok response { trace with calls := trace.calls ++ [sent] }
      | .error failure =>
        .error (.transport failure) { trace with calls := trace.calls ++ [sent] } := by
  rw [call, EStateM.run_bind]
  show (settle ((executor sent).mapError .transport)).run _ = _
  cases executor sent <;> rfl

variable (executor) in
/-- **A request is sent** when no stage fails, and the executor decides the outcome. -/
theorem run_of_stages
    (hnone : request.stages.findSome? (Stage.fault? endpoints filters chain) = none) :
    ∃ sent, IsSent endpoints filters chain request sent ∧
      (run endpoints executor chain filters request).calls = [sent] ∧
      (run endpoints executor chain filters request).outcome =
        ((executor sent).mapError .transport >>= fun response =>
          request.answer chain response) := by
  obtain ⟨sent, trace, hrun, hcalls, hsent⟩ := (passes_prepare request).succeeds hnone {}
  refine ⟨sent, hsent, ?_⟩
  have hcalls : trace.calls ++ [sent] = [sent] := by rw [hcalls, List.nil_append]
  rw [run, conduct_eq, EStateM.run_bind, hrun]
  dsimp only
  rw [EStateM.run_bind, call_run]
  cases executor sent with
  | error failure => exact ⟨hcalls, rfl⟩
  | ok response =>
    show _ ∧ _ = request.answer chain response
    dsimp only
    cases request.answer chain response with
    | error fault => exact ⟨hcalls, rfl⟩
    | ok answer => exact ⟨hcalls, rfl⟩

end Stages

end HatTree.Lookup
