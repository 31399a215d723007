import HatTree.Proofs.Lookup.Stages

/-!
# When a request is sent

A request is sent if every stage passes, and then once. Otherwise it is held back, and the fault of
the first stage that fails is the outcome. Since the page size is above zero and the vocabulary
knows relations of the schema only, no stage ever finds fault with either.

## Main definitions

* `OfResponse`: the faults found in responses

## Main results

* `fault_cases`: why a request has no answer
* `transport_of_unknownRelation`: relations of checked projections are known
* `run_gated`: the stages of a request decide what is sent, and the fault if nothing is
-/

namespace HatTree.Lookup

section Faults

variable {endpoints : Endpoints} {filters : Filters} {chain : Value}
  {executor : Sent → Except Report Value} {request : Request}

/-- Every accepted page size is above zero. -/
theorem one_le_pageSize {given : List (Value × Value)}
    (hread : Endpoints.read given = .ok endpoints) : 1 ≤ endpoints.pageSize := by
  obtain ⟨-, h⟩ := Checked.guarded_eq_ok.mp hread
  obtain ⟨urls, -, h⟩ := bind_eq_ok.mp h
  obtain ⟨pageSize, hsize, h⟩ := bind_eq_ok.mp h
  cases h
  rcases Reading.field_eq_ok hsize with ⟨-, rfl⟩ | ⟨v, -, hv⟩
  · show (1 : Int) ≤ Layout.defaultPageSize
    decide
  · exact Reading.positive_eq_ok (Reading.checked_eq_ok.mp hv)

/-- The first fault of several groups of stages is the first fault of one of them. -/
theorem exists_of_findSome?_flatMap {α β γ : Type} {f : β → Option γ} {g : α → List β} {c : γ}
    {xs : List α} (h : (xs.flatMap g).findSome? f = some c) :
    ∃ x ∈ xs, (g x).findSome? f = some c := by
  induction xs with
  | nil => cases h
  | cons x xs ih =>
    rw [List.flatMap_cons, List.findSome?_append] at h
    cases hx : (g x).findSome? f with
    | some c' =>
      rw [hx] at h
      cases h
      exact ⟨x, List.mem_cons_self, hx⟩
    | none =>
      rw [hx, Option.none_or] at h
      obtain ⟨y, hy, hyc⟩ := ih h
      exact ⟨y, List.mem_cons_of_mem _ hy, hyc⟩

/-- The first fault of the stages of a projection; a projection is compiled only when it has passed
the checks. -/
theorem fault_of_stagesOf {x : ObjectType × Value} {fault : Fault}
    (h : (stagesOf x).findSome? (Stage.fault? endpoints filters chain) = some fault) :
    (∃ f, fault = .vocabulary f) ∨ (∃ f, fault = .bounds f) ∨
      ∃ f bounds, fault = .compile f ∧ Vocabulary.check x.1 x.2 = .ok () ∧
        filters.bounds = .ok bounds ∧ compiled endpoints filters x.1 x.2 = .error f := by
  simp only [stagesOf, List.findSome?_cons, List.findSome?_nil, Stage.fault?] at h
  cases hcheck : Vocabulary.check x.1 x.2 with
  | error f =>
    rw [hcheck] at h
    cases h
    exact .inl ⟨f, rfl⟩
  | ok _ =>
    cases hb : filters.bounds with
    | error f =>
      rw [hcheck, hb] at h
      cases h
      exact .inr (.inl ⟨f, rfl⟩)
    | ok bounds =>
      cases hcompiled : compiled endpoints filters x.1 x.2 with
      | error f =>
        rw [hcheck, hb, hcompiled] at h
        cases h
        exact .inr (.inr ⟨f, bounds, rfl, rfl, rfl, rfl⟩)
      | ok _ =>
        rw [hcheck, hb, hcompiled] at h
        cases h

/-- **A fault found in a response**: something is missing there, or the response has another
shape. -/
inductive OfResponse : Fault → Prop
  | notDict (typeName : String) : OfResponse (.notDict typeName)
  | notSized (typeName : String) : OfResponse (.notSized typeName)
  | noHat (chain : Value) (id : Int) : OfResponse (.noHat chain id)
  | fewerHats (chain : Value) : OfResponse (.fewerHats chain)
  | noTree (chain : Value) (id : Int) : OfResponse (.noTree chain id)
  | fewerTrees (chain : Value) : OfResponse (.fewerTrees chain)
  | noWearer (chain : Value) (address : String) : OfResponse (.noWearer chain address)

section Answer

variable {key : String} {response : Value} {missing fault : Fault}

theorem ofResponse_of_member (h : member key response = .error fault) : OfResponse fault := by
  cases response with
  | dict entries => cases h
  | _ =>
    cases h
    exact .notDict _

theorem ofResponse_of_memberOrEmpty (h : memberOrEmpty key response = .error fault) :
    OfResponse fault := by
  rcases bind_eq_error.mp h with h | ⟨v, -, h⟩
  · exact ofResponse_of_member h
  · cases h

theorem ofResponse_of_present (hmissing : OfResponse missing)
    (h : present key missing response = .error fault) : OfResponse fault := by
  rcases bind_eq_error.mp h with h | ⟨v, -, h⟩
  · exact ofResponse_of_member h
  · split at h <;> cases h
    exact hmissing

theorem ofResponse_of_atLeast {count : Nat} (hmissing : OfResponse missing)
    (h : atLeast key count missing response = .error fault) : OfResponse fault := by
  rcases bind_eq_error.mp h with h | ⟨v, -, h⟩
  · exact ofResponse_of_member h
  · split at h
    next =>
      cases h
      exact hmissing
    next =>
      split at h
      next =>
        cases h
        exact .notSized _
      next =>
        split at h <;> cases h
        exact hmissing

/-- **A response that holds no answer** is found to be so by a fault of its own. -/
theorem ofResponse_of_answer (h : request.answer chain response = .error fault) :
    OfResponse fault := by
  cases request with
  | hat id _ => exact ofResponse_of_present (.noHat chain id) h
  | hats ids _ => exact ofResponse_of_atLeast (.fewerHats chain) h
  | tree id _ => exact ofResponse_of_present (.noTree chain id) h
  | trees ids _ => exact ofResponse_of_atLeast (.fewerTrees chain) h
  | treePage => exact ofResponse_of_memberOrEmpty h
  | wearer address _ => exact ofResponse_of_present (.noWearer chain address) h
  | wearerPage id =>
    rcases bind_eq_error.mp h with h | ⟨hat, -, h⟩
    · exact ofResponse_of_present (.noHat chain id) h
    · exact ofResponse_of_memberOrEmpty h
  | search =>
    rcases bind_eq_error.mp h with h | ⟨trees, -, h⟩
    · exact ofResponse_of_memberOrEmpty h
    rcases bind_eq_error.mp h with h | ⟨hats, -, h⟩
    · exact ofResponse_of_memberOrEmpty h
    rcases bind_eq_error.mp h with h | ⟨wearers, -, h⟩
    · exact ofResponse_of_memberOrEmpty h
    · cases h

end Answer

/-- **Why a request has no answer**: a stage fails, the executor does, or the response holds
none. -/
theorem fault_cases {fault : Fault}
    (h : (run endpoints executor chain filters request).outcome = .error fault) :
    (∃ x ∈ request.projections,
        (stagesOf x).findSome? (Stage.fault? endpoints filters chain) = some fault) ∨
      endpointOf endpoints chain = .error fault ∨
        (∃ sent ∈ (run endpoints executor chain filters request).calls, ∃ failure,
          executor sent = .error failure ∧ fault = .transport failure) ∨
        OfResponse fault := by
  cases hstages : request.stages.findSome? (Stage.fault? endpoints filters chain) with
  | some fault' =>
    rw [(run_of_fault executor hstages).2] at h
    cases h
    rw [Request.stages, List.findSome?_append] at hstages
    cases hprojections :
        (request.projections.flatMap stagesOf).findSome? (Stage.fault? endpoints filters chain) with
    | some fault' =>
      rw [hprojections] at hstages
      cases hstages
      exact .inl (exists_of_findSome?_flatMap hprojections)
    | none =>
      rw [hprojections, Option.none_or, List.findSome?_singleton] at hstages
      exact .inr (.inl (failure?_eq_some.mp hstages))
  | none =>
    obtain ⟨sent, -, hcalls, houtcome⟩ := run_of_stages executor hstages
    rw [houtcome] at h
    rcases bind_eq_error.mp h with h | ⟨response, -, h⟩
    · obtain ⟨failure, hfailure, rfl⟩ := mapError_eq_error.mp h
      exact .inr (.inr (.inl ⟨sent, by simp [hcalls], failure, hfailure, rfl⟩))
    · exact .inr (.inr (.inr (ofResponse_of_answer h)))

/-- The page size is never why a request has no answer. -/
theorem ne_pageSize_of_outcome (hsize : 1 ≤ endpoints.pageSize) {fault : Fault}
    (h : (run endpoints executor chain filters request).outcome = .error fault) (size : Value) :
    fault ≠ .compile (.pageSize size) := by
  rintro rfl
  rcases fault_cases h with ⟨x, -, hx⟩ | h | ⟨_, -, _, -, h⟩ | h
  · rcases fault_of_stagesOf hx with ⟨f, h⟩ | ⟨f, h⟩ | ⟨f, bounds, h, -, -, hcompiled⟩
    · cases h
    · cases h
    · cases h
      exact Compile.run_ne_error_pageSize hsize x.2 size hcompiled
  · rw [endpointOf] at h
    split at h <;> cases h
  · cases h
  · cases h

/-- A fault found in a response is about no relation. -/
theorem OfResponse.family_ne {fault : Fault} (h : OfResponse fault) :
    (report fault).family ≠ .library .unknownRelation := by
  have hbad : Family.badValue ≠ .library .unknownRelation := by decide
  cases h with
  | notDict | notSized =>
    intro hfamily
    cases hfamily
  | noTree =>
    -- The tree is shown as well as the chain.
    refine Report.family_ofWriting_ne hbad (Report.family_ofWriting_ne hbad fun hfamily => ?_)
    cases hfamily
  | _ =>
    refine Report.family_ofWriting_ne hbad fun hfamily => ?_
    cases hfamily

/-- An unknown relation is never why a request has no answer, unless the executor reports one. -/
theorem transport_of_unknownRelation (hsize : 1 ≤ endpoints.pageSize) {fault : Fault}
    (h : (run endpoints executor chain filters request).outcome = .error fault)
    (hfamily : (report fault).family = .library .unknownRelation) :
    ∃ sent ∈ (run endpoints executor chain filters request).calls, ∃ failure,
      executor sent = .error failure ∧ fault = .transport failure := by
  have hbad : Family.badValue ≠ .library .unknownRelation := by decide
  rcases fault_cases h with ⟨⟨t, projection⟩, hmem, hx⟩ | h | h | h
  · -- A projection that is compiled has passed the check, which knows relations of the schema only.
    rcases fault_of_stagesOf hx with ⟨f, rfl⟩ | ⟨f, rfl⟩ | ⟨f, bounds, rfl, hcheck, hb, hcompiled⟩
    · cases hfamily
    · cases hfamily
    · obtain ⟨given, rfl⟩ := Vocabulary.exists_dict_of_check hcheck
      have hfits := Vocabulary.check_eq_ok_iff_fits.mp hcheck
      rcases Compile.fault_of_fits hfits hb hsize hcompiled with ⟨field, rfl⟩ | ⟨_, _, rfl⟩
      · refine absurd hfamily (Report.family_ofWriting_ne hbad fun hfamily => ?_)
        cases hfamily
      · cases hfamily
  · rw [endpointOf] at h
    split at h
    next =>
      cases h
      cases hfamily
    next =>
      cases h
      refine absurd hfamily (Report.family_ofWriting_ne hbad fun hfamily => ?_)
      cases hfamily
    next => cases h
  · exact h
  · exact absurd hfamily h.family_ne

end Faults

/-- **The stages of a request decide what is sent.** At most one document is handed to the executor,
and one is exactly if every stage passes: then it is the document of the request, for the endpoint
of the chain. Otherwise the fault of the first stage that fails is the outcome. That fault is never
about the page size, nor about an unknown relation, as far as the executor does not report one
itself. -/
theorem run_gated {given : List (Value × Value)} {endpoints : Endpoints}
    (hread : Endpoints.read given = .ok endpoints) (executor : Sent → Except Report Value)
    (chain : Value) (filters : Filters) (request : Request) :
    (run endpoints executor chain filters request).calls.length ≤ 1 ∧
      ((run endpoints executor chain filters request).calls ≠ [] ↔
        ∀ stage ∈ request.stages, stage.fault? endpoints filters chain = none) ∧
      (∀ sent ∈ (run endpoints executor chain filters request).calls,
        IsSent endpoints filters chain request sent) ∧
      ((run endpoints executor chain filters request).calls = [] →
        ∃ fault, (run endpoints executor chain filters request).outcome = .error fault ∧
          request.stages.findSome? (Stage.fault? endpoints filters chain) = some fault) ∧
      ∀ fault, (run endpoints executor chain filters request).outcome = .error fault →
        (∀ size, fault ≠ .compile (.pageSize size)) ∧
          ((report fault).family = .library .unknownRelation →
            ∃ sent ∈ (run endpoints executor chain filters request).calls, ∃ failure,
              executor sent = .error failure ∧ fault = .transport failure) := by
  have hsize := one_le_pageSize hread
  have hfaults : ∀ fault, (run endpoints executor chain filters request).outcome = .error fault →
      (∀ size, fault ≠ .compile (.pageSize size)) ∧
        ((report fault).family = .library .unknownRelation →
          ∃ sent ∈ (run endpoints executor chain filters request).calls, ∃ failure,
            executor sent = .error failure ∧ fault = .transport failure) := fun fault h =>
    ⟨ne_pageSize_of_outcome hsize h, transport_of_unknownRelation hsize h⟩
  rw [← List.findSome?_eq_none_iff]
  cases hstages : request.stages.findSome? (Stage.fault? endpoints filters chain) with
  | none =>
    obtain ⟨sent, hsent, hcalls, -⟩ := run_of_stages executor hstages
    refine ⟨?_, ?_, ?_, ?_, hfaults⟩
    · rw [hcalls, List.length_singleton]
    · simp [hcalls]
    · rw [hcalls]
      intro sent' hmem
      cases List.mem_singleton.mp hmem
      exact hsent
    · rw [hcalls]
      intro h
      cases h
  | some fault =>
    obtain ⟨hcalls, houtcome⟩ := run_of_fault executor hstages
    refine ⟨?_, ?_, ?_, fun _ => ⟨fault, houtcome, rfl⟩, hfaults⟩
    · simp [hcalls]
    · simp [hcalls]
    · simp [hcalls]

/-- A hat whose wearers are selected as if they were a scalar, on a chain that has no endpoint: the
check of the projection comes first. -/
theorem run_gated_scalar_wearers :
    Endpoints.read [] = .ok .standard ∧
      (run .standard (fun _ => .ok .null) (.int 5) .absent
        (.hat 1 (.dict [(.text "wearers", .bool true)]))).calls = [] ∧
      ∃ fault, (run .standard (fun _ => .ok .null) (.int 5) .absent
          (.hat 1 (.dict [(.text "wearers", .bool true)]))).outcome = .error fault ∧
        fault = .vocabulary ⟨.hat, [⟨.modelType "WearerProps", [.key "wearers"]⟩]⟩ := by
  have hread : Endpoints.read [] = .ok .standard := rfl
  obtain ⟨-, hsent, -, hfault, -⟩ := run_gated hread (fun _ => .ok .null) (.int 5) .absent
    (.hat 1 (.dict [(.text "wearers", .bool true)]))
  have hcalls : (run .standard (fun _ => .ok .null) (.int 5) .absent
      (.hat 1 (.dict [(.text "wearers", .bool true)]))).calls = [] := by
    by_contra hne
    exact nomatch hsent.mp hne _ (List.mem_append_left _ List.mem_cons_self)
  obtain ⟨fault, houtcome, hfirst⟩ := hfault hcalls
  cases hfirst
  exact ⟨hread, hcalls, _, houtcome, rfl⟩

end HatTree.Lookup
