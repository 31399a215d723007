import HatTree.Proofs.Lookup.Stages

/-!
# Reading page after page

Pages are counted from zero, and a page asks for the records behind those of all pages before it. An
executor that serves a list slice by slice therefore gives out each record on exactly one page, in
order. A page is empty when the pages before it have exhausted the list, so that reading up to the
first empty page reads the whole list.

## Main definitions

* `Pages`: the requests that are answered page by page
* `Pages.Serves`: executors that serve a list slice by slice
* `ReadsFrom`: reading page after page, up to the first empty page
* `Pages.slices`: such an executor

## Main results

* `outcome_request`: the outcome of a request for a page
* `flatMap_slice`: the first pages make up the front of the list
* `readsFrom_iff`: what is read from some page on
* `pages_of_serves`: paging neither loses nor repeats a record
-/

namespace HatTree.Lookup

/-- **The requests that are answered page by page**: for all trees, and for the wearers of a hat. -/
inductive Pages where
  | trees
  | wearers (hat : Int)

namespace Pages

/-- The request for a page. -/
def request (page perPage : Int) (projection : Value) : Pages → Request
  | trees => .treePage page perPage projection
  | wearers hat => .wearerPage hat page perPage projection

/-- The type of the records. -/
def type : Pages → ObjectType
  | trees => .tree
  | wearers _ => .wearer

/-- The variables that ask for some records behind those that are skipped. -/
def bindings (skip first : Int) : Pages → List (String × Value)
  | trees => [("skip", .int skip), ("first", .int first)]
  | wearers hat =>
    [("hatId", .text (HatId.toHex hat)), ("first", .int first), ("skip", .int skip)]

/-- Where a response holds records: at its top, or in the hat that it holds. -/
def Holds (records : List Value) (response : List (Value × Value)) : Pages → Prop
  | trees => Value.lookup "trees" response = some (.list records)
  | wearers _ => ∃ hat, Value.lookup "hat" response = some (.dict hat) ∧
      Value.lookup "wearers" hat = some (.list records)

/-- **An executor that serves a list slice by slice**, whatever else its responses hold. -/
def Serves (s : Pages) (records : List Value) (executor : Sent → Except Report Value) : Prop :=
  ∀ (sent : Sent) (skip first : Nat), sent.bindings = s.bindings skip first →
    ∃ response, executor sent = .ok (.dict response) ∧
      s.Holds ((records.drop skip).take first) response

/-- A page of a list. -/
def slice (records : List Value) (perPage page : Nat) : List Value :=
  (records.drop (page * perPage)).take perPage

variable {s : Pages} {projection chain : Value} {records : List Value}

theorem bindings_request (page perPage : Nat) :
    (s.request page perPage projection).bindings = s.bindings (page * perPage : Nat) perPage := by
  rw [Int.natCast_mul]
  cases s <;> rfl

theorem stages_request (page perPage : Int) :
    (s.request page perPage projection).stages =
      stagesOf (s.type, projection) ++ [.endpoint] := by
  cases s <;> rfl

/-- What a response holds under a key is given out as it is, also when it is empty. -/
theorem memberOrEmpty_eq_ok {key : String} {response : List (Value × Value)}
    (h : Value.lookup key response = some (.list records)) :
    memberOrEmpty key (.dict response) = .ok (.list records) := by
  rw [memberOrEmpty, member, h]
  cases records <;> rfl

theorem present_eq_ok {key : String} {missing : Fault} {response entries : List (Value × Value)}
    (h : Value.lookup key response = some (.dict entries)) (hne : entries ≠ []) :
    present key missing (.dict response) = .ok (.dict entries) := by
  rw [present, member, h]
  cases entries with
  | nil => exact absurd rfl hne
  | cons entry entries => rfl

/-- **The answer is what the response holds.** -/
theorem answer_request {response : List (Value × Value)} (h : s.Holds records response)
    (page perPage : Int) :
    (s.request page perPage projection).answer chain (.dict response) = .ok (.list records) := by
  cases s with
  | trees => exact memberOrEmpty_eq_ok h
  | wearers id =>
    obtain ⟨hat, hhat, hwearers⟩ := h
    have hne : hat ≠ [] := by
      rintro rfl
      cases hwearers
    show (present "hat" (.noHat chain id) (.dict response) >>= memberOrEmpty "wearers") = _
    rw [present_eq_ok hhat hne]
    exact memberOrEmpty_eq_ok hwearers

/-- **The outcome of a request for a page**, when all stages pass, is the page of the list. -/
theorem outcome_request {endpoints : Endpoints} {filters : Filters}
    {executor : Sent → Except Report Value} (hserves : s.Serves records executor)
    (hstages : ∀ stage ∈ stagesOf (s.type, projection) ++ [.endpoint],
      stage.fault? endpoints filters chain = none) (page perPage : Nat) :
    (run endpoints executor chain filters (s.request page perPage projection)).outcome =
      .ok (.list (slice records perPage page)) := by
  rw [← stages_request page perPage] at hstages
  obtain ⟨sent, hsent, -, houtcome⟩ :=
    run_of_stages executor (List.findSome?_eq_none_iff.mpr hstages)
  obtain ⟨response, hexecutor, hholds⟩ :=
    hserves sent _ _ (hsent.bindings.trans (bindings_request page perPage))
  rw [houtcome, hexecutor]
  exact answer_request hholds page perPage

/-! ## Pages of a list -/

/-- **The first pages make up the front of the list.** -/
theorem flatMap_slice (records : List Value) (perPage count : Nat) :
    (List.range count).flatMap (slice records perPage) = records.take (count * perPage) := by
  induction count with
  | zero => simp
  | succ count ih =>
    rw [List.range_succ, List.flatMap_append, ih, List.flatMap_singleton, slice, Nat.succ_mul,
      List.take_add]

/-- **A page is empty** when the pages before it have exhausted the list. -/
theorem slice_eq_nil_iff {perPage : Nat} (hpos : 1 ≤ perPage) (page : Nat) :
    slice records perPage page = [] ↔ records.length ≤ page * perPage := by
  rw [slice, List.take_eq_nil_iff, List.drop_eq_nil_iff, or_iff_right (by omega)]

theorem slice_append_drop (records : List Value) (perPage page : Nat) :
    slice records perPage page ++ records.drop ((page + 1) * perPage) =
      records.drop (page * perPage) := by
  rw [slice, Nat.succ_mul, ← List.drop_drop, List.take_append_drop]

end Pages

/-! ## Reading all pages -/

/-- **Reading page after page**, from some page on and up to the first empty page. -/
inductive ReadsFrom (outcome : Nat → Except Fault Value) : Nat → List Value → Prop
  | last {page : Nat} (h : outcome page = .ok (.list [])) : ReadsFrom outcome page []
  | next {page : Nat} {records rest : List Value} (h : outcome page = .ok (.list records))
      (hne : records ≠ []) (hrest : ReadsFrom outcome (page + 1) rest) :
      ReadsFrom outcome page (records ++ rest)

namespace Pages

section Read

variable {records : List Value} {perPage : Nat} {outcome : Nat → Except Fault Value}
  (houtcome : ∀ page, outcome page = .ok (.list (slice records perPage page)))
include houtcome

theorem eq_drop_of_readsFrom (hpos : 1 ≤ perPage) {page : Nat} {read : List Value}
    (h : ReadsFrom outcome page read) : read = records.drop (page * perPage) := by
  induction h with
  | @last page h =>
    rw [houtcome, Except.ok.injEq, Value.list.injEq, slice_eq_nil_iff hpos] at h
    exact (List.drop_eq_nil_of_le h).symm
  | @next page _ rest h _ _ ih =>
    rw [houtcome, Except.ok.injEq, Value.list.injEq] at h
    rw [ih, ← h, slice_append_drop]

theorem readsFrom_drop (hpos : 1 ≤ perPage) (page : Nat) :
    ReadsFrom outcome page (records.drop (page * perPage)) := by
  -- Each page that is not empty leaves fewer records.
  induction hn : records.length - page * perPage using Nat.strongRecOn generalizing page with
  | ind n ih =>
    by_cases hempty : slice records perPage page = []
    · have hlength := (slice_eq_nil_iff hpos page).mp hempty
      rw [List.drop_eq_nil_of_le hlength]
      exact .last (by rw [houtcome, hempty])
    · rw [← slice_append_drop]
      have hlength := mt (slice_eq_nil_iff hpos page).mpr hempty
      refine .next (houtcome page) hempty (ih _ ?_ (page + 1) rfl)
      rw [Nat.succ_mul]
      omega

/-- **What is read from some page on** is the rest of the list. -/
theorem readsFrom_iff (hpos : 1 ≤ perPage) (page : Nat) (read : List Value) :
    ReadsFrom outcome page read ↔ read = records.drop (page * perPage) := by
  constructor
  · exact eq_drop_of_readsFrom houtcome hpos
  · rintro rfl
    exact readsFrom_drop houtcome hpos page

end Read

/-- **Paging neither loses nor repeats a record.** When all stages pass and the executor serves a
list, every request for a page has an outcome. The first pages make up the front of the list, in
order; a page is empty if and only if the pages before it have exhausted the list; and reading up to
the first empty page reads the list. -/
theorem pages_of_serves (s : Pages) (records : List Value) (endpoints : Endpoints)
    (executor : Sent → Except Report Value) (chain : Value) (filters : Filters) (projection : Value)
    (perPage : Nat) (hpos : 1 ≤ perPage) (hserves : s.Serves records executor)
    (hstages : ∀ stage ∈ stagesOf (s.type, projection) ++ [.endpoint],
      stage.fault? endpoints filters chain = none) :
    ∃ page : Nat → List Value,
      (∀ n : Nat, (run endpoints executor chain filters (s.request n perPage projection)).outcome =
          .ok (.list (page n))) ∧
        (∀ count, (List.range count).flatMap page = records.take (count * perPage)) ∧
        (∀ n, page n = [] ↔ records.length ≤ n * perPage) ∧
        ∀ read, ReadsFrom (fun n =>
          (run endpoints executor chain filters (s.request n perPage projection)).outcome) 0 read ↔
            read = records := by
  have houtcome (n : Nat) := outcome_request hserves hstages n perPage
  refine ⟨slice records perPage, houtcome, flatMap_slice records perPage, slice_eq_nil_iff hpos, ?_⟩
  intro read
  rw [readsFrom_iff houtcome hpos, Nat.zero_mul, List.drop_zero]

/-! ## An executor that serves a list -/

/-- The response that holds some records. -/
def response (records : List Value) : Pages → List (Value × Value)
  | trees => [(.text "trees", .list records)]
  | wearers hat =>
    [(.text "hat", .dict [(.text "id", .text (HatId.toHex hat)), (.text "wearers", .list records)])]

/-- The number that a variable asks for. -/
def amount (name : String) (bindings : List (String × Value)) : Nat :=
  match bindings.lookup name with
  | some (.int n) => n.toNat
  | _ => 0

/-- **An executor that serves a list** out of its variables. -/
def slices (s : Pages) (records : List Value) (sent : Sent) : Except Report Value :=
  .ok (.dict (s.response ((records.drop (amount "skip" sent.bindings)).take
    (amount "first" sent.bindings))))

theorem serves_slices (s : Pages) (records : List Value) : s.Serves records (s.slices records) := by
  intro sent skip first hsent
  refine ⟨_, rfl, ?_⟩
  rw [hsent]
  cases s with
  | trees => rfl
  | wearers hat => exact ⟨_, rfl, rfl⟩

/-- Three wearers on pages of two: the first two pages make up the list, the third page is empty,
and nothing but the three wearers is read. -/
theorem pages_of_serves_three_wearers :
    (wearers 1).Serves [.int 7, .int 8, .int 9] ((wearers 1).slices [.int 7, .int 8, .int 9]) ∧
      ∃ page : Nat → List Value, page 0 ++ page 1 = [.int 7, .int 8, .int 9] ∧
        (run .standard ((wearers 1).slices [.int 7, .int 8, .int 9]) (.int 10) .absent
          ((wearers 1).request 2 2 (.dict []))).outcome = .ok (.list []) ∧
        ReadsFrom (fun n => (run .standard ((wearers 1).slices [.int 7, .int 8, .int 9]) (.int 10)
          .absent ((wearers 1).request n 2 (.dict []))).outcome) 0 [.int 7, .int 8, .int 9] := by
  have hserves := serves_slices (wearers 1) [.int 7, .int 8, .int 9]
  obtain ⟨page, houtcome, hfront, hempty, hread⟩ := pages_of_serves (wearers 1) _ .standard _
    (.int 10) .absent (.dict []) 2 (by decide) hserves (List.findSome?_eq_none_iff.mp rfl)
  have hlast : page 2 = [] := (hempty 2).mpr (by decide)
  refine ⟨hserves, page, ?_, ?_, (hread _).mpr rfl⟩
  · simpa [List.range_succ] using hfront 2
  · exact (houtcome 2).trans (by rw [hlast])

end Pages

end HatTree.Lookup
