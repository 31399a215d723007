import HatTree.Proofs.HatId.Digits
import HatTree.Proofs.Lookup.Stages
import Mathlib.Data.List.Perm.Subperm

/-!
# Looking several objects up at once

Whether one of several objects is missing is decided by numbers alone: there have to be as many
records as ids. An index that holds one record for each existing object therefore answers exactly
those requests in which every id exists and none is repeated. A repeated id counts as a missing
object, even if it exists.

## Main definitions

* `Batch`: the requests for several objects
* `Batch.Serves`: executors that answer from an index
* `Batch.index`: such an executor for finitely many objects

## Main results

* `name_injective`: ids in range have different names
* `length_le_iff`: there are as many records as names when all names exist and none is repeated
* `outcome_of_serves`: the outcome of a request for several objects
-/

namespace HatTree

/-- Padded digits of one width tell numbers apart. -/
theorem Numeral.padded_injective {w n m : Nat} (hw : 0 < w) (hn : n < 16 ^ w) (hm : m < 16 ^ w)
    (h : padded w (n : Int) = padded w (m : Int)) : n = m := by
  rw [padded_eq_places hw hn, padded_eq_places hw hm] at h
  have hvalue := congrArg (value 16) h
  rwa [value_places, value_places, Nat.mod_eq_of_lt hn, Nat.mod_eq_of_lt hm] at hvalue

namespace Lookup

/-- **The requests for several objects.** -/
inductive Batch where
  | hats
  | trees

namespace Batch

/-- The request for the objects with the given ids. -/
def request (ids : List Int) (projection : Value) : Batch → Request
  | hats => .hats ids projection
  | trees => .trees ids projection

/-- The key of the response under which the records stand. -/
def key : Batch → String
  | hats => "hats"
  | trees => "trees"

def bits : Batch → Nat
  | hats => Layout.idBits
  | trees => Layout.domainBits

/-- **The name of an object in the index.** -/
def name (id : Int) : Batch → String
  | hats => HatId.toHex id
  | trees => HatId.treeToHex id

/-- The fault about a missing object. -/
def missing (chain : Value) : Batch → Fault
  | hats => .fewerHats chain
  | trees => .fewerTrees chain

def kind : Batch → Kind
  | hats => .subgraphHatNotExist
  | trees => .subgraphTreeNotExist

def InRange (b : Batch) (id : Int) : Prop := 0 ≤ id ∧ id < 2 ^ b.bits

/-- **An executor that answers from an index**: it returns one record for each distinct name that it
is asked for and that exists, in any order. -/
def Serves (b : Batch) (existing : Set String) (record : String → Value)
    (executor : Sent → Except Report Value) : Prop :=
  ∀ (sent : Sent) (asked : List String), sent.bindings = [("ids", .list (asked.map .text))] →
    ∃ (entries : List (Value × Value)) (held : List String), executor sent = .ok (.dict entries) ∧
      Value.lookup b.key entries = some (.list (held.map record)) ∧ held.Nodup ∧
      ∀ name, name ∈ held ↔ name ∈ asked ∧ name ∈ existing

variable {b : Batch} {ids : List Int} {projection chain : Value}

theorem bindings_request :
    (b.request ids projection).bindings =
      [("ids", .list ((ids.map fun id => b.name id).map .text))] := by
  cases b with
  | hats =>
    rw [List.map_map]
    rfl
  | trees =>
    rw [List.map_map]
    rfl

/-- **The answer is in the response when there are as many records as ids.** -/
theorem answer_request {entries : List (Value × Value)} {records : List Value}
    (h : Value.lookup b.key entries = some (.list records)) :
    (b.request ids projection).answer chain (.dict entries) =
      if records.length < ids.length then .error (b.missing chain) else .ok (.list records) := by
  cases b with
  | hats =>
    show (member "hats" (.dict entries) >>= _) = _
    rw [member, show Value.lookup "hats" entries = _ from h]
    rfl
  | trees =>
    show (member "trees" (.dict entries) >>= _) = _
    rw [member, show Value.lookup "trees" entries = _ from h]
    rfl

/-! ## Names -/

theorem name_eq (id : Int) : b.name id = HatId.marked (Numeral.padded (b.bits / 4) id) := by
  cases b <;> rfl

theorem two_pow_bits : 2 ^ b.bits = 16 ^ (b.bits / 4) := by
  cases b <;> decide

/-- **Ids in range have different names.** -/
theorem name_injective {id id' : Int} (hid : b.InRange id) (hid' : b.InRange id')
    (h : b.name id = b.name id') : id = id' := by
  obtain ⟨n, rfl⟩ := Int.eq_ofNat_of_zero_le hid.1
  obtain ⟨m, rfl⟩ := Int.eq_ofNat_of_zero_le hid'.1
  have hn : n < 16 ^ (b.bits / 4) := by
    rw [← two_pow_bits]
    exact_mod_cast hid.2
  have hm : m < 16 ^ (b.bits / 4) := by
    rw [← two_pow_bits]
    exact_mod_cast hid'.2
  rw [name_eq, name_eq, HatId.marked, HatId.marked, String.ofList_inj, List.cons_inj_right,
    List.cons_inj_right] at h
  have hwidth : 0 < b.bits / 4 := by cases b <;> decide
  rw [Numeral.padded_injective hwidth hn hm h]

/-- Ids in range are distinct when their names are. -/
theorem nodup_names_iff (hrange : ∀ id ∈ ids, b.InRange id) :
    (ids.map fun id => b.name id).Nodup ↔ ids.Nodup := by
  constructor
  · intro h
    exact List.Nodup.of_map _ h
  · intro h
    exact h.map_on fun id hid id' hid' => name_injective (hrange id hid) (hrange id' hid')

/-! ## Counting -/

section Count

variable {held asked : List String} {existing : Set String} (hdistinct : held.Nodup)
  (hheld : ∀ name, name ∈ held ↔ name ∈ asked ∧ name ∈ existing)
include hdistinct hheld

theorem perm_of_length_le (h : asked.length ≤ held.length) : held.Perm asked :=
  (List.subperm_of_subset hdistinct fun name hname => ((hheld name).mp hname).1).perm_of_length_le h

/-- **There are as many records as names** when every name exists and none is repeated. -/
theorem length_le_iff :
    asked.length ≤ held.length ↔ asked.Nodup ∧ ∀ name ∈ asked, name ∈ existing := by
  constructor
  · intro h
    have hperm := perm_of_length_le hdistinct hheld h
    exact ⟨hperm.nodup_iff.mp hdistinct, fun name hname =>
      ((hheld name).mp (hperm.mem_iff.mpr hname)).2⟩
  · rintro ⟨hnodup, hall⟩
    exact (List.subperm_of_subset hnodup fun name hname =>
      (hheld name).mpr ⟨hname, hall name hname⟩).length_le

end Count

/-! ## Outcomes -/

theorem family_missing (b : Batch) (chain : Value) :
    (report (b.missing chain)).family =
      if chain.isWritable then .library b.kind else .badValue := by
  cases b <;> exact Report.family_ofWriting

/-- **The outcome of a request for several objects**, when all stages pass and the executor answers
from an index. The records are returned if and only if every id exists and none is repeated.
Otherwise the outcome is the fault about a missing object: so it is whenever an id does not exist,
but also when all of them do and one is repeated. It is reported as such when the chain, which the
message shows, can be written. -/
theorem outcome_of_serves (b : Batch) (existing : Set String) (record : String → Value)
    (endpoints : Endpoints) (executor : Sent → Except Report Value) (chain : Value)
    (filters : Filters) (ids : List Int) (projection : Value)
    (hserves : b.Serves existing record executor) (hrange : ∀ id ∈ ids, b.InRange id)
    (hstages : ∀ stage ∈ (b.request ids projection).stages,
      stage.fault? endpoints filters chain = none) :
    ((∃ held : List String, held.Perm (ids.map fun id => b.name id) ∧
        (run endpoints executor chain filters (b.request ids projection)).outcome =
          .ok (.list (held.map record))) ↔
        ids.Nodup ∧ ∀ id ∈ ids, b.name id ∈ existing) ∧
      ((run endpoints executor chain filters (b.request ids projection)).outcome =
          .error (b.missing chain) ↔
        ¬ (ids.Nodup ∧ ∀ id ∈ ids, b.name id ∈ existing)) ∧
      (report (b.missing chain)).family =
        if chain.isWritable then .library b.kind else .badValue := by
  obtain ⟨sent, hsent, -, houtcome⟩ :=
    run_of_stages executor (List.findSome?_eq_none_iff.mpr hstages)
  obtain ⟨entries, held, hexecutor, hlookup, hdistinct, hheld⟩ :=
    hserves sent _ (hsent.bindings.trans bindings_request)
  -- Names tell ids apart, so that the count of the records decides about the ids.
  have hcount := length_le_iff hdistinct hheld
  rw [nodup_names_iff hrange, List.forall_mem_map, List.length_map] at hcount
  rw [hexecutor] at houtcome
  have houtcome := houtcome.trans (answer_request hlookup)
  rw [List.length_map] at houtcome
  rw [← hcount, houtcome]
  refine ⟨?_, ?_, family_missing b chain⟩
  · constructor
    · rintro ⟨held', -, h⟩
      by_contra hlt
      rw [if_pos (by omega)] at h
      cases h
    · intro hle
      have hperm := perm_of_length_le hdistinct hheld (by rwa [List.length_map])
      exact ⟨held, hperm, if_neg (by omega)⟩
  · constructor
    · intro h hle
      rw [if_neg (by omega)] at h
      cases h
    · intro hlt
      rw [if_pos (by omega)]

/-! ## An index of finitely many objects -/

/-- Whether a name is among those that a value lists. -/
def lists (name : String) : Value → Bool
  | .list items => items.any fun item => match item with
    | .text s => s == name
    | _ => false
  | _ => false

/-- **An executor that answers from finitely many objects**: their records come in a fixed order. -/
def index (b : Batch) (existing : List String) (record : String → Value) (sent : Sent) :
    Except Report Value :=
  .ok (.dict [(.text b.key, .list ((existing.filter fun name =>
    sent.bindings.any fun (_, v) => lists name v).map record))])

theorem lists_texts {name : String} {asked : List String} :
    lists name (.list (asked.map .text)) = true ↔ name ∈ asked := by
  simp [lists, List.any_map]

theorem serves_index (b : Batch) {existing : List String} (h : existing.Nodup)
    (record : String → Value) :
    b.Serves {name | name ∈ existing} record (b.index existing record) := by
  intro sent asked hasked
  refine ⟨_, _, rfl, by rw [Value.lookup, if_pos rfl], h.filter _, fun name => ?_⟩
  rw [List.mem_filter, hasked, List.any_cons, List.any_nil, Bool.or_false, lists_texts]
  exact and_comm

/-- Asked twice for the hat one, which exists, a client reports a missing hat; asked once, it
returns the record. -/
theorem outcome_of_serves_repeated :
    hats.name 1 ∈ [hats.name 1] ∧
      (run .standard (hats.index [hats.name 1] fun name => .dict [(.text "id", .text name)])
          (.int 10) .absent (.hats [1, 1] (.dict []))).outcome = .error (.fewerHats (.int 10)) ∧
      ∃ held : List String, held.Perm [hats.name 1] ∧
        (run .standard (hats.index [hats.name 1] fun name => .dict [(.text "id", .text name)])
            (.int 10) .absent (.hats [1] (.dict []))).outcome =
          .ok (.list (held.map fun name => .dict [(.text "id", .text name)])) := by
  have hserves := serves_index hats (List.nodup_singleton (hats.name 1))
    fun name => .dict [(.text "id", .text name)]
  have hone : hats.InRange 1 := ⟨by decide, by decide⟩
  have hexists : hats.name 1 ∈ [hats.name 1] := List.mem_cons_self
  obtain ⟨-, herror, -⟩ := outcome_of_serves hats _ _ .standard _ (.int 10) .absent [1, 1]
    (.dict []) hserves (by simp [hone]) (List.findSome?_eq_none_iff.mp rfl)
  obtain ⟨hok, -, -⟩ := outcome_of_serves hats _ _ .standard _ (.int 10) .absent [1] (.dict [])
    hserves (by simp [hone]) (List.findSome?_eq_none_iff.mp rfl)
  exact ⟨hexists, herror.mpr (by simp), hok.mpr ⟨by simp, by simp⟩⟩

end Batch

end Lookup

end HatTree
