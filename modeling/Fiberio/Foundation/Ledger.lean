import Mathlib.Data.List.Nodup

/-!
Owns lists of numbered requests, and the abstract account of requests and their
answers: calls draw serial numbers, register requests under them, and each
registered request is answered once. `Accounted` says that the account is in
order, and every step of the account keeps it.

Does not own what a request is for, or who waits for the answer.
-/

namespace Fiberio.Foundation

universe u v

/-! ## Numbered requests -/

section Numbered

variable {Request : Type u} {number : Request → Nat} {requests : List Request}
  {request other : Request}

/-- A registered request is found by its number. -/
theorem find_of_distinct (distinct : (requests.map number).Nodup)
    (registered : request ∈ requests) :
    requests.find? (fun other => number other == number request) = some request := by
  have found : (requests.find? (fun other => number other == number request)).isSome = true :=
    List.find?_isSome.mpr ⟨request, registered, by simp⟩
  obtain ⟨other, found⟩ := Option.isSome_iff_exists.mp found
  have same : number other = number request := by simpa using List.find?_some found
  rw [found, List.inj_on_of_nodup_map distinct (List.mem_of_find?_eq_some found) registered same]

/-- What remains when a request is erased has other numbers. -/
theorem mem_erase_of_distinct [DecidableEq Request] (distinct : (requests.map number).Nodup)
    (registered : request ∈ requests) (remains : other ∈ requests.erase request) :
    other ∈ requests ∧ number other ≠ number request := by
  have member := List.mem_of_mem_erase remains
  refine ⟨member, fun same => ?_⟩
  rw [List.inj_on_of_nodup_map distinct member registered same] at remains
  exact (List.Nodup.of_map number distinct).not_mem_erase remains

end Numbered

/-! ## The ledger -/

/-- What has been answered, what is still to be answered, and which answers
their callers hold: `resolved serial result` says that a call holds the result
of the request `serial`. -/
structure Ledger (Status : Type u) (Result : Type v) where
  answers : List (Nat × Status)
  pending : List Nat
  resolved : Nat → Result → Prop
  serials : Nat

namespace Ledger

variable {Status : Type u} {Result : Type v} (judge : Status → Result)
  {before after : Ledger Status Result}

/-- Calls come and go and register requests under new numbers, or one request
is answered, with the judgement of its own status. -/
inductive Step (before after : Ledger Status Result) : Prop where
  | quiet (answers : after.answers = before.answers)
      (pending : ∀ id ∈ after.pending,
        id ∈ before.pending ∨ before.serials ≤ id ∧ id < after.serials)
      (serials : before.serials ≤ after.serials)
      (resolved : ∀ serial result, after.resolved serial result →
        before.resolved serial result)
  | answer (id : Nat) (status : Status) (registered : id ∈ before.pending)
      (answers : after.answers = before.answers ++ [(id, status)])
      (pending : ∀ other ∈ after.pending, other ∈ before.pending ∧ other ≠ id)
      (serials : after.serials = before.serials)
      (resolved : ∀ serial result, after.resolved serial result →
        before.resolved serial result ∨ serial = id ∧ result = judge status)

/-- No request is answered twice or unasked, and every result that a call
holds is the judgement of the status its own request was answered with. -/
structure Accounted (ledger : Ledger Status Result) : Prop where
  asked : ∀ id ∈ ledger.pending, id < ledger.serials
  answered : ∀ answer ∈ ledger.answers, answer.1 < ledger.serials
  once : (ledger.answers.map Prod.fst).Nodup
  unanswered : ∀ id ∈ ledger.pending, id ∉ ledger.answers.map Prod.fst
  own : ∀ serial result, ledger.resolved serial result →
    ∃ status, (serial, status) ∈ ledger.answers ∧ result = judge status

variable {judge}

theorem Step.accounted (step : Step judge before after) (accounted : Accounted judge before) :
    Accounted judge after := by
  cases step with
  | quiet answers pending serials resolved =>
      constructor
      · intro id member
        rcases pending id member with old | new
        · exact Nat.lt_of_lt_of_le (accounted.asked id old) serials
        · exact new.2
      · intro answer member
        rw [answers] at member
        exact Nat.lt_of_lt_of_le (accounted.answered answer member) serials
      · rw [answers]
        exact accounted.once
      · intro id member
        rw [answers]
        rcases pending id member with old | new
        · exact accounted.unanswered id old
        · -- A new number is above everything that was answered.
          intro listed
          obtain ⟨answer, found, rfl⟩ := List.mem_map.mp listed
          have old := accounted.answered answer found
          omega
      · intro serial result holds
        rw [answers]
        exact accounted.own serial result (resolved serial result holds)
  | answer id status registered answers pending serials resolved =>
      constructor
      · intro other member
        rw [serials]
        exact accounted.asked other (pending other member).1
      · intro answer member
        rw [serials]
        rw [answers, List.mem_append] at member
        rcases member with old | new
        · exact accounted.answered answer old
        · rw [List.mem_singleton.mp new]
          exact accounted.asked id registered
      · rw [answers, List.map_append, List.nodup_append]
        refine ⟨accounted.once, by simp, ?_⟩
        intro earlier listed new isNew same
        rw [List.mem_singleton.mp isNew] at same
        rw [same] at listed
        exact accounted.unanswered id registered listed
      · intro other member
        obtain ⟨old, differs⟩ := pending other member
        rw [answers, List.map_append, List.mem_append]
        intro listed
        rcases listed with earlier | new
        · exact accounted.unanswered other old earlier
        · exact differs (List.mem_singleton.mp new)
      · intro serial result holds
        rw [answers]
        rcases resolved serial result holds with old | ⟨rfl, rfl⟩
        · obtain ⟨status, listed, judged⟩ := accounted.own serial result old
          exact ⟨status, List.mem_append_left _ listed, judged⟩
        · exact ⟨status, List.mem_append_right _ (List.mem_singleton_self _), rfl⟩

end Ledger

end Fiberio.Foundation
