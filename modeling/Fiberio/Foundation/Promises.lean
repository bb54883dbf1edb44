import Mathlib.Logic.Function.Basic
import Fiberio.Foundation.Ledger

/-!
Owns the account of a component whose calls wait on promises. A suspended call
holds one promise, for the answer to a request or for the end of the
component; a callback writes a log and resolves it. `Registry.Step` lists what
a step may do with promises, and a component that takes such steps only keeps
its ledger in order.

Does not own what the calls do, or where a callback finds the promise it
resolves.
-/

namespace Fiberio.Foundation

universe u v w x y

/-! ## What a component registers -/

/-- A promise on the stack of a suspended call: what the call waits for, the
number it drew, and the result when there is one. -/
structure Promise (Waiting : Type w) (Result : Type x) where
  waiting : Waiting
  serial : Nat
  result : Option Result

/-- What the events of a log say about promises. -/
structure Callbacks (Event : Type v) (Waiting : Type w) (Status : Type y) (Result : Type x) where
  /-- The request and the status of a callback. -/
  answer : Event → Option (Nat × Status)
  /-- The callback of the end ran. -/
  isEnd : Event → Bool
  /-- The wait is for a request, and not for the end. -/
  forRequest : Waiting → Bool
  judge : Status → Result
  done : Result

/-- The part of a component's state that the account is about. A request is
listed with the call whose promise it resolves. -/
structure Registry (Call : Type u) (Event : Type v) (Waiting : Type w) (Result : Type x) where
  log : List Event
  requests : List (Nat × Call)
  serials : Nat
  promise : Call → Option (Promise Waiting Result)
  ended : Bool

variable {Call : Type u} {Event : Type v} {Waiting : Type w} {Result : Type x} {Status : Type y}

/-- The listing of what remains when a request is erased. -/
theorem mem_map_erase {Request : Type v} [DecidableEq Request] {listing : Request → Nat × Call}
    {requests : List Request} {request : Request} {other : Nat × Call}
    (distinct : (requests.map fun request => (listing request).1).Nodup)
    (registered : request ∈ requests) (remains : other ∈ (requests.erase request).map listing) :
    other ∈ requests.map listing ∧ other.1 ≠ (listing request).1 := by
  obtain ⟨remaining, found, rfl⟩ := List.mem_map.mp remains
  obtain ⟨member, differs⟩ := mem_erase_of_distinct distinct registered found
  exact ⟨List.mem_map_of_mem member, differs⟩

namespace Registry

variable (callbacks : Callbacks Event Waiting Status Result)

def ledger (registry : Registry Call Event Waiting Result) : Ledger Status Result where
  answers := registry.log.filterMap callbacks.answer
  pending := registry.requests.map Prod.fst
  resolved := fun serial result => ∃ call waiting, callbacks.forRequest waiting = true ∧
    registry.promise call = some ⟨waiting, serial, some result⟩
  serials := registry.serials

/-- The requests are accounted for, and so is the callback of the end. -/
structure Accounted (registry : Registry Call Event Waiting Result) : Prop where
  ledger : Ledger.Accounted callbacks.judge (registry.ledger callbacks)
  ends : registry.log.countP callbacks.isEnd = if registry.ended then 1 else 0
  ended : ∀ call waiting serial result, callbacks.forRequest waiting = false →
    registry.promise call = some ⟨waiting, serial, some result⟩ → result = callbacks.done

/-! ## Steps without an answer -/

/-- The events are none of a callback that resolves a promise. -/
def Silent (events : List Event) : Prop :=
  ∀ event ∈ events, callbacks.answer event = none ∧ callbacks.isEnd event = false

/-- The step runs no callback: it logs other events, registers requests under
new numbers only, and resolves no promise. -/
structure Unanswered (before after : Registry Call Event Waiting Result) (events : List Event) :
    Prop where
  log : after.log = before.log ++ events
  silent : Silent callbacks events
  requests : ∀ request ∈ after.requests, request ∈ before.requests ∨
    before.serials ≤ request.1 ∧ request.1 < after.serials
  serials : before.serials ≤ after.serials
  resolved : ∀ call waiting serial result,
    after.promise call = some ⟨waiting, serial, some result⟩ →
      before.promise call = some ⟨waiting, serial, some result⟩
  ended : after.ended = before.ended

variable {callbacks} {before middle after : Registry Call Event Waiting Result}
  {events : List Event}

theorem Silent.answers (silent : Silent callbacks events) :
    events.filterMap callbacks.answer = [] :=
  List.filterMap_eq_nil_iff.mpr fun event member => (silent event member).1

theorem Silent.ends (silent : Silent callbacks events) : events.countP callbacks.isEnd = 0 := by
  apply List.countP_eq_zero.mpr
  intro event member
  rw [(silent event member).2]
  decide

theorem Silent.append {more : List Event} (silent : Silent callbacks events)
    (further : Silent callbacks more) : Silent callbacks (events ++ more) := by
  intro event member
  rcases List.mem_append.mp member with early | late
  · exact silent event early
  · exact further event late

namespace Unanswered

theorem trans {more : List Event} (first : Unanswered callbacks before middle events)
    (second : Unanswered callbacks middle after more) :
    Unanswered callbacks before after (events ++ more) where
  log := by rw [second.log, first.log, List.append_assoc]
  silent := first.silent.append second.silent
  requests := by
    intro request member
    rcases second.requests request member with old | ⟨new, below⟩
    · rcases first.requests request old with older | ⟨new, below⟩
      · exact .inl older
      · exact .inr ⟨new, Nat.lt_of_lt_of_le below second.serials⟩
    · exact .inr ⟨Nat.le_trans first.serials new, below⟩
  serials := Nat.le_trans first.serials second.serials
  resolved := fun call waiting serial result isSet =>
    first.resolved call waiting serial result (second.resolved call waiting serial result isSet)
  ended := by rw [second.ended, first.ended]

/-- Nothing that the account speaks about changes, except the log. -/
theorem logs (events : List Event) (silent : Silent callbacks events)
    (log : after.log = before.log ++ events) (requests : after.requests = before.requests)
    (serials : before.serials ≤ after.serials) (promise : after.promise = before.promise)
    (ended : after.ended = before.ended) : Unanswered callbacks before after events where
  log := log
  silent := silent
  requests := fun _ member => .inl (requests ▸ member)
  serials := serials
  resolved := fun _ _ _ _ isSet => promise ▸ isSet
  ended := ended

variable [DecidableEq Call] {mover : Call} {held : Option (Promise Waiting Result)}

/-- One call moves, to where it holds no promise or one without a result. -/
theorem move (events : List Event) (silent : Silent callbacks events)
    (log : after.log = before.log ++ events) (requests : after.requests = before.requests)
    (serials : before.serials ≤ after.serials)
    (promise : after.promise = Function.update before.promise mover held)
    (unresolved : ∀ waiting serial result, held ≠ some ⟨waiting, serial, some result⟩)
    (ended : after.ended = before.ended) : Unanswered callbacks before after events where
  log := log
  silent := silent
  requests := fun _ member => .inl (requests ▸ member)
  serials := serials
  resolved := by
    intro call waiting serial result isSet
    rw [promise] at isSet
    by_cases same : call = mover
    · rw [same, Function.update_self] at isSet
      exact absurd isSet (unresolved waiting serial result)
    · rwa [Function.update_of_ne same] at isSet
  ended := ended

/-- One call registers a request and waits for it. -/
theorem register {waiting : Waiting} (events : List Event) (silent : Silent callbacks events)
    (log : after.log = before.log ++ events)
    (requests : after.requests = before.requests ++ [(before.serials, mover)])
    (serials : after.serials = before.serials + 1)
    (promise : after.promise =
      Function.update before.promise mover (some ⟨waiting, before.serials, none⟩))
    (ended : after.ended = before.ended) : Unanswered callbacks before after events := by
  have moved : Unanswered callbacks before { after with requests := before.requests } events :=
    move events silent log rfl (by rw [serials]; omega) promise (by simp) ended
  refine ⟨log, silent, ?_, moved.serials, moved.resolved, ended⟩
  intro request member
  rw [requests, List.mem_append, List.mem_singleton] at member
  rcases member with old | rfl
  · exact .inl old
  · exact .inr ⟨Nat.le_refl _, by rw [serials]; exact Nat.lt_succ_self _⟩

end Unanswered

/-! ## Steps that answer -/

variable [DecidableEq Call]

/-- What a step does with promises: it resolves none, or that of an answered
request, or that of the call which waits for the end. `answered` is the request
that the step answers, with its status. -/
inductive Step (callbacks : Callbacks Event Waiting Status Result)
    (answered : Option (Nat × Status)) (before after : Registry Call Event Waiting Result) :
    Prop where
  | quiet {events : List Event} (unanswered : Unanswered callbacks before after events)
  | answers {id : Nat} {status : Status} {call : Call} {waiting : Waiting} {event : Event}
      (asked : answered = some (id, status)) (registered : (id, call) ∈ before.requests)
      (awaits : before.promise call = some ⟨waiting, id, none⟩)
      (forRequest : callbacks.forRequest waiting = true)
      (log : after.log = before.log ++ [event])
      (answer : callbacks.answer event = some (id, status))
      (isEnd : callbacks.isEnd event = false)
      (requests : ∀ other ∈ after.requests, other ∈ before.requests ∧ other.1 ≠ id)
      (serials : after.serials = before.serials)
      (promise : after.promise = Function.update before.promise call
        (some ⟨waiting, id, some (callbacks.judge status)⟩))
      (ended : after.ended = before.ended)
  | ends {call : Call} {waiting : Waiting} {serial : Nat} {event : Event}
      (unasked : answered = none) (goesOn : before.ended = false)
      (forEnd : callbacks.forRequest waiting = false)
      (log : after.log = before.log ++ [event]) (answer : callbacks.answer event = none)
      (isEnd : callbacks.isEnd event = true) (requests : after.requests = before.requests)
      (serials : after.serials = before.serials)
      (promise : after.promise = Function.update before.promise call
        (some ⟨waiting, serial, some callbacks.done⟩))
      (ended : after.ended = true)

variable {answered : Option (Nat × Status)}

/-- Where the result of a promise comes from. -/
theorem Step.resolved (step : Step callbacks answered before after) {call : Call}
    {waiting : Waiting} {serial : Nat} {result : Result}
    (isSet : after.promise call = some ⟨waiting, serial, some result⟩) :
    before.promise call = some ⟨waiting, serial, some result⟩ ∨
      (∃ status, answered = some (serial, status) ∧ (serial, call) ∈ before.requests ∧
        before.promise call = some ⟨waiting, serial, none⟩ ∧
        callbacks.forRequest waiting = true ∧ result = callbacks.judge status) ∨
      callbacks.forRequest waiting = false ∧ result = callbacks.done := by
  cases step with
  | quiet unanswered => exact .inl (unanswered.resolved call waiting serial result isSet)
  | @answers _ status answered _ _ asked registered awaits forRequest _ _ _ _ _ promise _ =>
      rw [promise] at isSet
      by_cases same : call = answered
      · subst same
        rw [Function.update_self] at isSet
        cases isSet
        exact .inr (.inl ⟨status, asked, registered, awaits, forRequest, rfl⟩)
      · rw [Function.update_of_ne same] at isSet
        exact .inl isSet
  | @ends closer _ _ _ _ _ forEnd _ _ _ _ _ promise _ =>
      rw [promise] at isSet
      by_cases same : call = closer
      · rw [same, Function.update_self] at isSet
        cases isSet
        exact .inr (.inr ⟨forEnd, rfl⟩)
      · rw [Function.update_of_ne same] at isSet
        exact .inl isSet

/-- Every step is a step of the ledger. -/
theorem Step.ledgerStep (step : Step callbacks answered before after) :
    Ledger.Step callbacks.judge (before.ledger callbacks) (after.ledger callbacks) := by
  have origin : ∀ call waiting serial result, callbacks.forRequest waiting = true →
      after.promise call = some ⟨waiting, serial, some result⟩ →
        (before.ledger callbacks).resolved serial result ∨
          ∃ status, answered = some (serial, status) ∧ result = callbacks.judge status := by
    intro call waiting serial result forRequest isSet
    rcases step.resolved isSet with held | ⟨status, asked, _, _, _, judged⟩ | ⟨forEnd, _⟩
    · exact .inl ⟨call, waiting, forRequest, held⟩
    · exact .inr ⟨status, asked, judged⟩
    · exact absurd (forRequest.symm.trans forEnd) (by decide)
  cases step with
  | quiet unanswered =>
      apply Ledger.Step.quiet
      · show after.log.filterMap callbacks.answer = before.log.filterMap callbacks.answer
        rw [unanswered.log, List.filterMap_append, unanswered.silent.answers, List.append_nil]
      · intro id member
        obtain ⟨request, listed, rfl⟩ := List.mem_map.mp member
        exact (unanswered.requests request listed).imp_left fun old => List.mem_map_of_mem old
      · exact unanswered.serials
      · rintro serial result ⟨call, waiting, forRequest, isSet⟩
        exact ⟨call, waiting, forRequest, unanswered.resolved call waiting serial result isSet⟩
  | @answers id status _ _ _ asked registered _ _ log answer _ requests serials _ _ =>
      apply Ledger.Step.answer id status (List.mem_map_of_mem registered)
      · show after.log.filterMap callbacks.answer =
          before.log.filterMap callbacks.answer ++ [(id, status)]
        rw [log, List.filterMap_append, List.filterMap_cons_some answer, List.filterMap_nil]
      · intro other listed
        obtain ⟨remaining, found, rfl⟩ := List.mem_map.mp listed
        exact ⟨List.mem_map_of_mem (requests remaining found).1, (requests remaining found).2⟩
      · exact serials
      · rintro serial result ⟨call, waiting, forRequest, isSet⟩
        refine (origin call waiting serial result forRequest isSet).imp_right ?_
        rintro ⟨reported, sameRequest, judged⟩
        cases asked.symm.trans sameRequest
        exact ⟨rfl, judged⟩
  | ends unasked _ _ log answer _ requests serials _ _ =>
      apply Ledger.Step.quiet
      · show after.log.filterMap callbacks.answer = before.log.filterMap callbacks.answer
        rw [log, List.filterMap_append, List.filterMap_cons_none answer, List.filterMap_nil,
          List.append_nil]
      · intro id listed
        left
        show id ∈ before.requests.map Prod.fst
        rw [← requests]
        exact listed
      · exact Nat.le_of_eq serials.symm
      · rintro serial result ⟨call, waiting, forRequest, isSet⟩
        rcases origin call waiting serial result forRequest isSet with held | ⟨_, asked, _⟩
        · exact held
        · cases unasked.symm.trans asked

theorem Step.accounted (step : Step callbacks answered before after)
    (accounted : Accounted callbacks before) : Accounted callbacks after := by
  refine ⟨step.ledgerStep.accounted accounted.ledger, ?_, ?_⟩
  · cases step with
    | quiet unanswered =>
        rw [unanswered.log, List.countP_append, unanswered.silent.ends, unanswered.ended]
        exact accounted.ends
    | answers _ _ _ _ log _ isEnd _ _ _ ended =>
        rw [log, List.countP_append, ended, accounted.ends]
        simp [isEnd]
    | ends _ goesOn _ log _ isEnd _ _ _ ended =>
        rw [log, List.countP_append, ended, accounted.ends, goesOn]
        simp [isEnd]
  · intro call waiting serial result forEnd isSet
    rcases step.resolved isSet with held | ⟨_, _, _, _, forRequest, _⟩ | ⟨_, done⟩
    · exact accounted.ended call waiting serial result forEnd held
    · exact absurd (forRequest.symm.trans forEnd) (by decide)
    · exact done

end Registry

end Fiberio.Foundation
