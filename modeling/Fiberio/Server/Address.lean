import Fiberio.Server.Ownership

/-!
Owns what `get_host` and `get_port` report after any sequence of `bind`
calls. `bind` stores the address it was asked for before it passes its three
points of failure, so a call that throws leaves that address behind; it leaves
the reported address alone exactly when it was asked for the same one.

Does not own calls of `bind` that overlap.
-/

namespace Fiberio.Server

open Fiberio.Foundation

variable {Fib Sock : Type}

/-! ## Sequences of `bind` calls -/

/-- One call of `bind`, with what libuv answers on its way: the status of
`uv_getaddrinfo`, the one its callback reports, and the answers after that.
The address that `uv_tcp_getsockname` returns is an IPv4 or an IPv6 one. -/
structure BindCall (Fib Sock : Type) where
  fib : Fib
  host : String
  port : UInt16
  lookupStatus : Int
  lookupAnswer : Int
  answers : Answers Sock
  internet : answers.name ≠ .other

namespace BindCall

/-- None of the three points of failure is hit. -/
def succeeds (call : BindCall Fib Sock) : Bool :=
  decide (0 ≤ call.lookupStatus ∧ 0 ≤ call.lookupAnswer ∧ 0 ≤ call.answers.status ∧
    0 ≤ call.answers.nameStatus)

/-- The address that `uv_tcp_getsockname` returns. -/
def bound (call : BindCall Fib Sock) : String × UInt16 :=
  call.answers.name.address call.host call.port

/-- The steps of the call, when the next request gets the number `serial`. -/
def actions (call : BindCall Fib Sock) (serial : Nat) : List (Action Fib Sock) :=
  if call.lookupStatus < 0 then
    [.bind call.fib call.host call.port call.lookupStatus]
  else
    [.bind call.fib call.host call.port call.lookupStatus, .complete serial call.lookupAnswer,
      .resume call.fib call.answers]

end BindCall

/-- What `get_host` and `get_port` report. -/
def State.address (state : State Fib Sock) : String × UInt16 := (state.getHost, state.getPort)

/-- The address of the last call that succeeded, or the given one. -/
def lastBound (address : String × UInt16) (calls : List (BindCall Fib Sock)) :
    String × UInt16 :=
  calls.foldl (fun address call => if call.succeeds then call.bound else address) address

variable [DecidableEq Fib] [Fintype Fib]

/-- The calls run one after the other. -/
def bindAll (state : State Fib Sock) : List (BindCall Fib Sock) → Option (State Fib Sock)
  | [] => some state
  | call :: rest =>
      ((machine Fib Sock).exec state (call.actions state.serials)).bind fun after =>
        bindAll after rest

theorem bindAll_append (state : State Fib Sock) (first second : List (BindCall Fib Sock)) :
    bindAll state (first ++ second) =
      (bindAll state first).bind fun middle => bindAll middle second := by
  induction first generalizing state with
  | nil => rfl
  | cons call rest inductionHypothesis =>
      simp only [List.cons_append, bindAll]
      cases (machine Fib Sock).exec state (call.actions state.serials) with
      | none => rfl
      | some after => exact inductionHypothesis after

/-! ## One call -/

/-- What one call of `bind` does to the server socket. -/
structure Binds (state : State Fib Sock) (call : BindCall Fib Sock) (after : State Fib Sock) :
    Prop where
  free : ∀ fib, state.canCall fib = true → after.canCall fib = true
  returns : call.succeeds = true → after.fiber call.fib = .idle (some .returned)
  throws : call.succeeds = false →
    ∃ exc, after.fiber call.fib = .idle (some (.threw exc))
  address : after.address = if call.succeeds then call.bound else (call.host, call.port)

section Call

variable {state : State Fib Sock} {call : BindCall Fib Sock}

omit [DecidableEq Fib] [Fintype Fib] in
/-- The request that `bind` registers is found under its own number. -/
theorem Owned.find_fresh (owned : Owned state) (data : Socket.PromiseRef Fib) :
    (state.requests ++ [Request.mk state.serials data]).find?
      (fun request => request.id == state.serials) = some ⟨state.serials, data⟩ := by
  have earlier : state.requests.find? (fun request => request.id == state.serials) = none := by
    apply List.find?_eq_none.mpr
    intro request listed same
    have awaits := (owned.pending request listed).2
    have below := owned.fresh _ _ _ _ awaits
    rw [eq_of_beq same] at below
    omega
  rw [List.find?_append, earlier]
  simp

omit [Fintype Fib] in
/-- The call ends, and nobody else has moved. -/
theorem Binds.of_finish {after : State Fib Sock} {outcome : Outcome Sock}
    (life : after.life = state.life)
    (fibers : after.fiber = Function.update state.fiber call.fib (.idle (some outcome)))
    (returns : call.succeeds = true → outcome = .returned)
    (throws : call.succeeds = false → ∃ exc, outcome = .threw exc)
    (address : after.address = if call.succeeds then call.bound else (call.host, call.port)) :
    Binds state call after := by
  have now : after.fiber call.fib = .idle (some outcome) := by
    rw [fibers, Function.update_self]
  refine ⟨?_, ?_, ?_, address⟩
  · intro fib free
    simp only [State.canCall, Bool.and_eq_true] at free ⊢
    rw [life]
    refine ⟨free.1, ?_⟩
    by_cases same : fib = call.fib
    · rw [same, now]
      rfl
    · rw [fibers, Function.update_of_ne same]
      exact free.2
  · intro succeeds
    rw [now, returns succeeds]
  · intro fails
    obtain ⟨exc, threw⟩ := throws fails
    exact ⟨exc, by rw [now, threw]⟩

theorem checkUvStatus_error_of_neg {status : Int} (negative : ¬ 0 ≤ status) :
    ∃ exc, checkUvStatus status = .error exc := by
  cases checked : checkUvStatus status with
  | ok value => exact absurd (checkUvStatus_eq_ok_iff.mp checked) negative
  | error exc => exact ⟨exc, rfl⟩

omit [Fintype Fib] in
/-- The end of `bind`, from the answer of `getaddrinfo` on. -/
theorem bindResolved_binds {answered : State Fib Sock} {waits : Fiber Sock}
    (looksUp : 0 ≤ call.lookupStatus) (life : answered.life = state.life)
    (fibers : answered.fiber = Function.update state.fiber call.fib waits)
    (noted : answered.address = (call.host, call.port)) :
    Binds state call (answered.bindResolved call.fib (checkUvStatus call.lookupAnswer)
      call.answers.status call.answers.nameStatus call.answers.name) := by
  have ended : ∀ outcome, Function.update answered.fiber call.fib (.idle (some outcome)) =
      Function.update state.fiber call.fib (.idle (some outcome)) := by
    intro outcome
    rw [fibers, Function.update_idem]
  by_cases resolved : 0 ≤ call.lookupAnswer
  · simp only [State.bindResolved, checkUvStatus_ok resolved]
    by_cases bound : 0 ≤ call.answers.status
    · simp only [checkUvStatus_ok bound, State.updateAddress]
      by_cases named : 0 ≤ call.answers.nameStatus
      · have succeeds : call.succeeds = true := by
          simp [BindCall.succeeds, looksUp, resolved, bound, named]
        simp only [checkUvStatus_ok named]
        cases isName : call.answers.name with
        | inet host port =>
            refine .of_finish life (ended _) (fun _ => rfl) (by simp [succeeds]) ?_
            simp [State.address, State.getHost, State.getPort, succeeds, BindCall.bound, isName,
              SockName.address]
        | inet6 host port =>
            refine .of_finish life (ended _) (fun _ => rfl) (by simp [succeeds]) ?_
            simp [State.address, State.getHost, State.getPort, succeeds, BindCall.bound, isName,
              SockName.address]
        | other => exact absurd isName call.internet
      · obtain ⟨exc, failed⟩ := checkUvStatus_error_of_neg named
        have fails : call.succeeds = false := by simp [BindCall.succeeds, named]
        simp only [failed]
        refine .of_finish life (ended _) (by simp [fails]) (fun _ => ⟨exc, rfl⟩) ?_
        rw [fails]
        exact noted
    · obtain ⟨exc, failed⟩ := checkUvStatus_error_of_neg bound
      have fails : call.succeeds = false := by simp [BindCall.succeeds, bound]
      simp only [failed]
      refine .of_finish life (ended _) (by simp [fails]) (fun _ => ⟨exc, rfl⟩) ?_
      rw [fails]
      exact noted
  · obtain ⟨exc, failed⟩ := checkUvStatus_error_of_neg resolved
    have fails : call.succeeds = false := by simp [BindCall.succeeds, resolved]
    simp only [State.bindResolved, failed]
    refine .of_finish life (ended _) (by simp [fails]) (fun _ => ⟨exc, rfl⟩) ?_
    rw [fails]
    exact noted

/-- Every call of `bind` ends, and leaves the address it was asked for unless
it succeeds. -/
theorem bind_call (owned : Owned state) (free : state.canCall call.fib = true) :
    ∃ after, (machine Fib Sock).exec state (call.actions state.serials) = some after ∧
      Binds state call after := by
  have called : (machine Fib Sock).step state
      (.bind call.fib call.host call.port call.lookupStatus) =
        some (state.bind call.fib call.host call.port call.lookupStatus) := if_pos free
  by_cases looksUp : 0 ≤ call.lookupStatus
  · -- The request is registered, answered, and the call goes on.
    let registered := State.register { state.emit .uvGetaddrinfo with
      host := call.host, port := call.port } call.fib
    let answered := { registered.emit (.callback state.serials call.lookupAnswer) with
      requests := registered.requests.erase
        ⟨state.serials, ⟨call.fib, state.serials⟩⟩ }.setFiber call.fib
          (.wait .getaddrinfo state.serials (.set (checkUvStatus call.lookupAnswer)))
    have called : (machine Fib Sock).step state
        (.bind call.fib call.host call.port call.lookupStatus) = some registered := by
      simp only [called, State.bind, checkUvStatus_ok looksUp]
      rfl
    have completed : (machine Fib Sock).step registered
        (.complete state.serials call.lookupAnswer) = some answered := by
      have found := owned.find_fresh ⟨call.fib, state.serials⟩
      show State.complete registered state.serials call.lookupAnswer = some answered
      unfold State.complete
      rw [show registered.requests = state.requests ++
        [⟨state.serials, ⟨call.fib, state.serials⟩⟩] from rfl, found]
      simp [State.resolve, registered, answered]
    have resumed : (machine Fib Sock).step answered (.resume call.fib call.answers) =
        some (answered.bindResolved call.fib (checkUvStatus call.lookupAnswer)
          call.answers.status call.answers.nameStatus call.answers.name) := by
      have awaits : answered.fiber call.fib =
          .wait .getaddrinfo state.serials (.set (checkUvStatus call.lookupAnswer)) :=
        Function.update_self _ _ _
      show State.resume answered call.fib call.answers = _
      unfold State.resume
      rw [awaits]
    have fibers : answered.fiber = Function.update state.fiber call.fib
        (.wait .getaddrinfo state.serials (.set (checkUvStatus call.lookupAnswer))) :=
      Function.update_idem _ _ _
    have binds : Binds state call (answered.bindResolved call.fib
        (checkUvStatus call.lookupAnswer) call.answers.status call.answers.nameStatus
        call.answers.name) := bindResolved_binds looksUp rfl fibers rfl
    rw [BindCall.actions, if_neg (by omega)]
    exact ⟨_, by simp [Machine.exec, called, completed, resumed], binds⟩
  · obtain ⟨exc, failed⟩ := checkUvStatus_error_of_neg looksUp
    have fails : call.succeeds = false := by simp [BindCall.succeeds, looksUp]
    simp only [State.bind, failed] at called
    rw [BindCall.actions, if_pos (by omega)]
    refine ⟨_, by rw [Machine.exec, called]; rfl, ?_⟩
    refine .of_finish rfl rfl (by simp [fails]) (fun _ => ⟨exc, rfl⟩) ?_
    simp [fails, State.address, State.getHost, State.getPort]

end Call

/-! ## Any number of calls -/

/-- A call that throws leaves the reported address as it was, so that the
address after all calls is that of the last one that succeeded. -/
def LeavesAddress (state : State Fib Sock) (calls : List (BindCall Fib Sock)) : Prop :=
  (∀ earlier call later before after exc, calls = earlier ++ call :: later →
    bindAll state earlier = some before → bindAll before [call] = some after →
    after.fiber call.fib = .idle (some (.threw exc)) → after.address = before.address) ∧
  ∀ after, bindAll state calls = some after → after.address = lastBound state.address calls

/-- Every call that fails asks for the address that is reported already. -/
def AsksForReported (address : String × UInt16) (calls : List (BindCall Fib Sock)) : Prop :=
  ∀ earlier call later, calls = earlier ++ call :: later → call.succeeds = false →
    (call.host, call.port) = lastBound address earlier

section Calls

variable {state : State Fib Sock} {calls : List (BindCall Fib Sock)}

/-- The calls run to their end, whatever libuv answers. -/
theorem bindAll_total (reachable : (machine Fib Sock).Reachable Machine.AnyStep state)
    (free : ∀ call ∈ calls, state.canCall call.fib = true) :
    ∃ after, bindAll state calls = some after ∧
      (machine Fib Sock).Reachable Machine.AnyStep after ∧
      ∀ fib, state.canCall fib = true → after.canCall fib = true := by
  induction calls generalizing state with
  | nil => exact ⟨state, rfl, reachable, fun _ => id⟩
  | cons call rest inductionHypothesis =>
      obtain ⟨middle, ran, binds⟩ :=
        bind_call (reachable_owned reachable) (free call List.mem_cons_self)
      have later := reachable.exec (Machine.along_anyStep _ _) ran
      obtain ⟨after, rest_ran, reached, stillFree⟩ := inductionHypothesis later
        fun other member => binds.free _ (free other (List.mem_cons_of_mem _ member))
      refine ⟨after, ?_, reached, fun fib isFree => stillFree fib (binds.free fib isFree)⟩
      rw [bindAll, ran]
      exact rest_ran

/-- A call in the middle of the sequence runs, and does what one call does. -/
theorem binds_within (reachable : (machine Fib Sock).Reachable Machine.AnyStep state)
    (free : ∀ call ∈ calls, state.canCall call.fib = true)
    {earlier later : List (BindCall Fib Sock)} {call : BindCall Fib Sock}
    (split : calls = earlier ++ call :: later) :
    ∃ before after, bindAll state earlier = some before ∧
      bindAll before [call] = some after ∧ Binds before call after := by
  have earlierFree : ∀ earlierCall ∈ earlier, state.canCall earlierCall.fib = true := by
    intro earlierCall member
    exact free earlierCall (by simp [split, member])
  obtain ⟨before, ranEarlier, reached, stillFree⟩ := bindAll_total reachable earlierFree
  have callFree := stillFree _ (free call (by simp [split]))
  obtain ⟨after, ranCall, binds⟩ := bind_call (reachable_owned reached) callFree
  exact ⟨before, after, ranEarlier, by rw [bindAll, ranCall]; rfl, binds⟩

theorem binds_of_bindAll (reachable : (machine Fib Sock).Reachable Machine.AnyStep state)
    (free : ∀ call ∈ calls, state.canCall call.fib = true)
    {earlier later : List (BindCall Fib Sock)} {call : BindCall Fib Sock}
    {before after : State Fib Sock} (split : calls = earlier ++ call :: later)
    (ranEarlier : bindAll state earlier = some before)
    (ranCall : bindAll before [call] = some after) : Binds before call after := by
  obtain ⟨otherBefore, otherAfter, otherEarlier, otherCall, binds⟩ :=
    binds_within reachable free split
  rw [ranEarlier] at otherEarlier
  cases otherEarlier
  rw [ranCall] at otherCall
  cases otherCall
  exact binds

omit [DecidableEq Fib] [Fintype Fib] in
theorem lastBound_append (address : String × UInt16) (earlier : List (BindCall Fib Sock))
    (call : BindCall Fib Sock) :
    lastBound address (earlier ++ [call]) =
      if call.succeeds then call.bound else lastBound address earlier := by
  simp [lastBound]

/-- If every failed call leaves the address alone, the address is that of the
last call that succeeded, after each of them. -/
theorem address_eq_lastBound (reachable : (machine Fib Sock).Reachable Machine.AnyStep state)
    (free : ∀ call ∈ calls, state.canCall call.fib = true)
    (leaves : ∀ earlier call later before after, calls = earlier ++ call :: later →
      bindAll state earlier = some before → before.address = lastBound state.address earlier →
      bindAll before [call] = some after → call.succeeds = false →
        after.address = before.address) :
    ∀ earlier later before, calls = earlier ++ later → bindAll state earlier = some before →
      before.address = lastBound state.address earlier := by
  intro earlier
  induction earlier using List.reverseRecOn with
  | nil =>
      intro later before _ ran
      cases ran
      rfl
  | append_singleton earlier call inductionHypothesis =>
      intro later after split ran
      have split : calls = earlier ++ call :: later := by simpa using split
      rw [bindAll_append] at ran
      obtain ⟨before, ranEarlier, ranCall⟩ := Option.bind_eq_some_iff.mp ran
      have same := inductionHypothesis (call :: later) before split ranEarlier
      have binds := binds_of_bindAll reachable free split ranEarlier ranCall
      rw [lastBound_append]
      by_cases succeeds : call.succeeds = true
      · rw [binds.address, if_pos succeeds, if_pos succeeds]
      · have fails : call.succeeds = false := by simpa using succeeds
        rw [if_neg succeeds, leaves earlier call later before after split ranEarlier same
          ranCall fails]
        exact same

/-- Whatever libuv answers, all calls end, and the reported address is that of
the last call that succeeded, untouched by each one that threw, if and only if
every call that fails asks for the address that is reported already. -/
theorem failed_binds_leave_address_iff
    (reachable : (machine Fib Sock).Reachable Machine.AnyStep state)
    (free : ∀ call ∈ calls, state.canCall call.fib = true) :
    (∃ after, bindAll state calls = some after) ∧
      (LeavesAddress state calls ↔ AsksForReported state.address calls) := by
  obtain ⟨last, ran, -, -⟩ := bindAll_total reachable free
  refine ⟨⟨last, ran⟩, ?_, ?_⟩
  · intro leaves earlier call later split fails
    obtain ⟨before, after, ranEarlier, ranCall, binds⟩ := binds_within reachable free split
    -- The call threw, so the address before it is the one that it stored.
    have kept : after.address = before.address := by
      obtain ⟨exc, threw⟩ := binds.throws fails
      exact leaves.1 earlier call later before after exc split ranEarlier ranCall threw
    have stored : after.address = (call.host, call.port) := by
      rw [binds.address, if_neg (by simp [fails])]
    have before_eq : before.address = lastBound state.address earlier := by
      apply address_eq_lastBound reachable free ?_ earlier (call :: later) before split ranEarlier
      intro earlier call later before after split ranEarlier _ ranCall fails
      have binds := binds_of_bindAll reachable free split ranEarlier ranCall
      obtain ⟨exc, threw⟩ := binds.throws fails
      exact leaves.1 earlier call later before after exc split ranEarlier ranCall threw
    rw [← stored, kept, before_eq]
  · intro asks
    have reported := address_eq_lastBound reachable free (by
      intro earlier call later before after split ranEarlier same ranCall fails
      have binds := binds_of_bindAll reachable free split ranEarlier ranCall
      rw [binds.address, if_neg (by simp [fails]), same]
      exact asks earlier call later split fails)
    refine ⟨?_, ?_⟩
    · intro earlier call later before after exc split ranEarlier ranCall threw
      have binds := binds_of_bindAll reachable free split ranEarlier ranCall
      have fails : call.succeeds = false := by
        by_contra succeeds
        rw [binds.returns (by simpa using succeeds)] at threw
        cases threw
      rw [binds.address, if_neg (by simp [fails]), asks earlier call later split fails]
      exact (reported earlier (call :: later) before split ranEarlier).symm
    · intro after ran
      exact reported calls [] after (by simp) ran

end Calls

/-- One call that succeeds, and one for the address then reported that fails in
`getaddrinfo`. -/
theorem second_bind_fails_for_its_own_address :
    ∃ (calls : List (BindCall (Fin 1) Unit)) (state : State (Fin 1) Unit),
      AsksForReported state.address calls ∧ (∃ call ∈ calls, call.succeeds = false) ∧
        LeavesAddress state calls := by
  let first : BindCall (Fin 1) Unit :=
    ⟨0, "localhost", 0, 0, 0, ⟨0, 0, .inet "127.0.0.1" 4000, ()⟩, by decide⟩
  let second : BindCall (Fin 1) Unit :=
    ⟨0, "127.0.0.1", 4000, 0, -3008, ⟨0, 0, .inet "" 0, ()⟩, by decide⟩
  have reachable : (machine (Fin 1) Unit).Reachable Machine.AnyStep (initial 0) :=
    .start ⟨0, rfl⟩
  have free : ∀ call ∈ [first, second],
      (initial 0 : State (Fin 1) Unit).canCall call.fib = true := by
    decide
  have asks : AsksForReported (initial 0 : State (Fin 1) Unit).address [first, second] := by
    intro earlier call later split fails
    match earlier with
    | [] =>
        obtain ⟨rfl, -⟩ := List.cons.inj split
        cases fails
    | [before] =>
        obtain ⟨rfl, rest⟩ := List.cons.inj split
        obtain ⟨rfl, -⟩ := List.cons.inj rest
        rfl
    | _ :: _ :: _ => simp at split
  exact ⟨[first, second], initial 0, asks, ⟨second, by simp, rfl⟩,
    (failed_binds_leave_address_iff reachable free).2.mpr asks⟩

/-- A lookup that fails with `UV_EAI_NONAME` leaves the address that was asked
for, although nothing is bound. -/
theorem failed_bind_changes_address :
    let call : BindCall (Fin 1) Unit :=
      ⟨0, "no.such.host", 80, 0, -3008, ⟨0, 0, .inet "" 0, ()⟩, by decide⟩
    let state : State (Fin 1) Unit := initial 0
    (machine (Fin 1) Unit).Reachable Machine.AnyStep state ∧
      (∃ after, bindAll state [call] = some after ∧
        after.fiber 0 = .idle (some (.threw (.uvError (-3008)))) ∧
        state.address = ("", 0) ∧ after.address = ("no.such.host", 80)) ∧
      ¬ LeavesAddress state [call] := by
  intro call state
  have ran : bindAll state [call] = some _ := rfl
  refine ⟨.start ⟨0, rfl⟩, ⟨_, ran, rfl, rfl, rfl⟩, ?_⟩
  intro leaves
  have changed := leaves.2 _ ran
  exact absurd changed (by decide)

end Fiberio.Server
