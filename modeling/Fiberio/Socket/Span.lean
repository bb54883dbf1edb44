import Fiberio.Socket.Closing
import Fiberio.Socket.ReadSlot

/-!
Owns the span of one public read operation: from the call to its return, with
every step that others take meanwhile. A read callback in the span is one of
the operation's own, each inner read sees at most one, and the span ends with a
step of the reader whose outcome is told by that report and by `closed_`.

Does not own what the caller makes of the inner reads.
-/

namespace Fiberio.Socket

open Fiberio.Foundation

/-! ## Reports -/

/-- What a read callback reports, and the bytes that came with it. -/
structure Report where
  nread : Int
  bytes : List UInt8
deriving DecidableEq, Repr

namespace Report

/-- The callback reports an error. -/
def Failed (report : Report) : Prop := report.nread < 0 ∧ report.nread ≠ uvEof

instance (report : Report) : Decidable report.Failed :=
  inferInstanceAs (Decidable (report.nread < 0 ∧ report.nread ≠ uvEof))

/-- libuv was offered `size` bytes. -/
structure Fits (report : Report) (size : Nat) : Prop where
  count : 0 ≤ report.nread → report.nread = report.bytes.length
  within : report.bytes.length ≤ size
  silent : report.nread < 0 → report.bytes = []

end Report

/-- The bytes of several reports. -/
def received (reports : List Report) : List UInt8 := reports.flatMap Report.bytes

@[simp] theorem received_append (first second : List Report) :
    received (first ++ second) = received first ++ received second := by
  simp [received]

variable {Fib : Type}

def Action.report : Action Fib → Option Report
  | .readCallback nread bytes => some ⟨nread, bytes⟩
  | _ => none

/-- The read callbacks among the actions. -/
def reports (actions : List (Action Fib)) : List Report := actions.filterMap Action.report

@[simp] theorem reports_append (first second : List (Action Fib)) :
    reports (first ++ second) = reports first ++ reports second := by
  simp [reports]

@[simp] theorem reports_singleton (action : Action Fib) :
    reports [action] = action.report.toList := by
  cases action <;> rfl

/-! ## The span of a call -/

/-- The fiber is inside the library. -/
def State.inside (fib : Fib) (state : State Fib) : Bool := !(state.fiber fib).isIdle

/-- A public read operation, and what happens until it returns. -/
def callRead [DecidableEq Fib] [Fintype Fib] (state : State Fib) (fib : Fib)
    (request : ReadRequest) (status : Int) (actions : List (Action Fib)) : Option (State Fib) :=
  ((machine Fib).step state (.read fib request status)).bind fun began =>
    (machine Fib).execWhile (State.inside fib) began actions

theorem exec_of_callRead [DecidableEq Fib] [Fintype Fib] {state final : State Fib} {fib : Fib}
    {request : ReadRequest} {status : Int} {actions : List (Action Fib)}
    (run : callRead state fib request status actions = some final) :
    (machine Fib).exec state (.read fib request status :: actions) = some final := by
  obtain ⟨began, stepped, run⟩ := Option.bind_eq_some_iff.mp run
  rw [Machine.exec, stepped]
  exact Machine.exec_of_execWhile run

/-! ## One inner read -/

/-- How far an inner read has come, and what its callback has reported. -/
inductive Phase (state : State Fib) (fib : Fib) (call : ReadCall) : Option Report → Prop where
  | waiting {notified : Bool} (waits : state.fiber fib = .waitRead notified call)
      (buf : state.buf = call.buf) (len : state.len = call.size)
      (woken : notified = true → state.closed = true) : Phase state fib call none
  | reported {report : Report} (woken : state.fiber fib = .waitRead true call)
      (finished : state.buf = 0) (len : state.len = reportCode report.nread)
      (stopped : state.tcp.watching = false) (fits : report.Fits call.size)
      (stored : state.memory.load call.buf report.bytes.length = report.bytes) :
      Phase state fib call (some report)
  | closing {report : Report} {serial : Nat} {promise : PromiseState}
      (inside : state.fiber fib = .wait (.shutdown (.eof call)) serial promise ∨
        state.fiber fib = .wait (.closeHandle (.eof call)) serial promise)
      (eof : report.nread = uvEof) (closed : state.closed = true)
      (stopped : state.tcp.watching = false) (fits : report.Fits call.size) :
      Phase state fib call (some report)

theorem KeepsSlot.stopped {state after : State Fib} (slot : KeepsSlot state after)
    (stopped : state.tcp.watching = false) : after.tcp.watching = false := by
  by_contra watches
  exact absurd (stopped.symm.trans (slot.watching (by simpa using watches))) (by decide)

/-- A step that another fiber or libuv takes while `fib` is inside a read: it
leaves the read alone, or it is a read callback. -/
theorem SlotStep.undisturbed {state after : State Fib} {action : Action Fib} {fib : Fib}
    {call : ReadCall} (step : SlotStep state action after)
    (active : (state.fiber fib).activeRead = some call) (owned : Owned state)
    (sole : SoleReader state) (notOwn : ∀ status, action ≠ .resume fib status) :
    (action.report = none ∧ KeepsSlot state after ∧
        (state.fiber fib).Holds (after.fiber fib) after.closed) ∨
      ∃ nread bytes, action = .readCallback nread bytes ∧ Delivers state nread bytes after := by
  cases step with
  | keeps noReport _ slot _ held =>
      have silent : action.report = none := by
        cases action <;> first | rfl | exact absurd rfl (noReport _ _)
      exact .inl ⟨silent, slot, held fib (by simp [active])⟩
  | @reports nread bytes called delivers => exact .inr ⟨nread, bytes, called, delivers⟩
  | @runs other otherCall status called otherActive _ _ =>
      have same := sole.single _ _ _ _ otherActive active
      subst same
      exact absurd called (notOwn status)
  | starts _ isOpen free _ _ =>
      rcases Fiber.activeRead_cases active with ⟨notified, waits⟩ | ⟨_, inside⟩
      · exact absurd (free.symm.trans (sole.reading _ _ _ waits)) (by decide)
      · exact absurd (isOpen.symm.trans (owned.closers _ inside.inClose)) (by decide)

namespace Phase

variable {state after : State Fib} {fib : Fib} {call : ReadCall} {report : Option Report}

theorem active (phase : Phase state fib call report) :
    (state.fiber fib).activeRead = some call := by
  cases phase with
  | waiting waits _ _ _ => rw [waits]; rfl
  | reported woken _ _ _ _ _ => rw [woken]; rfl
  | closing inside _ _ _ _ => rcases inside with inside | inside <;> rw [inside] <;> rfl

theorem inside (phase : Phase state fib call report) : state.inside fib = true := by
  cases phase with
  | waiting waits _ _ _ => simp [State.inside, waits, Fiber.isIdle]
  | reported woken _ _ _ _ _ => simp [State.inside, woken, Fiber.isIdle]
  | closing inside _ _ _ _ =>
      rcases inside with inside | inside <;> simp [State.inside, inside, Fiber.isIdle]

theorem fits (phase : Phase state fib call report) : ∀ one ∈ report, one.Fits call.size := by
  intro one isReport
  cases phase with
  | waiting _ _ _ _ => cases isReport
  | reported _ _ _ _ fits _ =>
      cases isReport
      exact fits
  | closing _ _ _ _ fits =>
      cases isReport
      exact fits

/-- Reported bytes are in the buffer of the call. -/
theorem stored {one : Report} (phase : Phase state fib call report) (isReport : report = some one)
    (count : 0 ≤ one.nread) : state.memory.load call.buf one.bytes.length = one.bytes := by
  cases phase with
  | waiting _ _ _ _ => cases isReport
  | reported _ _ _ _ _ stored =>
      cases isReport
      exact stored
  | closing _ eof _ _ _ =>
      cases isReport
      rw [eof] at count
      exact absurd count (by decide)

/-- The reader does not run, and no callback reports to it. -/
theorem holds (phase : Phase state fib call report)
    (slot : KeepsSlot state after)
    (held : (state.fiber fib).Holds (after.fiber fib) after.closed) :
    Phase after fib call report := by
  cases phase with
  | @waiting notified waits buf len woken =>
      rw [waits] at held
      generalize now : after.fiber fib = later at held
      generalize after_closed : after.closed = closed at held
      cases held with
      | same =>
          exact .waiting now (slot.buf.trans buf) (slot.len.trans len)
            fun isNotified => slot.closed (woken isNotified)
      | woken => exact .waiting now (slot.buf.trans buf) (slot.len.trans len) fun _ => after_closed
      | answered unset => cases unset
  | @reported report woken finished len stopped fits stored =>
      have stillStopped := slot.stopped stopped
      have stillStored : after.memory.load call.buf report.bytes.length = report.bytes := by
        rw [slot.memory]
        exact stored
      rw [woken] at held
      generalize now : after.fiber fib = later at held
      generalize after.closed = closed at held
      cases held with
      | same =>
          exact .reported now (slot.buf.trans finished) (slot.len.trans len) stillStopped fits
            stillStored
      | woken =>
          exact .reported now (slot.buf.trans finished) (slot.len.trans len) stillStopped fits
            stillStored
      | answered unset => cases unset
  | @closing _ serial promise inside eof closed stopped fits =>
      have still : ∃ serial promise,
          after.fiber fib = .wait (.shutdown (.eof call)) serial promise ∨
            after.fiber fib = .wait (.closeHandle (.eof call)) serial promise := by
        generalize now : after.fiber fib = later at held
        generalize after.closed = closed at held
        cases held with
        | same => exact ⟨serial, promise, inside⟩
        | woken =>
            refine ⟨serial, promise, ?_⟩
            rw [Fiber.notify_eq_wait_iff, Fiber.notify_eq_wait_iff]
            exact inside
        | @answered _ _ result _ unset =>
            rcases inside with inside | inside <;> rw [inside] at unset <;> cases unset
            · exact ⟨serial, .set result, .inl rfl⟩
            · exact ⟨serial, .set result, .inr rfl⟩
      obtain ⟨serial, promise, inside⟩ := still
      exact .closing inside eof (slot.closed closed) (slot.stopped stopped) fits

/-- libuv was offered the buffer of the call. -/
theorem fits_of_canDeliver {nread : Int} {bytes : List UInt8} (sized : call.Sized)
    (buf : state.buf = call.buf) (len : state.len = call.size)
    (deliverable : state.canDeliver nread bytes = true) :
    Report.Fits ⟨nread, bytes⟩ call.size := by
  have offered : state.allocCallback = (call.buf, call.size) := by
    unfold State.allocCallback
    rw [buf, len, toSize_natCast sized.size_lt]
  have nonempty := sized.nonempty
  unfold State.canDeliver at deliverable
  rw [offered, if_neg (by have := sized.buffer; omega)] at deliverable
  split at deliverable
  · rename_i nonnegative
    simp only [decide_eq_true_eq] at deliverable
    exact ⟨fun _ => deliverable.1, deliverable.2,
      fun negative => absurd nonnegative (Int.not_le.mpr negative)⟩
  · rename_i negative
    have silent : bytes = [] := by simpa using deliverable
    exact ⟨fun nonnegative => absurd nonnegative negative, by simp [silent], fun _ => silent⟩

/-- A callback in the span reports to the call, which has had no report. -/
theorem delivered {nread : Int} {bytes : List UInt8} (phase : Phase state fib call report)
    (sized : call.Sized) (delivers : Delivers state nread bytes after) :
    report = none ∧ after.memory = state.memory.store call.buf bytes ∧
      Phase after fib call (some ⟨nread, bytes⟩) := by
  cases phase with
  | waiting waits buf len woken =>
      have memory : after.memory = state.memory.store call.buf bytes := by
        rw [delivers.memory, buf]
      have now : after.fiber fib = .waitRead true call := by
        rw [delivers.fibers, waits]
        rfl
      refine ⟨rfl, memory, .reported now delivers.buf delivers.len delivers.stopped
        (fits_of_canDeliver sized buf len delivers.deliverable) ?_⟩
      rw [memory, Memory.load_store_same]
  | reported _ _ _ stopped _ _ =>
      exact absurd (stopped.symm.trans delivers.watching) (by decide)
  | closing _ _ _ stopped _ =>
      exact absurd (stopped.symm.trans delivers.watching) (by decide)

/-- The steps of the others and of libuv leave the reader in its inner read,
and report to it at most once. -/
theorem others {action : Action Fib} (phase : Phase state fib call report) (sized : call.Sized)
    (owned : Owned state) (sole : SoleReader state) (step : SlotStep state action after)
    (notOwn : ∀ status, action ≠ .resume fib status) :
    ∃ later, later.toList = report.toList ++ action.report.toList ∧
      Phase after fib call later := by
  rcases step.undisturbed phase.active owned sole notOwn with
    ⟨silent, slot, held⟩ | ⟨nread, bytes, rfl, delivers⟩
  · exact ⟨report, by simp [silent], phase.holds slot held⟩
  · obtain ⟨rfl, _, reported⟩ := phase.delivered sized delivers
    exact ⟨some ⟨nread, bytes⟩, rfl, reported⟩

end Phase

/-! ## The steps of the reader itself -/

/-- How an operation ends whose inner read finds the socket closed. -/
def ReadCall.onClosed (call : ReadCall) (memory : Memory UInt8) : Outcome :=
  if call.continues 0 true then .threw .socketClosedError
  else .returned (call.result memory 0)

/-- Why an operation ends with a step of its reader. -/
inductive Verdict (state : State Fib) (fib : Fib) (call : ReadCall) (report : Option Report)
    (status : Int) (after : State Fib) : Outcome → Prop where
  /-- The last inner read obtained its bytes. -/
  | obtained {one : Report} (isReport : report = some one) (count : 0 ≤ one.nread)
      (isOpen : state.closed = false) (last : call.continues one.bytes.length false = false)
      (closed : after.closed = false)
      (chunks : chunkBytes after.log = chunkBytes state.log ++ one.bytes) :
      Verdict state fib call report status after
        (.returned (call.result state.memory one.bytes.length))
  /-- The socket was closed before the reader came to see its report. -/
  | closed (wasClosed : state.closed = true) (noError : ∀ one ∈ report, ¬ one.Failed)
      (closed : after.closed = true) (chunks : chunkBytes after.log = chunkBytes state.log) :
      Verdict state fib call report status after (call.onClosed state.memory)
  | failed {one : Report} (isReport : report = some one) (failed : one.Failed)
      (closed : after.closed = state.closed)
      (chunks : chunkBytes after.log = chunkBytes state.log) :
      Verdict state fib call report status after (.threw (.ioError (.text "read failed")))
  /-- `uv_read_start` failed for the next inner read. -/
  | rejected {one : Report} {exc : Exc} (isReport : report = some one) (count : 0 ≤ one.nread)
      (isOpen : state.closed = false) (continues : call.continues one.bytes.length false = true)
      (rejected : checkUvStatus status = .error exc)
      (closed : after.closed = false)
      (chunks : chunkBytes after.log = chunkBytes state.log ++ one.bytes) :
      Verdict state fib call report status after (.threw exc)
  /-- The close at the end of the stream threw. -/
  | closeThrew {one : Report} {exc : Exc} (isReport : report = some one)
      (eof : one.nread = uvEof)
      (raised : (status ∈ state.shutdownStatus (.resume fib status) ∧
          checkUvStatus status = .error exc) ∨
        ∃ serial, state.fiber fib = .wait (.shutdown (.eof call)) serial (.set (.error exc)))
      (notGone : exc ≠ .socketClosedError) (closed : after.closed = true)
      (chunks : chunkBytes after.log = chunkBytes state.log) :
      Verdict state fib call report status after (.threw exc)

/-- A shutdown that is tolerated raises nothing that `close` would not
handle. -/
theorem raised_gone {state : State Fib} {fib : Fib} {call : ReadCall} {status : Int} {exc : Exc}
    (order : ClosesInOrder state) (graceful : GracefulShutdown state (.resume fib status))
    (raised : (status ∈ state.shutdownStatus (.resume fib status) ∧
        checkUvStatus status = .error exc) ∨
      ∃ serial, state.fiber fib = .wait (.shutdown (.eof call)) serial (.set (.error exc))) :
    exc = .socketClosedError := by
  rcases raised with ⟨asked, failed⟩ | ⟨serial, answered⟩
  · exact (graceful _ asked).error failed
  · exact order.tolerated _ _ _ _ answered

/-- What a step of the reader does. -/
inductive OwnStep (state : State Fib) (fib : Fib) (call : ReadCall) (report : Option Report)
    (status : Int) (after : State Fib) : Prop where
  | again {one : Report} (isReport : report = some one) (count : 0 ≤ one.nread)
      (isOpen : state.closed = false) (continues : call.continues one.bytes.length false = true)
      (accepted : 0 ≤ status) (phase : Phase after fib (call.next one.bytes.length) none)
      (chunks : chunkBytes after.log = chunkBytes state.log ++ one.bytes)
  | closes (phase : Phase after fib call report) (closed : after.closed = true)
      (chunks : chunkBytes after.log = chunkBytes state.log)
  | ends {outcome : Outcome} (ended : after.fiber fib = .idle (some outcome))
      (reading : after.reading = false)
      (verdict : Verdict state fib call report status after outcome)

section Own

variable [DecidableEq Fib] {state after : State Fib} {fib : Fib} {call : ReadCall}
  {report : Option Report} {status : Int}

/-- A closed socket reads nothing. -/
theorem readEnd_closed (closed : state.closed = true) :
    state.readEnd fib call status =
      ({ state with len := 0 }.emit (.chunk call.id [])).finish fib .read
        (call.onClosed state.memory) := by
  have none : toSize 0 = 0 := rfl
  unfold State.readEnd State.readReturned ReadCall.onClosed
  simp only [closed, if_true, none, Memory.load_zero]
  split
  · rw [State.read, if_pos (by simp)]
  · rfl

theorem OwnStep.ofClosed {base : State Fib} (wasClosed : state.closed = true)
    (noError : ∀ one ∈ report, ¬ one.Failed) (closed : base.closed = true)
    (memory : base.memory = state.memory) (reading : base.reading = false)
    (chunks : chunkBytes base.log = chunkBytes state.log) :
    OwnStep state fib call report status (base.readEnd fib call status) := by
  rw [readEnd_closed closed, memory]
  refine .ends (Function.update_self _ _ _) reading (.closed wasClosed noError closed ?_)
  simpa [chunkBytes, Event.chunkBytes] using chunks

/-- The bytes have arrived on an open socket. -/
theorem OwnStep.ofObtained {one : Report} (sized : call.Sized) (count : 0 ≤ one.nread)
    (len : state.len = one.nread) (isOpen : state.closed = false) (fits : one.Fits call.size)
    (stored : state.memory.load call.buf one.bytes.length = one.bytes) :
    OwnStep state fib call (some one) status
      ({ state with reading := false }.readEnd fib call status) := by
  have size_eq : toSize state.len = one.bytes.length := by
    have within := fits.within
    have bounded := sized.size_lt
    rw [len, fits.count count, toSize_natCast (by omega)]
  unfold State.readEnd State.readReturned
  simp only [isOpen, Bool.false_eq_true, if_false, size_eq, stored]
  split
  · rename_i continues
    have next := (sized.next fits.within continues).1
    unfold State.read
    simp only [State.emit_closed, State.emit_reading, Bool.false_eq_true, if_false]
    split
    · rename_i exc failed
      refine .ends (Function.update_self _ _ _) rfl
        (.rejected rfl count isOpen continues failed rfl ?_)
      simp [chunkBytes, Event.chunkBytes]
    · rename_i accepted
      rw [if_pos next.buffer]
      refine .again rfl count isOpen continues (checkUvStatus_eq_ok_iff.mp accepted) ?_ ?_
      · refine .waiting (Function.update_self _ _ _) rfl ?_ (by simp)
        simpa using toInt64_eq next.size_lt
      · simp [chunkBytes, Event.chunkBytes]
  · rename_i last
    refine .ends (Function.update_self _ _ _) rfl
      (.obtained rfl count isOpen (by simpa using last) rfl ?_)
    simp [chunkBytes, Event.chunkBytes]

theorem shutdownThrew_of_ne {closer : Closer} {exc : Exc} (notGone : exc ≠ .socketClosedError) :
    state.shutdownThrew fib closer exc = state.closeThrew fib closer exc := by
  cases exc <;> first | rfl | exact absurd rfl notGone

/-- The reader meets the end of the stream on an open socket. -/
theorem OwnStep.ofEof {one : Report} (woken : state.fiber fib = .waitRead true call)
    (finished : state.buf = 0) (atEof : state.len = errorEof) (isOpen : state.closed = false)
    (eof : one.nread = uvEof) (stopped : state.tcp.watching = false)
    (fits : one.Fits call.size) :
    OwnStep state fib call (some one) status
      ({ state with reading := false }.close fib (.eof call) status) := by
  have asked : status ∈ state.shutdownStatus (.resume fib status) := by
    simp [State.shutdownStatus, woken, isOpen, finished, atEof, Fiber.isWoken]
  unfold State.close
  simp only
  split
  · rename_i exc failed
    by_cases gone : exc = .socketClosedError
    · rw [gone]
      refine .closes (.closing (.inr (Function.update_self _ _ _)) eof rfl rfl fits) rfl ?_
      simp [State.shutdownThrew, chunkBytes, Event.chunkBytes]
    · rw [shutdownThrew_of_ne gone]
      refine .ends (Function.update_self _ _ _) rfl
        (.closeThrew rfl eof (.inl ⟨asked, failed⟩) gone rfl ?_)
      simp [State.closeThrew, chunkBytes, Event.chunkBytes]
  · refine .closes (.closing (.inl (Function.update_self _ _ _)) eof rfl stopped fits) rfl ?_
    simp [chunkBytes, Event.chunkBytes]

/-- The reader wakes up inside the `close` that it called. -/
theorem OwnStep.ofClosing {one : Report} {waiting : Waiting} {serial : Nat}
    {result : Except Exc Unit} (sole : SoleReader state)
    (inside : state.fiber fib = .wait waiting serial (.set result))
    (kind : waiting = .shutdown (.eof call) ∨ waiting = .closeHandle (.eof call))
    (eof : one.nread = uvEof) (closed : state.closed = true) (fits : one.Fits call.size) :
    OwnStep state fib call (some one) status
      (state.resumeWith fib waiting result status) := by
  rcases kind with rfl | rfl
  · have free : state.reading = false := sole.ended fib ⟨call, _, _, .inl inside⟩
    cases result with
    | ok value =>
        refine .closes (.closing (.inr (Function.update_self _ _ _)) eof closed rfl fits) closed ?_
        simp [State.resumeWith, State.shutdownDone, chunkBytes, Event.chunkBytes]
    | error exc =>
        show OwnStep state fib call (some one) status (state.shutdownThrew fib (.eof call) exc)
        by_cases gone : exc = .socketClosedError
        · rw [gone]
          refine .closes (.closing (.inr (Function.update_self _ _ _)) eof closed rfl fits) closed
            ?_
          simp [State.shutdownThrew, chunkBytes, Event.chunkBytes]
        · rw [shutdownThrew_of_ne gone]
          refine .ends (Function.update_self _ _ _) rfl
            (.closeThrew rfl eof (.inr ⟨serial, inside⟩) gone closed ?_)
          simp [State.closeThrew, chunkBytes, Event.chunkBytes]
  · have free : state.reading = false := sole.ended fib ⟨call, _, _, .inr inside⟩
    refine .ofClosed closed ?_ closed rfl free ?_
    · intro other isReport
      cases isReport
      simp [Report.Failed, eof]
    · simp [chunkBytes, Event.chunkBytes]

/-- A woken reader that does not wait again. -/
theorem readWoken_over (done : state.buf = 0 ∨ state.closed = true) :
    state.readWoken fib call status =
      if state.len = errorEof then
        if state.closed then { state with reading := false }.readEnd fib call status
        else { state with reading := false }.close fib (.eof call) status
      else if state.len = errorReadFailed then
        { state with reading := false, buf := 0 }.finish fib .read
          (.threw (.ioError (.text "read failed")))
      else { state with reading := false }.readEnd fib call status := by
  rw [State.readWoken, if_neg]
  simp only [Bool.and_eq_true, decide_eq_true_eq, Bool.not_eq_true', not_and]
  intro unfinished isOpen
  rcases done with finished | closed
  · exact unfinished finished
  · exact absurd (isOpen.symm.trans closed) (by decide)

/-- Every step of the reader is of this kind. -/
theorem Phase.ownStep (phase : Phase state fib call report) (sized : call.Sized)
    (sole : SoleReader state) (resumed : state.resume fib status = some after) :
    OwnStep state fib call report status after := by
  cases phase with
  | @waiting notified waits buf len woken =>
      cases notified with
      | false => simp [State.resume, waits] at resumed
      | true =>
          have closed := woken rfl
          have notEof : state.len ≠ errorEof := by
            rw [len, errorEof]
            omega
          have notFailed : state.len ≠ errorReadFailed := by
            rw [len, errorReadFailed]
            omega
          simp only [State.resume, waits, Option.some.injEq] at resumed
          rw [← resumed, readWoken_over (.inr closed), if_neg notEof, if_neg notFailed]
          exact .ofClosed closed (by simp) closed rfl rfl rfl
  | @reported one woken finished len stopped fits stored =>
      simp only [State.resume, woken, Option.some.injEq] at resumed
      rw [← resumed, readWoken_over (.inl finished)]
      by_cases count : 0 ≤ one.nread
      · have len : state.len = one.nread := by rw [len, reportCode, if_pos count]
        have notEof : state.len ≠ errorEof := by
          rw [len, errorEof]
          omega
        have notFailed : state.len ≠ errorReadFailed := by
          rw [len, errorReadFailed]
          omega
        rw [if_neg notEof, if_neg notFailed]
        by_cases closed : state.closed = true
        · refine .ofClosed closed ?_ closed rfl rfl rfl
          intro other isReport
          cases isReport
          simp [Report.Failed]
          omega
        · exact .ofObtained sized count len (by simpa using closed) fits stored
      · by_cases eof : one.nread = uvEof
        · have atEof : state.len = errorEof := by
            rw [len, eof]
            rfl
          rw [if_pos atEof]
          by_cases closed : state.closed = true
          · rw [if_pos closed]
            refine .ofClosed closed ?_ closed rfl rfl rfl
            intro other isReport
            cases isReport
            simp [Report.Failed, eof]
          · rw [if_neg closed]
            exact .ofEof woken finished atEof (by simpa using closed) eof stopped fits
        · have failed : state.len = errorReadFailed := by
            rw [len, reportCode, if_neg count, if_neg eof]
          rw [if_neg (by rw [failed]; decide), if_pos failed]
          refine .ends (Function.update_self _ _ _) rfl
            (.failed rfl ⟨by omega, eof⟩ rfl ?_)
          simp [chunkBytes, Event.chunkBytes]
  | @closing one serial promise inside eof closed _ fits =>
      cases promise with
      | unset => rcases inside with inside | inside <;> simp [State.resume, inside] at resumed
      | set result =>
          rcases inside with inside | inside <;>
            simp only [State.resume, inside, Option.some.injEq] at resumed <;> rw [← resumed]
          · exact .ofClosing sole inside (.inl rfl) eof closed fits
          · exact .ofClosing sole inside (.inr rfl) eof closed fits

end Own

/-! ## The whole span -/

/-- Forget how far the loop of the stream device has come. -/
def ReadCaller.restart : ReadCaller → ReadCaller
  | .deviceRead buf size _ => .deviceRead buf size 0
  | caller => caller

/-- The operation may make more than one inner read. -/
def ReadCaller.loops : ReadCaller → Bool
  | .readExactly _ _ | .deviceRead _ _ _ => true
  | .read | .readString _ _ => false

theorem ReadCall.loops_of_continues {call : ReadCall} {count : Nat} {closed : Bool}
    (continues : call.continues count closed = true) :
    call.caller.loops = true ∧ (call.next count).caller.loops = true := by
  obtain ⟨id, buf, size, caller⟩ := call
  cases caller with
  | readExactly _ _ | deviceRead _ _ _ => exact ⟨rfl, rfl⟩
  | read | readString _ _ => cases continues

theorem ReadCaller.loops_restart (caller : ReadCaller) : caller.restart.loops = caller.loops := by
  cases caller <;> rfl

/-- The call is an inner read of the operation that began with `first`. -/
structure InnerRead (first call : ReadCall) : Prop where
  sized : call.Sized
  caller : call.caller.restart = first.caller.restart
  base : call.base = first.base
  total : call.total = first.total

theorem InnerRead.loops {first call : ReadCall} (inner : InnerRead first call) :
    call.caller.loops = first.caller.loops := by
  rw [← ReadCaller.loops_restart call.caller, inner.caller, ReadCaller.loops_restart]

theorem InnerRead.next {first call : ReadCall} {count : Nat} {closed : Bool}
    (inner : InnerRead first call) (within : count ≤ call.size)
    (continues : call.continues count closed = true) :
    InnerRead first (call.next count) ∧ (call.next count).filled = call.filled + count := by
  obtain ⟨sized, _, base, total, filled⟩ := inner.sized.next within continues
  refine ⟨⟨sized, ?_, base.trans inner.base, total.trans inner.total⟩, filled⟩
  rw [← inner.caller]
  unfold ReadCall.next
  split
  · rename_i isDevice
    rw [isDevice]
    rfl
  · rfl

/-- What the operation has done so far: `earlier` are the reports of the inner
reads that are over, and `report` is that of the one under way. -/
structure CallTrace (start : State Fib) (fib : Fib) (first : ReadCall) (state : State Fib)
    (past : List (Action Fib)) (call : ReadCall) (earlier : List Report)
    (report : Option Report) : Prop where
  phase : Phase state fib call report
  inner : InnerRead first call
  reported : reports past = earlier ++ report.toList
  counts : ∀ one ∈ earlier, 0 ≤ one.nread
  once : call.caller.loops = false → earlier = []
  filled : (received earlier).length = call.filled
  stored : state.memory.load call.base call.filled = received earlier
  delivered : state.tcp.delivered = start.tcp.delivered ++ received (reports past)
  chunks : chunkBytes state.log = chunkBytes start.log ++ received earlier

/-- The operation ends with a step of its reader. -/
structure CallEnds (state : State Fib) (fib : Fib) (call : ReadCall) (report : Option Report)
    (status : Int) (after : State Fib) (outcome : Outcome) : Prop where
  ended : after.fiber fib = .idle (some outcome)
  reading : after.reading = false
  memory : after.memory = state.memory
  delivered : after.tcp.delivered = state.tcp.delivered
  verdict : Verdict state fib call report status after outcome

section Trace

variable [DecidableEq Fib] {start state after : State Fib} {fib : Fib} {first call : ReadCall}
  {past : List (Action Fib)} {earlier : List Report} {report : Option Report}
  {action : Action Fib}

omit [DecidableEq Fib] in
/-- Neither libuv nor another fiber takes the buffer from the reader. -/
theorem CallTrace.others
    (trace : CallTrace start fib first state past call earlier report)
    (owned : Owned state) (sole : SoleReader state) (step : SlotStep state action after)
    (notOwn : ∀ status, action ≠ .resume fib status) :
    ∃ later, CallTrace start fib first after (past ++ [action]) call earlier later := by
  have sized := trace.inner.sized
  rcases step.undisturbed trace.phase.active owned sole notOwn with
    ⟨silent, slot, held⟩ | ⟨nread, bytes, rfl, delivers⟩
  · refine ⟨report, trace.phase.holds slot held, trace.inner, ?_, trace.counts, trace.once,
      trace.filled, ?_, ?_, ?_⟩
    · simp [trace.reported, silent]
    · rw [slot.memory, trace.stored]
    · simp [slot.delivered, trace.delivered, silent]
    · rw [slot.chunks, trace.chunks]
  · obtain ⟨rfl, memory, phase⟩ := trace.phase.delivered sized delivers
    have reported := trace.reported
    refine ⟨some ⟨nread, bytes⟩, phase, trace.inner, ?_, trace.counts, trace.once, trace.filled,
      ?_, ?_, ?_⟩
    · simp only [Option.toList_none, List.append_nil] at reported
      simp [reported, Action.report]
    · -- The bytes go behind those of the earlier inner reads.
      rw [memory, Memory.load_store_below _ _ (by rw [← sized.place]), trace.stored]
    · simp [delivers.delivered, trace.delivered, Action.report, received]
    · rw [delivers.chunks, trace.chunks]

variable [Fintype Fib]

theorem CallTrace.step
    (trace : CallTrace start fib first state past call earlier report)
    (owned : Owned state) (sole : SoleReader state)
    (stepped : (machine Fib).step state action = some after) :
    (∃ call earlier report,
        CallTrace start fib first after (past ++ [action]) call earlier report) ∨
      ∃ status outcome, action = .resume fib status ∧
        CallEnds state fib call report status after outcome := by
  have transition := step_transition owned stepped
  by_cases own : ∃ status, action = .resume fib status
  · obtain ⟨status, rfl⟩ := own
    have resumed : state.resume fib status = some after := by
      obtain ⟨_, resumed⟩ := Option.ite_none_left_eq_some.mp stepped
      exact resumed
    have memory : after.memory = state.memory := transition.memory (by simp)
    have delivered : after.tcp.delivered = state.tcp.delivered := by
      rcases transition.delivered with same | ⟨_, _, isReport, _⟩
      · exact same
      · cases isReport
    cases trace.phase.ownStep trace.inner.sized sole resumed with
    | @again one isReport count isOpen continues accepted phase chunks =>
        have fits := trace.phase.fits one isReport
        obtain ⟨inner, filled⟩ := trace.inner.next fits.within continues
        have reported := trace.reported
        rw [isReport] at reported
        refine .inl ⟨call.next one.bytes.length, earlier ++ [one], none, phase, inner, ?_, ?_, ?_,
          ?_, ?_, ?_, ?_⟩
        · simpa [Action.report] using reported
        · intro other member
          rcases List.mem_append.mp member with early | last
          · exact trace.counts other early
          · rw [List.mem_singleton.mp last]
            exact count
        · intro plain
          have loops := (ReadCall.loops_of_continues continues).2
          exact absurd (plain.symm.trans loops) (by decide)
        · simp [received, filled, ← trace.filled]
        · rw [memory, inner.base, ← trace.inner.base, filled, Memory.load_add, trace.stored,
            ← trace.inner.sized.place, trace.phase.stored isReport count]
          simp [received]
        · simp [delivered, trace.delivered, Action.report]
        · simp [chunks, trace.chunks, received]
    | closes phase _ chunks =>
        refine .inl ⟨call, earlier, report, phase, trace.inner, ?_, trace.counts, trace.once,
          trace.filled, ?_, ?_, ?_⟩
        · simp [trace.reported, Action.report]
        · rw [memory, trace.stored]
        · simp [delivered, trace.delivered, Action.report]
        · rw [chunks, trace.chunks]
    | ends ended reading verdict =>
        exact .inr ⟨status, _, rfl, ended, reading, memory, delivered, verdict⟩
  · obtain ⟨later, trace⟩ := trace.others owned sole (transition.slotStep owned sole)
      fun status isOwn => own ⟨status, isOwn⟩
    exact .inl ⟨call, earlier, later, trace⟩

/-! ## How a call begins and ends -/

/-- Why an operation ends in the step in which it is called. -/
inductive TurnedAway (state : State Fib) (request : ReadRequest) (status : Int) :
    Outcome → Prop where
  | atOnce {outcome : Outcome} (first : request.first state.calls state.closed = .inl outcome) :
      TurnedAway state request status outcome
  | closed {call : ReadCall} (first : request.first state.calls state.closed = .inr call)
      (closed : state.closed = true) : TurnedAway state request status (.threw .socketClosedError)
  | refused {call : ReadCall} (first : request.first state.calls state.closed = .inr call)
      (isOpen : state.closed = false) (reading : state.reading = true) :
      TurnedAway state request status (.threw (.ioError (.text "concurrent read")))
  | rejected {call : ReadCall} {exc : Exc}
      (first : request.first state.calls state.closed = .inr call)
      (isOpen : state.closed = false) (free : state.reading = false)
      (failed : checkUvStatus status = .error exc) :
      TurnedAway state request status (.threw exc)

/-- The operation has ended without any byte. -/
structure EndsAtOnce (state : State Fib) (fib : Fib) (after : State Fib) (outcome : Outcome) :
    Prop where
  ended : after.fiber fib = .idle (some outcome)
  closed : after.closed = state.closed
  memory : after.memory = state.memory
  delivered : after.tcp.delivered = state.tcp.delivered
  chunks : chunkBytes after.log = chunkBytes state.log

/-- The operation makes its first inner read. -/
structure Admitted (state : State Fib) (request : ReadRequest) (status : Int)
    (first : ReadCall) : Prop where
  first : request.first state.calls state.closed = .inr first
  isOpen : state.closed = false
  free : state.reading = false
  accepted : 0 ≤ status

variable {began : State Fib} {request : ReadRequest} {status : Int}

/-- The operation ends in the step in which it is called, or reads. -/
theorem callRead_begins (sized : request.Sized)
    (stepped : (machine Fib).step start (.read fib request status) = some began) :
    (∃ outcome, TurnedAway start request status outcome ∧ EndsAtOnce start fib began outcome) ∨
      ∃ first, Admitted start request status first ∧
        CallTrace start fib first began [] first [] none := by
  obtain ⟨_, stepped⟩ := Option.ite_none_left_eq_some.mp stepped
  obtain ⟨_, result⟩ := Option.ite_none_right_eq_some.mp stepped
  cases result
  unfold State.startRead
  simp only
  split
  · rename_i outcome first
    refine .inl ⟨outcome, .atOnce first, Function.update_self _ _ _, rfl, rfl, rfl, ?_⟩
    simp [chunkBytes, Event.chunkBytes]
  · rename_i call first
    obtain ⟨callSized, _, filled⟩ := sized.first first
    unfold State.read
    simp only
    split
    · rename_i closed
      refine .inl ⟨_, .closed first closed, Function.update_self _ _ _, rfl, rfl, rfl, ?_⟩
      simp [chunkBytes, Event.chunkBytes]
    · rename_i isOpen
      have isOpen : start.closed = false := by simpa using isOpen
      split
      · rename_i reading
        refine .inl ⟨_, .refused first isOpen reading, Function.update_self _ _ _, rfl, rfl, rfl,
          ?_⟩
        simp [chunkBytes, Event.chunkBytes]
      · rename_i free
        have free : start.reading = false := by simpa using free
        split
        · rename_i exc failed
          refine .inl ⟨_, .rejected first isOpen free failed, Function.update_self _ _ _, rfl, rfl,
            rfl, ?_⟩
          simp [chunkBytes, Event.chunkBytes]
        · rename_i accepted
          rw [if_pos callSized.buffer]
          refine .inr ⟨call, ⟨first, isOpen, free, checkUvStatus_eq_ok_iff.mp accepted⟩, ?_⟩
          refine ⟨.waiting (Function.update_self _ _ _) rfl ?_ (by simp),
            ⟨callSized, rfl, rfl, rfl⟩, rfl, by simp, fun _ => rfl, by simp [received, filled],
            ?_, ?_, ?_⟩
          · simpa using toInt64_eq callSized.size_lt
          · simp [filled, received]
          · simp [reports, received]
          · simp [chunkBytes, Event.chunkBytes, received]

/-- The span of a call from `start`, up to `final`. -/
inductive Span (allowed : State Fib → Action Fib → Prop) (start : State Fib) (fib : Fib)
    (request : ReadRequest) (status : Int) (actions : List (Action Fib)) (final : State Fib) :
    Prop where
  | turnedAway {outcome : Outcome} (none : actions = [])
      (reason : TurnedAway start request status outcome)
      (ends : EndsAtOnce start fib final outcome)
  | lasts {first call : ReadCall} {earlier : List Report} {report : Option Report}
      (admitted : Admitted start request status first)
      (trace : CallTrace start fib first final actions call earlier report)
  | ended {first call : ReadCall} {earlier : List Report} {report : Option Report}
      {front : List (Action Fib)} {last : State Fib} {later : Int} {outcome : Outcome}
      (admitted : Admitted start request status first)
      (split : actions = front ++ [.resume fib later])
      (ran : callRead start fib request status front = some last)
      (reachable : (machine Fib).Reachable allowed last)
      (allows : allowed last (.resume fib later))
      (trace : CallTrace start fib first last front call earlier report)
      (ends : CallEnds last fib call report later final outcome)

theorem callRead_span {allowed : State Fib → Action Fib → Prop} {actions : List (Action Fib)}
    {final : State Fib} (reachable : (machine Fib).Reachable allowed start)
    (sized : request.Sized)
    (along : (machine Fib).Along allowed start (.read fib request status :: actions))
    (run : callRead start fib request status actions = some final) :
    Span allowed start fib request status actions final := by
  obtain ⟨began, stepped, run⟩ := Option.bind_eq_some_iff.mp run
  have began_reachable := Machine.Reachable.next reachable along.1 stepped
  rcases callRead_begins sized stepped with ⟨outcome, reason, ends⟩ | ⟨first, admitted, trace⟩
  · have outside : began.inside fib = false := by
      simp [State.inside, ends.ended, Fiber.isIdle]
    cases actions with
    | nil =>
        cases run
        exact .turnedAway rfl reason ends
    | cons action rest =>
        have isInside := (Machine.execWhile_cons_some run).1
        exact absurd (outside.symm.trans isInside) (by decide)
  · let Trace : State Fib → List (Action Fib) → Prop := fun state past =>
      (machine Fib).Reachable allowed state ∧
        ∃ call earlier report, CallTrace start fib first state past call earlier report
    have kept : ∀ before past action after, before.inside fib = true → Trace before past →
        allowed before action → (machine Fib).step before action = some after →
          after.inside fib = true → Trace after (past ++ [action]) := by
      intro before past action after _ traced allows stepped isInside
      obtain ⟨reached, call, earlier, report, trace⟩ := traced
      refine ⟨.next reached allows stepped, ?_⟩
      rcases trace.step (reachable_owned reached) (reachable_soleReader reached) stepped with
        later | ⟨_, _, _, ends⟩
      · exact later
      · simp [State.inside, ends.ended, Fiber.isIdle] at isInside
    have whole := Machine.execWhile_trace run (along.2 began stepped)
      (fun _ => (⟨began_reachable, first, [], none, trace⟩ : Trace began [])) kept
    rw [List.nil_append] at whole
    by_cases isInside : final.inside fib = true
    · obtain ⟨_, call, earlier, report, trace⟩ := whole.1 isInside
      exact .lasts admitted trace
    · rcases whole.2 (by simpa using isInside) with ⟨_, rfl⟩ | ⟨front, action, last, split, ran,
        _, traced, allows, lastStep⟩
      · exact absurd trace.phase.inside isInside
      · rw [List.nil_append] at traced
        obtain ⟨reached, call, earlier, report, lastTrace⟩ := traced
        rcases lastTrace.step (reachable_owned reached) (reachable_soleReader reached) lastStep with
          ⟨_, _, _, later⟩ | ⟨later, outcome, rfl, ends⟩
        · exact absurd later.phase.inside isInside
        · have ranFront : callRead start fib request status front = some last := by
            rw [callRead, stepped]
            exact ran
          exact .ended admitted split ranFront reached allows lastTrace ends

end Trace

end Fiberio.Socket
