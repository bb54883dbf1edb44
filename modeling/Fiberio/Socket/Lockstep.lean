import Fiberio.Socket.Twin

/-!
Owns the comparison of two read operations that meet the same events. While
both are inside an inner read of the same size, the two sockets are twins;
the loops of both go on or end together, so a run of the one is a run of the
other.

Does not own any particular pair of operations.
-/

namespace Fiberio.Socket

open Fiberio.Foundation

variable {Fib : Type} [DecidableEq Fib]

/-! ## Pairs of operations -/

/-- The calls of two operations, and the outcomes of these, that go together.
The inner reads have the same size, and on an open socket both loops go on or
neither does. -/
structure Partnership (Partners : ReadCall → ReadCall → Prop)
    (Ends : Outcome → Outcome → Prop) : Prop where
  id : ∀ first second, Partners first second → first.id = second.id
  size : ∀ first second, Partners first second → first.size = second.size
  sized : ∀ first second, Partners first second → first.Sized ∧ second.Sized
  continues : ∀ first second count, Partners first second → count ≤ first.size →
    first.continues count false = second.continues count false
  next : ∀ first second count, Partners first second → count ≤ first.size →
    first.continues count false = true → Partners (first.next count) (second.next count)
  threw : ∀ exc, Ends (.threw exc) (.threw exc)
  closed : ∀ first second memory memory', Partners first second →
    Ends (first.onClosed memory) (second.onClosed memory')
  obtained : ∀ first second count memory memory', Partners first second → count ≤ first.size →
    memory.load first.buf count = memory'.load second.buf count →
      Ends (.returned (first.result memory count)) (.returned (second.result memory' count))

theorem Partnership.symm {Partners : ReadCall → ReadCall → Prop}
    {Ends : Outcome → Outcome → Prop} (partnership : Partnership Partners Ends) :
    Partnership (fun first second => Partners second first)
      (fun first second => Ends second first) where
  id := fun first second partners => (partnership.id second first partners).symm
  size := fun first second partners => (partnership.size second first partners).symm
  sized := fun first second partners => (partnership.sized second first partners).symm
  continues := by
    intro first second count partners within
    rw [← partnership.size second first partners] at within
    exact (partnership.continues second first count partners within).symm
  next := by
    intro first second count partners within continues
    rw [← partnership.size second first partners] at within
    rw [← partnership.continues second first count partners within] at continues
    exact partnership.next second first count partners within continues
  threw := partnership.threw
  closed := fun first second memory memory' partners =>
    partnership.closed second first memory' memory partners
  obtained := by
    intro first second count memory memory' partners within same
    rw [← partnership.size second first partners] at within
    exact partnership.obtained second first count memory' memory partners within same.symm

/-- Both operations have ended, in states that differ in their outcomes, in
the buffer and in the memory. -/
inductive EndedAlike (Ends : Outcome → Outcome → Prop) (fib : Fib) :
    State Fib → State Fib → Prop where
  | intro (base : State Fib) (buf : Nat) (memory : Memory UInt8) {first second : Outcome}
      (ends : Ends first second) :
      EndedAlike Ends fib (base.finish fib .read first)
        ({ base with buf := buf, memory := memory }.finish fib .read second)

theorem EndedAlike.ofTwin {Ends : Outcome → Outcome → Prop} {state : State Fib} {fib : Fib}
    {call : ReadCall} {buf : Nat} {memory : Memory UInt8} {first second : Outcome}
    (ends : Ends first second) :
    EndedAlike Ends fib (state.finish fib .read first)
      ((state.twin fib call buf memory).finish fib .read second) := by
  have same : (state.twin fib call buf memory).finish fib .read second =
      { state with buf := buf, memory := memory }.finish fib .read second := by
    unfold State.finish State.setFiber State.twin
    simp only [Function.update_idem]
  rw [same]
  exact .intro state buf memory ends

/-- Both operations are inside inner reads that go together. -/
inductive InnerTwins (Partners : ReadCall → ReadCall → Prop) (fib : Fib) (left : State Fib) :
    State Fib → Prop where
  | intro {first second : ReadCall} {report : Option Report} {buf : Nat} {memory : Memory UInt8}
      (partners : Partners first second) (left_phase : Phase left fib first report)
      (right_phase : Phase (left.twin fib second buf memory) fib second report) :
      InnerTwins Partners fib left (left.twin fib second buf memory)

/-! ## Steps of the two readers -/

section Own

variable {Partners : ReadCall → ReadCall → Prop} {Ends : Outcome → Outcome → Prop}
  {state : State Fib} {fib : Fib} {first second : ReadCall} {buf : Nat} {memory : Memory UInt8}
  {status : Int}

theorem twin_beginRead (state : State Fib) {call : ReadCall} (id : first.id = second.id)
    (size : first.size = second.size) :
    (state.twin fib call buf memory).beginRead second =
      (state.beginRead first).twin fib call second.buf memory := by
  unfold State.beginRead State.twin
  rw [← id, ← size]
  generalize toInt64 first.size = len
  rfl

/-- The twin of a reader that has no report yet waits in the same way. -/
theorem Phase.waiting_twin (phase : Phase state fib first none)
    (size : first.size = second.size) :
    Phase (state.twin fib second second.buf memory) fib second none := by
  cases phase with
  | waiting waits _ len woken =>
      refine .waiting ?_ rfl (size ▸ len) woken
      rw [State.twin_fiber, Function.update_self, waits]
      rfl

/-- The twin of a reader that closes at the end of its stream does so too. -/
theorem Phase.closing_twin {one : Report} (phase : Phase state fib first (some one))
    (notWoken : state.fiber fib ≠ .waitRead true first) (size : first.size = second.size) :
    Phase (state.twin fib second buf memory) fib second (some one) := by
  cases phase with
  | reported woken _ _ _ _ _ => exact absurd woken notWoken
  | @closing _ serial promise inside eof closed stopped fits =>
      have still : (state.twin fib second buf memory).fiber fib =
            .wait (.shutdown (.eof second)) serial promise ∨
          (state.twin fib second buf memory).fiber fib =
            .wait (.closeHandle (.eof second)) serial promise := by
        rw [State.twin_fiber, Function.update_self]
        rcases inside with inside | inside
        · rw [inside]
          exact .inl rfl
        · rw [inside]
          exact .inr rfl
      exact .closing still eof closed stopped (size ▸ fits)

/-- The two inner reads begin alike. -/
theorem read_alike (partnership : Partnership Partners Ends) (partners : Partners first second)
    (call : ReadCall) :
    InnerTwins Partners fib (state.read fib first status)
        ((state.twin fib call buf memory).read fib second status) ∨
      EndedAlike Ends fib (state.read fib first status)
        ((state.twin fib call buf memory).read fib second status) := by
  have id := partnership.id _ _ partners
  have size := partnership.size _ _ partners
  obtain ⟨firstSized, secondSized⟩ := partnership.sized _ _ partners
  unfold State.read
  rw [State.twin_closed, State.twin_reading]
  split
  · exact .inr (.ofTwin (partnership.threw _))
  · split
    · rw [← id]
      exact .inr (@EndedAlike.ofTwin _ _ _ (state.emit _) _ _ _ _ _ _ (partnership.threw _))
    · cases accepted : checkUvStatus status with
      | error exc =>
          simp only [twin_beginRead state id size]
          exact .inr (@EndedAlike.ofTwin _ _ _ { state.beginRead first with
            buf := 0, reading := false } _ call 0 memory _ _ (partnership.threw exc))
      | ok value =>
          have begun : ((state.twin fib call buf memory).beginRead second).watch.setFiber fib
              (.waitRead false second) =
                ((state.beginRead first).watch.setFiber fib (.waitRead false first)).twin fib
                  second second.buf memory := by
            rw [twin_beginRead state id size]
            unfold State.setFiber State.twin State.watch
            simp only [Function.update_idem, Function.update_self]
            rfl
          simp only [ne_eq, firstSized.buffer, secondSized.buffer, not_false_eq_true, if_true]
          rw [begun]
          have begins : Phase ((state.beginRead first).watch.setFiber fib (.waitRead false first))
              fib first none := by
            refine .waiting (Function.update_self _ _ _) rfl ?_ (by simp)
            simpa using toInt64_eq firstSized.size_lt
          exact .inl (.intro partners begins (begins.waiting_twin size))

/-- Both find the socket closed. -/
theorem readEnd_closed_alike (partnership : Partnership Partners Ends)
    (partners : Partners first second) (closed : state.closed = true) (call : ReadCall) :
    EndedAlike Ends fib (state.readEnd fib first status)
      ((state.twin fib call buf memory).readEnd fib second status) := by
  have id := partnership.id _ _ partners
  rw [readEnd_closed closed, readEnd_closed (by exact closed), ← id]
  exact @EndedAlike.ofTwin _ _ _ ({ state with len := 0 }.emit _) _ _ _ _ _ _
    (partnership.closed _ _ _ _ partners)

/-- The bytes have arrived at both, on an open socket. -/
theorem readEnd_open_alike {bytes : List UInt8} (partnership : Partnership Partners Ends)
    (partners : Partners first second) (isOpen : state.closed = false)
    (len : toSize state.len = bytes.length) (within : bytes.length ≤ first.size)
    (stored : state.memory.load first.buf bytes.length = bytes)
    (otherStored : memory.load second.buf bytes.length = bytes) (call : ReadCall) :
    InnerTwins Partners fib (state.readEnd fib first status)
        ((state.twin fib call buf memory).readEnd fib second status) ∨
      EndedAlike Ends fib (state.readEnd fib first status)
        ((state.twin fib call buf memory).readEnd fib second status) := by
  have id := partnership.id _ _ partners
  unfold State.readEnd State.readReturned
  simp only [State.twin_closed, isOpen, Bool.false_eq_true, if_false, State.twin_len, len, stored,
    State.twin_memory, otherStored, ← partnership.continues _ _ _ partners within]
  split
  · rename_i continues
    rw [← id]
    exact @read_alike _ _ _ _ (state.emit (.chunk first.id bytes)) _ _ _ _ _ _ partnership
      (partnership.next _ _ _ partners within continues) call
  · rw [← id]
    exact .inr (@EndedAlike.ofTwin _ _ _ (state.emit (.chunk first.id bytes)) _ _ _ _ _ _
      (partnership.obtained _ _ _ _ _ partners within (stored.trans otherStored.symm)))

theorem twin_closeHandle_self (state : State Fib) :
    (state.twin fib second buf memory).closeHandle fib (.eof second) =
      (state.closeHandle fib (.eof first)).twin fib second buf memory := by
  unfold State.closeHandle State.twin State.setFiber State.emit
  simp only [Function.update_idem, Function.update_self]
  rfl

theorem twin_register_self (state : State Fib) :
    (state.twin fib second buf memory).register fib .shutdown (.shutdown (.eof second)) =
      (state.register fib .shutdown (.shutdown (.eof first))).twin fib second buf memory := by
  unfold State.register State.twin State.setFiber
  simp only [Function.update_idem, Function.update_self]
  rfl

/-- Both go on to close the handle. -/
theorem closeHandle_alike {one : Report} (partnership : Partnership Partners Ends)
    (partners : Partners first second) (eof : one.nread = uvEof) (closed : state.closed = true)
    (fits : one.Fits first.size) :
    InnerTwins Partners fib (state.closeHandle fib (.eof first))
      ((state.twin fib second buf memory).closeHandle fib (.eof second)) := by
  have inside : (state.closeHandle fib (.eof first)).fiber fib =
      .wait (.closeHandle (.eof first)) state.serials .unset := Function.update_self _ _ _
  have phase : Phase (state.closeHandle fib (.eof first)) fib first (some one) :=
    .closing (.inr inside) eof closed rfl fits
  rw [twin_closeHandle_self]
  refine .intro partners phase (phase.closing_twin ?_ (partnership.size _ _ partners))
  rw [inside]
  simp

/-- Both go on inside a close, or the exception leaves both. -/
theorem shutdownThrew_alike {one : Report} {exc : Exc} (partnership : Partnership Partners Ends)
    (partners : Partners first second) (eof : one.nread = uvEof) (closed : state.closed = true)
    (fits : one.Fits first.size) :
    InnerTwins Partners fib (state.shutdownThrew fib (.eof first) exc)
        ((state.twin fib second buf memory).shutdownThrew fib (.eof second) exc) ∨
      EndedAlike Ends fib (state.shutdownThrew fib (.eof first) exc)
        ((state.twin fib second buf memory).shutdownThrew fib (.eof second) exc) := by
  by_cases gone : exc = .socketClosedError
  · rw [gone]
    exact .inl (closeHandle_alike partnership partners eof closed fits)
  · rw [shutdownThrew_of_ne gone, shutdownThrew_of_ne gone]
    exact .inr (@EndedAlike.ofTwin _ _ _ { state.emit (.closeThrew exc) with
      buf := 0, reading := false } _ second 0 memory _ _ (partnership.threw exc))

/-- Both meet the end of the stream on an open socket. -/
theorem close_alike {one : Report} (partnership : Partnership Partners Ends)
    (partners : Partners first second) (eof : one.nread = uvEof)
    (stopped : state.tcp.watching = false) (fits : one.Fits first.size) :
    InnerTwins Partners fib (state.close fib (.eof first) status)
        ((state.twin fib second buf memory).close fib (.eof second) status) ∨
      EndedAlike Ends fib (state.close fib (.eof first) status)
        ((state.twin fib second buf memory).close fib (.eof second) status) := by
  unfold State.close
  cases checkUvStatus status with
  | error exc =>
      exact @shutdownThrew_alike _ _ _ _ { state.emit .uvShutdown with closed := true } _ _ _ _ _
        one exc partnership partners eof rfl fits
  | ok value =>
      let marked : State Fib := { state.emit .uvShutdown with closed := true }
      have inside : (marked.register fib .shutdown (.shutdown (.eof first))).fiber fib =
          .wait (.shutdown (.eof first)) marked.serials .unset := Function.update_self _ _ _
      have phase : Phase (marked.register fib .shutdown (.shutdown (.eof first))) fib first
          (some one) := .closing (.inl inside) eof rfl stopped fits
      have twins : InnerTwins Partners fib
          (marked.register fib .shutdown (.shutdown (.eof first)))
          ((marked.register fib .shutdown (.shutdown (.eof first))).twin fib second buf
            memory) := by
        refine .intro partners phase (phase.closing_twin ?_ (partnership.size _ _ partners))
        rw [inside]
        simp
      rw [← twin_register_self] at twins
      exact .inl twins

/-- Both readers see their report. -/
theorem readWoken_alike {one : Report} (partnership : Partnership Partners Ends)
    (partners : Partners first second) (finished : state.buf = 0) (otherFinished : buf = 0)
    (len : state.len = reportCode one.nread) (stopped : state.tcp.watching = false)
    (fits : one.Fits first.size)
    (stored : state.memory.load first.buf one.bytes.length = one.bytes)
    (otherStored : memory.load second.buf one.bytes.length = one.bytes) :
    InnerTwins Partners fib (state.readWoken fib first status)
        ((state.twin fib second buf memory).readWoken fib second status) ∨
      EndedAlike Ends fib (state.readWoken fib first status)
        ((state.twin fib second buf memory).readWoken fib second status) := by
  let resumed : State Fib := { state with reading := false }
  have sized := (partnership.sized _ _ partners).1
  rw [readWoken_over (.inl finished), readWoken_over (.inl otherFinished)]
  simp only [State.twin_len, State.twin_closed]
  by_cases closed : state.closed = true
  · have ended := @readEnd_closed_alike _ _ _ _ resumed fib _ _ buf memory status partnership
      partners closed second
    rw [if_pos closed, if_pos closed]
    split
    · exact .inr ended
    · split
      · exact .inr (@EndedAlike.ofTwin _ _ _ { state with reading := false, buf := 0 } _ second 0
          memory _ _ (partnership.threw _))
      · exact .inr ended
  · rw [if_neg closed, if_neg closed]
    by_cases count : 0 ≤ one.nread
    · have notEof : state.len ≠ errorEof := by
        rw [len, reportCode, if_pos count, errorEof]
        omega
      have notFailed : state.len ≠ errorReadFailed := by
        rw [len, reportCode, if_pos count, errorReadFailed]
        omega
      have length : toSize state.len = one.bytes.length := by
        have within := fits.within
        have bounded := sized.size_lt
        rw [len, reportCode, if_pos count, fits.count count, toSize_natCast (by omega)]
      rw [if_neg notEof, if_neg notEof, if_neg notFailed, if_neg notFailed]
      exact @readEnd_open_alike _ _ _ _ resumed _ _ _ _ _ _ one.bytes partnership partners
        (by simpa using closed) length fits.within stored otherStored second
    · by_cases eof : one.nread = uvEof
      · have atEof : state.len = errorEof := by
          rw [len, eof]
          rfl
        rw [if_pos atEof, if_pos atEof]
        exact @close_alike _ _ _ _ resumed _ _ _ _ _ _ one partnership partners eof stopped fits
      · have failed : state.len = errorReadFailed := by
          rw [len, reportCode, if_neg count, if_neg eof]
        have notEof : state.len ≠ errorEof := by
          rw [failed]
          decide
        rw [if_neg notEof, if_neg notEof, if_pos failed, if_pos failed]
        exact .inr (@EndedAlike.ofTwin _ _ _ { state with reading := false, buf := 0 } _ second 0
          memory _ _ (partnership.threw _))

/-- The steps of the two readers go together. -/
theorem InnerTwins.ownStep {left right after : State Fib} (partnership : Partnership Partners Ends)
    (twins : InnerTwins Partners fib left right) (resumed : left.resume fib status = some after) :
    ∃ other, right.resume fib status = some other ∧
      (InnerTwins Partners fib after other ∨ EndedAlike Ends fib after other) := by
  obtain ⟨partners, leftPhase, rightPhase⟩ := twins
  rename_i first second report buf memory
  have otherFiber : (left.twin fib second buf memory).fiber fib =
      (left.fiber fib).withCall second := by
    rw [State.twin_fiber, Function.update_self]
  cases leftPhase with
  | @waiting notified waits leftBuf len woken =>
      cases notified with
      | false => simp [State.resume, waits] at resumed
      | true =>
          have closed := woken rfl
          have sized := (partnership.sized _ _ partners).1
          have notEof : left.len ≠ errorEof := by
            rw [len, errorEof]
            omega
          have notFailed : left.len ≠ errorReadFailed := by
            rw [len, errorReadFailed]
            omega
          simp only [State.resume, waits, Option.some.injEq] at resumed
          refine ⟨_, by simp only [State.resume, otherFiber, waits, Fiber.withCall]; rfl, ?_⟩
          rw [← resumed, readWoken_over (.inr closed), readWoken_over (.inr (by exact closed)),
            if_neg notEof, if_neg notFailed, if_neg (by exact notEof), if_neg (by exact notFailed)]
          exact .inr (@readEnd_closed_alike _ _ _ _ { left with reading := false } _ _ _ _ _ _
            partnership partners closed second)
  | @reported one woken finished len stopped fits stored =>
      simp only [State.resume, woken, Option.some.injEq] at resumed
      refine ⟨_, by simp only [State.resume, otherFiber, woken, Fiber.withCall]; rfl, ?_⟩
      rw [← resumed]
      cases rightPhase with
      | reported _ otherFinished _ _ _ otherStored =>
          exact readWoken_alike partnership partners finished otherFinished len stopped fits stored
            otherStored
      | closing inside _ _ _ _ =>
          rw [otherFiber, woken] at inside
          simp [Fiber.withCall] at inside
  | @closing one serial promise inside eof closed stopped fits =>
      cases promise with
      | unset => rcases inside with inside | inside <;> simp [State.resume, inside] at resumed
      | set result =>
          rcases inside with inside | inside
          · simp only [State.resume, inside, Option.some.injEq] at resumed
            refine ⟨_, by
              simp only [State.resume, otherFiber, inside, Fiber.withCall, Waiting.withCall]
              rfl, ?_⟩
            rw [← resumed]
            cases result with
            | ok value => exact .inl (closeHandle_alike partnership partners eof closed fits)
            | error exc => exact shutdownThrew_alike partnership partners eof closed fits
          · simp only [State.resume, inside, Option.some.injEq] at resumed
            refine ⟨_, by
              simp only [State.resume, otherFiber, inside, Fiber.withCall, Waiting.withCall]
              rfl, ?_⟩
            rw [← resumed]
            unfold State.resumeWith State.closeHandleDone
            rw [twin_notifyAll]
            exact .inr (@readEnd_closed_alike _ _ _ _ (left.notifyAll.emit .closeReturned) _ _ _ _
              _ _ partnership partners closed second)

end Own

/-! ## Whole calls -/

/-- Results of two computations that are related are related more loosely. -/
theorem rel_weaken {First Second : Type} {Strong Weak : First → Second → Prop}
    {one : Option First} {two : Option Second} (related : Option.Rel Strong one two)
    (weaker : ∀ first second, one = some first → two = some second → Strong first second →
      Weak first second) :
    Option.Rel Weak one two := by
  cases related with
  | some strong => exact .some (weaker _ _ rfl rfl strong)
  | none => exact .none

section Calls

variable {Partners : ReadCall → ReadCall → Prop} {Ends : Outcome → Outcome → Prop}
  {left right after : State Fib} {fib : Fib} {action : Action Fib}

omit [DecidableEq Fib] in
/-- As long as a reader is inside its inner read, no other read gets in. -/
theorem Phase.busy {call : ReadCall} {report : Option Report} (phase : Phase left fib call report)
    (sole : SoleReader left) : left.closed = true ∨ left.reading = true := by
  cases phase with
  | waiting waits _ _ _ => exact .inr (sole.reading _ _ _ waits)
  | reported woken _ _ _ _ _ => exact .inr (sole.reading _ _ _ woken)
  | closing _ _ closed _ _ => exact .inl closed

omit [DecidableEq Fib] in
theorem Phase.alone {call : ReadCall} {report : Option Report} (phase : Phase left fib call report)
    (sole : SoleReader left) (other : Fib) (differs : other ≠ fib) :
    (left.fiber other).activeRead = none := by
  cases isActive : (left.fiber other).activeRead with
  | none => rfl
  | some call' => exact absurd (sole.single _ _ _ _ isActive phase.active) differs

/-- While the watcher runs, both readers wait with the buffers they were
given. -/
theorem Phase.buffers {first second : ReadCall} {report : Option Report} {buf : Nat}
    {memory : Memory UInt8} (leftPhase : Phase left fib first report)
    (rightPhase : Phase (left.twin fib second buf memory) fib second report)
    (firstSized : first.Sized) (secondSized : second.Sized)
    (watching : left.tcp.watching = true) : buf = 0 ↔ left.buf = 0 := by
  cases leftPhase with
  | waiting _ leftBuf _ _ =>
      cases rightPhase with
      | waiting _ rightBuf _ _ =>
          have rightBuf : buf = second.buf := rightBuf
          rw [leftBuf, rightBuf]
          exact iff_of_false secondSized.buffer firstSized.buffer
  | reported _ _ _ stopped _ _ => exact absurd (stopped.symm.trans watching) (by decide)
  | closing _ _ _ stopped _ => exact absurd (stopped.symm.trans watching) (by decide)

variable [Fintype Fib]

/-- Twins among the reachable states. -/
structure Twins (Partners : ReadCall → ReadCall → Prop) (fib : Fib) (left right : State Fib) :
    Prop where
  leftReachable : (machine Fib).Reachable Machine.AnyStep left
  rightReachable : (machine Fib).Reachable Machine.AnyStep right
  inner : InnerTwins Partners fib left right

/-- A step that is not the reader's own. -/
theorem Twins.others (partnership : Partnership Partners Ends)
    (twins : Twins Partners fib left right) (notOwn : ∀ status, action ≠ .resume fib status)
    (stepped : (machine Fib).step left action = some after) :
    ∃ other, (machine Fib).step right action = some other ∧ Twins Partners fib after other := by
  obtain ⟨leftReachable, rightReachable, inner⟩ := twins
  obtain ⟨partners, leftPhase, rightPhase⟩ := inner
  rename_i first second report buf memory
  have leftOwned := reachable_owned leftReachable
  have leftSole := reachable_soleReader leftReachable
  have rightOwned := reachable_owned rightReachable
  have rightSole := reachable_soleReader rightReachable
  obtain ⟨firstSized, secondSized⟩ := partnership.sized _ _ partners
  have inside : (left.fiber fib).isIdle = false := by simpa [State.inside] using leftPhase.inside
  obtain ⟨buf', memory', otherStepped⟩ := @step_twin _ _ left fib second buf memory _ action after
    inside (leftPhase.busy leftSole) (leftPhase.alone leftSole)
    (leftPhase.buffers rightPhase firstSized secondSized) notOwn stepped
  have leftStep := (step_transition leftOwned stepped).slotStep leftOwned leftSole
  have rightStep := (step_transition rightOwned otherStepped).slotStep rightOwned rightSole
  obtain ⟨later, reported, leftLater⟩ :=
    leftPhase.others firstSized leftOwned leftSole leftStep notOwn
  obtain ⟨later', reported', rightLater⟩ :=
    rightPhase.others secondSized rightOwned rightSole rightStep notOwn
  have same : later' = later := by
    have equal : later'.toList = later.toList := reported'.trans reported.symm
    exact Option.head?_toList.symm.trans ((congrArg List.head? equal).trans Option.head?_toList)
  subst same
  exact ⟨_, otherStepped, .next leftReachable trivial stepped,
    .next rightReachable trivial otherStepped, .intro partners leftLater rightLater⟩

omit [Fintype Fib] in
theorem InnerTwins.life (twins : InnerTwins Partners fib left right) : right.life = left.life := by
  cases twins
  rfl

/-- Every step of the one is a step of the other. -/
theorem Twins.step (partnership : Partnership Partners Ends)
    (twins : Twins Partners fib left right)
    (stepped : (machine Fib).step left action = some after) :
    ∃ other, (machine Fib).step right action = some other ∧
      (Twins Partners fib after other ∨ EndedAlike Ends fib after other) := by
  by_cases own : ∃ status, action = .resume fib status
  · obtain ⟨status, rfl⟩ := own
    obtain ⟨running, resumed⟩ := Option.ite_none_left_eq_some.mp stepped
    obtain ⟨other, otherResumed, later⟩ := twins.inner.ownStep partnership resumed
    have otherStepped : (machine Fib).step right (.resume fib status) = some other := by
      show State.step right (.resume fib status) = some other
      rw [State.step, if_neg (by rw [twins.inner.life]; exact running)]
      exact otherResumed
    refine ⟨other, otherStepped, ?_⟩
    rcases later with inner | ended
    · exact .inl ⟨.next twins.leftReachable trivial stepped,
        .next twins.rightReachable trivial otherStepped, inner⟩
    · exact .inr ended
  · obtain ⟨other, otherStepped, later⟩ := twins.others partnership
      (fun status isOwn => own ⟨status, isOwn⟩) stepped
    exact ⟨other, otherStepped, .inl later⟩

/-- Two sockets on which the same happened, except that the operations may
have ended differently. -/
structure Alike (Ends : Outcome → Outcome → Prop) (fib : Fib) (left right : State Fib) :
    Prop where
  closed : right.closed = left.closed
  reading : right.reading = left.reading
  tcp : right.tcp = left.tcp
  chunks : chunkBytes right.log = chunkBytes left.log
  outcomes : (left.inside fib = true ∧ right.inside fib = true) ∨
    ∃ first second, left.fiber fib = .idle (some first) ∧
      right.fiber fib = .idle (some second) ∧ Ends first second

omit [Fintype Fib] in
theorem InnerTwins.alike (twins : InnerTwins Partners fib left right) :
    Alike Ends fib left right := by
  obtain ⟨_, leftPhase, rightPhase⟩ := twins
  exact ⟨rfl, rfl, rfl, rfl, .inl ⟨leftPhase.inside, rightPhase.inside⟩⟩

omit [Fintype Fib] in
theorem EndedAlike.outcomes (ended : EndedAlike Ends fib left right) :
    ∃ first second, left.fiber fib = .idle (some first) ∧ right.fiber fib = .idle (some second) ∧
      Ends first second := by
  obtain ⟨base, buf, memory, ends⟩ := ended
  exact ⟨_, _, Function.update_self _ _ _, Function.update_self _ _ _, ends⟩

omit [Fintype Fib] in
theorem EndedAlike.alike (ended : EndedAlike Ends fib left right) : Alike Ends fib left right := by
  have outcomes := ended.outcomes
  obtain ⟨base, buf, memory, ends⟩ := ended
  refine ⟨rfl, rfl, rfl, ?_, .inr outcomes⟩
  simp [chunkBytes, Event.chunkBytes]

omit [Fintype Fib] in
/-- An idle fiber is in no call that could be replaced. -/
theorem twin_idle {state : State Fib} (idle : (state.fiber fib).isIdle = true) (call : ReadCall) :
    state.twin fib call state.buf state.memory = state := by
  have same : (state.fiber fib).withCall call = state.fiber fib := by
    cases isFiber : state.fiber fib <;> rw [isFiber] at idle <;> first | rfl | cases idle
  unfold State.twin
  rw [same, Function.update_eq_self]

variable {start final : State Fib} {request other : ReadRequest} {status : Int}
  {actions : List (Action Fib)}

omit [Fintype Fib] in
/-- The two operations begin alike. -/
theorem startRead_alike (partnership : Partnership Partners Ends)
    (begins : Sum.LiftRel Ends Partners (request.first start.calls start.closed)
      (other.first start.calls start.closed))
    (idle : (start.fiber fib).isIdle = true) :
    InnerTwins Partners fib (start.startRead fib request status)
        (start.startRead fib other status) ∨
      EndedAlike Ends fib (start.startRead fib request status)
        (start.startRead fib other status) := by
  let started : State Fib := { start with calls := start.calls + 1 }
  unfold State.startRead
  simp only
  generalize request.first start.calls start.closed = one at begins ⊢
  generalize other.first start.calls start.closed = two at begins ⊢
  cases begins with
  | inl ends => exact .inr (.intro started started.buf started.memory ends)
  | @inr first second partners =>
      have alike := @read_alike _ _ _ _ started fib first second started.buf started.memory status
        partnership partners first
      rw [twin_idle (by exact idle)] at alike
      exact alike

/-- The two operations end in the step in which they are called. -/
theorem callRead_ended_alike (buffers : request.hasBuffer = other.hasBuffer)
    (ended : EndedAlike Ends fib (start.startRead fib request status)
      (start.startRead fib other status)) :
    Option.Rel (Alike Ends fib) (callRead start fib request status actions)
      (callRead start fib other status actions) := by
  obtain ⟨outcome, outcome', leftEnd, rightEnd, _⟩ := ended.outcomes
  simp only [callRead, machine, State.step, buffers]
  by_cases terminated : start.life = .terminated
  · simp only [if_pos terminated]
    exact .none
  · by_cases enabled : (start.canCall fib && other.hasBuffer) = true
    · simp only [if_neg terminated, if_pos enabled, Option.bind_some]
      cases actions with
      | nil => exact .some ended.alike
      | cons action rest =>
          simp only [Machine.execWhile, State.inside, leftEnd, rightEnd, Fiber.isIdle,
            Bool.not_true, Bool.false_eq_true, if_false]
          exact .none
    · simp only [if_neg terminated, if_neg enabled]
      exact .none

/-- A run of the one operation is a run of the other. -/
theorem callRead_lockstep (partnership : Partnership Partners Ends)
    (reachable : (machine Fib).Reachable Machine.AnyStep start) (buffer : other.hasBuffer = true)
    (begins : Sum.LiftRel Ends Partners (request.first start.calls start.closed)
      (other.first start.calls start.closed))
    (run : callRead start fib request status actions = some final) :
    ∃ last, callRead start fib other status actions = some last ∧ Alike Ends fib final last := by
  obtain ⟨began, stepped, run⟩ := Option.bind_eq_some_iff.mp run
  obtain ⟨running, enabled⟩ := Option.ite_none_left_eq_some.mp stepped
  obtain ⟨enabled, result⟩ := Option.ite_none_right_eq_some.mp enabled
  have canCall := (Bool.and_eq_true_iff.mp enabled).1
  have otherStepped : (machine Fib).step start (.read fib other status) =
      some (start.startRead fib other status) := by
    show State.step start (.read fib other status) = _
    rw [State.step, if_neg running]
    simp only [canCall, buffer, Bool.and_self, if_true]
  have begun : Twins Partners fib began (start.startRead fib other status) ∨
      EndedAlike Ends fib began (start.startRead fib other status) := by
    cases result
    rcases @startRead_alike _ _ _ _ _ start request other status partnership begins
      (canCall_idle canCall) with inner | ended
    · exact .inl ⟨.next reachable trivial stepped, .next reachable trivial otherStepped, inner⟩
    · exact .inr ended
  obtain ⟨last, otherRun, later⟩ := @Machine.execWhile_lockstep _ _ (machine Fib)
    (State.inside fib) (Twins Partners fib) (EndedAlike Ends fib) began
    (start.startRead fib other status) final actions begun
    (by
      intro left right twins
      obtain ⟨_, _, rightPhase⟩ := twins.inner
      exact rightPhase.inside)
    (by
      intro left right ended
      obtain ⟨outcome, _, leftEnd, _, _⟩ := ended.outcomes
      simp [State.inside, leftEnd, Fiber.isIdle])
    (fun left right action after twins stepped => twins.step partnership stepped) run
  refine ⟨last, ?_, later.elim (fun twins => twins.inner.alike) EndedAlike.alike⟩
  rw [callRead, otherStepped]
  exact otherRun

/-- Either both operations run over the actions, or neither does. -/
theorem callRead_alike (partnership : Partnership Partners Ends)
    (reachable : (machine Fib).Reachable Machine.AnyStep start)
    (buffers : request.hasBuffer = true ∧ other.hasBuffer = true)
    (begins : Sum.LiftRel Ends Partners (request.first start.calls start.closed)
      (other.first start.calls start.closed)) :
    Option.Rel (Alike Ends fib) (callRead start fib request status actions)
      (callRead start fib other status actions) := by
  cases run : callRead start fib request status actions with
  | some final =>
      obtain ⟨last, otherRun, alike⟩ := callRead_lockstep partnership reachable buffers.2 begins run
      rw [otherRun]
      exact .some alike
  | none =>
      cases otherRun : callRead start fib other status actions with
      | none => exact .none
      | some last =>
          have back : Sum.LiftRel (fun first second => Ends second first)
              (fun first second => Partners second first)
              (other.first start.calls start.closed)
              (request.first start.calls start.closed) := by
            generalize request.first start.calls start.closed = one at begins ⊢
            generalize other.first start.calls start.closed = two at begins ⊢
            cases begins with
            | inl ends => exact .inl ends
            | inr partners => exact .inr partners
          obtain ⟨final, ran, _⟩ :=
            callRead_lockstep partnership.symm reachable buffers.1 back otherRun
          rw [run] at ran
          cases ran

end Calls

end Fiberio.Socket
