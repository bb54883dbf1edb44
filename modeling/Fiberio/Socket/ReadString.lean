import Fiberio.Socket.Lockstep

/-!
Owns the two compiled forms of `read_string`. Before C++17 it reads into a
`std::vector`, whose data is null when it is empty; since C++17 it reads into
the returned `std::string`, whose data never is. `read` takes a null buffer
for a finished read, so the two forms part on a count of zero. They also part
on a count that only one of the containers refuses by its length.

Does not own the capacity of the returned string, which is all that
`shrink_to_fit` changes.
-/

namespace Fiberio.Socket

open Fiberio.Foundation

/-! ## The two forms -/

/-- Inner reads of the two forms for the same call. -/
structure StringPartners (first second : ReadCall) : Prop where
  id : first.id = second.id
  size : first.size = second.size
  sized : first.Sized ∧ second.Sized
  vector : first.caller = .readString .cpp14 first.size
  text : second.caller = .readString .cpp17 second.size

/-- `read_string` reads once, and neither form keeps more than it read. -/
theorem stringPartnership : Partnership StringPartners Eq where
  id := fun _ _ partners => partners.id
  size := fun _ _ partners => partners.size
  sized := fun _ _ partners => partners.sized
  continues := by
    intro first second count partners _
    simp only [ReadCall.continues, partners.vector, partners.text]
  next := by
    intro first second count partners _ continues
    simp only [ReadCall.continues, partners.vector] at continues
    cases continues
  threw := fun _ => rfl
  closed := by
    intro first second memory memory' partners
    simp [ReadCall.onClosed, ReadCall.continues, ReadCall.result, partners.vector, partners.text,
      Memory.load_zero]
  obtained := by
    intro first second count memory memory' partners within same
    have kept : min count second.size = count := by
      have size := partners.size
      omega
    simp only [ReadCall.result, partners.vector, partners.text, kept, same]

variable {Fib : Type}

/-- The operations of two runs have the same result, and the sockets the same
flags and the same answer to whether the read watcher is started. -/
structure SameResult (fib : Fib) (left right : State Fib) : Prop where
  result : ∀ outcome, left.fiber fib = .idle (some outcome) ↔
    right.fiber fib = .idle (some outcome)
  closed : left.closed = right.closed
  reading : left.reading = right.reading
  watching : left.tcp.watching = right.tcp.watching

theorem Alike.sameResult {fib : Fib} {left right : State Fib} (alike : Alike Eq fib left right) :
    SameResult fib left right := by
  refine ⟨?_, alike.closed.symm, alike.reading.symm, by rw [alike.tcp]⟩
  intro outcome
  rcases alike.outcomes with ⟨leftInside, rightInside⟩ | ⟨first, second, leftEnd, rightEnd, same⟩
  · constructor
    · intro ended
      simp [State.inside, ended, Fiber.isIdle] at leftInside
    · intro ended
      simp [State.inside, ended, Fiber.isIdle] at rightInside
  · rw [leftEnd, rightEnd, same]

variable [DecidableEq Fib] [Fintype Fib] {start : State Fib} {fib : Fib} {count array text : Nat}
  {status : Int}

/-- Both forms, with a vector at `array` and a string at `text`, do the same
whatever happens. -/
def FormsAgree (start : State Fib) (fib : Fib) (count array text : Nat) (status : Int) : Prop :=
  ∀ actions, Option.Rel (SameResult fib)
    (callRead start fib (.readString .cpp14 count array) status actions)
    (callRead start fib (.readString .cpp17 count text) status actions)

/-! ## Where they agree -/

omit [DecidableEq Fib] [Fintype Fib] in
/-- The containers refuse the same lengths, but for those between their
bounds. -/
theorem CppStd.sameRefusal_iff :
    CppStd.cpp14.refuses count = CppStd.cpp17.refuses count ↔
      count ≤ maxStringSize ∨ maxVectorSize < count := by
  unfold CppStd.refuses maxStringSize maxVectorSize
  split_ifs <;> simp <;> omega

example : CppStd.cpp14.refuses (2 ^ 62) = some .badAlloc ∧
    CppStd.cpp17.refuses (2 ^ 62) = some .lengthError := by decide

/-- Strings that are not empty have buffers that are not null. -/
theorem formsAgree_of_pos (reachable : (machine Fib).Reachable Machine.AnyStep start)
    (vector : (ReadRequest.readString .cpp14 count array).hasBuffer = true)
    (string : (ReadRequest.readString .cpp17 count text).hasBuffer = true)
    (sameRefusal : CppStd.cpp14.refuses count = CppStd.cpp17.refuses count)
    (nonempty : 0 < count) : FormsAgree start fib count array text status := by
  have begins : Sum.LiftRel Eq StringPartners
      ((ReadRequest.readString .cpp14 count array).first start.calls start.closed)
      ((ReadRequest.readString .cpp17 count text).first start.calls start.closed) := by
    cases built : CppStd.cpp17.refuses count with
    | some exc =>
      simp only [ReadRequest.first, sameRefusal, built]
      exact .inl rfl
    | none =>
      have first : (ReadRequest.readString .cpp14 count array).first start.calls start.closed =
          .inr ⟨start.calls, array, count, .readString .cpp14 count⟩ := by
        simp only [ReadRequest.first, sameRefusal, built]
      have second : (ReadRequest.readString .cpp17 count text).first start.calls start.closed =
          .inr ⟨start.calls, text, count, .readString .cpp17 count⟩ := by
        simp only [ReadRequest.first, built]
      have arrayBuffer : array ≠ 0 := by
        simp only [ReadRequest.hasBuffer, decide_eq_true_eq] at vector
        intro null
        exact absurd (vector.2.mp null) (by omega)
      have textBuffer : text ≠ 0 := by
        simp only [ReadRequest.hasBuffer, decide_eq_true_eq] at string
        exact string.2
      have sized := (@ReadRequest.Sized.first (.readString .cpp14 count array) _ _ _
        ⟨arrayBuffer, nonempty⟩ first).1
      have sized' := (@ReadRequest.Sized.first (.readString .cpp17 count text) _ _ _
        ⟨textBuffer, nonempty⟩ second).1
      rw [first, second]
      exact .inr ⟨rfl, rfl, ⟨sized, sized'⟩, rfl, rfl⟩
  intro actions
  apply rel_weaken (callRead_alike stringPartnership reachable ⟨vector, string⟩ begins)
  exact fun _ _ _ _ alike => alike.sameResult

/-- A call that does not come to read does not look at its buffer. -/
theorem formsAgree_of_turnedAway
    (vector : (ReadRequest.readString .cpp14 count array).hasBuffer = true)
    (string : (ReadRequest.readString .cpp17 count text).hasBuffer = true)
    (sameRefusal : CppStd.cpp14.refuses count = CppStd.cpp17.refuses count)
    (away : start.closed = true ∨ start.reading = true ∨ status < 0) :
    FormsAgree start fib count array text status := by
  have same : start.startRead fib (.readString .cpp14 count array) status =
      start.startRead fib (.readString .cpp17 count text) status := by
    unfold State.startRead ReadRequest.first
    cases built : CppStd.cpp17.refuses count with
    | some exc => simp only [sameRefusal, built]
    | none =>
      simp only [sameRefusal, built]
      unfold State.read
      simp only
      split
      · rfl
      · rename_i isOpen
        split
        · rfl
        · rename_i free
          have failed : ¬ 0 ≤ status := by
            rcases away with closed | reading | negative
            · exact absurd closed isOpen
            · exact absurd reading free
            · omega
          cases checked : checkUvStatus status with
          | ok value => exact absurd (checkUvStatus_eq_ok_iff.mp checked) failed
          | error exc =>
              simp only [State.beginRead]
  intro actions
  have equal : callRead start fib (.readString .cpp14 count array) status actions =
      callRead start fib (.readString .cpp17 count text) status actions := by
    simp only [callRead, machine, State.step, vector, string, same]
  rw [equal]
  cases callRead start fib (.readString .cpp17 count text) status actions with
  | none => exact .none
  | some final => exact .some ⟨fun _ => Iff.rfl, rfl, rfl, rfl⟩

/-! ## Where they part -/

/-- One form has ended in a way in which the other has not. -/
theorem not_formsAgree_of_ended {left right : State Fib} {outcome : Outcome}
    (leftRun : callRead start fib (.readString .cpp14 count array) status [] = some left)
    (rightRun : callRead start fib (.readString .cpp17 count text) status [] = some right)
    (ended : left.fiber fib = .idle (some outcome))
    (other : right.fiber fib ≠ .idle (some outcome)) :
    ¬ FormsAgree start fib count array text status := by
  intro agree
  have same := agree []
  rw [leftRun, rightRun] at same
  cases same with
  | some same => exact other ((same.result outcome).mp ended)

omit [DecidableEq Fib] [Fintype Fib] in
theorem State.alive_of_canCall (canCall : start.canCall fib = true) :
    ¬ start.life = .terminated := by
  have life := (Bool.and_eq_true_iff.mp canCall).1
  rw [of_decide_eq_true life]
  decide

/-- A buffer that is not built ends the call, whatever the socket's state. -/
theorem callRead_refused {std : CppStd} {buf : Nat} {exc : Exc}
    (canCall : start.canCall fib = true)
    (buffer : (ReadRequest.readString std count buf).hasBuffer = true)
    (refused : std.refuses count = some exc) :
    ∃ final, callRead start fib (.readString std count buf) status [] = some final ∧
      final.fiber fib = .idle (some (.threw exc)) := by
  have alive := State.alive_of_canCall canCall
  simp only [callRead, machine, State.step, if_neg alive, canCall, buffer, Bool.and_self, if_true,
    State.startRead, ReadRequest.first, refused, Option.bind_some, Machine.execWhile]
  refine ⟨_, rfl, ?_⟩
  simp only [State.finish_fiber, Function.update_self]

/-- A vector may be longer than a string, but there is no memory for it. -/
theorem not_formsAgree_between (canCall : start.canCall fib = true)
    (vector : (ReadRequest.readString .cpp14 count array).hasBuffer = true)
    (string : (ReadRequest.readString .cpp17 count text).hasBuffer = true)
    (noString : maxStringSize < count) (someVector : count ≤ maxVectorSize) :
    ¬ FormsAgree start fib count array text status := by
  have noMemory : CppStd.cpp14.refuses count = some .badAlloc := by
    rw [CppStd.refuses, if_neg (by omega), if_pos noString]
  have tooLong : CppStd.cpp17.refuses count = some .lengthError := by
    rw [CppStd.refuses, if_pos noString]
  obtain ⟨left, leftRun, leftEnd⟩ := callRead_refused canCall vector noMemory
  obtain ⟨right, rightRun, rightEnd⟩ := callRead_refused canCall string tooLong
  apply not_formsAgree_of_ended leftRun rightRun leftEnd
  rw [rightEnd]
  simp

/-- An empty vector has no buffer: the call returns at once and leaves the
watcher started. An empty string has one, for which the other form waits. -/
theorem not_formsAgree_zero (canCall : start.canCall fib = true)
    (string : (ReadRequest.readString .cpp17 0 text).hasBuffer = true)
    (isOpen : start.closed = false) (free : start.reading = false) (accepted : 0 ≤ status) :
    ¬ FormsAgree start fib 0 0 text status := by
  have alive := State.alive_of_canCall canCall
  have textBuffer : text ≠ 0 := by
    simp only [ReadRequest.hasBuffer, decide_eq_true_eq] at string
    exact string.2
  have vector : (ReadRequest.readString .cpp14 0 0).hasBuffer = true := by
    simp [ReadRequest.hasBuffer]
  have built {std : CppStd} : std.refuses 0 = none :=
    CppStd.refuses_eq_none_iff.mpr (Nat.zero_le _)
  have left : ∃ final, callRead start fib (.readString .cpp14 0 0) status [] = some final ∧
      final.fiber fib = .idle (some (.returned [])) := by
    simp only [callRead, machine, State.step, if_neg alive, canCall, vector, Bool.and_self, if_true,
      State.startRead, ReadRequest.first, built, State.read, isOpen, free,
      Bool.false_eq_true, if_false, checkUvStatus_ok accepted, ne_eq, not_true_eq_false,
      Option.bind_some, Machine.execWhile]
    refine ⟨_, rfl, ?_⟩
    have none : toSize (toInt64 0) = 0 := by
      rw [toInt64_eq (Nat.two_pow_pos 63), toSize_natCast (Nat.two_pow_pos 63)]
    simp only [State.finishRead_fiber, Function.update_self, State.watch_len, State.beginRead_len,
      none, ReadCall.result, Memory.load_zero]
  have right : ∃ final call, callRead start fib (.readString .cpp17 0 text) status [] =
      some final ∧ final.fiber fib = .waitRead false call := by
    simp only [callRead, machine, State.step, if_neg alive, canCall, string, Bool.and_self, if_true,
      State.startRead, ReadRequest.first, built, State.read, isOpen, free,
      Bool.false_eq_true, if_false, checkUvStatus_ok accepted, ne_eq, textBuffer,
      not_false_eq_true, Option.bind_some, Machine.execWhile]
    exact ⟨_, _, rfl, Function.update_self _ _ _⟩
  obtain ⟨leftFinal, leftRun, returned⟩ := left
  obtain ⟨rightFinal, call, rightRun, waits⟩ := right
  apply not_formsAgree_of_ended leftRun rightRun returned
  rw [waits]
  simp

/-- The two forms of `read_string` do the same on every sequence of events if
and only if both containers judge the length alike, and the string is not
empty or the call is turned away before it reads: on a closed socket, beside
another read, or by `uv_read_start`. -/
theorem read_string_forms_agree_iff
    (reachable : (machine Fib).Reachable Machine.AnyStep start) (canCall : start.canCall fib = true)
    (vector : (ReadRequest.readString .cpp14 count array).hasBuffer = true)
    (string : (ReadRequest.readString .cpp17 count text).hasBuffer = true) :
    FormsAgree start fib count array text status ↔
      (count ≤ maxStringSize ∨ maxVectorSize < count) ∧
        (0 < count ∨ start.closed = true ∨ start.reading = true ∨ status < 0) := by
  constructor
  · intro agree
    constructor
    · by_contra between
      simp only [not_or, Nat.not_le, Nat.not_lt] at between
      exact not_formsAgree_between canCall vector string between.1 between.2 agree
    by_contra none
    simp only [not_or, Nat.not_lt, Nat.le_zero, Bool.not_eq_true, Int.not_lt] at none
    obtain ⟨rfl, isOpen, free, accepted⟩ := none
    have null : array = 0 := by
      simp only [ReadRequest.hasBuffer, decide_eq_true_eq] at vector
      exact vector.2.mpr trivial
    subst null
    exact not_formsAgree_zero canCall string isOpen free accepted agree
  · rintro ⟨alike, nonempty | away⟩
    · exact formsAgree_of_pos reachable vector string (CppStd.sameRefusal_iff.mpr alike) nonempty
    · exact formsAgree_of_turnedAway vector string (CppStd.sameRefusal_iff.mpr alike) away

/-- Five bytes are asked for, and three arrive. -/
theorem read_string_of_three_bytes :
    Option.Rel (SameResult 0)
        (callRead (initial fun _ => 0) (0 : Fin 1) (.readString .cpp14 5 100) 0
          [.readCallback 3 [1, 2, 3], .resume 0 0])
        (callRead (initial fun _ => 0) (0 : Fin 1) (.readString .cpp17 5 200) 0
          [.readCallback 3 [1, 2, 3], .resume 0 0]) ∧
      ((callRead (initial fun _ => 0) (0 : Fin 1) (.readString .cpp17 5 200) 0
        [.readCallback 3 [1, 2, 3], .resume 0 0]).map fun final => final.fiber 0) =
          some (.idle (some (.returned [1, 2, 3]))) := by
  have reachable : (machine (Fin 1)).Reachable Machine.AnyStep (initial fun _ => 0) :=
    .start ⟨_, rfl⟩
  have agree : FormsAgree (initial fun _ => 0) (0 : Fin 1) 5 100 200 0 :=
    (read_string_forms_agree_iff reachable (by decide) (by decide) (by decide)).mpr
      ⟨.inl (by decide), .inl (by decide)⟩
  exact ⟨agree _, rfl⟩

/-- On an open socket, an empty string is returned at once in the one form,
with the read watcher still started, and in the other the read fails. -/
theorem read_string_of_nothing :
    ¬ FormsAgree (initial fun _ => 0) (0 : Fin 1) 0 0 200 0 ∧
      ((callRead (initial fun _ => 0) (0 : Fin 1) (.readString .cpp14 0 0) 0 []).map fun final =>
        (final.fiber 0, final.reading, final.tcp.watching)) =
          some (.idle (some (.returned [])), false, true) ∧
      ((callRead (initial fun _ => 0) (0 : Fin 1) (.readString .cpp17 0 200) 0
        [.readCallback uvEnobufs [], .resume 0 0]).map fun final =>
          (final.fiber 0, final.reading, final.tcp.watching)) =
          some (.idle (some (.threw (.ioError (.text "read failed")))), false, false) :=
  ⟨not_formsAgree_zero (by decide) (by decide) rfl rfl (by decide), rfl, rfl⟩

end Fiberio.Socket
