import Fiberio.Socket.ClosingOnce
import Fiberio.Socket.EndOfStream
import Fiberio.Socket.Lifetime

/-!
Owns `detail::socket_device` (`include/fiberio/iostream.hpp`) as an object with
its two flags: `read`, `write` and `close` of a device whose socket, once it is
connected, is used through it by any number of fibers. A stream closes its two
directions with two calls; the device closes the socket with the second of
them, and until then the other direction stays open.

Does not own what Boost.IOStreams does around the device, what a read returns,
or a user who closes the socket past the device, through a handle of his own.
-/

namespace Fiberio.Device

open Fiberio.Foundation

variable {Fib : Type}

/-! ## The device -/

/-- `std::ios_base::openmode`, a set of flags. -/
structure OpenMode where
  app : Bool
  ate : Bool
  binary : Bool
  input : Bool
  output : Bool
  trunc : Bool
deriving DecidableEq, Repr

/-- `std::ios_base::in` -/
def modeIn : OpenMode := ⟨false, false, false, true, false, false⟩

/-- `std::ios_base::out` -/
def modeOut : OpenMode := ⟨false, false, false, false, true, false⟩

/-- `modes` are the arguments of the calls of `close` so far, oldest first. -/
structure State (Fib : Type) where
  /-- `closed_in_` -/
  closedIn : Bool
  /-- `closed_out_` -/
  closedOut : Bool
  /-- `socket_` -/
  socket : Socket.State Fib
  modes : List OpenMode

inductive Action (Fib : Type) where
  /-- The user's own handle connects the socket, and does no more with it. -/
  | connect (fib : Fib) (status : Int)
  | read (fib : Fib) (buf : Nat) (count : Int) (status : Int)
  | write (fib : Fib) (data : List UInt8) (status : Int)
  | close (fib : Fib) (mode : OpenMode) (status : Int)
  /-- The last copy of the device is gone. -/
  | destroy (fib : Fib) (status : Int)
  /-- A suspended call goes on, or a callback runs. -/
  | goesOn (action : Socket.Action Fib)

namespace State

variable [DecidableEq Fib] [Fintype Fib]

def onSocket (state : State Fib) (action : Socket.Action Fib) : Option (State Fib) :=
  ((Socket.machine Fib).step state.socket action).map fun socket => { state with socket := socket }

/-- `socket_device::read`, for a `std::streamsize`. The loop of a call that
asks for nothing is not entered. -/
def read (state : State Fib) (fib : Fib) (buf : Nat) (count : Int) (status : Int) :
    Option (State Fib) :=
  if count ≤ 0 then
    if state.socket.canCall fib then some state else none
  else if buf ≠ 0 ∧ count < 2 ^ 63 then
    state.onSocket (.read fib (.deviceRead buf count.toNat) status)
  else none

/-- The two flags of `socket_device::close`. -/
def note (state : State Fib) (mode : OpenMode) : State Fib :=
  { state with
    closedOut := if mode = modeOut then true else state.closedOut
    closedIn := if mode ≠ modeOut ∧ mode = modeIn then true else state.closedIn
    modes := state.modes ++ [mode] }

/-- `socket_device::close`. -/
def close (state : State Fib) (fib : Fib) (mode : OpenMode) (status : Int) :
    Option (State Fib) :=
  if state.socket.canCall fib then
    if (state.note mode).closedIn && (state.note mode).closedOut then
      (state.note mode).onSocket (.close fib status)
    else some (state.note mode)
  else none

def step (state : State Fib) : Action Fib → Option (State Fib)
  | .connect fib status => state.onSocket (.connect fib status)
  | .read fib buf count status => state.read fib buf count status
  | .write fib data status => state.onSocket (.write fib data status)
  | .close fib mode status => state.close fib mode status
  | .destroy fib status => state.onSocket (.destroy fib status)
  | .goesOn action => if action.caller = none then state.onSocket action else none

end State

/-- A device on a new socket, with its fibers and its part of libuv. -/
def machine (Fib : Type) [DecidableEq Fib] [Fintype Fib] :
    Machine (State Fib) (Action Fib) where
  Init := fun state => state.closedIn = false ∧ state.closedOut = false ∧ state.modes = [] ∧
    (Socket.machine Fib).Init state.socket
  step := State.step

end Fiberio.Device

/-! ## Who closes a socket -/

namespace Fiberio.Socket

open Fiberio.Foundation

variable {Fib : Type} [DecidableEq Fib] {state after : State Fib} {action : Action Fib}

/-- A socket is closed by a call of `close`, by its destructor, or by a read
whose `len_` stands for the end of the stream. -/
theorem Transition.closed_cause (transition : Transition state action after)
    (wasOpen : state.closed = false) (closed : after.closed = true) :
    (∃ fib status, action = .close fib status) ∨ (∃ fib status, action = .destroy fib status) ∨
      state.len = errorEof := by
  have entered : ∀ {fib status closer entered},
      CloseEntry state fib action status closer entered →
        (∃ fib status, action = .close fib status) ∨
          (∃ fib status, action = .destroy fib status) ∨ state.len = errorEof := by
    intro fib status closer entered entry
    cases entry with
    | user idle => exact .inl ⟨_, _, rfl⟩
    | destructor idle => exact .inr (.inl ⟨_, _, rfl⟩)
    | eof woken finished atEof => exact .inr (.inr atEof)
  have same : after.closed = state.closed → (∃ fib status, action = .close fib status) ∨
      (∃ fib status, action = .destroy fib status) ∨ state.len = errorEof := by
    intro same
    exact absurd (wasOpen.symm.trans (same.symm.trans closed)) (by decide)
  cases transition with
  | shutsDown entry _ _ => exact entered entry
  | closesAtOnce entry _ _ => exact entered entry
  | closeFails entry _ _ _ => exact entered entry
  | @shutdownFails fib closer _ exc _ _ _ => exact same (by cases closer <;> rfl)
  | admits entry _ _ _ => exact same (by cases entry <;> rfl)
  | rejects entry _ _ _ => exact same (by cases entry <;> rfl)
  | readsNull entry _ _ _ => exact same (by cases entry <;> simp)
  | _ => exact same (by simp)

/-- `close` sets `closed_` before it suspends. -/
theorem close_closed [Fintype Fib] {fib : Fib} {status : Int}
    (stepped : (machine Fib).step state (.close fib status) = some after) :
    after.closed = true := by
  obtain ⟨_, stepped⟩ := Option.ite_none_left_eq_some.mp stepped
  obtain ⟨_, stepped⟩ := Option.ite_none_right_eq_some.mp stepped
  cases stepped
  simp only [State.userClose, State.close, State.shutdownThrew, State.closeThrew]
  split
  · simpa
  · split
    · split <;> simp
    · simp

end Fiberio.Socket

namespace Fiberio.Device

open Fiberio.Foundation

variable {Fib : Type} [DecidableEq Fib] [Fintype Fib] {state before after : State Fib}
  {action : Action Fib}

/-! ## Steps -/

/-- What one step of the device does. -/
inductive Step (before after : State Fib) : Prop where
  | nothing (same : after = before)
  | moves {move : Socket.Action Fib}
      (stepped : (Socket.machine Fib).step before.socket move = some after.socket)
      (same : after = { before with socket := after.socket })
      (sized : Socket.SizedReads before.socket move)
      (notClose : ∀ fib status, move ≠ .close fib status)
  | notes {mode : OpenMode} (same : after = before.note mode)
      (half : ¬ (after.closedIn = true ∧ after.closedOut = true))
  | closes {mode : OpenMode} {fib : Fib} {status : Int}
      (stepped : (Socket.machine Fib).step before.socket (.close fib status) = some after.socket)
      (same : after = { before.note mode with socket := after.socket })
      (both : after.closedIn = true ∧ after.closedOut = true)

theorem onSocket_eq_some {move : Socket.Action Fib} (stepped : before.onSocket move = some after) :
    (Socket.machine Fib).step before.socket move = some after.socket ∧
      after = { before with socket := after.socket } := by
  obtain ⟨socket, taken, rfl⟩ := Option.map_eq_some_iff.mp stepped
  exact ⟨taken, rfl⟩

theorem step_inversion (stepped : (machine Fib).step before action = some after) :
    Step before after := by
  cases action with
  | connect fib status =>
      obtain ⟨moved, same⟩ := onSocket_eq_some stepped
      exact .moves moved same trivial (by rintro _ _ ⟨⟩)
  | read fib buf count status =>
      have reads : before.read fib buf count status = some after := stepped
      unfold State.read at reads
      split at reads
      · obtain ⟨_, same⟩ := Option.ite_none_right_eq_some.mp reads
        cases same
        exact .nothing rfl
      · obtain ⟨⟨buffer, bounded⟩, taken⟩ := Option.ite_none_right_eq_some.mp reads
        obtain ⟨moved, same⟩ := onSocket_eq_some taken
        have sized : (Socket.ReadRequest.deviceRead buf count.toNat).Sized :=
          ⟨buffer, by omega, by omega⟩
        exact .moves moved same sized (by rintro _ _ ⟨⟩)
  | write fib data status =>
      obtain ⟨moved, same⟩ := onSocket_eq_some stepped
      exact .moves moved same trivial (by rintro _ _ ⟨⟩)
  | close fib mode status =>
      have closes : before.close fib mode status = some after := stepped
      obtain ⟨_, closes⟩ := Option.ite_none_right_eq_some.mp closes
      split at closes
      · rename_i both
        obtain ⟨moved, same⟩ := onSocket_eq_some closes
        rw [Bool.and_eq_true] at both
        refine .closes moved same ?_
        rw [same]
        exact both
      · rename_i half
        cases closes
        exact .notes rfl (by simpa using half)
  | destroy fib status =>
      obtain ⟨moved, same⟩ := onSocket_eq_some stepped
      exact .moves moved same trivial (by rintro _ _ ⟨⟩)
  | goesOn move =>
      obtain ⟨callback, taken⟩ := Option.ite_none_right_eq_some.mp stepped
      obtain ⟨moved, same⟩ := onSocket_eq_some taken
      cases move with
      | resume _ _ | complete _ _ | readCallback _ _ | onHandleClosed =>
          exact .moves moved same trivial (by rintro _ _ ⟨⟩)
      | connect _ _ | read _ _ _ | write _ _ _ | close _ _ | destroy _ _ => cases callback

/-- A run of the device, seen from its socket. -/
theorem socket_reachable {allowed : State Fib → Action Fib → Prop}
    (reachable : (machine Fib).Reachable allowed state) :
    (Socket.machine Fib).Reachable Socket.SizedReads state.socket := by
  apply reachable.project fun _ begun => begun.2.2.2
  intro before action after _ stepped
  cases step_inversion stepped with
  | nothing same => exact .inl (by rw [same])
  | moves stepped _ sized _ => exact .inr ⟨_, sized, stepped⟩
  | notes same _ => exact .inl (by rw [same]; rfl)
  | closes stepped _ _ => exact .inr ⟨.close _ _, trivial, stepped⟩

/-! ## The two directions -/

/-- The flags, the calls that set them, and what closed the socket. -/
structure Halves (state : State Fib) : Prop where
  input : state.closedIn = true ↔ modeIn ∈ state.modes
  output : state.closedOut = true ↔ modeOut ∈ state.modes
  both : state.closedIn = true → state.closedOut = true → state.socket.closed = true
  cause : state.socket.closed = true → (state.closedIn = true ∧ state.closedOut = true) ∨
    .readCallback uvEof ∈ state.socket.log ∨ state.socket.life ≠ .alive
  code : state.socket.len = Socket.errorEof → .readCallback uvEof ∈ state.socket.log

omit [DecidableEq Fib] [Fintype Fib] in
theorem Halves.note (halves : Halves state) (mode : OpenMode) :
    ((state.note mode).closedIn = true ↔ modeIn ∈ (state.note mode).modes) ∧
      ((state.note mode).closedOut = true ↔ modeOut ∈ (state.note mode).modes) := by
  have different : modeIn ≠ modeOut := by decide
  simp only [State.note, List.mem_append, List.mem_singleton]
  constructor
  · rw [← halves.input]
    split
    · rename_i isIn
      simp [isIn.2]
    · rename_i notIn
      have other : modeIn ≠ mode := by
        rintro rfl
        exact notIn ⟨different, rfl⟩
      simp [other]
  · rw [← halves.output]
    split
    · rename_i isOut
      simp [isOut]
    · rename_i notOut
      simp [Ne.symm notOut]

/-- What a step of the socket keeps, whoever takes it. -/
theorem code_step {socket later : Socket.State Fib} {move : Socket.Action Fib}
    (reachable : (Socket.machine Fib).Reachable Socket.SizedReads socket)
    (sized : Socket.SizedReads socket move)
    (stepped : (Socket.machine Fib).step socket move = some later)
    (code : socket.len = Socket.errorEof → .readCallback uvEof ∈ socket.log) :
    (socket.closed = true → later.closed = true) ∧
      (.readCallback uvEof ∈ socket.log → .readCallback uvEof ∈ later.log) ∧
      (later.len = Socket.errorEof → .readCallback uvEof ∈ later.log) := by
  have owned := Socket.reachable_owned reachable
  have owns := Socket.reachable_readerOwns reachable fun _ _ sized => sized
  have transition := Socket.step_transition owned stepped
  obtain ⟨events, log, closeStep⟩ := transition.closeStep
  have kept : .readCallback uvEof ∈ socket.log → .readCallback uvEof ∈ later.log := by
    intro reported
    rw [log]
    exact List.mem_append_left _ reported
  refine ⟨closeStep.closed_mono, kept, fun atEof => ?_⟩
  rcases transition.len_eof owns sized atEof with before | now
  · exact kept (code before)
  · exact now

/-- A step of the socket that is not a call of `close`. -/
theorem Halves.moves {move : Socket.Action Fib} (halves : Halves before)
    (reachable : (Socket.machine Fib).Reachable Socket.SizedReads before.socket)
    (stepped : (Socket.machine Fib).step before.socket move = some after.socket)
    (same : after = { before with socket := after.socket })
    (sized : Socket.SizedReads before.socket move)
    (notClose : ∀ fib status, move ≠ .close fib status) : Halves after := by
  obtain ⟨monotone, kept, code⟩ := code_step reachable sized stepped halves.code
  have transition := Socket.step_transition (Socket.reachable_owned reachable) stepped
  have flags : after.closedIn = before.closedIn ∧ after.closedOut = before.closedOut ∧
      after.modes = before.modes := by
    rw [same]
    exact ⟨rfl, rfl, rfl⟩
  obtain ⟨sameIn, sameOut, sameModes⟩ := flags
  constructor
  · rw [sameIn, sameModes]
    exact halves.input
  · rw [sameOut, sameModes]
    exact halves.output
  · rw [sameIn, sameOut]
    exact fun input output => monotone (halves.both input output)
  · intro closed
    rw [sameIn, sameOut]
    by_cases wasClosed : before.socket.closed = true
    · rcases halves.cause wasClosed with both | reported | dead
      · exact .inl both
      · exact .inr (.inl (kept reported))
      · rcases transition.life_cases with life | life
        · exact .inr (.inr (by rw [life]; exact dead))
        · exact .inr (.inr life)
    · -- Only the end of the stream or the destructor closes it now.
      rcases transition.closed_cause (by simpa using wasClosed) closed with
        ⟨fib, status, isClose⟩ | ⟨fib, status, rfl⟩ | atEof
      · exact absurd isClose (notClose fib status)
      · exact .inr (.inr (Socket.destroy_life stepped))
      · exact .inr (.inl (kept (halves.code atEof)))
  · exact code

theorem Halves.step (halves : Halves before)
    (reachable : (Socket.machine Fib).Reachable Socket.SizedReads before.socket)
    (step : Step before after) : Halves after := by
  cases step with
  | nothing same =>
      rw [same]
      exact halves
  | moves stepped same sized notClose => exact halves.moves reachable stepped same sized notClose
  | @notes mode same half =>
      obtain ⟨input, output⟩ := halves.note mode
      subst same
      refine ⟨input, output, fun closedIn closedOut => absurd ⟨closedIn, closedOut⟩ half, ?_,
        halves.code⟩
      intro closed
      rcases halves.cause closed with both | rest
      · -- A flag that is set stays set.
        refine absurd ?_ half
        rw [input, output]
        have modes : (before.note mode).modes = before.modes ++ [mode] := rfl
        rw [modes]
        exact ⟨List.mem_append_left _ (halves.input.mp both.1),
          List.mem_append_left _ (halves.output.mp both.2)⟩
      · exact .inr rest
  | @closes mode fib status stepped same both =>
      obtain ⟨input, output⟩ := halves.note mode
      have sized : Socket.SizedReads before.socket (.close fib status) := trivial
      obtain ⟨_, _, code⟩ := code_step reachable sized stepped halves.code
      have flags : after.closedIn = (before.note mode).closedIn ∧
          after.closedOut = (before.note mode).closedOut ∧
            after.modes = (before.note mode).modes := by
        rw [same]
        exact ⟨rfl, rfl, rfl⟩
      obtain ⟨sameIn, sameOut, sameModes⟩ := flags
      refine ⟨?_, ?_, fun _ _ => Socket.close_closed stepped, fun _ => .inl both, code⟩
      · rw [sameIn, sameModes]
        exact input
      · rw [sameOut, sameModes]
        exact output

theorem Halves.initial (begun : (machine Fib).Init state) : Halves state := by
  obtain ⟨closedIn, closedOut, modes, memory, socket⟩ := begun
  constructor
  · simp [closedIn, modes]
  · simp [closedOut, modes]
  · simp [closedIn]
  · simp [socket, Socket.initial]
  · intro atEof
    rw [socket] at atEof
    cases atEof

theorem reachable_halves {allowed : State Fib → Action Fib → Prop}
    (reachable : (machine Fib).Reachable allowed state) : Halves state := by
  apply reachable.invariant_under (fun _ reached => socket_reachable reached)
  · intro state begun
    exact .initial begun
  · intro before action after reached halves _ stepped
    exact halves.step reached (step_inversion stepped)

/-- The device closes its socket with the second of two calls, one for each
direction, and not before. As long as libuv has not reported the end of the
stream and the socket exists, it is closed if and only if `close` was called
with `in` and with `out`; any other mode, also both flags at once, closes
nothing. In these runs nobody closes the socket but the device: the user's own
handle only connects it. -/
theorem device_closes_socket_after_both_directions
    (reachable : (machine Fib).Reachable Machine.AnyStep state)
    (alive : state.socket.life = .alive)
    (unfinished : .readCallback uvEof ∉ state.socket.log) :
    state.socket.closed = true ↔ modeIn ∈ state.modes ∧ modeOut ∈ state.modes := by
  have halves := reachable_halves reachable
  rw [← halves.input, ← halves.output]
  constructor
  · intro closed
    rcases halves.cause closed with both | reported | dead
    · exact both
    · exact absurd reported unfinished
    · exact absurd alive dead
  · rintro ⟨closedIn, closedOut⟩
    exact halves.both closedIn closedOut

/-- The reading direction is closed, then both flags are passed at once: the
socket is open, and a write goes on. -/
theorem half_closed_device_keeps_socket_open :
    ∃ state : State (Fin 2), (machine (Fin 2)).Reachable Machine.AnyStep state ∧
      modeIn ∈ state.modes ∧ state.socket.closed = false := by
  have first : (machine (Fin 2)).Reachable Machine.AnyStep
      ⟨false, false, Socket.initial fun _ => 0, []⟩ := .start ⟨rfl, rfl, rfl, _, rfl⟩
  have reachable := first.exec (Machine.along_anyStep _ _)
    (rfl : (machine (Fin 2)).exec ⟨false, false, Socket.initial fun _ => 0, []⟩
      [.read 0 100 4 0, .close 1 modeIn 0, .close 1 { modeIn with output := true } 0,
        .write 1 [1, 2] 0] = some _)
  have closedIff := device_closes_socket_after_both_directions reachable rfl (by decide)
  have open_ : ¬ (modeIn ∈ [modeIn, { modeIn with output := true }] ∧
      modeOut ∈ [modeIn, { modeIn with output := true }]) := by decide
  refine ⟨_, reachable, by decide, ?_⟩
  rw [← Bool.not_eq_true, closedIff]
  exact open_

end Fiberio.Device
