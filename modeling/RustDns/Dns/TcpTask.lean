import RustDns.Streams
import RustDns.Dns.Wire

/-!
# A connection over TCP

`dns/server.rs` spawns a task for every TCP connection.  The task reads the two bytes with the
length of a message, then the message, hands it to the DNS handler, and writes the length of the
response and the response.

Both reads are `timeout(…, stream.read_exact(…)).await.is_err()`.  The error that is looked at is
that of the time limit.  A read that fails before, because the client has closed the connection in
the middle of the length or of the message, is an error inside of `Ok`, and the task goes on with
whatever is in the buffer.  Besides, the length of a response is cut to 16 bits.
`framing_iff` says when neither matters.
-/

namespace RustDns.TcpTask

open Streams

/-! ## The task -/

inductive Effect where
  /-- `h.handle(data, client_ip)`. -/
  | called (data : Bytes)
  /-- `stream.write_all(&len)`. -/
  | wroteLength (length : UInt8 × UInt8)
  /-- `stream.write_all(&response)`. -/
  | wroteResponse (response : Bytes)
  /-- `connections.fetch_sub(1, …)`. -/
  | released
deriving DecidableEq

/-- What a task depends on: what a failed read leaves in a buffer, the handler for the address of
the client, and which writes fail. -/
structure Env where
  leftover : Leftover UInt8
  handle : Bytes → Option Bytes
  lengthFails : Bool := false
  responseFails : Bool := false

/-- `u16::from_be_bytes(len_buf)`, for a buffer of two bytes. -/
def lengthOf : Bytes → ℕ
  | high :: low :: _ => (fromBeBytes high low).toNat
  | _ => 0

/-- `(response.len() as u16).to_be_bytes()`. -/
def lengthBytes (response : Bytes) : UInt8 × UInt8 := toBeBytes (.ofNat response.length)

def respond (env : Env) (data : Bytes) : List Effect :=
  match env.handle data with
  | some response =>
    if env.lengthFails then []
    else if env.responseFails then [.wroteLength (lengthBytes response)]
    else [.wroteLength (lengthBytes response), .wroteResponse response]
  | none => []

def task (env : Env) (stream : Stream UInt8) : List Effect :=
  let (outcome, stream) := readExact env.leftover 2 stream
  -- only the time limit makes `is_err` true
  match outcome.buffer? with
  | none => [.released]
  | some lenBuf =>
    let msgLen := lengthOf lenBuf
    if msgLen = 0 ∨ 65535 < msgLen then [.released]
    else
      let (outcome, _) := readExact env.leftover msgLen stream
      match outcome.buffer? with
      | none => [.released]
      | some data => .called data :: respond env data ++ [.released]

/-! ## What it should do -/

/-- The message that a stream begins with: a length that is not zero, and so many bytes. -/
def framed (bytes : Bytes) : Option Bytes :=
  if 2 ≤ bytes.length ∧ 0 < lengthOf bytes ∧ lengthOf bytes ≤ (bytes.drop 2).length then
    some ((bytes.drop 2).take (lengthOf bytes))
  else none

def Effect.message : Effect → Option Bytes
  | .called data => some data
  | _ => none

def calls (effects : List Effect) : List Bytes := effects.filterMap Effect.message

def Preceded (effects : List Effect) : Prop :=
  ∀ i response, effects[i]? = some (.wroteResponse response) →
    ∃ j length, i = j + 1 ∧ effects[j]? = some (.wroteLength length) ∧
      (fromBeBytes length.1 length.2).toNat = response.length

/-- The handler gets the message of the stream if there is one and nothing otherwise, every response
comes after its length, and the counter is lowered once. -/
structure Framing (stream : Stream UInt8) (effects : List Effect) : Prop where
  calls_eq : calls effects = (framed stream.arrived).toList
  preceded : Preceded effects
  released_once : effects.count .released = 1

/-- The length that the task finds in its buffer; if fewer than two bytes have arrived, it is that
of what is left there. -/
def foundLength (leftover : Leftover UInt8) (arrived : Bytes) : ℕ :=
  lengthOf (if 2 ≤ arrived.length then arrived else leftover.buffer arrived 2)

/-! ## The reads -/

theorem lengthOf_le (bytes : Bytes) : lengthOf bytes ≤ 65535 := by
  unfold lengthOf
  split
  · exact Nat.le_of_lt_succ (UInt16.toNat_lt _)
  · exact Nat.zero_le _

theorem lengthOf_take (bytes : Bytes) : lengthOf (bytes.take 2) = lengthOf bytes := by
  rcases bytes with _ | ⟨high, _ | ⟨low, rest⟩⟩ <;> rfl

theorem not_guard {bytes : Bytes} (hlength : lengthOf bytes ≠ 0) :
    ¬ (lengthOf bytes = 0 ∨ 65535 < lengthOf bytes) :=
  not_or.mpr ⟨hlength, not_lt.mpr (lengthOf_le bytes)⟩

theorem length_drop_lt_of_framed {bytes : Bytes} (hframed : framed bytes = none)
    (htwo : 2 ≤ bytes.length) (hlength : lengthOf bytes ≠ 0) :
    (bytes.drop 2).length < lengthOf bytes := by
  by_contra hlong
  rw [framed, if_pos ⟨htwo, Nat.pos_of_ne_zero hlength, not_lt.mp hlong⟩] at hframed
  cases hframed

section Task

variable {env : Env} {stream : Stream UInt8}

theorem task_of_two_le (htwo : 2 ≤ stream.arrived.length) (hlength : lengthOf stream.arrived ≠ 0) :
    task env stream = match (readExact env.leftover (lengthOf stream.arrived)
        ⟨stream.arrived.drop 2, stream.ending⟩).1.buffer? with
      | none => [.released]
      | some data => .called data :: respond env data ++ [.released] := by
  simp only [task, readExact_of_le _ _ _ htwo, Outcome.buffer?, lengthOf_take,
    if_neg (not_guard hlength)]

theorem task_of_framed {message : Bytes} (hframed : framed stream.arrived = some message) :
    task env stream = .called message :: respond env message ++ [.released] := by
  unfold framed at hframed
  split_ifs at hframed with hcomplete
  obtain ⟨htwo, hpos, hlength⟩ := hcomplete
  cases hframed
  rw [task_of_two_le htwo hpos.ne', readExact_of_le _ _ _ hlength]
  rfl

theorem task_of_foundLength_eq_zero (hzero : foundLength env.leftover stream.arrived = 0) :
    task env stream = [.released] := by
  unfold foundLength at hzero
  split_ifs at hzero with htwo
  · simp only [task, readExact_of_le _ _ _ htwo, Outcome.buffer?, lengthOf_take, hzero, true_or,
      if_true]
  · by_cases hending : stream.ending = .stalled
    · simp only [task, readExact_of_stalled _ _ _ (not_le.mp htwo) hending, Outcome.buffer?]
    · simp only [task, readExact_of_not_stalled _ _ _ (not_le.mp htwo) hending, Outcome.buffer?,
        hzero, true_or, if_true]

/-- If the client says nothing more before the message is complete, the task is done. -/
theorem task_of_stalled (hframed : framed stream.arrived = none)
    (hending : stream.ending = .stalled) : task env stream = [.released] := by
  by_cases htwo : 2 ≤ stream.arrived.length
  · by_cases hzero : lengthOf stream.arrived = 0
    · apply task_of_foundLength_eq_zero
      rw [foundLength, if_pos htwo, hzero]
    · have hshort := length_drop_lt_of_framed hframed htwo hzero
      rw [task_of_two_le htwo hzero, readExact_of_stalled _ _ ⟨_, stream.ending⟩ hshort hending]
      rfl
  · simp only [task, readExact_of_stalled _ _ _ (not_le.mp htwo) hending, Outcome.buffer?]

/-- If the connection ends before the message is complete, the handler is called nevertheless. -/
theorem exists_task_of_not_stalled (hframed : framed stream.arrived = none)
    (hending : stream.ending ≠ .stalled) (hfound : foundLength env.leftover stream.arrived ≠ 0) :
    ∃ data, task env stream = .called data :: respond env data ++ [.released] := by
  unfold foundLength at hfound
  split_ifs at hfound with htwo
  · have hshort := length_drop_lt_of_framed hframed htwo hfound
    rw [task_of_two_le htwo hfound, readExact_of_not_stalled _ _ ⟨_, stream.ending⟩ hshort hending]
    exact ⟨_, rfl⟩
  · have hnothing : ([] : Bytes).length < lengthOf (env.leftover.buffer stream.arrived 2) :=
      Nat.pos_of_ne_zero hfound
    simp only [task, readExact_of_not_stalled _ _ _ (not_le.mp htwo) hending, Outcome.buffer?,
      if_neg (not_guard hfound), readExact_of_not_stalled _ _ ⟨[], stream.ending⟩ hnothing hending]
    exact ⟨_, rfl⟩

/-! ## The effects -/

/-- Every path of the task ends with the counter, after a call of the handler or without one. -/
theorem task_cases (env : Env) (stream : Stream UInt8) :
    task env stream = [.released] ∨
      ∃ data, task env stream = .called data :: respond env data ++ [.released] := by
  unfold task
  dsimp only
  split
  · exact Or.inl rfl
  split_ifs
  · exact Or.inl rfl
  split
  · exact Or.inl rfl
  · exact Or.inr ⟨_, rfl⟩

theorem respond_cases (env : Env) (data : Bytes) :
    respond env data = [] ∨ (∃ length, respond env data = [.wroteLength length]) ∨
      ∃ response, env.handle data = some response ∧ env.lengthFails = false ∧
        env.responseFails = false ∧
        respond env data = [.wroteLength (lengthBytes response), .wroteResponse response] := by
  unfold respond
  cases hhandle : env.handle data with
  | none => exact Or.inl rfl
  | some response =>
    dsimp only
    split_ifs with hlength hresponse
    · exact Or.inl rfl
    · exact Or.inr (Or.inl ⟨_, rfl⟩)
    · rw [Bool.not_eq_true] at hlength hresponse
      exact Or.inr (Or.inr ⟨response, rfl, hlength, hresponse, rfl⟩)

theorem calls_respond (env : Env) (data : Bytes) :
    calls (.called data :: respond env data ++ [.released]) = [data] := by
  obtain hnone | ⟨length, hlength⟩ | ⟨response, -, -, -, hboth⟩ := respond_cases env data
  · rw [hnone]
    rfl
  · rw [hlength]
    rfl
  · rw [hboth]
    rfl

theorem count_released (env : Env) (stream : Stream UInt8) :
    (task env stream).count .released = 1 := by
  obtain hdone | ⟨data, hcalled⟩ := task_cases env stream
  · rw [hdone]
    rfl
  · rw [hcalled]
    obtain hnone | ⟨length, hlength⟩ | ⟨response, -, -, -, hboth⟩ := respond_cases env data
    · rw [hnone]
      rfl
    · rw [hlength]
      rfl
    · rw [hboth]
      rfl

/-- Sixteen bits hold the length of a response exactly when it is not larger than 65535. -/
theorem fromBeBytes_lengthBytes (response : Bytes) :
    (fromBeBytes (lengthBytes response).1 (lengthBytes response).2).toNat = response.length ↔
      response.length ≤ 65535 := by
  rw [lengthBytes, fromBeBytes_toBeBytes, UInt16.toNat_ofNat']
  omega

def Fits (env : Env) (data : Bytes) : Prop :=
  ∀ response, env.handle data = some response → env.lengthFails = false →
    env.responseFails = false → response.length ≤ 65535

theorem preceded_respond_iff (env : Env) (data : Bytes) :
    Preceded (.called data :: respond env data ++ [.released]) ↔ Fits env data := by
  constructor
  · intro hpreceded response hhandle hlength hresponse
    have hrespond : respond env data =
        [.wroteLength (lengthBytes response), .wroteResponse response] := by
      simp [respond, hhandle, hlength, hresponse]
    rw [hrespond] at hpreceded
    obtain ⟨j, length, hj, hwrote, hsize⟩ := hpreceded 2 response rfl
    obtain rfl : j = 1 := by omega
    obtain rfl : lengthBytes response = length := by simpa using hwrote
    exact (fromBeBytes_lengthBytes response).mp hsize
  · intro hfits i response hi
    obtain hnone | ⟨length, hlength⟩ | ⟨other, hhandle, hlength, hresponse, hboth⟩ :=
      respond_cases env data
    · rw [hnone] at hi
      simpa using List.mem_of_getElem? hi
    · rw [hlength] at hi
      simpa using List.mem_of_getElem? hi
    · rw [hboth] at hi ⊢
      -- the response is the third effect, and the one before it is the length
      obtain ⟨rfl, rfl⟩ : i = 2 ∧ response = other := by
        rcases i with _ | _ | _ | _ | i
        · simp at hi
        · simp at hi
        · exact ⟨rfl, by simpa using hi.symm⟩
        · simp at hi
        · simp at hi
      exact ⟨1, _, rfl, rfl, (fromBeBytes_lengthBytes _).mpr (hfits _ hhandle hlength hresponse)⟩

theorem preceded_released : Preceded [.released] := by
  intro i response hi
  simpa using List.mem_of_getElem? hi

/-- The task does what it should exactly if the message is complete and the length of its response
fits, or the message is incomplete and either the client says nothing more or the length in the
buffer is zero. -/
theorem framing_iff (env : Env) (stream : Stream UInt8) :
    Framing stream (task env stream) ↔
      (∀ message, framed stream.arrived = some message → Fits env message) ∧
        (framed stream.arrived = none →
          stream.ending = .stalled ∨ foundLength env.leftover stream.arrived = 0) := by
  cases hframed : framed stream.arrived with
  | some message =>
    have htask : task env stream = _ := task_of_framed hframed
    constructor
    · rintro ⟨-, hpreceded, -⟩
      rw [htask, preceded_respond_iff] at hpreceded
      constructor
      · intro other hother
        rwa [← Option.some.inj hother]
      · intro hnone
        cases hnone
    · rintro ⟨hfits, -⟩
      refine ⟨?_, ?_, count_released env stream⟩
      · rw [htask, calls_respond, hframed]
        rfl
      · rw [htask, preceded_respond_iff]
        exact hfits message rfl
  | none =>
    constructor
    · rintro ⟨hcalls, -, -⟩
      constructor
      · intro message hmessage
        cases hmessage
      · intro _
        by_contra hends
        rw [not_or] at hends
        obtain ⟨data, htask⟩ := exists_task_of_not_stalled hframed hends.1 hends.2
        rw [htask, calls_respond, hframed] at hcalls
        cases hcalls
    · rintro ⟨-, hends⟩
      have htask : task env stream = [.released] :=
        (hends rfl).elim (task_of_stalled hframed) task_of_foundLength_eq_zero
      refine ⟨?_, ?_, count_released env stream⟩
      · rw [htask, hframed]
        rfl
      · rw [htask]
        exact preceded_released

end Task

/-- The client announces five bytes, sends two and closes the connection: the handler gets five. -/
theorem not_framing_closed :
    ¬ Framing ⟨[0, 5, 1, 2], .closed⟩
      (task ⟨.filled 0, fun _ => none, false, false⟩ ⟨[0, 5, 1, 2], .closed⟩) := by
  rintro ⟨hcalls, -, -⟩
  revert hcalls
  decide

end RustDns.TcpTask
