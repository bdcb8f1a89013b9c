import Hes.Bytes

set_option autoImplicit false

namespace Hes.Splitter

/-- 0x2E, the length byte L and the L - 1 bytes it announces. -/
structure Frame where
  bytes : Bytes
  starts : bytes.head? = some 0x2E
  long : 2 ≤ bytes.length
  sized : bytes.length = (byteAt bytes 1).toNat + 1

def stream (frames : List Frame) : Bytes := (frames.map Frame.bytes).flatten

def frameLength (received : Bytes) (offset : Nat) : Nat := (byteAt received (offset + 1)).toNat + 1

/-- The frames one chunk is cut into; `loop` counts down from ten and stops the loop at zero. -/
def splitLoop (received : Bytes) : Nat -> Nat -> List Bytes
  | 0, offset =>
    if received.length > offset then [slice received offset (frameLength received offset)] else []
  | loop + 1, offset =>
    if received.length > offset then
      slice received offset (frameLength received offset) ::
        splitLoop received loop (offset + frameLength received offset)
    else []

def maxClientRxBuffer : Nat := 4096

/-- What `client_received_data` hands to `validate_received_data` after the handshake. -/
def clientReceivedData (received : Bytes) : List Bytes :=
  if received.length > maxClientRxBuffer then [] else splitLoop received 10 0

def handedOver (chunks : List Bytes) : List Bytes := chunks.flatMap clientReceivedData

theorem frameLength_append_right (before rest : Bytes) (offset : Nat) :
    frameLength (before ++ rest) (before.length + offset) = frameLength rest offset := by
  simp [frameLength, Nat.add_assoc, byteAt_append_right]

theorem splitLoop_append_right (before rest : Bytes) (loop offset : Nat) :
    splitLoop (before ++ rest) loop (before.length + offset) = splitLoop rest loop offset := by
  induction loop generalizing offset with
  | zero =>
    simp [splitLoop, slice_append_right, frameLength_append_right]
  | succ loop ih =>
    simp [splitLoop, slice_append_right, frameLength_append_right, Nat.add_assoc, ih]

theorem frameLength_frame (frame : Frame) (rest : Bytes) :
    frameLength (frame.bytes ++ rest) 0 = frame.bytes.length := by
  rw [frameLength, byteAt_append_left frame.bytes rest _ (by have := frame.long; omega)]
  exact frame.sized.symm

theorem splitLoop_frame (frame : Frame) (rest : Bytes) (loop : Nat) :
    splitLoop (frame.bytes ++ rest) (loop + 1) 0 = frame.bytes :: splitLoop rest loop 0 := by
  have nonempty : (frame.bytes ++ rest).length > 0 := by
    have := frame.long
    simp
    omega
  have later := splitLoop_append_right frame.bytes rest loop 0
  simp only [splitLoop, nonempty, if_true, frameLength_frame, slice_append_whole, Nat.zero_add]
  simpa using later

theorem splitLoop_last_frame (frame : Frame) (rest : Bytes) :
    splitLoop (frame.bytes ++ rest) 0 0 = [frame.bytes] := by
  have nonempty : (frame.bytes ++ rest).length > 0 := by
    have := frame.long
    simp
    omega
  simp only [splitLoop, nonempty, if_true, frameLength_frame, slice_append_whole]

theorem splitLoop_frames (frames : List Frame) (rest : Bytes) (loop : Nat)
    (few : frames.length ≤ loop) :
    splitLoop (stream frames ++ rest) loop 0 =
      frames.map Frame.bytes ++ splitLoop rest (loop - frames.length) 0 := by
  induction frames generalizing loop with
  | nil => simp [stream]
  | cons frame frames ih =>
    obtain ⟨loop, rfl⟩ : exists previous, loop = previous + 1 :=
      ⟨loop - 1, by simp at few; omega⟩
    have short : frames.length ≤ loop := by simpa using few
    have later := ih loop short
    simp only [stream, List.map_cons, List.flatten_cons, List.append_assoc] at later ⊢
    rw [splitLoop_frame, later]
    simp

theorem splitLoop_whole (frames : List Frame) (loop : Nat) (few : frames.length ≤ loop + 1) :
    splitLoop (stream frames) loop 0 = frames.map Frame.bytes := by
  by_cases spare : frames.length ≤ loop
  next =>
    have split := splitLoop_frames frames [] loop spare
    have ended : splitLoop [] (loop - frames.length) 0 = [] := by
      cases loop - frames.length <;> simp [splitLoop]
    simpa [ended] using split
  next =>
    -- the guard stops the loop right behind the last frame
    obtain ⟨front, last, rfl⟩ : exists front last, frames = front ++ [last] := by
      rcases List.eq_nil_or_concat frames with rfl | ⟨front, last, same⟩
      next => simp at spare
      next => exact ⟨front, last, by simpa using same⟩
    have exactly : front.length = loop := by
      simp at few spare
      omega
    have split := splitLoop_frames front last.bytes loop (by omega)
    have final := splitLoop_last_frame last []
    simp only [exactly, Nat.sub_self, List.append_nil] at split final
    simpa [stream, final] using split

theorem frame_length_le (frame : Frame) : frame.bytes.length ≤ 256 := by
  have bound := (byteAt frame.bytes 1).toNat_lt
  have sized := frame.sized
  omega

theorem stream_length_le (frames : List Frame) : (stream frames).length ≤ 256 * frames.length := by
  induction frames with
  | nil => simp [stream]
  | cons frame frames ih =>
    have one := frame_length_le frame
    simp only [stream, List.map_cons, List.flatten_cons, List.length_append,
      List.length_cons] at ih ⊢
    omega

theorem clientReceivedData_whole (frames : List Frame) (few : frames.length ≤ 11) :
    clientReceivedData (stream frames) = frames.map Frame.bytes := by
  have size := stream_length_le frames
  have fits : ¬ (stream frames).length > maxClientRxBuffer := by
    simp only [maxClientRxBuffer]
    omega
  rw [clientReceivedData, if_neg fits]
  exact splitLoop_whole frames 10 few

/-- Cut at frame boundaries with at most eleven frames a chunk, the stream arrives unchanged. -/
theorem segmentation_exact (chunks : List (List Frame))
    (few : ∀ frames ∈ chunks, frames.length ≤ 11) :
    handedOver (chunks.map stream) = chunks.flatten.map Frame.bytes := by
  induction chunks with
  | nil => rfl
  | cons frames rest ih =>
    have first := clientReceivedData_whole frames (few frames List.mem_cons_self)
    have later := ih fun other inside => few other (List.mem_cons_of_mem frames inside)
    simp only [handedOver, List.map_cons, List.flatMap_cons, List.flatten_cons, List.map_append] at later ⊢
    rw [first, later]

def idleFrame : Frame := { bytes := [0x2E, 0x02, 0x07], starts := rfl, long := by decide, sized := rfl }

theorem segmentation_exact_two_chunks :
    handedOver [stream [idleFrame], stream [idleFrame, idleFrame]] =
      [idleFrame.bytes, idleFrame.bytes, idleFrame.bytes] :=
  segmentation_exact [[idleFrame], [idleFrame, idleFrame]] (by decide)

/-- A cut inside a frame, and twelve frames in one chunk. -/
theorem segmentation_counterexample :
    ([[0x2E, 0x02], [0x07]].flatten = stream [idleFrame] /\
      handedOver [[0x2E, 0x02], [0x07]] = [[0x2E, 0x02, 0x00], [0x07]]) /\
    handedOver [stream (List.replicate 12 idleFrame)] = List.replicate 11 idleFrame.bytes := by
  decide

theorem frame_starts (frame : Frame) : byteAt frame.bytes 0 = 0x2E := by
  have starts := frame.starts
  cases bytes : frame.bytes with
  | nil => simp [bytes] at starts
  | cons first rest => simpa [bytes, byteAt] using starts

/-- The tail of a frame that was cut is never taken for the next frame. -/
theorem cut_tail_rejected (cut : Frame) (head : Bytes) (byte : UInt8) (tail next : Bytes)
    (parts : cut.bytes = head ++ byte :: tail) (rest : List Frame) (later : List Bytes)
    (padded : slice head 0 (frameLength head 0) = cut.bytes)
    (following : slice (byte :: next) 0 (frameLength (byte :: next) 0) :: later =
      rest.map Frame.bytes) : False := by
  have missing : byte = 0 := by
    have within : head.length < frameLength head 0 := by
      have size := congrArg List.length padded
      simp [parts] at size
      omega
    have here : byteAt cut.bytes head.length = byte := by
      rw [parts]
      exact byteAt_append_right head (byte :: tail) 0
    rw [← here, ← padded, byteAt_slice _ _ _ _ within, byteAt_beyond]
    omega
  cases rest with
  | nil => simp at following
  | cons frame frames =>
    have first : slice (byte :: next) 0 (frameLength (byte :: next) 0) = frame.bytes := by
      simpa using (List.cons.inj following).1
    have starts := frame_starts frame
    rw [← first, byteAt_slice _ _ _ _ (by simp [frameLength])] at starts
    simp [byteAt, missing] at starts

theorem splitLoop_nonempty (received : Bytes) (loop : Nat) (some' : received ≠ []) :
    exists later, splitLoop received loop 0 =
      slice received 0 (frameLength received 0) :: later := by
  have positive : received.length > 0 := List.length_pos_iff.mpr some'
  cases loop <;> simp [splitLoop, positive]

theorem splitLoop_cut (cut : Frame) (head tail : Bytes) (parts : cut.bytes = head ++ tail)
    (begun : head ≠ []) (loop : Nat) :
    splitLoop head loop 0 = [slice head 0 (frameLength head 0)] := by
  have positive : 0 < head.length := List.length_pos_iff.mpr begun
  have covers : head.length ≤ frameLength head 0 := by
    by_cases single : head.length = 1
    next =>
      simp only [frameLength]
      omega
    next =>
      have announced : byteAt cut.bytes 1 = byteAt head 1 := by
        rw [parts]
        exact byteAt_append_left head tail 1 (by omega)
      have size := congrArg List.length parts
      have sized := cut.sized
      rw [announced] at sized
      simp only [List.length_append] at size
      simp only [frameLength, Nat.zero_add]
      omega
  have ended (loop : Nat) : splitLoop head loop (frameLength head 0) = [] := by
    have stop : ¬ head.length > frameLength head 0 := by omega
    cases loop <;> simp [splitLoop, stop]
  cases loop <;> simp [splitLoop, positive, ended]

theorem mid_frame_cut_differs (chunks : List (List Frame)) (whole rest : List Frame) (cut : Frame)
    (head tail next : Bytes) (byte : UInt8) (later : List Bytes)
    (few : ∀ frames ∈ chunks, frames.length ≤ 11) (short : whole.length ≤ 10)
    (begun : head ≠ []) (parts : cut.bytes = head ++ byte :: tail)
    (received : (byte :: next).length ≤ maxClientRxBuffer) :
    handedOver (chunks.map stream ++ (stream whole ++ head) :: (byte :: next) :: later) ≠
      (chunks.flatten ++ whole ++ cut :: rest).map Frame.bytes := by
  -- the first cut inside a frame already changes what is handed over
  intro same
  have aligned := segmentation_exact chunks few
  have fits : ¬ (stream whole ++ head).length > maxClientRxBuffer := by
    have size := stream_length_le whole
    have one := frame_length_le cut
    simp only [parts, List.length_append, List.length_cons, maxClientRxBuffer] at one ⊢
    omega
  have broken := splitLoop_cut cut head (byte :: tail) parts begun (10 - whole.length)
  obtain ⟨extra, opened⟩ := splitLoop_nonempty (byte :: next) 10 (by simp)
  have first : clientReceivedData (stream whole ++ head) =
      whole.map Frame.bytes ++ [slice head 0 (frameLength head 0)] := by
    rw [clientReceivedData, if_neg fits, splitLoop_frames whole head 10 short, broken]
  have second : clientReceivedData (byte :: next) =
      slice (byte :: next) 0 (frameLength (byte :: next) 0) :: extra := by
    rw [clientReceivedData, if_neg (by omega), opened]
  simp only [handedOver, List.flatMap_append, List.flatMap_cons, first, second, List.map_append,
    List.map_cons, List.append_assoc] at same aligned
  rw [aligned] at same
  have behind := List.append_cancel_left (List.append_cancel_left same)
  have pieces := List.cons.inj behind
  exact cut_tail_rejected cut head byte tail next parts rest (extra ++ later.flatMap clientReceivedData)
    pieces.1 pieces.2

end Hes.Splitter
