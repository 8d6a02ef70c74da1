/-
  Fdbus.Session.Connection — messages from one end of a connection to the other.

  The sender builds the header of each message and submits the frame; `submitOutput` and
  `processOutput` write the frames, `processInput` reads them, and `processPayload` makes messages
  of them again.

    * `messages_arrive` — when everything is written, the receiver gets the messages in order, in
      whatever pieces the bytes were written and read.
-/
import Fdbus.Session.Reassembly
import Fdbus.Session.Transfer
import Fdbus.Worker.OutputChunk

namespace Fdbus.Session

open Fdbus.Framing Fdbus.Message Fdbus.Run Fdbus.Wire Fdbus.Worker List

/-- A message that can be sent: its header can be built, and there is room for the frame. -/
structure Sendable where
  message : CFdbMessage
  qos : EFdbQOS
  now : BitVec 64
  new : message.headOk = false
  buildable : message.Buildable
  head_le : (message.withBuffer.header qos now).serialize.length ≤ mMaxHeadSize
  known : message.mType ≠ .mtUnknown
  room : RoomFor ((message.buildHeader qos now).1.rawData.getD [])

namespace Sendable

variable (m : Sendable)

/-- The bytes that are submitted. -/
def frame : List UInt8 := (m.message.buildHeader m.qos m.now).1.rawData.getD []

/-- What every receiver makes of the frame: if the head leads to someone, the message. -/
def Arrives (frame : List UInt8) : Prop :=
  ∀ (env : Receiver) (now : BitVec 64),
    if env.reaches (m.message.withBuffer.header m.qos m.now) then
      ∃ r, env.receive now frame = some (.delivered r) ∧ Transferred env m.message m.qos r
    else env.receive now frame = some .unread

theorem arrives : m.Arrives m.frame := by
  intro env now
  obtain ⟨f, -, hraw, hreceive⟩ :=
    built_frame env m.message m.qos m.now now m.new m.buildable m.head_le m.known
  obtain ⟨-, -, -, htopic⟩ := m.buildable.withBuffer
  rw [frame, hraw, Option.getD_some]
  split
  · next hreach =>
      rw [if_pos hreach] at hreceive
      exact ⟨_, hreceive,
        transferred_withBuffer (transferred_message env m.qos m.now now htopic hreach)⟩
  · next hreach => rwa [if_neg hreach] at hreceive

theorem isStreamFrame (env : Receiver) : IsStreamFrame m.frame := by
  obtain ⟨f, -, hraw, -⟩ :=
    built_frame env m.message m.qos m.now 0 m.new m.buildable m.head_le m.known
  have hroom := m.room
  rw [frame, hraw, Option.getD_some]
  rw [hraw, Option.getD_some] at hroom
  refine ⟨f.prefix_le, f.complete, ?_⟩
  unfold RoomFor mDefaultInputChunkSize at hroom
  omega

end Sendable

/-- The session stops at a frame that the receiver rejects, as it is when the frame comes. -/
def rejects (envs : List (List UInt8) → Receiver) (now : BitVec 64) (past : List (List UInt8)) :
    Bool :=
  past.getLast?.any fun frame => (envs past).receive now frame == some .rejected

variable (envs : List (List UInt8) → Receiver) (now : BitVec 64)

/-- No message is rejected. -/
theorem noStop_frames (msgs : List Sendable) (past : List (List UInt8)) :
    NoStop (rejects envs now) past (msgs.map Sendable.frame) := by
  induction msgs generalizing past with
  | nil => trivial
  | cons m msgs ih =>
    refine ⟨?_, ih _⟩
    have harrives := m.arrives (envs (past ++ [m.frame])) now
    unfold rejects
    rw [getLast?_concat, Option.any_some, beq_eq_false_iff_ne]
    split at harrives
    · obtain ⟨r, hr, -⟩ := harrives
      simp [hr]
    · simp [harrives]

/-- **From one end to the other**: whatever the order of submissions and writes, once all is written
the receiver processes the frames its bytes complete, however it reads them, and when it has read
all of them every message has arrived, in order. -/
theorem messages_arrive (logger : Bool) (flags : BitVec 32) (msgs : List Sendable)
    (outs : List OutputCall) (hout : submitted outs = (msgs.map Sendable.frame).flatten) :
    ∃ w, run (outputStep logger) (COutputWatch.idle flags) outs = some w
      ∧ (w.mFatalError = false → w.mOutputChunkList = [] → ∀ ins, ∃ s,
          run (processInput (rejects envs now)) (RecvState.start w.written) ins = some s
            ∧ s.processed = within (msgs.map Sendable.frame) s.received.length
            ∧ (s.received = w.written → Forall₂ Sendable.Arrives msgs s.processed)) := by
  obtain ⟨w, hrun⟩ := outputStep_total logger outs (COutputWatch.idle flags)
  have hinv : OutputInv (submitted outs) w :=
    run_history (P := fun past w => OutputInv (submitted past) w)
      (fun past w call w' h hstep => by
        rw [submitted, flatMap_append, flatMap_singleton]
        exact outputStep_inv logger h hstep)
      (outputInv_idle flags) hrun
  refine ⟨w, hrun, fun hsound hempty ins => ?_⟩
  have hwritten : w.written = (msgs.map Sendable.frame).flatten := by
    have hstream := hinv.stream hsound
    rw [← hout, ← hstream]
    simp [COutputWatch.queued, hempty]
  have hframes : ∀ f ∈ msgs.map Sendable.frame, IsStreamFrame f :=
    forall_mem_map.mpr fun m _ => m.isStreamFrame (envs [])
  have hroom : ∀ f ∈ msgs.map Sendable.frame, RoomFor f := forall_mem_map.mpr fun m _ => m.room
  obtain ⟨s, hread, hrecv, hfailed⟩ := @run_processInput (rejects envs now) _ hframes ins
  obtain ⟨⟨hprocessed, -⟩, -⟩ := hrecv.settled hframes (hfailed hroom)
  rw [upToStop_of_noStop ((noStop_frames envs now msgs []).within _)] at hprocessed
  refine ⟨s, hwritten ▸ hread, hprocessed, fun hall => ?_⟩
  rw [hprocessed, hall, hwritten, within_all, forall₂_map_right_iff, forall₂_same]
  exact fun m _ => m.arrives

/-- A request with three bytes of payload. -/
def request : Sendable where
  message := threeBytes .mtRequest 7
  qos := .qosReliable
  now := 0
  new := by decide
  buildable := buildable_serialize _ (by decide)
  head_le := by decide
  known := by decide
  room := by decide +kernel

theorem messages_arrive_request :
    ∃ w s, run (outputStep false) (COutputWatch.idle 0)
          [.submit request.frame none (.accept 9), .process [.accept 99]] = some w
      ∧ run (processInput (rejects (fun _ => waitingSession) 0)) (RecvState.start w.written)
          [.read 5, .read 99] = some s
      ∧ Forall₂ Sendable.Arrives [request] s.processed := by
  obtain ⟨w, hrun, h⟩ := messages_arrive (fun _ => waitingSession) 0 false 0 [request]
    [.submit request.frame none (.accept 9), .process [.accept 99]] (by decide +kernel)
  obtain rfl := Option.some.inj hrun
  obtain ⟨s, hread, -, harrive⟩ := h (by decide +kernel) (isEmpty_iff.mp (by decide +kernel))
    [.read 5, .read 99]
  refine ⟨_, s, hrun, hread, harrive ?_⟩
  have hall := congrArg (Option.map RecvState.received) hread
  exact Option.some.inj (hall.symm.trans (by decide +kernel))

end Fdbus.Session
