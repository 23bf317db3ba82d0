/-
Messages on a stream.

Each message stands behind its length in two bytes.  A stream may end only where
a frame begins; elsewhere the fault tells which part of the frame was cut.
-/
import SplitHorizon.Fault
import SplitHorizon.Wire.Cursor

namespace SplitHorizon
namespace Wire

def maxFrame : Nat := 65535

def frame (message : List UInt8) : Except MessageFault (List UInt8) :=
  if message.length ≤ maxFrame then
    .ok (word16Bytes (UInt16.ofNat message.length) ++ message)
  else .error (.tooLarge message.length)

/-- What happened to a stream that messages were put on: its bytes, or the fault
that kept a message off it. -/
def appendFrame (stream message : List UInt8) : List UInt8 × Option MessageFault :=
  match frame message with
  | .ok bytes => (stream ++ bytes, none)
  | .error fault => (stream, some fault)

/-- Takes one message off a stream, and gives back what is left. -/
def unframe : List UInt8 → Except MessageFault (List UInt8 × List UInt8)
  | high :: low :: rest =>
    let length := high.toNat * 256 + low.toNat
    let message := rest.take length
    if message.length = length then .ok (message, rest.drop length) else .error .bodyCut
  | _ => .error .lengthCut

theorem length_of_unframe {stream : List UInt8} {r : List UInt8 × List UInt8}
    (h : unframe stream = .ok r) : r.2.length < stream.length := by
  unfold unframe at h
  split at h
  · simp only at h
    split at h
    · obtain rfl := Except.ok.inj h
      simp only [List.length_drop, List.length_cons]
      omega
    · simp at h
  · simp at h

def unframeAll (stream : List UInt8) : List (List UInt8) × MessageFault :=
  match _h : unframe stream with
  | .error fault => ([], fault)
  | .ok (message, rest) =>
    let (messages, fault) := unframeAll rest
    (message :: messages, fault)
termination_by stream.length
decreasing_by exact length_of_unframe _h

end Wire
end SplitHorizon
