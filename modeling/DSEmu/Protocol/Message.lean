import Mathlib.Data.Nat.Notation

/-!
# The messages of the two-phone protocol

The types of `DSEmu/TwoPhone/TwoPhoneProtocol.swift`. A byte buffer (`Data`) is a list of bytes, and
a text is a `String`, which in Lean is a valid UTF-8 byte sequence.
-/

namespace DSEmu

/-- Foundation's `Data`. -/
abbrev Data := List UInt8

/-- The errors of the protocol layer. -/
inductive TwoPhoneProtocolError where
  | malformed (detail : String)
  | unsupportedMessage (type : UInt8)
  | oversizedMessage (length : ℕ)
  deriving DecidableEq, Repr

/-- The absolute key and touch state of one frame. -/
structure DSInputFrame where
  frame : UInt64
  keyMask : UInt16
  touchX : UInt16
  touchY : UInt16
  touchActive : Bool
  deriving DecidableEq, Repr

/-- The hashes of the machine state and of both framebuffers after a frame. -/
structure EmulatorDigest where
  frame : UInt64
  state : UInt64
  top : UInt64
  bottom : UInt64
  deriving DecidableEq, Repr

/-- How Swift prints a digest inside a text. -/
def EmulatorDigest.description (d : EmulatorDigest) : String :=
  s!"EmulatorDigest(frame: {d.frame}, state: {d.state}, top: {d.top}, bottom: {d.bottom})"

/-- The display's acknowledgement of a frame. -/
structure FrameAcknowledgement where
  frame : UInt64
  digest : Option EmulatorDigest
  processingNanoseconds : UInt64 := 0
  deriving DecidableEq, Repr

/-- A message of the protocol. -/
inductive TwoPhoneMessage where
  | hello (version : UInt16) (romSHA256 : Data)
  | snapshot (state : Data) (stateHash : UInt64)
  | ready
  | start
  | input (input : DSInputFrame)
  | acknowledgement (acknowledgement : FrameAcknowledgement)
  | finish (frame : UInt64) (success : Bool) (detail : String)
  | finishAcknowledgement
  | failure (detail : String)
  deriving DecidableEq, Repr

namespace TwoPhoneMessage

/-- The protocol version that both sides announce. -/
def protocolVersion : UInt16 := 3

/-- The longest payload, in bytes. -/
def maximumPayloadLength : ℕ := 40 * 1024 * 1024

/-- The acknowledgement that a message carries. -/
def acknowledgement? : TwoPhoneMessage → Option FrameAcknowledgement
  | acknowledgement a => some a
  | _ => none

/-- The input that a message carries. -/
def input? : TwoPhoneMessage → Option DSInputFrame
  | input i => some i
  | _ => none

end TwoPhoneMessage

end DSEmu
