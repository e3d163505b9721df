import SignalRelay.Message.Codec
import SignalRelay.Text.Numeral
import SignalRelay.Text.Utf8

/-!
# Frames

What goes over a connection.  An inbound frame is text, or octets that are text in UTF-8; an
outbound frame is a message, or the order to close the connection, behind which nothing is sent.

`Signal.ofFrame?` is the message of an inbound frame.
-/

namespace SignalRelay

/-- A frame as it comes from a connection. -/
inductive Inbound
  | text (content : String)
  | binary (octets : List UInt8)
  deriving DecidableEq

/-- A frame that waits to be sent. -/
inductive Outbound
  | message (m : Signal)
  | close (reason : String)
  deriving DecidableEq

inductive FrameError
  | notUtf8 (cause : Utf8.Invalid)
  | unreadable (fault : Json.Fault)
  deriving DecidableEq

def Utf8.Invalid.message (cause : Utf8.Invalid) : String :=
  match cause.length with
  | some length =>
    "invalid utf-8 sequence of " ++ numeral length ++ " bytes from index " ++ numeral cause.index
  | none => "incomplete utf-8 byte sequence from index " ++ numeral cause.index

/-- The message of a frame. -/
def Signal.ofFrame? : Inbound → Except FrameError Signal
  | .text content => (Signal.ofText? content).mapError .unreadable
  | .binary octets =>
    match Utf8.decode octets with
    | .ok content => (Signal.ofText? content).mapError .unreadable
    | .error cause => .error (.notUtf8 cause)

end SignalRelay
