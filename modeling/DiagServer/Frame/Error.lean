import DiagServer.Text.Utf8
import DiagServer.Text.Quoted

/-!
# What can go wrong with a frame

After any of these failures the place of the next frame is unknown, so reading cannot go on. A
body that is no JSON is not among them: its frame was read to its end.
-/

namespace DiagServer.Frame

/-- The largest body, in bytes. -/
def maxBody : Nat := 16 * 1024 * 1024

/-- The largest header block with the blank line that ends it, in bytes. -/
def maxHeader : Nat := 8 * 1024

/-- A failure of the byte stream under the frames. -/
inductive TransportError where
  | earlyEnd
  /-- A header line is not UTF-8. -/
  | notUtf8 (flaw : Text.Utf8.Flaw)
  | writerClosed
deriving Repr, DecidableEq

/-- The wording of a stream's failure. -/
def TransportError.message : TransportError → String
  | .earlyEnd => "early eof"
  | .notUtf8 ⟨index, some length⟩ =>
      "invalid utf-8 sequence of " ++ toString length ++ " bytes from index " ++ toString index
  | .notUtf8 ⟨index, none⟩ => "incomplete utf-8 byte sequence from index " ++ toString index
  | .writerClosed => "writer closed"

/-- Why a frame was not read or not written. -/
inductive FrameError where
  | transport (e : TransportError)
  | truncatedHeaders
  | missingContentLength
  | invalidContentLength (value : String)
  | frameTooLarge (length : Nat)
  | headerTooLarge
deriving Repr, DecidableEq

namespace FrameError

/-- The wording of a failure. -/
def message : FrameError → String
  | .transport e => "transport I/O failed: " ++ e.message
  | .truncatedHeaders => "unexpected EOF while reading headers"
  | .missingContentLength => "missing Content-Length header"
  | .invalidContentLength value => "invalid Content-Length value: " ++ Text.Quoted.quote value
  | .frameTooLarge length =>
      "Content-Length " ++ toString length ++ " exceeds maximum " ++ toString maxBody
  | .headerTooLarge => "frame headers exceed " ++ toString maxHeader ++ " bytes"

/-- The wordings of a failure and of the failure that caused it, outermost first. -/
def chain (e : FrameError) : List String :=
  match e with
  | .transport cause => [e.message, cause.message]
  | e => [e.message]

end FrameError

/-- The wording for a body that is no JSON. -/
def notJsonMessage (reason : String) : String := "frame body is not valid JSON: " ++ reason

end DiagServer.Frame
