import DiagServer.Json.Basic

/-!
# Messages

A message with an identifier and a method is a request, one with a method only a notification,
and one with an identifier and a result or an error answers a request. The identifier may be any
value, the null value included, and comes back in the answer as it was.
-/

namespace DiagServer.Protocol

/-- A message of the client. -/
inductive Message where
  | request (id : Json) (method : String) (params : Option Json)
  | notification (method : String) (params : Option Json)
  | response
deriving Repr

/-- The message that a value is, if it is one. -/
def Message.ofJson? (v : Json) : Option Message :=
  let params := v.member? "params"
  match v.member? "id", (v.member? "method").bind Json.text? with
  | some id, some method => some (.request id method params)
  | none, some method => some (.notification method params)
  | some _, none =>
      if (v.member? "result").isSome || (v.member? "error").isSome then some .response else none
  | none, none => none

/-- Why a request or a frame is refused. -/
inductive Refusal where
  /-- The body of a frame is no JSON. -/
  | parseError (reason : String)
  | notInitialized
  | alreadyInitialized
  | shuttingDown
  | methodNotFound (method : String)
deriving Repr, DecidableEq

/-- The number of a refusal. -/
def Refusal.code : Refusal → Int
  | .parseError _ => -32700
  | .notInitialized => -32002
  | .alreadyInitialized => -32600
  | .shuttingDown => -32600
  | .methodNotFound _ => -32601

/-- The wording of a refusal. -/
def Refusal.message : Refusal → String
  | .parseError reason => reason
  | .notInitialized => "Server not initialized"
  | .alreadyInitialized => "Already initialized"
  | .shuttingDown => "Server is shutting down"
  | .methodNotFound method => "Method not found: " ++ method

/-- The version of the message format. -/
def version : String := "2.0"

/-- The answer to a request that was granted. -/
def success (id result : Json) : Json :=
  .object [("jsonrpc", .str version), ("id", id), ("result", result)]

/-- The answer to a request that was refused. -/
def failure (id : Json) (r : Refusal) : Json :=
  .object [("jsonrpc", .str version), ("id", id),
    ("error", .object [("code", .int r.code), ("message", .str r.message)])]

/-- What the server can do: it wants to know of documents that are opened, closed and changed,
with the whole text each time. -/
def initializeResult (name version : String) : Json :=
  .object [
    ("capabilities", .object [
      ("textDocumentSync", .object [("openClose", .bool true), ("change", .int 1)])]),
    ("serverInfo", .object [("name", .str name), ("version", .str version)])]

end DiagServer.Protocol
