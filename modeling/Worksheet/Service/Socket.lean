import Worksheet.Json.Reader
import Worksheet.Service.Request

/-!
# The service over a socket

Each message is an object whose `type` names a request, and gets one reply. A message that cannot be
read gets an error. A failure on the way to a reply ends the session.
-/

namespace Worksheet

namespace Service

open Request (object)

def errorReply (message : Text) : Json :=
  object [("type", .string "error".toList), ("error", .string message)]

def invalidMessage : Json := errorReply "invalid message".toList

/-- The fields of an answer behind the type of the reply. -/
def typed (type : String) : Json → Json
  | .object fields => .object (("type".toList, .string type.toList) :: fields)
  | j => j

/-- Answers a request of a message. -/
def answerTyped (s : Surroundings) (type : String) : Checked Request → Result Json
  | .error _ => .ok invalidMessage
  | .ok r => do return typed type (← r.answer s)

/-- The reply to a message. -/
def reply (s : Surroundings) (message : Text) : Result Json :=
  match Json.read message with
  | .error (.malformed _) => .ok invalidMessage
  | .error .hugeNumber => .error (.fault .badValue)
  | .error .tooDeep => .error (.fault .tooDeep)
  | .ok (.object fields) =>
    let j := Json.object fields
    let type := (j.field? "type").getD .null
    let name := match type with
      | .string t => String.ofList t
      | _ => ""
    if name == "evaluate" then answerTyped s "evaluation_result" (Request.evaluate? j)
    else if name == "adjust_references" then answerTyped s "adjusted_references" (Request.adjust? j)
    else .ok (errorReply ("unknown message type: ".toList ++ type.display))
  | .ok _ => .ok invalidMessage

/-- The replies to messages that are sent one after the other, and the failure that ends the session,
if there is one. The messages behind it get no reply. -/
def converse (s : Surroundings) : List Text → List Json × Option Failure
  | [] => ([], none)
  | m :: ms =>
    match reply s m with
    | .ok r =>
      let (rs, e) := converse s ms
      (r :: rs, e)
    | .error e => ([], some e)

end Service

end Worksheet
