import Worksheet.Json.Reader
import Worksheet.Service.Request

/-!
# The service over HTTP

Each request has a path of its own, to which its object is posted; two more paths tell about the
service. A slash at the end of a path does not count.
-/

namespace Worksheet

namespace Service

open Text

structure HttpRequest where
  method : Text
  path : Text
  body : Option Json
  /-- A body as it was sent. -/
  raw : Option Text

/-- A part of the place where a body is wrong. -/
inductive Place where
  | field (name : Text)
  | position (n : Nat)

inductive HttpReply where
  | json (status : Nat) (body : Json)
  | text (status : Nat) (body : Text)
  /-- The body cannot be read: what is wrong, and where. -/
  | unprocessable (errors : List (FieldFault × List Place))

namespace HttpReply

def notFound : HttpReply := json 404 (Request.object [("detail", .string "Not Found".toList)])

def methodNotAllowed : HttpReply :=
  json 405 (Request.object [("detail", .string "Method Not Allowed".toList)])

def unreadable : HttpReply :=
  json 400 (Request.object [("detail", .string "There was an error parsing the body".toList)])

def internalError : HttpReply := text 500 "Internal Server Error".toList

/-- A reply to a request that asks for the status alone. -/
def headOnly : HttpReply → HttpReply
  | json status _ => text status []
  | text status _ => text status []
  | unprocessable _ => text 422 []

end HttpReply

/-! ## Paths -/

def about : Json := Request.object [
  ("message", .string "SmartCalc API Server".toList), ("version", .string "1.0.0".toList),
  ("status", .string "running".toList)]

def functions : Json := Request.object [
  ("functions", .array (MathFunction.all.map fun f => .string f.name.toList))]

/-- What a path serves: a fixed body, or requests. -/
inductive Route where
  | fixed (methods : List String) (body : Json)
  | posted (read : Json → Checked Request)

def routes : List (String × Route) := [
  ("/", .fixed ["GET", "HEAD"] about),
  ("/api/evaluate", .posted Request.evaluate?),
  ("/api/adjust-references", .posted Request.adjust?),
  ("/api/dependents", .posted Request.dependents?),
  ("/api/strip-result", .posted Request.strip?),
  ("/api/has-result", .posted Request.hasResult?),
  ("/api/resolve-references", .posted Request.resolve?),
  ("/api/functions", .fixed ["GET"] functions)]

/-- A path without its query and without slashes at the end. -/
def plainPath (path : Text) : Text :=
  let path := path.takeWhile fun c => c != '?' && c != '#'
  match trimRightBy (· == '/') path with
  | [] => if path.length ≤ 1 then ['/'] else path
  | p => p

def route? (path : Text) : Option Route := routes.lookup (String.ofList (plainPath path))

/-! ## Replies -/

/-- The places of faulty fields in a body. -/
def bodyErrors (es : List FieldError) : List (FieldFault × List Place) :=
  es.map fun e => (e.fault, [.field "body".toList, .field e.field])

/-- Answers a body that could be read. -/
def answerObject (s : Surroundings) (read : Json → Checked Request) (j : Json) : HttpReply :=
  match j with
  | .object _ =>
    match read j with
    | .error es => .unprocessable (bodyErrors es)
    | .ok r =>
      match r.answer s with
      | .ok body => .json 200 body
      | .error _ => .internalError
  | _ => .unprocessable [(.notObject, [.field "body".toList])]

/-- Answers a body. -/
def answerPosted (s : Surroundings) (read : Json → Checked Request) (r : HttpRequest) : HttpReply :=
  match r.body, r.raw with
  | some j, _ => answerObject s read j
  | none, some (c :: t) =>
    match Json.read (if c = '\uFEFF' then t else c :: t) with
    | .ok j => answerObject s read j
    | .error (.malformed n) => .unprocessable [(.json, [.field "body".toList, .position n])]
    | .error .hugeNumber | .error .tooDeep => .unreadable
  | none, _ => .unprocessable [(.missing, [.field "body".toList])]

def HttpRequest.reply (s : Surroundings) (r : HttpRequest) : HttpReply :=
  let method := upperAscii r.method
  let reply := match route? r.path with
    | none => .notFound
    | some (.fixed methods body) =>
      if methods.contains (String.ofList method) then .json 200 body else .methodNotAllowed
    | some (.posted read) =>
      if method == "POST".toList then answerPosted s read r else .methodNotAllowed
  if method == "HEAD".toList then reply.headOnly else reply

end Service

end Worksheet
