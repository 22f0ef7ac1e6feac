import RentalStatus.Web.Api
import RentalStatus.Web.MediaType
import RentalStatus.Web.Session
import RentalStatus.Net.Url
import RentalStatus.Text.Numeral

namespace RentalStatus

/-- An operation of the API, with the raw path segments it takes. -/
inductive Endpoint where
  | addStatus (orderId : String)
  | history (orderId : String)
  | current (orderId : String)
  | statusNames
  | ordersInStatus (statusName : String)
  | equipmentNames
  | apiDocument
  | docsRedirect
  | docsFile
  deriving DecidableEq, Repr

inductive Route where
  | found (e : Endpoint)
  | notFound
  | methodNotAllowed
  deriving DecidableEq, Repr

/-- Why a request was refused before its operation ran. -/
inductive Rejection where
  | invalidUtf8 (param : String)
  | cannotParse (value type : String)
  | notJson
  | malformed (text : String)
  | misshapen (text : String)
  deriving DecidableEq, Repr

namespace Rejection

def response : Rejection → Response
  | invalidUtf8 param => .text 400 ("Invalid URL: Invalid UTF-8 in " ++ "\x60" ++ param ++ "\x60")
  | cannotParse value type =>
    .text 400 ("Invalid URL: Cannot parse " ++ "\x60" ++ value ++ "\x60" ++ " to a " ++ "\x60" ++ type ++ "\x60")
  | notJson => .text 415 ("Expected request with " ++ "\x60" ++ "Content-Type: application/json" ++ "\x60")
  | malformed t => .text 400 ("Failed to parse the request body as JSON: " ++ t)
  | misshapen t => .text 422 ("Failed to deserialize the JSON body into the target type: " ++ t)

end Rejection

namespace Route

def ofRequest (method path : String) : Route :=
  let get (e : Endpoint) : Route :=
    if method = "GET" || method = "HEAD" then .found e else .methodNotAllowed
  match path.splitOn "/" with
  | ["", "api", "orders", o, "statuses"] =>
    if method = "POST" then .found (.addStatus o) else get (.history o)
  | ["", "api", "orders", o, "status"] => get (.current o)
  | ["", "api", "order-statuses"] => get .statusNames
  | ["", "api", "order-statuses", s, "orders"] => get (.ordersInStatus s)
  | ["", "api", "equipment-statuses"] => get .equipmentNames
  | ["", "api", "docs", "openapi.json"] => get .apiDocument
  | ["", "api", "docs"] => get .docsRedirect
  | "" :: "api" :: "docs" :: _ => get .docsFile
  | _ => .notFound

end Route

namespace Router

def param (name raw : String) : Except Rejection String :=
  match Utf8.decode (Url.percentDecode (Utf8.bytes raw)) with
  | .ok s => .ok s
  | .error _ => .error (.invalidUtf8 name)

def orderId (raw : String) : Except Rejection Int := do
  let s ← param "order_id" raw
  match Numeral.readI32 s with
  | .ok n => .ok n
  | .error _ => .error (.cannotParse s "i32")

def statusChange (req : Request) : Except Rejection StatusChange :=
  if !MediaType.declaresJson req.contentType then .error .notJson
  else
    match StatusChange.decode req.body with
    | .ok c => .ok c
    | .error (.malformed t) => .error (.malformed t)
    | .error (.misshapen t) => .error (.misshapen t)

/-- The handler of an endpoint for a request whose session holds `user`, or the rejection of
the request's parts. -/
def handler (policy : Policy) (now : Instant) (document : Json) (req : Request)
    (user : Option Json) : Endpoint → Except Rejection Handler
  | .addStatus o => do
    let oid ← orderId o
    let change ← statusChange req
    return Api.addOrderStatus policy now user oid change
  | .history o => do return Api.orderStatusHistory user (← orderId o)
  | .current o => do return Api.currentOrderStatus user (← orderId o)
  | .statusNames => pure Api.orderStatusNames
  | .ordersInStatus s => do return Api.ordersInStatus user (← param "status_name" s)
  | .equipmentNames => pure Api.equipmentStatusNames
  | .apiDocument => pure fun s => (Response.json 200 document, s)
  | .docsRedirect => pure fun s => (Response.bare 303, s)
  | .docsFile => pure fun s => (Response.bare 404, s)

/-- Serves one request, its session looked up among `sessions` by its cookie. -/
def serve (policy : Policy) (now : Instant) (document : Json) (sessions : Sessions)
    (req : Request) : Handler :=
  fun s =>
    let (r, s') := match Route.ofRequest req.method req.path with
      | .notFound => (Response.bare 404, s)
      | .methodNotAllowed => (Response.bare 405, s)
      | .found e =>
        match handler policy now document req (sessions.userOf req.cookies) e with
        | .ok h => h s
        | .error rej => (rej.response, s)
    (if req.method = "HEAD" then r.headOnly else r, s')

end Router

end RentalStatus
