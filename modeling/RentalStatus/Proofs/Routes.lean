import RentalStatus.Web.Router
import RentalStatus.Proofs.Transaction

namespace RentalStatus

namespace Api

def NotSignedIn (s : Store) (user : Option Json) : Prop :=
  user = none ∨ ∃ v uid, user = some v ∧ sessionId v = some uid ∧ s.users.find? (·.id == uid) = none

/-- The session signs in the user with id `uid`, whose stored role reads as `role`. -/
def SignsIn (s : Store) (user : Option Json) (uid : Int) (role : Role) : Prop :=
  ∃ v row, user = some v ∧ sessionId v = some uid ∧ s.users.find? (·.id == uid) = some row ∧
    Role.ofName? row.role = some role

inductive Refusal (s : Store) (user : Option Json) (staffOnly : Bool) : Response → Prop
  | notSignedIn (h : NotSignedIn s user) : Refusal s user staffOnly Response.notLoggedIn
  | notAnId {v : Json} (h : user = some v) (hv : sessionId v = none) :
      Refusal s user staffOnly Response.internal
  | unknownRole {v : Json} {uid : Int} {row : UserRow} (h : user = some v)
      (hv : sessionId v = some uid) (hrow : s.users.find? (·.id == uid) = some row)
      (hrole : Role.ofName? row.role = none) : Refusal s user staffOnly Response.internal
  | notStaff {uid : Int} {role : Role} (h : SignsIn s user uid role) (hstaff : staffOnly = true)
      (hrole : role.isStaff = false) : Refusal s user staffOnly Response.forbidden

end Api

/-- The response to a failure of the service, by its cause: 400 with the text of a blank or
unknown status, 404 with the text of a missing order, 403 with the generic text for a refused
change or read, 500 with the text of unready equipment, which names the items, 409 with the text
of a conflict, and 500 with the generic text for a failure of the store. -/
inductive Failure : EngineError → Response → Prop
  | invalid {e : OrderStatusError} (he : e = .emptyStatus ∨ ∃ raw, e = .unknownStatus raw) :
      Failure (.status e) (Response.error 400 e.message)
  | missing (o : Int) :
      Failure (.status (.orderNotFound o)) (Response.error 404 (OrderStatusError.orderNotFound o).message)
  | denied {e : OrderStatusError}
      (he : (∃ u o a b, e = .transitionDenied u o a b) ∨ ∃ u o, e = .accessDenied u o) :
      Failure (.status e) Response.forbidden
  | notReady (required : EquipmentStatus) (ids : List Int) :
      Failure (.status (.equipmentNotReady required ids))
        (Response.error 500 (OrderStatusError.equipmentNotReady required ids).message)
  | conflict (o : Int) :
      Failure (.status (.versionConflict o)) (Response.error 409 (OrderStatusError.versionConflict o).message)
  | storage (d : DbError) : Failure (.db d) Response.internal

/-- How a route that runs `op` for its signed-in user answers on `s` when the session holds
`user`: the response and the tables after it. Signing in comes first; a signed-in user (staff,
on a route for staff) gets 200 with what `op` returns, or the response to its failure. -/
inductive Answers (s : Store) (user : Option Json) (staffOnly : Bool)
    (op : Principal → EngineOp Json) : Response × Store → Prop
  | refused {r : Response} (h : Api.Refusal s user staffOnly r) : Answers s user staffOnly op (r, s)
  | done {uid : Int} {role : Role} {v : Json} {s' : Store} (h : Api.SignsIn s user uid role)
      (hallowed : staffOnly = true → role.isStaff = true) (hop : op ⟨uid, role⟩ s = .ok v s') :
      Answers s user staffOnly op (Response.json 200 v, s')
  | failed {uid : Int} {role : Role} {e : EngineError} {r : Response} {s' : Store}
      (h : Api.SignsIn s user uid role) (hallowed : staffOnly = true → role.isStaff = true)
      (hop : op ⟨uid, role⟩ s = .error e s') (hr : Failure e r) :
      Answers s user staffOnly op (r, s')

theorem Failure.ofEngine (e : EngineError) : Failure e (Response.ofEngine e) := by
  cases e with
  | status e =>
    cases e with
    | emptyStatus => exact .invalid (.inl rfl)
    | unknownStatus raw => exact .invalid (.inr ⟨raw, rfl⟩)
    | orderNotFound o => exact .missing o
    | transitionDenied u o a b => exact .denied (.inl ⟨u, o, a, b, rfl⟩)
    | accessDenied u o => exact .denied (.inr ⟨u, o, rfl⟩)
    | equipmentNotReady required ids => exact .notReady required ids
    | versionConflict o => exact .conflict o
  | db d => exact .storage d

theorem Failure.status_ne {e : EngineError} {r : Response} (h : Failure e r) : r.status ≠ 401 := by
  cases h <;> simp [Response.error, Response.json, Response.forbidden, Response.internal]

namespace Api

variable {s : Store} {user : Option Json} {staffOnly : Bool}

theorem signedIn_refusal {r : Response} (h : signedIn s user staffOnly = .error r) :
    Refusal s user staffOnly r := by
  cases hu : user with
  | none =>
    simp [signedIn, hu] at h
    exact h ▸ .notSignedIn (.inl rfl)
  | some v =>
    cases hv : sessionId v with
    | none =>
      simp [signedIn, hu, hv] at h
      exact h ▸ .notAnId rfl hv
    | some uid =>
      cases hrow : s.users.find? (·.id == uid) with
      | none =>
        simp [signedIn, hu, hv, hrow] at h
        exact h ▸ .notSignedIn (.inr ⟨v, uid, rfl, hv, hrow⟩)
      | some row =>
        cases hrole : Role.ofName? row.role with
        | none =>
          simp [signedIn, hu, hv, hrow, hrole] at h
          exact h ▸ .unknownRole rfl hv hrow hrole
        | some role =>
          -- only the staff check is left to refuse
          have hstaff : staffOnly = true ∧ role.isStaff = false := by
            cases hs : staffOnly <;> cases hr : role.isStaff <;>
              simp_all [signedIn]
          have hr : r = Response.forbidden := by
            simp [signedIn, hu, hv, hrow, hrole, hstaff.1, hstaff.2] at h
            exact h.symm
          exact hr ▸ .notStaff ⟨v, row, rfl, hv, hrow, hrole⟩ hstaff.1 hstaff.2

theorem signedIn_ok {p : Principal} (h : signedIn s user staffOnly = .ok p) :
    SignsIn s user p.id p.role ∧ (staffOnly = true → p.role.isStaff = true) := by
  cases hu : user with
  | none => simp [signedIn, hu] at h
  | some v =>
    cases hv : sessionId v with
    | none => simp [signedIn, hu, hv] at h
    | some uid =>
      cases hrow : s.users.find? (·.id == uid) with
      | none => simp [signedIn, hu, hv, hrow] at h
      | some row =>
        cases hrole : Role.ofName? row.role with
        | none => simp [signedIn, hu, hv, hrow, hrole] at h
        | some role =>
          cases hs : staffOnly <;> cases hr : role.isStaff <;>
            simp [signedIn, hu, hv, hrow, hrole, hs, hr] at h <;>
            subst h <;> exact ⟨⟨v, row, rfl, hv, hrow, hrole⟩, by simp [hr]⟩

theorem serve_answers (user : Option Json) (staffOnly : Bool) (op : Principal → EngineOp Json)
    (s : Store) : Answers s user staffOnly op (serve user staffOnly op s) := by
  unfold serve
  cases hs : signedIn s user staffOnly with
  | error r => exact .refused (signedIn_refusal hs)
  | ok p =>
    obtain ⟨hin, hallowed⟩ := signedIn_ok hs
    dsimp only
    cases hop : op p s with
    | ok v s' => exact .done hin hallowed hop
    | error e s' => exact .failed hin hallowed hop (Failure.ofEngine e)

end Api

namespace Api.NotSignedIn

variable {s : Store} {user : Option Json} {v : Json}

theorem of_some (hnot : NotSignedIn s user) (hu : user = some v) :
    ∃ uid, sessionId v = some uid ∧ s.users.find? (·.id == uid) = none := by
  rcases hnot with hnone | ⟨v', uid, hu', hv, hrow⟩
  · rw [hu] at hnone
    cases hnone
  · rw [hu] at hu'
    obtain rfl := Option.some.inj hu'
    exact ⟨uid, hv, hrow⟩

theorem find_none {uid : Int} (hnot : NotSignedIn s user) (hu : user = some v)
    (hv : sessionId v = some uid) : s.users.find? (·.id == uid) = none := by
  obtain ⟨uid', hv', hrow⟩ := hnot.of_some hu
  rw [hv] at hv'
  obtain rfl := Option.some.inj hv'
  exact hrow

theorem not_signsIn {uid : Int} {role : Role} (hnot : NotSignedIn s user)
    (hin : SignsIn s user uid role) : False := by
  obtain ⟨v, row, hu, hv, hrow, -⟩ := hin
  have hnone := hnot.find_none hu hv
  rw [hrow] at hnone
  cases hnone

end Api.NotSignedIn

theorem Answers.notLoggedIn_iff {s : Store} {user : Option Json} {staffOnly : Bool}
    {op : Principal → EngineOp Json} {r : Response × Store} (h : Answers s user staffOnly op r) :
    r.1 = Response.notLoggedIn ↔ Api.NotSignedIn s user := by
  have hne : ∀ {x : Response}, x.status ≠ 401 → x ≠ Response.notLoggedIn :=
    fun hx heq => hx (heq ▸ rfl)
  have hinternal : Response.internal ≠ Response.notLoggedIn := hne (by decide)
  have hforbidden : Response.forbidden ≠ Response.notLoggedIn := hne (by decide)
  constructor
  · intro hr
    cases h with
    | refused hrf =>
      cases hrf with
      | notSignedIn hnot => exact hnot
      | notAnId => exact absurd hr hinternal
      | unknownRole => exact absurd hr hinternal
      | notStaff => exact absurd hr hforbidden
    | done => exact absurd hr (hne (by simp [Response.json]))
    | failed _ _ _ hf => exact absurd hr (hne hf.status_ne)
  · intro hnot
    -- the session signs no one in, so signing in refuses with 401
    cases h with
    | refused hrf =>
      cases hrf with
      | notSignedIn => rfl
      | notAnId hu hv =>
        obtain ⟨uid, hv', -⟩ := hnot.of_some hu
        rw [hv] at hv'
        cases hv'
      | unknownRole hu hv hrow =>
        have hnone := hnot.find_none hu hv
        rw [hrow] at hnone
        cases hnone
      | notStaff hin => exact (hnot.not_signsIn hin).elim
    | done hin => exact (hnot.not_signsIn hin).elim
    | failed hin => exact (hnot.not_signsIn hin).elim

inductive StatusEndpoint (policy : Policy) (now : Instant) (req : Request) :
    Endpoint → Bool → (Principal → EngineOp Json) → Prop
  | change {raw : String} {oid : Int} {c : StatusChange} (hid : Router.orderId raw = .ok oid)
      (hbody : Router.statusChange req = .ok c) :
      StatusEndpoint policy now req (.addStatus raw) false fun p => do
        let ev ← addStatus policy now ⟨oid, c.statusName, c.comment, p⟩
        return ev.toJson
  | history {raw : String} {oid : Int} (hid : Router.orderId raw = .ok oid) :
      StatusEndpoint policy now req (.history raw) false fun p => do
        return .ofList Event.toJson (← history oid p)
  | current {raw : String} {oid : Int} (hid : Router.orderId raw = .ok oid) :
      StatusEndpoint policy now req (.current raw) false fun p => do
        return (← currentStatus oid p).toJson
  | ordersInStatus {raw name : String} (hname : Router.param "status_name" raw = .ok name) :
      StatusEndpoint policy now req (.ordersInStatus raw) true fun _ => do
        let ids ← RentalStatus.ordersInStatus name
        return Json.object [("status_name", .str name), ("order_ids", .ofList .ofInt ids)]

theorem handler_of_statusEndpoint {policy : Policy} {now : Instant} {req : Request}
    {e : Endpoint} {staffOnly : Bool} {op : Principal → EngineOp Json}
    (h : StatusEndpoint policy now req e staffOnly op) (document : Json) (user : Option Json) :
    Router.handler policy now document req user e = .ok (Api.serve user staffOnly op) := by
  cases h with
  | change hid hbody =>
    simp only [Router.handler, hid, hbody, Except.ok_bind, Except.pure_eq]
    rfl
  | history hid =>
    simp only [Router.handler, hid, Except.ok_bind, Except.pure_eq]
    rfl
  | current hid =>
    simp only [Router.handler, hid, Except.ok_bind, Except.pure_eq]
    rfl
  | ordersInStatus hname =>
    simp only [Router.handler, hname, Except.ok_bind, Except.pure_eq]
    rfl

theorem Router.serve_of_found {policy : Policy} {now : Instant} {document : Json}
    {sessions : Sessions} {req : Request} {e : Endpoint} {handle : Handler}
    (hroute : Route.ofRequest req.method req.path = .found e)
    (hh : Router.handler policy now document req (sessions.userOf req.cookies) e = .ok handle)
    (hhead : req.method ≠ "HEAD") (s : Store) :
    Router.serve policy now document sessions req s = handle s := by
  simp [Router.serve, hroute, hh, hhead]

/-- The order-status routes, once the parts of a request read: for every session value and
every store, the endpoint's handler, which the router runs for a request it sends there (a
`HEAD` apart), answers as `Answers` says, and it answers 401 exactly when the session signs no one
in. -/
theorem status_routes_answer {policy : Policy} {now : Instant} {req : Request} {e : Endpoint}
    {staffOnly : Bool} {op : Principal → EngineOp Json}
    (h : StatusEndpoint policy now req e staffOnly op) (document : Json) (user : Option Json)
    (s : Store) :
    ∃ handle, Router.handler policy now document req user e = .ok handle ∧
      (∀ sessions : Sessions, sessions.userOf req.cookies = user →
        Route.ofRequest req.method req.path = .found e → req.method ≠ "HEAD" →
        Router.serve policy now document sessions req s = handle s) ∧
      Answers s user staffOnly op (handle s) ∧
      ((handle s).1 = Response.notLoggedIn ↔ Api.NotSignedIn s user) := by
  have hh := handler_of_statusEndpoint h document user
  have hans := Api.serve_answers user staffOnly op s
  refine ⟨_, hh, fun sessions hu hroute hhead => ?_, hans, hans.notLoggedIn_iff⟩
  subst hu
  exact Router.serve_of_found hroute hh hhead s

theorem status_routes_answer_signed_out :
    Router.param "status_name" "Approved" = .ok "Approved" ∧
      ∃ handle, Router.handler .strict ⟨1675598400, 0⟩ .null
          { method := "GET", path := "/api/order-statuses/Approved/orders" } none
          (.ordersInStatus "Approved") = .ok handle ∧
        (handle { schema := .migrations }).1 = Response.notLoggedIn := by
  have hname : Router.param "status_name" "Approved" = .ok "Approved" := by
    have hb : Utf8.bytes "Approved" = [65, 112, 112, 114, 111, 118, 101, 100] := by
      rw [Utf8.bytes_eq]
      decide
    have hd : Utf8.decode (Url.percentDecode [65, 112, 112, 114, 111, 118, 101, 100]) =
        .ok "Approved" := by
      rw [show Url.percentDecode [65, 112, 112, 114, 111, 118, 101, 100] =
        [65, 112, 112, 114, 111, 118, 101, 100] by decide]
      simp [Utf8.decode, Utf8.decodeFrom, Utf8.first]
    simp [Router.param, hb, hd]
  obtain ⟨handle, hh, -, -, h401⟩ := status_routes_answer
    (@StatusEndpoint.ordersInStatus .strict ⟨1675598400, 0⟩
      { method := "GET", path := "/api/order-statuses/Approved/orders" } _ _ hname)
    .null none { schema := .migrations }
  exact ⟨hname, handle, hh, h401.2 (.inl rfl)⟩

/-- Every rejection comes from reading the request's path parameters and body, which the
session plays no part in. -/
theorem Router.handler_rejects_whoever {policy : Policy} {now : Instant} {document : Json}
    {req : Request} {e : Endpoint} {rej : Rejection} {user : Option Json}
    (h : Router.handler policy now document req user e = .error rej) (user' : Option Json) :
    Router.handler policy now document req user' e = .error rej := by
  cases e with
  | addStatus o =>
    cases ho : Router.orderId o <;> cases hc : Router.statusChange req <;>
      simp_all [Router.handler]
  | history o | current o =>
    cases ho : Router.orderId o <;> simp_all [Router.handler]
  | ordersInStatus raw =>
    cases hn : Router.param "status_name" raw <;>
      simp_all [Router.handler]
  | _ => simp [Router.handler] at h

theorem Router.serve_of_rejected {policy : Policy} {now : Instant} {document : Json}
    {sessions : Sessions} {req : Request} {e : Endpoint} {rej : Rejection}
    (hroute : Route.ofRequest req.method req.path = .found e)
    (hh : Router.handler policy now document req (sessions.userOf req.cookies) e = .error rej)
    (s : Store) :
    Router.serve policy now document sessions req s =
      (if req.method = "HEAD" then rej.response.headOnly else rej.response, s) := by
  simp [Router.serve, hroute, hh]

/-- Two requests with no one signed in that are refused for their parts rather than with 401: a
status name that percent-decodes to the lone byte 0xC3, which is no UTF-8 (400), and a status
change to an order whose id reads, with a JSON body that is not declared as JSON (415). -/
theorem status_routes_read_parts_before_session :
    Router.handler .strict ⟨1675598400, 0⟩ .null
        { method := "GET", path := "/api/order-statuses/%C3/orders" } none
        (.ordersInStatus "%C3") = .error (.invalidUtf8 "status_name") ∧
      (Rejection.invalidUtf8 "status_name").response.status = 400 ∧
      Router.handler .strict ⟨1675598400, 0⟩ .null
        { method := "POST", path := "/api/orders/10/statuses",
          body := "\x7b\"status_name\":\"Closed\"\x7d" } none (.addStatus "10") = .error .notJson ∧
      Rejection.notJson.response.status = 415 := by
  have hname : Router.param "status_name" "%C3" = .error (.invalidUtf8 "status_name") := by
    have hb : Utf8.bytes "%C3" = [37, 67, 51] := by
      rw [Utf8.bytes_eq]
      decide
    have hd : Utf8.decode (Url.percentDecode [37, 67, 51]) = .error ⟨0, none⟩ := by
      rw [show Url.percentDecode [37, 67, 51] = [195] by decide]
      simp [Utf8.decode, Utf8.decodeFrom, Utf8.first]
    simp [Router.param, hb, hd]
  have hid : Router.orderId "10" = .ok 10 := by
    have hb : Utf8.bytes "10" = [49, 48] := by
      rw [Utf8.bytes_eq]
      decide
    have hd : Utf8.decode (Url.percentDecode [49, 48]) = .ok "10" := by
      rw [show Url.percentDecode [49, 48] = [49, 48] by decide]
      simp [Utf8.decode, Utf8.decodeFrom, Utf8.first]
    simp [Router.orderId, Router.param, hb, hd]
    rfl
  refine ⟨?_, rfl, ?_, rfl⟩
  · simp [Router.handler, hname]
  · simp [Router.handler, hid, Router.statusChange, MediaType.declaresJson]

end RentalStatus
