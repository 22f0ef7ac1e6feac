import RentalStatus.Json.Value

namespace RentalStatus

namespace Document

inductive Schema where
  | scalar (type : String) (format : Option String) (nullable : Bool) (note : Option String)
  | array (items : Schema)
  | ref (name : String)
  deriving Repr

namespace Schema

def string : Schema := scalar "string" none false none

def int32 : Schema := scalar "integer" (some "int32") false none

def dateTime : Schema := scalar "string" (some "date-time") false none

def orNull : Schema → Schema
  | scalar t f _ d => scalar t f true d
  | s => s

def noted (note : String) : Schema → Schema
  | scalar t f n _ => scalar t f n (some note)
  | s => s

def toJson : Schema → Json
  | scalar t f n d =>
    Json.object ([("type", if n then .arr [.str t, .str "null"] else .str t)] ++
      (f.map fun f => ("format", .str f)).toList ++
      (d.map fun d => ("description", .str d)).toList)
  | array items => Json.object [("type", .str "array"), ("items", items.toJson)]
  | ref name => Json.object [("$ref", .str ("#/components/schemas/" ++ name))]

end Schema

structure Field where
  name : String
  schema : Schema
  required : Bool := true
  deriving Repr

structure Component where
  name : String
  description : String
  fields : List Field
  deriving Repr

namespace Component

def toJson (c : Component) : Json :=
  let required := c.fields.filter (·.required) |>.map (·.name)
  Json.object ([("type", .str "object"), ("description", .str c.description),
      ("properties", Json.object (c.fields.map fun f => (f.name, f.schema.toJson)))] ++
    (if required.isEmpty then [] else [("required", .arr (required.map .str))]))

end Component

structure Parameter where
  name : String
  description : String
  schema : Schema
  deriving Repr

structure Operation where
  method : String
  path : String
  tag : String
  paragraphs : List (List String)
  operationId : String
  parameters : List Parameter := []
  body : Option String := none
  responses : List (Nat × String × Schema)
  deriving Repr

namespace Operation

def response (description : String) (schema : Schema) : Json :=
  Json.object [("description", .str description),
    ("content", Json.object [("application/json", Json.object [("schema", schema.toJson)])])]

def toJson (o : Operation) : Json :=
  let summary := (o.paragraphs.head?.map fun p => "\n".intercalate p).toList
  let rest := "\n\n".intercalate (o.paragraphs.drop 1 |>.map fun p => "\n".intercalate p)
  Json.object ([("tags", .arr [.str o.tag]), ("operationId", .str o.operationId),
      ("responses", Json.object (o.responses.map fun (status, d, s) => (toString status, response d s)))] ++
    summary.map (fun s => ("summary", .str s)) ++
    (if rest.isEmpty then [] else [("description", .str rest)]) ++
    (if o.parameters.isEmpty then []
     else [("parameters", .arr (o.parameters.map fun p => Json.object
       [("name", .str p.name), ("in", .str "path"), ("description", .str p.description),
        ("required", .bool true), ("schema", p.schema.toJson)]))]) ++
    (o.body.map fun b => ("requestBody", Json.object
      [("content", Json.object [("application/json", Json.object [("schema", (Schema.ref b).toJson)])]),
       ("required", .bool true)])).toList)

end Operation

def slot (name : String) : String := "\x7b" ++ name ++ "\x7d"

def errorBody : Component :=
  ⟨"ErrorDto", "Body of every error response.", [⟨"error", .string, true⟩]⟩

def statusChangeBody : Component :=
  ⟨"NewOrderStatusDto",
    "Request body for moving an order to a new status.\n\n" ++
      "\x60status_name\x60 is kept as a raw string so that a missing or unknown value is reported as\n" ++
      "a 400 with a readable message instead of a deserialization rejection.",
    [⟨"status_name", .string, false⟩, ⟨"comment", Schema.string.orNull, false⟩]⟩

def eventBody : Component :=
  ⟨"OrderStatusDto", "One entry of an order's status history.",
    [⟨"id", .int32, true⟩, ⟨"order_id", .int32, true⟩, ⟨"status_name", .string, true⟩,
     ⟨"comment", Schema.string.orNull, false⟩, ⟨"created_at", .dateTime, true⟩,
     ⟨"changed_by", (Schema.int32.orNull).noted
        "\x60None\x60 when the change was made by the system.", false⟩]⟩

def statusNamesBody : Component :=
  ⟨"OrderStatusNamesDto", "All order status names known to the system.",
    [⟨"names", .array .string, true⟩]⟩

def ordersInStatusBody : Component :=
  ⟨"OrdersInStatusDto", "Orders whose current status is \x60status_name\x60.",
    [⟨"status_name", .string, true⟩, ⟨"order_ids", .array .int32, true⟩]⟩

def equipmentNamesBody : Component :=
  ⟨"EquipmentStatusNamesDto", "All equipment status names known to the system.",
    [⟨"names", .array .string, true⟩]⟩

def components : List Component :=
  [errorBody, statusChangeBody, eventBody, statusNamesBody, ordersInStatusBody,
    equipmentNamesBody]

def orderIdParameter : Parameter := ⟨"order_id", "Order ID", .int32⟩

def failure (status : Nat) (description : String) : Nat × String × Schema :=
  (status, description, .ref "ErrorDto")

def viewAccess : List String := ["# Access Control", "- Order owner, or any staff role"]

def operations : List Operation :=
  let statuses := "/api/orders/" ++ slot "order_id" ++ "/statuses"
  [{ method := "post", path := statuses, tag := "order_status", operationId := "add_order_status"
     paragraphs :=
      [["Move an order to a new status."],
       ["Appends a status event to the order's history and updates the equipment attached to",
        "the order as the new status requires."],
       ["# Access Control",
        "- Order owner - May close an order that is in review, approved or prepared",
        "- \x60Manager\x60 / \x60Operator\x60 / \x60Admin\x60 - According to the transition table"],
       ["# Arguments",
        "- \x60state\x60 - Application state containing the database connection",
        "- \x60session\x60 - User's session for authentication",
        "- \x60order_id\x60 - ID of the order to change",
        "- \x60payload\x60 - Requested status name and optional comment"],
       ["# Returns",
        "- \x60200 OK\x60 - The appended status event",
        "- \x60400 Bad Request\x60 - Empty or unknown status",
        "- \x60401 Unauthorized\x60 - User not authenticated",
        "- \x60403 Forbidden\x60 - Transition not permitted for this user",
        "- \x60404 Not Found\x60 - Order has no status history",
        "- \x60409 Conflict\x60 - The order's status changed concurrently",
        "- \x60500 Internal Server Error\x60 - Equipment not ready (body lists the items) or database error"]]
     parameters := [orderIdParameter]
     body := some "NewOrderStatusDto"
     responses :=
      [(200, "Status changed", .ref "OrderStatusDto"), failure 400 "Empty or unknown status",
       failure 401 "User not authenticated", failure 403 "Transition not permitted",
       failure 404 "Order not found", failure 409 "Concurrent status change",
       failure 500 "Equipment not ready, or internal server error"] },
   { method := "get", path := statuses, tag := "order_status",
     operationId := "get_order_status_history"
     paragraphs :=
      [["Get the status history of an order."], viewAccess,
       ["# Returns",
        "- \x60200 OK\x60 - Events oldest first",
        "- \x60401 Unauthorized\x60 - User not authenticated",
        "- \x60403 Forbidden\x60 - User neither owns the order nor is staff",
        "- \x60404 Not Found\x60 - Order has no status history",
        "- \x60500 Internal Server Error\x60 - Database error"]]
     parameters := [orderIdParameter]
     responses :=
      [(200, "Status history", .array (.ref "OrderStatusDto")),
       failure 401 "User not authenticated", failure 403 "Not permitted to view this order",
       failure 404 "Order not found", failure 500 "Internal server error"] },
   { method := "get", path := "/api/orders/" ++ slot "order_id" ++ "/status", tag := "order_status"
     operationId := "get_current_order_status"
     paragraphs := [["Get the current status of an order."], viewAccess]
     parameters := [orderIdParameter]
     responses :=
      [(200, "Latest status event", .ref "OrderStatusDto"),
       failure 401 "User not authenticated", failure 403 "Not permitted to view this order",
       failure 404 "Order not found", failure 500 "Internal server error"] },
   { method := "get", path := "/api/order-statuses", tag := "order_status"
     operationId := "get_order_status_names"
     paragraphs := [["List all order status names."]]
     responses :=
      [(200, "Order status names", .ref "OrderStatusNamesDto"),
       failure 500 "Internal server error"] },
   { method := "get", path := "/api/order-statuses/" ++ slot "status_name" ++ "/orders"
     tag := "order_status", operationId := "get_orders_in_status"
     paragraphs :=
      [["List the orders currently in a status."],
       ["# Access Control", "- \x60Manager\x60 / \x60Operator\x60 / \x60Admin\x60"]]
     parameters := [⟨"status_name", "Order status name", .string⟩]
     responses :=
      [(200, "IDs of orders in the status", .ref "OrdersInStatusDto"),
       failure 400 "Unknown status", failure 401 "User not authenticated",
       failure 403 "User is not staff", failure 500 "Internal server error"] },
   { method := "get", path := "/api/equipment-statuses", tag := "equipment_status"
     operationId := "get_equipment_status_names"
     paragraphs := [["List all equipment status names."]]
     responses :=
      [(200, "Equipment status names", .ref "EquipmentStatusNamesDto"),
       failure 500 "Internal server error"] }]

def paths (ops : List Operation) : Json :=
  let names := ops.foldl (fun acc o => if acc.contains o.path then acc else acc ++ [o.path]) []
  Json.object (names.map fun p =>
    (p, Json.object (ops.filter (·.path == p) |>.map fun o => (o.method, o.toJson))))

/-- The API description the service serves. -/
def api : Json :=
  Json.object
    [("openapi", .str "3.1.0"),
     ("info", Json.object
       [("title", .str "Rental backend"), ("description", .str "Order and equipment status API"),
        ("license", Json.object [("name", .str "")]), ("version", .str "0.1.0")]),
     ("paths", paths operations),
     ("components", Json.object
       [("schemas", Json.object (components.map fun c => (c.name, c.toJson)))]),
     ("tags", .arr
       [Json.object [("name", .str "order_status"),
          ("description", .str "Order status history and transitions")],
        Json.object [("name", .str "equipment_status"),
          ("description", .str "Equipment status vocabulary")]])]

end Document

end RentalStatus
