import Bearer.Json.Basic

/-!
# The description of the interface

The document that describes the REST interface to its clients: its paths with their requests and
responses, the shapes of the bodies, and the scheme of authorization.
-/

namespace Bearer.Http.OpenApi

open Json (text member)

/-- An object. -/
def object (members : List (String × Json)) : Json :=
  .object (members.map fun m => member m.1 m.2)

/-- A value of a basic type with further members. -/
def typed (type : String) (more : List (String × Json)) : Json :=
  object (("type", text type) :: more)

def plainText : Json := typed "string" []

/-- The shape of a body: an object all of whose members have to be there. -/
def shape (description : String) (members : List (String × Json)) : Json :=
  object [("type", text "object"), ("description", text description),
    ("required", .array (members.map fun m => text m.1)), ("properties", object members)]

/-- The names of the shapes and what they are. -/
def shapes : List (String × Json) :=
  [("ErrorResponse", shape "Error body shared by every HTTP endpoint"
      [("error", typed "string"
          [("description", text "Error category, e.g. `invalid_credentials`")]),
        ("status", typed "integer" [("format", text "int32"), ("minimum", .int 0)])]),
    ("LoginRequest", shape "Login request body" [("email", plainText), ("password", plainText)]),
    ("LoginResponse", shape "Login response with the access token"
      [("access_token", plainText), ("token_type", plainText),
        ("expires_in", typed "integer"
          [("format", text "int64"), ("description", text "Seconds until the token expires")]),
        ("user_id", typed "string" [("format", text "uuid")]),
        ("role", typed "string" [("example", text "employee")])]),
    ("LogoutResponse", shape "Logout response" [("message", plainText)])]

/-- A body of a type with a shape. -/
def content (type : String) (schema : Json) : Json :=
  object [(type, object [("schema", schema)])]

/-- A JSON body of a named shape. -/
def bodyOf (shape : String) : Json :=
  content "application/json" (object [("$ref", text ("#/components/schemas/" ++ shape))])

/-- A response with a body of a named shape. -/
def response (status description shape : String) : String × Json :=
  (status, object [("description", text description), ("content", bodyOf shape)])

/-- A response that reports a failure. -/
def failure (status description : String) : String × Json :=
  response status description "ErrorResponse"

/-- An operation with its responses and further members. -/
def operation (tag id summary : String) (responses more : List (String × Json)) : Json :=
  object ([("tags", .array [text tag]), ("summary", text summary), ("operationId", text id),
    ("responses", object responses)] ++ more)

/-- The paths with their operations. -/
def paths : List (String × Json) :=
  [("/api/v1/auth/login", object [("post", operation "Auth" "login" "Login endpoint handler"
      [response "200" "User logged in" "LoginResponse",
        failure "400" "Malformed request",
        failure "401" "Invalid credentials",
        failure "429" "Too many failed attempts",
        failure "503" "Shared store unavailable"]
      [("requestBody",
          object [("content", bodyOf "LoginRequest"), ("required", .bool true)])])]),
    ("/api/v1/auth/logout", object [("delete", operation "Auth" "logout" "Logout endpoint handler"
      [response "200" "User logged out" "LogoutResponse",
        failure "401" "Missing or invalid token",
        failure "503" "Shared store unavailable"]
      [("description",
          text "Revokes the presented token (header or cookie) and clears the cookie."),
        ("security", .array [object [("bearer_auth", .array [])]])])]),
    ("/health", object [("get", operation "Health" "health" "Liveness probe"
      [("200", object [("description", text "Service is up"),
        ("content", content "text/plain" plainText)])] [])])]

/-- A tag of operations. -/
def tag (name description : String) : Json :=
  object [("name", text name), ("description", text description)]

/-- The whole document. -/
def document : Json :=
  object [("openapi", text "3.0.3"),
    ("info", object [("title", text "auth-service"), ("description", text ""),
      ("contact", object [("name", text "Task System Team"), ("email", text "team@tasksys.dev")]),
      ("license", object [("name", text "MIT")]), ("version", text "0.1.0")]),
    ("paths", object paths),
    ("components", object [("schemas", object shapes),
      ("securitySchemes", object [("bearer_auth", object [("type", text "http"),
        ("scheme", text "bearer"), ("bearerFormat", text "JWT")])])]),
    ("tags", .array [tag "Auth" "Login, logout and access tokens", tag "Health" "Probes"])]

end Bearer.Http.OpenApi
