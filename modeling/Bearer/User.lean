import Bearer.Claims.Basic
import Bearer.Failure
import Bearer.Uuid

/-!
# Users

What the directory of users knows about each of them. A stored record whose role is not one of the
roles is a fault of the directory, never a role by default.
-/

namespace Bearer

/-- A user as the login needs to know it. -/
structure User where
  /-- The identity that tokens are issued for. -/
  id : Uuid
  /-- The address in its one form. -/
  email : String
  role : Role
  /-- The stored hash of the password. -/
  passwordHash : String
  deriving DecidableEq

namespace User

/-- A record as it is stored. -/
structure Row where
  id : Uuid
  email : String
  role : String
  passwordHash : String

/-- The user of a stored record. -/
def ofRow? (row : Row) : Except Failure User :=
  match Role.ofName? row.role with
  | some role => .ok { id := row.id, email := row.email, role, passwordHash := row.passwordHash }
  | none => .error (.database
      ("user " ++ row.id.text ++ " has unknown role '" ++ row.role ++ "'"))

end User

/-- Why a directory of users gives no answer. -/
inductive DirectoryFault where
  /-- There is no record where one has to be. -/
  | noRecord
  /-- No connection became free in time. -/
  | noConnection
  /-- No host of the directory can be reached. -/
  | unreachable
  /-- The directory reports an error. -/
  | reported (text : String)
  deriving DecidableEq, Repr

namespace DirectoryFault

/-- How a fault is worded. -/
def message : DirectoryFault → String
  | noRecord => "no rows returned by a query that expected to return at least one row"
  | noConnection => "pool timed out while waiting for an open connection"
  | unreachable =>
    "error communicating with database: Network is unreachable (os error 101)"
  | reported text => text

/-- The failure of a request that needs the directory. -/
def toFailure (fault : DirectoryFault) : Failure := .database fault.message

end DirectoryFault

/-- A directory of users that can be out of reach. -/
structure Directory where
  users : List User
  /-- Whether the directory answers. -/
  available : Bool

/-- Finds a user by the one form of an address. -/
def Directory.find (directory : Directory) (email : String) : Except Failure (Option User) :=
  if directory.available then .ok (directory.users.find? (·.email = email))
  else .error (DirectoryFault.reported "users unavailable").toFailure

end Bearer
