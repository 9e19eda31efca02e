import Bearer.Refusal
import Bearer.Time

/-!
# Claims

What a token says: whom it stands for, in which role, under which identity, and for how long. Times
are whole seconds since the epoch. A token is good through the whole second of its expiry.

Arithmetic on milliseconds stays within sixty-four bits with sign: a value beyond is replaced by the
nearest one within.
-/

namespace Bearer

/-- The roles a user can have. -/
inductive Role where
  | admin
  | employee
  deriving DecidableEq, Repr

namespace Role

/-- The word for a role. -/
def name : Role → String
  | admin => "admin"
  | employee => "employee"

/-- Reads the word for a role, exactly as it is written. -/
def ofName? (name : String) : Option Role :=
  if name = "admin" then some admin
  else if name = "employee" then some employee
  else none

/-- A role is read back from its name. -/
@[simp]
theorem ofName?_name (role : Role) : ofName? role.name = some role := by
  cases role <;> rfl

end Role

/-- What a token says. -/
structure Claims where
  /-- Whom the token stands for. -/
  subject : String
  /-- The role of the subject. -/
  role : Role
  /-- The identity of the token itself. -/
  tokenId : String
  /-- The second in which it was issued. -/
  issuedAt : Int64
  /-- The last second in which it is good. -/
  expiry : Int64
  deriving DecidableEq

namespace Claims

def firstSecond : Int := -8334601228800

def lastSecond : Int := 8210266876799

def lastMoment : Time := ⟨lastSecond * 1000000000 + 999999999⟩

/-- The moment of expiry as it is reported; one outside the calendar is reported as its end. -/
def expiresAt (claims : Claims) : Time :=
  if firstSecond ≤ claims.expiry.toInt ∧ claims.expiry.toInt ≤ lastSecond then
    Time.ofSeconds claims.expiry.toInt
  else lastMoment

def isExpired (claims : Claims) (now : Time) : Bool := now.seconds > claims.expiry.toInt

def saturate (n : Int) : Int :=
  max Int64.minValue.toInt (min n Int64.maxValue.toInt)

/-- The millisecond after the last one in which the token is good. -/
def endMillis (claims : Claims) : Int :=
  saturate (saturate (claims.expiry.toInt + 1) * 1000)

/-- How long the token is still good, unless it has run out. -/
def remaining? (claims : Claims) (now : Time) : Option Duration :=
  if claims.isExpired now then none
  else
    let left := saturate (claims.endMillis - now.millis)
    if left > 0 then some (Duration.ofMillis left.toNat) else none

end Claims
end Bearer
