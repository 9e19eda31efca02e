import Bearer.Proofs.Site.Request
import Bearer.Proofs.Token.RoundTrip

/-!
# Histories of a site

A site lives through a list of occurrences: it answers requests, its store is switched off and on,
the directory changes, and time passes. Requests take no time. The clock never goes back.

Main statements: `now_le_after`, and `live?_step`, which says what no occurrence but a login or a
logout changes.
-/

namespace Bearer

/-- What can happen to a site. -/
inductive Occurrence where
  /-- A request is answered. -/
  | request (request : Request)
  /-- The store is switched on or off. -/
  | switch (available : Bool)
  | change (directory : Directory)
  /-- Time passes. -/
  | wait (span : Duration)

namespace Site

/-- The site after an occurrence. -/
def step (service : Service) (site : Site) : Occurrence → Site
  | .request request => (site.handle service request).state
  | .switch available => { site with store := { site.store with available } }
  | .change directory => { site with directory }
  | .wait span => site.advance span

/-- The site after a list of occurrences. -/
def after (service : Service) (site : Site) (occurrences : List Occurrence) : Site :=
  occurrences.foldl (step service) site

variable {service : Service} {site : Site}

@[simp]
theorem after_nil : site.after service [] = site := rfl

@[simp]
theorem after_cons (occurrence : Occurrence) (rest : List Occurrence) :
    site.after service (occurrence :: rest) = (site.step service occurrence).after service rest :=
  rfl

/-! ## The clock and the switch of the store -/

@[simp]
theorem now_step_request (request : Request) :
    (site.step service (.request request)).now = site.now :=
  now_run site _

@[simp]
theorem now_step_wait (span : Duration) :
    (site.step service (.wait span)).now = site.now.add span := rfl

@[simp]
theorem available_step_request (request : Request) :
    (site.step service (.request request)).store.available = site.store.available :=
  available_run site _

@[simp]
theorem available_step_wait (span : Duration) :
    (site.step service (.wait span)).store.available = site.store.available := rfl

/-- Time does not go back. -/
theorem now_le_step (occurrence : Occurrence) : site.now ≤ (site.step service occurrence).now := by
  cases occurrence with
  | request request =>
    rw [now_step_request]
    exact Time.le_refl _
  | wait span => exact Time.le_add _ _
  | _ => exact Time.le_refl _

/-- The clock never goes back. -/
theorem now_le_after (occurrences : List Occurrence) :
    site.now ≤ (site.after service occurrences).now := by
  induction occurrences generalizing site with
  | nil => exact Time.le_refl _
  | cons occurrence rest ih => exact Time.le_trans (now_le_step occurrence) ih

/-! ## What the store shows -/

/-- An occurrence is no request whose program writes under a key. -/
def Leaves (service : Service) (site : Site) (key : String) : Occurrence → Prop
  | .request request => (request.program service site.now).Within (Effect.Leaves key)
  | _ => True

/-- What the store shows under a key, from now on, is changed by no occurrence but a request that
writes under the key. -/
theorem live?_step {occurrence : Occurrence} {key : String}
    (h : Leaves service site key occurrence) {later : Time}
    (hle : (site.step service occurrence).now ≤ later) :
    (site.step service occurrence).store.live? key later = site.store.live? key later := by
  cases occurrence with
  | request request => exact live?_run h site (Time.le_trans (now_le_step _) hle)
  | _ => rfl

end Site

/-! ## A site to try things with -/

/-- A service to try things with. -/
def Service.sample : Service where
  secret := Token.sampleSecret
  lifetime := Duration.ofSeconds 3600
  lockout := ⟨Lockout.Policy.standard, .failClosed⟩
  onRevocationOutage := .failClosed
  secureCookies := true
  trustForwarded := false

/-- A site without users, some minutes into the epoch. -/
def Site.sample : Site where
  now := Time.ofSeconds 1500
  store := Store.Memory.empty
  directory := ⟨[], true⟩
  metrics := Metrics.zero

/-- A login as a remote call. -/
def Request.sampleLogin : Request := .rpcLogin ⟨[], none⟩ "a@b" "right" ⟨List.replicate 16 7⟩

/-- The logout of a token as a remote call. -/
def Request.sampleLogout : Request := .rpcLogout ⟨[], none⟩ Token.sample

/-- The sample of a logout is one of the sample token. -/
theorem Request.logout?_sampleLogout : sampleLogout.logout? = some Token.sample := by
  rw [sampleLogout, logout?, Rpc.Api.logoutToken, Token.sample, Token.trim_sign,
    if_neg (Token.sign_ne_empty _ _)]
  rfl

end Bearer
