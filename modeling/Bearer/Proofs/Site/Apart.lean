import Bearer.Proofs.Lockout.Key
import Bearer.Proofs.Lockout.Machine
import Bearer.Proofs.Store.Shown
import Mathlib.Data.Set.Lattice
import Mathlib.Order.CompletePartialOrder

/-!
# Requests that do not meet

A request calls the store under one key at the most: a login under that of its pair, a logout or a
validation under that of its token. No pair shares its key with a token. What a program does depends
on what is shown under its own keys only, and it changes nothing under others; so programs that have
no key in common can be run in either order. Two logouts of one token share their key, and are two
runs of one and the same program.

Main statements: `run_comm` for programs, and `Request.handle_comm` for requests.
-/

namespace Bearer

open Program (Run)

/-- An effect calls the store under some keys only, and does not ask for the counters. -/
def Effect.StaysWithin (keys : Set String) : Effect → Prop
  | .store call => call.key ∈ keys
  | .readMetrics => False
  | _ => True

/-- What is plain stays within any keys. -/
theorem Effect.IsPlain.staysWithin {effect : Effect} (h : effect.IsPlain) (keys : Set String) :
    effect.StaysWithin keys := by
  cases effect with
  | store call => exact h.elim
  | readMetrics => exact h.elim
  | _ => exact trivial

namespace Site

variable {α β : Type} {site other : Site} {keys others : Set String} {p : Program α}
  {q : Program β} {key : String}

/-- Two sites are the same to a program that calls the store under some keys only. -/
structure AgreesOn (keys : Set String) (site other : Site) : Prop where
  /-- They show the same time. -/
  now : site.now = other.now
  /-- They know the same users. -/
  directory : site.directory = other.directory
  /-- Either store answers, or neither. -/
  available : site.store.available = other.store.available
  shown : ∀ key ∈ keys, site.store.live? key site.now = other.store.live? key site.now

/-- Nobody can tell two sites apart, now or later. -/
structure LooksLike (site other : Site) : Prop where
  /-- They show the same time. -/
  now : site.now = other.now
  /-- They know the same users. -/
  directory : site.directory = other.directory
  /-- Either store answers, or neither. -/
  available : site.store.available = other.store.available
  /-- The stores show the same entries, with the same values and deadlines. -/
  shown : site.store.shown site.now = other.store.shown other.now
  metrics : site.metrics = other.metrics

/-! ## What programs see -/

/-- An effect that stays within some keys is replied with the same where they show the same, and
they show the same afterwards. -/
theorem AgreesOn.respond {effect : Effect} (h : site.AgreesOn keys other)
    (heffect : effect.StaysWithin keys) :
    (respond effect site).1 = (respond effect other).1 ∧
      (respond effect site).2.AgreesOn keys (respond effect other).2 := by
  cases effect with
  | store call =>
    obtain ⟨hreply, hown⟩ := Store.Memory.perform_of_live? h.available (h.shown call.key heffect)
    rw [Site.respond, Site.respond, ← h.now]
    refine ⟨hreply, rfl, h.directory, ?_, fun key hkey => ?_⟩
    · rw [Store.Memory.available_perform, Store.Memory.available_perform]
      exact h.available
    · -- what is not under the key of the call is as it was
      by_cases hcall : call.key = key
      · subst hcall
        exact hown
      · rw [Store.Memory.live?_perform_now _ key _ (.inr hcall),
          Store.Memory.live?_perform_now _ key _ (.inr hcall)]
        exact h.shown key hkey
  | findUser email => exact ⟨by rw [Site.respond, Site.respond, h.directory], h⟩
  | checkPassword password stored => exact ⟨rfl, h⟩
  | note event => exact ⟨rfl, h.now, h.directory, h.available, h.shown⟩
  | readMetrics => exact heffect.elim

/-- A program that stays within some keys does the same where they show the same. -/
theorem AgreesOn.run (h : site.AgreesOn keys other) (hp : p.Within (Effect.StaysWithin keys)) :
    (site.run p).answer? = (other.run p).answer? ∧
      (site.run p).effects = (other.run p).effects ∧
        (site.run p).state.AgreesOn keys (other.run p).state :=
  Program.run_alike (fun _ _ _ heffect hagree => hagree.respond heffect) hp h

/-- What is shown under other keys is left as it is. -/
theorem live?_run_of_notMem (site : Site) (hp : p.Within (Effect.StaysWithin keys))
    (hkey : key ∉ keys) :
    (site.run p).state.store.live? key site.now = site.store.live? key site.now := by
  refine live?_run (hp.mono fun effect heffect => ?_) site (Time.le_refl _)
  cases effect with
  | store call => exact .inr fun heq => hkey (heq ▸ heffect)
  | _ => exact trivial

/-- To a program that stays within some keys, one that stays within others has not been there. -/
theorem agreesOn_run (site : Site) (hq : q.Within (Effect.StaysWithin others))
    (h : Disjoint keys others) : (site.run q).state.AgreesOn keys site where
  now := now_run site q
  directory := directory_run site q
  available := available_run site q
  shown key hkey := by
    rw [now_run]
    exact site.live?_run_of_notMem hq (Set.disjoint_left.mp h hkey)

/-! ## Either order -/

/-- Under a key that the second program does not use, either order shows what the first program
leaves there. -/
theorem live?_run_run (site : Site) (hp : p.Within (Effect.StaysWithin keys))
    (hq : q.Within (Effect.StaysWithin others)) (h : Disjoint keys others) (hkey : key ∉ others) :
    ((site.run p).state.run q).state.store.live? key site.now =
      ((site.run q).state.run p).state.store.live? key site.now := by
  have hfirst := (site.run p).state.live?_run_of_notMem hq hkey
  rw [now_run] at hfirst
  rw [hfirst]
  by_cases hown : key ∈ keys
  · -- what the first program does there does not depend on the second
    have hagree := ((site.agreesOn_run hq h).run hp).2.2.shown key hown
    rw [now_run, now_run] at hagree
    exact hagree.symm
  · have hsecond := (site.run q).state.live?_run_of_notMem hp hown
    rw [now_run] at hsecond
    rw [hsecond, site.live?_run_of_notMem hp hown, site.live?_run_of_notMem hq hkey]

/-- Programs that have no key in common come to the same in either order: to the same answers, and
to sites that nobody can tell apart. -/
theorem run_comm (site : Site) (hp : p.Within (Effect.StaysWithin keys))
    (hq : q.Within (Effect.StaysWithin others)) (h : Disjoint keys others) :
    ((site.run q).state.run p).answer? = (site.run p).answer? ∧
      ((site.run p).state.run q).answer? = (site.run q).answer? ∧
        ((site.run p).state.run q).state.LooksLike ((site.run q).state.run p).state := by
  -- neither program notices that the other has been run before it
  obtain ⟨hanswer, heffects, -⟩ := (site.agreesOn_run hq h).run hp
  obtain ⟨hanswer', heffects', -⟩ := (site.agreesOn_run hp h.symm).run hq
  refine ⟨hanswer, hanswer', ?_, ?_, ?_, ?_, ?_⟩
  · simp only [now_run]
  · simp only [directory_run]
  · simp only [available_run]
  · funext key
    rw [now_run, now_run, now_run, now_run]
    -- a key is not used by the one program or not by the other
    by_cases hkey : key ∈ others
    · exact (site.live?_run_run hq hp h.symm (Set.disjoint_right.mp h hkey)).symm
    · exact site.live?_run_run hp hq h hkey
  · -- both orders note the same events, since both programs do the same in either
    rw [Metrics.mk.injEq]
    funext event
    rw [count_run, count_run, count_run, count_run, heffects, heffects']
    exact Nat.add_right_comm _ _ _

/-- What cannot be told from another cannot be told from it either. -/
theorem LooksLike.symm (h : site.LooksLike other) : other.LooksLike site :=
  ⟨h.now.symm, h.directory.symm, h.available.symm, h.shown.symm, h.metrics.symm⟩

/-- What is the same cannot be told apart. -/
theorem LooksLike.of_eq (h : site = other) : site.LooksLike other := by
  subst h
  exact ⟨rfl, rfl, rfl, rfl, rfl⟩

/-! ## One program twice -/

/-- To a program that only sets values, all that a site shows is whether its store answers. -/
theorem AgreesOn.respond_set {key value : String} {ttl : Duration} (h : site.AgreesOn ∅ other) :
    (Site.respond (.store (.set key value ttl)) site).1 =
        (Site.respond (.store (.set key value ttl)) other).1 ∧
      (Site.respond (.store (.set key value ttl)) site).2.AgreesOn ∅
        (Site.respond (.store (.set key value ttl)) other).2 := by
  rw [Site.respond, Site.respond, ← h.now]
  refine ⟨Store.Memory.perform_set_answer h.available key value ttl site.now, rfl, h.directory, ?_,
    fun _ hkey => hkey.elim⟩
  rw [Store.Memory.available_perform, Store.Memory.available_perform]
  exact h.available

/-- The logout of a token is answered the same a second time. -/
theorem answer?_logout_again (service : Service) (site : Site) (token : String) (p : Program α) :
    ((site.run p).state.run (service.logout token site.now).run).answer? =
      (site.run (service.logout token site.now).run).answer? := by
  -- a logout asks the store for nothing, so all that it sees is the time and whether it is up
  have hblind : (site.run p).state.AgreesOn ∅ site :=
    ⟨now_run site p, directory_run site p, available_run site p, fun _ hkey => hkey.elim⟩
  have hlogout : (service.logout token site.now).run.Within fun effect =>
      effect.StaysWithin ∅ ∨ ∃ key value ttl, effect = .store (.set key value ttl) := by
    refine Service.logout_within (fun effect heffect => .inl ?_) fun _ _ _ => .inr ⟨_, _, _, rfl⟩
    exact heffect.staysWithin ∅
  refine (Program.run_alike (R := AgreesOn ∅) (fun effect one two heffect hagree => ?_) hlogout
    hblind).1
  rcases heffect with hwithin | ⟨key, value, ttl, rfl⟩
  · exact hagree.respond hwithin
  · exact hagree.respond_set

end Site

namespace Request

variable {service : Service} {site : Site} {request a b : Request}

/-- What a request is for. -/
inductive Kind where
  | login
  | logout
  | validation
  /-- Something that no user is asked for: a probe, the counters, a description. -/
  | other
  deriving DecidableEq

/-- What a request is for, well formed or not. -/
def kind : Request → Kind
  | .http request _ =>
    match request.route? with
    | some .login => .login
    | some .logout => .logout
    | _ => .other
  | .rpcLogin .. => .login
  | .rpcLogout .. => .logout
  | _ => .validation

/-- The token that a request presents, to be logged out or to be validated. -/
def presents? (request : Request) : Option String := request.logout?.or request.validates?

/-- The identity of the token that a request presents. -/
def tokenId? (service : Service) (request : Request) : Option String :=
  (request.presents?.bind (Token.says? service.secret)).map (·.tokenId)

/-- The key of the pair whose login a request is. -/
def pairKey? (service : Service) (request : Request) : Option String :=
  (request.login? service).map fun attempt => Lockout.key attempt.email attempt.origin

/-- The keys under which a request can call the store: that of its pair, and that of its token. -/
def keys (service : Service) (request : Request) : Set String :=
  {key | key ∈ request.pairKey? service ∨ ∃ tokenId ∈ request.tokenId? service,
    key = Revocation.key tokenId}

/-- Two requests are independent: they are logins of pairs with different keys, or a login and a
logout or a validation, or two logouts of the same token, or of tokens with different identities, or
a validation and a logout of tokens with different identities. -/
inductive Independent (service : Service) : Request → Request → Prop where
  | logins {a b : Request} (ha : a.kind = .login) (hb : b.kind = .login)
    (h : ∀ x ∈ a.pairKey? service, ∀ y ∈ b.pairKey? service, x ≠ y) : Independent service a b
  | login {a b : Request} (ha : a.kind = .login) (hb : b.kind = .logout ∨ b.kind = .validation) :
    Independent service a b
  | sameToken {a b : Request} (ha : a.kind = .logout) (hb : b.kind = .logout)
    (h : a.logout? = b.logout?) : Independent service a b
  | logouts {a b : Request} (ha : a.kind = .logout) (hb : b.kind = .logout)
    (h : ∀ x ∈ a.tokenId? service, ∀ y ∈ b.tokenId? service, x ≠ y) : Independent service a b
  | validation {a b : Request} (ha : a.kind = .validation) (hb : b.kind = .logout)
    (h : ∀ x ∈ a.tokenId? service, ∀ y ∈ b.tokenId? service, x ≠ y) : Independent service a b
  | symm {a b : Request} (h : Independent service a b) : Independent service b a

/-! ## The keys of a request -/

/-- Only a login has the key of a pair. -/
theorem pairKey?_of_kind (h : request.kind ≠ .login) : request.pairKey? service = none := by
  rw [pairKey?, Option.map_eq_none_iff]
  cases request with
  | http request fresh =>
    refine if_neg fun hroute => h ?_
    rw [kind, hroute]
  | rpcLogin caller email password fresh => exact absurd rfl h
  | _ => rfl

/-- No login has the id of a token. -/
theorem tokenId?_of_kind (h : request.kind = .login) : request.tokenId? service = none := by
  have hnone : request.presents? = none := by
    cases request with
    | http request fresh =>
      have hroute : request.route? ≠ some .logout := by
        intro hroute
        rw [kind, hroute] at h
        cases h
      rw [presents?, logout?, if_neg hroute]
      rfl
    | rpcLogin caller email password fresh => rfl
    | _ => cases h
  rw [tokenId?, hnone]
  rfl

/-- A request calls the store under its own keys only. -/
theorem program_staysWithin (hkind : request.kind ≠ .other) (now : Time) :
    (request.program service now).Within (Effect.StaysWithin (request.keys service)) := by
  have htokenId {token : String} {claims : Claims} (hpresents : request.presents? = some token)
      (hsaid : Token.says? service.secret token = some claims) :
      Revocation.key claims.tokenId ∈ request.keys service := by
    refine .inr ⟨claims.tokenId, ?_, rfl⟩
    rw [tokenId?, hpresents, Option.bind_some, hsaid]
    rfl
  refine program_calls (fun effect h => h.staysWithin _) ?_ ?_ ?_ ?_
  · rintro asked fresh rfl hroute
    refine hkind ?_
    rw [kind, hroute]
  · intro attempt address hattempt haddress call hcall
    refine .inl ?_
    rw [pairKey?, hattempt, Lockout.key_of_mem_calls hcall, Lockout.key_of_normalize? haddress]
    rfl
  · intro token claims ttl htoken hdecode
    refine htokenId ?_ (Token.decode_eq_ok_iff.mp hdecode).1
    rw [presents?, htoken]
    rfl
  · intro token claims htoken hsaid
    refine htokenId ?_ hsaid
    -- what is to be validated is not to be logged out
    have hnone : request.logout? = none := by
      cases request with
      | rpcLogout => cases htoken
      | http => cases htoken
      | _ => rfl
    rw [presents?, hnone, htoken]
    rfl

/-- Requests have no key in common unless they are of the same pair or of the same token. -/
theorem disjoint_keys (hpair : ∀ x ∈ a.pairKey? service, ∀ y ∈ b.pairKey? service, x ≠ y)
    (htoken : ∀ x ∈ a.tokenId? service, ∀ y ∈ b.tokenId? service, x ≠ y) :
    Disjoint (a.keys service) (b.keys service) := by
  -- a key of one kind is none of the other
  have hkinds {request other : Request} {key : String} (h : key ∈ request.pairKey? service) :
      ¬∃ tokenId ∈ other.tokenId? service, key = Revocation.key tokenId := by
    rintro ⟨tokenId, -, heq⟩
    obtain ⟨attempt, -, hkey⟩ := Option.map_eq_some_iff.mp h
    exact Revocation.key_ne_lockoutKey _ _ _ (heq.symm.trans hkey.symm)
  refine Set.disjoint_left.mpr fun key ha hb => ?_
  rcases ha with ha | ⟨x, hx, hkey⟩
  · rcases hb with hb | hb
    · exact hpair key ha key hb rfl
    · exact hkinds ha hb
  · rcases hb with hb | ⟨y, hy, hkey'⟩
    · exact hkinds hb ⟨x, hx, hkey⟩
    · exact htoken x hx y hy (Revocation.key_inj.mp (hkey.symm.trans hkey'))

/-! ## Either order -/

/-- Two requests can be handled in either order: each is answered as it is without the other, and
nobody can tell the orders apart afterwards. -/
structure Commute (service : Service) (site : Site) (a b : Request) : Prop where
  /-- The first request does not notice the second. -/
  first : ((site.handle service b).state.handle service a).answer? =
    (site.handle service a).answer?
  /-- The second request does not notice the first. -/
  second : ((site.handle service a).state.handle service b).answer? =
    (site.handle service b).answer?
  left : ((site.handle service a).state.handle service b).state.LooksLike
    ((site.handle service b).state.handle service a).state

/-- Whichever of two requests is named first, they commute. -/
theorem Commute.symm (h : Commute service site a b) : Commute service site b a :=
  ⟨h.second, h.first, h.left.symm⟩

/-- Requests with no key in common commute. -/
theorem commute_of_disjoint (ha : a.kind ≠ .other) (hb : b.kind ≠ .other)
    (h : Disjoint (a.keys service) (b.keys service)) : Commute service site a b := by
  have hcomm := site.run_comm (program_staysWithin ha site.now) (program_staysWithin hb site.now) h
  obtain ⟨hfirst, hsecond, hleft⟩ := hcomm
  refine ⟨?_, ?_, ?_⟩
  · rw [Site.handle, Site.handle, Site.now_run]
    exact hfirst
  · rw [Site.handle, Site.handle, Site.now_run]
    exact hsecond
  · simp only [Site.handle, Site.now_run]
    exact hleft

/-- Two logouts of one token commute. -/
theorem commute_of_logout? {token : String} (ha : a.logout? = some token)
    (hb : b.logout? = some token) : Commute service site a b := by
  -- each of the two is a run of the one program that logs the token out
  have hstate {request : Request} (h : request.logout? = some token) (site : Site) :
      (site.handle service request).state =
        (site.run (service.logout token site.now).run).state := by
    rw [handle_of_logout? h, Run.state_map]
  have hanswer {request : Request} (h : request.logout? = some token) :
      ((site.run (service.logout token site.now).run).state.handle service request).answer? =
        (site.handle service request).answer? := by
    rw [handle_of_logout? h, handle_of_logout? h, Run.answer?_map, Run.answer?_map, Site.now_run,
      Site.answer?_logout_again]
  refine ⟨?_, ?_, Site.LooksLike.of_eq ?_⟩
  · rw [hstate hb]
    exact hanswer ha
  · rw [hstate ha]
    exact hanswer hb
  · rw [hstate hb, hstate ha, hstate ha, hstate hb]

/-- A logout without a token has no id. -/
theorem tokenId?_of_noToken (hkind : request.kind = .logout) (h : request.logout? = none) :
    request.tokenId? service = none := by
  have hnone : request.validates? = none := by
    cases request with
    | http request fresh => rfl
    | rpcLogout caller token => rfl
    | _ => cases hkind
  rw [tokenId?, presents?, h, hnone]
  rfl

/-- Requests that are independent commute. -/
theorem Independent.commute (h : Independent service a b) : Commute service site a b := by
  have hnone {request other : Request} (h : request.tokenId? service = none) :
      ∀ x ∈ request.tokenId? service, ∀ y ∈ other.tokenId? service, x ≠ y := by
    rw [h]
    nofun
  have hnoPair {request other : Request} (h : other.kind ≠ .login) :
      ∀ x ∈ request.pairKey? service, ∀ y ∈ other.pairKey? service, x ≠ y := by
    rw [pairKey?_of_kind h]
    nofun
  -- the kinds of two requests settle which of their keys there can be, and so which can meet
  induction h with
  | logins ha hb h =>
    exact commute_of_disjoint (by simp [ha]) (by simp [hb])
      (disjoint_keys h (hnone (tokenId?_of_kind ha)))
  | login ha hb =>
    exact commute_of_disjoint (by simp [ha]) (by rcases hb with hb | hb <;> simp [hb])
      (disjoint_keys (hnoPair (by rcases hb with hb | hb <;> simp [hb]))
        (hnone (tokenId?_of_kind ha)))
  | @sameToken a b ha hb h =>
    cases htoken : a.logout? with
    | some token => exact commute_of_logout? htoken (h.symm.trans htoken)
    | none =>
      -- without a token there is nothing to log out
      exact commute_of_disjoint (by simp [ha]) (by simp [hb])
        (disjoint_keys (hnoPair (by simp [hb])) (hnone (tokenId?_of_noToken ha htoken)))
  | logouts ha hb h =>
    exact commute_of_disjoint (by simp [ha]) (by simp [hb])
      (disjoint_keys (hnoPair (by simp [hb])) h)
  | validation ha hb h =>
    exact commute_of_disjoint (by simp [ha]) (by simp [hb])
      (disjoint_keys (hnoPair (by simp [hb])) h)
  | symm _ ih => exact ih.symm

/-- The calls of a login are about its pair, and those of a logout or a validation about its
token. -/
theorem key_of_call_mem {call : Store.Call} (hkind : request.kind ≠ .other)
    (h : .store call ∈ (site.handle service request).effects) :
    (request.kind = .login → call.key ∈ request.pairKey? service) ∧
      (request.kind ≠ .login →
        ∃ tokenId ∈ request.tokenId? service, call.key = Revocation.key tokenId) := by
  have hkey : call.key ∈ request.keys service :=
    (program_staysWithin hkind site.now).of_mem_effects h
  constructor
  · intro hlogin
    refine hkey.resolve_right ?_
    rw [tokenId?_of_kind hlogin]
    nofun
  · intro hother
    refine hkey.resolve_left ?_
    rw [pairKey?_of_kind hother]
    nofun

/-- On any site, its store up or down, two independent requests that are handled at the same moment
can be handled in either order. And whatever the texts in them are, the calls of a login are about
the key of its pair and no key of a token, and those of a logout or a validation about the key of
its token and no key of a pair. -/
theorem handle_comm (service : Service) (site : Site) (h : Independent service a b) :
    Commute service site a b ∧
      ∀ request call, .store call ∈ (site.handle service request).effects →
        (request.kind = .login →
          call.key ∈ request.pairKey? service ∧ ∀ tokenId, call.key ≠ Revocation.key tokenId) ∧
        (request.kind = .logout ∨ request.kind = .validation →
          (∃ tokenId ∈ request.tokenId? service, call.key = Revocation.key tokenId) ∧
            ∀ identity origin, call.key ≠ Lockout.key identity origin) := by
  refine ⟨h.commute, fun request call hcall => ⟨fun hkind => ?_, fun hkind => ?_⟩⟩
  · have hpair := (key_of_call_mem (by simp [hkind]) hcall).1 hkind
    refine ⟨hpair, fun tokenId heq => ?_⟩
    obtain ⟨attempt, -, hkey⟩ := Option.map_eq_some_iff.mp hpair
    exact Revocation.key_ne_lockoutKey _ _ _ (heq.symm.trans hkey.symm)
  · have htoken := (key_of_call_mem (by rcases hkind with hkind | hkind <;> simp [hkind]) hcall).2
      (by rcases hkind with hkind | hkind <;> simp [hkind])
    refine ⟨htoken, fun identity origin heq => ?_⟩
    obtain ⟨tokenId, -, hkey⟩ := htoken
    exact Revocation.key_ne_lockoutKey _ _ _ (hkey.symm.trans heq)

/-- A guess at a password and the logout of a token can change places, and so can two logouts of
the token. -/
theorem handle_comm_sample :
    Commute Service.sample Site.sample Lockout.Machine.sampleGuess sampleLogout ∧
      Commute Service.sample Site.sample sampleLogout sampleLogout := by
  have hguess : Independent Service.sample Lockout.Machine.sampleGuess sampleLogout :=
    .login rfl (.inl rfl)
  have htwice : Independent Service.sample sampleLogout sampleLogout := .sameToken rfl rfl rfl
  exact ⟨(handle_comm _ _ hguess).1, (handle_comm _ _ htwice).1⟩

end Request
end Bearer
