import Bearer.Proofs.Site.History

/-!
# Revocation over histories

Over any history of a site, a token that verifies is let through exactly as long as no logout of a
token of its identity has been answered with success; during an outage the policy decides. The proof
keeps a ledger of the logouts that were answered with success beside the store, and shows that the
two agree: the store shows an entry for each token of the ledger as long as the token is good, and
it shows no entry for any other.

Main statement: `validate_after`.
-/

namespace Bearer

/-- The token that an occurrence asks to log out, if it does. -/
def Occurrence.logout? : Occurrence → Option String
  | .request asked => asked.logout?
  | _ => none

namespace Site

variable {service : Service} {site : Site}

/-- What the token says whose logout an occurrence answers with success, if it does. -/
def loggedOutBy (service : Service) (site : Site) : Occurrence → Option Claims
  | .request request =>
    if (site.handle service request).answer?.any Answer.succeeds then
      request.logout?.bind (Token.says? service.secret)
    else none
  | _ => none

/-- The ledger of a history: what the tokens say whose logouts were answered with success. -/
def loggedOut (service : Service) : Site → List Occurrence → List Claims
  | _, [] => []
  | site, occurrence :: rest =>
    (site.loggedOutBy service occurrence).toList ++
      loggedOut service (site.step service occurrence) rest

/-- A site remembers the tokens of a ledger, and no others. -/
structure Remembers (site : Site) (ledger : List Claims) : Prop where
  /-- The store shows an entry for each token of the ledger at every moment at which it is good. -/
  shown : ∀ claims ∈ ledger, ∀ later, site.now ≤ later → later.InCalendar →
    claims.isExpired later = false →
      (site.store.live? (Revocation.key claims.tokenId) later).isSome
  /-- Every token for which the store shows an entry is in the ledger. -/
  logged : ∀ tokenId, (site.store.live? (Revocation.key tokenId) site.now).isSome →
    ∃ claims ∈ ledger, claims.tokenId = tokenId

variable {ledger : List Claims}

/-! ## What an occurrence adds to the ledger -/

/-- A logout is answered with success exactly if that of the service succeeds. -/
theorem loggedOutBy_of_logout? {request : Request} {token : String}
    (h : request.logout? = some token) :
    site.loggedOutBy service (.request request) =
      if (site.run (service.logout token site.now).run).answer?.any Except.isOk then
        Token.says? service.secret token
      else none := by
  have hsucceeds : (site.handle service request).answer?.any Answer.succeeds =
      (site.run (service.logout token site.now).run).answer?.any Except.isOk := by
    rw [Request.handle_of_logout? h, Program.Run.map]
    cases (site.run (service.logout token site.now).run).answer? with
    | none => rfl
    | some result => exact Request.succeeds_reportLogout service site.now request result
  rw [loggedOutBy, hsucceeds, h]
  rfl

/-- While the store answers, the logout of every token that holds is answered with success. -/
theorem loggedOutBy_of_decode {request : Request} {token : String} {claims : Claims}
    (h : request.logout? = some token) (hup : site.store.available) (hcal : site.now.InCalendar)
    (hdecode : Token.decode service.secret token site.now = .ok claims) :
    site.loggedOutBy service (.request request) = some claims := by
  obtain ⟨hsay, -⟩ := Token.decode_eq_ok_iff.mp hdecode
  rw [loggedOutBy_of_logout? h]
  -- a token that has run out is logged out with success too, without a word to the store
  cases hleft : claims.remaining? site.now with
  | none =>
    rw [Service.run_logout_of_expired hdecode hleft]
    exact hsay
  | some ttl =>
    rw [Service.run_logout_of_good hdecode hleft hup hcal]
    exact hsay

/-- A request for a logout, over whatever channel, runs the logout of its token. -/
theorem step_of_logout? {request : Request} {token : String} (h : request.logout? = some token) :
    site.step service (.request request) =
      (site.run (service.logout token site.now).run).state := by
  rw [step, Request.handle_of_logout? h]
  rfl

/-- What is added to the ledger is what the token says that was presented. -/
theorem says?_of_mem_loggedOutBy {occurrence : Occurrence} {claims : Claims}
    (h : claims ∈ site.loggedOutBy service occurrence) :
    ∃ token, occurrence.logout? = some token ∧ Token.says? service.secret token = some claims := by
  cases occurrence with
  | request request =>
    rw [loggedOutBy] at h
    split at h
    · exact Option.bind_eq_some_iff.mp (Option.mem_def.mp h)
    · cases h
  | _ => cases h

/-- What is in the ledger is what the tokens say that were presented. -/
theorem says?_of_mem_loggedOut {occurrences : List Occurrence} {claims : Claims}
    (h : claims ∈ site.loggedOut service occurrences) :
    ∃ token ∈ occurrences.filterMap Occurrence.logout?,
      Token.says? service.secret token = some claims := by
  induction occurrences generalizing site with
  | nil => cases h
  | cons occurrence rest ih =>
    rw [loggedOut] at h
    rcases List.mem_append.mp h with hfirst | hrest
    · obtain ⟨token, hlogout, hsay⟩ := says?_of_mem_loggedOutBy (Option.mem_toList.mp hfirst)
      exact ⟨token, List.mem_filterMap.mpr ⟨occurrence, List.mem_cons_self, hlogout⟩, hsay⟩
    · obtain ⟨token, hmem, hsay⟩ := ih hrest
      obtain ⟨other, hother, hlogout⟩ := List.mem_filterMap.mp hmem
      exact ⟨token, List.mem_filterMap.mpr ⟨other, List.mem_cons_of_mem _ hother, hlogout⟩, hsay⟩

/-! ## The ledger and the store -/

/-- What the store shows from now on decides what a site remembers. -/
theorem Remembers.of_live? {site' : Site} (h : site.Remembers ledger) (hnow : site.now ≤ site'.now)
    (hlive : ∀ tokenId later, site'.now ≤ later →
      site'.store.live? (Revocation.key tokenId) later =
        site.store.live? (Revocation.key tokenId) later) :
    site'.Remembers ledger where
  shown claims hmem later hle hcal hgood := by
    rw [hlive _ _ hle]
    exact h.shown claims hmem later (Time.le_trans hnow hle) hcal hgood
  logged tokenId hshown := by
    rw [hlive _ _ (Time.le_refl _)] at hshown
    obtain ⟨entry, hentry⟩ := Option.isSome_iff_exists.mp hshown
    refine h.logged tokenId (Option.isSome_iff_exists.mpr ⟨entry, ?_⟩)
    exact site.store.live?_eq_some_of_le _ hnow hentry

/-- There is nothing to remember of a token that has run out. -/
theorem Remembers.append_expired (h : site.Remembers ledger) {claims : Claims}
    (hexpired : claims.isExpired site.now) : site.Remembers (ledger ++ [claims]) where
  shown other hmem later hle hcal hgood := by
    rcases List.mem_append.mp hmem with hold | hnew
    · exact h.shown other hold later hle hcal hgood
    · -- it is good at no later moment, since it is not good now
      rw [List.mem_singleton.mp hnew] at hgood
      rw [Claims.isExpired_of_le hle hgood] at hexpired
      cases hexpired
  logged tokenId hshown := by
    obtain ⟨claims, hmem, hid⟩ := h.logged tokenId hshown
    exact ⟨claims, List.mem_append_left _ hmem, hid⟩

/-- A good token is remembered once there is an entry for it that lives for what is left of it. -/
theorem Remembers.append_inserted {site' : Site} (h : site.Remembers ledger)
    (hcal : site.now.InCalendar) {claims : Claims} {ttl : Duration}
    (hleft : claims.remaining? site.now = some ttl)
    (hagree : ∀ old ∈ ledger, old.tokenId = claims.tokenId → old.expiry = claims.expiry)
    (hnow : site'.now = site.now)
    (hstore : site'.store = site.store.insert (Revocation.key claims.tokenId)
      ⟨Revocation.marker, some (site.now.add ttl)⟩) :
    site'.Remembers (ledger ++ [claims]) where
  shown other hmem later hle hlater hgood := by
    rw [hnow] at hle
    rw [hstore, Store.Memory.live?_insert]
    by_cases hid : other.tokenId = claims.tokenId
    · -- the new entry replaces the old one, and lives as long since the tokens expire together
      have hexpiry : other.expiry = claims.expiry := by
        rcases List.mem_append.mp hmem with hold | hnew
        · exact hagree other hold hid
        · rw [List.mem_singleton.mp hnew]
      have hgood' : claims.isExpired later = false := by
        rw [Claims.isExpired, ← hexpiry]
        exact hgood
      have hlive := Claims.lt_deadline_of_remaining? hcal hlater hleft hgood'
      rw [if_pos (congrArg _ hid)]
      simp [Store.Entry.isLive, hlive]
    · rw [if_neg fun heq => hid (Revocation.key_inj.mp heq)]
      rcases List.mem_append.mp hmem with hold | hnew
      · exact h.shown other hold later hle hlater hgood
      · exact absurd (congrArg _ (List.mem_singleton.mp hnew)) hid
  logged tokenId hshown := by
    by_cases hid : claims.tokenId = tokenId
    · exact ⟨claims, by simp, hid⟩
    · rw [hstore, hnow, Store.Memory.live?_insert,
        if_neg fun heq => hid (Revocation.key_inj.mp heq).symm] at hshown
      obtain ⟨claims, hmem, hid⟩ := h.logged tokenId hshown
      exact ⟨claims, List.mem_append_left _ hmem, hid⟩

/-! ## Steps and histories -/

/-- An answered logout adds to the ledger what the site then remembers. -/
theorem remembers_logout {request : Request} {token : String} (h : request.logout? = some token)
    (hcal : site.now.InCalendar) (hledger : site.Remembers ledger)
    (hagree : ∀ old ∈ ledger, ∀ new ∈ site.loggedOutBy service (.request request),
      old.tokenId = new.tokenId → old.expiry = new.expiry) :
    (site.step service (.request request)).Remembers
      (ledger ++ (site.loggedOutBy service (.request request)).toList) := by
  rw [loggedOutBy_of_logout? h] at hagree ⊢
  rw [step_of_logout? h]
  -- a logout that is not acknowledged leaves both as they are
  have hnothing : site.Remembers (ledger ++ (none : Option Claims).toList) := by
    rw [Option.toList_none, List.append_nil]
    exact hledger
  cases hdecode : Token.decode service.secret token site.now with
  | error refusal =>
    rw [Service.run_logout_of_refused hdecode]
    exact hnothing
  | ok claims =>
    obtain ⟨hsay, -⟩ := Token.decode_eq_ok_iff.mp hdecode
    cases hleft : claims.remaining? site.now with
    | none =>
      -- an expired token needs no entry
      rw [Service.run_logout_of_expired hdecode hleft, hsay]
      exact hledger.append_expired ((Claims.remaining?_isNone_iff hcal).mp hleft)
    | some ttl =>
      by_cases hup : site.store.available
      · rw [Service.run_logout_of_good hdecode hleft hup hcal, hsay] at *
        exact hledger.append_inserted hcal hleft (fun old hold => hagree old hold claims rfl)
          rfl rfl
      · rw [Service.run_logout_of_outage hdecode hleft (by simpa using hup)]
        exact hnothing

/-- An occurrence keeps the site and the ledger in agreement. -/
theorem remembers_step (occurrence : Occurrence)
    (hcal : site.now.InCalendar) (hledger : site.Remembers ledger)
    (hagree : ∀ old ∈ ledger, ∀ new ∈ site.loggedOutBy service occurrence,
      old.tokenId = new.tokenId → old.expiry = new.expiry) :
    (site.step service occurrence).Remembers
      (ledger ++ (site.loggedOutBy service occurrence).toList) := by
  -- all occurrences but logouts add nothing and write under no key of a token
  have hquiet (hnone : site.loggedOutBy service occurrence = none)
      (hleaves : ∀ tokenId, Leaves service site (Revocation.key tokenId) occurrence) :
      (site.step service occurrence).Remembers
        (ledger ++ (site.loggedOutBy service occurrence).toList) := by
    rw [hnone, Option.toList_none, List.append_nil]
    exact hledger.of_live? (now_le_step _) fun tokenId later hle => live?_step (hleaves tokenId) hle
  cases occurrence with
  | request request =>
    cases hlogout : request.logout? with
    | some token => exact remembers_logout hlogout hcal hledger hagree
    | none =>
      refine hquiet ?_ fun tokenId => Request.program_leaves ?_ ?_
      · rw [loggedOutBy, hlogout]
        split <;> rfl
      · intro attempt address _ _
        exact Revocation.key_ne_lockoutKey _ _ _
      · intro token claims htoken
        rw [hlogout] at htoken
        cases htoken
  | _ => exact hquiet rfl fun _ => trivial

/-- A history keeps the site and the ledger in agreement, if the tokens that are logged out expire
together whenever they have the same identity. -/
theorem remembers_after {occurrences : List Occurrence} (hledger : site.Remembers ledger)
    (hstart : site.now.InCalendar) (hend : (site.after service occurrences).now.InCalendar)
    (hagree : ∀ old ∈ ledger ++ site.loggedOut service occurrences,
      ∀ new ∈ ledger ++ site.loggedOut service occurrences,
        old.tokenId = new.tokenId → old.expiry = new.expiry) :
    (site.after service occurrences).Remembers (ledger ++ site.loggedOut service occurrences) := by
  induction occurrences generalizing site ledger with
  | nil =>
    rw [loggedOut, List.append_nil]
    exact hledger
  | cons occurrence rest ih =>
    rw [loggedOut, ← List.append_assoc] at hagree ⊢
    -- what the first occurrence adds belongs to the ledger that the rest starts from
    refine ih ?_ ?_ hend hagree
    · refine remembers_step occurrence hstart hledger fun old hold new hnew => ?_
      refine hagree old ?_ new ?_
      · exact List.mem_append_left _ (List.mem_append_left _ hold)
      · exact List.mem_append_left _ (List.mem_append_right _ (Option.mem_toList.mpr hnew))
    · exact hstart.of_le hend (now_le_step _) (now_le_after rest)

/-- A site without entries remembers an empty ledger. -/
theorem remembers_nil (h : site.store.entries = []) : site.Remembers [] where
  shown claims hmem := by cases hmem
  logged tokenId hshown := by
    rw [Store.Memory.live?, Store.Memory.find?, h] at hshown
    cases hshown

/-- What a site recalls of a token that verifies is whether the ledger has its identity. -/
theorem Remembers.isSome_live?_iff {claims : Claims} (h : site.Remembers ledger)
    (hcal : site.now.InCalendar) (hgood : claims.isExpired site.now = false)
    (hagree : ∀ old ∈ ledger, old.tokenId = claims.tokenId → old.expiry = claims.expiry) :
    (site.store.live? (Revocation.key claims.tokenId) site.now).isSome ↔
      ∃ earlier ∈ ledger, earlier.tokenId = claims.tokenId := by
  constructor
  · exact h.logged claims.tokenId
  · rintro ⟨earlier, hmem, hid⟩
    rw [← hid]
    refine h.shown earlier hmem site.now (Time.le_refl _) hcal ?_
    rw [Claims.isExpired, hagree earlier hmem hid]
    exact hgood

end Site

/-- What a validation against a site that remembers a ledger answers. -/
theorem Validation.answer?_of_remembers {validation : Validation} {token : String} {site : Site}
    {ledger : List Claims} (hledger : site.Remembers ledger) (hcal : site.now.InCalendar)
    (hagree : ∀ old ∈ ledger, ∀ claims, Token.says? validation.secret token = some claims →
      old.tokenId = claims.tokenId → old.expiry = claims.expiry) :
    (site.run (validation.validate token site.now).run).answer? =
      some (match Token.verify validation.secret token site.now with
        | .error refusal => .error refusal
        | .ok claims => validation.conclude claims
          (if site.store.available then
            .ok (decide (∃ earlier ∈ ledger, earlier.tokenId = claims.tokenId))
          else .error Store.Memory.outage)) := by
  cases hverify : Token.verify validation.secret token site.now with
  | error refusal => rw [run_validate_of_error hverify]
  | ok claims =>
    obtain ⟨hdecode, hgood⟩ := Token.verify_eq_ok_iff.mp hverify
    obtain ⟨hsay, -⟩ := Token.decode_eq_ok_iff.mp hdecode
    have hrecalls := hledger.isSome_live?_iff hcal hgood fun old hold => hagree old hold claims hsay
    obtain ⟨store, hrun⟩ := run_validate_of_ok site hverify
    rw [hrun, Site.recalls, ← Bool.decide_coe (Option.isSome _), decide_eq_decide.mpr hrecalls]

/-- Over any history of a site that starts without entries in its store, and in which the tokens
that are logged out and the one that is validated expire together whenever they have the same
identity: a token is let through exactly if it verifies and either the store answers and no logout
of a token of its identity was answered with success, or the store does not answer and the policy
lets tokens through then. A token that verifies is otherwise refused as revoked, or as invalid if
the store does not answer. One that does not verify is refused for that. -/
theorem Validation.validate_after (service : Service) (start : Site) (occurrences : List Occurrence)
    (token : String) (hempty : start.store.entries = []) (hstart : start.now.InCalendar)
    (hend : (start.after service occurrences).now.InCalendar)
    (hagree : Token.ExpiriesAgree service.secret
      (token :: occurrences.filterMap Occurrence.logout?)) :
    let site := start.after service occurrences
    let verified := Token.verify service.secret token site.now
    let answer? := (site.run (service.validation.validate token site.now).run).answer?
    let isLoggedOut (claims : Claims) := ∃ earlier ∈ start.loggedOut service occurrences,
      earlier.tokenId = claims.tokenId
    (∀ claims, answer? = some (.ok claims) ↔ verified = .ok claims ∧
      (site.store.available ∧ ¬isLoggedOut claims ∨
        ¬site.store.available ∧ service.onRevocationOutage = .failOpen)) ∧
    (∀ claims, verified = .ok claims → site.store.available → isLoggedOut claims →
      answer? = some (.error .revokedToken)) ∧
    (∀ claims, verified = .ok claims → ¬site.store.available →
      service.onRevocationOutage = .failClosed → answer? = some (.error .invalidToken)) ∧
    (∀ refusal, verified = .error refusal → answer? = some (.error refusal)) := by
  intro site verified answer? isLoggedOut
  have hpresented {claims : Claims} (h : claims ∈ start.loggedOut service occurrences) :
      ∃ other ∈ token :: occurrences.filterMap Occurrence.logout?,
        Token.says? service.secret other = some claims := by
    obtain ⟨other, hmem, hsay⟩ := Site.says?_of_mem_loggedOut h
    exact ⟨other, List.mem_cons_of_mem _ hmem, hsay⟩
  have hledger : site.Remembers (start.loggedOut service occurrences) := by
    refine Site.remembers_after (Site.remembers_nil hempty) hstart hend fun old hold new hnew => ?_
    obtain ⟨one, hone, hsaysOne⟩ := hpresented hold
    obtain ⟨other, hother, hsaysOther⟩ := hpresented hnew
    exact hagree one hone other hother old new hsaysOne hsaysOther
  have hanswer : answer? = some (match verified with
      | .error refusal => .error refusal
      | .ok claims => service.validation.conclude claims
        (if site.store.available then .ok (decide (isLoggedOut claims))
        else .error Store.Memory.outage)) := by
    refine answer?_of_remembers hledger hend fun old hold claims hclaims => ?_
    obtain ⟨one, hone, hsaysOne⟩ := hpresented hold
    exact hagree one hone token List.mem_cons_self old claims hsaysOne hclaims
  rw [hanswer]
  -- all that is left is to read the answer off the four cases of store and ledger
  cases verified with
  | error refusal => simp
  | ok found =>
    simp only [Except.ok.injEq, forall_eq', reduceCtorEq, false_implies, implies_true, and_true]
    by_cases hup : site.store.available
    · by_cases hout : isLoggedOut found
      · simp [conclude, hup, hout]
      · simp [conclude, hup, hout]
    · have honOutage : service.validation.onOutage = service.onRevocationOutage := rfl
      cases hpolicy : service.onRevocationOutage with
      | failOpen => simp [conclude, hup, honOutage, hpolicy]
      | failClosed => simp [conclude, hup, honOutage, hpolicy]

/-- The logout of a token as a remote call, and ten seconds that pass. -/
def Site.sampleHistory (token : String) : List Occurrence :=
  [.request (.rpcLogout ⟨[], none⟩ token), .wait (Duration.ofSeconds 10)]

/-- A good token is refused as revoked ten seconds after its logout. -/
theorem Validation.validate_after_sample :
    ((Site.sample.after Service.sample (Site.sampleHistory Token.sample)).run
      (Service.sample.validation.validate Token.sample (Time.ofSeconds 1510)).run).answer? =
        some (.error .revokedToken) := by
  have hlogout : (Request.rpcLogout ⟨[], none⟩ Token.sample).logout? = some Token.sample := by
    rw [Request.logout?, Rpc.Api.logoutToken, Token.sample, Token.trim_sign,
      if_neg (Token.sign_ne_empty _ _)]
    rfl
  have hnow : (Site.sample.after Service.sample (Site.sampleHistory Token.sample)).now =
      Time.ofSeconds 1510 := by
    rw [Site.sampleHistory, Site.after_cons, Site.after_cons, Site.after_nil, Site.now_step_wait,
      Site.now_step_request]
    decide
  have hup : (Site.sample.after Service.sample
      (Site.sampleHistory Token.sample)).store.available := by
    rw [Site.sampleHistory, Site.after_cons, Site.after_cons, Site.after_nil,
      Site.available_step_wait, Site.available_step_request]
    rfl
  -- the logout is one that was acknowledged
  have hledger : Token.sampleClaims ∈ Site.sample.loggedOut Service.sample
      (Site.sampleHistory Token.sample) := by
    have hdone : Site.sample.loggedOutBy Service.sample
        (.request (.rpcLogout ⟨[], none⟩ Token.sample)) = some Token.sampleClaims :=
      Site.loggedOutBy_of_decode hlogout rfl (by decide) (Token.decode_sample (by decide))
    rw [Site.sampleHistory, Site.loggedOut, hdone]
    exact List.mem_append_left _ (List.mem_singleton_self _)
  -- there is only one token, so no two of an id can disagree on the expiry
  have hagree : Token.ExpiriesAgree Service.sample.secret
      (Token.sample :: (Site.sampleHistory Token.sample).filterMap Occurrence.logout?) := by
    have htokens : (Site.sampleHistory Token.sample).filterMap Occurrence.logout? =
        [Token.sample] := by
      simp [Site.sampleHistory, Occurrence.logout?, hlogout]
    have hall : ∀ one ∈ Token.sample :: [Token.sample], one = Token.sample := by
      intro one hone
      simpa using hone
    rw [htokens]
    intro one hone other hother a b ha hb _
    rw [hall one hone] at ha
    rw [hall other hother, ha] at hb
    rw [Option.some.inj hb]
  have hverified : Token.verify Token.sampleSecret Token.sample (Time.ofSeconds 1510) =
      .ok Token.sampleClaims :=
    Token.verify_eq_ok_iff.mpr ⟨Token.decode_sample (by decide), by decide⟩
  obtain ⟨-, hrevoked, -⟩ := validate_after Service.sample Site.sample
    (Site.sampleHistory Token.sample) Token.sample rfl (by decide) (by rw [hnow]; decide) hagree
  rw [hnow] at hrevoked
  exact hrevoked Token.sampleClaims hverified hup ⟨_, hledger, rfl⟩

end Bearer
