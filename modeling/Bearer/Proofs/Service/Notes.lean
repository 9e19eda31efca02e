import Bearer.Proofs.Service.Login
import Bearer.Proofs.Service.Tokens
import Bearer.Proofs.Site.Counting

/-!
# What requests note

Requests note events as they go. What a login, a logout and a validation have noted at their end is
determined by how they end; that a failure has locked its pair is determined by the number that it
was counted with. All this holds wherever the store counts, whether or not it answers each call.

Main statements: `login_ensures`, `logout_ensures` and `validate_ensures`.
-/

namespace Bearer

open Program (Ensures counting)

/-- The event that an effect notes, if it does. -/
def Effect.event? : Effect → Option Event
  | .note event => some event
  | _ => none

/-- The events that effects note, in order. -/
def eventsOf (effects : List Effect) : List Event := effects.filterMap Effect.event?

/-- The events of two pieces of a run are those of the first, then those of the second. -/
theorem eventsOf_append (effects more : List Effect) :
    eventsOf (effects ++ more) = eventsOf effects ++ eventsOf more := List.filterMap_append

/-- An event occurs as often as it is noted. -/
theorem count_eventsOf (effects : List Effect) (event : Event) :
    (eventsOf effects).count event = effects.count (.note event) := by
  rw [eventsOf, List.count, List.countP_filterMap, List.count]
  congr 1
  funext effect
  cases effect with
  | note other => simp [Effect.event?]
  | _ => rfl

namespace Lockout

variable {lockout : Lockout} {key : String} {counts : String → UInt64} {window : Duration}

/-- To ask whether a key is locked notes and counts nothing. -/
theorem check_ensures :
    (lockout.check key).run.Ensures (counting window) counts fun effects result? counts' =>
      eventsOf effects = [] ∧ counts' = counts ∧
        ∃ result, result? = some result ∧ result ≠ .error .invalidCredentials := by
  rw [check_eq]
  refine Ensures.map _ (Ensures.perform fun reply? counts' h => ?_)
  obtain ⟨hreply, hcounts⟩ := h
  obtain ⟨reply, rfl⟩ := Option.isSome_iff_exists.mp hreply
  refine ⟨rfl, hcounts, _, rfl, fun hrefused => ?_⟩
  rcases pass_eq_error hrefused with h | ⟨failure, h⟩ <;> cases h

/-- To forget a key makes its number zero, at the most. -/
theorem reset_ensures :
    (lockout.reset key).run.Ensures (counting window) counts fun effects result? counts' =>
      eventsOf effects = [] ∧ Drops counts counts' ∧
        ∃ result, result? = some result ∧ result ≠ .error .invalidCredentials := by
  rw [reset, ask_eq]
  refine Ensures.map _ (Ensures.perform fun reply? counts' h => ?_)
  obtain ⟨hreply, hdrops⟩ := h
  obtain ⟨reply, rfl⟩ := Option.isSome_iff_exists.mp hreply
  refine ⟨rfl, hdrops, _, rfl, fun hrefused => ?_⟩
  obtain ⟨failure, -, h⟩ := settle_eq_error hrefused
  cases h

/-- A failure is counted and its number told, or the store does not answer and nothing is known of
the number. -/
theorem recordFailure_ensures :
    (lockout.recordFailure key).run.Ensures (counting lockout.policy.window) counts
      fun effects result? counts' => eventsOf effects = [] ∧
        ((result? = some (.ok (counts key + 1)) ∧
            counts' = Function.update counts key (counts key + 1)) ∨
          (counts' = counts ∧ (result? = some (.ok 0) ∨
            ∃ failure : Store.Failure, result? = some (.error failure.toRefusal)))) := by
  rw [recordFailure, ask_eq]
  refine Ensures.map _ (Ensures.perform fun reply? counts' h => ⟨rfl, ?_⟩)
  rcases h rfl with ⟨⟨failure, rfl⟩, hcounts⟩ | ⟨rfl, hcounts⟩
  · refine .inr ⟨hcounts, ?_⟩
    rw [Option.map_some, settle]
    cases lockout.onOutage with
    | failOpen => exact .inl rfl
    | failClosed => exact .inr ⟨failure, rfl⟩
  · exact .inl ⟨rfl, hcounts⟩

end Lockout

variable {counts : String → UInt64}

namespace Service

variable {service : Service} {email password origin address key : String} {moment : Moment}

/-- What an attempt has noted, how it ends and what the numbers are then. -/
inductive Course (service : Service) (counts : String → UInt64) :
    List Event → Except Failure Grant → (String → UInt64) → Prop where
  /-- It fails, but is not taken for wrong. -/
  | refused {failure : Failure} {counts' : String → UInt64}
    (h : failure ≠ .refusal .invalidCredentials) (hdrops : Drops counts counts') :
    Course service counts [] (.error failure) counts'
  /-- It succeeds. -/
  | issued {grant : Grant} {counts' : String → UInt64} (hdrops : Drops counts counts') :
    Course service counts [.tokenIssued] (.ok grant) counts'
  /-- It is wrong, and the store does not count it. -/
  | uncounted : Course service counts [.loginFailed] (.error (.refusal .invalidCredentials)) counts
  /-- It is wrong, and is counted. It locks its pair if its number is the one that locks. -/
  | counted (key : String) :
    Course service counts
      (.loginFailed :: if counts key + 1 = service.lockout.policy.maxAttempts then
        [.loginLockedOut] else [])
      (.error (.refusal .invalidCredentials)) (Function.update counts key (counts key + 1))

/-- The condition that an end of an attempt is one of its courses. -/
def Courses (service : Service) (counts : String → UInt64) (effects : List Effect)
    (result? : Option (Except Failure Grant)) (counts' : String → UInt64) : Prop :=
  ∃ result, result? = some result ∧ service.Course counts (eventsOf effects) result counts'

/-- A failure other than wrong credentials, before which nothing was noted, is one of the courses.
-/
theorem Courses.refused {effects : List Effect} {failure : Failure} {counts' : String → UInt64}
    (hquiet : eventsOf effects = []) (hfailure : failure ≠ .refusal .invalidCredentials)
    (hdrops : Drops counts counts') :
    service.Courses counts effects (some (.error failure)) counts' := by
  refine ⟨_, rfl, ?_⟩
  rw [hquiet]
  exact .refused hfailure hdrops

/-- Effects that note nothing make no difference to the course that an attempt then takes. -/
theorem Courses.after {effects rest : List Effect} {result? : Option (Except Failure Grant)}
    {counts' : String → UInt64} (hquiet : eventsOf effects = [])
    (h : service.Courses counts rest result? counts') :
    service.Courses counts (effects ++ rest) result? counts' := by
  rw [Courses, eventsOf_append, hquiet]
  exact h

/-- To note an event is a single effect, and changes no count. -/
theorem note_ensures {event : Event} {window : Duration}
    {Q : List Effect → Option (Except Failure Unit) → (String → UInt64) → Prop}
    (h : Q [.note event] (some (.ok ())) counts) :
    (liftM (Program.note event) : Flow Unit).run.Ensures (counting window) counts Q := by
  refine Ensures.lift (Ensures.perform fun reply? counts' hreply => ?_)
  obtain ⟨hsome, rfl⟩ := hreply
  obtain ⟨_, rfl⟩ := Option.isSome_iff_exists.mp hsome
  exact h

/-- An event that is noted first is the first one. -/
theorem note_bind_ensures {α : Type} {event : Event} {f : Unit → Flow α} {window : Duration}
    {Q : List Effect → Option (Except Failure α) → (String → UInt64) → Prop}
    (h : (f ()).run.Ensures (counting window) counts fun rest => Q (.note event :: rest)) :
    ((liftM (Program.note event) : Flow Unit) >>= f).run.Ensures (counting window) counts Q :=
  Ensures.flow_bind (note_ensures h)

/-- What is left of a failed login when the failure has been recorded. -/
def tellFailure (service : Service) (count : UInt64) : Flow Grant := do
  Program.note .loginFailed
  if count = service.lockout.policy.maxAttempts then Program.note .loginLockedOut
  throw (.refusal .invalidCredentials)

/-- A counted failure is noted, and as a lock if its number is the one that locks; the credentials
are told to be wrong. -/
theorem tellFailure_ensures (window : Duration) (count : UInt64) :
    (service.tellFailure count).run.Ensures (counting window) counts fun effects result? counts' =>
      eventsOf effects = .loginFailed :: (if count = service.lockout.policy.maxAttempts then
          [.loginLockedOut] else []) ∧
        result? = some (.error (.refusal .invalidCredentials)) ∧ counts' = counts := by
  rw [tellFailure]
  refine note_bind_ensures ?_
  split
  · refine note_bind_ensures ?_
    exact ⟨rfl, rfl, rfl⟩
  · exact ⟨rfl, rfl, rfl⟩

/-- What is done about a wrong password is one of the courses. -/
theorem failLogin_ensures :
    (service.failLogin key).run.Ensures (counting service.lockout.policy.window) counts
      (service.Courses counts) := by
  change (refusable (service.lockout.recordFailure key) >>= service.tellFailure).run.Ensures _ _ _
  refine Ensures.flow_bind (Ensures.adapt _ (Lockout.recordFailure_ensures.mono ?_))
  rintro effects result? counts' ⟨hnoted, ⟨rfl, rfl⟩ | ⟨rfl, rfl | ⟨failure, rfl⟩⟩⟩
  · refine (tellFailure_ensures _ _).mono ?_
    rintro rest _ _ ⟨hrest, rfl, rfl⟩
    refine ⟨_, rfl, ?_⟩
    rw [eventsOf_append, hnoted, hrest]
    exact .counted key
  · -- zero stands for a number that is not known, and locks nobody
    refine (tellFailure_ensures _ _).mono ?_
    rintro rest _ _ ⟨hrest, rfl, rfl⟩
    refine ⟨_, rfl, ?_⟩
    rw [eventsOf_append, hnoted, hrest, if_neg service.lockout.policy.maxAttempts_ne_zero.symm]
    exact .uncounted
  · refine Courses.refused hnoted (fun h => ?_) (Drops.refl _)
    cases h

/-- What is done for a right password is one of the courses. -/
theorem grant_ensures (user : User) (window : Duration) :
    (service.grant key user moment).run.Ensures (counting window) counts
      (service.Courses counts) := by
  rw [grant]
  refine Ensures.flow_bind (Ensures.adapt _ (Lockout.reset_ensures.mono ?_))
  rintro effects _ counts' ⟨hnoted, hdrops, result, rfl, hrefusal⟩
  cases result with
  | error refusal =>
    refine Courses.refused hnoted (fun h => hrefusal ?_) hdrops
    exact congrArg Except.error (Failure.refusal.inj h)
  | ok _ =>
    refine Ensures.flow_bind (Ensures.adapt _ (Ensures.liftExcept ?_))
    cases hissue : Token.issue service.secret user.id.text user.role service.lifetime moment.now
        moment.fresh.text with
    | error refusal =>
      -- what cannot be issued is a fault of the settings, and not of the credentials
      obtain ⟨detail, rfl⟩ := Token.eq_configuration_of_issue hissue
      refine Courses.refused ?_ (fun h => ?_) hdrops
      · rw [List.append_nil, hnoted]
      · cases h
    | ok issued =>
      refine note_bind_ensures ⟨_, rfl, ?_⟩
      rw [List.nil_append, eventsOf_append, hnoted]
      exact .issued hdrops

/-- Whether or not a user was found, an attempt ends in one of the courses. -/
theorem settleAttempt_ensures (user? : Option User) :
    (service.settleAttempt key moment user?).run.Ensures
      (counting service.lockout.policy.window) counts (service.Courses counts) := by
  cases user? with
  | some user => exact grant_ensures user _
  | none => exact failLogin_ensures

/-- From the check of the password on, an attempt takes one of the courses. -/
theorem verify_ensures (user? : Option User) :
    (service.verify password key moment user?).run.Ensures
      (counting service.lockout.policy.window) counts (service.Courses counts) := by
  rw [verify]
  refine Ensures.flow_bind (Ensures.lift (Ensures.perform fun verified? _ hchecked => ?_))
  obtain ⟨hsome, rfl⟩ := hchecked
  obtain ⟨verified, rfl⟩ := Option.isSome_iff_exists.mp hsome
  exact (settleAttempt_ensures _).mono fun _ _ _ => Courses.after rfl

/-- From the lookup on, an attempt takes one of the courses. -/
theorem lookUp_ensures :
    (service.lookUp address password key moment).run.Ensures
      (counting service.lockout.policy.window) counts (service.Courses counts) := by
  rw [lookUp]
  refine Ensures.flow_bind (Ensures.perform fun user? counts' hfound => ?_)
  obtain ⟨hsome, rfl, hdirectory⟩ := hfound
  obtain ⟨found, rfl⟩ := Option.isSome_iff_exists.mp hsome
  cases found with
  | error failure =>
    obtain ⟨detail, rfl⟩ := hdirectory failure rfl
    refine Courses.refused rfl (fun h => ?_) (Drops.refl _)
    cases h
  | ok user? => exact (verify_ensures _).mono fun _ _ _ => Courses.after rfl

/-- An attempt takes one of the courses. -/
theorem attempt_ensures :
    (service.attempt address password origin moment).run.Ensures
      (counting service.lockout.policy.window) counts (service.Courses counts) := by
  rw [attempt_eq]
  refine Ensures.flow_bind (Ensures.adapt _ (Lockout.check_ensures.mono ?_))
  rintro effects _ _ ⟨hnoted, rfl, result, rfl, hrefusal⟩
  -- either the check refuses, or the lookup takes its course
  cases result with
  | error refusal =>
    refine Courses.refused hnoted (fun h => hrefusal ?_) (Drops.refl _)
    exact congrArg Except.error (Failure.refusal.inj h)
  | ok _ => exact lookUp_ensures.mono fun _ _ _ => Courses.after hnoted

/-- A login notes that it was asked for, and then what its course is. It does not stop before its
end. -/
theorem login_ensures (service : Service) (email password origin : String) (moment : Moment) :
    (service.login email password origin moment).run.Ensures
      (counting service.lockout.policy.window) counts fun effects result? counts' =>
        ∃ events result, eventsOf effects = .loginRequested :: events ∧ result? = some result ∧
          service.Course counts events result counts' := by
  have hmalformed {detail : String} :
      Failure.validation detail ≠ .refusal .invalidCredentials := by
    intro h
    cases h
  rw [login]
  refine note_bind_ensures (Ensures.flow_bind (Ensures.liftExcept ?_))
  cases hemail : Email.normalize? email with
  | error failure =>
    obtain ⟨detail, rfl⟩ := Email.validation_of_normalize? hemail
    -- a text that is no address is told as such, and not as wrong credentials
    exact ⟨[], _, rfl, rfl, .refused hmalformed (Drops.refl _)⟩
  | ok address =>
    dsimp only
    split
    · exact ⟨[], _, rfl, rfl, .refused hmalformed (Drops.refl _)⟩
    · refine attempt_ensures.mono ?_
      rintro rest result? counts' ⟨result, hresult, hcourse⟩
      exact ⟨_, result, rfl, hresult, hcourse⟩

/-- The token of a logout holds and is good for some time yet. -/
def revokes (service : Service) (token : String) (now : Time) : Bool :=
  match Token.decode service.secret token now with
  | .ok claims => (claims.remaining? now).isSome
  | .error _ => false

/-- A logout notes a revocation exactly if it succeeds with a token that was still good. It counts
nothing. -/
theorem logout_ensures (service : Service) (token : String) (now : Time) (window : Duration) :
    (service.logout token now).run.Ensures (counting window) counts fun effects result? counts' =>
      Drops counts counts' ∧
        eventsOf effects = if result?.any (·.isOk) && service.revokes token now then
          [.tokenRevoked] else [] := by
  cases hdecode : Token.decode service.secret token now with
  | error refusal =>
    have hrevokes : service.revokes token now = false := by
      rw [revokes, hdecode]
    rw [hrevokes, logout, hdecode]
    simp only [Bool.and_false]
    exact ⟨Drops.refl _, rfl⟩
  | ok claims =>
    have hrevokes : service.revokes token now = (claims.remaining? now).isSome := by
      rw [revokes, hdecode]
    rw [hrevokes, logout, hdecode]
    change (ite _ _ _ : Flow Unit).run.Ensures _ _ _
    -- whether anything is revoked is whether there is time left
    cases hleft : claims.remaining? now with
    | none =>
      simp only [Option.isSome_none, Bool.and_false]
      exact ⟨Drops.refl _, rfl⟩
    | some ttl =>
      simp only [Option.isSome_some, Bool.and_true, if_true]
      refine Ensures.flow_bind (Ensures.adapt _ ?_)
      rw [Revocation.revokeClaims, hleft]
      dsimp only
      rw [Revocation.revoke]
      split
      · refine Ensures.done (note_ensures ?_)
        exact ⟨Drops.refl _, rfl⟩
      · refine Ensures.perform fun reply? counts' h => ?_
        have hdrops : Drops counts counts' := h (by decide)
        -- the revocation is noted only after the store has kept it
        rcases reply? with _ | failure | _
        · exact ⟨hdrops, rfl⟩
        · exact ⟨hdrops, rfl⟩
        · refine note_ensures ?_
          exact ⟨hdrops, rfl⟩

end Service

/-- A validation notes and counts nothing. -/
theorem Validation.validate_ensures (validation : Validation) (token : String) (now : Time)
    (window : Duration) :
    (validation.validate token now).run.Ensures (counting window) counts
      fun effects result? counts' =>
        counts' = counts ∧ eventsOf effects = [] ∧ ∃ result, result? = some result := by
  cases hverify : Token.verify validation.secret token now with
  | error refusal =>
    rw [validate_of_error hverify]
    exact ⟨rfl, rfl, _, rfl⟩
  | ok claims =>
    rw [validate_of_ok hverify]
    refine Ensures.map _ (Ensures.perform fun reply? counts' h => ?_)
    obtain ⟨hsome, hcounts⟩ := h
    obtain ⟨reply, rfl⟩ := Option.isSome_iff_exists.mp hsome
    exact ⟨hcounts, rfl, _, rfl⟩

/-- A validation by the service notes a failure exactly if it fails. It counts nothing. -/
theorem Service.validate_ensures (service : Service) (token : String) (now : Time)
    (window : Duration) :
    (service.validate token now).run.Ensures (counting window) counts fun effects result? counts' =>
      counts' = counts ∧ ∃ result, result? = some result ∧
        eventsOf effects = if result.isOk then [] else [.validationFailed] := by
  rw [validate, ExceptT.run_mk]
  refine Ensures.bind ((service.validation.validate_ensures token now window).mono ?_)
  rintro effects _ _ ⟨rfl, hnoted, result, rfl⟩
  cases result with
  | ok claims =>
    refine ⟨rfl, _, rfl, ?_⟩
    rw [eventsOf_append, hnoted]
    rfl
  -- the failure is noted by the service, after what the validation did
  | error refusal =>
    refine Ensures.bind (Ensures.perform fun reply? _ hreply => ?_)
    obtain ⟨hsome, rfl⟩ := hreply
    obtain ⟨_, rfl⟩ := Option.isSome_iff_exists.mp hsome
    refine ⟨rfl, _, rfl, ?_⟩
    rw [eventsOf_append, hnoted]
    rfl

end Bearer
