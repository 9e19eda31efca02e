import Bearer.Proofs.Lockout.Key
import Bearer.Proofs.Lockout.Tally

/-!
# Spellings of an address

An address can be spelled in many ways: with blanks around it, in either case, and with different
letters whose lower case is the same. What a login looks up and what it counts under both go by the
one form of the address (`looksUp_iff`, `key_of_mem_effects`), though the counter brings what it is
given to that form by itself once more. Since the form is left alone by every step that leads to it,
the two cannot come apart.

Main statement: `spellings_agree`.
-/

namespace Bearer

/-- A directory has a user at one address only. -/
theorem Directory.email_eq_of_find {directory : Directory} {user : User} {address : String}
    (h : directory.find address = .ok (some user)) : user.email = address := by
  rw [find] at h
  split at h
  · simpa using List.find?_some (Except.ok.inj h)
  · cases h

namespace Service

variable {service : Service} {email address : String}

/-- A login of a text asks the directory for an address, on some occasion. -/
def LooksUp (service : Service) (email address : String) : Prop :=
  ∃ (site : Site) (password origin : String) (moment : Moment),
    .findUser address ∈ (site.run (service.login email password origin moment).run).effects

/-- Logins of two texts look up the same user: they ask the directory for the same address, or for
two at which it has one user. -/
def LookUpSame (service : Service) (email other : String) : Prop :=
  ∃ address₁ address₂, service.LooksUp email address₁ ∧ service.LooksUp other address₂ ∧
    (address₁ = address₂ ∨ ∃ (directory : Directory) (user : User),
      directory.find address₁ = .ok (some user) ∧ directory.find address₂ = .ok (some user))

/-- What an effect looks up, if it does, is the one form of a text. -/
def FindsFormOf (email : String) : Effect → Prop
  | .findUser address => Email.normalize? email = .ok address
  | _ => True

/-- A login looks nothing up but the one form of its text. -/
theorem login_findsFormOf (service : Service) (email password origin : String) (moment : Moment) :
    (service.login email password origin moment).run.Within (FindsFormOf email) := by
  have hnote (effect : Effect) (h : effect.IsNote) : FindsFormOf email effect := by
    cases effect with
    | note event => exact trivial
    | _ => exact h.elim
  exact login_within_each hnote fun address hemail =>
    attempt_within_each hnote hemail (fun _ => trivial) fun _ _ => trivial

/-- A login asks the directory for the one form of its text, and for nothing else. -/
theorem looksUp_iff : service.LooksUp email address ↔ Email.normalize? email = .ok address := by
  constructor
  · rintro ⟨site, password, origin, moment, hfind⟩
    exact (login_findsFormOf service email password origin moment).of_mem_effects hfind
  · intro h
    -- with an empty store nothing is locked, and so the directory is asked
    let site : Site := ⟨⟨0⟩, Store.Memory.empty, ⟨[], false⟩, Metrics.zero⟩
    refine ⟨site, "?", "", ⟨⟨0⟩, ⟨[]⟩⟩, ?_⟩
    have hfree : ¬service.lockout.policy.locks
        ((site.noted .loginRequested).store.countAt (Lockout.key address "")
          (site.noted .loginRequested).now) := service.lockout.policy.not_locks_zero
    rw [run_login_of_wellFormed h (by decide), run_attempt_of_noDirectory rfl rfl hfree]
    simp

/-- Texts of which logins look up the same user have the same form. -/
theorem LookUpSame.exists_form {other : String} (h : service.LookUpSame email other) :
    ∃ address, Email.normalize? email = .ok address ∧ Email.normalize? other = .ok address := by
  obtain ⟨address₁, address₂, h₁, h₂, hsame⟩ := h
  have heq : address₁ = address₂ := by
    rcases hsame with heq | ⟨directory, user, hfind₁, hfind₂⟩
    · exact heq
    · exact (Directory.email_eq_of_find hfind₁).symm.trans (Directory.email_eq_of_find hfind₂)
  exact ⟨address₁, looksUp_iff.mp h₁, heq ▸ looksUp_iff.mp h₂⟩

/-- What an effect calls the store for is a key. -/
def CallsFor (key : String) : Effect → Prop
  | .store call => call.key = key
  | _ => True

/-- Whatever a login asks of the store is about the pair of its text and its origin. -/
theorem key_of_mem_effects {site : Site} {password origin : String} {moment : Moment}
    {call : Store.Call}
    (h : .store call ∈ (site.run (service.login email password origin moment).run).effects) :
    call.key = Lockout.key email origin := by
  have hplain (effect : Effect) (h : effect.IsPlain) :
      CallsFor (Lockout.key email origin) effect := by
    cases effect with
    | store call => exact h.elim
    | _ => exact trivial
  have hwithin : (service.login email password origin moment).run.Within
      (CallsFor (Lockout.key email origin)) :=
    login_within hplain fun address hemail call hcall => by
      rw [← Lockout.key_of_normalize? hemail]
      exact Lockout.key_of_mem_calls hcall
  exact hwithin.of_mem_effects h

/-- Spellings with the same form are the same to a login. -/
theorem login_congr {other : String} (h : Email.normalize? email = Email.normalize? other)
    (service : Service) (password origin : String) (moment : Moment) :
    service.login email password origin moment = service.login other password origin moment := by
  rw [login, login, h]

/-- A text can be brought to the one form of an address exactly if it is well formed when it has
been trimmed and brought to lower case, which is then its form. The form is a form for good: it is
accepted as it is, trimming and lower case do not change it, and it is counted like the text. So
texts of which logins look up the same user are counted together, whatever the origin, and the count
of its text and its origin is all that a login asks the store for. And texts that are the same when
they have been trimmed and brought to lower case are accepted or refused alike, and their logins are
the same. -/
theorem spellings_agree (text : String) :
    ((∃ address, Email.normalize? text = .ok address) ↔
      Email.IsWellFormed (Text.lower (Text.trim text))) ∧
    (∀ address, Email.normalize? text = .ok address →
      address = Text.lower (Text.trim text) ∧ Email.normalize? address = .ok address ∧
        Text.trim address = address ∧ Text.lower address = address ∧
        ∀ origin, Lockout.key text origin = Lockout.key address origin) ∧
    (∀ (service : Service) (other : String), service.LookUpSame text other →
      ∀ origin, Lockout.key text origin = Lockout.key other origin) ∧
    (∀ (service : Service) (site : Site) (password origin : String) (moment : Moment)
      (call : Store.Call),
      .store call ∈ (site.run (service.login text password origin moment).run).effects →
        call.key = Lockout.key text origin) ∧
    ∀ other, Text.lower (Text.trim text) = Text.lower (Text.trim other) →
      Email.normalize? text = Email.normalize? other ∧
        ∀ (service : Service) (password origin : String) (moment : Moment),
          service.login text password origin moment =
            service.login other password origin moment := by
  refine ⟨Email.exists_normalize?_iff, fun address h => ?_, fun service other h origin => ?_,
    fun service site password origin moment call => key_of_mem_effects, fun other h => ?_⟩
  · obtain ⟨hagain, htrim, hlower⟩ := Email.settled_of_normalize? h
    exact ⟨(Email.lower_trim_of_normalize? h).1.symm, hagain, htrim, hlower, fun origin =>
      (Lockout.key_of_normalize? h origin).symm⟩
  · obtain ⟨address, htext, hother⟩ := h.exists_form
    rw [← Lockout.key_of_normalize? htext, Lockout.key_of_normalize? hother]
  · have hsame : Email.normalize? text = Email.normalize? other := Email.normalize?_congr h
    exact ⟨hsame, login_congr hsame⟩

/-- A street in capitals, whose last letter is a final sigma in lower case, and in small letters
with a blank that is no space behind it. -/
theorem spellings_agree_sample :
    let text := " ΟΔΟΣ@Example.com"
    let other := "οδος@EXAMPLE.com\u00A0"
    let site : Site := { Site.sample with directory := ⟨[], false⟩ }
    Email.normalize? text = .ok "οδος@example.com" ∧
      Lockout.key text "h" = Lockout.key "οδος@example.com" "h" ∧
      sample.LookUpSame text other ∧ Lockout.key text "h" = Lockout.key other "h" ∧
      Email.normalize? other = .ok "οδος@example.com" ∧
      ∃ call, .store call ∈ (site.run (sample.login text "?" "h" ⟨site.now, ⟨[]⟩⟩).run).effects ∧
        call.key = Lockout.key text "h" := by
  intro text other site
  have htext : Email.normalize? text = .ok "οδος@example.com" := by decide +kernel
  have hother : Email.normalize? other = .ok "οδος@example.com" := by decide +kernel
  have hlower : Text.lower (Text.trim text) = Text.lower (Text.trim other) := by decide +kernel
  have hsame : sample.LookUpSame text other :=
    ⟨_, _, looksUp_iff.mpr htext, looksUp_iff.mpr hother, .inl rfl⟩
  have hcall : .store (.count (Lockout.key "οδος@example.com" "h")) ∈
      (site.run (sample.login text "?" "h" ⟨site.now, ⟨[]⟩⟩).run).effects := by
    rw [run_login_of_wellFormed htext (by decide),
      run_attempt_of_noDirectory rfl rfl sample.lockout.policy.not_locks_zero]
    simp
  obtain ⟨-, hform, htogether, hcalls, halike⟩ := spellings_agree text
  obtain ⟨-, -, -, -, hkey⟩ := hform _ htext
  exact ⟨htext, hkey "h", hsame, htogether sample other hsame "h",
    (halike other hlower).1.symm.trans htext, _, hcall, hcalls _ _ _ _ _ _ hcall⟩

end Service

end Bearer
