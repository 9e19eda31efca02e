import Bearer.Proofs.Email
import Bearer.Proofs.Site.History

/-!
# Which pairs are counted together

The key of a pair is its address and its origin with a colon between them. Both may hold colons
themselves: an address in front of its domain's end, and an origin of the longer family of addresses
always. So a key does not tell where its address ends, and pairs that are cut out of one text at
different colons are counted together. Nothing else is.

Main statements: `counted_together_iff` says exactly which pairs share a key, and that a login
changes nothing that is counted for a pair with another key; `counted_together_apart` shows two
hosts, each with an address of its own, that lock each other out.
-/

namespace Bearer.Text

/-- Two texts that are each joined of two with a colon are equal exactly if their parts are, or if
they were cut at different colons. -/
theorem join_eq_join_iff {a b c d : List Char} (x : Char) :
    a ++ x :: b = c ++ x :: d ↔
      (a = c ∧ b = d) ∨ (∃ w, c = a ++ x :: w ∧ b = w ++ x :: d) ∨
        ∃ w, a = c ++ x :: w ∧ d = w ++ x :: b := by
  rw [List.append_eq_append_iff]
  constructor
  · rintro (⟨_ | ⟨y, w⟩, rfl, hb⟩ | ⟨_ | ⟨y, w⟩, rfl, hd⟩)
    · rw [List.nil_append, List.cons.injEq] at hb
      exact .inl ⟨(List.append_nil a).symm, hb.2⟩
    · rw [List.cons_append, List.cons.injEq] at hb
      exact .inr (.inl ⟨w, by rw [hb.1], hb.2⟩)
    · rw [List.nil_append, List.cons.injEq] at hd
      exact .inl ⟨List.append_nil c, hd.2.symm⟩
    · rw [List.cons_append, List.cons.injEq] at hd
      exact .inr (.inr ⟨w, by rw [hd.1], hd.2⟩)
  · rintro (⟨rfl, rfl⟩ | ⟨w, rfl, rfl⟩ | ⟨w, rfl, rfl⟩)
    · exact .inl ⟨[], (List.append_nil a).symm, rfl⟩
    · exact .inl ⟨x :: w, rfl, rfl⟩
    · exact .inr ⟨x :: w, rfl, rfl⟩

end Bearer.Text

namespace Bearer.Lockout

/-- The first pair, of an address and an origin, is cut at a colon of its origin to give the
second. -/
def CutLater (address₁ origin₁ address₂ origin₂ : String) : Prop :=
  ∃ part, address₂ = address₁ ++ ":" ++ part ∧ origin₁ = part ++ ":" ++ origin₂

/-- How many colons a text has. -/
def colons (s : String) : Nat := s.toList.count ':'

/-- Joined texts have their own colons and the one that joins them. -/
theorem colons_join (s t : String) : colons (s ++ ":" ++ t) = colons s + 1 + colons t := by
  rw [colons, String.toList_append, String.toList_append, List.count_append, List.count_append]
  rfl

/-- Two pairs are joined to one text exactly if they are the same, or one is cut at a later colon
than the other. -/
theorem join_eq_join_iff {a b c d : String} :
    a ++ ":" ++ b = c ++ ":" ++ d ↔ (a = c ∧ b = d) ∨ CutLater a b c d ∨ CutLater c d a b := by
  -- a cut of texts is a cut of their characters
  have hcut (a b c d : String) : CutLater a b c d ↔
      ∃ w, c.toList = a.toList ++ ':' :: w ∧ b.toList = w ++ ':' :: d.toList := by
    constructor
    · rintro ⟨part, rfl, rfl⟩
      refine ⟨part.toList, ?_, ?_⟩ <;> simp
    · rintro ⟨w, hc, hb⟩
      refine ⟨String.ofList w, ?_, ?_⟩
      · rw [← String.toList_inj, hc]
        simp
      · rw [← String.toList_inj, hb]
        simp
  have hjoin (a b : String) : (a ++ ":" ++ b).toList = a.toList ++ ':' :: b.toList := by simp
  rw [← String.toList_inj, hjoin, hjoin, Text.join_eq_join_iff, hcut, hcut, String.toList_inj,
    String.toList_inj]

/-- The key of a pair, given the one form of its address. -/
theorem key_eq {email address : String} (h : Email.normalize? email = .ok address)
    (origin : String) :
    key email origin = "auth:login:attempts:" ++ (address ++ ":" ++ effectiveOrigin origin) := by
  have haddress := (Email.lower_trim_of_normalize? h).1
  unfold key
  rw [haddress]
  generalize "auth:login:attempts:" = label
  generalize effectiveOrigin origin = counted
  simp only [String.append_assoc]

/-- An address is counted like its one form. -/
theorem key_of_normalize? {email address : String} (h : Email.normalize? email = .ok address)
    (origin : String) : key address origin = key email origin := by
  obtain ⟨hemail, haddress⟩ := Email.lower_trim_of_normalize? h
  unfold key
  rw [hemail, haddress]

/-- Two pairs share a key exactly if they are the same as they are counted, or one is cut at a later
colon than the other. -/
theorem key_eq_key_iff {email₁ email₂ address₁ address₂ : String}
    (h₁ : Email.normalize? email₁ = .ok address₁) (h₂ : Email.normalize? email₂ = .ok address₂)
    (origin₁ origin₂ : String) :
    key email₁ origin₁ = key email₂ origin₂ ↔
      (address₁ = address₂ ∧ effectiveOrigin origin₁ = effectiveOrigin origin₂) ∨
        CutLater address₁ (effectiveOrigin origin₁) address₂ (effectiveOrigin origin₂) ∨
        CutLater address₂ (effectiveOrigin origin₂) address₁ (effectiveOrigin origin₁) := by
  rw [key_eq h₁, key_eq h₂, String.append_right_inj, join_eq_join_iff]

/-- A cut at a later colon gives the address more colons, and leaves the origin fewer. -/
theorem CutLater.colons_lt {address₁ origin₁ address₂ origin₂ : String}
    (h : CutLater address₁ origin₁ address₂ origin₂) :
    colons address₁ < colons address₂ ∧ colons origin₂ < colons origin₁ := by
  obtain ⟨part, rfl, rfl⟩ := h
  rw [colons_join, colons_join]
  omega

/-- A login changes nothing that the store shows under a key other than that of its pair. -/
theorem live?_login (service : Service) (site : Site) {email origin key : String}
    (hne : key ≠ Lockout.key email origin) (password : String) (moment : Moment) {later : Time}
    (hle : site.now ≤ later) :
    (site.run (service.login email password origin moment).run).state.store.live? key later =
      site.store.live? key later := by
  refine Site.live?_run (Service.login_within (fun effect h => h.isQuiet.leaves key) ?_) site hle
  intro address haddress call hcall
  refine .inr ?_
  rw [key_of_mem_calls hcall, key_of_normalize? haddress]
  exact hne.symm

/-- With a lockout at the first failure, a failure locks its own key, and no other one that nothing
has been counted for. -/
theorem check_after_failure {lockout : Lockout} {site : Site} {key other : String} {deadline : Time}
    (hone : lockout.policy.maxAttempts = 1) (hup : site.store.available)
    (hclean : site.store.live? key site.now = none)
    (hother : site.store.live? other site.now = none)
    (hdeadline : site.now.after? lockout.policy.window = some deadline) :
    ((site.run (lockout.recordFailure key).run).state.run (lockout.check other).run).answer? =
      some (if other = key then .error .tooManyAttempts else .ok ()) := by
  have hstarts := Store.Memory.increment_starts key site.now hclean hdeadline
  rw [Store.Memory.insert_evict] at hstarts
  have hfailed := congrArg Program.Run.state (run_recordFailure hup hstarts)
  have hup' : (site.run (lockout.recordFailure key).run).state.store.available = true := by
    rw [Site.available_run, hup]
  rw [run_check hup', hfailed, Store.Memory.countAt, Site.store_withStore, Site.now_withStore,
    Store.Memory.live?_insert]
  split
  · -- the window is not empty, so the failure is still there
    have hlive : Store.Entry.isLive ⟨Store.Memory.counterText 1, some deadline⟩ site.now := by
      obtain ⟨-, rfl⟩ := Time.after?_eq_some.mp hdeadline
      exact decide_eq_true (Time.lt_add _ lockout.policy.window_ne_zero)
    rw [Option.filter_some, if_pos hlive]
    simp [Policy.locks, hone]
  · rw [hother]
    simp [Policy.locks, hone]

/-- Two pairs of an address and an origin are counted together exactly if they are the same, the
address in its one form and the origin trimmed, or if one of them is the other cut at a later colon.
In particular they are the same if their addresses, or their origins, have equally many colons. And
a login of one pair neither adds to what is counted for a pair with another key nor forgets it. -/
theorem counted_together_iff {email₁ email₂ address₁ address₂ : String}
    (h₁ : Email.normalize? email₁ = .ok address₁) (h₂ : Email.normalize? email₂ = .ok address₂)
    (origin₁ origin₂ : String) :
    (key email₁ origin₁ = key email₂ origin₂ ↔
      (address₁ = address₂ ∧ effectiveOrigin origin₁ = effectiveOrigin origin₂) ∨
        CutLater address₁ (effectiveOrigin origin₁) address₂ (effectiveOrigin origin₂) ∨
        CutLater address₂ (effectiveOrigin origin₂) address₁ (effectiveOrigin origin₁)) ∧
    (colons address₁ = colons address₂ ∨
        colons (effectiveOrigin origin₁) = colons (effectiveOrigin origin₂) →
      key email₁ origin₁ = key email₂ origin₂ →
      address₁ = address₂ ∧ effectiveOrigin origin₁ = effectiveOrigin origin₂) ∧
    (key email₁ origin₁ ≠ key email₂ origin₂ →
      ∀ (service : Service) (site : Site) (password : String) (moment : Moment) (later : Time),
        site.now ≤ later →
        (site.run (service.login email₁ password origin₁ moment).run).state.store.live?
            (key email₂ origin₂) later =
          site.store.live? (key email₂ origin₂) later) := by
  have hiff := key_eq_key_iff h₁ h₂ origin₁ origin₂
  refine ⟨hiff, fun hcolons hkey => ?_, fun hne service site password moment later hle => ?_⟩
  · -- a cut would change the number of colons on either side
    rcases hiff.mp hkey with hsame | hcut | hcut
    · exact hsame
    · have := hcut.colons_lt
      omega
    · have := hcut.colons_lt
      omega
  · exact live?_login service site hne.symm password moment hle

/-- Two addresses at one host are counted apart, and a login with the one is nothing to the
other. -/
theorem counted_together_sample :
    key " Alice@Example.com" "2001:db8::1" ≠ key "bob@example.com" "2001:db8::1" ∧
      (Site.sample.run (Service.sample.login " Alice@Example.com" "guess" "2001:db8::1"
          ⟨Site.sample.now, ⟨[]⟩⟩).run).state.store.live?
            (key "bob@example.com" "2001:db8::1") Site.sample.now =
        Site.sample.store.live? (key "bob@example.com" "2001:db8::1") Site.sample.now := by
  have halice : Email.normalize? " Alice@Example.com" = .ok "alice@example.com" := by rfl
  have hbob : Email.normalize? "bob@example.com" = .ok "bob@example.com" := by rfl
  obtain ⟨-, hsame, hleaves⟩ := counted_together_iff halice hbob "2001:db8::1" "2001:db8::1"
  have hne : key " Alice@Example.com" "2001:db8::1" ≠ key "bob@example.com" "2001:db8::1" :=
    fun hkey => absurd (hsame (.inr rfl) hkey).1 (by decide)
  exact ⟨hne, hleaves hne _ _ _ _ _ (Time.le_refl _)⟩

theorem one_ne_zero : (1 : UInt64) ≠ 0 := by decide

/-- A lockout at the first failure, with the standard window. -/
def atFirst : Lockout where
  policy := ⟨1, Policy.standard.window, one_ne_zero, Policy.standard.window_ne_zero⟩
  onOutage := .failClosed

/-- Two hosts, each with an address of its own, lock each other out: after one failed login from the
one, a lockout at the first failure finds the other locked. -/
theorem counted_together_apart :
    let host : Net.Address := .v6 [0x2001, 0xdb8, 0, 0, 0, 0, 0, 1]
    let other : Net.Address := .v6 [0xdb8, 0, 0, 0, 0, 0, 0, 1]
    let origin := Http.Origin.ofRequest ⟨"POST", "/", [], [], some host⟩ false
    let otherOrigin := Http.Origin.ofRequest ⟨"POST", "/", [], [], some other⟩ false
    let failed :=
      (Site.sample.run (atFirst.recordFailure (key "alice@example.com" origin)).run).state
    Email.normalize? "alice@example.com" = .ok "alice@example.com" ∧
      Email.normalize? "alice@example.com:2001" = .ok "alice@example.com:2001" ∧
      effectiveOrigin origin ≠ effectiveOrigin otherOrigin ∧
      (Site.sample.run (atFirst.check (key "alice@example.com:2001" otherOrigin)).run).answer? =
        some (.ok ()) ∧
      (failed.run (atFirst.check (key "alice@example.com:2001" otherOrigin)).run).answer? =
        some (.error .tooManyAttempts) := by
  intro host other origin otherOrigin failed
  have horigin : origin = "2001:db8::1" := by rfl
  have hother : otherOrigin = "db8::1" := by rfl
  have haddress : Email.normalize? "alice@example.com" = .ok "alice@example.com" := by rfl
  have haddress' : Email.normalize? "alice@example.com:2001" = .ok "alice@example.com:2001" := by
    rfl
  -- one group of digits ends the identity of the one pair and begins the origin of the other
  have hkey : key "alice@example.com:2001" otherOrigin = key "alice@example.com" origin := by
    rw [eq_comm, key_eq_key_iff haddress haddress', horigin, hother]
    exact .inr (.inl ⟨"2001", by decide, by decide⟩)
  have hdeadline : Site.sample.now.after? atFirst.policy.window = some (Time.ofSeconds 2100) := by
    decide
  refine ⟨haddress, haddress', ?_, ?_, ?_⟩
  · rw [horigin, hother]
    decide
  · rw [run_check rfl]
    rfl
  · rw [hkey]
    exact (check_after_failure rfl rfl rfl rfl hdeadline).trans (congrArg some (if_pos rfl))

end Bearer.Lockout
