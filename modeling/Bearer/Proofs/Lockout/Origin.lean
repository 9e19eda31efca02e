import Bearer.Proofs.Lockout.Key
import Bearer.Proofs.Net.Address

/-!
# One client over two interfaces

A client can log in over HTTP and by a remote call, behind the same proxy. Both interfaces read the
first hop that the proxy has noted, but each in its own way. Over HTTP a port is taken off the hop,
and an empty hop is kept as no origin at all; a remote call keeps the hop with its port, and falls
back to the peer for an empty one.

Main statements: `counted_as_one_iff` says exactly for which clients the failures over both
interfaces are counted together, and `counted_twice_behind_port` shows one that has its attempts
twice.
-/

namespace Bearer.Lockout

open Net (Address)

/-- A request over HTTP and a remote call come from one client: from the same peer, with the same
first value of the older forwarding header, and without the newer one. -/
structure SameClient (request : Http.Request) (caller : Rpc.Caller) : Prop where
  peer : request.peer? = caller.peer?
  /-- The peer has an address that can be. -/
  wellFormed : ∀ host ∈ request.peer?, host.WellFormed
  hop : (request.all "x-forwarded-for").head? =
    caller.metadata.first? Rpc.Metadata.forwardedFor
  notForwarded : request.all "forwarded" = []

/-- A first hop that means the same origin to both interfaces: one without a port, or an empty one
if there is no peer to fall back to. -/
def SharedHop (peer? : Option Address) (hop : List Char) : Prop :=
  if hop = [] then peer? = none else Address.ofSocket? hop = none

instance (peer? : Option Address) (hop : List Char) : Decidable (SharedHop peer? hop) := by
  unfold SharedHop
  infer_instance

/-! ## Origins as they are counted -/

/-- Over different origins, one address has different keys. -/
theorem key_eq_key_iff_origin (email origin₁ origin₂ : String) :
    key email origin₁ = key email origin₂ ↔ effectiveOrigin origin₁ = effectiveOrigin origin₂ := by
  unfold key
  rw [String.append_right_inj]

/-- An origin without blanks around it is counted as it is, unless it is empty. -/
theorem effectiveOrigin_of_trimmed {origin : String}
    (htrimmed : Text.trimChars origin.toList = origin.toList) (hne : origin.toList ≠ []) :
    effectiveOrigin origin = origin := by
  have htrim : Text.trim origin = origin := by
    rw [← String.toList_inj, Text.toList_trim, htrimmed]
  rw [effectiveOrigin, htrim]
  refine if_neg ?_
  rintro rfl
  exact hne rfl

/-- A hop without blanks around it is counted as it is, unless it is empty. -/
theorem effectiveOrigin_ofList {hop : List Char} (htrimmed : Text.trimChars hop = hop)
    (hne : hop ≠ []) : effectiveOrigin (String.ofList hop) = String.ofList hop :=
  effectiveOrigin_of_trimmed (by rw [String.toList_ofList, htrimmed])
    (by rw [String.toList_ofList]; exact hne)

/-- An address is counted as it is written. -/
theorem effectiveOrigin_text {host : Address} (h : host.WellFormed) :
    effectiveOrigin host.text = host.text :=
  effectiveOrigin_of_trimmed (Address.trimChars_text h) (Address.text_ne_nil h)

/-- No address is counted like an unknown origin. -/
theorem text_ne_unknown {host : Address} (h : host.WellFormed) : host.text ≠ unknownOrigin := by
  intro heq
  have hmem : 'u' ∈ host.text.toList := by
    rw [heq]
    decide
  rcases Address.mem_text h hmem with hu | hu | hdigit
  · exact absurd hu (by decide)
  · exact absurd hu (by decide)
  · exact hdigit.plain.2.2.2.2 rfl

/-! ## What each interface makes of a client -/

variable {request : Http.Request} {caller : Rpc.Caller}

/-- The peer alone, by which a client is counted if no hop is believed. -/
def peerOrigin (peer? : Option Address) : String :=
  (peer?.map (·.text)).getD unknownOrigin

/-- A port is taken off a socket, and nothing is taken off the text of an address. -/
theorem withoutPort_text {host : Address} (h : host.WellFormed) :
    Http.Origin.withoutPort host.text.toList = host.text := by
  rw [Http.Origin.withoutPort, Address.ofSocket?_text h]
  exact String.ofList_toList

/-- A client that is seen through one header only has not sent the other. -/
theorem SameClient.forwardedFor?_eq_none (h : SameClient request caller) :
    Http.Origin.forwardedFor? request = none := by
  rw [Http.Origin.forwardedFor?, h.notForwarded]
  rfl

/-- Over HTTP, a hop that is believed is counted without its port. -/
theorem ofRequest_of_hop (h : SameClient request caller) {hop : List Char}
    (hhop : Http.Origin.firstHop? request = some hop) :
    Http.Origin.ofRequest request true = Http.Origin.withoutPort hop := by
  rw [Http.Origin.ofRequest, h.forwardedFor?_eq_none, hhop]
  rfl

/-- Over HTTP, without a hop the peer is counted. -/
theorem ofRequest_of_no_hop (h : SameClient request caller)
    (hhop : Http.Origin.firstHop? request = none) :
    Http.Origin.ofRequest request true = peerOrigin request.peer? := by
  rw [Http.Origin.ofRequest, h.forwardedFor?_eq_none, hhop, peerOrigin]
  cases hpeer : request.peer? with
  | none => rfl
  | some host => exact withoutPort_text (h.wellFormed host hpeer)

/-- A remote call reads the same hop, and leaves it out if it is empty. -/
theorem firstHop?_eq (h : SameClient request caller) :
    caller.metadata.firstHop? = (Http.Origin.firstHop? request).bind fun hop =>
      if hop = [] then none else some (String.ofList hop) := by
  have htext :
      caller.metadata.text? Rpc.Metadata.forwardedFor = request.text? "x-forwarded-for" := by
    rw [Rpc.Metadata.text?, Http.Request.text?, h.hop]
  rw [Rpc.Metadata.firstHop?, htext, Http.Origin.firstHop?]
  cases request.text? "x-forwarded-for" with
  | none => rfl
  | some value =>
    simp only [Option.bind_eq_bind, Option.bind_some, Option.map_some]
    split <;> simp [*, guard]

/-- In a remote call, a hop that is believed is counted as it stands, and the peer if it is empty.
-/
theorem origin_of_hop (h : SameClient request caller) {hop : List Char}
    (hhop : Http.Origin.firstHop? request = some hop) :
    caller.origin true = if hop = [] then peerOrigin request.peer? else String.ofList hop := by
  rw [Rpc.Caller.origin, if_pos rfl, firstHop?_eq h, hhop, Option.bind_some, ← h.peer]
  split <;> rfl

/-- In a remote call, without a hop the peer is counted. -/
theorem origin_of_no_hop (h : SameClient request caller)
    (hhop : Http.Origin.firstHop? request = none) :
    caller.origin true = peerOrigin request.peer? := by
  rw [Rpc.Caller.origin, if_pos rfl, firstHop?_eq h, hhop, ← h.peer]
  rfl

/-- A hop that has been read is trimmed. -/
theorem trimChars_firstHop? {hop : List Char} (hhop : Http.Origin.firstHop? request = some hop) :
    Text.trimChars hop = hop := by
  obtain ⟨value, -, rfl⟩ := Option.map_eq_some_iff.mp hhop
  exact Text.trimChars_trimChars _

/-- A peer is counted as it is written. -/
theorem effectiveOrigin_peerOrigin {peer? : Option Address}
    (h : ∀ host ∈ peer?, host.WellFormed) :
    effectiveOrigin (peerOrigin peer?) = peerOrigin peer? := by
  cases peer? with
  | none => decide
  | some host => exact effectiveOrigin_text (h host rfl)

/-- The only peer that is counted as unknown is one whose address is not there. -/
theorem peerOrigin_eq_unknown_iff {peer? : Option Address} (h : ∀ host ∈ peer?, host.WellFormed) :
    unknownOrigin = peerOrigin peer? ↔ peer? = none := by
  cases peer? with
  | none => exact iff_of_true rfl rfl
  | some host =>
    refine iff_of_false ?_ (Option.some_ne_none host)
    exact (text_ne_unknown (h host rfl)).symm

/-! ## Both interfaces -/

/-- A hop is counted alike over both interfaces exactly if it is shared. -/
theorem effectiveOrigin_eq_iff_sharedHop (h : SameClient request caller) {hop : List Char}
    (hhop : Http.Origin.firstHop? request = some hop) :
    effectiveOrigin (Http.Origin.ofRequest request true) = effectiveOrigin (caller.origin true) ↔
      SharedHop request.peer? hop := by
  rw [ofRequest_of_hop h hhop, origin_of_hop h hhop, SharedHop]
  by_cases hempty : hop = []
  · -- an empty hop is an unknown origin over HTTP
    have hunknown : effectiveOrigin (Http.Origin.withoutPort []) = unknownOrigin := by rfl
    rw [if_pos hempty, if_pos hempty, hempty, hunknown, effectiveOrigin_peerOrigin h.wellFormed]
    exact peerOrigin_eq_unknown_iff h.wellFormed
  · have htrimmed := trimChars_firstHop? hhop
    rw [if_neg hempty, if_neg hempty, effectiveOrigin_ofList htrimmed hempty,
      Http.Origin.withoutPort]
    cases hsocket : Address.ofSocket? hop with
    | none => exact iff_of_true (effectiveOrigin_ofList htrimmed hempty) rfl
    | some host =>
      have hwell := Address.wellFormed_of_ofSocket? hsocket
      refine iff_of_false ?_ (Option.some_ne_none host)
      rw [effectiveOrigin_text hwell]
      -- the text of the host is no socket, and the hop is one
      intro heq
      have hnone := Address.ofSocket?_text hwell
      rw [heq, String.toList_ofList, hsocket] at hnone
      exact Option.some_ne_none host hnone

/-- The two transports count a client under one key exactly if the hop that they believe is one that
they share, or none is believed. -/
theorem key_eq_key_iff_sharedHop (h : SameClient request caller) (email : String)
    (trustForwarded : Bool) :
    key email (Http.Origin.ofRequest request trustForwarded) =
        key email (caller.origin trustForwarded) ↔
      (trustForwarded = true → ∀ hop, Http.Origin.firstHop? request = some hop →
        SharedHop request.peer? hop) := by
  rw [key_eq_key_iff_origin]
  cases trustForwarded with
  | false =>
    -- without trust it is the peer over either interface
    refine iff_of_true ?_ nofun
    rw [Http.Origin.ofRequest, Rpc.Caller.origin, h.peer]
    rfl
  | true =>
    cases hhop : Http.Origin.firstHop? request with
    | none =>
      refine iff_of_true ?_ nofun
      rw [ofRequest_of_no_hop h hhop, origin_of_no_hop h hhop]
    | some hop =>
      rw [effectiveOrigin_eq_iff_sharedHop h hhop]
      constructor
      · intro hshared _ other hother
        cases hother
        exact hshared
      · intro hall
        exact hall rfl hop rfl

/-- The failures of one client over HTTP and by remote calls are counted together for every address
exactly if the client's first hop, once it is believed, means the same to both interfaces. If it
does not, no login over HTTP changes anything that is counted for the client's remote calls. -/
theorem counted_as_one_iff (h : SameClient request caller) (email : String) (service : Service) :
    (key email (Http.Origin.ofRequest request service.trustForwarded) =
        key email (caller.origin service.trustForwarded) ↔
      (service.trustForwarded = true → ∀ hop, Http.Origin.firstHop? request = some hop →
        SharedHop request.peer? hop)) ∧
    (∀ hop, service.trustForwarded = true → Http.Origin.firstHop? request = some hop →
      ¬SharedHop request.peer? hop →
      ∀ (site : Site) (password : String) (moment : Moment) (later : Time), site.now ≤ later →
        (site.run (service.login email password
            (Http.Origin.ofRequest request service.trustForwarded) moment).run).state.store.live?
              (key email (caller.origin service.trustForwarded)) later =
          site.store.live? (key email (caller.origin service.trustForwarded)) later) := by
  have hiff := key_eq_key_iff_sharedHop h email service.trustForwarded
  refine ⟨hiff, ?_⟩
  intro hop htrust hhop hnot site password moment later hle
  have hne : key email (caller.origin service.trustForwarded) ≠
      key email (Http.Origin.ofRequest request service.trustForwarded) := by
    intro heq
    exact hnot (hiff.mp heq.symm htrust hop hhop)
  exact live?_login service site hne password moment hle

/-! ## A client behind a proxy -/

/-- A login over HTTP behind a proxy, with what the proxy has noted. -/
def requestBehindProxy (noted : String) : Http.Request :=
  ⟨"POST", "/api/v1/auth/login", [("X-Forwarded-For", Text.utf8 noted)], [], some (.v4 10 0 0 1)⟩

/-- A remote call behind a proxy, with what the proxy has noted. -/
def callerBehindProxy (noted : String) : Rpc.Caller :=
  ⟨[("x-forwarded-for", Text.utf8 noted)], some (.v4 10 0 0 1)⟩

/-- The sample is one client on both transports. -/
theorem sameClient_behindProxy (noted : String) :
    SameClient (requestBehindProxy noted) (callerBehindProxy noted) where
  peer := rfl
  wellFormed := by
    intro host hhost
    cases hhost
    trivial
  hop := by
    have hname : Text.lowerAscii "X-Forwarded-For".toList = "x-forwarded-for".toList := by
      decide +kernel
    -- the only header has this name in whatever case
    rw [Http.Request.all, requestBehindProxy, List.filter_cons_of_pos]
    · rfl
    · rw [decide_eq_true_eq]
      exact hname
  notForwarded := by
    have hname : Text.lowerAscii "X-Forwarded-For".toList ≠ "forwarded".toList := by
      decide +kernel
    rw [Http.Request.all, requestBehindProxy, List.filter_cons_of_neg]
    · rfl
    · rw [decide_eq_true_eq]
      exact hname

/-- Behind a proxy that notes no port, a client has its attempts once. -/
theorem counted_as_one_sample :
    SameClient (requestBehindProxy "203.0.113.7, 10.0.0.1")
        (callerBehindProxy "203.0.113.7, 10.0.0.1") ∧
      key "alice@example.com"
          (Http.Origin.ofRequest (requestBehindProxy "203.0.113.7, 10.0.0.1") true) =
        key "alice@example.com" ((callerBehindProxy "203.0.113.7, 10.0.0.1").origin true) := by
  have hsame := sameClient_behindProxy "203.0.113.7, 10.0.0.1"
  refine ⟨hsame, ?_⟩
  refine (counted_as_one_iff hsame "alice@example.com"
    { Service.sample with trustForwarded := true }).1.mpr ?_
  intro _ hop hhop
  have hread : Http.Origin.firstHop? (requestBehindProxy "203.0.113.7, 10.0.0.1") =
      some "203.0.113.7".toList := by
    decide +kernel
  rw [hread] at hhop
  cases hhop
  decide

/-- Behind a proxy that notes the port of its client, the client has its attempts twice: after a
failure over HTTP, a lockout at the first failure refuses it there, and still lets it through as a
remote call. -/
theorem counted_twice_behind_port :
    let request := requestBehindProxy "203.0.113.7:4711"
    let caller := callerBehindProxy "203.0.113.7:4711"
    let overHttp := key "alice@example.com" (Http.Origin.ofRequest request true)
    let byCall := key "alice@example.com" (caller.origin true)
    let failed := (Site.sample.run (atFirst.recordFailure overHttp).run).state
    SameClient request caller ∧
      overHttp = "auth:login:attempts:alice@example.com:203.0.113.7" ∧
      byCall = "auth:login:attempts:alice@example.com:203.0.113.7:4711" ∧
      (failed.run (atFirst.check overHttp).run).answer? = some (.error .tooManyAttempts) ∧
      (failed.run (atFirst.check byCall).run).answer? = some (.ok ()) := by
  intro request caller overHttp byCall failed
  have hhttp : overHttp = "auth:login:attempts:alice@example.com:203.0.113.7" := by
    decide +kernel
  have hcall : byCall = "auth:login:attempts:alice@example.com:203.0.113.7:4711" := by
    decide +kernel
  have hne : byCall ≠ overHttp := by
    rw [hhttp, hcall]
    decide
  have hdeadline : Site.sample.now.after? atFirst.policy.window = some (Time.ofSeconds 2100) := by
    decide
  refine ⟨sameClient_behindProxy _, hhttp, hcall, ?_, ?_⟩
  · exact (check_after_failure rfl rfl rfl rfl hdeadline).trans (congrArg some (if_pos rfl))
  · exact (check_after_failure rfl rfl rfl rfl hdeadline).trans (congrArg some (if_neg hne))

end Bearer.Lockout
