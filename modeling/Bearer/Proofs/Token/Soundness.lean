import Bearer.Proofs.Token.RoundTrip

/-!
# What acceptance guarantees

A text that verifies has three segments: a header that names the one accepted algorithm, a payload
that says the claims, and the one signature of the two. So nothing but the holder of the secret can
change a token, and there is one accepted text for each header and payload. Every other text is
refused as invalid; only what would be accepted but for its expiry is refused as expired.

Main statement: `verify_sound`.
-/

namespace Bearer

namespace Json

/-- A field that is read by its name is the only one of that name. -/
theorem atMostOne?_eq_some_iff {name : String} {members : List (Bytes × Json)} {value : Json} :
    atMostOne? name members = some (some value) ↔ valuesOf (Text.utf8 name) members = [value] := by
  rw [atMostOne?]
  split
  · next h => simp [h]
  · next other h => simp [h]
  · next hnone hone =>
    simp only [reduceCtorEq, false_iff]
    exact hone value

/-- The fields of an object are its members of their names. -/
theorem atMostOne?_of_fields? {names : List String} {members : List (Bytes × Json)}
    {fields : List (Option Json)} (h : (Json.object members).fields? names = some fields) {i : Nat}
    {name : String} {field : Option Json} (hname : names[i]? = some name)
    (hfield : fields[i]? = some field) : atMostOne? name members = some field := by
  have hmap : names.mapM (atMostOne? · members) = some fields := by
    rw [fields?] at h
    split at h
    · exact h
    · cases h
  clear h
  -- the fields are looked up one by one, in the order of their names
  induction names generalizing fields i with
  | nil => cases hname
  | cons first names ih =>
    rw [List.mapM_cons] at hmap
    simp only [Option.bind_eq_bind, Option.bind_eq_some_iff, Option.pure_def,
      Option.some.injEq] at hmap
    obtain ⟨one, hone, rest, hrest, rfl⟩ := hmap
    cases i with
    | zero =>
      cases hname
      cases hfield
      exact hone
    | succ i => exact ih hname hfield hrest

/-- The fields of an array are its items. -/
theorem eq_of_fields?_array {names : List String} {items values : List Json}
    (h : (Json.array items).fields? names = some (values.map some)) : items = values := by
  rw [fields?] at h
  split at h
  · exact (List.map_inj_right fun _ _ => Option.some.inj).mp (Option.some.inj h)
  · cases h

/-- An integer that is read is the integer that stands there. -/
theorem eq_int_of_int64? {json : Json} {n : Int64} (h : json.int64? = some n) :
    json = .int n.toInt := by
  cases json with
  | int value =>
    rw [int64?] at h
    split at h
    · next hrange =>
      rw [← Option.some.inj h, Int64.toInt_ofInt_of_le hrange.1 (Int.lt_add_one_of_le hrange.2)]
    · cases h
  | _ => cases h

/-- A text that is read and not blank is the text that stands there. -/
theorem text?_of_textNotBlank? {json : Json} {s : String} (h : json.textNotBlank? = some s) :
    json.text? = some s ∧ Text.trim s ≠ "" := by
  rw [textNotBlank?, Option.filter_eq_some_iff] at h
  refine ⟨h.1, fun hblank => ?_⟩
  rw [Token.trim_eq_empty_iff.mp hblank] at h
  exact absurd h.2 (by decide)

end Json

/-- A role is read from no name but its own. -/
theorem Role.name_of_ofName? {name : String} {role : Role} (h : Role.ofName? name = some role) :
    name = role.name := by
  rw [Role.ofName?] at h
  split at h
  · next hname =>
    cases h
    exact hname
  split at h
  · next hname =>
    cases h
    exact hname
  · cases h

/-- A payload says claims: by the names of its members, of which each of the five occurs once and
others may occur, or in order as the five items of an array. -/
def Claims.AreSaidBy (claims : Claims) (payload : Json) : Prop :=
  ∃ subject role tokenId issuedAt expiry : Json,
    ((∃ members, payload = .object members ∧
        Json.valuesOf (Text.utf8 "sub") members = [subject] ∧
        Json.valuesOf (Text.utf8 "role") members = [role] ∧
        Json.valuesOf (Text.utf8 "jti") members = [tokenId] ∧
        Json.valuesOf (Text.utf8 "iat") members = [issuedAt] ∧
        Json.valuesOf (Text.utf8 "exp") members = [expiry]) ∨
      payload = .array [subject, role, tokenId, issuedAt, expiry]) ∧
    subject.text? = some claims.subject ∧ role.text? = some claims.role.name ∧
    tokenId.text? = some claims.tokenId ∧ issuedAt = .int claims.issuedAt.toInt ∧
    expiry = .int claims.expiry.toInt

/-- The fields that are read from a payload stand there. -/
theorem Claims.areSaidBy_of_ofPayload? {payload : Json} {claims : Claims}
    (h : ofPayload? payload = some claims) :
    claims.AreSaidBy payload ∧ Text.trim claims.subject ≠ "" ∧ Text.trim claims.tokenId ≠ "" := by
  rw [ofPayload?] at h
  split at h
  · next subject role tokenId issuedAt expiry hfields =>
    simp only [Option.bind_eq_bind, Option.bind_eq_some_iff, Option.pure_def,
      Option.some.injEq] at h
    obtain ⟨s, hs, j, hj, r, ⟨word, hword, hr⟩, e, he, i, hi, rfl⟩ := h
    obtain ⟨hsubject, hsubjectBlank⟩ := Json.text?_of_textNotBlank? hs
    obtain ⟨htokenId, htokenIdBlank⟩ := Json.text?_of_textNotBlank? hj
    refine ⟨⟨subject, role, tokenId, issuedAt, expiry, ?_, hsubject, ?_, htokenId,
      Json.eq_int_of_int64? hi, Json.eq_int_of_int64? he⟩, hsubjectBlank, htokenIdBlank⟩
    · cases payload with
      | object members =>
        -- what is read by a name is the only member of the name
        have hvalue {i : Nat} {name : String} {value : Json} (hname : names[i]? = some name)
            (hat : [some subject, some role, some tokenId, some issuedAt, some expiry][i]? =
              some (some value)) : Json.valuesOf (Text.utf8 name) members = [value] :=
          Json.atMostOne?_eq_some_iff.mp (Json.atMostOne?_of_fields? hfields hname hat)
        exact .inl ⟨members, rfl, hvalue (i := 0) rfl rfl, hvalue (i := 1) rfl rfl,
          hvalue (i := 2) rfl rfl, hvalue (i := 3) rfl rfl, hvalue (i := 4) rfl rfl⟩
      | array items =>
        exact .inr (congrArg Json.array (Json.eq_of_fields?_array hfields))
      | _ => cases hfields
    · rw [hword, Role.name_of_ofName? hr]
  · cases h

namespace Token

/-- A header names an algorithm, by its only member of that name or as the second item of an
array. -/
def NamesAlgorithm (header : Json) (name : String) : Prop :=
  ∃ value : Json, value.variant? = some name ∧
    ((∃ members, header = .object members ∧
        Json.valuesOf (Text.utf8 "alg") members = [value]) ∨
      ∃ type rest, header = .array (type :: value :: rest))

/-- An accepted header names the one accepted algorithm. -/
theorem namesAlgorithm_of_accepts {header : Json} (h : accepts header) :
    NamesAlgorithm header algorithm := by
  rw [accepts] at h
  split at h
  · next type value content keySetUrl key keyId url chain thumb thumb256 hfields =>
    -- of all the conditions on a header, the first one is about the algorithm
    simp only [Bool.and_eq_true, decide_eq_true_eq] at h
    refine ⟨value, h.1.1.1.1.1.1.1.1.1, ?_⟩
    cases header with
    | object members =>
      have halgorithm := Json.atMostOne?_of_fields? hfields (i := 1) rfl rfl
      exact .inl ⟨members, rfl, Json.atMostOne?_eq_some_iff.mp halgorithm⟩
    | array items =>
      rw [Json.fields?] at hfields
      split at hfields
      · -- an array is read in order, and the algorithm comes second
        rcases items with _ | ⟨first, _ | ⟨second, rest⟩⟩
        · cases hfields
        · cases hfields
        · obtain ⟨-, hsecond⟩ := List.cons.inj (Option.some.inj hfields)
          rw [Option.some.inj (List.cons.inj hsecond).1]
          exact .inr ⟨_, rest, rfl⟩
      · cases hfields
    | _ => cases hfields
  · cases h

/-- A header names one algorithm at most. -/
theorem NamesAlgorithm.unique {header : Json} {name other : String}
    (h : NamesAlgorithm header name) (hother : NamesAlgorithm header other) : name = other := by
  obtain ⟨value, hname, hform⟩ := h
  obtain ⟨value', hname', hform'⟩ := hother
  -- a header has one form, and in either form one value in the place of the algorithm
  have hvalue : value = value' := by
    rcases hform with ⟨members, rfl, hvalues⟩ | ⟨type, rest, rfl⟩
    · rcases hform' with ⟨members', hmembers, hvalues'⟩ | ⟨type, rest, hitems⟩
      · cases hmembers
        rw [hvalues] at hvalues'
        exact (List.cons.inj hvalues').1
      · cases hitems
    · rcases hform' with ⟨members', hmembers, -⟩ | ⟨type', rest', hitems⟩
      · cases hmembers
      · cases hitems
        rfl
  rw [hvalue, hname'] at hname
  exact (Option.some.inj hname).symm

/-! ## The three segments -/

variable {secret : Secret} {token : String} {now : Time} {claims : Claims}

/-- The segments of a text: what its dots split it into, without the blanks around it. -/
def segments (token : String) : List (List Char) :=
  Text.pieces '.' (Text.trimChars token.toList)

/-- A text is its three segments with the dots between them. -/
theorem trimChars_of_segments {h p s : List Char} (hsegments : segments token = [h, p, s]) :
    Text.trimChars token.toList = (h ++ '.' :: p) ++ '.' :: s := by
  have hjoin : ['.'].intercalate ((Text.trimChars token.toList).splitOn '.') =
      Text.trimChars token.toList := List.intercalate_splitOn '.'
  rw [segments, Text.pieces] at hsegments
  rw [← hjoin, hsegments]
  simp [List.intercalate]

/-- Texts without dots, joined by dots, are segments. -/
theorem segments_of_trimChars {h p s : List Char}
    (htoken : Text.trimChars token.toList = (h ++ '.' :: p) ++ '.' :: s) (hh : '.' ∉ h)
    (hp : '.' ∉ p) (hs : '.' ∉ s) : segments token = [h, p, s] := by
  rw [segments, Text.pieces, htoken, List.append_assoc, List.cons_append,
    List.splitOn_append_cons_self_of_not_mem hh, List.splitOn_append_cons_self_of_not_mem hp,
    List.splitOn_eq_singleton hs]

/-- A text whose signature, header and payload hold has three segments. -/
theorem segments_of_payload? {payload : Json}
    (hpayload : payload? secret (Text.trimChars token.toList) = some payload) :
    ∃ h p, segments token = [h, p, signature secret (h ++ '.' :: p)] ∧
      (∃ header, segmentBytes? h >>= Json.parse? = some header ∧ accepts header) ∧
      segmentBytes? p >>= Json.parse? = some payload := by
  rw [payload?] at hpayload
  simp only [Option.bind_eq_bind, Option.bind_eq_some_iff] at hpayload
  obtain ⟨⟨signed, s⟩, hcut, _, hsignature, ⟨h, p⟩, hcutSigned, header, ⟨bytes, hbytes, hheader⟩, _,
    haccepts, hbody⟩ := hpayload
  obtain ⟨htoken, hs⟩ := Text.eq_of_cutLast?_eq_some hcut
  obtain ⟨rfl, hp⟩ := Text.eq_of_cutLast?_eq_some hcutSigned
  have hs' : s = signature secret (h ++ '.' :: p) := Base64.of_guard hsignature
  -- what decodes is what would be encoded, so the header holds no dot either
  have hh : '.' ∉ h := by
    have hsegment : h = segment bytes := Base64.eq_encode_of_decode? hbytes
    rw [hsegment]
    exact dot_notMem_segment bytes
  refine ⟨h, p, ?_, ⟨header, ?_, Base64.of_guard haccepts⟩, ?_⟩
  · rw [← hs']
    exact segments_of_trimChars htoken hh hp hs
  · exact Option.bind_eq_some_iff.mpr ⟨bytes, hbytes, hheader⟩
  · exact Option.bind_eq_some_iff.mpr hbody

/-- What a text that says claims is made of. -/
theorem segments_of_says? (hsay : says? secret token = some claims) :
    ∃ h p, segments token = [h, p, signature secret (h ++ '.' :: p)] ∧
      (∃ header, segmentBytes? h >>= Json.parse? = some header ∧
        NamesAlgorithm header algorithm) ∧
      (∃ payload, segmentBytes? p >>= Json.parse? = some payload ∧ claims.AreSaidBy payload) ∧
      Text.trim claims.subject ≠ "" ∧ Text.trim claims.tokenId ≠ "" := by
  rw [says?, claims?] at hsay
  simp only [Option.bind_eq_bind, Option.bind_eq_some_iff, Option.pure_def,
    Option.some.injEq] at hsay
  obtain ⟨payload, hpayload, claims, hclaims, _, -, rfl⟩ := hsay
  obtain ⟨h, p, hsegments, ⟨header, hheader, haccepts⟩, hbody⟩ := segments_of_payload? hpayload
  obtain ⟨hsaid, hsubject, htokenId⟩ := Claims.areSaidBy_of_ofPayload? hclaims
  exact ⟨h, p, hsegments, ⟨header, hheader, namesAlgorithm_of_accepts haccepts⟩,
    ⟨payload, hbody, hsaid⟩, hsubject, htokenId⟩

/-- The times of claims that are verified make sense, and their last second is not over. -/
theorem times_of_verify (hverify : verify secret token now = .ok claims) :
    claims.issuedAt.toInt < claims.expiry.toInt ∧ claims.issuedAt.toInt ≤ now.seconds + 300 ∧
      now.seconds ≤ claims.expiry.toInt := by
  obtain ⟨hdecode, hgood⟩ := verify_eq_ok_iff.mp hverify
  obtain ⟨-, htimely⟩ := decode_eq_ok_iff.mp hdecode
  rw [isTimely, clockSkew, Bool.and_eq_true, decide_eq_true_eq, decide_eq_true_eq] at htimely
  rw [Claims.isExpired, decide_eq_false_iff_not, gt_iff_lt, Int.not_lt] at hgood
  exact ⟨htimely.2, htimely.1, hgood⟩

/-! ## Refusals -/

/-- A text is refused as expired exactly if it is decoded and has run out. -/
theorem verify_eq_expiredToken_iff :
    verify secret token now = .error .expiredToken ↔
      ∃ claims, decode secret token now = .ok claims ∧ claims.isExpired now := by
  cases hdecode : decode secret token now with
  | error refusal =>
    rw [verify_of_decode_error hdecode, eq_invalidToken_of_decode hdecode]
    simp
  | ok found =>
    rw [verify_of_decode hdecode]
    by_cases hexpired : found.isExpired now <;> simp [hexpired]

/-- Every other text that does not verify is refused as invalid. -/
theorem eq_of_verify_eq_error {refusal : Refusal} (h : verify secret token now = .error refusal) :
    refusal = .invalidToken ∨ refusal = .expiredToken := by
  cases hdecode : decode secret token now with
  | error other =>
    rw [verify_of_decode_error hdecode, eq_invalidToken_of_decode hdecode] at h
    exact .inl (Except.error.inj h).symm
  | ok found =>
    rw [verify_of_decode hdecode] at h
    split at h
    · exact .inr (Except.error.inj h).symm
    · cases h

/-- A text that says nothing is refused as invalid. -/
theorem verify_of_says?_eq_none (h : says? secret token = none) :
    verify secret token now = .error .invalidToken := by
  refine verify_of_decode_error ?_
  rw [decode_eq, h]

/-- The signature of a text that says claims is that of its header and payload. -/
theorem signature_of_says? (hsay : says? secret token = some claims) {h p s : List Char}
    (hsegments : segments token = [h, p, s]) : s = signature secret (h ++ '.' :: p) := by
  obtain ⟨h', p', hsegments', -⟩ := segments_of_says? hsay
  rw [hsegments] at hsegments'
  cases hsegments'
  rfl

/-- The header of a text that says claims names no algorithm but the accepted one. -/
theorem algorithm_of_says? (hsay : says? secret token = some claims) {h p s : List Char}
    (hsegments : segments token = [h, p, s]) {header : Json}
    (hheader : segmentBytes? h >>= Json.parse? = some header) {name : String}
    (hnames : NamesAlgorithm header name) : name = algorithm := by
  obtain ⟨h', p', hsegments', ⟨header', hheader', hnames'⟩, -⟩ := segments_of_says? hsay
  rw [hsegments] at hsegments'
  cases hsegments'
  rw [hheader] at hheader'
  cases hheader'
  exact hnames.unique hnames'

/-- What is guaranteed of any text and any moment. If the text verifies, its dots split it into a
header that names the accepted algorithm, a payload that says the claims, and the signature of the
two, their keyed digest in the alphabet that is safe in a URL and without padding; its claims are
not blank and their times hold. Of two texts that verify and share header and
payload there is only one. A text with another signature or another algorithm is refused as invalid.
Nothing is refused in another way but a text that is decoded and has run out. -/
theorem verify_sound (secret : Secret) (token : String) (now : Time) :
    (∀ claims, verify secret token now = .ok claims →
      ∃ h p, segments token = [h, p, Base64.encode Base64.urlSafe
          (Digest.hmac secret.bytes (Text.utf8 (String.ofList (h ++ '.' :: p))))] ∧
        (∃ header, segmentBytes? h >>= Json.parse? = some header ∧ NamesAlgorithm header "HS256") ∧
        (∃ payload, segmentBytes? p >>= Json.parse? = some payload ∧ claims.AreSaidBy payload) ∧
        Text.trim claims.subject ≠ "" ∧ Text.trim claims.tokenId ≠ "" ∧
        claims.issuedAt.toInt < claims.expiry.toInt ∧
        claims.issuedAt.toInt ≤ now.seconds + 300 ∧ now.seconds ≤ claims.expiry.toInt) ∧
    (∀ other later claims claims', verify secret token now = .ok claims →
      verify secret other later = .ok claims' → ∀ h p s s', segments token = [h, p, s] →
        segments other = [h, p, s'] → Text.trim token = Text.trim other) ∧
    (∀ h p s, segments token = [h, p, s] →
      s ≠ Base64.encode Base64.urlSafe
          (Digest.hmac secret.bytes (Text.utf8 (String.ofList (h ++ '.' :: p)))) →
        verify secret token now = .error .invalidToken) ∧
    (∀ h p s header name, segments token = [h, p, s] →
      segmentBytes? h >>= Json.parse? = some header → NamesAlgorithm header name →
        name ≠ "HS256" → verify secret token now = .error .invalidToken) ∧
    (∀ refusal, verify secret token now = .error refusal →
      refusal = .invalidToken ∨ refusal = .expiredToken) ∧
    (verify secret token now = .error .expiredToken ↔
      ∃ claims, decode secret token now = .ok claims ∧ claims.isExpired now) ∧
    (∀ refusal, decode secret token now = .error refusal →
      verify secret token now = .error .invalidToken) := by
  have hsaid {text : String} {at' : Time} {claims : Claims}
      (hverify : verify secret text at' = .ok claims) : says? secret text = some claims :=
    (decode_eq_ok_iff.mp (verify_eq_ok_iff.mp hverify).1).1
  refine ⟨?_, ?_, ?_, ?_, fun _ => eq_of_verify_eq_error, verify_eq_expiredToken_iff, ?_⟩
  · intro claims hverify
    obtain ⟨h, p, hsegments, hheader, hpayload, hsubject, htokenId⟩ :=
      segments_of_says? (hsaid hverify)
    exact ⟨h, p, hsegments, hheader, hpayload, hsubject, htokenId, times_of_verify hverify⟩
  · intro other later claims claims' hverify hverify' h p s s' hsegments hsegments'
    -- both signatures are that of the same header and payload
    have hs := signature_of_says? (hsaid hverify) hsegments
    have hs' := signature_of_says? (hsaid hverify') hsegments'
    rw [Text.trim, Text.trim, trimChars_of_segments hsegments, trimChars_of_segments hsegments', hs,
      hs']
  · intro h p s hsegments hsignature
    refine verify_of_says?_eq_none (Option.eq_none_iff_forall_ne_some.mpr fun claims hsay => ?_)
    exact hsignature (signature_of_says? hsay hsegments)
  · intro h p s header name hsegments hheader hnames hother
    refine verify_of_says?_eq_none (Option.eq_none_iff_forall_ne_some.mpr fun claims hsay => ?_)
    exact hother (algorithm_of_says? hsay hsegments hheader hnames)
  · intro refusal hdecode
    rw [verify_of_decode_error hdecode, eq_invalidToken_of_decode hdecode]

/-- A signed token with unusual texts is accepted, so it has its three segments; once its last
second is over, it is the one kind of text that is refused as expired. -/
theorem verify_sound_sample :
    (∃ h p, segments sample = [h, p, Base64.encode Base64.urlSafe
        (Digest.hmac sampleSecret.bytes (Text.utf8 (String.ofList (h ++ '.' :: p))))]) ∧
      verify sampleSecret sample ⟨2001000000000⟩ = .error .expiredToken := by
  have hverify : verify sampleSecret sample ⟨2000999999999⟩ = .ok sampleClaims :=
    verify_eq_ok_iff.mpr ⟨decode_sample (by decide), by decide⟩
  obtain ⟨haccepted, -⟩ := verify_sound sampleSecret sample ⟨2000999999999⟩
  obtain ⟨-, -, -, -, -, hexpired, -⟩ := verify_sound sampleSecret sample ⟨2001000000000⟩
  obtain ⟨h, p, hsegments, -⟩ := haccepted sampleClaims hverify
  exact ⟨⟨h, p, hsegments⟩, hexpired.mpr ⟨sampleClaims, decode_sample (by decide), by decide⟩⟩

end Token
end Bearer
