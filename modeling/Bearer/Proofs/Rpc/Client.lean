import Bearer.Proofs.Credential
import Bearer.Rpc.Client

/-!
# Sending a token along

A client puts a token into an authorization value once, and then on every call. Whether it may do so
is a rule about bytes: all but most controls are let through. The other side reads a value under a
stricter rule, which lets through visible ASCII only. Between the two rules lie the texts with a
character beyond ASCII: the client accepts them, and every call that carries one arrives as a call
without a token. Any other text is either refused at once or handed over as it is, up to the blanks
around it.

Main statement: `carries_iff`.
-/

namespace Bearer

namespace Text

/-- The bytes of a text are those of its characters. -/
theorem mem_utf8_iff {s : String} {b : UInt8} :
    b ∈ utf8 s ↔ ∃ c ∈ s.toList, b ∈ String.utf8EncodeChar c := by
  rw [utf8_eq_flatMap, List.mem_flatMap]

/-- The bytes of a character beyond ASCII are beyond ASCII as well. -/
theorem le_of_mem_utf8EncodeChar {c : Char} (h : ¬c.toNat < 128) {b : UInt8}
    (hb : b ∈ String.utf8EncodeChar c) : 128 ≤ b.toNat := by
  have hone : ¬c.val.toNat ≤ 127 := fun hle => h (Nat.lt_succ_of_le hle)
  -- in a longer encoding some bits of the character are added to a mark, which is 128 at least
  have hmark (n : Nat) (hn : 128 ≤ n ∧ n < 256) : 128 ≤ (UInt8.ofNat n).toNat := by
    rw [UInt8.toNat_ofNat', Nat.mod_eq_of_lt hn.2]
    exact hn.1
  simp only [String.utf8EncodeChar, if_neg hone] at hb
  split at hb
  · simp only [List.mem_cons, List.not_mem_nil, or_false] at hb
    rcases hb with rfl | rfl <;> (apply hmark; omega)
  · split at hb
    · simp only [List.mem_cons, List.not_mem_nil, or_false] at hb
      rcases hb with rfl | rfl | rfl <;> (apply hmark; omega)
    · simp only [List.mem_cons, List.not_mem_nil, or_false] at hb
      rcases hb with rfl | rfl | rfl | rfl <;> (apply hmark; omega)

/-- A text with a character beyond ASCII cannot be read back from its bytes. -/
theorem visible?_utf8_of_beyond {s : String} {c : Char} (hc : c ∈ s.toList)
    (hbeyond : ¬c.toNat < 128) : visible? (utf8 s) = none := by
  rw [visible?, if_neg]
  intro hall
  obtain ⟨b, hb⟩ := List.exists_mem_of_ne_nil _ (String.utf8EncodeChar_ne_nil (c := c))
  have hvisible := List.all_eq_true.mp hall b (mem_utf8_iff.mpr ⟨c, hc, hb⟩)
  have hlarge := le_of_mem_utf8EncodeChar hbeyond hb
  simp only [isVisible, Bool.or_eq_true, Bool.and_eq_true, decide_eq_true_eq,
    UInt8.lt_iff_toNat_lt, ← UInt8.toNat_inj] at hvisible
  change (_ ∧ b.toNat < 127) ∨ b.toNat = 9 at hvisible
  omega

end Text

namespace Rpc

/-- Whether a character may not stand in metadata: it is a control other than the tab. -/
def IsControl (c : Char) : Prop := c.toNat < 0x20 ∧ c.toNat ≠ 0x09 ∨ c.toNat = 0x7F

instance (c : Char) : Decidable (IsControl c) := inferInstanceAs (Decidable (_ ∨ _))

/-- The rule about bytes as a rule about characters. -/
theorem isLegalByte_of_mem {c : Char} {b : UInt8} (hb : b ∈ String.utf8EncodeChar c) :
    isLegalByte b = true ↔ ¬IsControl c := by
  have hlegal : isLegalByte b = true ↔ (32 ≤ b.toNat ∧ b.toNat ≠ 127) ∨ b.toNat = 9 := by
    simp only [isLegalByte, Bool.or_eq_true, Bool.and_eq_true, decide_eq_true_eq,
      UInt8.le_iff_toNat_le, ne_eq, ← UInt8.toNat_inj]
    rfl
  rw [hlegal, IsControl]
  by_cases hascii : c.toNat < 128
  · have hbyte : String.utf8EncodeChar c = [UInt8.ofNat c.toNat] :=
      if_pos (Nat.le_of_lt_succ hascii)
    rw [hbyte, List.mem_singleton] at hb
    rw [hb, Text.toNat_ofNat_of_ascii hascii]
    omega
  · -- the bytes of any other character are legal all, as are such characters
    have hlarge := Text.le_of_mem_utf8EncodeChar hascii hb
    omega

/-- A text may stand in metadata exactly if no character of it is a control. -/
theorem isLegalValue_utf8_iff {s : String} :
    isLegalValue (Text.utf8 s) = true ↔ ∀ c ∈ s.toList, ¬IsControl c := by
  rw [isLegalValue, List.all_eq_true]
  constructor
  · intro h c hc
    obtain ⟨b, hb⟩ := List.exists_mem_of_ne_nil _ (String.utf8EncodeChar_ne_nil (c := c))
    exact (isLegalByte_of_mem hb).mp (h b (Text.mem_utf8_iff.mpr ⟨c, hc, hb⟩))
  · intro h b hb
    obtain ⟨c, hc, hmem⟩ := Text.mem_utf8_iff.mp hb
    exact (isLegalByte_of_mem hmem).mpr (h c hc)

/-- A prefix without controls makes no difference to whether a text may stand in metadata. -/
theorem isLegalValue_bearer_iff {token : String} :
    isLegalValue (Text.utf8 ("Bearer " ++ token)) = true ↔ ∀ c ∈ token.toList, ¬IsControl c := by
  rw [isLegalValue_utf8_iff, String.toList_append, List.forall_mem_append]
  exact and_iff_right (List.all_iff_forall_prop.mp (by decide))

namespace Metadata

/-- What is put under a name is all that is there. -/
theorem all_replace (metadata : Metadata) (name : String) (value : Bytes) :
    (metadata.replace name value).all name = [value] := by
  have hnone : (metadata.filter (·.1 ≠ name)).filter (·.1 = name) = [] := by
    simp [List.filter_filter]
  rw [all, replace, List.filter_append, hnone]
  simp

/-- A name whose value was replaced has the new value. -/
theorem first?_replace (metadata : Metadata) (name : String) (value : Bytes) :
    (metadata.replace name value).first? name = some value := by
  have hnone : (metadata.filter (·.1 ≠ name)).lookup name = none := by
    apply List.lookup_eq_none_iff.mpr
    intro entry hentry
    exact bne_iff_ne.mpr (Ne.symm (of_decide_eq_true (List.mem_filter.mp hentry).2))
  rw [first?, replace, List.lookup_append, hnone]
  simp

end Metadata

namespace Client

variable {token : String}

/-- The answer to a token that may not stand in metadata. -/
def refused : Status := ⟨.invalidArgument, "token contains invalid characters"⟩

/-- A client is made for every token without controls, and for no other. -/
theorem ofToken?_cases (token : String) :
    ((∃ c ∈ token.toList, IsControl c) ∧ ofToken? token = .error refused) ∨
      (∀ c ∈ token.toList, ¬IsControl c) ∧
        ∃ client, ofToken? token = .ok client ∧
          client.authorization = Text.utf8 ("Bearer " ++ token) := by
  by_cases hlegal : isLegalValue (Text.utf8 ("Bearer " ++ token)) = true
  · refine .inr ⟨isLegalValue_bearer_iff.mp hlegal, ⟨_, hlegal⟩, ?_, rfl⟩
    rw [ofToken?, forward?, dif_pos hlegal]
  · have hcontrol : ∃ c ∈ token.toList, IsControl c := by
      simpa using mt isLegalValue_bearer_iff.mpr hlegal
    refine .inl ⟨hcontrol, ?_⟩
    rw [ofToken?, forward?, dif_neg hlegal]
    rfl

/-- The other side reads what the client has prepared, whatever was there before. -/
theorem token?_send (client : Client) (metadata : Metadata) :
    (client.send metadata).token? =
      Credential.ofRequest? (Text.visible? client.authorization) none := by
  rw [Metadata.token?, Metadata.text?, send, Metadata.first?_replace, Option.bind_some]

/-- Of an ASCII text without controls every byte is visible. -/
theorem visible?_bearer (hascii : ∀ c ∈ token.toList, c.toNat < 128)
    (hlegal : ∀ c ∈ token.toList, ¬IsControl c) :
    Text.visible? (Text.utf8 ("Bearer " ++ token)) = some ("Bearer " ++ token) := by
  apply Text.visible?_utf8_of_all
  · rw [String.toList_append, List.forall_mem_append]
    exact ⟨List.all_iff_forall_prop.mp (by decide), hascii⟩
  · rw [String.toList_append, List.forall_mem_append]
    refine ⟨List.all_iff_forall_prop.mp (by decide), fun c hc => ?_⟩
    have hascii := hascii c hc
    have hlegal := hlegal c hc
    rw [IsControl] at hlegal
    simp only [Text.isVisible, Bool.or_eq_true, Bool.and_eq_true, decide_eq_true_eq,
      UInt8.le_iff_toNat_le, UInt8.lt_iff_toNat_lt, ← UInt8.toNat_inj,
      Text.toNat_ofNat_of_ascii hascii]
    -- a byte that is no control is visible, or the tabulator
    change (32 ≤ c.toNat ∧ c.toNat < 127) ∨ c.toNat = 9
    omega

/-- Whether a token is either refused at once, or put on every call as its only authorization value
and read from there as it is, without the blanks around it. -/
def Carries (token : String) : Prop :=
  ofToken? token = .error refused ∨ ∃ client, ofToken? token = .ok client ∧
    ∀ metadata, (client.send metadata).all Metadata.authorization = [client.authorization] ∧
      (client.send metadata).token? = .ok (Text.trim token)

/-- A token that is not blank is refused or carried exactly if it is ASCII or has a control in it.
Any other is accepted, and every call that it is put on arrives as one without a token, although it
has an authorization value. -/
theorem carries_iff (hsome : Text.trim token ≠ "") :
    (Carries token ↔ (∀ c ∈ token.toList, c.toNat < 128) ∨ ∃ c ∈ token.toList, IsControl c) ∧
      (¬Carries token → ∃ client, ofToken? token = .ok client ∧
        ∀ metadata, (client.send metadata).all Metadata.authorization = [client.authorization] ∧
          (client.send metadata).token? = .error .missingToken) := by
  rcases ofToken?_cases token with ⟨hcontrol, herror⟩ | ⟨hlegal, client, hclient, hvalue⟩
  · have hcarries : Carries token := .inl herror
    exact ⟨iff_of_true hcarries (.inr hcontrol), fun h => absurd hcarries h⟩
  have hall (metadata : Metadata) : (client.send metadata).all Metadata.authorization =
      [client.authorization] := Metadata.all_replace _ _ _
  by_cases hascii : ∀ c ∈ token.toList, c.toNat < 128
  · have hcarries : Carries token := by
      refine .inr ⟨client, hclient, fun metadata => ⟨hall metadata, ?_⟩⟩
      rw [token?_send, hvalue, visible?_bearer hascii hlegal, Credential.ofRequest?,
        Option.bind_some, Credential.bearer?_bearer hsome]
      rfl
    exact ⟨iff_of_true hcarries (.inl hascii), fun h => absurd hcarries h⟩
  · -- what is beyond ASCII makes the whole value unreadable
    obtain ⟨c, hc, hbeyond⟩ : ∃ c ∈ token.toList, ¬c.toNat < 128 := by
      simpa using hascii
    have hmember : c ∈ ("Bearer " ++ token).toList := by
      rw [String.toList_append]
      exact List.mem_append_right _ hc
    have hlost (metadata : Metadata) :
        (client.send metadata).token? = .error .missingToken := by
      rw [token?_send, hvalue, Text.visible?_utf8_of_beyond hmember hbeyond]
      rfl
    refine ⟨iff_of_false ?_ ?_, fun _ => ⟨client, hclient, fun metadata =>
      ⟨hall metadata, hlost metadata⟩⟩⟩
    · rintro (herror | ⟨other, hother, hread⟩)
      · cases herror.symm.trans hclient
      · cases hother.symm.trans hclient
        cases (hlost []).symm.trans (hread []).2
    · rintro (h | ⟨d, hd, hcontrol⟩)
      · exact hascii h
      · exact hlegal d hd hcontrol

/-- Blanks around a token and a tab within it are carried along. -/
theorem carries_sample : Text.trim " one\ttoken " ≠ "" ∧ Carries " one\ttoken " := by
  have hsome : Text.trim " one\ttoken " ≠ "" := by decide
  have hascii : ∀ c ∈ " one\ttoken ".toList, c.toNat < 128 :=
    List.all_iff_forall_prop.mp (by decide)
  exact ⟨hsome, (carries_iff hsome).1.mpr (.inl hascii)⟩

/-- A token with a letter beyond ASCII is accepted and then lost. -/
theorem not_carries_letter : Text.trim "tøken" ≠ "" ∧ ¬Carries "tøken" := by
  refine ⟨by decide, ?_⟩
  rintro (herror | ⟨client, hclient, hread⟩)
  · have hok : (ofToken? "tøken").isOk = true := rfl
    rw [herror] at hok
    cases hok
  · have hvalue : client.authorization = Text.utf8 "Bearer tøken" := by
      cases hclient
      rfl
    have htoken := (hread []).2
    rw [token?_send, hvalue] at htoken
    cases htoken

end Client
end Rpc
end Bearer
