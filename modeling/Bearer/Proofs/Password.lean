import Bearer.Password.Verify
import Bearer.Proofs.Base64

/-!
# A password and its own hash

The text that is stored for a password is read as the hash that was written, and the password
matches it, whatever the password and the salt are. The digest itself is never looked into.

Main statement: `verify_hash`.
-/

namespace Bearer

/-! ## Lengths -/

namespace Digest.Blake2b

/-- The state keeps its eight words when a block is absorbed. -/
theorem size_absorb (state block : Array UInt64) (count : Nat) (isLast : Bool) :
    (absorb state block count isLast).size = 8 := by
  rw [absorb, Array.size_map, Array.size_range]

/-- The state keeps its eight words whatever is absorbed. -/
theorem size_absorbAll (state : Array UInt64) (count : Nat) (message : Bytes) :
    (absorbAll state count message).size = 8 := by
  fun_induction absorbAll state count message with
  | case1 state count message h => exact size_absorb _ _ _ _
  | case2 state count message h ih => exact ih

/-- A digest has the length that is asked for. -/
theorem length_digest {length : Nat} (h : length ≤ 64) (message : Bytes) :
    (digest length message).length = length := by
  have hword (w : UInt64) : (ofWord w).length = 8 := by
    rw [ofWord, List.length_map, List.length_range]
  rw [digest, List.length_take, List.length_flatMap]
  simp only [hword, List.map_const', List.sum_replicate_nat, Array.length_toList, size_absorbAll]
  omega

end Digest.Blake2b

namespace Password

/-- A digest has the length that its parameters ask for. -/
theorem Argon2.Params.length_digest {params : Params} (h : params.length ≤ 64)
    (password salt : Bytes) : (params.digest password salt).length = params.length := by
  rw [digest, longDigest, lengthen, if_pos h]
  exact Digest.Blake2b.length_digest h _

namespace HashString

/-- No symbol of base64 is the sign that separates the parts of a record. -/
theorem dollar_notMem_encode (bytes : Bytes) : '$' ∉ Base64.encode Base64.standard bytes := by
  intro h
  have hsymbol : ∀ n < 64, '$' ≠ Base64.standard.symbol n := by decide
  obtain ⟨n, hn, heq⟩ := Base64.exists_symbol_of_mem_encode h
  exact hsymbol n hn heq

/-- The fields of a stored hash. -/
theorem pieces_write (salt digest : Bytes) :
    Text.pieces '$' (write salt digest) =
      [[], "argon2id".toList, "v=19".toList, "m=19456,t=2,p=1".toList,
        Base64.encode Base64.standard salt, Base64.encode Base64.standard digest] := by
  have hstart : "$argon2id$v=19$m=19456,t=2,p=1$".toList =
      [] ++ '$' :: ("argon2id".toList ++ '$' :: ("v=19".toList ++ '$' ::
        ("m=19456,t=2,p=1".toList ++ ['$']))) := by
    decide
  have hfields (a b : List Char) : "$argon2id$v=19$m=19456,t=2,p=1$".toList ++ a ++ '$' :: b =
      [] ++ '$' :: ("argon2id".toList ++ '$' :: ("v=19".toList ++ '$' ::
        ("m=19456,t=2,p=1".toList ++ '$' :: (a ++ '$' :: b)))) := by
    simp only [hstart, List.nil_append, List.append_assoc, List.cons_append]
  -- no field holds the sign that separates them
  have halgorithm : '$' ∉ "argon2id".toList := by decide
  have hversion : '$' ∉ "v=19".toList := by decide
  have hcosts : '$' ∉ "m=19456,t=2,p=1".toList := by decide
  unfold write
  rw [hfields, Text.pieces_append List.not_mem_nil, Text.pieces_append halgorithm,
    Text.pieces_append hversion, Text.pieces_append hcosts,
    Text.pieces_append (dollar_notMem_encode salt),
    Text.pieces_eq_singleton (dollar_notMem_encode digest)]

/-- A stored hash is read as it was written. -/
theorem ofChars?_write {salt digest : Bytes} (hsalt : 8 ≤ salt.length ∧ salt.length ≤ 48)
    (hdigest : 10 ≤ digest.length ∧ digest.length ≤ 64) :
    ofChars? (write salt digest) = some ⟨defaults .id .v19 digest.length, salt, digest⟩ := by
  have hvariant : variant? "argon2id".toList = some .id := by decide
  have hfields (fields : List (List Char)) :
      versionField ("v=19".toList :: fields) = (some "19".toList, fields) := rfl
  have hversion : version? "19".toList = some .v19 := by rfl
  have hcostField (fields : List (List Char)) :
      costField ("m=19456,t=2,p=1".toList :: fields) = ("m=19456,t=2,p=1".toList, fields) := rfl
  have hcosts : (Text.pieces ',' "m=19456,t=2,p=1".toList).foldlM withCost?
      (defaults .id .v19 digest.length) = some (defaults .id .v19 digest.length) := by
    rfl
  have hshort : 4 ≤ (Base64.encode Base64.standard salt).length ∧
      (Base64.encode Base64.standard salt).length ≤ 64 := by
    rw [Base64.length_encode]
    omega
  have hsound : areSound (defaults .id .v19 digest.length) = true := rfl
  have hguard {p : Prop} [Decidable p] (h : p) : (guard p : Option Unit) = some () := if_pos h
  -- the fields are read one after the other, and every check succeeds
  unfold ofChars?
  rw [pieces_write]
  simp only [Option.bind_eq_bind, hvariant, hfields, hversion, hcostField, Option.bind_some,
    hguard hshort, Base64.decode?_encode, hguard (And.intro hsalt.1 hdigest)]
  have hbrief : "m=19456,t=2,p=1".toList.length ≤ 127 := by decide
  have hsome : ¬"m=19456,t=2,p=1".toList.isEmpty := by decide
  rw [hguard hbrief, Option.bind_some, if_neg hsome, hcosts, Option.bind_some, hguard hsound]
  rfl

end HashString

/-- A password matches the text that is stored for it. -/
theorem verify_hash {salt : Bytes} (hsalt : 8 ≤ salt.length ∧ salt.length ≤ 48)
    (password : String) : verify password (hash salt password) = true := by
  have hlength := (HashString.defaults .id .v19 digestLength).length_digest (by decide)
    (Text.utf8 password) salt
  have hbounds : 10 ≤ ((HashString.defaults .id .v19 digestLength).digest (Text.utf8 password)
      salt).length ∧ ((HashString.defaults .id .v19 digestLength).digest (Text.utf8 password)
      salt).length ≤ 64 := by
    rw [hlength]
    decide
  have hread := HashString.ofChars?_write hsalt hbounds
  rw [hlength] at hread
  rw [verify, hash, String.toList_ofList, hread]
  exact decide_eq_true rfl

end Password
end Bearer
