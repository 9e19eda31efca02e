import Bearer.Json.Reader
import Bearer.Json.Writer

/-!
# Reading back what was written

The compact form of a value is read back as that value, whatever follows it. A string may hold any
bytes: each is escaped to a text that the reader undoes in one step. An integer is written in
decimal, and only what cannot continue a number may follow it; inside a value that is a comma or a
closing bracket. Numbers of another form keep their own text and are left out.

Main statements: `readString_escape`, `readNumber_ofInt`, `readValue_write` and `parse?_write`.
-/

namespace Bearer.Json

/-! ## Strings -/

/-- The value of a digit is read back from it. -/
theorem hexValue?_hexDigit :
    ∀ n < 16, Text.hexValue? (Char.ofUInt8 (Text.hexDigit n).toUInt8) = some n := by
  decide

/-- The value of a byte is read back from the escape that is written for it. -/
theorem codeUnit?_hex (b : UInt8) (rest : Bytes) :
    codeUnit? (0x30 :: 0x30 :: ((Text.hex [b]).map Char.toUInt8 ++ rest)) =
      some (b.toNat, rest) := by
  have hlt := b.toNat_lt
  have hhigh := hexValue?_hexDigit (b.toNat / 16) (by omega)
  have hlow := hexValue?_hexDigit (b.toNat % 16) (by omega)
  have hzero : Text.hexValue? (Char.ofUInt8 0x30) = some 0 := by decide
  simp only [Text.hex, List.flatMap_cons, List.flatMap_nil, List.append_nil, List.map_cons,
    List.map_nil, List.cons_append, List.nil_append, codeUnit?, hzero, hhigh, hlow,
    Option.bind_eq_bind, Option.bind_some, Option.pure_def, Option.some.injEq, Prod.mk.injEq,
    and_true]
  -- two hexadecimal digits make up the byte
  omega

/-- An escape in a string is read as what it stands for. -/
theorem readString_backslash {fuel : Nat} {bytes unit rest : Bytes}
    (h : escape? bytes = some (unit, rest)) :
    readString (fuel + 1) (0x5C :: bytes) =
      (readString fuel rest).map fun (content, rest) => (unit ++ content, rest) := by
  rw [readString, if_neg (by decide), if_neg (by decide), if_pos rfl, h]
  simp only [Option.bind_eq_bind, Option.bind_some]
  cases readString fuel rest <;> rfl

/-- An escape by a letter is read in one step. -/
theorem readString_letter (letter : UInt8) {fuel : Nat} {escaped : String} {b : UInt8}
    {rest : Bytes} (hescaped : Text.utf8 escaped = [0x5C, letter])
    (h : escape? (letter :: rest) = some ([b], rest)) :
    readString (fuel + 1) (Text.utf8 escaped ++ rest) =
      (readString fuel rest).map fun (content, rest) => (b :: content, rest) := by
  rw [hescaped]
  exact readString_backslash h

/-- A control character is read back from its code unit. -/
theorem escape?_control {b : UInt8} (hb : b < 0x20) (rest : Bytes) :
    escape? (0x75 :: 0x30 :: 0x30 :: ((Text.hex [b]).map Char.toUInt8 ++ rest)) =
      some ([b], rest) := by
  have hlt : b.toNat < 0x20 := UInt8.lt_iff_toNat_lt.mp hb
  have hpoint : encodePoint b.toNat = [b] := by
    rw [encodePoint, if_pos (by omega), UInt8.ofNat_toNat]
  -- a control character is not half of a surrogate pair
  have hunit : ¬(0xD800 ≤ b.toNat ∧ b.toNat ≤ 0xDBFF) := by omega
  rw [escape?, if_neg (by decide), if_neg (by decide), if_neg (by decide), if_neg (by decide),
    if_neg (by decide), if_neg (by decide), if_pos rfl, codeUnit?_hex]
  simp only [Option.bind_eq_bind, Option.bind_some, if_neg hunit, hpoint, Option.pure_def]

/-- The reader undoes the escape of one byte. -/
theorem readString_escapeByte (fuel : Nat) (b : UInt8) (rest : Bytes) :
    readString (fuel + 1) (escapeByte b ++ rest) =
      (readString fuel rest).map fun (content, rest) => (b :: content, rest) := by
  unfold escapeByte
  -- the seven characters with an escape of their own, then the other control characters
  split
  · next hb => exact hb ▸ readString_letter 0x22 (by decide) rfl
  split
  · next hb => exact hb ▸ readString_letter 0x5C (by decide) rfl
  split
  · next hb => exact hb ▸ readString_letter 0x62 (by decide) rfl
  split
  · next hb => exact hb ▸ readString_letter 0x66 (by decide) rfl
  split
  · next hb => exact hb ▸ readString_letter 0x6E (by decide) rfl
  split
  · next hb => exact hb ▸ readString_letter 0x72 (by decide) rfl
  split
  · next hb => exact hb ▸ readString_letter 0x74 (by decide) rfl
  split
  · next hb =>
    have hpre : Text.utf8 "\\u00" = [0x5C, 0x75, 0x30, 0x30] := by decide
    rw [hpre, List.append_assoc]
    exact readString_backslash (escape?_control hb rest)
  · next hquote hbackslash _ _ _ _ _ hcontrol =>
    -- every other byte stands for itself
    rw [List.singleton_append, readString, if_neg hquote, if_neg hcontrol, if_neg hbackslash]
    cases readString fuel rest <;> rfl

/-- The reader undoes the escape of a string. -/
theorem readString_escape {fuel : Nat} {content : Bytes} (rest : Bytes)
    (hfuel : content.length < fuel) :
    readString fuel (content.flatMap escapeByte ++ 0x22 :: rest) = some (content, rest) := by
  induction content generalizing fuel with
  | nil =>
    obtain ⟨fuel, rfl⟩ := Nat.exists_eq_succ_of_ne_zero (Nat.ne_of_gt hfuel)
    rfl
  | cons b content ih =>
    -- one unit of fuel for one byte, however long its escape is
    obtain ⟨fuel, rfl⟩ := Nat.exists_eq_succ_of_ne_zero (Nat.ne_of_gt (Nat.zero_lt_of_lt hfuel))
    rw [List.flatMap_cons, List.append_assoc, Nat.succ_eq_add_one, readString_escapeByte,
      ih (by simpa using hfuel)]
    rfl

/-! ## Integers -/

/-- Nothing follows that could continue a number. -/
def EndsNumber (rest : Bytes) : Prop :=
  ∀ b, rest.head? = some b → b = 0x2C ∨ b = 0x5D ∨ b = 0x7D

/-- A number ends where the bytes do. -/
theorem endsNumber_nil : EndsNumber [] := by
  intro b h
  cases h

def digitBytes (n : Nat) : Bytes := (Text.Decimal.digits n).map Char.toUInt8

/-- The digit of a number below ten is a digit, and its value is that number. -/
theorem isDigit_digitChar :
    ∀ d < 10, isDigit d.digitChar.toUInt8 ∧ d.digitChar.toUInt8.toNat - 0x30 = d := by
  decide

/-- The last digit comes off the end. -/
theorem digitBytes_eq (n : Nat) :
    digitBytes n = if n < 10 then [n.digitChar.toUInt8]
      else digitBytes (n / 10) ++ [(n % 10).digitChar.toUInt8] := by
  rw [digitBytes, Text.Decimal.digits, Nat.toDigits_eq_if (by decide)]
  split
  · rfl
  · rw [List.map_append]
    rfl

/-- What a number is written with is digits. -/
theorem isDigit_of_mem_digitBytes {n : Nat} : ∀ b ∈ digitBytes n, isDigit b := by
  induction n using Nat.strongRecOn with
  | ind n ih =>
    intro b hb
    rw [digitBytes_eq] at hb
    split at hb
    · next hn =>
      rw [List.mem_singleton.mp hb]
      exact (isDigit_digitChar n hn).1
    · next hn =>
      rcases List.mem_append.mp hb with hinit | hlast
      · exact ih (n / 10) (by omega) b hinit
      · rw [List.mem_singleton.mp hlast]
        exact (isDigit_digitChar (n % 10) (Nat.mod_lt _ (by decide))).1

/-- A number is read back from its digits. -/
theorem digitsValue_digitBytes (n : Nat) : digitsValue (digitBytes n) = n := by
  induction n using Nat.strongRecOn with
  | ind n ih =>
    rw [digitBytes_eq]
    split
    · next hn =>
      rw [digitsValue, List.foldl_cons, List.foldl_nil, (isDigit_digitChar n hn).2, Nat.zero_mul,
        Nat.zero_add]
    · next hn =>
      have hrest := ih (n / 10) (by omega)
      rw [digitsValue] at hrest
      rw [digitsValue, List.foldl_append, hrest, List.foldl_cons, List.foldl_nil,
        (isDigit_digitChar (n % 10) (Nat.mod_lt _ (by decide))).2]
      omega

/-- The digits of a number start with no zero, unless it is zero. -/
theorem digitBytes_eq_cons (n : Nat) :
    ∃ b rest, digitBytes n = b :: rest ∧ isDigit b ∧ (b = 0x30 → n = 0 ∧ rest = []) := by
  induction n using Nat.strongRecOn with
  | ind n ih =>
    rw [digitBytes_eq]
    split
    · next hn =>
      refine ⟨_, [], rfl, (isDigit_digitChar n hn).1, fun hzero => ⟨?_, rfl⟩⟩
      rw [← (isDigit_digitChar n hn).2, hzero]
      rfl
    · next hn =>
      obtain ⟨b, rest, heq, hdigit, hzero⟩ := ih (n / 10) (by omega)
      refine ⟨b, rest ++ [(n % 10).digitChar.toUInt8], ?_, hdigit, fun hb => ?_⟩
      · rw [heq]
        rfl
      · -- a number of two digits or more does not start with a zero
        have := (hzero hb).1
        omega

/-- The digits of a number are read up to what cannot continue it. -/
theorem whole?_digitBytes (n : Nat) {rest : Bytes} (hrest : EndsNumber rest) :
    whole? (digitBytes n ++ rest) = some (digitBytes n, rest) := by
  have hstop : ∀ b, rest.head? = some b → isDigit b = false := by
    intro b hb
    rcases hrest b hb with rfl | rfl | rfl <;> rfl
  obtain ⟨b, more, heq, hdigit, hzero⟩ := digitBytes_eq_cons n
  have hmore : ∀ c ∈ more, isDigit c := fun c hc =>
    isDigit_of_mem_digitBytes c (heq ▸ List.mem_cons_of_mem b hc)
  rw [heq, List.cons_append, whole?]
  by_cases hb : b = 0x30
  · -- a leading zero is the whole number
    rw [if_pos hb, (hzero hb).2]
    rfl
  · rw [if_neg hb, if_pos hdigit, spanDigits, List.takeWhile_append_of_pos hmore,
      List.dropWhile_append_of_pos hmore]
    cases rest with
    | nil => simp
    | cons c rest => simp [hstop c rfl]

/-- Neither a fraction nor an exponent starts with what cannot continue a number. -/
theorem fraction?_of_endsNumber {rest : Bytes} (h : EndsNumber rest) :
    fraction? rest = some ([], rest) ∧ exponent? rest = some ([], rest) := by
  cases rest with
  | nil => exact ⟨rfl, rfl⟩
  | cons b rest => rcases h b rfl with rfl | rfl | rfl <;> exact ⟨rfl, rfl⟩

/-- A minus sign and digits, or digits alone, are read as an integer; minus zero is not meant. -/
theorem readNumber_of_minusSign {bytes sign rest : Bytes} {n : Nat} (hrest : EndsNumber rest)
    (hsign : minusSign bytes = (sign, digitBytes n ++ rest)) (hzero : sign = [] ∨ n ≠ 0) :
    readNumber bytes =
      some (.int (if sign.isEmpty then (n : Int) else -(n : Int)), rest) := by
  obtain ⟨hfraction, hexponent⟩ := fraction?_of_endsNumber hrest
  -- minus zero would be read as a number of another form
  have hint : (!(sign ≠ [] && n = 0)) = true := by
    rcases hzero with h | h <;> simp [h]
  simp only [readNumber, hsign, whole?_digitBytes n hrest, hfraction, hexponent,
    digitsValue_digitBytes, Option.bind_eq_bind, Option.bind_some, Option.pure_def,
    List.isEmpty_nil, Bool.true_and, hint, if_true]

/-- An integer is read back from its decimal form. -/
theorem readNumber_ofInt (n : Int) {rest : Bytes} (hrest : EndsNumber rest) :
    readNumber ((Text.Decimal.ofInt n).map Char.toUInt8 ++ rest) = some (.int n, rest) := by
  cases n with
  | ofNat n =>
    have hsign : minusSign (digitBytes n ++ rest) = ([], digitBytes n ++ rest) := by
      obtain ⟨b, more, heq, hdigit, -⟩ := digitBytes_eq_cons n
      rw [heq, List.cons_append, minusSign]
      intro rest' h
      rw [(List.cons.inj h).1] at hdigit
      exact absurd hdigit (by decide)
    exact readNumber_of_minusSign hrest hsign (.inl rfl)
  | negSucc n =>
    have hsign : minusSign (0x2D :: (digitBytes (n + 1) ++ rest)) =
        ([0x2D], digitBytes (n + 1) ++ rest) := rfl
    exact readNumber_of_minusSign hrest hsign (.inr (Nat.succ_ne_zero n))

/-- An integer is written with a sign or a digit at first. -/
theorem ofInt_eq_cons (n : Int) :
    ∃ b rest, (Text.Decimal.ofInt n).map Char.toUInt8 = b :: rest ∧ (b = 0x2D ∨ isDigit b) := by
  cases n with
  | ofNat n =>
    obtain ⟨b, rest, heq, hdigit, -⟩ := digitBytes_eq_cons n
    exact ⟨b, rest, heq, .inr hdigit⟩
  | negSucc n => exact ⟨0x2D, digitBytes (n + 1), rfl, .inl rfl⟩

/-! ## Values -/

mutual

/-- Whether all numbers of a value are integers. -/
def isExact : Json → Bool
  | .real _ => false
  | .array items => areExact items
  | .object members => haveOnlyExact members
  | _ => true

/-- Whether all numbers of some items are integers. -/
def areExact : List Json → Bool
  | [] => true
  | item :: items => isExact item && areExact items

/-- Whether all numbers of some members are integers. -/
def haveOnlyExact : List (Bytes × Json) → Bool
  | [] => true
  | (_, value) :: members => isExact value && haveOnlyExact members

end

/-- No byte is written as nothing. -/
theorem escapeByte_ne_nil (b : UInt8) : escapeByte b ≠ [] := by
  unfold escapeByte
  repeat' split
  all_goals first
    | decide
    | exact List.append_ne_nil_of_left_ne_nil (by decide) _
    | exact List.cons_ne_nil _ _

/-- A string is read back, whatever follows it. -/
theorem readString_writeString (content rest : Bytes) :
    readString (content.flatMap escapeByte ++ 0x22 :: rest).length
      (content.flatMap escapeByte ++ 0x22 :: rest) = some (content, rest) := by
  refine readString_escape rest ?_
  -- no escape is empty, so the text has fuel enough for its content
  have hlong : content.length ≤ (content.flatMap escapeByte).length := by
    induction content with
    | nil => exact Nat.le_refl _
    | cons b content ih =>
      have hb := List.length_pos_iff.mpr (escapeByte_ne_nil b)
      rw [List.flatMap_cons, List.length_append, List.length_cons]
      omega
  rw [List.length_append, List.length_cons]
  omega

/-- A string is written between quotes. -/
theorem writeString_append (content rest : Bytes) :
    writeString content ++ rest = 0x22 :: (content.flatMap escapeByte ++ 0x22 :: rest) := by
  rw [writeString, List.cons_append, List.append_assoc]
  rfl

/-- No space is skipped where there is none. -/
theorem skip_cons {b : UInt8} (h : isSpace b = false) (rest : Bytes) :
    skip (b :: rest) = b :: rest := by
  rw [skip, List.dropWhile_cons_of_neg (by simp [h])]

/-- The name of a member is read back with the colon after it. -/
theorem readName_writeString (name rest : Bytes) :
    readName (writeString name ++ 0x3A :: rest) = some (name, rest) := by
  rw [writeString_append, readName]
  simp only [skip_cons (show isSpace 0x22 = false by decide), readString_writeString,
    Option.bind_eq_bind, Option.bind_some]
  rfl

/-- What follows an item ends a number. -/
theorem endsNumber_writeItems (items : List Json) (rest : Bytes) :
    EndsNumber (writeItems items ++ rest) := by
  intro b hb
  cases items with
  | nil =>
    rw [writeItems] at hb
    exact .inr (.inl (Option.some.inj hb).symm)
  | cons item items =>
    rw [writeItems] at hb
    exact .inl (Option.some.inj hb).symm

/-- What follows a member ends a number. -/
theorem endsNumber_writeMembers (members : List (Bytes × Json)) (rest : Bytes) :
    EndsNumber (writeMembers members ++ rest) := by
  intro b hb
  cases members with
  | nil =>
    rw [writeMembers] at hb
    exact .inr (.inr (Option.some.inj hb).symm)
  | cons member members =>
    rw [writeMembers] at hb
    exact .inl (Option.some.inj hb).symm

/-- What starts an integer is no other byte than a minus sign or a digit. -/
theorem ne_of_first {b : UInt8} (hfirst : b = 0x2D ∨ isDigit b) (c : UInt8) (hminus : c ≠ 0x2D)
    (hdigit : isDigit c = false) : b ≠ c := by
  rintro rfl
  rcases hfirst with h | h
  · exact hminus h
  · exact absurd h (by simp [hdigit])

/-- An integer does not start with a space. -/
theorem isSpace_of_first {b : UInt8} (hfirst : b = 0x2D ∨ isDigit b) : isSpace b = false := by
  have hne := ne_of_first hfirst
  simp [isSpace, hne 0x20 (by decide) rfl, hne 0x09 (by decide) rfl, hne 0x0A (by decide) rfl,
    hne 0x0D (by decide) rfl]

/-- An integer is read back where it ends. -/
theorem readValue_ofInt (fuel : Nat) (n : Int) {rest : Bytes} (hrest : EndsNumber rest) :
    readValue (fuel + 1) ((Text.Decimal.ofInt n).map Char.toUInt8 ++ rest) =
      some (.int n, rest) := by
  obtain ⟨b, more, heq, hfirst⟩ := ofInt_eq_cons n
  have hread := readNumber_ofInt n hrest
  rw [heq, List.cons_append] at hread ⊢
  -- what starts an integer starts no other value
  have hne := @ne_of_first b hfirst
  have hskip := skip_cons (isSpace_of_first hfirst) (more ++ rest)
  have hword : readWord (b :: (more ++ rest)) = none := by
    rw [readWord]
    · exact fun _ h => hne 0x74 (by decide) rfl (List.cons.inj h).1
    · exact fun _ h => hne 0x66 (by decide) rfl (List.cons.inj h).1
    · exact fun _ h => hne 0x6E (by decide) rfl (List.cons.inj h).1
  rw [readValue, hskip]
  split
  · next h => exact absurd (List.cons.inj h).1 (hne 0x22 (by decide) rfl)
  · next h => exact absurd (List.cons.inj h).1 (hne 0x5B (by decide) rfl)
  · next h => exact absurd (List.cons.inj h).1 (hne 0x7B (by decide) rfl)
  · rw [hword, Option.none_or, hread]

/-- What is written starts with neither a blank nor a closing bracket. -/
theorem write_eq_cons (json : Json) (hexact : isExact json) :
    ∃ b rest, write json = b :: rest ∧ isSpace b = false ∧ b ≠ 0x5D := by
  have hcons {b : UInt8} (rest : Bytes) (hspace : isSpace b = false) (hne : b ≠ 0x5D) :
      ∃ c more, b :: rest = c :: more ∧ isSpace c = false ∧ c ≠ 0x5D :=
    ⟨b, rest, rfl, hspace, hne⟩
  unfold write
  split
  · exact hcons [0x75, 0x6C, 0x6C] (b := 0x6E) (by decide) (by decide)
  · exact hcons [0x72, 0x75, 0x65] (b := 0x74) (by decide) (by decide)
  · exact hcons [0x61, 0x6C, 0x73, 0x65] (b := 0x66) (by decide) (by decide)
  · next n =>
    -- a number starts with a sign or a digit, and all else with a sign of its own
    obtain ⟨b, rest, heq, hfirst⟩ := ofInt_eq_cons n
    rw [heq]
    exact hcons rest (isSpace_of_first hfirst) (ne_of_first hfirst 0x5D (by decide) rfl)
  · cases hexact
  · exact hcons _ (by decide) (by decide)
  · exact hcons [0x5D] (b := 0x5B) (by decide) (by decide)
  · exact hcons _ (by decide) (by decide)
  · exact hcons [0x7D] (b := 0x7B) (by decide) (by decide)
  · exact hcons _ (by decide) (by decide)

/-- A bracket that opens a container is followed by its first item or member. -/
theorem skip_write (json : Json) (hexact : isExact json) (rest : Bytes) :
    skip (write json ++ rest) = write json ++ rest ∧
      ∀ more, write json ++ rest ≠ 0x5D :: more := by
  obtain ⟨b, more, heq, hspace, hne⟩ := write_eq_cons json hexact
  rw [heq, List.cons_append]
  exact ⟨skip_cons hspace _, fun _ h => hne (List.cons.inj h).1⟩

/-- An array is read if the items between its brackets are. -/
theorem readValue_array {fuel : Nat} {bytes rest : Bytes} {items : List Json}
    (hskip : skip bytes = bytes) (hopen : ∀ more, bytes ≠ 0x5D :: more)
    (hitems : readItems fuel bytes = some (items, rest)) :
    readValue (fuel + 1) (0x5B :: bytes) = some (.array items, rest) := by
  rw [readValue, skip_cons (by decide)]
  simp only [hskip]
  rw [hitems]
  rfl

/-- An object is read if the members between its braces are. -/
theorem readValue_object {fuel : Nat} {bytes rest : Bytes} {members : List (Bytes × Json)}
    (hskip : skip bytes = bytes) (hopen : ∀ more, bytes ≠ 0x7D :: more)
    (hmembers : readMembers fuel bytes = some (members, rest)) :
    readValue (fuel + 1) (0x7B :: bytes) = some (.object members, rest) := by
  rw [readValue, skip_cons (by decide)]
  simp only [hskip]
  rw [hmembers]
  rfl

mutual

/-- A value is read back, whatever follows it that cannot continue a number. -/
theorem readValue_write (json : Json) (hexact : isExact json) {fuel : Nat} {rest : Bytes}
    (hfuel : 2 * (write json).length < fuel) (hrest : EndsNumber rest) :
    readValue fuel (write json ++ rest) = some (json, rest) := by
  -- two units of fuel for each byte pay for an item and for the list that it stands in
  obtain ⟨fuel, rfl⟩ := Nat.exists_eq_succ_of_ne_zero (Nat.ne_zero_of_lt hfuel)
  match json with
  | .null => rfl
  | .bool true => rfl
  | .bool false => rfl
  | .int n =>
    rw [write]
    exact readValue_ofInt fuel n hrest
  | .real _ => cases hexact
  | .string content =>
    rw [write, writeString_append, Nat.succ_eq_add_one, readValue, skip_cons (by decide)]
    simp only [readString_writeString, Option.bind_eq_bind, Option.bind_some]
    rfl
  | .array [] => rfl
  | .array (item :: items) =>
    rw [isExact, areExact, Bool.and_eq_true] at hexact
    rw [write, List.length_cons, List.length_append] at hfuel
    rw [write, List.cons_append, List.append_assoc]
    obtain ⟨hskip, hopen⟩ := skip_write item hexact.1 (writeItems items ++ rest)
    exact readValue_array hskip hopen (readItems_write item items hexact.1 hexact.2 (by omega))
  | .object [] => rfl
  | .object ((name, value) :: members) =>
    rw [isExact, haveOnlyExact, Bool.and_eq_true] at hexact
    rw [write, List.length_cons, List.length_append, List.length_cons, List.length_append] at hfuel
    rw [write, List.cons_append, List.append_assoc, List.cons_append, List.append_assoc]
    apply readValue_object ?_ ?_
      (readMembers_write name value members hexact.1 hexact.2 (by omega))
    · rw [writeString_append, skip_cons (by decide)]
    · intro more h
      rw [writeString_append] at h
      exact absurd (List.cons.inj h).1 (by decide)
termination_by fuel

/-- Items that can be read back are, one after the other. -/
theorem readItems_write (item : Json) (items : List Json) (hexact : isExact item)
    (hexacts : areExact items) {fuel : Nat} {rest : Bytes}
    (hfuel : 2 * ((write item).length + (writeItems items).length) ≤ fuel) :
    readItems fuel (write item ++ (writeItems items ++ rest)) = some (item :: items, rest) := by
  have hpos : 0 < (writeItems items).length := by cases items <;> simp [writeItems]
  obtain ⟨fuel, rfl⟩ := Nat.exists_eq_succ_of_ne_zero (Nat.ne_zero_of_lt (by omega : 0 < fuel))
  rw [Nat.succ_eq_add_one, readItems,
    readValue_write item hexact (by omega) (endsNumber_writeItems items rest)]
  simp only [Option.bind_eq_bind, Option.bind_some]
  match items with
  | [] => rfl
  | next :: items =>
    -- a comma follows, and the items after it by induction
    rw [areExact, Bool.and_eq_true] at hexacts
    rw [writeItems, List.length_cons, List.length_append] at hfuel
    rw [writeItems, List.cons_append, List.append_assoc, skip_cons (by decide)]
    have hitems : readItems fuel (write next ++ (writeItems items ++ rest)) =
        some (next :: items, rest) :=
      readItems_write next items hexacts.1 hexacts.2 (by omega)
    simp only [hitems, Option.bind_some]
    rfl
termination_by fuel

/-- Members whose values can be read back are, one after the other. -/
theorem readMembers_write (name : Bytes) (value : Json) (members : List (Bytes × Json))
    (hexact : isExact value) (hexacts : haveOnlyExact members) {fuel : Nat} {rest : Bytes}
    (hfuel : 2 * ((write value).length + (writeMembers members).length) ≤ fuel) :
    readMembers fuel (writeString name ++ 0x3A :: (write value ++ (writeMembers members ++ rest))) =
      some ((name, value) :: members, rest) := by
  have hpos : 0 < (writeMembers members).length := by cases members <;> simp [writeMembers]
  obtain ⟨fuel, rfl⟩ := Nat.exists_eq_succ_of_ne_zero (Nat.ne_zero_of_lt (by omega : 0 < fuel))
  rw [Nat.succ_eq_add_one, readMembers, readName_writeString]
  simp only [Option.bind_eq_bind, Option.bind_some]
  rw [readValue_write value hexact (by omega) (endsNumber_writeMembers members rest)]
  simp only [Option.bind_some]
  match members with
  | [] => rfl
  | (name', value') :: members =>
    rw [haveOnlyExact, Bool.and_eq_true] at hexacts
    rw [writeMembers, List.length_cons, List.length_append, List.length_cons,
      List.length_append] at hfuel
    rw [writeMembers, List.cons_append, List.append_assoc, List.cons_append, List.append_assoc,
      skip_cons (by decide)]
    have hmembers : readMembers fuel
        (writeString name' ++ 0x3A :: (write value' ++ (writeMembers members ++ rest))) =
          some ((name', value') :: members, rest) :=
      readMembers_write name' value' members hexacts.1 hexacts.2 (by omega)
    simp only [hmembers, Option.bind_some]
    rfl
termination_by fuel

end

/-- The compact form of a value is read back as that value. -/
theorem parse?_write (json : Json) (hexact : isExact json) : parse? (write json) = some json := by
  have hread : readValue (enoughFuel (write json)) (write json ++ []) = some (json, []) :=
    readValue_write json hexact (by rw [enoughFuel]; omega) endsNumber_nil
  rw [List.append_nil] at hread
  rw [parse?, hread]
  rfl

end Bearer.Json
