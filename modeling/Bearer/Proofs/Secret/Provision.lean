import Bearer.Proofs.Base64.Symbols
import Bearer.Proofs.Credential
import Bearer.Proofs.Secret.Runs
import Bearer.Proofs.Settings.Window

/-!
# Provisioned secrets

A secret is provisioned by writing random bytes in base 64. What is judged when it is put to use are
the characters of that text, and these are not looked at when it is made: random bytes that hold
four equal groups of six bits in a row, for example, are written as four equal characters, and a
service that is given the text refuses to start.

The text is always long enough, and the padding at its end completes no run (`hasRun_padded_iff`).
So what is left to chance is the entropy of the text, and whether four neighbouring groups of six
bits are a run (`hasRun_provisioned_iff`).

Main statements: `provisioned_fit_iff`, and `provisioned_with_run` with a text that is refused.
-/

namespace Bearer.Secret

open Base64 (sextets standard)

/-! ## Padding -/

/-- What does not hold a character does not reach into the filling with it. -/
theorem infix_of_append_replicate {α : Type} {part text : List α} {a : α} {n : Nat}
    (h : part <:+: text ++ List.replicate n a) (ha : a ∉ part) : part <:+: text := by
  induction n with
  | zero => rwa [List.replicate_zero, List.append_nil] at h
  | succ n ih =>
    rw [List.replicate_succ', ← List.append_assoc, List.infix_concat_iff] at h
    rcases h with hback | htogether
    · rcases List.suffix_concat_iff.mp hback with rfl | ⟨init, rfl, -⟩
      · exact List.nil_infix
      · exact absurd (by simp) ha
    · exact ih htogether

/-- The byte of an equals sign. -/
def padding : UInt8 := 0x3D

/-- Fewer than four equals signs complete no run after bytes that lie apart from them. -/
theorem hasRun_padded_iff {text : Bytes} {n : Nat} (hn : n < 4)
    (htext : ∀ x ∈ text, x.toNat + 1 ≠ padding.toNat ∧ x.toNat ≠ padding.toNat ∧
      x.toNat ≠ padding.toNat + 1) :
    hasRun (text ++ List.replicate n padding) = true ↔ hasRun text = true := by
  rw [hasRun_iff_four, hasRun_iff_four]
  constructor
  · rintro ⟨a, b, c, d, htogether, hrun⟩
    refine ⟨a, b, c, d, infix_of_append_replicate htogether fun hmem => ?_, hrun⟩
    have hrange (x : UInt8) (hx : x ∈ [a, b, c, d]) :
        x.toNat + 1 ≠ padding.toNat ∧ x.toNat ≠ padding.toNat + 1 := by
      rcases List.mem_append.mp (htogether.subset hx) with hx | hx
      · exact ⟨(htext x hx).1, (htext x hx).2.2⟩
      · rw [List.eq_of_mem_replicate hx]
        decide
    rcases hrun with ⟨rfl, rfl, rfl⟩ | ⟨hab, hbc, hcd⟩
    · -- four equals signs are more than there are
      have ha : a = padding := by simpa [eq_comm] using hmem
      have hcount := htogether.sublist.count_le padding
      have hnone : text.count padding = 0 :=
        List.count_eq_zero.mpr fun hx => (htext padding hx).2.1 rfl
      rw [ha, List.count_append, hnone, List.count_replicate_self] at hcount
      exact absurd hcount (by simpa using hn)
    · -- a neighbour of the equals sign would be next to it in ASCII
      have ha := hrange a (by simp)
      have hb := hrange b (by simp)
      have hc := hrange c (by simp)
      have hd := hrange d (by simp)
      simp only [List.mem_cons, List.not_mem_nil, or_false] at hmem
      rcases hmem with rfl | rfl | rfl | rfl <;> omega
  · rintro ⟨a, b, c, d, htogether, hrun⟩
    exact ⟨a, b, c, d, htogether.trans (List.prefix_append _ _).isInfix, hrun⟩

/-! ## The text -/

/-- The byte of the symbol of a value. -/
def symbolByte (n : Nat) : UInt8 := UInt8.ofNat (standard.symbol n).toNat

/-- The byte of a symbol has the number of the symbol. -/
theorem toNat_symbolByte {n : Nat} (h : n < 64) :
    (symbolByte n).toNat = (standard.symbol n).toNat :=
  Text.toNat_ofNat_of_ascii (Base64.standard_symbol_range h).1

/-- Different values have different symbols. -/
theorem symbolByte_inj {m n : Nat} (hm : m < 64) (hn : n < 64) :
    symbolByte m = symbolByte n ↔ m = n := by
  rw [← UInt8.toNat_inj, toNat_symbolByte hm, toNat_symbolByte hn, Char.toNat_inj,
    Base64.standard_symbol_inj hm hn]

/-- The text that is made of random bytes. -/
def provisioned (random : Bytes) : String :=
  String.ofList (Base64.encodePadded standard random)

/-- The text of random bytes is made of the symbols of their groups of six bits, and of padding. -/
theorem utf8_provisioned (random : Bytes) :
    ∃ n < 4, Text.utf8 (provisioned random) =
      (sextets random).map symbolByte ++ List.replicate n padding := by
  refine ⟨(4 - (Base64.encode standard random).length % 4) % 4, Nat.mod_lt _ (by decide), ?_⟩
  have htext : (provisioned random).toList =
      (sextets random).map standard.symbol ++
        List.replicate ((4 - (Base64.encode standard random).length % 4) % 4) '=' := by
    rw [provisioned, String.toList_ofList, Base64.encodePadded, Base64.pad,
      Base64.encode_eq_map_symbol]
  -- symbols and padding are ASCII, so each is one byte
  have hascii : ∀ c ∈ (provisioned random).toList, c.toNat < 128 := by
    intro c hc
    rw [htext, List.mem_append] at hc
    rcases hc with hc | hc
    · obtain ⟨n, hn, rfl⟩ := List.mem_map.mp hc
      exact (Base64.standard_symbol_range (Base64.lt_of_mem_sextets hn)).1
    · rw [List.eq_of_mem_replicate hc]
      decide
  rw [Text.utf8_of_ascii hascii, htext, List.map_append, List.map_map, List.map_replicate]
  rfl

/-- A provisioned text is long enough if its random bytes are. -/
theorem length_utf8_provisioned {random : Bytes} (h : minLength ≤ random.length) :
    minLength ≤ (Text.utf8 (provisioned random)).length := by
  obtain ⟨n, -, htext⟩ := utf8_provisioned random
  have hsymbols : (sextets random).length = (4 * random.length + 2) / 3 := by
    rw [← Base64.length_encode standard, Base64.encode_eq_map_symbol, List.length_map]
  rw [htext, List.length_append, List.length_map, hsymbols]
  omega

/-- Four groups of six bits that stand together are equal, or their symbols count upwards. -/
def HasSextetRun (random : Bytes) : Prop :=
  ∃ p q r s, [p, q, r, s] <:+: sextets random ∧
    ((p = q ∧ q = r ∧ r = s) ∨
      (Base64.Adjoins p q ∧ Base64.Adjoins q r ∧ Base64.Adjoins r s))

/-- Four symbols are a run exactly if their values are equal or adjoin each other one by one. -/
theorem isRun_symbolByte_iff {p q r s : Nat} (hp : p < 64) (hq : q < 64) (hr : r < 64)
    (hs : s < 64) :
    IsRun (symbolByte p) (symbolByte q) (symbolByte r) (symbolByte s) ↔
      (p = q ∧ q = r ∧ r = s) ∨
        (Base64.Adjoins p q ∧ Base64.Adjoins q r ∧ Base64.Adjoins r s) := by
  rw [IsRun, symbolByte_inj hp hq, symbolByte_inj hq hr, symbolByte_inj hr hs,
    toNat_symbolByte hp, toNat_symbolByte hq, toNat_symbolByte hr, toNat_symbolByte hs,
    Base64.standard_symbol_succ_iff hp hq, Base64.standard_symbol_succ_iff hq hr,
    Base64.standard_symbol_succ_iff hr hs]

/-- The text of random bytes has a run exactly if their groups of six bits have one. -/
theorem hasRun_provisioned_iff (random : Bytes) :
    hasRun (Text.utf8 (provisioned random)) = true ↔ HasSextetRun random := by
  obtain ⟨n, hn, htext⟩ := utf8_provisioned random
  rw [htext, hasRun_padded_iff hn, hasRun_iff_four, HasSextetRun]
  · -- four groups that stand together are within the alphabet
    have hrange {p q r s : Nat} (h : [p, q, r, s] <:+: sextets random) :
        p < 64 ∧ q < 64 ∧ r < 64 ∧ s < 64 := by
      refine ⟨?_, ?_, ?_, ?_⟩ <;> exact Base64.lt_of_mem_sextets (h.subset (by simp))
    constructor
    · rintro ⟨a, b, c, d, htogether, hrun⟩
      obtain ⟨part, hpart, heq⟩ := List.infix_map_iff.mp htogether
      obtain ⟨p, q, r, s, rfl⟩ : ∃ p q r s, part = [p, q, r, s] :=
        List.length_eq_four.mp (by rw [← List.length_map symbolByte, ← heq]; rfl)
      cases heq
      obtain ⟨hp, hq, hr, hs⟩ := hrange hpart
      exact ⟨p, q, r, s, hpart, (isRun_symbolByte_iff hp hq hr hs).mp hrun⟩
    · rintro ⟨p, q, r, s, htogether, hrun⟩
      obtain ⟨hp, hq, hr, hs⟩ := hrange htogether
      exact ⟨_, _, _, _, htogether.map symbolByte, (isRun_symbolByte_iff hp hq hr hs).mpr hrun⟩
  · intro x hx
    obtain ⟨value, hvalue, rfl⟩ := List.mem_map.mp hx
    have hlt := Base64.lt_of_mem_sextets hvalue
    rw [toNat_symbolByte hlt]
    exact (Base64.standard_symbol_range hlt).2

/-! ## Putting it to use -/

/-- Bytes make a secret exactly if nothing is wrong with them. -/
theorem exists_ofBytes?_iff {bytes : Bytes} :
    (∃ secret, ofBytes? bytes = .ok secret) ↔ weakness? bytes = none := by
  constructor
  · rintro ⟨secret, h⟩
    rw [← ofBytes?_eq_ok_iff.mp h]
    exact secret.fit
  · intro h
    exact ⟨⟨bytes, h⟩, ofBytes?_eq_ok_iff.mpr rfl⟩

/-- Bytes that are long enough are fit exactly if their entropy is high enough and they have no
run. -/
theorem weakness?_eq_none_iff {bytes : Bytes} (h : minLength ≤ bytes.length) :
    weakness? bytes = none ↔ entropyBelow 4 bytes = false ∧ hasRun bytes = false := by
  rw [weakness?, if_neg (Nat.not_lt.mpr h)]
  cases entropyBelow 4 bytes <;> cases hasRun bytes <;> simp

/-- A text is provisioned of enough random bytes, whatever they are. -/
theorem provision?_eq_ok {length : Nat} (h : minLength ≤ length) (random : Vector UInt8 length) :
    provision? length (some random) = .ok (provisioned random.toList) := by
  rw [provision?, if_neg (Nat.not_lt.mpr h)]
  rfl

/-- What comes of a text that is given to a service as its secret. -/
theorem loadSecret_eq {env : Environment} {text : String} (h : env.text? "JWT_SECRET" = .ok text) :
    Settings.loadSecret env =
      (ofBytes? (Text.utf8 text)).mapError fun refusal => .rejectedSecret refusal.message := by
  rw [Settings.loadSecret, Environment.required, h]
  rfl

/-- A secret is loaded exactly if its text makes one. -/
theorem exists_loadSecret_iff {env : Environment} {text : String}
    (h : env.text? "JWT_SECRET" = .ok text) :
    (∃ secret, Settings.loadSecret env = .ok secret) ↔
      ∃ secret, ofBytes? (Text.utf8 text) = .ok secret := by
  rw [loadSecret_eq h]
  cases ofBytes? (Text.utf8 text) <;> simp [Except.mapError]

/-- A source that gives nothing but zeros gives a run, however many bytes are asked for. -/
theorem hasSextetRun_zeros {length : Nat} (h : minLength ≤ length) :
    HasSextetRun (List.replicate length 0) := by
  obtain ⟨more, rfl⟩ := Nat.exists_eq_add_of_le' (Nat.le_trans (by decide : 3 ≤ minLength) h)
  refine ⟨0, 0, 0, 0, ?_, .inl ⟨rfl, rfl, rfl⟩⟩
  exact (List.prefix_append [0, 0, 0, 0] (sextets (List.replicate more 0))).isInfix

/-- For every number of bytes from thirty-two on, and whatever the source of random bytes gives, a
text is made. It serves as a secret, and a service that is given it loads its secret, exactly if the
entropy of the text is at least four bits a byte, and no four neighbouring groups of six bits of the
random bytes are equal or have symbols that count upwards. However many bytes are asked for, there
are some that the source may give for which that is not so. -/
theorem provisioned_fit_iff {length : Nat} (hlength : 32 ≤ length) :
    (∀ random : Vector UInt8 length, ∃ text, provision? length (some random) = .ok text ∧
      ((∃ secret, ofBytes? (Text.utf8 text) = .ok secret) ↔
        entropyBelow 4 (Text.utf8 text) = false ∧ ¬HasSextetRun random.toList) ∧
      ∀ env : Environment, env.text? "JWT_SECRET" = .ok text →
        ((∃ secret, Settings.loadSecret env = .ok secret) ↔
          entropyBelow 4 (Text.utf8 text) = false ∧ ¬HasSextetRun random.toList)) ∧
    ∃ random : Vector UInt8 length, HasSextetRun random.toList := by
  refine ⟨fun random => ?_, .replicate length 0, ?_⟩
  · have hlong : minLength ≤ random.toList.length := by rwa [Vector.length_toList]
    have hfit : (∃ secret, ofBytes? (Text.utf8 (provisioned random.toList)) = .ok secret) ↔
        entropyBelow 4 (Text.utf8 (provisioned random.toList)) = false ∧
          ¬HasSextetRun random.toList := by
      rw [exists_ofBytes?_iff, weakness?_eq_none_iff (length_utf8_provisioned hlong),
        ← hasRun_provisioned_iff, Bool.not_eq_true]
    exact ⟨_, provision?_eq_ok hlength random, hfit, fun env henv =>
      (exists_loadSecret_iff henv).trans hfit⟩
  · rw [Vector.toList_replicate]
    exact hasSextetRun_zeros hlength

/-- Thirty-two bytes at equal distances, which a source of random bytes may give. -/
def spacedRandom : Vector UInt8 32 :=
  #v[0x0b, 0x30, 0x55, 0x7a, 0x9f, 0xc4, 0xe9, 0x0e, 0x33, 0x58, 0x7d, 0xa2, 0xc7, 0xec, 0x11, 0x36,
    0x5b, 0x80, 0xa5, 0xca, 0xef, 0x14, 0x39, 0x5e, 0x83, 0xa8, 0xcd, 0xf2, 0x17, 0x3c, 0x61, 0x86]

/-- These bytes make a text that serves as a secret. -/
theorem provisioned_fit_sample :
    32 ≤ 32 ∧ ∃ text, provision? 32 (some spacedRandom) = .ok text ∧
      ∃ secret, ofBytes? (Text.utf8 text) = .ok secret := by
  obtain ⟨text, hmade, hfit, -⟩ := (provisioned_fit_iff (Nat.le_refl 32)).1 spacedRandom
  have htext : text = provisioned spacedRandom.toList := by
    rw [provision?_eq_ok (Nat.le_refl 32)] at hmade
    exact (Except.ok.inj hmade).symm
  have hrun : ¬HasSextetRun spacedRandom.toList := by
    rw [← hasRun_provisioned_iff]
    decide +kernel
  refine ⟨Nat.le_refl 32, text, hmade, hfit.mpr ⟨?_, hrun⟩⟩
  rw [htext]
  decide +kernel

/-- Thirty-two bytes that a source of random bytes may give. Three of them, in the middle, are
written as digits that count upwards. -/
def sampleRandom : Vector UInt8 32 :=
  #v[0x27, 0xc2, 0xaa, 0xda, 0x63, 0xef, 0x47, 0x1e, 0x13, 0xd3, 0x5d, 0xb7, 0x63, 0x02, 0xdc, 0x19,
    0xfe, 0xc3, 0x84, 0x17, 0xb7, 0x5d, 0xae, 0x96, 0x9d, 0x9b, 0x3d, 0x42, 0x45, 0x1d, 0x55, 0xb1]

/-- The text of these bytes. -/
def sampleProvisioned : String := "J8Kq2mPvRx4T0123YwLcGf7DhBe3Xa6WnZs9QkUdVbE="

/-- A text that has been made to serve as a secret is refused as one, and settings that hold it do
not load. -/
theorem provisioned_with_run :
    provision? 32 (some sampleRandom) = .ok sampleProvisioned ∧
      ofBytes? (Text.utf8 sampleProvisioned) = .error (.weakSecret Weakness.runs.message) ∧
      Settings.load (("JWT_SECRET", Text.utf8 sampleProvisioned) ::
          Settings.sampleEnvironment "600") =
        .error (.rejectedSecret (Refusal.weakSecret Weakness.runs.message).message) := by
  have hmade : provisioned sampleRandom.toList = sampleProvisioned := by decide +kernel
  have hweak : weakness? (Text.utf8 sampleProvisioned) = some .runs := by decide +kernel
  have hrefused := ofBytes?_of_weakness? hweak
  refine ⟨?_, hrefused, ?_⟩
  · rw [provision?_eq_ok (Nat.le_refl 32), hmade]
  generalize hsecret : Text.utf8 sampleProvisioned = secret at hrefused
  -- the settings that come before the secret are in order
  have hdatabase : Settings.Database.load
      (("JWT_SECRET", secret) :: Settings.sampleEnvironment "600") =
        .ok (Settings.sampleSettings 600).database := by
    rw [Settings.Database.load, Environment.required, Settings.text?_of_lookup rfl]
    rfl
  have hstore : Environment.required (("JWT_SECRET", secret) :: Settings.sampleEnvironment "600")
      "REDIS_URL" = .ok (Settings.sampleSettings 600).storeUrl := by
    rw [Environment.required, Settings.text?_of_lookup rfl]
    rfl
  have hload : Settings.loadSecret (("JWT_SECRET", secret) :: Settings.sampleEnvironment "600") =
      .error (.rejectedSecret (Refusal.weakSecret Weakness.runs.message).message) := by
    subst hsecret
    rw [loadSecret_eq (Settings.text?_of_lookup rfl), hrefused]
    rfl
  rw [Settings.load, hdatabase, hstore, Settings.Auth.load, hload]
  rfl

end Bearer.Secret
