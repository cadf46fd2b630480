import DcimBackend.Common.Text

/-!
# Secrets at rest

`encrypt_secret` and `decrypt_secret` of the SNMP collector.  Both know an encrypted text by its
prefix: `encrypt_secret` returns a text with the prefix as it is, and `decrypt_secret` every other
text, since old rows have plain ones.

`Fernet` is a parameter, with what is documented of it in `Fernet.Documented`.

What is assumed of `Fernet` is its documented contract alone: it decrypts exactly its own tokens,
a token is valid UTF-8, and the data is shorter than its token.  Nothing is assumed of the key,
the clock or the vector; the witness has a `Fernet` that keeps its data in clear.
-/

namespace DcimBackend

namespace Collectors

/-- The `Fernet` that `get_fernet` makes from the configured key.  A seed is what a token takes
beside the data: the clock and the random vector. -/
structure Fernet (Seed : Type) where
  encrypt : Seed → ByteArray → ByteArray
  /-- `none`: `InvalidToken`. -/
  decrypt : ByteArray → Option ByteArray

/-- What is documented of `Fernet`. -/
structure Fernet.Documented {Seed : Type} (fernet : Fernet Seed) : Prop where
  /-- It decrypts exactly its own tokens. -/
  decrypt_eq_some_iff : ∀ token data,
    fernet.decrypt token = some data ↔ ∃ seed, fernet.encrypt seed data = token
  /-- A token is URL-safe base64. -/
  isValidUTF8_encrypt : ∀ seed data, (fernet.encrypt seed data).IsValidUTF8
  /-- Beside the padded data, a token has a version, a clock, a vector and a signature. -/
  size_lt_size_encrypt : ∀ seed data, data.size < (fernet.encrypt seed data).size

/-- `UnicodeDecodeError`. -/
inductive UnicodeDecodeError
  | invalid

/-- `bytes.decode("utf-8")`. -/
def decodeUtf8 (bytes : ByteArray) : Except UnicodeDecodeError String :=
  match String.fromUTF8? bytes with
  | some text => .ok text
  | none => .error .invalid

/-- `_PREFIX`. -/
def secretPrefix : String := "fernet:"

namespace Fernet

variable {Seed : Type} (fernet : Fernet Seed)

/-- `encrypt_secret`. -/
def encryptSecret (seed : Seed) : Option String → Except UnicodeDecodeError (Option String)
  | none => .ok none
  | some value =>
      if value = "" then .ok (some value)
      else if pyStartsWith value secretPrefix then .ok (some value)
      else do
        let token ← decodeUtf8 (fernet.encrypt seed value.toUTF8)
        return some (secretPrefix ++ token)

/-- The `try` of `decrypt_secret`. -/
def decryptToken (token : String) : Except UnicodeDecodeError (Option String) :=
  match fernet.decrypt token.toUTF8 with
  | some data => do return some (← decodeUtf8 data)
  | none => .ok none

/-- `decrypt_secret`. -/
def decryptSecret : Option String → Except UnicodeDecodeError (Option String)
  | none => .ok none
  | some value =>
      if value = "" then .ok (some value)
      else if ¬pyStartsWith value secretPrefix then .ok (some value)
      else fernet.decryptToken (String.ofList (value.toList.drop secretPrefix.length))

end Fernet

/-! ### Texts and bytes -/

theorem fromUTF8?_eq_some_iff {bytes : ByteArray} {text : String} :
    String.fromUTF8? bytes = some text ↔ bytes = text.toUTF8 := by
  unfold String.fromUTF8?
  constructor
  · intro h
    split at h
    · obtain rfl := Option.some.inj h
      rfl
    · cases h
  · rintro rfl
    exact dif_pos text.isValidUTF8

theorem decodeUtf8_eq_ok_iff {bytes : ByteArray} {text : String} :
    decodeUtf8 bytes = .ok text ↔ bytes = text.toUTF8 := by
  rw [← fromUTF8?_eq_some_iff]
  unfold decodeUtf8
  rcases String.fromUTF8? bytes with _ | decoded <;> simp

theorem exists_decodeUtf8 {bytes : ByteArray} (h : bytes.IsValidUTF8) :
    ∃ text, bytes = text.toUTF8 ∧ decodeUtf8 bytes = .ok text :=
  ⟨String.fromUTF8 bytes h, rfl, decodeUtf8_eq_ok_iff.mpr rfl⟩

theorem size_toUTF8_append (start rest : String) :
    (start ++ rest).toUTF8.size = start.toUTF8.size + rest.toUTF8.size := by
  simp only [String.toUTF8_eq_toByteArray, String.toByteArray_append, ByteArray.size_append]

/-! ### What is stored and what is read -/

namespace Fernet

variable {Seed : Type} {fernet : Fernet Seed} {value rest : String}

theorem encryptSecret_some (seed : Seed) (value : String) :
    fernet.encryptSecret seed (some value) =
      if value = "" then .ok (some value)
      else if pyStartsWith value secretPrefix then .ok (some value)
      else do
        let token ← decodeUtf8 (fernet.encrypt seed value.toUTF8)
        return some (secretPrefix ++ token) := rfl

/-- `encrypt_secret` keeps a text that has the prefix, whoever wrote it. -/
theorem encryptSecret_of_startsWith (seed : Seed)
    (h : pyStartsWith value secretPrefix = true) :
    fernet.encryptSecret seed (some value) = .ok (some value) := by
  rw [encryptSecret_some, if_pos h, ite_self]

theorem ne_empty_of_startsWith (h : pyStartsWith value secretPrefix = true) : value ≠ "" := by
  rintro rfl
  revert h
  decide

theorem decryptSecret_append :
    fernet.decryptSecret (some (secretPrefix ++ rest)) = fernet.decryptToken rest := by
  have hprefix : pyStartsWith (secretPrefix ++ rest) secretPrefix = true :=
    pyStartsWith_append secretPrefix rest
  have hrest : String.ofList ((secretPrefix ++ rest).toList.drop secretPrefix.length) = rest := by
    rw [String.toList_append, ← String.length_toList, List.drop_left, String.ofList_toList]
  unfold decryptSecret
  simp only [if_neg (ne_empty_of_startsWith hprefix), if_neg (not_not_intro hprefix), hrest]

theorem decryptToken_eq_some_iff {token : String} :
    fernet.decryptToken token = .ok (some value) ↔
      fernet.decrypt token.toUTF8 = some value.toUTF8 := by
  unfold decryptToken
  rcases fernet.decrypt token.toUTF8 with _ | data
  · exact iff_of_false (fun h => by cases h) (fun h => by cases h)
  · rw [Option.some.injEq, ← decodeUtf8_eq_ok_iff]
    rcases hdecode : decodeUtf8 data with error | text
    · exact iff_of_false (fun h => by simp [hdecode] at h) (fun h => by cases h)
    · simp [hdecode]

/-- **A text that looks encrypted is lost**: what `decrypt_secret` makes of it is shorter, or
nothing. -/
theorem decryptSecret_ne_of_startsWith (hfernet : fernet.Documented)
    (h : pyStartsWith value secretPrefix = true) :
    fernet.decryptSecret (some value) ≠ .ok (some value) := by
  obtain ⟨rest, rfl⟩ := pyStartsWith_iff.mp h
  rw [decryptSecret_append, Ne, decryptToken_eq_some_iff]
  intro hdecrypt
  obtain ⟨seed, htoken⟩ := (hfernet.decrypt_eq_some_iff _ _).mp hdecrypt
  have hsize := hfernet.size_lt_size_encrypt seed (secretPrefix ++ rest).toUTF8
  rw [htoken, size_toUTF8_append] at hsize
  omega

/-- What a text without the prefix is stored as. -/
theorem exists_encryptSecret (hfernet : fernet.Documented) (seed : Seed)
    (hvalue : value ≠ "") (h : pyStartsWith value secretPrefix = false) :
    ∃ token, token.toUTF8 = fernet.encrypt seed value.toUTF8 ∧
      fernet.encryptSecret seed (some value) = .ok (some (secretPrefix ++ token)) := by
  obtain ⟨token, htoken, hdecode⟩ :=
    exists_decodeUtf8 (hfernet.isValidUTF8_encrypt seed value.toUTF8)
  refine ⟨token, htoken.symm, ?_⟩
  rw [encryptSecret_some, if_neg hvalue, if_neg (by simp [h]), hdecode]
  rfl

theorem decryptSecret_encrypt (hfernet : fernet.Documented) {seed : Seed} {token : String}
    (htoken : token.toUTF8 = fernet.encrypt seed value.toUTF8) :
    fernet.decryptSecret (some (secretPrefix ++ token)) = .ok (some value) := by
  rw [decryptSecret_append, decryptToken_eq_some_iff, hfernet.decrypt_eq_some_iff]
  exact ⟨seed, htoken.symm⟩

/-! ### A cipher

The token of `public` under the key of `.env.example` at one clock and vector.  Other data are
written in clear behind a dash, one character for each byte. -/

/-- The token of `public` on the first of January 2024. -/
def publicToken : String :=
  "gAAAAABlkgCAAAECAwQFBgcICQoLDA0OD1l53ri7PifjbeO6z6531_" ++
    "iO1mkJWc7bWmHzungFHry1a_9L1ZdPR1udNcSh6qQ5Ig=="

/-- The character of a byte. -/
def byteChar (byte : UInt8) : Char := Char.ofNat byte.toNat

/-- Data in clear. -/
def clearToken (data : ByteArray) : String := String.ofList ('-' :: data.data.toList.map byteChar)

/-- Read data in clear. -/
def readClear (text : String) : Option ByteArray :=
  match text.toList with
  | '-' :: chars =>
      if chars.all (·.toNat < 256) then
        some ⟨(chars.map fun c => UInt8.ofNat c.toNat).toArray⟩
      else none
  | _ => none

-- the instance is named, since the libraries have another one
local instance : DecidableEq ByteArray := ByteArray.instDecidableEq

/-- `true` is the clock and vector of `publicToken`. -/
def sampleFernet : Fernet Bool where
  encrypt seed data :=
    if seed = true ∧ data = "public".toUTF8 then publicToken.toUTF8 else (clearToken data).toUTF8
  decrypt token :=
    if token = publicToken.toUTF8 then some "public".toUTF8
    else (String.fromUTF8? token).bind readClear

theorem toNat_byteChar (byte : UInt8) : (byteChar byte).toNat = byte.toNat := by
  have hlt : byte.toNat < 256 := byte.toNat_lt
  have hvalid : byte.toNat.isValidChar := Or.inl (by omega)
  unfold byteChar Char.ofNat
  rw [dif_pos hvalid]
  rfl

theorem byteChar_ofNat {c : Char} (h : c.toNat < 256) : byteChar (UInt8.ofNat c.toNat) = c := by
  apply Char.toNat_inj.mp
  rw [toNat_byteChar, UInt8.toNat_ofNat', Nat.mod_eq_of_lt (by omega)]

theorem readClear_eq_some_iff {text : String} {data : ByteArray} :
    readClear text = some data ↔ clearToken data = text := by
  constructor
  · intro h
    unfold readClear at h
    split at h
    · rename_i chars hchars
      split at h
      · rename_i hbytes
        obtain rfl := Option.some.inj h
        have hback : (chars.map fun c => UInt8.ofNat c.toNat).map byteChar = chars := by
          rw [List.map_map]
          refine (List.map_congr_left fun c hc => ?_).trans (List.map_id chars)
          exact byteChar_ofNat (of_decide_eq_true (List.all_eq_true.mp hbytes c hc))
        rw [← String.toList_inj, clearToken, String.toList_ofList, hchars, hback]
      · cases h
    · cases h
  · rintro rfl
    have hbytes : (data.data.toList.map byteChar).all (·.toNat < 256) = true := by
      simp only [List.all_map, List.all_eq_true, Function.comp_apply, toNat_byteChar,
        decide_eq_true_eq]
      exact fun byte _ => byte.toNat_lt
    have hback : (data.data.toList.map byteChar).map (fun c => UInt8.ofNat c.toNat) =
        data.data.toList := by
      rw [List.map_map]
      refine (List.map_congr_left fun byte _ => ?_).trans (List.map_id _)
      rw [Function.comp_apply, toNat_byteChar, UInt8.ofNat_toNat, id]
    unfold readClear clearToken
    rw [String.toList_ofList]
    simp only [hbytes, if_true, hback]

/-- No character takes less than a byte. -/
theorem length_le_size_toUTF8 (chars : List Char) :
    chars.length ≤ (String.ofList chars).toUTF8.size := by
  induction chars with
  | nil => simp
  | cons c chars ih =>
      have hcons : String.ofList (c :: chars) = String.singleton c ++ String.ofList chars := by
        rw [← String.toList_inj]
        simp
      have hpos : 0 < c.utf8Size := c.utf8Size_pos
      rw [hcons, size_toUTF8_append, List.length_cons]
      have hsize : (String.singleton c).toUTF8.size = c.utf8Size := by
        rw [String.toUTF8_eq_toByteArray, String.size_toByteArray, String.utf8ByteSize_singleton]
      omega

/-- Data in clear are no signed token. -/
theorem clearToken_ne_publicToken (data : ByteArray) : clearToken data ≠ publicToken := by
  intro h
  have hhead : some '-' = publicToken.toList.head? := by
    rw [← h, clearToken, String.toList_ofList, List.head?_cons]
  revert hhead
  decide

/-- A token is the signed one, or in clear. -/
theorem sampleFernet_encrypt (seed : Bool) (data : ByteArray) :
    data = "public".toUTF8 ∧ sampleFernet.encrypt seed data = publicToken.toUTF8 ∨
      sampleFernet.encrypt seed data = (clearToken data).toUTF8 := by
  unfold sampleFernet
  dsimp only
  split
  · rename_i hpublic
    exact Or.inl ⟨hpublic.2, rfl⟩
  · exact Or.inr rfl

theorem sampleFernet_encrypt_true :
    sampleFernet.encrypt true "public".toUTF8 = publicToken.toUTF8 := by
  unfold sampleFernet
  dsimp only
  rw [if_pos ⟨rfl, rfl⟩]

theorem sampleFernet_encrypt_false (data : ByteArray) :
    sampleFernet.encrypt false data = (clearToken data).toUTF8 := by
  unfold sampleFernet
  dsimp only
  rw [if_neg fun h => Bool.false_ne_true h.1]

theorem sampleFernet_decrypt_iff {token data : ByteArray} :
    sampleFernet.decrypt token = some data ↔ ∃ seed, sampleFernet.encrypt seed data = token := by
  change (if token = publicToken.toUTF8 then some "public".toUTF8
    else (String.fromUTF8? token).bind readClear) = some data ↔ _
  by_cases htoken : token = publicToken.toUTF8
  · subst htoken
    rw [if_pos rfl, Option.some.injEq]
    constructor
    · rintro rfl
      exact ⟨true, sampleFernet_encrypt_true⟩
    · rintro ⟨seed, hseed⟩
      rcases sampleFernet_encrypt seed data with ⟨hpublic, -⟩ | hclear
      · exact hpublic.symm
      · exact absurd (String.toByteArray_inj.mp (hclear.symm.trans hseed))
          (clearToken_ne_publicToken data)
  · rw [if_neg htoken, Option.bind_eq_some_iff]
    constructor
    · rintro ⟨text, hdecode, hread⟩
      refine ⟨false, ?_⟩
      rw [sampleFernet_encrypt_false, readClear_eq_some_iff.mp hread]
      exact (fromUTF8?_eq_some_iff.mp hdecode).symm
    · rintro ⟨seed, rfl⟩
      rcases sampleFernet_encrypt seed data with ⟨-, hpublic⟩ | hclear
      · exact absurd hpublic htoken
      · exact ⟨clearToken data, fromUTF8?_eq_some_iff.mpr hclear, readClear_eq_some_iff.mpr rfl⟩

theorem documented_sampleFernet : sampleFernet.Documented where
  decrypt_eq_some_iff _ _ := sampleFernet_decrypt_iff
  isValidUTF8_encrypt := by
    intro seed data
    rcases sampleFernet_encrypt seed data with ⟨-, h⟩ | h <;> rw [h]
    · exact publicToken.isValidUTF8
    · exact (clearToken data).isValidUTF8
  size_lt_size_encrypt := by
    intro seed data
    rcases sampleFernet_encrypt seed data with ⟨rfl, h⟩ | h <;> rw [h]
    · decide
    · have hlength := length_le_size_toUTF8 ('-' :: data.data.toList.map byteChar)
      rw [List.length_cons, List.length_map, Array.length_toList] at hlength
      exact hlength

/-! ### The round trip -/

/-- **Secrets round-trip** exactly if they do not look encrypted, and encrypting again changes
nothing. -/
theorem secrets_roundTrip (hfernet : fernet.Documented) (seed seed' : Seed)
    (value : String) :
    ∃ stored, fernet.encryptSecret seed (some value) = .ok (some stored) ∧
      fernet.encryptSecret seed' (some stored) = .ok (some stored) ∧
      (fernet.decryptSecret (some stored) = .ok (some value) ↔
        pyStartsWith value secretPrefix = false) := by
  rcases hprefix : pyStartsWith value secretPrefix with _ | _
  · by_cases hvalue : value = ""
    · subst hvalue
      exact ⟨"", rfl, rfl, iff_of_true rfl rfl⟩
    · obtain ⟨token, htoken, hstored⟩ := exists_encryptSecret hfernet seed hvalue hprefix
      exact ⟨secretPrefix ++ token, hstored,
        encryptSecret_of_startsWith seed' (pyStartsWith_append secretPrefix token),
        iff_of_true (decryptSecret_encrypt hfernet htoken) rfl⟩
  · exact ⟨value, encryptSecret_of_startsWith seed hprefix,
      encryptSecret_of_startsWith seed' hprefix,
      iff_of_false (decryptSecret_ne_of_startsWith hfernet hprefix) (by simp)⟩

theorem secrets_roundTrip_public :
    ∃ stored, sampleFernet.encryptSecret true (some "public") = .ok (some stored) ∧
      sampleFernet.encryptSecret false (some stored) = .ok (some stored) ∧
      (sampleFernet.decryptSecret (some stored) = .ok (some "public") ↔
        pyStartsWith "public" secretPrefix = false) :=
  secrets_roundTrip documented_sampleFernet true false "public"

/-- A community that begins with `fernet:` is stored as it is, and cannot be read. -/
theorem prefixed_public_lost :
    ¬∀ value : String, ∃ stored,
      sampleFernet.encryptSecret true (some value) = .ok (some stored) ∧
        sampleFernet.decryptSecret (some stored) = .ok (some value) := by
  intro h
  have hprefix : pyStartsWith "fernet:public" secretPrefix = true := by decide
  obtain ⟨stored, hstored, hread⟩ := h "fernet:public"
  rw [encryptSecret_of_startsWith true hprefix] at hstored
  obtain rfl : "fernet:public" = stored := Option.some.inj (Except.ok.inj hstored)
  exact decryptSecret_ne_of_startsWith documented_sampleFernet hprefix hread

end Fernet

end Collectors

end DcimBackend
