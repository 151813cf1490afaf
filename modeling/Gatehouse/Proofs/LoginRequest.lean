import Mathlib.NumberTheory.LucasLehmer
import Gatehouse.Client.LoginForm
import Gatehouse.Proofs.Base64
import Gatehouse.Proofs.InverseExponents
import Gatehouse.Proofs.LoginLayout
import Gatehouse.Proofs.Opening

/-!
# Login requests are read as they were filled in

The frame that a client makes of a form is one that the server accepts: its length is in bounds, the
optional version text is recognized by what it leaves, and the sealed block opens in place so that
the fields in it are the next ones to read.
-/

namespace Gatehouse

open Octets Wire

namespace LoginForm

variable {form : LoginForm} {challenge : Login.Challenge} {publicKey : Rsa.Key} {frame : Octets}

/-- The part of the block behind the cipher key. -/
def credentials (form : LoginForm) (challenge : Login.Challenge) : Octets :=
  Field.encodeAll <|
    [.u8 0, .text (String.ofList (Base64.encode form.token))] ++
      (platform form.system).map Field.text ++
      [.text form.characterName, .u32 challenge.timestamp, .u8 challenge.random]

theorem block_eq (form : LoginForm) (challenge : Login.Challenge) :
    form.block challenge = (Field.u8 0).encode ++
      (Field.encodeAll (form.key.toList.map Field.u32) ++ form.credentials challenge) := by
  simp only [block, credentials, Field.encodeAll_append, Field.encodeAll_cons, List.append_assoc,
    List.cons_append, List.nil_append]

def padded (form : LoginForm) (publicKey : Rsa.Key) (challenge : Login.Challenge) : Octets :=
  form.block challenge ++ zeros (publicKey.blockLength - (form.block challenge).length)

theorem padded_eq (form : LoginForm) (publicKey : Rsa.Key) (challenge : Login.Challenge) :
    ∃ rest, form.padded publicKey challenge = (Field.u8 0).encode ++
      (Field.encodeAll (form.key.toList.map Field.u32) ++ (form.credentials challenge ++ rest)) := by
  refine ⟨zeros (publicKey.blockLength - (form.block challenge).length), ?_⟩
  rw [padded, block_eq]
  simp only [List.append_assoc]

theorem padded_ne_nil (form : LoginForm) (publicKey : Rsa.Key) (challenge : Login.Challenge) :
    form.padded publicKey challenge ≠ [] := by
  obtain ⟨rest, hPadded⟩ := padded_eq form publicKey challenge
  rw [hPadded, Field.encode_u8]
  exact List.cons_ne_nil _ _

structure Fits (form : LoginForm) (publicKey : Rsa.Key) (challenge : Login.Challenge)
    (sealedHalf : Octets) : Prop where
  block : (form.block challenge).length ≤ publicKey.blockLength
  apply : publicKey.apply (form.padded publicKey challenge) = .ok sealedHalf
  body : (form.openHalf ++ sealedHalf).length ≤ maxLoginBody

theorem sealBlock_eq_ok_iff {sealedHalf : Octets} :
    form.sealBlock publicKey challenge = .ok sealedHalf ↔
      (form.block challenge).length ≤ publicKey.blockLength ∧
        publicKey.apply (form.padded publicKey challenge) = .ok sealedHalf := by
  rw [sealBlock]
  dsimp only
  split
  case isTrue hLong =>
    constructor
    · exact fun h => nomatch h
    · exact fun h => absurd hLong (Nat.not_lt.mpr h.1)
  case isFalse hShort =>
    rw [← padded]
    cases publicKey.apply (form.padded publicKey challenge) with
    | error cause =>
      constructor
      · rintro ⟨⟩
      · rintro ⟨-, ⟨⟩⟩
    | ok out =>
      constructor
      · rintro ⟨⟩
        exact ⟨Nat.not_lt.mp hShort, rfl⟩
      · rintro ⟨-, ⟨⟩⟩
        rfl

theorem frame_eq_ok_iff :
    form.frame publicKey challenge = .ok frame ↔
      ∃ sealedHalf, form.Fits publicKey challenge sealedHalf ∧
        frame = littleEndian headerLength (form.openHalf ++ sealedHalf).length ++
          (form.openHalf ++ sealedHalf) := by
  rw [LoginForm.frame]
  cases hSeal : form.sealBlock publicKey challenge with
  | error cause =>
    constructor
    · intro hFrame
      cases hFrame
    · rintro ⟨sealedHalf, hFits, -⟩
      rw [sealBlock_eq_ok_iff.mpr ⟨hFits.block, hFits.apply⟩] at hSeal
      cases hSeal
  | ok out =>
    change (if maxLoginBody < (form.openHalf ++ out).length then _ else _) = _ ↔ _
    constructor
    · intro hFrame
      split at hFrame
      case isTrue => cases hFrame
      case isFalse hBody =>
        obtain ⟨hBlock, hApply⟩ := sealBlock_eq_ok_iff.mp hSeal
        exact ⟨out, ⟨hBlock, hApply, Nat.not_lt.mp hBody⟩, (Except.ok.inj hFrame).symm⟩
    · rintro ⟨sealedHalf, hFits, rfl⟩
      rw [sealBlock_eq_ok_iff.mpr ⟨hFits.block, hFits.apply⟩] at hSeal
      cases hSeal
      exact if_neg (Nat.not_lt.mpr hFits.body)

theorem exists_frame (hBlock : (form.block challenge).length ≤ publicKey.blockLength)
    (hRange : ofBigEndian (form.padded publicKey challenge) < publicKey.modulus)
    (hBody : form.openHalf.length + publicKey.blockLength ≤ maxLoginBody) :
    ∃ frame, form.frame publicKey challenge = .ok frame := by
  have hLength : (form.padded publicKey challenge).length = publicKey.blockLength := by
    rw [padded, List.length_append, length_zeros]
    omega
  have hApply := (Rsa.Key.apply_eq_ok_iff (padded_ne_nil form publicKey challenge)).mpr
    ⟨hLength, hRange, rfl⟩
  refine ⟨_, frame_eq_ok_iff.mpr ⟨_, ⟨hBlock, hApply, ?_⟩, rfl⟩⟩
  rwa [List.length_append, length_bigEndian]

theorem restrict_token (token : Octets) :
    Latin1.restrict (String.ofList (Base64.encode token)) =
      String.ofList (Base64.encode token) := by
  have hAll : (Base64.encode token).filter (·.toNat < 256) = Base64.encode token :=
    List.filter_eq_self.mpr fun c hc => by simpa using Base64.toNat_lt_of_mem_encode c hc
  rw [Latin1.restrict, String.toList_ofList, hAll]

theorem decodeToken?_encode (token : Octets) :
    Login.decodeToken? (String.ofList (Base64.encode token)) =
      if token = [] then none else some token := by
  rw [Login.decodeToken?, String.toList_ofList, Base64.decode_encode]
  cases token <;> rfl

/-- The parts of a request that is filled in with the form. -/
def layout (form : LoginForm) (sealedHalf : Octets) : Login.Layout where
  sum := 0
  id := loginRequest
  system := form.system
  version := form.version
  skipped := (Field.u32 form.version.toUInt32).encode
  length_skipped := by rw [Field.encode_u32, length_littleEndian]
  text := form.versionText?.elim .absent fun s => .whole ((Latin1.encode s).take 65535)
  revision := Field.encodeAll [.u16 0, .u8 0]
  length_revision := rfl
  sealedHalf := sealedHalf

theorem text_bytes (form : LoginForm) (sealedHalf : Octets) :
    (form.layout sealedHalf).text.bytes =
      Field.encodeAll (form.versionText?.map Field.text).toList := by
  rw [layout]
  cases form.versionText? with
  | none => rfl
  | some s => exact (List.append_nil _).symm

theorem layout_bytes (form : LoginForm) (sealedHalf : Octets) :
    (form.layout sealedHalf).bytes = form.openHalf ++ sealedHalf := by
  rw [Login.Layout.bytes, Login.Layout.tail, text_bytes, Login.Head.bytes, openHalf]
  simp only [layout, Field.encodeAll_append, Field.encodeAll_cons, Field.encodeAll_nil,
    List.append_nil, List.append_assoc]

/-- Without a version text the block and three more bytes are left, which is fewer than with a text
of any length. -/
theorem layout_fits {key : Rsa.Key} {sealedHalf : Octets}
    (hLength : sealedHalf.length = key.blockLength) : (form.layout sealedHalf).Fits key := by
  have hBehind : (Field.encodeAll [.u16 0, .u8 0] ++ sealedHalf).length = 3 + key.blockLength := by
    rw [List.length_append, hLength]
    rfl
  rw [Login.Layout.Fits, Login.Layout.tail, layout]
  cases form.versionText? with
  | none =>
    refine hBehind.le.trans ?_
    omega
  | some s =>
    refine ⟨?_, ?_⟩
    · refine Nat.lt_of_lt_of_eq ?_ (List.length_append ..).symm
      rw [hBehind, Option.elim, Login.VersionText.bytes, List.length_append, length_littleEndian]
      omega
    · rw [List.length_take]
      omega

theorem read_request {key : Rsa.Key} {sealedHalf : Octets} {r : FrameReader}
    (hLength : sealedHalf.length = key.blockLength)
    (hr : r.Offers (form.openHalf ++ sealedHalf)) :
    (Login.Request.read key r).sum = 0 ∧ (Login.Request.read key r).id = loginRequest ∧
      (Login.Request.read key r).system = form.system ∧
      (Login.Request.read key r).version = form.version ∧
      (Login.Request.read key r).rest.Offers sealedHalf := by
  rw [← layout_bytes] at hr
  obtain ⟨q, hRead, hRest⟩ := (layout_fits hLength).read hr
  rw [hRead]
  exact ⟨rfl, rfl, rfl, rfl, hRest⟩

/-- What the server reads up to the cipher key. Behind it the rest of the block is left, opened in
place. -/
theorem readPrelude_frame {sealedHalf : Octets} {modulus e d : Nat}
    (hInverse : ∀ x < modulus, x ^ (e * d) % modulus = x)
    (hFits : form.Fits ⟨modulus, e⟩ challenge sealedHalf) {r : FrameReader}
    (hr : r.Offers (form.openHalf ++ sealedHalf)) :
    ∃ r' rest, Login.readPrelude ⟨modulus, d⟩ r =
        (.ok { system := form.system, version := form.version, key := form.key }, r') ∧
      r'.Offers (form.credentials challenge ++ rest) := by
  have hPadded := padded_ne_nil form ⟨modulus, e⟩ challenge
  have hApply := Rsa.Key.apply_apply hInverse hPadded hFits.apply
  obtain ⟨hWhole, -, hForm⟩ := (Rsa.Key.apply_eq_ok_iff hPadded).mp hFits.apply
  have hLength : sealedHalf.length = Rsa.Key.blockLength ⟨modulus, d⟩ := by
    rw [hForm, length_bigEndian]
    rfl
  obtain ⟨hSum, hId, hSystem, hVersion, hRest⟩ := read_request hLength hr
  have hOpened : ((Login.Request.read ⟨modulus, d⟩ r).opened
      (form.padded ⟨modulus, e⟩ challenge)).Offers (form.padded ⟨modulus, e⟩ challenge) :=
    hRest.overwrite (hWhole.trans hLength.symm)
  obtain ⟨rest, hBlock⟩ := padded_eq form ⟨modulus, e⟩ challenge
  generalize form.padded ⟨modulus, e⟩ challenge = plain at hApply hOpened hBlock
  rw [hBlock] at hOpened
  obtain ⟨r₁, hZero, hOpened⟩ := Read.u8_eq hOpened
  obtain ⟨r₂, hWords, hOpened⟩ := Read.words_eq hOpened
  rw [← hBlock] at hZero
  refine ⟨r₂, rest, Login.readPrelude_eq_ok_iff.mpr ⟨plain, ⟨hSum, hId, ?_, ?_, ?_⟩,
    hSystem.symm, hVersion.symm, ?_⟩, hOpened⟩
  · rw [hRest.remaining, hLength]
  · rw [hRest.unread, List.take_of_length_le hLength.le]
    exact hApply
  · rw [hZero]
  · rw [hZero, hWords]

theorem passPlatform_offers {system : UInt16} {r : FrameReader} {bs : Octets}
    (hr : r.Offers (Field.encodeAll ((platform system).map Field.text) ++ bs)) :
    (Login.passPlatform system r).Offers bs := by
  rw [platform] at hr
  rw [Login.passPlatform]
  split at hr
  case isTrue hSystem =>
    simp only [List.map_cons, List.map_nil, Field.encodeAll_cons, Field.encodeAll_nil,
      List.append_nil, List.append_assoc] at hr
    obtain ⟨r₁, hFirst, hr⟩ := Read.text_eq hr
    obtain ⟨r₂, hSecond, hr⟩ := Read.text_eq hr
    rw [if_pos hSystem, hFirst, hSecond]
    exact hr
  case isFalse hSystem =>
    rw [if_neg hSystem]
    exact hr

/-- What the server reads behind the cipher key. An empty token is the one fault. -/
theorem readCredentials_frame {rest : Octets} {r : FrameReader}
    (hr : r.Offers (form.credentials challenge ++ rest)) :
    (Login.readCredentials form.system r).1 =
      if form.token = [] then .error .malformedSessionKey
      else .ok { token := form.token, characterName := Latin1.restrict form.characterName
                 challenge } := by
  simp only [credentials, Field.encodeAll_append, Field.encodeAll_cons, Field.encodeAll_nil,
    List.append_assoc, List.nil_append] at hr
  obtain ⟨r₁, hFlag, hr⟩ := Read.advance_eq hr
  replace hFlag : r.advance 1 = r₁ := by
    rw [Field.encode_u8] at hFlag
    exact congrArg Prod.snd hFlag
  obtain ⟨r₂, hToken, hr⟩ := Read.text_eq hr
  rw [restrict_token] at hToken
  have hPassed := passPlatform_offers hr
  obtain ⟨r₃, hName, hr⟩ := Read.text_eq hPassed
  obtain ⟨r₄, hTime, hr⟩ := Read.u32_eq hr
  obtain ⟨r₅, hRandom, -⟩ := Read.u8_eq hr
  rw [Login.readCredentials_eq, hFlag, hToken, decodeToken?_encode]
  by_cases hEmpty : form.token = []
  · rw [if_pos hEmpty, if_pos hEmpty]
  · rw [if_neg hEmpty, if_neg hEmpty]
    simp only [hName, hTime, hRandom]

theorem Fits.offers {sealedHalf : Octets} (hFits : form.Fits publicKey challenge sealedHalf)
    {r : FrameReader}
    (hCarries : r.Carries (littleEndian headerLength (form.openHalf ++ sealedHalf).length ++
      (form.openHalf ++ sealedHalf)))
    (hPosition : r.position = headerLength) : r.Offers (form.openHalf ++ sealedHalf) := by
  have hBody := hFits.body
  obtain ⟨rest, hStore, hLength⟩ := hCarries
  rw [List.length_append, length_littleEndian] at hLength
  refine ⟨_, rest, hStore, ?_, ?_, ?_⟩
  · rw [hPosition, length_littleEndian]
  · rw [hLength, hPosition]
  · rw [hLength, FrameReader.capacity, maxBody]
    rw [maxLoginBody] at hBody
    omega

/-- The header of a frame counts its body, which is neither empty nor longer than allowed. Server
and client agree on what the request says, as far as the name has a Latin-1 form, unless the token
is empty. -/
theorem reads_frame {modulus e d : Nat} (hInverse : ∀ x < modulus, x ^ (e * d) % modulus = x)
    (hFrame : form.frame ⟨modulus, e⟩ challenge = .ok frame) {r : FrameReader}
    (hCarries : r.Carries frame) (hPosition : r.position = headerLength) :
    1 ≤ r.headerValue.toNat ∧ r.headerValue.toNat ≤ maxLoginBody ∧
      frame.length = headerLength + r.headerValue.toNat ∧
      ∃ r', Login.readPrelude ⟨modulus, d⟩ r =
          (.ok { system := form.system, version := form.version, key := form.key }, r') ∧
        (Login.readCredentials form.system r').1 =
          if form.token = [] then .error .malformedSessionKey
          else .ok { token := form.token, characterName := Latin1.restrict form.characterName
                     challenge } := by
  obtain ⟨sealedHalf, hFits, hParts⟩ := frame_eq_ok_iff.mp hFrame
  rw [hParts] at hCarries
  have hBody := hFits.body
  have hSmall : (form.openHalf ++ sealedHalf).length < 256 ^ headerLength := by
    rw [maxLoginBody] at hBody
    rw [headerLength]
    omega
  have hHeader : r.headerValue.toNat = (form.openHalf ++ sealedHalf).length := by
    rw [hCarries.headerValue (length_littleEndian ..), ofLittleEndian_littleEndian,
      Nat.mod_eq_of_lt hSmall]
    exact UInt16.toNat_ofNat_of_lt' hSmall
  obtain ⟨r', rest, hPrelude, hRest⟩ :=
    readPrelude_frame hInverse hFits (hFits.offers hCarries hPosition)
  rw [hHeader, hParts]
  refine ⟨?_, hBody, ?_, r', hPrelude, readCredentials_frame hRest⟩
  · simp only [openHalf, Field.encodeAll_append, Field.encodeAll_cons, Field.encode_u32,
      List.length_append, length_littleEndian]
    omega
  · rw [List.length_append, length_littleEndian]

/-! ## A prime as modulus -/

theorem pow_mod_of_prime {p e d k : Nat} (hPrime : p.Prime) (hExponents : e * d = 1 + k * (p - 1)) :
    ∀ x < p, x ^ (e * d) % p = x := by
  intro x hx
  have hOne : 1 + k * (p - 1) ≡ 1 [MOD p - 1] := by
    rw [Nat.ModEq, Nat.add_mul_mod_self_right]
  rw [hExponents]
  exact Nat.mod_eq_of_modEq (Rsa.pow_modEq_of_prime hPrime (by omega) hOne x) hx

def sample : LoginForm where
  system := ClientSystem.qtLinux
  version := 1100
  versionText? := some "11.00"
  token := [1, 2, 3, 4]
  characterName := "Zoë 漢"
  key := ⟨1, 2, 3, 4⟩

def sampleKey : Rsa.Key where
  modulus := 2 ^ 521 - 1
  exponent := (1 + 3 * (2 ^ 521 - 2)) / 7

theorem sampleKey_inverse :
    ∀ x < sampleKey.modulus, x ^ (7 * sampleKey.exponent) % sampleKey.modulus = x := by
  have hPrime : Nat.Prime (2 ^ 521 - 1) :=
    lucas_lehmer_sufficiency 521 (by norm_num) (by norm_num)
  exact pow_mod_of_prime hPrime (e := 7) (d := sampleKey.exponent) (k := 3) (by decide +kernel)

theorem reads_frame_sample :
    ∃ frame r', sample.frame ⟨2 ^ 521 - 1, 7⟩ ⟨5, 6⟩ = .ok frame ∧
      Login.readPrelude ⟨2 ^ 521 - 1, (1 + 3 * (2 ^ 521 - 2)) / 7⟩ (.ofFrame frame) =
        (.ok { system := ClientSystem.qtLinux, version := 1100, key := ⟨1, 2, 3, 4⟩ }, r') ∧
      (Login.readCredentials ClientSystem.qtLinux r').1 =
        .ok { token := [1, 2, 3, 4], characterName := "Zoë ", challenge := ⟨5, 6⟩ } := by
  obtain ⟨frame, hFrame⟩ : ∃ frame, sample.frame ⟨2 ^ 521 - 1, 7⟩ ⟨5, 6⟩ = .ok frame :=
    exists_frame (by decide +kernel) (by decide +kernel) (by decide +kernel)
  obtain ⟨sealedHalf, hFits, hParts⟩ := frame_eq_ok_iff.mp hFrame
  have hFit : frame.length ≤ FrameReader.capacity := by
    have hBody := hFits.body
    rw [hParts, List.length_append, length_littleEndian, FrameReader.capacity, maxBody]
    rw [maxLoginBody] at hBody
    omega
  obtain ⟨-, -, -, r', hPrelude, hCredentials⟩ :=
    reads_frame sampleKey_inverse hFrame (FrameReader.carries_ofFrame hFit) rfl
  refine ⟨frame, r', hFrame, hPrelude, ?_⟩
  rw [show ClientSystem.qtLinux = sample.system from rfl, hCredentials]
  decide +kernel

end LoginForm

end Gatehouse
