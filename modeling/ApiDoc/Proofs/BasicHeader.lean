/-
This file proves that the header which is made of credentials states these credentials, if they can be
spelled: they are ASCII, and the name holds no colon. Credentials that come from a header themselves
can be.
-/
import ApiDoc.Proofs.AsciiText
import ApiDoc.Proofs.Cutting
import ApiDoc.Proofs.Utf8Decoding
import ApiDoc.Server.Credentials
import ApiDoc.Source.Exchange

namespace ApiDoc

/-! ### Bytes in sixty-four signs -/

namespace Base64

theorem value?_sign : ∀ value < 64, value? (sign value) = some value := by decide +kernel

theorem sign_ne_padding : ∀ value < 64, sign value ≠ padding := by decide +kernel

theorem isAscii_sign : ∀ value < 64, (sign value).isAscii = true := by decide +kernel

/-- A sign brings its group further. -/
theorem decodeFrom?_sign (group : Group) {value : Nat} (small : value < 64) (rest : Text) :
    decodeFrom? group (sign value :: rest) =
      (decodeFrom? (group.next value).2 rest).map ((group.next value).1 ++ ·) := by
  rw [decodeFrom?, if_neg (sign_ne_padding value small), value?_sign value small]

/-- The bits of a byte that stand in two signs make up the byte. -/
theorem toUInt8_parts (byte : UInt8) {number : Nat} (same : number = byte.toNat) :
    number.toUInt8 = byte := by
  rw [same]
  exact UInt8.ofNat_toNat

/-- Reading undoes writing. -/
theorem decodeFrom?_encode (bytes : Bytes) : decodeFrom? {} (encode bytes) = some bytes := by
  induction bytes using encode.induct with
  | case1 => rfl
  | case2 first =>
    have limited := first.toNat_lt
    rw [encode, decodeFrom?_sign _ (by omega), decodeFrom?_sign _ (by omega)]
    simp only [Group.next]
    rw [toUInt8_parts first (by omega)]
    rfl
  | case3 first second =>
    have limited := first.toNat_lt
    have limitedSecond := second.toNat_lt
    rw [encode, decodeFrom?_sign _ (by omega), decodeFrom?_sign _ (by omega),
      decodeFrom?_sign _ (by omega)]
    simp only [Group.next]
    rw [toUInt8_parts first (by omega), toUInt8_parts second (by omega)]
    rfl
  | case4 first second third rest inductionHypothesis =>
    -- Four signs complete a group, so the rest is read as if nothing came before it.
    have limited := first.toNat_lt
    have limitedSecond := second.toNat_lt
    have limitedThird := third.toNat_lt
    rw [encode, decodeFrom?_sign _ (by omega), decodeFrom?_sign _ (by omega),
      decodeFrom?_sign _ (by omega), decodeFrom?_sign _ (by omega)]
    simp only [Group.next]
    rw [toUInt8_parts first (by omega), toUInt8_parts second (by omega),
      toUInt8_parts third (by omega), inductionHypothesis]
    rfl

/-- Nothing but ASCII is needed. -/
theorem isAscii_encode (bytes : Bytes) : (encode bytes).isAscii = true := by
  induction bytes using encode.induct with
  | case1 => rfl
  | case2 first =>
    have limited := first.toNat_lt
    exact Text.isAscii_cons (isAscii_sign _ (by omega))
      (Text.isAscii_cons (isAscii_sign _ (by omega)) rfl)
  | case3 first second =>
    have limited := first.toNat_lt
    have limitedSecond := second.toNat_lt
    exact Text.isAscii_cons (isAscii_sign _ (by omega))
      (Text.isAscii_cons (isAscii_sign _ (by omega))
        (Text.isAscii_cons (isAscii_sign _ (by omega)) rfl))
  | case4 first second third rest inductionHypothesis =>
    have limited := first.toNat_lt
    have limitedSecond := second.toNat_lt
    have limitedThird := third.toNat_lt
    exact Text.isAscii_cons (isAscii_sign _ (by omega))
      (Text.isAscii_cons (isAscii_sign _ (by omega))
        (Text.isAscii_cons (isAscii_sign _ (by omega))
          (Text.isAscii_cons (isAscii_sign _ (by omega)) inductionHypothesis)))

/-- What bytes are written as stands for them. -/
theorem decode?_encode (bytes : Bytes) : decode? (encode bytes) = some bytes := by
  rw [decode?, if_pos (isAscii_encode bytes), decodeFrom?_encode]

end Base64

/-! ### ASCII in bytes -/

theorem CodePoint.exists_char_of_isAscii {point : CodePoint} (ascii : point.isAscii = true) :
    ∃ character : Char, point = .char character ∧ character.toNat < 0x80 := by
  have small : point.value < 0x80 := of_decide_eq_true ascii
  cases point with
  | char character => exact ⟨character, rfl, small⟩
  | surrogate index =>
    have large : 0xD800 + index.val < 0x80 := small
    omega

theorem Utf8.decode?_encode_ascii {text : Text} (ascii : text.isAscii = true) :
    decode? (encode text) = some text := by
  induction text with
  | nil => rfl
  | cons point rest inductionHypothesis =>
    rw [Text.isAscii, List.all_cons, Bool.and_eq_true] at ascii
    obtain ⟨character, rfl, small⟩ := CodePoint.exists_char_of_isAscii ascii.1
    have lead : character.toNat.toUInt8.toNat = character.toNat :=
      toNat_toUInt8 character.toNat (by omega)
    have single : character.toNat.toUInt8 < 0x80 := by
      rw [UInt8.lt_iff_toNat_lt, lead]
      exact small
    have bytes : encode (.char character :: rest) = character.toNat.toUInt8 :: encode rest :=
      congrArg (· ++ encode rest) (encodeValue_ascii small)
    rw [bytes, decode?.eq_def]
    dsimp only
    rw [if_pos single, inductionHypothesis ascii.2, lead, Char.ofNat_toNat]
    rfl

/-! ### Credentials -/

theorem Text.of_cutFirst?_eq_some {mark : CodePoint} {text before after : Text}
    (cut : cutFirst? mark text = some (before, after)) :
    text = before ++ mark :: after ∧ mark ∉ before := by
  by_cases found : mark ∈ text
  · obtain ⟨first, rest, rfl, unmarked⟩ := List.eq_append_cons_of_mem found
    rw [cutFirst?_append_cons unmarked] at cut
    obtain ⟨rfl, rfl⟩ := Prod.mk.inj (Option.some.inj cut)
    exact ⟨rfl, unmarked⟩
  · rw [cutFirst?_of_not_mem found] at cut
    exact nomatch cut

namespace Server

namespace Credentials

/-- The bytes that a header proves credentials with. -/
def toBytes (credentials : Credentials) : Bytes :=
  Utf8.encode credentials.username ++ Utf8.encode ":" ++ Utf8.encode credentials.password

/-- Credentials can be spelled if they are ASCII and the name holds no colon. -/
structure IsSpellable (credentials : Credentials) : Prop where
  username : credentials.username.isAscii = true
  password : credentials.password.isAscii = true
  uncut : .char ':' ∉ credentials.username

/-- Credentials that bytes spell can be spelled. -/
theorem isSpellable_of_ofBytes? {bytes : Bytes} {credentials : Credentials}
    (read : ofBytes? bytes = some credentials) : credentials.IsSpellable := by
  unfold ofBytes? at read
  obtain ⟨spelled, _, read⟩ := Option.bind_eq_some_iff.mp read
  obtain ⟨⟨username, password⟩, cut, read⟩ := Option.bind_eq_some_iff.mp read
  obtain ⟨rfl, uncut⟩ := Text.of_cutFirst?_eq_some cut
  dsimp only at read
  split at read
  · rename_i ascii
    obtain rfl := Option.some.inj read
    constructor
    · exact Text.isAscii_subset ascii fun point member => List.mem_append_left _ member
    · exact Text.isAscii_subset ascii fun point member =>
        List.mem_append_right _ (List.mem_cons_of_mem _ member)
    · exact uncut
  · exact nomatch read

/-- The bytes of credentials that can be spelled spell them. -/
theorem ofBytes?_toBytes {credentials : Credentials} (spellable : credentials.IsSpellable) :
    ofBytes? credentials.toBytes = some credentials := by
  obtain ⟨username, password⟩ := credentials
  have ascii : Text.isAscii (username ++ .char ':' :: password) = true :=
    Text.isAscii_append spellable.username (Text.isAscii_cons rfl spellable.password)
  have bytes : toBytes ⟨username, password⟩ = Utf8.encode (username ++ .char ':' :: password) := by
    rw [toBytes, List.append_assoc, ← Utf8.encode_append, ← Utf8.encode_append]
    rfl
  unfold ofBytes?
  rw [bytes, Utf8.decode?_encode_ascii ascii]
  simp only [bind, Option.bind, Text.cutFirst?_append_cons spellable.uncut, if_pos ascii]

end Credentials

namespace Identity

/-- The header made of credentials that can be spelled states them. -/
theorem ofHeader_basicAuthorization {credentials : Credentials}
    (spellable : credentials.IsSpellable) :
    ofHeader (Http.basicAuthorization credentials.username credentials.password) =
      .stated credentials := by
  have header : Http.basicAuthorization credentials.username credentials.password =
      Text.ofString "Basic" ++ .char ' ' :: Base64.encode credentials.toBytes := by
    show Text.ofPieces ["Basic ", Base64.encode credentials.toBytes] = _
    rw [Text.ofPieces, List.flatten_cons, List.flatten_singleton]
    rfl
  have scheme : (Text.ofString "Basic").asciiLowercase = Text.ofString "basic" := by decide
  have unmarked : .char ' ' ∉ Text.ofString "Basic" := by decide
  unfold ofHeader
  rw [header, Text.cutFirst?_append_cons unmarked]
  simp only [Option.getD_some, if_pos scheme, Base64.decode?_encode, Option.bind_some,
    Credentials.ofBytes?_toBytes spellable]

/-- Credentials that a header states can be spelled. -/
theorem isSpellable_of_ofHeader {header : Text} {credentials : Credentials}
    (stated : ofHeader header = .stated credentials) : credentials.IsSpellable := by
  unfold ofHeader at stated
  dsimp only at stated
  split at stated
  · split at stated
    · rename_i read
      obtain rfl := Identity.stated.inj stated
      obtain ⟨bytes, _, spelled⟩ := Option.bind_eq_some_iff.mp read
      exact Credentials.isSpellable_of_ofBytes? spelled
    · exact nomatch stated
  · exact nomatch stated

theorem isSpellable_of_ofRequest {request : Request} {credentials : Credentials}
    (stated : ofRequest request = .stated credentials) : credentials.IsSpellable := by
  unfold ofRequest at stated
  split at stated
  · exact isSpellable_of_ofHeader stated
  · exact nomatch stated

end Identity

end Server

end ApiDoc
