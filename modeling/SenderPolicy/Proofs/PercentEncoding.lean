import SenderPolicy.Proofs.Bytes
import SenderPolicy.Proofs.DerivedTemplates
import SenderPolicy.Text.Percent

/-!
# Percent-encoding

A text is encoded byte by byte (`percentEncode_eq`): a byte that stands for an unreserved character is that character,
and any other is a percent sign and two capital hexadecimal digits. So each byte is read back, whatever follows it
(`percentDecode?_percentEncode`), and no two texts are encoded alike. An expression with a capital letter is encoded, so
none of its characters is a blank, a mark of a mailbox, a quotation mark or a control character.
-/

namespace SenderPolicy

namespace Text

variable {b : UInt8} {c : Char} {n : Nat} {s t : Text}

/-! ## Byte by byte -/

/-- A byte as its character if that is unreserved, and else as a percent sign and two hexadecimal digits. -/
def percentOctet (b : UInt8) : Text :=
  if isUnreserved (Char.ofUInt8 b) then [Char.ofUInt8 b] else percentByte b

/-- The code point of a byte as a character is the byte. -/
lemma toNat_ofUInt8 (b : UInt8) : (Char.ofUInt8 b).toNat = b.toNat :=
  UInt8.toNat_toUInt32 b

/-- A character of ASCII is its byte as a character. -/
lemma ofUInt8_ofNat (hc : isAscii c = true) : Char.ofUInt8 (UInt8.ofNat c.toNat) = c := by
  have hlt : c.toNat < 128 := of_decide_eq_true hc
  rw [← Char.ofNat_toNat (Char.ofUInt8 _), toNat_ofUInt8, UInt8.toNat_ofNat', Nat.mod_eq_of_lt (by omega),
    Char.ofNat_toNat]

/-- An unreserved character is ASCII. -/
lemma isAscii_of_isUnreserved (hc : isUnreserved c = true) : isAscii c = true := by
  simp only [isUnreserved, Char.isAlphanum, Bool.or_eq_true, beq_iff_eq] at hc
  rcases hc with ((((halpha | hdigit) | rfl) | rfl) | rfl) | rfl
  · have hletter := Policy.toNat_of_isAlpha halpha
    have hcapitals : 'Z'.toNat < 128 := by decide
    have hsmall : 'z'.toNat < 128 := by decide
    exact decide_eq_true (by omega)
  · have hle : c.toNat ≤ 57 := (Char.isDigit_iff_toNat.mp hdigit).2
    exact decide_eq_true (by omega)
  all_goals rfl

/-- A byte that is no character of ASCII is never kept. -/
lemma percentOctet_of_le (h : 128 ≤ b.toNat) : percentOctet b = percentByte b := by
  refine if_neg fun hunreserved => ?_
  have hlt : (Char.ofUInt8 b).toNat < 128 := of_decide_eq_true (isAscii_of_isUnreserved hunreserved)
  rw [toNat_ofUInt8] at hlt
  omega

/-- The byte of a character of ASCII is kept exactly if the character is unreserved. -/
lemma percentOctet_of_isAscii (hc : isAscii c = true) :
    percentOctet (UInt8.ofNat c.toNat) = if isUnreserved c then [c] else percentByte (UInt8.ofNat c.toNat) := by
  rw [percentOctet, ofUInt8_ofNat hc]

/-- A text is encoded byte by byte. -/
lemma percentEncode_eq (t : Text) : percentEncode t = (bytes t).flatMap percentOctet := by
  rw [percentEncode, bytes, List.flatMap_assoc]
  refine List.flatMap_congr fun c _ => ?_
  cases hc : isAscii c with
  | true =>
    rw [utf8EncodeChar_of_isAscii hc, List.flatMap_singleton, List.flatMap_singleton, percentOctet_of_isAscii hc]
  | false =>
    have hreserved : ¬isUnreserved c = true := fun h => by
      rw [isAscii_of_isUnreserved h] at hc
      cases hc
    rw [if_neg hreserved]
    exact List.flatMap_congr fun b hb => (percentOctet_of_le (le_of_mem_utf8EncodeChar hc hb)).symm

/-! ## What is written -/

def capitalHexDigits : List Char :=
  "0123456789ABCDEF".toList

/-- A text of unreserved characters, and of percent signs each with two capital hexadecimal digits behind it. -/
inductive IsPercentEncoded : Text → Prop
  | nil : IsPercentEncoded []
  | copy {c : Char} {t : Text} (hc : isUnreserved c = true) (ht : IsPercentEncoded t) : IsPercentEncoded (c :: t)
  | octet {high low : Char} {t : Text} (hhigh : high ∈ capitalHexDigits) (hlow : low ∈ capitalHexDigits)
      (ht : IsPercentEncoded t) : IsPercentEncoded ('%' :: high :: low :: t)

/-- Numbers below sixteen have capital hexadecimal digits. -/
lemma capitalHexDigit_mem (h : n < 16) : capitalHexDigit n ∈ capitalHexDigits := by
  have hall : ∀ n, n < 16 → capitalHexDigit n ∈ capitalHexDigits := by decide
  exact hall n h

/-- One more byte in front of an encoded text makes an encoded text. -/
lemma IsPercentEncoded.octet_append (ht : IsPercentEncoded t) (b : UInt8) : IsPercentEncoded (percentOctet b ++ t) := by
  have hlt := b.toNat_lt
  rw [percentOctet]
  split
  · next hunreserved => exact .copy hunreserved ht
  · exact .octet (capitalHexDigit_mem (by omega)) (capitalHexDigit_mem (by omega)) ht

/-- What is written for a text is an encoded text. -/
lemma isPercentEncoded_percentEncode (t : Text) : IsPercentEncoded (percentEncode t) := by
  rw [percentEncode_eq]
  induction bytes t with
  | nil => exact .nil
  | cons b bs ih =>
    rw [List.flatMap_cons]
    exact ih.octet_append b

/-- An encoded text has unreserved characters and percent signs only. -/
lemma IsPercentEncoded.of_mem (h : IsPercentEncoded t) (hc : c ∈ t) : isUnreserved c = true ∨ c = '%' := by
  have hdigits : ∀ d ∈ capitalHexDigits, isUnreserved d = true := List.all_eq_true.mp (by decide)
  induction h with
  | nil => cases hc
  | copy hd _ ih =>
    rcases List.mem_cons.mp hc with rfl | hc
    · exact .inl hd
    · exact ih hc
  | octet hhigh hlow _ ih =>
    rw [List.mem_cons, List.mem_cons, List.mem_cons] at hc
    rcases hc with rfl | rfl | rfl | hc
    · exact .inr rfl
    · exact .inl (hdigits _ hhigh)
    · exact .inl (hdigits _ hlow)
    · exact ih hc

/-- No character of an encoded text is a blank or a control character, a mark of a mailbox or of a quotation. -/
lemma IsPercentEncoded.harmless (h : IsPercentEncoded t) (hc : c ∈ t) :
    0x20 < c.toNat ∧ c.toNat < 0x7F ∧ c ∉ ['@', '"', '\'', '`'] := by
  have hall : ∀ n, n < 128 → isUnreserved (Char.ofNat n) = true →
      0x20 < n ∧ n < 0x7F ∧ Char.ofNat n ∉ ['@', '"', '\'', '`'] := by decide
  rcases h.of_mem hc with hunreserved | rfl
  · have hlt : c.toNat < 128 := of_decide_eq_true (isAscii_of_isUnreserved hunreserved)
    have hchar := hall c.toNat hlt
    rw [Char.ofNat_toNat] at hchar
    exact hchar hunreserved
  · decide

/-! ## What is read -/

/-- The bytes that an encoded text stands for: two hexadecimal digits behind a percent sign are a byte, and any other
character is its own bytes. -/
def percentDecode? : Text → Option (List UInt8)
  | [] => some []
  | '%' :: high :: low :: t => do
    let h ← hexValue? high
    let l ← hexValue? low
    let bs ← percentDecode? t
    return UInt8.ofNat (16 * h + l) :: bs
  | c :: t => if c = '%' then none else (percentDecode? t).map (String.utf8EncodeChar c ++ ·)

/-- A character other than a percent sign stands for its own bytes. -/
lemma percentDecode?_cons (hc : c ≠ '%') (t : Text) :
    percentDecode? (c :: t) = (percentDecode? t).map (String.utf8EncodeChar c ++ ·) := by
  rw [percentDecode?, if_neg hc]
  rintro _ _ _ h -
  exact hc h

/-- A byte is read back, whatever follows it. -/
lemma percentDecode?_percentOctet (b : UInt8) (t : Text) :
    percentDecode? (percentOctet b ++ t) = (percentDecode? t).map (b :: ·) := by
  have hlt := b.toNat_lt
  rw [percentOctet]
  split
  · next hunreserved =>
    have hpercent : Char.ofUInt8 b ≠ '%' := fun h => by
      rw [h] at hunreserved
      cases hunreserved
    rw [List.singleton_append, percentDecode?_cons hpercent,
      utf8EncodeChar_of_isAscii (isAscii_of_isUnreserved hunreserved), toNat_ofUInt8, UInt8.ofNat_toNat]
    rfl
  · rw [percentByte, List.cons_append, List.cons_append, List.cons_append, List.nil_append, percentDecode?,
      hexValue?_capitalHexDigit (by omega), hexValue?_capitalHexDigit (by omega)]
    have hbyte : 16 * (b.toNat / 16) + b.toNat % 16 = b.toNat := Nat.div_add_mod b.toNat 16
    simp only [Option.bind_eq_bind, Option.bind_some, hbyte, UInt8.ofNat_toNat]
    cases percentDecode? t <;> rfl

/-- The bytes of a text are read back from its encoding. -/
lemma percentDecode?_percentEncode (t : Text) : percentDecode? (percentEncode t) = some (bytes t) := by
  rw [percentEncode_eq]
  induction bytes t with
  | nil => rfl
  | cons b bs ih => rw [List.flatMap_cons, percentDecode?_percentOctet, ih, Option.map_some]

/-- No two texts are encoded alike. -/
lemma percentEncode_injective : Function.Injective percentEncode := by
  intro s t h
  have hread := congrArg percentDecode? h
  rw [percentDecode?_percentEncode, percentDecode?_percentEncode, Option.some_inj] at hread
  exact bytes_injective hread

/-- Texts in a row are encoded one by one. -/
lemma percentEncode_append (s t : Text) : percentEncode (s ++ t) = percentEncode s ++ percentEncode t :=
  List.flatMap_append

end Text

/-! ## Encoded expressions -/

variable {scope : Scope}

/-- A capital letter asks for encoding, and no brace is in what follows the letter. -/
lemma Expression.encoded_of_parse {c : Char} {rest : Text} {e : Expression}
    (h : parse scope (c :: rest) = .ok e) : e.encoded = c.isUpper ∧ '}' ∉ rest := by
  rw [parse] at h
  split at h
  · cases h
  · split at h
    · cases h
    · split at h
      · cases h
      · next f hf =>
        obtain rfl := Except.ok.inj h
        obtain ⟨digits, sign, delimiters, hparts, rfl⟩ := Grammar.exists_of_transformer? hf
        exact ⟨rfl, hparts.brace_notMem⟩

/-- An encoded expression expands to an encoded text, whatever stands for it. -/
lemma Expression.isPercentEncoded_expand {e : Expression} (h : e.encoded = true) (x : Transaction) :
    Text.IsPercentEncoded (e.expand x) := by
  rw [expand, h]
  exact Text.isPercentEncoded_percentEncode _

/-- An expression at the front of a text expands by itself. -/
lemma Template.expand_expression {b : Text} {e : Expression} (hb : '}' ∉ b) (he : Expression.parse scope b = .ok e)
    (x : Transaction) (t : Text) :
    expand scope x ('%' :: '{' :: (b ++ ['}']) ++ t) = (expand scope x t).map (e.expand x ++ ·) := by
  rw [expand, expand, readsAs_expression hb he t]
  cases parse scope t with
  | error error => rfl
  | ok p => rfl

/-- An encoded text has only unreserved characters and percent signs with two capital hexadecimal digits behind each.
Read, it gives the bytes of the text back, so no two texts are encoded alike; and texts in a row are encoded one by one.
An expression with a capital letter is encoded, wherever it stands and whatever the values of the transaction are: none
of the characters that stand for it is a blank, an at sign, a quotation mark or a control character. -/
theorem Template.percentDecode?_and_expand :
    (∀ t, Text.IsPercentEncoded (Text.percentEncode t) ∧
        Text.percentDecode? (Text.percentEncode t) = some (Text.bytes t)) ∧
      Function.Injective Text.percentEncode ∧
      (∀ s t, Text.percentEncode (s ++ t) = Text.percentEncode s ++ Text.percentEncode t) ∧
      ∀ (scope : Scope) (x : Transaction) (c : Char) (rest : Text) (e : Expression), c.isUpper = true →
        Expression.parse scope (c :: rest) = .ok e →
          (∀ t, expand scope x ('%' :: '{' :: (c :: rest ++ ['}']) ++ t) =
            (expand scope x t).map (e.expand x ++ ·)) ∧
          Text.IsPercentEncoded (e.expand x) ∧
          ∀ d ∈ e.expand x, 0x20 < d.toNat ∧ d.toNat < 0x7F ∧ d ∉ ['@', '"', '\'', '`'] := by
  refine ⟨fun t => ⟨Text.isPercentEncoded_percentEncode t, Text.percentDecode?_percentEncode t⟩,
    Text.percentEncode_injective, Text.percentEncode_append, fun scope x c rest e hc he => ?_⟩
  obtain ⟨hencoded, hrest⟩ := Expression.encoded_of_parse he
  have hwritten := Expression.isPercentEncoded_expand (hencoded.trans hc) x
  have hbrace : '}' ∉ c :: rest := by
    intro hmem
    rcases List.mem_cons.mp hmem with rfl | hmem
    · cases hc
    · exact hrest hmem
  exact ⟨expand_expression hbrace he x, hwritten, fun d hd => hwritten.harmless hd⟩

/-- A sender with blanks, quotation marks, a percent sign of its own and a character of two bytes. -/
theorem Template.percentDecode?_and_expand_hostile :
    let x : Transaction := ⟨"\"a b\"%41@ä-b.example".toList, ⟨"\"a b\"%41".toList, "ä-b.example".toList⟩,
      "a.example".toList, .v4 ⟨1⟩, "h.example".toList, none, "unknown".toList, 0⟩
    let e : Expression := ⟨.sender, true, ⟨none, true, ['-']⟩⟩
    ('S'.isUpper = true ∧ Expression.parse .explanation ['S', 'r', '-'] = .ok e) ∧
      expand .explanation x "%{Sr-} says %{o}".toList =
        .ok "b.example.%22a%20b%22%2541%40%C3%A4 says ä-b.example".toList ∧
      Text.IsPercentEncoded (e.expand x) ∧
      ∀ d ∈ e.expand x, 0x20 < d.toNat ∧ d.toNat < 0x7F ∧ d ∉ ['@', '"', '\'', '`'] := by
  intro x e
  have hupper : 'S'.isUpper = true := by decide
  have hparse : Expression.parse .explanation ['S', 'r', '-'] = .ok e := by decide
  obtain ⟨hexpand, hwritten, hharmless⟩ :=
    percentDecode?_and_expand.2.2.2 .explanation x 'S' ['r', '-'] e hupper hparse
  refine ⟨⟨hupper, hparse⟩, (hexpand " says %{o}".toList).trans ?_, hwritten, hharmless⟩
  decide +kernel

end SenderPolicy
