import DirectoryLogin.Text.Percent
import Mathlib.Tactic.IntervalCases
/-!
# Codings Are Read Back

Text becomes bytes, and bytes become a text that may stand in a URL. Either way nothing is lost: what was coded is read
back as it was, whatever characters there are in it.

- `Text.decodeUtf8_utf8Chars`: text as bytes.
- `Text.percentBytes_percentEncode`: text in a URL.
-/

namespace DirectoryLogin.Text

/-! ## §1 UTF-8 -/

theorem toNat_ofNat_of_lt {n : Nat} (h : n < 256) : (UInt8.ofNat n).toNat = n := by
  rw [UInt8.toNat_ofNat', Nat.mod_eq_of_lt h]

section Bytes

variable {b bits missing low high : Nat} (hb : b < 256) (rest : List UInt8)
include hb

/-- A byte that begins a character. -/
theorem decodeFrom_first {cs : List Char} {next : Option PartialChar} (h : beginChar b = (cs, next)) :
    decodeFrom none (UInt8.ofNat b :: rest) = cs ++ decodeFrom next rest := by
  rw [decodeFrom, toNat_ofNat_of_lt hb, decodeByte, h]

variable (hlow : low ≤ b) (hhigh : b ≤ high)
include hlow hhigh

/-- A byte that continues a character, with more to come. -/
theorem decodeFrom_next : decodeFrom (some ⟨bits, missing + 1, low, high⟩) (UInt8.ofNat b :: rest) =
    decodeFrom (some ⟨bits * 0x40 + (b - 0x80), missing, 0x80, 0xBF⟩) rest := by
  rw [decodeFrom, toNat_ofNat_of_lt hb, decodeByte, if_pos ⟨hlow, hhigh⟩]
  rfl

/-- The last byte of a character. -/
theorem decodeFrom_last : decodeFrom (some ⟨bits, 0, low, high⟩) (UInt8.ofNat b :: rest) =
    charOfNat (bits * 0x40 + (b - 0x80)) :: decodeFrom none rest := by
  rw [decodeFrom, toNat_ofNat_of_lt hb, decodeByte, if_pos ⟨hlow, hhigh⟩]
  rfl

end Bytes

/-- What the first byte of two begins. -/
theorem beginChar_two {b : Nat} (hlow : 0xC2 ≤ b) (hhigh : b < 0xE0) :
    beginChar b = ([], some ⟨b - 0xC0, 0, 0x80, 0xBF⟩) := by
  rw [beginChar, if_neg (by omega), if_neg (by omega), if_pos hhigh]

/-- What the first byte of three begins. Overlong forms and surrogates are kept out by the bounds of the second. -/
theorem beginChar_three {b : Nat} (hlow : 0xE0 ≤ b) (hhigh : b < 0xF0) :
    beginChar b =
      ([], some ⟨b - 0xE0, 1, if b = 0xE0 then 0xA0 else 0x80, if b = 0xED then 0x9F else 0xBF⟩) := by
  interval_cases b <;> rfl

/-- What the first byte of four begins. -/
theorem beginChar_four {b : Nat} (hlow : 0xF0 ≤ b) (hhigh : b ≤ 0xF4) :
    beginChar b =
      ([], some ⟨b - 0xF0, 2, if b = 0xF0 then 0x90 else 0x80, if b = 0xF4 then 0x8F else 0xBF⟩) := by
  interval_cases b <;> rfl

/-- **One character** is read back, whatever comes after it. -/
theorem decodeFrom_utf8Char (c : Char) (rest : List UInt8) :
    decodeFrom none (utf8Char c ++ rest) = c :: decodeFrom none rest := by
  have hvalid : c.toNat < 0xD800 ∨ 0xDFFF < c.toNat ∧ c.toNat < 0x110000 := c.valid
  have hchar := charOfNat_toNat c
  unfold utf8Char
  generalize c.toNat = n at hvalid hchar
  dsimp only
  split
  · -- one byte
    have hone : beginChar n = ([c], none) := by rw [beginChar, if_pos ‹_›, hchar]
    exact decodeFrom_first (by omega) rest hone
  split
  · -- two bytes
    have hbits : (0xC0 + n / 0x40 - 0xC0) * 0x40 + (0x80 + n % 0x40 - 0x80) = n := by omega
    rw [List.cons_append, decodeFrom_first (by omega) _ (beginChar_two (by omega) (by omega)), List.nil_append,
      List.cons_append, decodeFrom_last (by omega) _ (by omega) (by omega), hbits, hchar, List.nil_append]
  split
  · -- three bytes
    have hbits : ((0xE0 + n / 0x1000 - 0xE0) * 0x40 + (0x80 + n / 0x40 % 0x40 - 0x80)) * 0x40 +
        (0x80 + n % 0x40 - 0x80) = n := by omega
    rw [List.cons_append, decodeFrom_first (by omega) _ (beginChar_three (by omega) (by omega)), List.nil_append,
      List.cons_append, decodeFrom_next (by omega) _ (by split <;> omega) (by split <;> omega),
      List.cons_append, decodeFrom_last (by omega) _ (by omega) (by omega), hbits, hchar, List.nil_append]
  · -- four bytes
    have hbits : (((0xF0 + n / 0x40000 - 0xF0) * 0x40 + (0x80 + n / 0x1000 % 0x40 - 0x80)) * 0x40 +
        (0x80 + n / 0x40 % 0x40 - 0x80)) * 0x40 + (0x80 + n % 0x40 - 0x80) = n := by omega
    rw [List.cons_append, decodeFrom_first (by omega) _ (beginChar_four (by omega) (by omega)), List.nil_append,
      List.cons_append, decodeFrom_next (by omega) _ (by split <;> omega) (by split <;> omega),
      List.cons_append, decodeFrom_next (by omega) _ (by omega) (by omega),
      List.cons_append, decodeFrom_last (by omega) _ (by omega) (by omega), hbits, hchar, List.nil_append]

/-- **Characters as bytes** are read back as they were. -/
theorem decodeUtf8_utf8Chars (cs : List Char) : decodeUtf8 (utf8Chars cs) = String.ofList cs := by
  refine congrArg String.ofList ?_
  rw [decodeChars]
  induction cs with
  | nil => rfl
  | cons c rest ih => rw [utf8Chars, List.flatMap_cons, decodeFrom_utf8Char, ← utf8Chars, ih]

/-! ## §2 Percent coding -/

theorem hexDigit?_upperHex {n : Nat} (h : n < 16) : hexDigit? (upperHex n) = some n := by
  interval_cases n <;> rfl

theorem percentBytes_cons {c : Char} (hc : c ≠ '%') (rest : List Char) :
    percentBytes (c :: rest) = utf8Char c ++ percentBytes rest := by
  rw [percentBytes]
  exact fun _ _ _ h _ => hc h

/-- **One byte** is read back, whatever comes after it, unless a percent sign is to stay as it is. -/
theorem percentBytes_percentByte {safe : Char → Bool} (hsafe : safe '%' = false) (b : UInt8) (rest : List Char) :
    percentBytes (percentByte safe b ++ rest) = b :: percentBytes rest := by
  have hb : b.toNat < 256 := b.toNat_lt
  unfold percentByte
  dsimp only
  split
  · -- the byte stands for itself
    rename_i hkept
    obtain ⟨hlow, hkept⟩ := (Bool.and_eq_true _ _).mp hkept
    have hpercent : Char.ofNat b.toNat ≠ '%' := by
      intro h
      rw [h, hsafe] at hkept
      cases hkept
    have hascii : utf8Char (Char.ofNat b.toNat) = [b] := by
      have hlow : b.toNat < 128 := of_decide_eq_true hlow
      have hcode : (Char.ofNat b.toNat).toNat = b.toNat := toNat_ofNat_of_isValidChar (.inl (by omega))
      rw [utf8Char, hcode, if_pos hlow, UInt8.ofNat_toNat]
    rw [List.cons_append, List.nil_append, percentBytes_cons hpercent, hascii, List.cons_append, List.nil_append]
  · have hvalue : 16 * (b.toNat / 16) + b.toNat % 16 = b.toNat := by omega
    rw [List.cons_append, List.cons_append, List.cons_append, List.nil_append, percentBytes,
      hexDigit?_upperHex (by omega), hexDigit?_upperHex (by omega)]
    dsimp only
    rw [hvalue, UInt8.ofNat_toNat]

/-- **Text in a URL** stands for its bytes. -/
theorem percentBytes_percentEncode {safe : Char → Bool} (hsafe : safe '%' = false) (s : String) :
    percentBytes (percentEncode safe s).toList = utf8 s := by
  rw [percentEncode, String.toList_ofList]
  induction utf8 s with
  | nil => rfl
  | cons b rest ih => rw [List.flatMap_cons, percentBytes_percentByte hsafe, ih]

/-- What text in a URL is made of. -/
theorem mem_percentEncode {safe : Char → Bool} {s : String} {c : Char} (h : c ∈ (percentEncode safe s).toList) :
    isUnreserved c = true ∨ safe c = true ∨ c = '%' := by
  rw [percentEncode, String.toList_ofList] at h
  obtain ⟨b, -, h⟩ := List.mem_flatMap.mp h
  have hb : b.toNat < 256 := b.toNat_lt
  have hdigit (n : Nat) (hn : n < 16) : isUnreserved (upperHex n) = true := by
    interval_cases n <;> rfl
  unfold percentByte at h
  dsimp only at h
  -- the byte is kept, or becomes a percent sign and two hexadecimal digits
  split at h
  · rename_i hkept
    rw [List.mem_singleton.mp h]
    exact ((Bool.or_eq_true _ _).mp ((Bool.and_eq_true _ _).mp hkept).2).imp_right .inl
  · rw [List.mem_cons, List.mem_cons, List.mem_singleton] at h
    rcases h with rfl | rfl | rfl
    · exact .inr (.inr rfl)
    · exact .inl (hdigit _ (by omega))
    · exact .inl (hdigit _ (by omega))

end DirectoryLogin.Text
