/-
# Texts that have bytes

The bytes of characters are those that strings have anyway, so a file can be described by
the string that it holds.  A text that is no string has a fault instead, whatever characters
are added behind it.
-/

import CommandShell.Text.Encoding
import CommandShell.Proofs.Text.Utf8

namespace CommandShell.Text

namespace Utf8

theorem encodeChar_eq (c : Char) : encodeChar c = String.utf8EncodeChar c := by
  have bound : c.toNat < 0x110000 := by
    rcases c.valid with low | ⟨-, high⟩
    · exact Nat.lt_trans low (by decide)
    · exact high
  have value : c.val.toNat = c.toNat := rfl
  have last : c.toNat % 64 + 128 = 0x80 + c.toNat % 0x40 := Nat.add_comm ..
  have middle : c.toNat / 64 % 64 + 128 = 0x80 + c.toNat / 0x40 % 0x40 := Nat.add_comm ..
  simp only [encodeChar, String.utf8EncodeChar, value, Nat.toUInt8_eq, last, middle]
  by_cases one : c.toNat < 0x80
  · rw [if_pos one, if_pos (by omega)]
  rw [if_neg one, if_neg (show ¬ c.toNat ≤ 127 by omega)]
  by_cases two : c.toNat < 0x800
  · rw [if_pos two, if_pos (by omega),
      show c.toNat / 64 % 32 + 192 = 0xc0 + c.toNat / 0x40 by omega]
  rw [if_neg two, if_neg (show ¬ c.toNat ≤ 2047 by omega)]
  by_cases three : c.toNat < 0x10000
  · rw [if_pos three, if_pos (by omega),
      show c.toNat / 4096 % 16 + 224 = 0xe0 + c.toNat / 0x1000 by omega]
  rw [if_neg three, if_neg (show ¬ c.toNat ≤ 65535 by omega),
    show c.toNat / 262144 % 8 + 240 = 0xf0 + c.toNat / 0x40000 by omega,
    show c.toNat / 4096 % 64 + 128 = 0x80 + c.toNat / 0x1000 % 0x40 by omega]

/-- The bytes of a string. -/
theorem encode_toList (string : String) : encode string.toList = string.toUTF8.data.toList := by
  have bytes : string.toUTF8 = string.toList.utf8Encode := by
    conv =>
      lhs
      rw [← String.ofList_toList (s := string)]
    rfl
  rw [bytes, encode, List.utf8Encode, List.data_toByteArray, funext encodeChar_eq]

end Utf8

@[simp] theorem encode_plain (string : String) :
    (plain string).encode = .ok string.toUTF8.data.toList := by
  rw [encode, Utf8.encode_toList]

/-- Bytes of strings are joined as the strings are. -/
theorem bytes_append (front back : String) :
    (front ++ back).toUTF8.data.toList = front.toUTF8.data.toList ++ back.toUTF8.data.toList := by
  simp only [← Utf8.encode_toList, String.toList_append, Utf8.encode_append]

theorem leadingSurrogates_append_plain (text : Text) (string : String) :
    (text ++ plain string).leadingSurrogates = text.leadingSurrogates := by
  induction text with
  | plain before => rfl
  | broken before surrogate behind ih =>
      rw [broken_append, leadingSurrogates, ih, leadingSurrogates]

/-- A fault stays when characters are added behind it. -/
theorem encode_append_plain_of_error {text : Text} {fault : EncodingFault}
    (h : text.encode = .error fault) (string : String) :
    (text ++ plain string).encode = .error fault := by
  cases text with
  | plain before => cases h
  | broken before surrogate behind =>
      rw [broken_append, encode, leadingSurrogates_append_plain, ← h, encode]

end CommandShell.Text
