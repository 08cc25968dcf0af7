import Mathlib.Data.List.Lex
import Mathlib.Data.String.Basic

/-! # The order of bytes

Texts are compared character by character.  In UTF-8 this is the order of their bytes:

* `Text.bytes` — the bytes of a text;
* `Text.charBytes_append_lt` — of two characters, the lesser one has the lesser bytes, and the bytes
  of neither start with those of the other;
* `Text.lt_iff_bytes_lt` — two texts are ordered like their bytes.
-/

namespace Introspect.Text

/-- The bytes of a text in UTF-8. -/
def bytes (s : String) : List Nat := s.toByteArray.data.toList.map UInt8.toNat

/-- The bytes of a character in UTF-8. -/
def charBytes (c : Char) : List Nat := (String.utf8EncodeChar c).map UInt8.toNat

theorem charBytes_eq (c : Char) :
    charBytes c =
      if c.toNat ≤ 0x7f then [c.toNat]
      else if c.toNat ≤ 0x7ff then [c.toNat / 64 + 0xc0, c.toNat % 64 + 0x80]
      else if c.toNat ≤ 0xffff then
        [c.toNat / 4096 + 0xe0, c.toNat / 64 % 64 + 0x80, c.toNat % 64 + 0x80]
      else
        [c.toNat / 262144 + 0xf0, c.toNat / 4096 % 64 + 0x80, c.toNat / 64 % 64 + 0x80,
          c.toNat % 64 + 0x80] := by
  have valid : c.toNat < 0x110000 := by
    have := c.valid
    simp only [UInt32.isValidChar, Nat.isValidChar] at this
    change c.val.toNat < _
    omega
  simp only [charBytes, String.utf8EncodeChar, Char.toNat_val]
  split_ifs
  all_goals
    simp only [List.map_cons, List.map_nil, UInt8.toNat_ofNat', List.cons.injEq, and_true]
    omega

theorem charBytes_append_lt {c d : Char} (less : c < d) (xs ys : List Nat) :
    charBytes c ++ xs < charBytes d ++ ys := by
  have numbers : c.toNat < d.toNat := less
  rw [charBytes_eq, charBytes_eq]
  -- Of the encodings in which the first one is longer, none is left.
  split_ifs
  all_goals try omega
  all_goals simp only [List.cons_append, List.nil_append, List.cons_lt_cons_iff]
  all_goals omega

theorem bytes_eq (s : String) : bytes s = s.toList.flatMap charBytes := by
  rw [bytes, ← String.utf8Encode_toList, List.utf8Encode, List.data_toByteArray]
  simp [List.map_flatMap]
  rfl

theorem flatMap_charBytes_lt {as bs : List Char} (less : as < bs) :
    as.flatMap charBytes < bs.flatMap charBytes := by
  induction less with
  | @nil c rest =>
    have nonempty : charBytes c ≠ [] := by
      rw [charBytes_eq]
      split_ifs <;> simp
    obtain ⟨n, ns, eq⟩ := List.exists_cons_of_ne_nil nonempty
    rw [List.flatMap_cons, eq]
    exact List.nil_lt_cons _ _
  | @cons c as bs _ ih =>
    rw [List.flatMap_cons, List.flatMap_cons]
    exact List.append_left_lt ih
  | rel less =>
    rw [List.flatMap_cons, List.flatMap_cons]
    exact charBytes_append_lt less _ _

theorem lt_iff_bytes_lt {a b : String} : a < b ↔ bytes a < bytes b := by
  have kept {a b : String} (less : a < b) : bytes a < bytes b := by
    rw [bytes_eq, bytes_eq]
    exact flatMap_charBytes_lt less
  refine ⟨kept, fun less => ?_⟩
  rcases lt_trichotomy a b with below | rfl | above
  · exact below
  · exact absurd less (lt_irrefl _)
  · exact absurd less (lt_asymm (kept above))

end Introspect.Text
