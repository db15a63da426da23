import Mathlib
import Issuance.Text.Blank
import Issuance.Proofs.Text.Utf8Codec
/-! # Trimmed texts

Trimming is idempotent, so a trimmed identifier is found under the same key
when trimmed again, and it takes no more bytes than the text. -/
namespace Issuance.Text

theorem trimChars_eq (cs : List Char) : trimChars cs = (cs.dropWhile isBlank).rdropWhile isBlank := rfl

theorem dropWhile_trimChars (cs : List Char) : (trimChars cs).dropWhile isBlank = trimChars cs := by
  rw [trimChars_eq, List.dropWhile_eq_self_iff]
  intro hl
  have hp := List.rdropWhile_prefix (p := isBlank) (l := cs.dropWhile isBlank)
  have hd : 0 < (cs.dropWhile isBlank).length := lt_of_lt_of_le hl hp.length_le
  rw [hp.getElem hl]
  exact List.dropWhile_get_zero_not isBlank cs hd

theorem trimChars_trimChars (cs : List Char) : trimChars (trimChars cs) = trimChars cs := by
  rw [trimChars_eq (trimChars cs), dropWhile_trimChars, trimChars_eq, List.rdropWhile_idempotent]

@[simp] theorem trim_trim (s : String) : trim (trim s) = trim s := by
  simp only [trim, String.toList_ofList, trimChars_trimChars]

theorem trimChars_isInfix (cs : List Char) : trimChars cs <:+: cs := by
  rw [trimChars_eq]
  exact (List.rdropWhile_prefix isBlank (cs.dropWhile isBlank)).isInfix.trans (List.dropWhile_suffix _).isInfix

theorem length_ofString_trim_le (s : String) : (Bytes.ofString (trim s)).length ≤ (Bytes.ofString s).length := by
  rw [Bytes.ofString_eq, Bytes.ofString_eq, trim, String.toList_ofList]
  exact ((trimChars_isInfix s.toList).sublist.flatMap _).length_le

/-- A text that every stored record has room for: fewer than 2^32 bytes. -/
def Short (s : String) : Prop := (Bytes.ofString s).length < 2 ^ 32

theorem Short.trim {s : String} (h : Short s) : Short (trim s) :=
  lt_of_le_of_lt (length_ofString_trim_le s) h

end Issuance.Text
