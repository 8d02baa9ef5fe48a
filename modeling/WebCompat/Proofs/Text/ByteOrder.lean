/-!
# Texts in the order of their bytes

Texts are compared character by character.  In UTF-8 this is the order of the
bytes: the codes of two characters differ in some byte before either of them
ends, and the first byte that differs is the smaller one in the code of the
smaller character.
-/

namespace WebCompat
namespace Text

def bytes (text : String) : List UInt8 :=
  text.toUTF8.data.toList

theorem bytes_eq_flatMap (text : String) :
    bytes text = text.toList.flatMap String.utf8EncodeChar := by
  rw [bytes, String.toUTF8_eq_toByteArray, ← String.utf8Encode_toList, List.utf8Encode,
    List.data_toByteArray]

theorem cons_ofNat_lt {first second : Nat} (hlt : first < second) (hbyte : second < 256)
    (restFirst restSecond : List UInt8) :
    UInt8.ofNat first :: restFirst < UInt8.ofNat second :: restSecond := by
  rw [List.cons_lt_cons_iff, UInt8.lt_iff_toNat_lt, UInt8.toNat_ofNat', UInt8.toNat_ofNat']
  left
  omega

theorem cons_ofNat_lt_of_le {first second : Nat} (hle : first ≤ second) (hbyte : second < 256)
    {restFirst restSecond : List UInt8} (hrest : first = second → restFirst < restSecond) :
    UInt8.ofNat first :: restFirst < UInt8.ofNat second :: restSecond := by
  rcases Nat.lt_or_eq_of_le hle with hlt | heq
  · exact cons_ofNat_lt hlt hbyte restFirst restSecond
  · rw [heq, List.cons_lt_cons_iff]
    exact Or.inr ⟨rfl, hrest heq⟩

theorem utf8EncodeChar_append_lt {first second : Char} (h : first < second)
    (restFirst restSecond : List UInt8) :
    String.utf8EncodeChar first ++ restFirst < String.utf8EncodeChar second ++ restSecond := by
  have hlt : first.val.toNat < second.val.toNat := UInt32.lt_iff_toNat_lt.mp h
  have hbound : second.val.toNat < 0x110000 := by
    have hvalid := second.valid
    unfold UInt32.isValidChar Nat.isValidChar at hvalid
    omega
  unfold String.utf8EncodeChar
  generalize first.val.toNat = v at hlt
  generalize second.val.toNat = w at hlt hbound
  dsimp only
  -- Codes of different lengths differ in their first bytes already; codes of the same
  -- length are compared digit by digit, from the leading one on.
  by_cases hw1 : w ≤ 0x7f
  · have hv1 : v ≤ 0x7f := by omega
    rw [if_pos hv1, if_pos hw1]
    exact cons_ofNat_lt hlt (by omega) _ _
  by_cases hw2 : w ≤ 0x7ff
  · rw [if_neg hw1, if_pos hw2]
    by_cases hv1 : v ≤ 0x7f
    · rw [if_pos hv1]
      exact cons_ofNat_lt (by omega) (by omega) _ _
    · rw [if_neg hv1, if_pos (by omega : v ≤ 0x7ff)]
      refine cons_ofNat_lt_of_le (by omega) (by omega) fun hlead => ?_
      exact cons_ofNat_lt (by omega) (by omega) _ _
  by_cases hw3 : w ≤ 0xffff
  · rw [if_neg hw1, if_neg hw2, if_pos hw3]
    by_cases hv1 : v ≤ 0x7f
    · rw [if_pos hv1]
      exact cons_ofNat_lt (by omega) (by omega) _ _
    by_cases hv2 : v ≤ 0x7ff
    · rw [if_neg hv1, if_pos hv2]
      exact cons_ofNat_lt (by omega) (by omega) _ _
    · rw [if_neg hv1, if_neg hv2, if_pos (by omega : v ≤ 0xffff)]
      refine cons_ofNat_lt_of_le (by omega) (by omega) fun hlead => ?_
      refine cons_ofNat_lt_of_le (by omega) (by omega) fun hnext => ?_
      exact cons_ofNat_lt (by omega) (by omega) _ _
  · rw [if_neg hw1, if_neg hw2, if_neg hw3]
    by_cases hv1 : v ≤ 0x7f
    · rw [if_pos hv1]
      exact cons_ofNat_lt (by omega) (by omega) _ _
    by_cases hv2 : v ≤ 0x7ff
    · rw [if_neg hv1, if_pos hv2]
      exact cons_ofNat_lt (by omega) (by omega) _ _
    by_cases hv3 : v ≤ 0xffff
    · rw [if_neg hv1, if_neg hv2, if_pos hv3]
      exact cons_ofNat_lt (by omega) (by omega) _ _
    · rw [if_neg hv1, if_neg hv2, if_neg hv3]
      refine cons_ofNat_lt_of_le (by omega) (by omega) fun hlead => ?_
      refine cons_ofNat_lt_of_le (by omega) (by omega) fun hnext => ?_
      refine cons_ofNat_lt_of_le (by omega) (by omega) fun hthird => ?_
      exact cons_ofNat_lt (by omega) (by omega) _ _

theorem flatMap_utf8EncodeChar_lt {first second : List Char} (h : first < second) :
    first.flatMap String.utf8EncodeChar < second.flatMap String.utf8EncodeChar := by
  induction first generalizing second with
  | nil =>
      cases second with
      | nil =>
          exact absurd h (List.not_lt_nil [])
      | cons d others =>
          rw [List.flatMap_nil, List.flatMap_cons]
          cases hcode : String.utf8EncodeChar d with
          | nil =>
              exact absurd hcode String.utf8EncodeChar_ne_nil
          | cons byte tail =>
              exact List.nil_lt_cons _ _
  | cons c rest ih =>
      cases second with
      | nil =>
          exact absurd h (List.not_lt_nil _)
      | cons d others =>
          rw [List.flatMap_cons, List.flatMap_cons]
          rcases List.cons_lt_cons_iff.mp h with hchar | ⟨hchar, hrest⟩
          · exact utf8EncodeChar_append_lt hchar _ _
          · rw [hchar]
            exact List.append_left_lt (ih hrest)

theorem bytes_lt_of_lt {first second : String} (h : first < second) :
    bytes first < bytes second := by
  rw [bytes_eq_flatMap, bytes_eq_flatMap]
  exact flatMap_utf8EncodeChar_lt h

theorem le_of_bytes_le {first second : String} (h : bytes first ≤ bytes second) :
    first ≤ second := by
  apply String.not_lt.mp
  intro hlt
  exact List.not_lt.mpr h (bytes_lt_of_lt hlt)

end Text
end WebCompat
