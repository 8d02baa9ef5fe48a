import WebCompat.Proofs.Text.ByteOrder
import WebCompat.Proofs.Text.Position

/-!
# Boundaries between characters

A count of bytes may end between two characters of a text or inside of one.  Where
it ends between two, the place there has a row and a column: the newlines in front,
and the bytes behind the last of them.
-/

namespace WebCompat
namespace Text

theorem length_flatMap_utf8EncodeChar (text : List Char) :
    (text.flatMap String.utf8EncodeChar).length = utf8Length text := by
  induction text with
  | nil =>
      rfl
  | cons c rest ih =>
      rw [List.flatMap_cons, List.length_append, String.length_utf8EncodeChar, ih,
        utf8Length_cons]

theorem utf8ByteSize_eq_utf8Length (text : String) :
    text.utf8ByteSize = utf8Length text.toList := by
  have hbytes : text.utf8ByteSize = (bytes text).length := rfl
  rw [hbytes, bytes_eq_flatMap, length_flatMap_utf8EncodeChar]

/-!
## Counts that end between characters
-/

theorem takeBytes?_eq_some_iff {text before : List Char} {count : Nat} :
    takeBytes? count text = some before ↔ before <+: text ∧ utf8Length before = count := by
  constructor
  · intro h
    fun_induction takeBytes? count text generalizing before with
    | case1 =>
        cases h
        exact ⟨List.nil_prefix, rfl⟩
    | case2 =>
        cases h
    | case3 count c rest hle ih =>
        rcases Option.map_eq_some_iff.mp h with ⟨others, hothers, rfl⟩
        rcases ih hothers with ⟨hbegins, hlength⟩
        refine ⟨List.cons_prefix_cons.mpr ⟨rfl, hbegins⟩, ?_⟩
        rw [utf8Length_cons, hlength]
        omega
    | case4 =>
        cases h
  · rintro ⟨⟨behind, rfl⟩, rfl⟩
    exact takeBytes?_utf8Length_append before behind

theorem isValid_iff_exists_beginning {text : String} {count : Nat} :
    (⟨count⟩ : String.Pos.Raw).IsValid text ↔
      ∃ before, before <+: text.toList ∧ utf8Length before = count := by
  rw [String.Pos.Raw.isValid_iff_exists_append]
  constructor
  · rintro ⟨before, behind, htext, hcount⟩
    refine ⟨before.toList, ⟨behind.toList, ?_⟩, ?_⟩
    · rw [htext, String.toList_append]
    · rw [← utf8ByteSize_eq_utf8Length]
      exact (congrArg String.Pos.Raw.byteIdx hcount).symm
  · rintro ⟨before, ⟨behind, hbehind⟩, hcount⟩
    refine ⟨String.ofList before, String.ofList behind, ?_, ?_⟩
    · rw [← String.ofList_append, hbehind, String.ofList_toList]
    · apply String.Pos.Raw.ext
      rw [← hcount]
      change _ = (String.ofList before).utf8ByteSize
      rw [utf8ByteSize_eq_utf8Length, String.toList_ofList]

theorem utf8Length_take_le (text : List Char) {first second : Nat} (h : first ≤ second) :
    utf8Length (text.take first) ≤ utf8Length (text.take second) := by
  rcases List.take_prefix_take_left h with ⟨between, hbetween⟩
  rw [← hbetween, utf8Length_append]
  exact Nat.le_add_right _ _

/-!
## Places
-/

theorem lastLine_eq_nil {text : List Char} (h : text = [] ∨ text.getLast? = some '\n') :
    lastLine text = [] := by
  rcases h with rfl | hlast
  · rfl
  · apply List.getLast?_eq_none_iff.mp
    rw [getLast?_lastLine, hlast]
    rfl

theorem exists_append_lastLine (text : List Char) :
    ∃ front, text = front ++ lastLine text ∧ (front = [] ∨ front.getLast? = some '\n') ∧
      '\n' ∉ lastLine text := by
  refine ⟨(text.reverse.dropWhile (· != '\n')).reverse, ?_, ?_, ?_⟩
  · rw [lastLine, ← List.reverse_append, List.takeWhile_append_dropWhile, List.reverse_reverse]
  · have hhead := List.head?_dropWhile_not (· != '\n') text.reverse
    rw [List.getLast?_reverse]
    cases hrest : text.reverse.dropWhile (· != '\n') with
    | nil =>
        exact Or.inl rfl
    | cons c rest =>
        rw [hrest] at hhead
        right
        rw [List.head?_cons, bne_eq_false_iff_eq.mp hhead]
  · intro hmem
    have hall := List.all_takeWhile (l := text.reverse) (p := (· != '\n'))
    simpa using List.all_eq_true.mp hall '\n' (List.mem_reverse.mp hmem)

namespace Position

/--
Whether a place is the one behind so many bytes of a text: its row counts the
newlines in front of it, its column the bytes behind the last of them.
-/
def IsBehind (place : Position) (count : Nat) (text : List Char) : Prop :=
  ∃ front column, front ++ column <+: text ∧ utf8Length (front ++ column) = count ∧
    (front = [] ∨ front.getLast? = some '\n') ∧ '\n' ∉ column ∧
    place.row = front.count '\n' ∧ place.byteColumn = utf8Length column

theorem isBehind_after {before text : List Char} (h : before <+: text) :
    (after before).IsBehind (utf8Length before) text := by
  rcases exists_append_lastLine before with ⟨front, hbefore, hfront, hlast⟩
  refine ⟨front, lastLine before, hbefore ▸ h, by rw [← hbefore], hfront, hlast, ?_, ?_⟩
  · have hcount := congrArg (List.count '\n') hbefore
    rw [List.count_append, List.count_eq_zero.mpr hlast, Nat.add_zero] at hcount
    exact hcount
  · rw [lastLine, utf8Length_reverse]
    rfl

theorem IsBehind.eq_after {place : Position} {count : Nat} {text : List Char}
    (h : place.IsBehind count text) :
    ∃ before, before <+: text ∧ utf8Length before = count ∧ place = after before := by
  rcases h with ⟨front, column, hbegins, hcount, hfront, hcolumn, hrow, hbytes⟩
  refine ⟨front ++ column, hbegins, hcount, ?_⟩
  have hlast : lastLine (front ++ column) = column := by
    rw [lastLine_append_of_notMem front hcolumn, lastLine_eq_nil hfront, List.nil_append]
  rcases place with ⟨row, byteColumn⟩
  congr 1
  · rw [List.count_append, List.count_eq_zero.mpr hcolumn, Nat.add_zero]
    exact hrow
  · rw [← utf8Length_reverse, ← lastLine, hlast]
    exact hbytes

theorem isBehind_ofOffset (text : List Char) (offset : Nat) :
    (ofOffset text offset).IsBehind (utf8Length (text.take offset)) text :=
  isBehind_after (List.take_prefix offset text)

theorem IsBehind.exists_offset {place : Position} {count : Nat} {text : List Char}
    (h : place.IsBehind count text) :
    ∃ offset, offset ≤ text.length ∧ utf8Length (text.take offset) = count ∧
      place = ofOffset text offset := by
  rcases h.eq_after with ⟨before, hbegins, hcount, rfl⟩
  have htake := List.prefix_iff_eq_take.mp hbegins
  refine ⟨before.length, hbegins.length_le, ?_, ?_⟩
  · rw [← htake]
    exact hcount
  · rw [ofOffset, ← htake]

theorem isValid_iff_exists_isBehind {text : String} {count : Nat} :
    (⟨count⟩ : String.Pos.Raw).IsValid text ↔
      ∃ place : Position, place.IsBehind count text.toList := by
  rw [isValid_iff_exists_beginning]
  constructor
  · rintro ⟨before, hbegins, rfl⟩
    exact ⟨after before, isBehind_after hbegins⟩
  · rintro ⟨place, hplace⟩
    rcases hplace.eq_after with ⟨before, hbegins, hcount, _⟩
    exact ⟨before, hbegins, hcount⟩

end Position
end Text
end WebCompat
