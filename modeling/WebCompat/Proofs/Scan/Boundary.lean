import WebCompat.Proofs.Scan.Place
import WebCompat.Proofs.Text.Boundary

/-!
# Places that are reported

A place is handed over as a row and a count of bytes and reported as a line and a
column in UTF-16 units.  At every boundary between characters the line is there and
the count of bytes ends between two of its characters, so that neither an empty line
nor the count itself ever stands in.  Later boundaries are reported later.
-/

namespace WebCompat
namespace Scan

open Knowledge (Descriptor)
open Text (Position utf8Length utf16Length)

theorem exists_line_of_isBehind {source : List Char} {count : Nat} {place : Position}
    (h : place.IsBehind count source) :
    ∃ column rest, (Text.lines source)[place.row]? = some (column ++ rest) ∧
      utf8Length column = place.byteColumn := by
  rcases h.exists_offset with ⟨offset, _, _, rfl⟩
  refine ⟨_, _, Position.getElem?_lines_ofOffset source offset, ?_⟩
  exact (Position.byteColumn_ofOffset source offset).symm

theorem precedes_of_isBehind {source : List Char} {first second : Nat}
    {firstPlace secondPlace : Position} (hfirst : firstPlace.IsBehind first source)
    (hsecond : secondPlace.IsBehind second source) (hlt : first < second) (file : String)
    (a b : Descriptor) :
    (issueAt file source firstPlace a).Precedes (issueAt file source secondPlace b) := by
  rcases hfirst.exists_offset with ⟨offset, _, hoffset, rfl⟩
  rcases hsecond.exists_offset with ⟨later, hlater, hlaterOffset, rfl⟩
  have hoffsetLt : offset < later := by
    apply Nat.lt_of_not_le
    intro hle
    have hcounts := Text.utf8Length_take_le source hle
    omega
  exact precedes_issueAt hoffsetLt (Nat.lt_of_lt_of_le hoffsetLt hlater) file a b

/--
Every boundary between characters of a source has a place.  Its line is a line of
the source, its column ends between two characters of that line, and the issue there
is reported at the next line number and at the UTF-16 units of the characters in
front.  The line and the column grow strictly with the boundary and so determine it.
The places where nodes begin are such places.
-/
theorem boundary_reported_on_its_line (source : String) :
    (∀ count, (⟨count⟩ : String.Pos.Raw).IsValid source ↔
      ∃ place : Position, place.IsBehind count source.toList) ∧
    (∀ count (place : Position), place.IsBehind count source.toList →
      ∃ line column, (Text.lines source.toList)[place.row]? = some line ∧
        place.byteColumn ≤ utf8Length line ∧
        (⟨place.byteColumn⟩ : String.Pos.Raw).IsValid (String.ofList line) ∧
        Text.takeBytes? place.byteColumn line = some column ∧
        ∀ (file : String) (descriptor : Descriptor),
          issueAt file source.toList place descriptor =
            .ofDescriptor file (place.row + 1) (utf16Length column) descriptor
              (String.ofList (Text.trim line))) ∧
    (∀ first second (firstPlace secondPlace : Position),
      firstPlace.IsBehind first source.toList → secondPlace.IsBehind second source.toList →
        ∀ (file : String) (a b : Descriptor),
          (first < second →
            (issueAt file source.toList firstPlace a).Precedes
              (issueAt file source.toList secondPlace b)) ∧
          ((issueAt file source.toList firstPlace a).SamePlace
            (issueAt file source.toList secondPlace b) → first = second)) ∧
    ∀ offset, (Position.ofOffset source.toList offset).IsBehind
      (utf8Length (source.toList.take offset)) source.toList := by
  refine ⟨fun count => Position.isValid_iff_exists_isBehind, ?_, ?_,
    Position.isBehind_ofOffset source.toList⟩
  · intro count place hplace
    rcases exists_line_of_isBehind hplace with ⟨column, rest, hline, hcolumn⟩
    have hbegins : column <+: column ++ rest := List.prefix_append column rest
    have htake : Text.takeBytes? place.byteColumn (column ++ rest) = some column :=
      Text.takeBytes?_eq_some_iff.mpr ⟨hbegins, hcolumn⟩
    refine ⟨column ++ rest, column, hline, ?_, ?_, htake, ?_⟩
    · rw [Text.utf8Length_append, hcolumn]
      exact Nat.le_add_right _ _
    · apply Text.isValid_iff_exists_beginning.mpr
      rw [String.toList_ofList]
      exact ⟨column, hbegins, hcolumn⟩
    · intro file descriptor
      rw [issueAt, hline, Option.getD_some, Text.utf16Column, htake]
  · intro first second firstPlace secondPlace hfirst hsecond file a b
    refine ⟨fun hlt => precedes_of_isBehind hfirst hsecond hlt file a b, ?_⟩
    rintro ⟨hline, hcolumn⟩
    rcases Nat.lt_trichotomy first second with hlt | heq | hgt
    · rcases precedes_of_isBehind hfirst hsecond hlt file a b with hless | ⟨_, hless⟩ <;> omega
    · exact heq
    · rcases precedes_of_isBehind hsecond hfirst hgt file b a with hless | ⟨_, hless⟩ <;> omega

def mixedSource : String :=
  "xé\n😀d(a)"

theorem mixedSource_first_isBehind : (⟨0, 3⟩ : Position).IsBehind 3 mixedSource.toList :=
  ⟨[], ['x', 'é'], ⟨"\n😀d(a)".toList, by decide⟩, by decide, Or.inl rfl, by decide, by decide,
    by decide⟩

theorem mixedSource_second_isBehind : (⟨1, 4⟩ : Position).IsBehind 8 mixedSource.toList :=
  ⟨['x', 'é', '\n'], ['😀'], ⟨"d(a)".toList, by decide⟩, by decide, Or.inr (by decide), by decide,
    by decide, by decide⟩

theorem mixedSource_places_reported :
    (⟨0, 3⟩ : Position).IsBehind 3 mixedSource.toList ∧
      (⟨1, 4⟩ : Position).IsBehind 8 mixedSource.toList ∧
      (⟨8⟩ : String.Pos.Raw).IsValid mixedSource ∧
      (∀ (file : String) (descriptor : Descriptor),
        issueAt file mixedSource.toList ⟨1, 4⟩ descriptor =
          .ofDescriptor file 2 2 descriptor (String.ofList (Text.trim "😀d(a)".toList))) ∧
      ∀ (file : String) (a b : Descriptor),
        (issueAt file mixedSource.toList ⟨0, 3⟩ a).Precedes
          (issueAt file mixedSource.toList ⟨1, 4⟩ b) := by
  rcases boundary_reported_on_its_line mixedSource with ⟨hvalid, hlines, hordered, _⟩
  have hfirst := mixedSource_first_isBehind
  have hsecond := mixedSource_second_isBehind
  refine ⟨hfirst, hsecond, (hvalid 8).mpr ⟨_, hsecond⟩, ?_, ?_⟩
  · intro file descriptor
    rcases hlines 8 _ hsecond with ⟨line, column, hline, _, _, htake, hissue⟩
    have hsecondLine : (Text.lines mixedSource.toList)[1]? = some "😀d(a)".toList := by
      decide
    cases hsecondLine.symm.trans hline
    have hcolumn : Text.takeBytes? 4 "😀d(a)".toList = some ['😀'] := by
      decide
    cases hcolumn.symm.trans htake
    exact hissue file descriptor
  · intro file a b
    exact (hordered 3 8 _ _ hfirst hsecond file a b).left (by decide)

end Scan
end WebCompat
