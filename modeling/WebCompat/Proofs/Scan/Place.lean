import WebCompat.Proofs.Text.ByteOrder
import WebCompat.Proofs.Text.Position
import WebCompat.Scan.Tree

/-!
# Places of issues

Issues are ordered by their lines and columns.  The line and the column of an
issue that a tree shows are those of the place where its node begins.
-/

namespace WebCompat
namespace Issue

def Precedes (first second : Issue) : Prop :=
  first.line < second.line ∨ first.line = second.line ∧ first.column < second.column

def SamePlace (first second : Issue) : Prop :=
  first.line = second.line ∧ first.column = second.column

/-- Whether an issue comes first by line, then by column, then by the bytes of the API. -/
def Before (first second : Issue) : Prop :=
  first.Precedes second ∨
    first.SamePlace second ∧ Text.bytes first.api < Text.bytes second.api

/-- Whether an issue is reported on the line and at the column of a place of a source. -/
def StandsAt (issue : Issue) (source : List Char) (offset : Nat) : Prop :=
  offset ≤ source.length ∧
    issue.line = (Text.Position.ofOffset source offset).row + 1 ∧
      issue.column = Text.Position.column16 source offset

theorem Before.asymm {first second : Issue} (h : first.Before second) :
    ¬second.Before first := by
  unfold Before Precedes SamePlace at *
  rintro ((hlt | ⟨hline, hlt⟩) | ⟨⟨hline, hcolumn⟩, hlt⟩)
  · rcases h with (hlt' | ⟨hline', _⟩) | ⟨⟨hline', _⟩, _⟩ <;> omega
  · rcases h with (hlt' | ⟨_, hlt'⟩) | ⟨⟨_, hcolumn'⟩, _⟩ <;> omega
  · rcases h with (hlt' | ⟨_, hlt'⟩) | ⟨_, hlt'⟩
    · omega
    · omega
    · exact List.lt_asymm hlt hlt'

end Issue

namespace Scan

open Knowledge (Descriptor)
open Text (Position)

theorem line_issueAt (file : String) (source : List Char) (offset : Nat)
    (descriptor : Descriptor) :
    (issueAt file source (.ofOffset source offset) descriptor).line =
      (Position.ofOffset source offset).row + 1 :=
  rfl

theorem column_issueAt (file : String) (source : List Char) (offset : Nat)
    (descriptor : Descriptor) :
    (issueAt file source (.ofOffset source offset) descriptor).column =
      Position.column16 source offset := by
  rw [issueAt, Position.getElem?_lines_ofOffset]
  exact Position.utf16Column_ofOffset source offset _

theorem precedes_issueAt {source : List Char} {first second : Nat} (hlt : first < second)
    (hlength : first < source.length) (file : String) (a b : Descriptor) :
    (issueAt file source (.ofOffset source first) a).Precedes
      (issueAt file source (.ofOffset source second) b) := by
  unfold Issue.Precedes
  rw [line_issueAt, line_issueAt, column_issueAt, column_issueAt]
  rcases Position.lt_of_offset_lt hlt hlength with hrow | ⟨hrow, hcolumn⟩
  · left
    omega
  · right
    exact ⟨by rw [hrow], hcolumn⟩

theorem nodeIssue?_of_path? {base : KnowledgeBase} {file : String} {source : List Char}
    {node target : Script.Tree} {path : List Char} (htarget : node.target? = some target)
    (hpath : target.path? source = some path) :
    nodeIssue? base file source node =
      (base.lookup (String.ofList path)).map
        (issueAt file source (.ofOffset source node.start)) := by
  rw [nodeIssue?, descriptor?, htarget, Option.bind_eq_bind, Option.bind_some, hpath]
  rfl

theorem exists_standsAt_of_mem_tree {base : KnowledgeBase} {file source : String}
    {root : Script.Tree} {issue : Issue} (h : issue ∈ tree base file source root) :
    ∃ offset, issue.StandsAt source.toList offset := by
  rcases List.mem_filterMap.mp h with ⟨node, _, hissue⟩
  rcases Option.map_eq_some_iff.mp hissue with ⟨descriptor, _, rfl⟩
  have htake : source.toList.take node.start =
      source.toList.take (min node.start source.toList.length) := by
    rw [← List.take_take, List.take_length]
  refine ⟨min node.start source.toList.length, Nat.min_le_right _ _, ?_, ?_⟩
  · rw [line_issueAt, Position.row_ofOffset, Position.row_ofOffset, htake]
  · rw [column_issueAt, Position.column16, Position.column16, htake]

end Scan
end WebCompat
