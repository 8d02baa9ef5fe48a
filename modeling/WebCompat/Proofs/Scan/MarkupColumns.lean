import WebCompat.Proofs.Scan.MarkupLines
import WebCompat.Proofs.Scan.TreeOrder

/-!
# Columns of markup

The columns of the issues of a script in a markup document are counted from the
beginning of the content, and not from the beginning of the line of the document
that the content begins on.  So a column is the one of the document just when a
newline of the content stands in front of the issue.  Only issues without such a
newline can be reported at the place of another one.
-/

namespace WebCompat
namespace Markup
namespace Site

open Text (Position lastLine utf16Length)

/-- The column in the document of the given place of the content. -/
def column (site : Site) (offset : Nat) : Nat :=
  Position.column16 site.document (site.before.length + site.tag.length + offset)

/-- The number of UTF-16 units in front of the content on the line that it begins on. -/
def margin (site : Site) : Nat :=
  utf16Length (lastLine (site.before ++ site.tag))

theorem WellTagged.margin_pos {site : Site} (h : site.WellTagged) : 0 < site.margin := by
  rcases h.left with ⟨word, attributes, htag, _, _⟩
  have hend : site.before ++ site.tag = (site.before ++ (word ++ attributes)) ++ ['>'] := by
    rw [htag]
    simp only [List.append_assoc]
  rw [margin, hend, Text.lastLine_append_of_notMem _ (by decide)]
  exact Text.utf16Length_pos (by simp)

theorem column_of_mem (site : Site) {offset : Nat} (hoffset : offset ≤ site.content.length)
    (h : '\n' ∈ site.content.take offset) :
    site.column offset = Position.column16 site.content offset := by
  rw [column, Position.column16, take_document site hoffset, Text.lastLine_append_of_mem _ h,
    Position.column16]

theorem column_of_notMem (site : Site) {offset : Nat} (hoffset : offset ≤ site.content.length)
    (h : '\n' ∉ site.content.take offset) :
    site.column offset = site.margin + Position.column16 site.content offset := by
  rw [column, Position.column16, take_document site hoffset, Text.lastLine_append_of_notMem _ h,
    Text.utf16Length_append, margin, Position.column16, Text.lastLine_of_notMem h]

theorem WellTagged.column_eq_iff {site : Site} (h : site.WellTagged) {offset : Nat}
    (hoffset : offset ≤ site.content.length) :
    Position.column16 site.content offset = site.column offset ↔
      '\n' ∈ site.content.take offset := by
  by_cases hmem : '\n' ∈ site.content.take offset
  · rw [column_of_mem site hoffset hmem]
    exact iff_of_true rfl hmem
  · have hpos := h.margin_pos
    rw [column_of_notMem site hoffset hmem]
    exact iff_of_false (by omega) hmem

theorem Precedes.newlines_le {first second : Site} (h : first.Precedes second) :
    first.before.count '\n' + first.content.count '\n' ≤ second.before.count '\n' := by
  rcases h with ⟨between, hbefore⟩
  rw [hbefore, List.count_append, List.count_append, List.count_append]
  omega

end Site
end Markup

namespace Scan

open Markup (Site)

/-!
## Places of different scripts
-/

theorem line_lt_of_precedes {first second : Site} (h : first.Precedes second) {a b : Issue}
    {offsetA offsetB : Nat} (ha : a.StandsAt first.content offsetA)
    (hb : b.StandsAt second.content offsetB) (hmem : '\n' ∈ second.content.take offsetB) :
    (shift first.block.newlines a).line < (shift second.block.newlines b).line := by
  have hcontent : (first.content.take offsetA).count '\n' ≤ first.content.count '\n' :=
    (List.take_sublist offsetA first.content).count_le '\n'
  have hpos := List.count_pos_iff.mpr hmem
  have hbefore := h.newlines_le
  show a.line + first.before.count '\n' < b.line + second.before.count '\n'
  rw [ha.right.left, hb.right.left, Text.Position.row_ofOffset, Text.Position.row_ofOffset]
  omega

/-!
## Issues of one script
-/

theorem tree_distinct {base : KnowledgeBase} {file source : String} {root : Script.Tree}
    (h : root.WellPlaced source.toList) :
    (tree base file source root).Pairwise fun a b =>
      ¬(a.line = b.line ∧ a.column = b.column ∧ a.api = b.api) := by
  apply List.pairwise_filterMap.mpr
  refine List.Pairwise.imp_of_mem ?_ h.preorder_follows
  rintro first second hfirst _ hfollows a ha b hb ⟨hline, hcolumn, hapi⟩
  rcases nodeIssue?_of_follows (h.of_mem_preorder hfirst) hfollows ha hb with
    (hlt | ⟨_, hlt⟩) | ⟨_, hparts⟩
  · omega
  · omega
  · rw [hapi] at hparts
    exact Nat.lt_irrefl _ hparts

theorem script_distinct {base : KnowledgeBase} {file source : String} {dialect : Script.Dialect}
    (h : ∀ root, Script.parse? dialect source = some root → root.WellPlaced source.toList) :
    (script base file source dialect).Pairwise fun a b =>
      ¬(a.line = b.line ∧ a.column = b.column ∧ a.api = b.api) := by
  unfold script
  split
  · rename_i root hroot
    exact tree_distinct (h root hroot)
  · exact (plain_before base file source).imp not_same_of_before

theorem block_distinct {base : KnowledgeBase} {file : String} {site : Site}
    (h : ∀ root, Script.parse? .javascript (String.ofList site.content) = some root →
      root.WellPlaced site.content) :
    (block base file site.block).Pairwise fun a b =>
      ¬(a.line = b.line ∧ a.column = b.column ∧ a.api = b.api) := by
  apply List.pairwise_map.mpr
  have hplaced : ∀ root, Script.parse? .javascript (String.ofList site.content) = some root →
      root.WellPlaced (String.ofList site.content).toList := by
    rw [String.toList_ofList]
    exact h
  refine (script_distinct hplaced).imp ?_
  rintro a b hab ⟨hline, hcolumn, hapi⟩
  have hlines : a.line = b.line := Nat.add_right_cancel hline
  exact hab ⟨hlines, hcolumn, hapi⟩

/-!
## Issues of a document
-/

/--
The issues of a markup document are those of its scripts on later lines.  The
column of an issue is that of the document just when a newline of the content
stands in front of it.  Where that holds of all issues, no two of them have the
same line, column and API, provided that the trees of the scripts are well placed.
-/
theorem markup_column_iff_newline_in_front (base : KnowledgeBase) (file document : String) :
    markup base file document =
        (Markup.sites document.toList).flatMap (fun site =>
          (script base file (String.ofList site.content) .javascript).map
            (shift (site.before.count '\n'))) ∧
      (∀ site ∈ Markup.sites document.toList,
        site.document = document.toList ∧ site.WellTagged ∧
          ∀ issue ∈ script base file (String.ofList site.content) .javascript,
            ∃ offset, issue.StandsAt site.content offset ∧
              ((shift (site.before.count '\n') issue).column = site.column offset ↔
                '\n' ∈ site.content.take offset)) ∧
      ((∀ site ∈ Markup.sites document.toList, ∀ root,
          Script.parse? .javascript (String.ofList site.content) = some root →
            root.WellPlaced site.content) →
        (∀ site ∈ Markup.sites document.toList,
          ∀ issue ∈ script base file (String.ofList site.content) .javascript,
            ∀ offset, issue.StandsAt site.content offset → '\n' ∈ site.content.take offset) →
        (markup base file document).Pairwise fun a b =>
          ¬(a.line = b.line ∧ a.column = b.column ∧ a.api = b.api)) := by
  refine ⟨markup_eq_flatMap_sites base file document, ?_, ?_⟩
  · intro site hsite
    rcases Markup.mem_sites hsite with ⟨hdocument, htagged⟩
    refine ⟨hdocument, htagged, ?_⟩
    intro issue hissue
    rcases exists_standsAt_of_mem_script hissue with ⟨offset, hstands⟩
    rw [String.toList_ofList] at hstands
    refine ⟨offset, hstands, ?_⟩
    show issue.column = site.column offset ↔ _
    rw [hstands.right.right]
    exact htagged.column_eq_iff hstands.left
  · intro hplaced hfront
    rw [markup_eq_flatMap_sites]
    apply List.pairwise_flatMap.mpr
    constructor
    · intro site hsite
      exact block_distinct (hplaced site hsite)
    · refine List.Pairwise.imp_of_mem ?_ (Markup.sites_ordered document.toList)
      intro first second _ hsecond hprecedes a ha b hb hsame
      rcases List.mem_map.mp ha with ⟨issueA, hissueA, rfl⟩
      rcases List.mem_map.mp hb with ⟨issueB, hissueB, rfl⟩
      rcases exists_standsAt_of_mem_script hissueA with ⟨offsetA, hstandsA⟩
      rcases exists_standsAt_of_mem_script hissueB with ⟨offsetB, hstandsB⟩
      rw [String.toList_ofList] at hstandsA hstandsB
      have hmem := hfront second hsecond issueB hissueB offsetB hstandsB
      have hlt := line_lt_of_precedes hprecedes hstandsA hstandsB hmem
      rw [hsame.left] at hlt
      exact Nat.lt_irrefl _ hlt

def laterLines : String :=
  "<p>é<script>\n)webkitURL</script> <script>\n )webkitURL</script>"

theorem laterLines_columns_of_document :
    (∃ site ∈ Markup.sites laterLines.toList,
      ∃ issue ∈ script .curated "page.html" (String.ofList site.content) .javascript,
        ∃ offset, issue.StandsAt site.content offset ∧ site.column offset = 2 ∧
          (shift (site.before.count '\n') issue).column = 2) ∧
      (markup .curated "page.html" laterLines).Pairwise fun a b =>
        ¬(a.line = b.line ∧ a.column = b.column ∧ a.api = b.api) := by
  have hunparsed : ∀ site ∈ Markup.sites laterLines.toList,
      (Script.parse? .javascript (String.ofList site.content)).isNone = true := by
    decide +kernel
  have hsecond : ∀ site ∈ Markup.sites laterLines.toList,
      ∀ issue ∈ script .curated "page.html" (String.ofList site.content) .javascript,
        issue.line = 2 := by
    decide +kernel
  have hfound : ∃ site ∈ Markup.sites laterLines.toList,
      ∃ issue ∈ script .curated "page.html" (String.ofList site.content) .javascript,
        issue.column = 2 := by
    decide +kernel
  have hfront : ∀ site ∈ Markup.sites laterLines.toList,
      ∀ issue ∈ script .curated "page.html" (String.ofList site.content) .javascript,
        ∀ offset, issue.StandsAt site.content offset → '\n' ∈ site.content.take offset := by
    intro site hsite issue hissue offset hstands
    have hline := hsecond site hsite issue hissue
    rw [hstands.right.left, Text.Position.row_ofOffset] at hline
    exact List.count_pos_iff.mp (by omega)
  rcases markup_column_iff_newline_in_front .curated "page.html" laterLines with
    ⟨_, hsites, hdistinct⟩
  constructor
  · rcases hfound with ⟨site, hsite, issue, hissue, hcolumn⟩
    rcases (hsites site hsite).right.right issue hissue with ⟨offset, hstands, hiff⟩
    have heq := hiff.mpr (hfront site hsite issue hissue offset hstands)
    exact ⟨site, hsite, issue, hissue, offset, hstands, heq.symm.trans hcolumn, hcolumn⟩
  · refine hdistinct ?_ hfront
    intro site hsite root hroot
    have hnone := hunparsed site hsite
    rw [hroot] at hnone
    cases hnone

def sharedLine : String :=
  "<script>)webkitURL</script><script>)webkitURL</script>"

/-- Two uses on one line of a document are reported at the same column, which is that of neither. -/
theorem sharedLine_reported_at_one_column :
    (markup .curated "page.html" sharedLine).map
        (fun issue => (issue.line, issue.column, issue.api)) =
      [(1, 1, "webkitURL"), (1, 1, "webkitURL")] ∧
    (Markup.sites sharedLine.toList).map (fun site => site.column 1) = [9, 36] ∧
    ∀ site ∈ Markup.sites sharedLine.toList,
      ∀ issue ∈ script .curated "page.html" (String.ofList site.content) .javascript,
        issue.StandsAt site.content 1 := by
  unfold Issue.StandsAt
  decide +kernel

end Scan
end WebCompat
