import WebCompat.Knowledge.Curated
import WebCompat.Proofs.Markup.Site
import WebCompat.Proofs.Scan.PlainOrder
import WebCompat.Scan.Source

/-!
# Lines of markup

The issues of a script in a markup document are reported on lines that are
counted on from the opening tag, and not from the content behind it.  So a line
is the one of the document where the issue stands just when the opening tag has
no newline.
-/

namespace WebCompat
namespace Markup
namespace Site

open Text (Position)

def newlines (site : Site) : Nat :=
  (site.before ++ site.tag).count '\n'

def line (site : Site) (offset : Nat) : Nat :=
  (Position.ofOffset site.document (site.before.length + site.tag.length + offset)).row + 1

theorem take_document (site : Site) {offset : Nat} (h : offset ≤ site.content.length) :
    site.document.take (site.before.length + site.tag.length + offset) =
      site.before ++ site.tag ++ site.content.take offset := by
  have hsplit : site.document =
      (site.before ++ site.tag) ++ (site.content ++ (site.closing ++ site.behind)) := by
    rw [document, List.append_assoc]
  rw [hsplit, ← List.length_append, List.take_length_add_append, List.take_append_of_le_length h]

theorem line_eq (site : Site) {offset : Nat} (h : offset ≤ site.content.length) :
    site.line offset = (Position.ofOffset site.content offset).row + 1 + site.newlines := by
  rw [line, Position.row_ofOffset, Position.row_ofOffset, take_document site h,
    List.count_append, newlines]
  omega

end Site
end Markup

namespace Scan

open Markup (Site)

/-!
## Scripts of a document
-/

theorem exists_standsAt_of_mem_script {base : KnowledgeBase} {file source : String}
    {dialect : Script.Dialect} {issue : Issue} (h : issue ∈ script base file source dialect) :
    ∃ offset, issue.StandsAt source.toList offset := by
  rw [script] at h
  split at h
  · exact exists_standsAt_of_mem_tree h
  · exact exists_standsAt_of_mem_plain h

theorem markup_eq_flatMap_sites (base : KnowledgeBase) (file document : String) :
    markup base file document =
      (Markup.sites document.toList).flatMap fun site => block base file site.block := by
  rw [markup, Markup.blocks_eq_map_sites, List.flatMap_map]

theorem line_shift_eq_iff (site : Site) (issue : Issue) :
    (shift site.block.newlines issue).line = issue.line + site.newlines ↔ '\n' ∉ site.tag := by
  have hnewlines : site.newlines = site.block.newlines + site.tag.count '\n' :=
    List.count_append
  rw [hnewlines, ← List.count_eq_zero]
  show issue.line + site.block.newlines = _ ↔ _
  omega

/--
The issues of a markup document are those of its scripts on later lines.  Each
of them stands behind the newlines in front of the content, and is reported on
its own line of the document just when the opening tag has no newline.
-/
theorem markup_line_iff_tag_on_one_line (base : KnowledgeBase) (file document : String) :
    markup base file document =
        (Markup.sites document.toList).flatMap (fun site =>
          (script base file (String.ofList site.content) .javascript).map
            (shift (site.before.count '\n'))) ∧
      ∀ site ∈ Markup.sites document.toList,
        site.document = document.toList ∧ site.WellTagged ∧
          ∀ issue ∈ script base file (String.ofList site.content) .javascript,
            ∃ offset, issue.StandsAt site.content offset ∧
              site.line offset = issue.line + site.newlines ∧
              ((shift (site.before.count '\n') issue).line = site.line offset ↔
                '\n' ∉ site.tag) := by
  refine ⟨markup_eq_flatMap_sites base file document, ?_⟩
  intro site hsite
  rcases Markup.mem_sites hsite with ⟨hdocument, htagged⟩
  refine ⟨hdocument, htagged, ?_⟩
  intro issue hissue
  rcases exists_standsAt_of_mem_script hissue with ⟨offset, hstands⟩
  rw [String.toList_ofList] at hstands
  rcases hstands with ⟨hoffset, hline, hcolumn⟩
  have hdocumentLine : site.line offset = issue.line + site.newlines := by
    rw [Site.line_eq site hoffset, hline]
  refine ⟨offset, ⟨hoffset, hline, hcolumn⟩, hdocumentLine, ?_⟩
  rw [hdocumentLine]
  exact line_shift_eq_iff site issue

def twoScripts : String :=
  "<script\ntype=\"module\">)webkitURL</script>\n<SCRIPT>)webkitURL</SCRIPT>"

theorem twoScripts_later_line :
    ∃ site ∈ Markup.sites twoScripts.toList,
      ∃ issue ∈ script .curated "page.html" (String.ofList site.content) .javascript,
        ∃ offset, issue.StandsAt site.content offset ∧ site.line offset = 3 ∧
          (shift (site.before.count '\n') issue).line = 3 := by
  have hfound : ∃ site ∈ Markup.sites twoScripts.toList,
      ∃ issue ∈ script .curated "page.html" (String.ofList site.content) .javascript,
        '\n' ∉ site.tag ∧ issue.line + site.newlines = 3 := by
    decide +kernel
  rcases hfound with ⟨site, hsite, issue, hissue, htag, hthree⟩
  have hsites := (markup_line_iff_tag_on_one_line .curated "page.html" twoScripts).right
  rcases (hsites site hsite).right.right issue hissue with ⟨offset, hstands, hline, hiff⟩
  rw [hthree] at hline
  have hshift := hiff.mpr htag
  rw [hline] at hshift
  exact ⟨site, hsite, issue, hissue, offset, hstands, hline, hshift⟩

/-- A script whose opening tag takes up two lines is reported on the line of the tag. -/
theorem markup_line_above_split_tag :
    (markup .curated "page.html" "<script\ntype=\"module\">)webkitURL</script>").map
        (fun issue => (issue.line, issue.api)) = [(1, "webkitURL")] ∧
      ∃ site ∈ Markup.sites "<script\ntype=\"module\">)webkitURL</script>".toList,
        ∃ issue ∈ script .curated "page.html" (String.ofList site.content) .javascript,
          issue.line + site.newlines = 2 ∧
            (shift (site.before.count '\n') issue).line ≠ issue.line + site.newlines := by
  decide +kernel

end Scan
end WebCompat
