import WebCompat.Issue.Diagnostic
import WebCompat.Json.Reader
import WebCompat.Proofs.Scan.PlainOrder

/-!
# What diagnostics underline

The range of a diagnostic is counted in UTF-16 units of a line.  For an issue of
a plain text these units are those of the path of the API: the search gives the
place in bytes, the report turns it into units, and the range adds the units of
the path.
-/

namespace WebCompat
namespace Text

open Json (isHighSurrogate isLowSurrogate)

/-!
# UTF-16 units
-/

def charUnits (c : Char) : List Nat :=
  if c.toNat < 0x10000 then [c.toNat]
  else [0xD800 + (c.toNat - 0x10000) / 0x400, 0xDC00 + (c.toNat - 0x10000) % 0x400]

def encode16 (text : List Char) : List Nat :=
  text.flatMap charUnits

/-- Whether the two halves of one character stand around a place. -/
def SplitsPair (units : List Nat) (place : Nat) : Prop :=
  ∃ front high low back, units = front ++ high :: low :: back ∧ place = front.length + 1 ∧
    isHighSurrogate high = true ∧ isLowSurrogate low = true

theorem length_encode16 (text : List Char) : (encode16 text).length = utf16Length text := by
  induction text with
  | nil =>
      rfl
  | cons c rest ih =>
      have hc : (charUnits c).length = units16 c := by
        unfold charUnits units16
        split <;> rfl
      rw [encode16, List.flatMap_cons, List.length_append, hc, utf16Length_cons]
      exact congrArg (units16 c + ·) ih

theorem encode16_append (first second : List Char) :
    encode16 (first ++ second) = encode16 first ++ encode16 second :=
  List.flatMap_append

theorem isLowSurrogate_of_charUnits {c : Char} {unit : Nat} {others : List Nat}
    (h : charUnits c = unit :: others) : isLowSurrogate unit = false := by
  have hvalid : c.toNat < 0xD800 ∨ 0xDFFF < c.toNat ∧ c.toNat < 0x110000 := c.valid
  unfold charUnits at h
  rw [isLowSurrogate, Bool.and_eq_false_iff, decide_eq_false_iff_not, decide_eq_false_iff_not]
  split at h
  · cases h
    omega
  · cases h
    omega

theorem isLowSurrogate_of_encode16 {text : List Char} {unit : Nat} {others : List Nat}
    (h : encode16 text = unit :: others) : isLowSurrogate unit = false := by
  cases text with
  | nil =>
      cases h
  | cons c rest =>
      rw [encode16, List.flatMap_cons] at h
      cases hunits : charUnits c with
      | nil =>
          unfold charUnits at hunits
          split at hunits <;> cases hunits
      | cons first more =>
          rw [hunits, List.cons_append, List.cons.injEq] at h
          rw [← h.left]
          exact isLowSurrogate_of_charUnits hunits

theorem not_splitsPair_append (before behind : List Char) :
    ¬SplitsPair (encode16 (before ++ behind)) (encode16 before).length := by
  intro h
  rcases h with ⟨front, high, low, back, hunits, hplace, _, hlow⟩
  have hsplit : encode16 before ++ encode16 behind = (front ++ [high]) ++ low :: back := by
    rw [← encode16_append, hunits]
    simp
  have hbehind := (List.append_inj hsplit (by rw [hplace]; simp)).right
  rw [isLowSurrogate_of_encode16 hbehind] at hlow
  cases hlow

end Text

/-!
# Ranges in a line
-/

namespace LineRange

open Text (encode16 SplitsPair)

/-- Whether the units of a line in a range exist and are those of a text. -/
structure Underlines (range : LineRange) (line text : List Char) : Prop where
  first_le_stop : range.first ≤ range.stop
  stop_le_length : range.stop ≤ (encode16 line).length
  spelled : ((encode16 line).drop range.first).take (range.stop - range.first) = encode16 text
  first_between_characters : ¬SplitsPair (encode16 line) range.first
  stop_between_characters : ¬SplitsPair (encode16 line) range.stop

theorem underlines_of_append {range : LineRange} {before text behind : List Char}
    (hfirst : range.first = Text.utf16Length before)
    (hstop : range.stop = range.first + Text.utf16Length text) :
    range.Underlines (before ++ (text ++ behind)) text := by
  have hbefore : range.first = (encode16 before).length := by
    rw [hfirst, Text.length_encode16]
  have hend : range.stop = (encode16 (before ++ text)).length := by
    rw [hstop, hfirst, Text.length_encode16, Text.utf16Length_append]
  have hlength : range.stop - range.first = (encode16 text).length := by
    rw [hstop, Text.length_encode16]
    omega
  constructor
  · omega
  · rw [hend, ← List.append_assoc, Text.encode16_append (before ++ text), List.length_append]
    exact Nat.le_add_right _ _
  · rw [hlength, hbefore, Text.encode16_append, Text.encode16_append, List.drop_left,
      List.take_left]
  · rw [hbefore]
    exact Text.not_splitsPair_append before (text ++ behind)
  · rw [hend, ← List.append_assoc]
    exact Text.not_splitsPair_append (before ++ text) behind

end LineRange

namespace Scan

theorem exists_append_of_mem_line {base : KnowledgeBase} {file : String} {number : Nat}
    {text : List Char} {issue : Issue} (h : issue ∈ line base file number text) :
    ∃ before behind, text = before ++ (issue.api.toList ++ behind) ∧
      issue.column = Text.utf16Length before := by
  rcases mem_line_iff.mp h with ⟨hit, hoffset, hissue⟩
  rcases Option.map_eq_some_iff.mp hissue with ⟨descriptor, hlookup, heq⟩
  rcases Text.exists_append_of_mem_occurrences hoffset with ⟨before, behind, htext, hbytes⟩
  have hapi : issue.api = hit.api := by
    rw [← heq]
    exact KnowledgeBase.api_of_lookup_eq_some hlookup
  have hcolumn : issue.column = Text.utf16Column text hit.offset := by
    rw [← heq]
    rfl
  exists before, behind
  constructor
  · rw [hapi, htext]
  · rw [hcolumn, hbytes, htext, Text.utf16Column_utf8Length]

/--
The diagnostic of an issue of a plain text underlines the path of its API, in the
line of the text that the issue is reported on.
-/
theorem plain_diagnostics_underline_api (base : KnowledgeBase) (file source : String)
    (issue : Issue) (h : issue ∈ plain base file source) :
    (Diagnostic.ofIssue issue).range.line + 1 = issue.line ∧
      ∃ line, (Text.lines source.toList)[(Diagnostic.ofIssue issue).range.line]? = some line ∧
        (Diagnostic.ofIssue issue).range.Underlines line issue.api.toList := by
  rcases mem_plain_iff.mp h with ⟨index, line, hline, hissue⟩
  have hnumber := line_of_mem_line hissue
  have hindex : (Diagnostic.ofIssue issue).range.line = index := by
    show issue.line - 1 = index
    rw [hnumber]
    rfl
  rcases exists_append_of_mem_line hissue with ⟨before, behind, hsplit, hcolumn⟩
  rw [hindex, hnumber]
  constructor
  · rfl
  · exists line
    constructor
    · exact hline
    · rw [hsplit]
      exact LineRange.underlines_of_append hcolumn rfl

def astralText : String :=
  "né\n🎉 né𝒳;"

def astralBase : KnowledgeBase :=
  .ofDescriptors [Knowledge.Curated.deprecated "" "" "" "né𝒳"]

theorem astralText_underlined :
    ∃ issue ∈ plain astralBase "a.js" astralText,
      (Diagnostic.ofIssue issue).range = ⟨1, 3, 7⟩ ∧
        (Text.lines astralText.toList)[1]? = some "🎉 né𝒳;".toList ∧
        (Diagnostic.ofIssue issue).range.Underlines "🎉 né𝒳;".toList "né𝒳".toList := by
  have hfound : ∃ issue ∈ plain astralBase "a.js" astralText, issue.api = "né𝒳" ∧
      (Diagnostic.ofIssue issue).range = ⟨1, 3, 7⟩ := by
    decide +kernel
  have hsecond : (Text.lines astralText.toList)[1]? = some "🎉 né𝒳;".toList := by
    decide +kernel
  rcases hfound with ⟨issue, hissue, hapi, hrange⟩
  rcases (plain_diagnostics_underline_api astralBase "a.js" astralText issue hissue).right with
    ⟨line, hline, hunderlines⟩
  rw [hapi] at hunderlines
  rw [hrange, hsecond] at hline
  cases hline
  exact ⟨issue, hissue, hrange, hsecond, hunderlines⟩

end Scan
end WebCompat
