import WebCompat.Guidance.Reply
import WebCompat.Proofs.Text.Lowercase
import WebCompat.Proofs.Text.Position

/-!
# Sections of free text

A section begins behind the first line with its label and ends in front of the
first line that is blank, numbered or has a colon.  Lines that mention the label
again are passed over by the search, whether they stand inside of the section or
end it.  So the whole section is found just when its label is not repeated where
that makes a difference.
-/

namespace WebCompat
namespace Reply

/-!
## Mentions of a label
-/

theorem occursIn_iff_isInfix {sought text : List Char} :
    occursIn sought text = true ↔ sought <:+: text := by
  induction text with
  | nil =>
      rw [occursIn, List.isEmpty_iff, List.infix_nil]
  | cons c rest ih =>
      rw [occursIn, Bool.or_eq_true, ih, List.isPrefixOf_iff_prefix, List.infix_cons_iff]

theorem isInfix_of_isBlankRun_append {sought front text : List Char}
    (hsought : ∀ c, sought.head? = some c → Text.isBlank c = false)
    (hfront : Text.IsBlankRun front) (h : sought <:+: front ++ text) : sought <:+: text := by
  induction front with
  | nil =>
      exact h
  | cons blank front ih =>
      have hlater : Text.IsBlankRun front := fun c hc => hfront c (List.mem_cons_of_mem blank hc)
      rw [List.cons_append, List.infix_cons_iff] at h
      rcases h with hprefix | hinfix
      · cases sought with
        | nil =>
            exact List.nil_infix
        | cons c sought =>
            have hc := hsought c rfl
            rw [(List.cons_prefix_cons.mp hprefix).left, hfront blank List.mem_cons_self] at hc
            cases hc
      · exact ih hlater hinfix

theorem isInfix_trim_iff {sought front text back : List Char} (h : Text.HasBareEnds sought)
    (hfront : Text.IsBlankRun front) (hback : Text.IsBlankRun back) :
    sought <:+: front ++ text ++ back ↔ sought <:+: text := by
  constructor
  · intro hinfix
    rw [List.append_assoc] at hinfix
    have hbehind := isInfix_of_isBlankRun_append (fun c hc => h c (Or.inl hc)) hfront hinfix
    rw [← List.reverse_infix, List.reverse_append] at hbehind
    rw [← List.reverse_infix]
    apply isInfix_of_isBlankRun_append _ _ hbehind
    · intro c hc
      rw [List.head?_reverse] at hc
      exact h c (Or.inr hc)
    · intro c hc
      exact hback c (List.mem_reverse.mp hc)
  · intro hinfix
    exact hinfix.trans (List.infix_append front text back)

theorem mentions_trim {label : String} (h : Text.HasBareEnds label.toList) (line : List Char) :
    mentions label (Text.trim line) = mentions label line := by
  rcases Text.exists_append_trim line with ⟨front, back, hfront, hback, hline⟩
  have hlower : Text.lower line = front ++ Text.lower (Text.trim line) ++ back := by
    rw [← Text.lower_append_of_isBlankRun hfront _ hback, ← hline]
  rw [Bool.eq_iff_iff, mentions, mentions, occursIn_iff_isInfix, occursIn_iff_isInfix, hlower,
    isInfix_trim_iff (Text.lower_hasBareEnds h) hfront hback]

/-!
## Lines of a section
-/

def linesBehind (label : String) (lines : List (List Char)) : List (List Char) :=
  (lines.dropWhile fun line => !mentions label line).tail

/-- The lines behind the first mention of a label, up to the first of them that ends a section. -/
def wholeLines (label : String) (lines : List (List Char)) : List (List Char) :=
  (linesBehind label lines).takeWhile fun line => !endsSection line

/-- The lines behind the first mention of a label, from the first of them that ends a section. -/
def linesFromEnd (label : String) (lines : List (List Char)) : List (List Char) :=
  (linesBehind label lines).dropWhile fun line => !endsSection line

def joinedText (lines : List (List Char)) : String :=
  String.ofList (Text.trim (Text.joinLines lines))

/--
Whether a label is repeated neither in its section nor so behind it that the search
goes on: the first line from the end of the section on that does not mention the
label, if there is one, ends the section too.
-/
structure IsUndisturbed (label : String) (lines : List (List Char)) : Prop where
  inside : ∀ line ∈ wholeLines label lines, mentions label line = false
  behind : ∀ line, (linesFromEnd label lines).find? (fun line => !mentions label line) = some line →
    endsSection line = true

theorem sectionLines_inside (label : String) (lines : List (List Char)) :
    sectionLines label true lines =
      (lines.filter fun line => !mentions label line).takeWhile fun line => !endsSection line := by
  induction lines with
  | nil =>
      rfl
  | cons line rest ih =>
      rw [sectionLines, List.filter_cons]
      cases hmentions : mentions label line with
      | true =>
          simp [ih]
      | false =>
          cases hends : endsSection line with
          | true =>
              simp [hends]
          | false =>
              simp [hends, ih]

theorem sectionLines_outside (label : String) (lines : List (List Char)) :
    sectionLines label false lines = sectionLines label true (linesBehind label lines) := by
  induction lines with
  | nil =>
      rfl
  | cons line rest ih =>
      rw [sectionLines, linesBehind, List.dropWhile_cons]
      cases hmentions : mentions label line with
      | true =>
          simp
      | false =>
          simpa [linesBehind] using ih

/-- What is found are the lines of the whole section without those that mention the label, and
then what stands behind the section, if the line that ends it mentions the label. -/
theorem sectionLines_eq_append (label : String) (lines : List (List Char)) :
    sectionLines label false lines =
      (wholeLines label lines).filter (fun line => !mentions label line) ++
        ((linesFromEnd label lines).filter fun line => !mentions label line).takeWhile
          fun line => !endsSection line := by
  have hsplit : linesBehind label lines = wholeLines label lines ++ linesFromEnd label lines :=
    List.takeWhile_append_dropWhile.symm
  rw [sectionLines_outside, sectionLines_inside, hsplit, List.filter_append,
    List.takeWhile_append_of_pos]
  intro line hline
  exact List.all_eq_true.mp List.all_takeWhile line (List.mem_filter.mp hline).left

theorem takeWhile_filter_eq_nil_iff {label : String} {lines : List (List Char)} :
    (lines.filter fun line => !mentions label line).takeWhile (fun line => !endsSection line) = [] ↔
      ∀ line, lines.find? (fun line => !mentions label line) = some line →
        endsSection line = true := by
  rw [← List.head?_filter]
  cases lines.filter fun line => !mentions label line with
  | nil =>
      simp
  | cons line rest =>
      simp [List.takeWhile_cons]

theorem sectionLines_eq_wholeLines {label : String} {lines : List (List Char)}
    (h : IsUndisturbed label lines) : sectionLines label false lines = wholeLines label lines := by
  rw [sectionLines_eq_append, takeWhile_filter_eq_nil_iff.mpr h.behind, List.append_nil,
    List.filter_eq_self]
  intro line hline
  rw [h.inside line hline]
  rfl

theorem mentions_of_mem_sectionLines {label : String} {lines : List (List Char)}
    {line : List Char} (h : line ∈ sectionLines label false lines) :
    mentions label line = false := by
  rw [sectionLines_outside, sectionLines_inside] at h
  have hkept := (List.mem_filter.mp ((List.takeWhile_sublist _).mem h)).right
  simpa using hkept

theorem isUndisturbed_of_map_mentions {label : String} {lines : List (List Char)}
    (h : (sectionLines label false lines).map (mentions label) =
      (wholeLines label lines).map (mentions label)) : IsUndisturbed label lines := by
  have hinside : ∀ line ∈ wholeLines label lines, mentions label line = false := by
    intro line hline
    have hmem : mentions label line ∈ (sectionLines label false lines).map (mentions label) := by
      rw [h]
      exact List.mem_map_of_mem hline
    rcases List.mem_map.mp hmem with ⟨found, hfound, heq⟩
    rw [← heq, mentions_of_mem_sectionLines hfound]
  have hkept : (wholeLines label lines).filter (fun line => !mentions label line) =
      wholeLines label lines := by
    rw [List.filter_eq_self]
    intro line hline
    rw [hinside line hline]
    rfl
  have hlength := congrArg List.length h
  rw [List.length_map, List.length_map, sectionLines_eq_append, List.length_append,
    hkept] at hlength
  exact {
    inside := hinside
    behind := takeWhile_filter_eq_nil_iff.mp (List.eq_nil_of_length_eq_zero (by omega)) }

/-!
## Texts of sections
-/

theorem notMem_of_mem_lines {text line : List Char} (h : line ∈ Text.lines text) : '\n' ∉ line := by
  rcases List.getElem?_of_mem h with ⟨index, hindex⟩
  rcases Text.exists_append_of_getElem?_lines hindex with ⟨_, _, _, _, _, hline⟩
  exact hline

theorem notMem_of_mem_dropLineEnds {lines : List (List Char)} (h : ∀ line ∈ lines, '\n' ∉ line) :
    ∀ line ∈ Text.dropLineEnds lines, '\n' ∉ line := by
  fun_induction Text.dropLineEnds lines with
  | case1 =>
      exact h
  | case2 last hempty =>
      exact fun line hline => absurd hline List.not_mem_nil
  | case3 last hempty =>
      exact h
  | case4 first rest hrest ih =>
      intro line hline
      rcases List.mem_cons.mp hline with rfl | hline
      · intro hmem
        apply h first List.mem_cons_self
        rw [Text.dropReturn] at hmem
        split at hmem
        · exact (List.dropLast_sublist first).mem hmem
        · exact hmem
      · exact ih (fun line hline => h line (List.mem_cons_of_mem first hline)) line hline

theorem notMem_of_mem_endedLines {text line : List Char} (h : line ∈ Text.endedLines text) :
    '\n' ∉ line :=
  notMem_of_mem_dropLineEnds (fun _ hline => notMem_of_mem_lines hline) line h

def AreFilled (lines : List (List Char)) : Prop :=
  ∀ line ∈ lines, '\n' ∉ line ∧ line.all Text.isBlank = false

theorem joinedText_ne_empty {lines : List (List Char)} (h : AreFilled lines) (hne : lines ≠ []) :
    joinedText lines ≠ "" := by
  rcases List.exists_mem_of_ne_nil lines hne with ⟨line, hline⟩
  intro hempty
  have hnil := congrArg String.toList hempty
  rw [joinedText, String.toList_ofList] at hnil
  exact Text.trim_ne_nil (Text.all_isBlank_joinLines hline (h line hline).right) hnil

theorem map_trim_eq_of_joinedText_eq {first second : List (List Char)} (hfirst : AreFilled first)
    (hsecond : AreFilled second) (h : joinedText first = joinedText second) :
    first.map Text.trim = second.map Text.trim := by
  have hlines : ∀ {lines : List (List Char)}, AreFilled lines → lines ≠ [] →
      (Text.lines (joinedText lines).toList).map Text.trim = lines.map Text.trim := by
    intro lines hfilled hne
    rw [joinedText, String.toList_ofList]
    exact Text.map_trim_lines_trim_joinLines hne (fun line hline => (hfilled line hline).left)
      fun line hline => (hfilled line hline).right
  by_cases hnil : first = []
  · by_cases hnil' : second = []
    · rw [hnil, hnil']
    · rw [hnil] at h
      exact absurd h.symm (joinedText_ne_empty hsecond hnil')
  · by_cases hnil' : second = []
    · rw [hnil'] at h
      exact absurd h (joinedText_ne_empty hfirst hnil)
    · rw [← hlines hfirst hnil, h, hlines hsecond hnil']

theorem areFilled_of_endsSection (text : List Char) {lines : List (List Char)}
    (hmem : ∀ line ∈ lines, line ∈ Text.endedLines text)
    (hends : ∀ line ∈ lines, endsSection line = false) : AreFilled lines := by
  intro line hline
  have hnot := hends line hline
  rw [endsSection, Bool.or_eq_false_iff, Bool.or_eq_false_iff] at hnot
  exact ⟨notMem_of_mem_endedLines (hmem line hline), hnot.left.left⟩

theorem mem_of_mem_linesBehind {label : String} {lines : List (List Char)} {line : List Char}
    (h : line ∈ linesBehind label lines) : line ∈ lines :=
  (List.dropWhile_sublist _).mem (List.mem_of_mem_tail h)

theorem endsSection_of_mem_takeWhile {lines : List (List Char)} {line : List Char}
    (h : line ∈ lines.takeWhile fun line => !endsSection line) : endsSection line = false := by
  simpa using List.all_eq_true.mp List.all_takeWhile line h

theorem wholeLines_areFilled (label : String) (text : List Char) :
    AreFilled (wholeLines label (Text.endedLines text)) := by
  apply areFilled_of_endsSection text
  · intro line hline
    exact mem_of_mem_linesBehind ((List.takeWhile_sublist _).mem hline)
  · intro line hline
    exact endsSection_of_mem_takeWhile hline

theorem sectionLines_areFilled (label : String) (text : List Char) :
    AreFilled (sectionLines label false (Text.endedLines text)) := by
  rw [sectionLines_outside, sectionLines_inside]
  apply areFilled_of_endsSection text
  · intro line hline
    exact mem_of_mem_linesBehind (List.mem_filter.mp ((List.takeWhile_sublist _).mem hline)).left
  · intro line hline
    exact endsSection_of_mem_takeWhile hline

def wholeText (text label : String) : String :=
  joinedText (wholeLines label (Text.endedLines text.toList))

/--
The text that is found for a label is made of the lines behind its first mention
that do not mention it again, up to the first of them that ends a section.  It is
the text of the whole section if the label is not repeated there, and, for labels
without blanks at their ends, only then.
-/
theorem section_whole_iff_label_not_repeated (text label : String) :
    sectionText text label =
        joinedText (((linesBehind label (Text.endedLines text.toList)).filter fun line =>
          !mentions label line).takeWhile fun line => !endsSection line) ∧
      (IsUndisturbed label (Text.endedLines text.toList) →
        sectionText text label = wholeText text label) ∧
      (Text.HasBareEnds label.toList → sectionText text label = wholeText text label →
        IsUndisturbed label (Text.endedLines text.toList)) := by
  have hfound : sectionText text label =
      joinedText (sectionLines label false (Text.endedLines text.toList)) :=
    rfl
  refine ⟨?_, ?_, ?_⟩
  · rw [hfound, sectionLines_outside, sectionLines_inside]
  · intro hundisturbed
    rw [hfound, sectionLines_eq_wholeLines hundisturbed, wholeText]
  · intro hlabel hwhole
    have htrim := map_trim_eq_of_joinedText_eq (sectionLines_areFilled label text.toList)
      (wholeLines_areFilled label text.toList) hwhole
    apply isUndisturbed_of_map_mentions
    have hmentions := congrArg (List.map (mentions label)) htrim
    simpa only [List.map_map, Function.comp_def, mentions_trim hlabel] using hmentions

def plainReply : String :=
  "Here it is.\n1. Alternative:\r\n  Use URL,\nas in new URL(href)\n \nNo other alternative"

theorem plainReply_section_whole :
    Text.HasBareEnds "alternative".toList ∧
      sectionText plainReply "alternative" = "Use URL,\nas in new URL(href)" ∧
      wholeText plainReply "alternative" = "Use URL,\nas in new URL(href)" ∧
      IsUndisturbed "alternative" (Text.endedLines plainReply.toList) := by
  have hlabel : Text.HasBareEnds "alternative".toList := by
    intro c hc
    rcases hc with hc | hc <;> cases hc <;> decide
  have hwhole : wholeText plainReply "alternative" = "Use URL,\nas in new URL(href)" := by
    decide +kernel
  have hfound : sectionText plainReply "alternative" = wholeText plainReply "alternative" := by
    decide +kernel
  have hundisturbed :=
    (section_whole_iff_label_not_repeated plainReply "alternative").right.right hlabel hfound
  exact ⟨hlabel, hfound.trans hwhole, hwhole, hundisturbed⟩

/-- A line of the section that mentions the label is lost, and one that should end the section
does not. -/
theorem repeated_label_disturbs_section :
    sectionText "Alternative\nUse the alternative API\nURL" "alternative" = "URL" ∧
      wholeText "Alternative\nUse the alternative API\nURL" "alternative" =
        "Use the alternative API\nURL" ∧
      sectionText "Alternative\nURL\nNo other alternative: none\nBye" "alternative" = "URL\nBye" ∧
      wholeText "Alternative\nURL\nNo other alternative: none\nBye" "alternative" = "URL" := by
  decide +kernel

end Reply
end WebCompat
