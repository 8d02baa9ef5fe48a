import WebCompat.Proofs.Guidance.Advising
import WebCompat.Proofs.Guidance.Section
import WebCompat.Proofs.Report.Document

/-!
# Advice from replies

A reply that carries a document, plainly or in a code fence, gives the texts of the
document.  A reply in free text gives the lines below the headings.  In both each
field of the advice is found on its own, and a placeholder stands for what is not
there.
-/

namespace WebCompat

open Json (Value IsWritable Layout)

namespace Advice

inductive Field where
  | alternative
  | explanation
  | codeExample
  | browserSupport
deriving DecidableEq, Repr

def Field.label : Field → String
  | alternative => "alternative"
  | explanation => "explanation"
  | codeExample => "codeExample"
  | browserSupport => "browserSupport"

def text (advice : Advice) : Field → String
  | .alternative => advice.alternative
  | .explanation => advice.explanation
  | .codeExample => advice.codeExample
  | .browserSupport => advice.browserSupport

theorem ext_text {first second : Advice} (h : ∀ field, first.text field = second.text field) :
    first = second := by
  cases first
  cases second
  rw [Advice.mk.injEq]
  exact ⟨h .alternative, h .explanation, h .codeExample, h .browserSupport⟩

theorem IsComplete.text {advice : Advice} (h : advice.IsComplete) (field : Field) :
    Text.isBlankText (advice.text field) = false := by
  cases field with
  | alternative =>
      exact h.alternative
  | explanation =>
      exact h.explanation
  | codeExample =>
      exact h.codeExample
  | browserSupport =>
      exact h.browserSupport

end Advice

namespace Reply

open Advice (Field)

/-!
## Documents in replies
-/

/-- Whether a text is a document, on one line or laid out over several. -/
def IsTextOf (document : Value) (json : List Char) : Prop :=
  json = document.compact.toList ∨ json = document.pretty.toList

/--
Whether a reply carries a document: between blanks, or in a code fence with any
words behind its opening mark, where the closing mark may be missing.
-/
inductive Carries (document : Value) : List Char → Prop where
  | plain {before json after : List Char} (hjson : IsTextOf document json)
      (hbefore : Text.IsBlankRun before) (hafter : Text.IsBlankRun after) :
      Carries document (before ++ json ++ after)
  | fenced {before info json closing after : List Char} (hjson : IsTextOf document json)
      (hinfo : '\n' ∉ info)
      (hclosing : closing = [] ∨ ∃ gap, Text.IsBlankRun gap ∧ closing = gap ++ fence)
      (hbefore : Text.IsBlankRun before) (hafter : Text.IsBlankRun after) :
      Carries document (before ++ (fence ++ (info ++ '\n' :: (json ++ closing))) ++ after)

theorem exists_write_of_isTextOf {document : Value} {json : List Char}
    (h : IsTextOf document json) : ∃ layout : Layout, json = layout.write 0 document := by
  rcases h with rfl | rfl
  · exact ⟨.compact, String.toList_ofList⟩
  · exact ⟨.pretty, String.toList_ofList⟩

theorem read?_of_isTextOf {document : Value} {json : List Char} (h : IsTextOf document json)
    (hwritable : IsWritable document) : Json.read? (String.ofList json) = some document := by
  rcases exists_write_of_isTextOf h with ⟨layout, rfl⟩
  apply layout.read?_of_toList 0 hwritable Json.isSpacing_nil
  rw [String.toList_ofList, List.append_nil]

theorem exists_braces {members : List (String × Value)} {json : List Char}
    (h : IsTextOf (.object members) json) :
    (∃ rest, json = '\x7b' :: rest) ∧ ∃ front, json = front ++ ['\x7d'] := by
  rcases exists_write_of_isTextOf h with ⟨layout, rfl⟩
  rw [layout.write_object]
  exact ⟨Json.enclosed_opens _ _ _ _ _, Json.enclosed_closes _ _ _ _ _⟩

theorem hasBareEnds_of_braces {json : List Char} (h : (∃ rest, json = '\x7b' :: rest) ∧
    ∃ front, json = front ++ ['\x7d']) : Text.HasBareEnds json := by
  rcases h with ⟨⟨rest, hopening⟩, front, hclosing⟩
  intro c hc
  rcases hc with hc | hc
  · rw [hopening] at hc
    cases hc
    decide
  · rw [hclosing, List.getLast?_concat] at hc
    cases hc
    decide

/-!
## Code fences
-/

theorem dropClosingFence_append (text : List Char) : dropClosingFence (text ++ fence) = text := by
  rw [dropClosingFence, if_pos]
  · rw [List.length_append, Nat.add_sub_cancel, List.take_left]
  · rw [List.isSuffixOf_iff_suffix]
    exact List.suffix_append text fence

theorem dropClosingFence_of_getLast? {text : List Char} {c : Char} (h : text.getLast? = some c)
    (hc : c ≠ '\x60') : dropClosingFence text = text := by
  rw [dropClosingFence, if_neg]
  rw [List.isSuffixOf_iff_suffix]
  rintro ⟨front, htext⟩
  rw [← htext, List.getLast?_append] at h
  cases h
  exact hc rfl

theorem afterFirstLine_append {line : List Char} (h : '\n' ∉ line) (rest : List Char) :
    afterFirstLine (line ++ '\n' :: rest) = rest := by
  have hline : ∀ c ∈ line, (c != '\n') = true := by
    intro c hc
    rw [bne_iff_ne]
    rintro rfl
    exact h hc
  rw [afterFirstLine, List.dropWhile_append_of_pos hline, List.dropWhile_cons_of_neg (by simp)]

theorem dropClosingFence_document (front : List Char) {json closing : List Char}
    (hjson : ∃ inside, json = inside ++ ['\x7d'])
    (hclosing : closing = [] ∨ ∃ gap, Text.IsBlankRun gap ∧ closing = gap ++ fence) :
    ∃ gap, Text.IsBlankRun gap ∧
      dropClosingFence (front ++ '\n' :: (json ++ closing)) = front ++ '\n' :: (json ++ gap) := by
  rcases hclosing with rfl | ⟨gap, hgap, rfl⟩
  · rcases hjson with ⟨inside, rfl⟩
    have hassoc : front ++ '\n' :: (inside ++ ['\x7d'] ++ []) =
        front ++ '\n' :: inside ++ ['\x7d'] := by
      simp
    refine ⟨[], Text.isBlankRun_nil, ?_⟩
    rw [hassoc]
    exact dropClosingFence_of_getLast? List.getLast?_concat (by decide)
  · refine ⟨gap, hgap, ?_⟩
    have hassoc : front ++ '\n' :: (json ++ (gap ++ fence)) =
        front ++ '\n' :: (json ++ gap) ++ fence := by
      simp
    rw [hassoc, dropClosingFence_append]

theorem hasBareEnds_fenced {json closing : List Char} (hjson : ∃ inside, json = inside ++ ['\x7d'])
    (hclosing : closing = [] ∨ ∃ gap, Text.IsBlankRun gap ∧ closing = gap ++ fence)
    (info : List Char) : Text.HasBareEnds (fence ++ (info ++ '\n' :: (json ++ closing))) := by
  have hlast : ∃ front c, json ++ closing = front ++ [c] ∧ Text.isBlank c = false := by
    rcases hclosing with rfl | ⟨gap, _, rfl⟩
    · rcases hjson with ⟨inside, rfl⟩
      exact ⟨inside, '\x7d', List.append_nil _, by decide⟩
    · refine ⟨json ++ gap ++ ['\x60', '\x60'], '\x60', ?_, by decide⟩
      rw [fence, List.append_assoc, List.append_assoc]
      rfl
  rcases hlast with ⟨front, final, hfront, hfinal⟩
  intro c hc
  rcases hc with hc | hc
  · cases hc
    decide
  · have hassoc : fence ++ (info ++ '\n' :: (front ++ [final])) =
        fence ++ (info ++ '\n' :: front) ++ [final] := by
      simp
    rw [hfront, hassoc, List.getLast?_concat] at hc
    cases hc
    exact hfinal

theorem isTextOf_unfenced {members : List (String × Value)} {reply : List Char}
    (h : Carries (.object members) reply) : IsTextOf (.object members) (unfenced reply) := by
  cases h with
  | @plain before json after hjson hbefore hafter =>
      have hbraces := exists_braces hjson
      have htrim : Text.trim (before ++ json ++ after) = json := by
        rw [Text.trim_append_of_isBlankRun hbefore _ hafter,
          Text.trim_eq_self (hasBareEnds_of_braces hbraces)]
      have hprefix : ¬fence.isPrefixOf json = true := by
        rcases hbraces.left with ⟨rest, rfl⟩
        simp [fence]
      rw [unfenced, htrim, if_neg hprefix]
      exact hjson
  | @fenced before info json closing after hjson hinfo hclosing hbefore hafter =>
      have hbraces := exists_braces hjson
      have hbare := hasBareEnds_of_braces hbraces
      rcases dropClosingFence_document info hbraces.right hclosing with
        ⟨gap, hgap, hdrop⟩
      have hgapTrim := Text.trim_append_of_isBlankRun Text.isBlankRun_nil json hgap
      have hprefix : fence.isPrefixOf (fence ++ (info ++ '\n' :: (json ++ closing))) = true := by
        rw [List.isPrefixOf_iff_prefix]
        exact List.prefix_append _ _
      rw [unfenced, Text.trim_append_of_isBlankRun hbefore _ hafter,
        Text.trim_eq_self (hasBareEnds_fenced hbraces.right hclosing info), if_pos hprefix,
        List.drop_left, hdrop, afterFirstLine_append hinfo]
      rw [List.nil_append, Text.trim_eq_self hbare] at hgapTrim
      rw [hgapTrim]
      exact hjson

/-!
## Structured replies
-/

/-- Whether an object has no member twice, and under the names of the fields texts or `null`. -/
structure IsAdviceLike (members : List (String × Value)) : Prop where
  names : (members.map Prod.fst).Nodup
  fields : ∀ (field : Field) (value : Value), members.lookup field.label = some value →
    value = .null ∨ ∃ text, value = .string text

theorem optional?_text? {found : Option Value}
    (h : ∀ value, found = some value → value = .null ∨ ∃ text, value = .string text) :
    Value.optional? Value.text? found = some (found.bind Value.text?) := by
  cases found with
  | none =>
      rfl
  | some value =>
      rcases h value rfl with rfl | ⟨text, rfl⟩
      · rfl
      · rfl

def adviceOf (members : List (String × Value)) : Advice :=
  let text (field : Field) :=
    orPlaceholder (placeholder.text field) ((members.lookup field.label).bind Value.text?)
  { alternative := text .alternative
    explanation := text .explanation
    codeExample := text .codeExample
    browserSupport := text .browserSupport }

theorem text_adviceOf (members : List (String × Value)) (field : Field) :
    (adviceOf members).text field =
      orPlaceholder (placeholder.text field) ((members.lookup field.label).bind Value.text?) := by
  cases field <;> rfl

theorem ofDocument?_object {members : List (String × Value)} (h : IsAdviceLike members) :
    ofDocument? (.object members) = some (adviceOf members) := by
  rw [ofDocument?, Value.record?_object h.names]
  refine Option.bind_eq_some_iff.mpr ⟨_, rfl, ?_⟩
  refine Option.bind_eq_some_iff.mpr ⟨_, optional?_text? (h.fields .alternative), ?_⟩
  refine Option.bind_eq_some_iff.mpr ⟨_, optional?_text? (h.fields .explanation), ?_⟩
  refine Option.bind_eq_some_iff.mpr ⟨_, optional?_text? (h.fields .codeExample), ?_⟩
  exact Option.bind_eq_some_iff.mpr ⟨_, optional?_text? (h.fields .browserSupport), rfl⟩

theorem advice_of_carries {members : List (String × Value)} (h : IsAdviceLike members)
    (hwritable : IsWritable (.object members)) {reply : String}
    (hreply : Carries (.object members) reply.toList) : advice reply = adviceOf members := by
  have hread := read?_of_isTextOf (isTextOf_unfenced hreply) hwritable
  have hstructured : structured? reply = some (adviceOf members) := by
    rw [structured?, hread, Option.bind_some, ofDocument?_object h]
  rw [advice, hstructured, Option.getD_some]

theorem orPlaceholder_some (default text : String) :
    orPlaceholder default (some text) = if Text.isBlankText text then default else text := by
  rw [orPlaceholder, Option.filter_some]
  cases Text.isBlankText text <;> rfl

theorem toJson_isAdviceLike (given : Advice) :
    ∃ members, given.toJson = .object members ∧ IsAdviceLike members ∧
      ∀ field : Field, members.lookup field.label = some (.string (given.text field)) := by
  have hlookup : ∀ field : Field, List.lookup field.label [
      ("alternative", Value.string given.alternative),
      ("explanation", .string given.explanation),
      ("codeExample", .string given.codeExample),
      ("browserSupport", .string given.browserSupport)] =
        some (.string (given.text field)) := by
    intro field
    cases field <;> rfl
  refine ⟨_, rfl, ⟨by simp, ?_⟩, hlookup⟩
  intro field value hvalue
  rw [hlookup] at hvalue
  cases hvalue
  exact Or.inr ⟨_, rfl⟩

/--
A reply that carries a complete advice gives that advice.  More generally, a reply
that carries an object gives each field on its own: its text, if there is one that
is not blank, and else the placeholder.
-/
theorem structured_reply_recovered :
    (∀ (given : Advice) (reply : String), given.IsComplete →
      Carries given.toJson reply.toList → advice reply = given) ∧
    ∀ (members : List (String × Value)) (reply : String), IsAdviceLike members →
      IsWritable (.object members) → Carries (.object members) reply.toList →
      ∀ field : Field,
        (∀ text, members.lookup field.label = some (.string text) →
          Text.isBlankText text = false → (advice reply).text field = text) ∧
        (∀ text, members.lookup field.label = some (.string text) →
          Text.isBlankText text = true → (advice reply).text field = placeholder.text field) ∧
        (members.lookup field.label = some .null →
          (advice reply).text field = placeholder.text field) ∧
        (members.lookup field.label = none →
          (advice reply).text field = placeholder.text field) := by
  constructor
  · intro given reply hcomplete hreply
    rcases toJson_isAdviceLike given with ⟨members, hmembers, hlike, hlookup⟩
    have hwritable := given.toJson_isWritable
    rw [hmembers] at hwritable hreply
    apply Advice.ext_text
    intro field
    rw [advice_of_carries hlike hwritable hreply, text_adviceOf, hlookup, Option.bind_some,
      Value.text?, orPlaceholder_some, if_neg]
    rw [hcomplete.text field]
    decide
  · intro members reply hlike hwritable hreply field
    rw [advice_of_carries hlike hwritable hreply, text_adviceOf]
    refine ⟨?_, ?_, ?_, ?_⟩
    · intro text hlookup hblank
      rw [hlookup, Option.bind_some, Value.text?, orPlaceholder_some, hblank]
      rfl
    · intro text hlookup hblank
      rw [hlookup, Option.bind_some, Value.text?, orPlaceholder_some, hblank]
      rfl
    · intro hlookup
      rw [hlookup]
      rfl
    · intro hlookup
      rw [hlookup]
      rfl

def awkwardAdvice : Advice where
  alternative := "```\n\x7d"
  explanation := " \"URL\" \\ 😀\u00a0"
  codeExample := "new URL(href)\n```"
  browserSupport := "\x7b\t"

def sparseMembers : List (String × Value) :=
  [("browserSupport", .null), ("note", .array [.bool true, .natural 3]),
    ("codeExample", .string "```\n\x7d\n"), ("alternative", .string " \n")]

theorem awkwardAdvice_isComplete : awkwardAdvice.IsComplete where
  alternative := by decide
  explanation := by decide
  codeExample := by decide
  browserSupport := by decide

theorem sparseMembers_isAdviceLike : IsAdviceLike sparseMembers where
  names := by decide
  fields := by
    intro field value hvalue
    cases field <;> cases hvalue
    · exact Or.inr ⟨_, rfl⟩
    · exact Or.inr ⟨_, rfl⟩
    · exact Or.inl rfl

theorem sparseMembers_isWritable : IsWritable (.object sparseMembers) := by
  apply IsWritable.object
  simp only [sparseMembers, List.forall_mem_cons]
  refine ⟨.null, .array ?_, .string _, .string _, List.forall_mem_nil _⟩
  simp only [List.forall_mem_cons]
  exact ⟨.bool true, Json.natural_isWritable 3, List.forall_mem_nil _⟩

theorem fenced_replies_recovered :
    awkwardAdvice.IsComplete ∧ IsAdviceLike sparseMembers ∧
      advice ("\u00a0\n```json ```\n" ++ awkwardAdvice.toJson.pretty ++ "\n```\r\n") =
        awkwardAdvice ∧
      advice ("```\n" ++ Value.compact (.object sparseMembers) ++ " ") =
        { placeholder with codeExample := "```\n\x7d\n" } := by
  have hblank : ∀ text : String, text.toList.all Text.isBlank = true →
      Text.IsBlankRun text.toList := by
    intro text h
    exact List.all_eq_true.mp h
  have hpretty : Carries awkwardAdvice.toJson
      ("\u00a0\n```json ```\n" ++ awkwardAdvice.toJson.pretty ++ "\n```\r\n").toList := by
    have h : Carries awkwardAdvice.toJson ("\u00a0\n".toList ++ (fence ++ ("json ```".toList ++
        '\n' :: (awkwardAdvice.toJson.pretty.toList ++ "\n```".toList))) ++ "\r\n".toList) :=
      .fenced (Or.inr rfl) (by decide) (Or.inr ⟨['\n'], hblank "\n" (by decide), rfl⟩)
        (hblank _ (by decide)) (hblank _ (by decide))
    simpa [fence, String.toList_append] using h
  have hcompact : Carries (.object sparseMembers)
      ("```\n" ++ Value.compact (.object sparseMembers) ++ " ").toList := by
    have h : Carries (.object sparseMembers) ([] ++ (fence ++ ([] ++
        '\n' :: ((Value.compact (.object sparseMembers)).toList ++ []))) ++ " ".toList) :=
      .fenced (Or.inl rfl) List.not_mem_nil (Or.inl rfl) Text.isBlankRun_nil (hblank _ (by decide))
    simpa [fence, String.toList_append] using h
  refine ⟨awkwardAdvice_isComplete, sparseMembers_isAdviceLike,
    structured_reply_recovered.left _ _ awkwardAdvice_isComplete hpretty, ?_⟩
  have hfields := structured_reply_recovered.right sparseMembers _ sparseMembers_isAdviceLike
    sparseMembers_isWritable hcompact
  apply Advice.ext_text
  intro field
  cases field with
  | alternative =>
      exact (hfields .alternative).right.left " \n" rfl (by decide)
  | explanation =>
      exact (hfields .explanation).right.right.right rfl
  | codeExample =>
      exact (hfields .codeExample).left "```\n\x7d\n" rfl (by decide)
  | browserSupport =>
      exact (hfields .browserSupport).right.right.left rfl

/-!
## Free text
-/

structure LabelledSection where
  field : Field
  heading : List Char
  body : List (List Char)
  ending : List Char
  heading_mentions : ∀ other : Field, mentions other.label heading = true ↔ other = field
  body_ne_nil : body ≠ []
  body_mentions : ∀ line ∈ body, ∀ other : Field, mentions other.label line = false
  body_goes_on : ∀ line ∈ body, endsSection line = false
  ending_isBlank : Text.IsBlankRun ending

namespace LabelledSection

def lines (part : LabelledSection) : List (List Char) :=
  part.heading :: part.body ++ [part.ending]

end LabelledSection

theorem label_hasBareEnds (field : Field) :
    Text.HasBareEnds field.label.toList ∧ field.label.toList ≠ [] := by
  constructor
  · intro c hc
    cases field <;> rcases hc with hc | hc <;> cases hc <;> decide
  · cases field <;> decide

theorem mentions_of_isBlankRun {line : List Char} (h : Text.IsBlankRun line) (field : Field) :
    mentions field.label line = false := by
  have htrim : Text.trim line = [] := by
    have happend := Text.trim_append_of_isBlankRun h [] Text.isBlankRun_nil
    rwa [List.append_nil, List.append_nil] at happend
  rw [← mentions_trim (label_hasBareEnds field).left, htrim]
  cases field <;> decide

theorem sectionLines_append_of_not_mentions {label : String} {front : List (List Char)}
    (h : ∀ line ∈ front, mentions label line = false) (rest : List (List Char)) :
    sectionLines label false (front ++ rest) = sectionLines label false rest := by
  induction front with
  | nil =>
      rfl
  | cons line front ih =>
      have hfront : ∀ later ∈ front, mentions label later = false := by
        intro later hlater
        exact h later (List.mem_cons_of_mem line hlater)
      rw [List.cons_append, sectionLines, h line List.mem_cons_self]
      exact ih hfront

theorem sectionLines_lines (part : LabelledSection) (rest : List (List Char)) :
    sectionLines part.field.label false (part.lines ++ rest) = part.body := by
  have hbody : ∀ line ∈ part.body, (!mentions part.field.label line) = true := by
    intro line hline
    rw [part.body_mentions line hline]
    rfl
  have hgoesOn : ∀ line ∈ part.body, (!endsSection line) = true := by
    intro line hline
    rw [part.body_goes_on line hline]
    rfl
  have hending : endsSection part.ending = true := by
    rw [endsSection, List.all_eq_true.mpr part.ending_isBlank]
    rfl
  have hheading := (part.heading_mentions part.field).mpr rfl
  rw [LabelledSection.lines, List.append_assoc, List.cons_append, sectionLines, hheading]
  show sectionLines part.field.label true (part.body ++ ([part.ending] ++ rest)) = part.body
  rw [sectionLines_inside, List.filter_append, List.filter_eq_self.mpr hbody,
    List.takeWhile_append_of_pos hgoesOn]
  simp [mentions_of_isBlankRun part.ending_isBlank, hending]

theorem not_mentions_of_mem_lines {part : LabelledSection} {field : Field}
    (h : field ≠ part.field) : ∀ line ∈ part.lines, mentions field.label line = false := by
  intro line hline
  rcases List.mem_append.mp hline with hline | hending
  · cases hline with
    | head =>
        rw [Bool.eq_false_iff]
        intro hmentions
        exact h ((part.heading_mentions field).mp hmentions)
    | tail _ hbody =>
        exact part.body_mentions line hbody field
  · rw [List.mem_singleton.mp hending]
    exact mentions_of_isBlankRun part.ending_isBlank field

theorem sectionLines_flatMap_of_notMem {parts : List LabelledSection} {field : Field}
    (h : field ∉ parts.map LabelledSection.field) (rest : List (List Char)) :
    sectionLines field.label false (parts.flatMap LabelledSection.lines ++ rest) =
      sectionLines field.label false rest := by
  apply sectionLines_append_of_not_mentions
  intro line hline
  rcases List.mem_flatMap.mp hline with ⟨part, hpart, hline⟩
  apply not_mentions_of_mem_lines _ line hline
  rintro rfl
  exact h (List.mem_map_of_mem hpart)

theorem sectionLines_flatMap_of_mem {parts : List LabelledSection} {part : LabelledSection}
    (hnodup : (parts.map LabelledSection.field).Nodup) (hpart : part ∈ parts) :
    sectionLines part.field.label false (parts.flatMap LabelledSection.lines) = part.body := by
  rcases List.append_of_mem hpart with ⟨front, back, rfl⟩
  have hfront : part.field ∉ front.map LabelledSection.field := by
    rw [List.map_append, List.map_cons, List.nodup_append] at hnodup
    intro hmem
    exact hnodup.right.right _ hmem _ List.mem_cons_self rfl
  rw [List.flatMap_append, List.flatMap_cons, sectionLines_flatMap_of_notMem hfront,
    sectionLines_lines]

theorem text_ofFreeText (reply : String) (field : Field) :
    (ofFreeText reply).text field =
      sectionOr (placeholder.text field) reply field.label := by
  cases field <;> simp only [ofFreeText, Advice.text, Field.label]

/--
In free text that is made of lines without labels and of sections about different
fields, each section gives its field: its own lines as one text.  Fields without a
section get their placeholders.
-/
theorem free_text_sections_kept_apart (reply : String) (front : List (List Char))
    (parts : List LabelledSection) (hreply : structured? reply = none)
    (hlines : Text.endedLines reply.toList = front ++ parts.flatMap LabelledSection.lines)
    (hfront : ∀ line ∈ front, ∀ field : Field, mentions field.label line = false)
    (hparts : (parts.map LabelledSection.field).Nodup) :
    (∀ part ∈ parts, (advice reply).text part.field = joinedText part.body) ∧
      ∀ field, field ∉ parts.map LabelledSection.field →
        (advice reply).text field = placeholder.text field := by
  have htext : ∀ field : Field, (advice reply).text field =
      sectionOr (placeholder.text field) reply field.label := by
    intro field
    rw [advice, hreply, Option.getD_none, text_ofFreeText]
  have hsection : ∀ field : Field, sectionText reply field.label =
      joinedText (sectionLines field.label false (parts.flatMap LabelledSection.lines)) := by
    intro field
    show joinedText (sectionLines field.label false (Text.endedLines reply.toList)) = _
    rw [hlines, sectionLines_append_of_not_mentions fun line hline => hfront line hline field]
  constructor
  · intro part hpart
    have hbody := sectionLines_flatMap_of_mem hparts hpart
    have hfilled : AreFilled part.body := by
      have h := sectionLines_areFilled part.field.label reply.toList
      rwa [hlines, sectionLines_append_of_not_mentions
        fun line hline => hfront line hline part.field, hbody] at h
    have hne := joinedText_ne_empty hfilled part.body_ne_nil
    rw [htext, sectionOr, hsection, hbody, if_neg]
    rwa [String.isEmpty_iff]
  · intro field hfield
    have hnone := sectionLines_flatMap_of_notMem hfield []
    rw [List.append_nil] at hnone
    rw [htext, sectionOr, hsection, hnone]
    rfl

def explanationSection : LabelledSection where
  field := .explanation
  heading := "2. EXPLANATION:".toList
  body := [" An old name.".toList, "It may go ".toList]
  ending := []
  heading_mentions := by
    intro other
    cases other <;> decide +kernel
  body_ne_nil := List.cons_ne_nil _ _
  body_mentions := by
    simp only [List.forall_mem_cons]
    refine ⟨?_, ?_, List.forall_mem_nil _⟩ <;> intro other <;> cases other <;> decide +kernel
  body_goes_on := by decide +kernel
  ending_isBlank := Text.isBlankRun_nil

def alternativeSection : LabelledSection where
  field := .alternative
  heading := "Alternative".toList
  body := ["new URL(href)".toList]
  ending := " \t".toList
  heading_mentions := by
    intro other
    cases other <;> decide +kernel
  body_ne_nil := List.cons_ne_nil _ _
  body_mentions := by
    simp only [List.forall_mem_cons]
    refine ⟨?_, List.forall_mem_nil _⟩
    intro other
    cases other <;> decide +kernel
  body_goes_on := by decide +kernel
  ending_isBlank := List.all_eq_true.mp (by decide)

def twoSections : String :=
  "Sure:\n2. EXPLANATION:\r\n An old name.\nIt may go \n\nAlternative\nnew URL(href)\n \t"

theorem twoSections_kept_apart :
    structured? twoSections = none ∧
      advice twoSections =
        { placeholder with
          alternative := "new URL(href)"
          explanation := "An old name.\nIt may go" } := by
  have hreply : structured? twoSections = none := by
    decide +kernel
  have hlines : Text.endedLines twoSections.toList = ["Sure:".toList] ++
      [explanationSection, alternativeSection].flatMap LabelledSection.lines := by
    decide +kernel
  have hfront : ∀ line ∈ ["Sure:".toList], ∀ field : Field,
      mentions field.label line = false := by
    intro line hline field
    rw [List.mem_singleton.mp hline]
    cases field <;> decide +kernel
  have h := free_text_sections_kept_apart twoSections _ _ hreply hlines hfront (by decide)
  refine ⟨hreply, Advice.ext_text ?_⟩
  intro field
  cases field with
  | alternative =>
      exact (h.left alternativeSection (by simp)).trans (by decide +kernel)
  | explanation =>
      exact (h.left explanationSection (by simp)).trans (by decide +kernel)
  | codeExample =>
      exact h.right .codeExample (by decide)
  | browserSupport =>
      exact h.right .browserSupport (by decide)

end Reply
end WebCompat
