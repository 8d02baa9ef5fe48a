import Mathlib.Data.List.Forall2
import WebCompat.Proofs.Scan.PlainOrder
import WebCompat.Proofs.Text.Blank

/-!
# Line endings in a plain text

Lines are cut at newlines, so a carriage return in front of a newline stays at
the end of its line.  It is no word character and a blank.  So it gives the
words in front of it the same boundary that the end of the line gives, no word
can end with it, and the trimmed line is the same.
-/

namespace WebCompat
namespace Text

/-!
## A last character that belongs to no word
-/

theorem any_isWord_head?_concat (text : List Char) {c : Char} (hc : isWord c = false) :
    (text ++ [c]).head?.any isWord = text.head?.any isWord := by
  cases text with
  | nil =>
      exact hc
  | cons first rest =>
      rfl

theorem isBoundary_head?_concat (before : Option Char) (text : List Char) {c : Char}
    (hc : isWord c = false) :
    isBoundary before (text ++ [c]).head? = isBoundary before text.head? := by
  rw [isBoundary, any_isWord_head?_concat text hc, isBoundary]

theorem isBoundary_none_of_not_word {c : Char} (hc : isWord c = false) :
    isBoundary (some c) none = false := by
  show (isWord c != false) = false
  rw [hc]
  rfl

theorem occursAt_concat_of_isPrefix {word text : List Char} (h : word <+: text)
    (before : Option Char) {c : Char} (hc : isWord c = false) :
    occursAt word before (text ++ [c]) = occursAt word before text := by
  have hlonger : word.isPrefixOf (text ++ [c]) = true :=
    List.isPrefixOf_iff_prefix.mpr (h.trans (List.prefix_append text [c]))
  have hshorter : word.isPrefixOf text = true :=
    List.isPrefixOf_iff_prefix.mpr h
  rw [occursAt, occursAt, hlonger, hshorter, isBoundary_head?_concat before text hc,
    List.drop_append_of_le_length h.length_le, isBoundary_head?_concat _ _ hc]

/-- A word that reaches over the last character ends with it, where no boundary is. -/
theorem occursAt_concat_of_not_isPrefix {word text : List Char} (h : ¬word <+: text)
    (before : Option Char) {c : Char} (hc : isWord c = false) :
    occursAt word before (text ++ [c]) = false := by
  cases hoccurs : occursAt word before (text ++ [c]) with
  | false =>
      rfl
  | true =>
      cases List.prefix_concat_iff.mp (isPrefix_of_occursAt hoccurs) with
      | inl hwhole =>
          have hend : isBoundary (word.getLast?.or before)
              ((text ++ [c]).drop word.length).head? = false := by
            rw [hwhole, List.getLast?_concat, List.drop_length]
            exact isBoundary_none_of_not_word hc
          rw [occursAt, hend, Bool.and_false] at hoccurs
          cases hoccurs
      | inr hprefix =>
          exact absurd hprefix h

theorem occursAt_concat (word : List Char) (before : Option Char) (text : List Char) {c : Char}
    (hc : isWord c = false) :
    occursAt word before (text ++ [c]) = occursAt word before text := by
  by_cases h : word <+: text
  · exact occursAt_concat_of_isPrefix h before hc
  · rw [occursAt_concat_of_not_isPrefix h before hc]
    cases hoccurs : occursAt word before text with
    | false =>
        rfl
    | true =>
        exact absurd (isPrefix_of_occursAt hoccurs) h

theorem occursAt_nil_of_not_word (word : List Char) {c : Char} (hc : isWord c = false) :
    occursAt word (some c) [] = false := by
  rw [occursAt, List.head?_nil, isBoundary_none_of_not_word hc, Bool.and_false, Bool.false_and]

theorem occurrencesFrom_concat (word : List Char) (skipped : Nat) (before : Option Char)
    (offset : Nat) (text : List Char) {c : Char} (hc : isWord c = false) :
    occurrencesFrom word skipped before offset (text ++ [c]) =
      occurrencesFrom word skipped before offset text := by
  induction text generalizing skipped before offset with
  | nil =>
      -- Nothing is found behind the last character, and in front of it what an end shows.
      have hoccurs := occursAt_concat word before [] hc
      rw [List.nil_append] at hoccurs ⊢
      simp only [occurrencesFrom, hoccurs, occursAt_nil_of_not_word word hc, Bool.false_eq_true,
        and_false, if_false]
      cases skipped with
      | zero =>
          cases occursAt word before [] <;> rfl
      | succ skipped =>
          rfl
  | cons first rest ih =>
      have hoccurs := occursAt_concat word before (first :: rest) hc
      rw [List.cons_append] at hoccurs ⊢
      rw [occurrencesFrom, occurrencesFrom, hoccurs, ih, ih, ih]

theorem occurrences_concat (word line : List Char) {c : Char} (hc : isWord c = false) :
    occurrences word (line ++ [c]) = occurrences word line :=
  occurrencesFrom_concat word 0 none 0 line hc

/-!
## Carriage returns in front of newlines
-/

def withReturns (text : String) : String :=
  String.ofList (text.toList.flatMap fun c => if c = '\n' then ['\r', '\n'] else [c])

/-- Whether a line is another one, perhaps with a carriage return behind it. -/
def SameUpToReturn (line returned : List Char) : Prop :=
  returned = line ∨ returned = line ++ ['\r']

theorem SameUpToReturn.cons (c : Char) {line returned : List Char}
    (h : SameUpToReturn line returned) : SameUpToReturn (c :: line) (c :: returned) := by
  cases h with
  | inl hsame =>
      exact Or.inl (congrArg (c :: ·) hsame)
  | inr hreturn =>
      exact Or.inr (congrArg (c :: ·) hreturn)

theorem forall₂_consLine (c : Char) {lines returned : List (List Char)}
    (h : List.Forall₂ SameUpToReturn lines returned) :
    List.Forall₂ SameUpToReturn (consLine c lines) (consLine c returned) := by
  cases h with
  | nil =>
      exact List.Forall₂.cons (Or.inl rfl) List.Forall₂.nil
  | cons hfirst hrest =>
      exact List.Forall₂.cons (hfirst.cons c) hrest

theorem lines_return_newline (text : List Char) :
    lines ('\r' :: '\n' :: text) = ['\r'] :: lines text := by
  rw [lines, if_neg (by decide), lines, if_pos rfl, consLine]

theorem forall₂_lines_withReturns (text : String) :
    List.Forall₂ SameUpToReturn (lines text.toList) (lines (withReturns text).toList) := by
  rw [withReturns, String.toList_ofList]
  induction text.toList with
  | nil =>
      exact List.Forall₂.cons (Or.inl rfl) List.Forall₂.nil
  | cons c rest ih =>
      rw [List.flatMap_cons]
      by_cases hc : c = '\n'
      · rw [if_pos hc, lines, if_pos hc, List.cons_append, List.cons_append, List.nil_append,
          lines_return_newline]
        exact List.Forall₂.cons (Or.inr rfl) ih
      · rw [if_neg hc, List.singleton_append, lines, if_neg hc, lines, if_neg hc]
        exact forall₂_consLine c ih

end Text

namespace Scan

open Text (utf16Column)

theorem hits_concat (base : KnowledgeBase) (line : List Char) {c : Char}
    (hc : Text.isWord c = false) : base.hits (line ++ [c]) = base.hits line := by
  rw [KnowledgeBase.hits_eq_flatMap, KnowledgeBase.hits_eq_flatMap]
  apply List.flatMap_congr
  intro api _
  rw [Hit.ofApi, Text.occurrences_concat api.toList line hc, Hit.ofApi]

theorem utf16Column_append_of_mem_hits {base : KnowledgeBase} {line : List Char} {hit : Hit}
    (h : hit ∈ base.hits line) (back : List Char) :
    utf16Column (line ++ back) hit.offset = utf16Column line hit.offset := by
  rcases exists_append_of_mem_hits h with ⟨before, behind, hline, hoffset, hcolumn⟩
  rw [hcolumn, hoffset, hline, List.append_assoc, Text.utf16Column_utf8Length]

theorem columns_concat (base : KnowledgeBase) (line : List Char) {c : Char}
    (hc : Text.isWord c = false) : columns base (line ++ [c]) = columns base line := by
  rw [columns, columns, hits_concat base line hc]
  congr 1
  apply List.map_congr_left
  intro hit hhit
  rw [utf16Column_append_of_mem_hits hhit [c]]

theorem line_concat (base : KnowledgeBase) (file : String) (number : Nat) (text : List Char)
    {c : Char} (hword : Text.isWord c = false) (hblank : Text.isBlank c = true) :
    line base file number (text ++ [c]) = line base file number text := by
  have hback : Text.IsBlankRun [c] := by
    intro d hd
    rw [List.mem_singleton.mp hd]
    exact hblank
  have htrim := Text.trim_append_of_isBlankRun Text.isBlankRun_nil text hback
  rw [List.nil_append] at htrim
  rw [line, columns_concat base text hword, htrim, line]

theorem line_of_sameUpToReturn (base : KnowledgeBase) (file : String) (number : Nat)
    {text returned : List Char} (h : Text.SameUpToReturn text returned) :
    line base file number returned = line base file number text := by
  cases h with
  | inl hsame =>
      rw [hsame]
  | inr hreturn =>
      rw [hreturn]
      exact line_concat base file number text (by decide) (by decide)

theorem flatMap_zipIdx_of_forall₂ {α β : Type} {f : α × Nat → List β} {first second : List α}
    (h : List.Forall₂ (fun a b => ∀ index, f (b, index) = f (a, index)) first second)
    (start : Nat) :
    (second.zipIdx start).flatMap f = (first.zipIdx start).flatMap f := by
  induction h generalizing start with
  | nil =>
      rfl
  | cons hhead _ ih =>
      rw [List.zipIdx_cons, List.zipIdx_cons, List.flatMap_cons, List.flatMap_cons, hhead, ih]

/--
The issues of a plain text are the same, and in the same order, when each of its
newlines gets a carriage return in front.  This is so whatever the APIs are, and
also of texts that have carriage returns already.
-/
theorem plain_withReturns (base : KnowledgeBase) (file source : String) :
    plain base file (Text.withReturns source) = plain base file source := by
  apply flatMap_zipIdx_of_forall₂
  refine (Text.forall₂_lines_withReturns source).imp ?_
  intro text returned hsame index
  exact line_of_sameUpToReturn base file (index + 1) hsame

end Scan
end WebCompat
