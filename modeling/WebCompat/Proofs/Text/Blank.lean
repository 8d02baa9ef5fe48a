import Mathlib.Data.List.TakeWhile
import WebCompat.Text.Blank
import WebCompat.Text.Lines

/-!
# Blanks around texts

Trimming takes away the blanks at the two ends of a text and nothing else.  Lines
that are not blank keep their number when their joined text is trimmed, and each of
them stays the same up to the blanks at its own ends.
-/

namespace WebCompat
namespace Text

def IsBlankRun (text : List Char) : Prop :=
  ∀ c ∈ text, isBlank c = true

/-- Whether a text begins and ends with characters that are no blanks. -/
def HasBareEnds (text : List Char) : Prop :=
  ∀ c, text.head? = some c ∨ text.getLast? = some c → isBlank c = false

theorem isBlankRun_nil : IsBlankRun [] := by
  intro c hc
  cases hc

/-!
## Trimming
-/

theorem trimEnd_append_of_isBlankRun (text : List Char) {back : List Char}
    (h : IsBlankRun back) : trimEnd (text ++ back) = trimEnd text := by
  rw [trimEnd, List.reverse_append, List.dropWhile_append_of_pos, trimEnd]
  intro c hc
  exact h c (List.mem_reverse.mp hc)

theorem exists_mem_dropWhile {text : List Char} (h : text.all isBlank = false) :
    ∃ c ∈ text.dropWhile isBlank, ¬isBlank c = true := by
  have hne : text.dropWhile isBlank ≠ [] := by
    intro hnil
    rw [List.all_eq_true.mpr (List.dropWhile_eq_nil_iff.mp hnil)] at h
    cases h
  refine ⟨(text.dropWhile isBlank).head hne, List.head_mem hne, ?_⟩
  rw [List.head_dropWhile_not isBlank hne]
  decide

theorem dropWhile_append_of_not_blank {text : List Char} (h : text.all isBlank = false)
    (back : List Char) :
    (text ++ back).dropWhile isBlank = text.dropWhile isBlank ++ back := by
  rcases exists_mem_dropWhile h with ⟨c, hc, _⟩
  rw [List.dropWhile_append, if_neg]
  rw [List.isEmpty_iff]
  exact List.ne_nil_of_mem hc

theorem trimEnd_append_of_not_blank (front : List Char) {text : List Char}
    (h : text.all isBlank = false) : trimEnd (front ++ text) = front ++ trimEnd text := by
  rw [← List.all_reverse] at h
  rw [trimEnd, List.reverse_append, dropWhile_append_of_not_blank h, List.reverse_append,
    List.reverse_reverse, trimEnd]

theorem trim_append_of_isBlankRun {front back : List Char} (hfront : IsBlankRun front)
    (text : List Char) (hback : IsBlankRun back) : trim (front ++ text ++ back) = trim text := by
  rw [trim, List.append_assoc, List.dropWhile_append_of_pos hfront, trim]
  cases hblank : text.all isBlank with
  | true =>
      have hall : ∀ c ∈ text ++ back, isBlank c = true := by
        intro c hc
        rcases List.mem_append.mp hc with htext | hc
        · exact List.all_eq_true.mp hblank c htext
        · exact hback c hc
      rw [List.dropWhile_eq_nil_iff.mpr hall,
        List.dropWhile_eq_nil_iff.mpr (List.all_eq_true.mp hblank)]
  | false =>
      rw [dropWhile_append_of_not_blank hblank, trimEnd_append_of_isBlankRun _ hback]

theorem trim_eq_self {text : List Char} (h : HasBareEnds text) : trim text = text := by
  have hfront : text.dropWhile isBlank = text := by
    cases text with
    | nil =>
        rfl
    | cons c rest =>
        rw [List.dropWhile_cons_of_neg]
        rw [h c (Or.inl rfl)]
        decide
  have hback : text.reverse.dropWhile isBlank = text.reverse := by
    cases hreverse : text.reverse with
    | nil =>
        rfl
    | cons c rest =>
        have hlast : text.getLast? = some c := by
          rw [← List.head?_reverse, hreverse]
          rfl
        rw [List.dropWhile_cons_of_neg]
        rw [h c (Or.inr hlast)]
        decide
  rw [trim, hfront, trimEnd, hback, List.reverse_reverse]

theorem takeWhile_isBlankRun (text : List Char) : IsBlankRun (text.takeWhile isBlank) :=
  List.all_eq_true.mp List.all_takeWhile

theorem exists_append_trimEnd (text : List Char) :
    ∃ back, IsBlankRun back ∧ text = trimEnd text ++ back := by
  refine ⟨(text.reverse.takeWhile isBlank).reverse, ?_, ?_⟩
  · intro c hc
    exact takeWhile_isBlankRun _ c (List.mem_reverse.mp hc)
  · rw [trimEnd, ← List.reverse_append, List.takeWhile_append_dropWhile, List.reverse_reverse]

theorem exists_append_trim (text : List Char) :
    ∃ front back, IsBlankRun front ∧ IsBlankRun back ∧ text = front ++ trim text ++ back := by
  rcases exists_append_trimEnd (text.dropWhile isBlank) with ⟨back, hback, hrest⟩
  refine ⟨text.takeWhile isBlank, back, takeWhile_isBlankRun text, hback, ?_⟩
  rw [trim, List.append_assoc, ← hrest, List.takeWhile_append_dropWhile]

theorem trim_ne_nil {text : List Char} (h : text.all isBlank = false) : trim text ≠ [] := by
  intro hnil
  rcases exists_append_trim text with ⟨front, back, hfront, hback, htext⟩
  rw [hnil, List.append_nil] at htext
  rw [List.all_eq_false] at h
  rcases h with ⟨c, hc, hblank⟩
  rw [htext] at hc
  rcases List.mem_append.mp hc with hc | hc
  · exact hblank (hfront c hc)
  · exact hblank (hback c hc)

theorem isEmpty_trimmed (text : String) : (trimmed text).isEmpty = isBlankText text := by
  cases hblank : isBlankText text with
  | true =>
      have hnil : text.toList.dropWhile isBlank = [] :=
        List.dropWhile_eq_nil_iff.mpr (List.all_eq_true.mp hblank)
      rw [trimmed, trim, hnil]
      rfl
  | false =>
      rw [trimmed, Bool.eq_false_iff, Ne, String.isEmpty_iff, String.ofList_eq_empty_iff]
      exact trim_ne_nil hblank

theorem trim_dropWhile (text : List Char) : trim (text.dropWhile isBlank) = trim text := by
  have h := trim_append_of_isBlankRun (takeWhile_isBlankRun text) (text.dropWhile isBlank)
    isBlankRun_nil
  rw [List.append_nil, List.takeWhile_append_dropWhile] at h
  exact h.symm

theorem trim_trimEnd (text : List Char) : trim (trimEnd text) = trim text := by
  rcases exists_append_trimEnd text with ⟨back, hback, htext⟩
  have h := trim_append_of_isBlankRun isBlankRun_nil (trimEnd text) hback
  rw [List.nil_append, ← htext] at h
  exact h.symm

/-!
## Joined lines
-/

theorem joinLines_cons_cons (first second : List Char) (rest : List (List Char)) :
    joinLines (first :: second :: rest) = first ++ '\n' :: joinLines (second :: rest) := by
  rw [joinLines, List.intercalate_cons_cons, List.append_assoc, joinLines]
  rfl

theorem lines_append_newline {line : List Char} (h : '\n' ∉ line) (rest : List Char) :
    lines (line ++ '\n' :: rest) = line :: lines rest := by
  induction line with
  | nil =>
      rw [List.nil_append, lines, if_pos rfl]
  | cons c line ih =>
      rw [List.mem_cons, not_or] at h
      rw [List.cons_append, lines, if_neg (Ne.symm h.left), ih h.right, consLine]

theorem lines_of_notMem {line : List Char} (h : '\n' ∉ line) : lines line = [line] := by
  induction line with
  | nil =>
      rfl
  | cons c line ih =>
      rw [List.mem_cons, not_or] at h
      rw [lines, if_neg (Ne.symm h.left), ih h.right, consLine]

theorem lines_joinLines {parts : List (List Char)} (hne : parts ≠ [])
    (h : ∀ part ∈ parts, '\n' ∉ part) : lines (joinLines parts) = parts := by
  induction parts with
  | nil =>
      exact absurd rfl hne
  | cons first rest ih =>
      have hfirst := h first List.mem_cons_self
      cases rest with
      | nil =>
          rw [joinLines, List.intercalate_singleton, lines_of_notMem hfirst]
      | cons second rest =>
          have hrest := ih (List.cons_ne_nil second rest)
            fun part hpart => h part (List.mem_cons_of_mem first hpart)
          rw [joinLines_cons_cons, lines_append_newline hfirst, hrest]

theorem dropWhile_joinLines {first : List Char} (h : first.all isBlank = false)
    (rest : List (List Char)) :
    (joinLines (first :: rest)).dropWhile isBlank =
      joinLines (first.dropWhile isBlank :: rest) := by
  cases rest with
  | nil =>
      rw [joinLines, joinLines, List.intercalate_singleton, List.intercalate_singleton]
  | cons second rest =>
      rw [joinLines_cons_cons, joinLines_cons_cons, dropWhile_append_of_not_blank h]

theorem all_isBlank_joinLines {parts : List (List Char)} {part : List Char} (hpart : part ∈ parts)
    (h : part.all isBlank = false) : (joinLines parts).all isBlank = false := by
  rw [List.all_eq_false] at h ⊢
  rcases h with ⟨c, hc, hblank⟩
  refine ⟨c, ?_, hblank⟩
  induction parts with
  | nil =>
      cases hpart
  | cons first rest ih =>
      cases rest with
      | nil =>
          rw [List.mem_singleton.mp hpart] at hc
          rwa [joinLines, List.intercalate_singleton]
      | cons second rest =>
          rw [joinLines_cons_cons]
          cases hpart with
          | head =>
              exact List.mem_append_left _ hc
          | tail _ hpart =>
              exact List.mem_append_right _ (List.mem_cons_of_mem '\n' (ih hpart))

theorem trimEnd_joinLines (front : List (List Char)) {last : List Char}
    (h : last.all isBlank = false) :
    trimEnd (joinLines (front ++ [last])) = joinLines (front ++ [trimEnd last]) := by
  induction front with
  | nil =>
      rw [List.nil_append, List.nil_append, joinLines, joinLines, List.intercalate_singleton,
        List.intercalate_singleton]
  | cons first front ih =>
      have hjoin : ∀ final : List Char, joinLines (first :: front ++ [final]) =
          first ++ ['\n'] ++ joinLines (front ++ [final]) := by
        intro final
        rw [List.append_assoc, List.singleton_append]
        cases front with
        | nil =>
            exact joinLines_cons_cons first final []
        | cons second front =>
            exact joinLines_cons_cons first second (front ++ [final])
      have hlast : (joinLines (front ++ [last])).all isBlank = false :=
        all_isBlank_joinLines (List.mem_append_right front List.mem_cons_self) h
      rw [hjoin, hjoin, trimEnd_append_of_not_blank _ hlast, ih]

theorem map_trim_lines_trimEnd_joinLines {front : List (List Char)} {last : List Char}
    (hnewline : ∀ part ∈ front ++ [last], '\n' ∉ part) (hlast : last.all isBlank = false) :
    (lines (trimEnd (joinLines (front ++ [last])))).map trim = (front ++ [last]).map trim := by
  have hlines : ∀ part ∈ front ++ [trimEnd last], '\n' ∉ part := by
    intro part hpart
    rcases List.mem_append.mp hpart with hfront | hpart
    · exact hnewline part (List.mem_append_left [last] hfront)
    · rcases exists_append_trimEnd last with ⟨back, _, htext⟩
      rw [List.mem_singleton.mp hpart]
      intro hmem
      apply hnewline last (List.mem_append_right front List.mem_cons_self)
      rw [htext]
      exact List.mem_append_left back hmem
  rw [trimEnd_joinLines front hlast, lines_joinLines (by simp) hlines, List.map_append,
    List.map_append, List.map_singleton, List.map_singleton, trim_trimEnd]

theorem map_trim_lines_trim_joinLines {parts : List (List Char)} (hne : parts ≠ [])
    (hnewline : ∀ part ∈ parts, '\n' ∉ part) (hblank : ∀ part ∈ parts, part.all isBlank = false) :
    (lines (trim (joinLines parts))).map trim = parts.map trim := by
  cases parts with
  | nil =>
      exact absurd rfl hne
  | cons first rest =>
      -- The first line loses the blanks in front of it, then the last one those behind it.
      have hfirst := hblank first List.mem_cons_self
      have hparts : ∀ part ∈ first.dropWhile isBlank :: rest,
          '\n' ∉ part ∧ part.all isBlank = false := by
        intro part hpart
        cases hpart with
        | head =>
            constructor
            · intro hmem
              exact hnewline first List.mem_cons_self
                ((List.dropWhile_sublist isBlank).mem hmem)
            · rw [List.all_eq_false]
              exact exists_mem_dropWhile hfirst
        | tail _ hpart =>
            have hmem := List.mem_cons_of_mem first hpart
            exact ⟨hnewline part hmem, hblank part hmem⟩
      rw [trim, dropWhile_joinLines hfirst, List.map_cons, ← trim_dropWhile, ← List.map_cons]
      rcases List.eq_nil_or_concat (first.dropWhile isBlank :: rest) with
        hnil | ⟨front, last, hsplit⟩
      · cases hnil
      · rw [List.concat_eq_append] at hsplit
        rw [hsplit] at hparts ⊢
        apply map_trim_lines_trimEnd_joinLines
        · intro part hpart
          exact (hparts part hpart).left
        · exact (hparts last (List.mem_append_right front List.mem_cons_self)).right

end Text
end WebCompat
