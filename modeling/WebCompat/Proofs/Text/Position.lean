import WebCompat.Text.Position

/-!
# Rows and columns of the places in a text

A place in a text is found again on the line with its row: the bytes before it
on that line are the characters since the last newline.  So its column in
UTF-16 units is the length of these characters, and the pair of row and column
grows strictly with the offset of the place.
-/

namespace WebCompat
namespace Text

/-!
## Lengths
-/

@[simp]
theorem utf8Length_nil : utf8Length [] = 0 :=
  rfl

@[simp]
theorem utf8Length_cons (c : Char) (text : List Char) :
    utf8Length (c :: text) = c.utf8Size + utf8Length text :=
  rfl

@[simp]
theorem utf8Length_append (first second : List Char) :
    utf8Length (first ++ second) = utf8Length first + utf8Length second := by
  induction first with
  | nil =>
      simp
  | cons c rest ih =>
      simp only [List.cons_append, utf8Length_cons, ih]
      omega

@[simp]
theorem utf8Length_reverse (text : List Char) :
    utf8Length text.reverse = utf8Length text := by
  induction text with
  | nil =>
      rfl
  | cons c rest ih =>
      simp only [List.reverse_cons, utf8Length_append, utf8Length_cons, utf8Length_nil, ih]
      omega

@[simp]
theorem utf16Length_nil : utf16Length [] = 0 :=
  rfl

@[simp]
theorem utf16Length_cons (c : Char) (text : List Char) :
    utf16Length (c :: text) = units16 c + utf16Length text :=
  rfl

@[simp]
theorem utf16Length_append (first second : List Char) :
    utf16Length (first ++ second) = utf16Length first + utf16Length second := by
  induction first with
  | nil =>
      simp
  | cons c rest ih =>
      simp only [List.cons_append, utf16Length_cons, ih]
      omega

theorem units16_pos (c : Char) : 0 < units16 c := by
  unfold units16
  split <;> decide

theorem utf16Length_pos {text : List Char} (h : text ≠ []) : 0 < utf16Length text := by
  cases text with
  | nil =>
      exact absurd rfl h
  | cons c rest =>
      have hc := units16_pos c
      rw [utf16Length_cons]
      omega

/-!
## Columns

A count of bytes that ends between two characters gives the characters before
it back, so that columns in UTF-16 units never stand in for counts of bytes.
-/

theorem takeBytes?_utf8Length_append (before behind : List Char) :
    takeBytes? (utf8Length before) (before ++ behind) = some before := by
  induction before with
  | nil =>
      simp [takeBytes?]
  | cons c rest ih =>
      have hc := c.utf8Size_pos
      obtain ⟨count, hcount⟩ : ∃ count, utf8Length (c :: rest) = count + 1 :=
        ⟨utf8Length (c :: rest) - 1, by rw [utf8Length_cons]; omega⟩
      have hle : c.utf8Size ≤ count + 1 := by
        rw [← hcount, utf8Length_cons]
        omega
      have hrest : count + 1 - c.utf8Size = utf8Length rest := by
        rw [← hcount, utf8Length_cons]
        omega
      rw [hcount, List.cons_append, takeBytes?, if_pos hle, hrest, ih]
      rfl

theorem utf16Column_utf8Length (before behind : List Char) :
    utf16Column (before ++ behind) (utf8Length before) = utf16Length before := by
  rw [utf16Column, takeBytes?_utf8Length_append]

theorem utf16Length_lt_of_utf8Length_lt {text first second restFirst restSecond : List Char}
    (hfirst : text = first ++ restFirst) (hsecond : text = second ++ restSecond)
    (h : utf8Length first < utf8Length second) :
    utf16Length first < utf16Length second := by
  rcases List.append_eq_append_iff.mp (hfirst.symm.trans hsecond) with
    ⟨between, rfl, _⟩ | ⟨between, rfl, _⟩
  · have hne : between ≠ [] := by
      intro hnil
      rw [hnil, List.append_nil] at h
      exact Nat.lt_irrefl _ h
    have hpos := utf16Length_pos hne
    rw [utf16Length_append]
    omega
  · rw [utf8Length_append] at h
    omega

/-!
## Lines around a place
-/

def firstLine (text : List Char) : List Char :=
  text.takeWhile (· != '\n')

def lastLine (text : List Char) : List Char :=
  (text.reverse.takeWhile (· != '\n')).reverse

theorem lines_eq_firstLine_cons (text : List Char) :
    lines text = firstLine text :: (lines text).tail := by
  induction text with
  | nil =>
      rfl
  | cons c rest ih =>
      by_cases hc : c = '\n'
      · simp [lines, firstLine, hc]
      · rw [lines, if_neg hc, ih]
        simp [consLine, firstLine, hc]

theorem firstLine_append_of_notMem {between : List Char} (h : '\n' ∉ between)
    (behind : List Char) : firstLine (between ++ behind) = between ++ firstLine behind := by
  apply List.takeWhile_append_of_pos
  intro c hc
  rw [bne_iff_ne]
  rintro rfl
  exact h hc

theorem head?_firstLine (text : List Char) :
    (firstLine text).head? = text.head?.filter (· != '\n') :=
  List.head?_takeWhile

theorem getLast?_lastLine (text : List Char) :
    (lastLine text).getLast? = text.getLast?.filter (· != '\n') := by
  rw [lastLine, List.getLast?_reverse, List.head?_takeWhile, List.head?_reverse]

theorem any_filter_eq_false {character : Option Char} {p q : Char → Bool}
    (h : character.any q = false) : (character.filter p).any q = false := by
  cases character with
  | none =>
      rfl
  | some c =>
      rw [Option.filter_some]
      split
      · exact h
      · rfl

theorem lastLine_append_of_notMem (before : List Char) {between : List Char}
    (h : '\n' ∉ between) : lastLine (before ++ between) = lastLine before ++ between := by
  have hall : ∀ c ∈ between.reverse, (c != '\n') = true := by
    intro c hc
    rw [bne_iff_ne]
    rintro rfl
    exact h (List.mem_reverse.mp hc)
  rw [lastLine, List.reverse_append, List.takeWhile_append_of_pos hall, List.reverse_append,
    List.reverse_reverse, lastLine]

theorem lastLine_cons_of_mem (c : Char) {rest : List Char} (h : '\n' ∈ rest) :
    lastLine (c :: rest) = lastLine rest := by
  have hne : (rest.reverse.takeWhile (· != '\n')).length ≠ rest.reverse.length := by
    intro hlength
    have heq := (List.takeWhile_prefix (· != '\n') (l := rest.reverse)).eq_of_length hlength
    have hall := List.all_takeWhile (l := rest.reverse) (p := (· != '\n'))
    rw [heq] at hall
    simpa using List.all_eq_true.mp hall '\n' (List.mem_reverse.mpr h)
  rw [lastLine, List.reverse_cons, List.takeWhile_append, if_neg hne, lastLine]

theorem lastLine_append_of_mem (before : List Char) {between : List Char}
    (h : '\n' ∈ between) : lastLine (before ++ between) = lastLine between := by
  induction before with
  | nil =>
      rfl
  | cons c rest ih =>
      rw [List.cons_append, lastLine_cons_of_mem c (List.mem_append_right rest h), ih]

theorem lastLine_of_notMem {text : List Char} (h : '\n' ∉ text) : lastLine text = text := by
  simpa [lastLine] using lastLine_append_of_notMem [] h

theorem lastLine_newline_cons (rest : List Char) : lastLine ('\n' :: rest) = lastLine rest := by
  by_cases h : '\n' ∈ rest
  · exact lastLine_cons_of_mem '\n' h
  · rw [lastLine_of_notMem h]
    simpa [lastLine] using lastLine_append_of_notMem ['\n'] h

theorem getElem?_lines_append (before behind : List Char) :
    (lines (before ++ behind))[before.count '\n']? =
      some (lastLine before ++ firstLine behind) := by
  induction before with
  | nil =>
      rw [List.nil_append, lines_eq_firstLine_cons]
      rfl
  | cons c rest ih =>
      by_cases hc : c = '\n'
      · subst hc
        rw [List.cons_append, lines, if_pos rfl, List.count_cons_self, List.getElem?_cons_succ,
          ih, lastLine_newline_cons]
      · rw [List.cons_append, lines, if_neg hc, List.count_cons_of_ne hc]
        rw [lines_eq_firstLine_cons] at ih ⊢
        by_cases hrest : '\n' ∈ rest
        · obtain ⟨count, hcount⟩ : ∃ count, rest.count '\n' = count + 1 :=
            ⟨rest.count '\n' - 1, by have := List.count_pos_iff.mpr hrest; omega⟩
          rw [hcount, List.getElem?_cons_succ] at ih
          rw [hcount, consLine, List.getElem?_cons_succ, ih, lastLine_cons_of_mem c hrest]
        · have hzero : rest.count '\n' = 0 := List.count_eq_zero.mpr hrest
          rw [hzero, List.getElem?_cons_zero, Option.some.injEq] at ih
          have hnot : '\n' ∉ c :: rest := by
            simp [hrest, Ne.symm hc]
          rw [hzero, consLine, List.getElem?_cons_zero, ih, lastLine_of_notMem hnot,
            lastLine_of_notMem hrest, List.cons_append]

theorem exists_append_of_getElem?_lines {text line : List Char} {index : Nat}
    (h : (lines text)[index]? = some line) :
    ∃ front back, text = front ++ line ++ back ∧ front.count '\n' = index ∧
      lastLine front = [] ∧ '\n' ∉ line := by
  induction text generalizing index line with
  | nil =>
      cases index with
      | zero =>
          cases h
          exact ⟨[], [], rfl, rfl, rfl, List.not_mem_nil⟩
      | succ index =>
          cases h
  | cons c rest ih =>
      by_cases hc : c = '\n'
      · subst hc
        rw [lines, if_pos rfl] at h
        cases index with
        | zero =>
            cases h
            exact ⟨[], '\n' :: rest, rfl, rfl, rfl, List.not_mem_nil⟩
        | succ index =>
            rcases ih h with ⟨front, back, hrest, hcount, hlast, hline⟩
            refine ⟨'\n' :: front, back, by rw [hrest]; rfl, ?_, ?_, hline⟩
            · rw [List.count_cons_self, hcount]
            · rw [lastLine_newline_cons, hlast]
      · rw [lines, if_neg hc, lines_eq_firstLine_cons, consLine] at h
        cases index with
        | zero =>
            rw [List.getElem?_cons_zero, Option.some.injEq] at h
            have hfirst : '\n' ∉ firstLine rest := by
              intro hmem
              have hall := List.all_takeWhile (l := rest) (p := (· != '\n'))
              simpa using List.all_eq_true.mp hall '\n' hmem
            refine ⟨[], rest.dropWhile (· != '\n'), ?_, rfl, rfl, ?_⟩
            · rw [← h, List.nil_append, List.cons_append, firstLine,
                List.takeWhile_append_dropWhile]
            · rw [← h]
              simp [hfirst, Ne.symm hc]
        | succ index =>
            have hlater : (lines rest)[index + 1]? = some line := by
              rw [lines_eq_firstLine_cons]
              exact h
            rcases ih hlater with ⟨front, back, hrest, hcount, hlast, hline⟩
            have hmem : '\n' ∈ front := List.count_pos_iff.mp (by omega)
            refine ⟨c :: front, back, by rw [hrest]; rfl, ?_, ?_, hline⟩
            · rw [List.count_cons_of_ne hc, hcount]
            · rw [lastLine_cons_of_mem c hmem, hlast]

/-!
## Places by their offsets
-/

namespace Position

def column16 (text : List Char) (offset : Nat) : Nat :=
  utf16Length (lastLine (text.take offset))

theorem row_ofOffset (text : List Char) (offset : Nat) :
    (ofOffset text offset).row = (text.take offset).count '\n' :=
  rfl

theorem byteColumn_ofOffset (text : List Char) (offset : Nat) :
    (ofOffset text offset).byteColumn = utf8Length (lastLine (text.take offset)) := by
  rw [lastLine, utf8Length_reverse]
  rfl

theorem getElem?_lines_ofOffset (text : List Char) (offset : Nat) :
    (lines text)[(ofOffset text offset).row]? =
      some (lastLine (text.take offset) ++ firstLine (text.drop offset)) := by
  have h := getElem?_lines_append (text.take offset) (text.drop offset)
  rwa [List.take_append_drop] at h

theorem utf16Column_ofOffset (text : List Char) (offset : Nat) (rest : List Char) :
    utf16Column (lastLine (text.take offset) ++ rest) (ofOffset text offset).byteColumn =
      column16 text offset := by
  rw [byteColumn_ofOffset, utf16Column_utf8Length, column16]

theorem lt_of_offset_lt {text : List Char} {first second : Nat}
    (hlt : first < second) (hlength : first < text.length) :
    (ofOffset text first).row < (ofOffset text second).row ∨
      (ofOffset text first).row = (ofOffset text second).row ∧
        column16 text first < column16 text second := by
  obtain ⟨between, hbetween, hne⟩ :
      ∃ between, text.take second = text.take first ++ between ∧ between ≠ [] := by
    refine ⟨(text.take second).drop first, ?_, ?_⟩
    · have hsplit := List.take_append_drop first (text.take second)
      rw [List.take_take, Nat.min_eq_left (Nat.le_of_lt hlt)] at hsplit
      exact hsplit.symm
    · apply List.ne_nil_of_length_pos
      rw [List.length_drop, List.length_take]
      omega
  rw [row_ofOffset, row_ofOffset, column16, column16, hbetween, List.count_append]
  by_cases hmem : '\n' ∈ between
  · have hpos := List.count_pos_iff.mpr hmem
    left
    omega
  · have hpos := utf16Length_pos hne
    rw [lastLine_append_of_notMem _ hmem, utf16Length_append, List.count_eq_zero.mpr hmem]
    right
    omega

end Position
end Text
end WebCompat
