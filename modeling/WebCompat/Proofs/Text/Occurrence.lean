import Mathlib.Logic.Basic
import WebCompat.Proofs.Text.Position
import WebCompat.Text.Occurrence

/-!
# Offsets of occurrences

The occurrences of a word in a line lie between its characters, and are listed
from left to right, each place at most once.  A place where the word stands
between two boundaries is listed, unless the word was found a little earlier and
reaches over that place.  So the list is the greedy one: each occurrence is the
leftmost one that does not begin before the end of the one before it.
-/

namespace WebCompat
namespace Text

theorem isPrefix_of_occursAt {word text : List Char} {before : Option Char}
    (h : occursAt word before text = true) : word <+: text := by
  simp only [occursAt, Bool.and_eq_true, List.isPrefixOf_iff_prefix] at h
  exact h.left.left

theorem exists_append_of_mem_occurrencesFrom {word : List Char} {text : List Char}
    {skipped offset found : Nat} {before : Option Char}
    (h : found ∈ occurrencesFrom word skipped before offset text) :
    ∃ front back, text = front ++ back ∧ found = offset + utf8Length front ∧
      word <+: back := by
  induction text generalizing skipped before offset with
  | nil =>
      unfold occurrencesFrom at h
      split at h
      · rename_i hoccurs
        exact ⟨[], [], rfl, by simpa using h, isPrefix_of_occursAt hoccurs.right⟩
      · cases h
  | cons c rest ih =>
      have hlater : ∀ {skipped : Nat},
          found ∈ occurrencesFrom word skipped (some c) (offset + c.utf8Size) rest →
            ∃ front back, c :: rest = front ++ back ∧ found = offset + utf8Length front ∧
              word <+: back := by
        intro skipped hfound
        rcases ih hfound with ⟨front, back, hrest, hoffset, hword⟩
        refine ⟨c :: front, back, by rw [hrest, List.cons_append], ?_, hword⟩
        rw [hoffset, utf8Length_cons]
        omega
      unfold occurrencesFrom at h
      split at h
      · exact hlater h
      · split at h
        · rename_i hoccurs
          rcases List.mem_cons.mp h with hfirst | hrest
          · exact ⟨[], c :: rest, rfl, by simpa using hfirst, isPrefix_of_occursAt hoccurs⟩
          · exact hlater hrest
        · exact hlater h

theorem occurrencesFrom_ascending (word : List Char) (skipped : Nat) (before : Option Char)
    (offset : Nat) (text : List Char) :
    (occurrencesFrom word skipped before offset text).Pairwise (· < ·) := by
  induction text generalizing skipped before offset with
  | nil =>
      unfold occurrencesFrom
      split <;> simp
  | cons c rest ih =>
      unfold occurrencesFrom
      split
      · exact ih _ _ _
      · split
        · refine List.Pairwise.cons ?_ (ih _ _ _)
          intro found hfound
          rcases exists_append_of_mem_occurrencesFrom hfound with ⟨front, _, _, hoffset, _⟩
          have hc := c.utf8Size_pos
          omega
        · exact ih _ _ _

theorem exists_append_of_mem_occurrences {word line : List Char} {offset : Nat}
    (h : offset ∈ occurrences word line) :
    ∃ before behind, line = before ++ (word ++ behind) ∧ offset = utf8Length before := by
  rcases exists_append_of_mem_occurrencesFrom h with ⟨before, _, hline, hoffset, behind, hword⟩
  exact ⟨before, behind, by rw [hline, hword], by rw [hoffset, Nat.zero_add]⟩

theorem occurrences_ascending (word line : List Char) :
    (occurrences word line).Pairwise (· < ·) :=
  occurrencesFrom_ascending word 0 none 0 line

/-!
## Completeness of the search
-/

theorem occursAt_append {word back : List Char} {before : Option Char}
    (hfirst : word.head?.any isWord = true) (hlast : word.getLast?.any isWord = true)
    (hbefore : before.any isWord = false) (hback : back.head?.any isWord = false) :
    occursAt word before (word ++ back) = true := by
  cases word with
  | nil =>
      cases hfirst
  | cons c rest =>
      have hprefix : (c :: rest).isPrefixOf (c :: rest ++ back) = true :=
        List.isPrefixOf_iff_prefix.mpr (List.prefix_append _ back)
      have hopening : isBoundary before (c :: rest ++ back).head? = true := by
        change (before.any isWord != isWord c) = true
        rw [hbefore, show isWord c = true from hfirst]
        rfl
      have hclosing : isBoundary ((c :: rest).getLast?.or before)
          ((c :: rest ++ back).drop (c :: rest).length).head? = true := by
        rw [List.drop_left, isBoundary, hback, List.getLast?_cons, Option.some_or,
          ← List.getLast?_cons, hlast]
        rfl
      rw [occursAt, hprefix, hopening, hclosing]
      rfl

theorem utf8Length_lt_of_length_lt {first second restFirst restSecond : List Char}
    (happend : first ++ restFirst = second ++ restSecond) (h : first.length < second.length) :
    utf8Length first < utf8Length second := by
  rcases List.append_eq_append_iff.mp happend with ⟨between, rfl, _⟩ | ⟨between, rfl, _⟩
  · cases between with
    | nil =>
        simp at h
    | cons c rest =>
        have hc := c.utf8Size_pos
        rw [utf8Length_append, utf8Length_cons]
        omega
  · rw [List.length_append] at h
    omega

/--
A place where a word stands is found, unless it belongs to an earlier occurrence:
to the one that is skipped at first, or to one that is found on the way.
-/
theorem mem_occurrencesFrom_or_overlap {word back : List Char} (hword : word ≠ [])
    (front : List Char) (skipped offset : Nat) {before : Option Char}
    (hoccurs : occursAt word (front.getLast?.or before) (word ++ back) = true) :
    offset + utf8Length front ∈
        occurrencesFrom word skipped before offset (front ++ (word ++ back)) ∨
      front.length < skipped ∨
        ∃ found ∈ occurrencesFrom word skipped before offset (front ++ (word ++ back)),
          found < offset + utf8Length front ∧
            offset + utf8Length front < found + utf8Length word := by
  induction front generalizing skipped offset before with
  | nil =>
      by_cases hskipped : 0 < skipped
      · exact Or.inr (Or.inl hskipped)
      · left
        cases word with
        | nil =>
            exact absurd rfl hword
        | cons c rest =>
            rw [List.nil_append, List.cons_append, occurrencesFrom, if_neg hskipped]
            rw [List.getLast?_nil, Option.none_or, List.cons_append] at hoccurs
            rw [if_pos hoccurs]
            exact List.mem_cons_self
  | cons c rest ih =>
      have hlater : occursAt word (rest.getLast?.or (some c)) (word ++ back) = true := by
        rw [List.getLast?_cons] at hoccurs
        cases hrest : rest.getLast? with
        | none =>
            rw [hrest] at hoccurs
            exact hoccurs
        | some last =>
            rw [hrest] at hoccurs
            exact hoccurs
      have hoffset : offset + utf8Length (c :: rest) =
          offset + c.utf8Size + utf8Length rest := by
        rw [utf8Length_cons]
        omega
      rw [List.cons_append, occurrencesFrom, hoffset]
      by_cases hskipped : 0 < skipped
      · rw [if_pos hskipped]
        rcases ih _ _ hlater with hfound | hcovered | hoverlap
        · exact Or.inl hfound
        · right
          left
          rw [List.length_cons]
          omega
        · exact Or.inr (Or.inr hoverlap)
      · rw [if_neg hskipped]
        by_cases hhere : occursAt word before (c :: (rest ++ (word ++ back))) = true
        · rw [if_pos hhere]
          rcases ih _ _ hlater with hfound | hcovered | ⟨found, hfound, hoverlap⟩
          · exact Or.inl (List.mem_cons_of_mem _ hfound)
          · -- The word is found at `c` and reaches over the place.
            right
            right
            refine ⟨offset, List.mem_cons_self, ?_, ?_⟩
            · have hc := c.utf8Size_pos
              omega
            · rcases isPrefix_of_occursAt hhere with ⟨tail, htail⟩
              have hwhole : (c :: rest) ++ (word ++ back) = word ++ tail := htail.symm
              have hlt := utf8Length_lt_of_length_lt hwhole
                (by rw [List.length_cons]; omega)
              rw [utf8Length_cons] at hlt
              omega
          · exact Or.inr (Or.inr ⟨found, List.mem_cons_of_mem _ hfound, hoverlap⟩)
        · rw [if_neg hhere]
          rcases ih _ _ hlater with hfound | hcovered | hoverlap
          · exact Or.inl hfound
          · omega
          · exact Or.inr (Or.inr hoverlap)

theorem mem_occurrences_of_occursAt {word front back : List Char} (hword : word ≠ [])
    (hoccurs : occursAt word front.getLast? (word ++ back) = true)
    (hclear : ∀ found ∈ occurrences word (front ++ (word ++ back)),
      found < utf8Length front → found + utf8Length word ≤ utf8Length front) :
    utf8Length front ∈ occurrences word (front ++ (word ++ back)) := by
  have hfront : occursAt word (front.getLast?.or none) (word ++ back) = true := by
    rw [Option.or_none]
    exact hoccurs
  have hsearch := mem_occurrencesFrom_or_overlap hword front 0 0 hfront
  rw [Nat.zero_add] at hsearch
  rcases hsearch with hfound | hcovered | ⟨found, hfound, hearlier, hover⟩
  · exact hfound
  · omega
  · have hend := hclear found hfound hearlier
    omega

/-!
## Greedy search

The occurrences of a word can be told from the line alone.  Places are counted
in characters here.
-/

def IsEdge (before behind : List Char) : Prop :=
  Xor (before.getLast?.any isWord = true) (behind.head?.any isWord = true)

/-- Whether a word stands at a place of a line, with a word boundary at both of its ends. -/
def IsOccurrence (word line : List Char) (place : Nat) : Prop :=
  ∃ before behind, line = before ++ (word ++ behind) ∧ before.length = place ∧
    IsEdge before (word ++ behind) ∧ IsEdge (before ++ word) behind

/--
The occurrences of a word from a place on: the leftmost one, and then those that
do not begin before its end.
-/
inductive IsGreedy (word line : List Char) : Nat → List Nat → Prop where
  | done {least : Nat} :
      (∀ place, least ≤ place → ¬IsOccurrence word line place) →
      IsGreedy word line least []
  | next {least place : Nat} {places : List Nat} :
      least ≤ place →
      IsOccurrence word line place →
      (∀ earlier, least ≤ earlier → earlier < place → ¬IsOccurrence word line earlier) →
      IsGreedy word line (place + word.length) places →
      IsGreedy word line least (place :: places)

theorem isBoundary_iff_isEdge (before behind : List Char) :
    isBoundary before.getLast? behind.head? = true ↔ IsEdge before behind := by
  unfold isBoundary IsEdge Xor
  cases before.getLast?.any isWord <;> cases behind.head?.any isWord <;> decide

theorem occursAt_iff_isOccurrence (word before text : List Char) :
    occursAt word before.getLast? text = true ↔
      IsOccurrence word (before ++ text) before.length := by
  have hends : word.getLast?.or before.getLast? = (before ++ word).getLast? :=
    List.getLast?_append.symm
  rw [occursAt, hends, Bool.and_eq_true, Bool.and_eq_true, isBoundary_iff_isEdge,
    isBoundary_iff_isEdge, List.isPrefixOf_iff_prefix]
  constructor
  · intro h
    rcases h with ⟨⟨⟨behind, htext⟩, hfirst⟩, hlast⟩
    rw [← htext, List.drop_left] at hlast
    rw [← htext] at hfirst ⊢
    exact ⟨before, behind, rfl, rfl, hfirst, hlast⟩
  · intro h
    rcases h with ⟨front, behind, hline, hlength, hfirst, hlast⟩
    rcases List.append_inj hline hlength.symm with ⟨hfront, htext⟩
    rw [← hfront] at hfirst hlast
    rw [htext, List.drop_left]
    exact ⟨⟨List.prefix_append word behind, hfirst⟩, hlast⟩

theorem IsOccurrence.add_length_le {word line : List Char} {place : Nat}
    (h : IsOccurrence word line place) : place + word.length ≤ line.length := by
  rcases h with ⟨before, behind, hline, hlength, _⟩
  rw [hline, ← hlength]
  simp only [List.length_append]
  omega

namespace IsGreedy

variable {word line : List Char} {least : Nat} {places others : List Nat}

theorem unique (h : IsGreedy word line least places) (hothers : IsGreedy word line least others) :
    others = places := by
  induction h generalizing others with
  | done hnone =>
      cases hothers with
      | done _ =>
          rfl
      | next hle hoccurs _ _ =>
          exact absurd hoccurs (hnone _ hle)
  | @next least place places hle hoccurs hleftmost _ ih =>
      cases hothers with
      | done hnone =>
          exact absurd hoccurs (hnone place hle)
      | @next _ other others hle' hoccurs' hleftmost' hrest =>
          have hsame : other = place := by
            rcases Nat.lt_trichotomy other place with hlt | heq | hgt
            · exact absurd hoccurs' (hleftmost other hle' hlt)
            · exact heq
            · exact absurd hoccurs (hleftmost' place hle hgt)
          subst hsame
          rw [ih hrest]

theorem of_succ (hnot : ¬IsOccurrence word line least)
    (h : IsGreedy word line (least + 1) places) : IsGreedy word line least places := by
  have hlater : ∀ place, least ≤ place → IsOccurrence word line place → least + 1 ≤ place := by
    intro place hle hoccurs
    apply Nat.lt_of_le_of_ne hle
    intro heq
    rw [heq] at hnot
    exact hnot hoccurs
  cases h with
  | done hnone =>
      apply done
      intro place hle hoccurs
      exact hnone place (hlater place hle hoccurs) hoccurs
  | next hle hoccurs hleftmost hrest =>
      refine next (by omega) hoccurs ?_ hrest
      intro earlier hle' hlt hoccurs'
      exact hleftmost earlier (hlater earlier hle' hoccurs') hlt hoccurs'

end IsGreedy

theorem exists_isGreedy_occurrencesFrom {word : List Char} (hword : word ≠ [])
    (front text : List Char) (skipped : Nat) :
    ∃ places, IsGreedy word (front ++ text) (front.length + skipped) places ∧
      occurrencesFrom word skipped front.getLast? (utf8Length front) text =
        places.map fun place => utf8Length ((front ++ text).take place) := by
  have hpos := List.length_pos_iff.mpr hword
  induction text generalizing front skipped with
  | nil =>
      have hnot : ¬(skipped = 0 ∧ occursAt word front.getLast? [] = true) := by
        intro h
        exact hword (List.prefix_nil.mp (isPrefix_of_occursAt h.right))
      exists []
      constructor
      · apply IsGreedy.done
        intro place hle hoccurs
        have hend := hoccurs.add_length_le
        rw [List.append_nil] at hend
        omega
      · rw [occurrencesFrom, if_neg hnot]
        rfl
  | cons c rest ih =>
      -- What the search does behind `c`, for any number of skipped characters.
      have hstep : ∀ fewer, ∃ places,
          IsGreedy word (front ++ c :: rest) (front.length + 1 + fewer) places ∧
            occurrencesFrom word fewer (some c) (utf8Length front + c.utf8Size) rest =
              places.map fun place => utf8Length ((front ++ c :: rest).take place) := by
        intro fewer
        have hlater := ih (front ++ [c]) fewer
        rw [List.getLast?_concat, utf8Length_append, utf8Length_cons, utf8Length_nil,
          Nat.add_zero, List.length_append, List.length_singleton, List.append_assoc,
          List.singleton_append] at hlater
        exact hlater
      rw [occurrencesFrom]
      by_cases hskipped : 0 < skipped
      · rcases hstep (skipped - 1) with ⟨places, hgreedy, hfound⟩
        have hsum : front.length + 1 + (skipped - 1) = front.length + skipped := by
          omega
        rw [hsum] at hgreedy
        rw [if_pos hskipped]
        exact ⟨places, hgreedy, hfound⟩
      · have hzero : front.length + skipped = front.length := by
          omega
        rw [if_neg hskipped, hzero]
        by_cases hhere : occursAt word front.getLast? (c :: rest) = true
        · rcases hstep (word.length - 1) with ⟨places, hgreedy, hfound⟩
          have hsum : front.length + 1 + (word.length - 1) = front.length + word.length := by
            omega
          rw [hsum] at hgreedy
          exists front.length :: places
          constructor
          · refine IsGreedy.next (Nat.le_refl _) ?_ ?_ hgreedy
            · exact (occursAt_iff_isOccurrence word front (c :: rest)).mp hhere
            · intro earlier hle hlt
              omega
          · rw [if_pos hhere, hfound, List.map_cons, List.take_left]
        · rcases hstep 0 with ⟨places, hgreedy, hfound⟩
          exists places
          constructor
          · apply IsGreedy.of_succ
            · intro hoccurs
              exact hhere ((occursAt_iff_isOccurrence word front (c :: rest)).mpr hoccurs)
            · exact hgreedy
          · rw [if_neg hhere, hfound]

theorem exists_isGreedy_occurrences {word : List Char} (hword : word ≠ []) (line : List Char) :
    ∃ places, IsGreedy word line 0 places ∧
      occurrences word line = places.map fun place => utf8Length (line.take place) :=
  exists_isGreedy_occurrencesFrom hword [] line 0

end Text
end WebCompat
