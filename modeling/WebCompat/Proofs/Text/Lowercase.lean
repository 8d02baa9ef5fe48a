import WebCompat.Proofs.Text.Blank
import WebCompat.Text.Lowercase

/-!
# Blanks and lower case

Blanks have no case, and the search for the end of a word stops at them.  So the
lower-case form of a text between blanks is that of the text between the same
blanks, and no character becomes a blank.
-/

namespace WebCompat
namespace Text

/-!
## Ranges
-/

def areApart (first second : List (Nat × Nat)) : Bool :=
  first.all fun range => second.all fun other => range.2 < other.1 || other.2 < range.1

theorem inRanges_eq_false_of_areApart {first second : List (Nat × Nat)}
    (hapart : areApart first second = true) {c : Char} (hc : inRanges first c = true) :
    inRanges second c = false := by
  rw [Bool.eq_false_iff]
  intro hsecond
  rcases (inRanges_eq_true_iff first c).mp hc with ⟨range, hrange, hlow, hhigh⟩
  rcases (inRanges_eq_true_iff second c).mp hsecond with ⟨other, hother, hlow', hhigh'⟩
  have h := List.all_eq_true.mp (List.all_eq_true.mp hapart range hrange) other hother
  simp only [Bool.or_eq_true, decide_eq_true_eq] at h
  omega

theorem not_cased_of_isBlank {c : Char} (h : isBlank c = true) : inRanges casedRanges c = false :=
  inRanges_eq_false_of_areApart (by decide +kernel) h

theorem not_caseIgnorable_of_isBlank {c : Char} (h : isBlank c = true) :
    inRanges caseIgnorableRanges c = false :=
  inRanges_eq_false_of_areApart (by decide +kernel) h

/-!
## Single characters
-/

def loweredRanges : List (Nat × Nat) :=
  lowercaseRuns.map fun (first, last, _, _) => (first, last)

theorem toNat_ofNat_cases (code : Nat) :
    (Char.ofNat code).toNat = code ∨ (Char.ofNat code).toNat = 0 := by
  by_cases hvalid : code.isValidChar
  · have hchar : Char.ofNat code = Char.ofNatAux code hvalid := dif_pos hvalid
    rw [hchar]
    exact Or.inl rfl
  · have hchar : Char.ofNat code = Char.ofNat 0 := dif_neg hvalid
    rw [hchar]
    exact Or.inr rfl

theorem toLower_of_not_upper {c : Char} (h : ¬('A'.val ≤ c.val ∧ c.val ≤ 'Z'.val)) :
    c.toLower = c :=
  dif_neg h

theorem toNat_toLower_of_upper {c : Char} (hlow : 'A'.val ≤ c.val) (hhigh : c.val ≤ 'Z'.val) :
    c.toLower.toNat = c.toNat + 32 := by
  have hlower : c.toLower.val = c.val + 32 := congrArg Char.val (dif_pos ⟨hlow, hhigh⟩)
  rw [UInt32.le_iff_toNat_le] at hlow hhigh
  show c.toLower.val.toNat = c.val.toNat + 32
  have h : c.val.toNat ≤ 90 := hhigh
  rw [hlower, UInt32.toNat_add]
  show (c.val.toNat + 32) % 4294967296 = _
  omega

theorem toLower_of_isBlank {c : Char} (h : isBlank c = true) : c.toLower = c := by
  have hcased := not_cased_of_isBlank h
  apply toLower_of_not_upper
  intro hupper
  have hin : inRanges casedRanges c = true :=
    (inRanges_eq_true_iff _ _).mpr ⟨(0x41, 0x5A), List.mem_cons_self, hupper.left, hupper.right⟩
  rw [hcased] at hin
  cases hin

/-- What the lower-case form of a letter can be: by the rule for ASCII, as two characters, by a
run of the table, or the letter itself. -/
theorem lowerChar_cases (c : Char) :
    lowerChar c = [c.toLower] ∨
      c.toNat = 0x130 ∧ lowerChar c = ['i', Char.ofNat 0x307] ∨
      (∃ first last step distance, (first, last, step, distance) ∈ lowercaseRuns ∧
        first ≤ c.toNat ∧ c.toNat ≤ last ∧
          lowerChar c = [Char.ofNat (Int.toNat (c.toNat + distance))]) ∨
      lowerChar c = [c] := by
  rw [lowerChar]
  by_cases hascii : c.toNat < 128
  · rw [if_pos hascii]
    exact Or.inl rfl
  rw [if_neg hascii]
  by_cases hdot : c.toNat = 0x130
  · rw [if_pos hdot]
    exact Or.inr (Or.inl ⟨hdot, rfl⟩)
  rw [if_neg hdot]
  split
  · rename_i first last step distance hfind
    have hrun := List.find?_some hfind
    simp only [Bool.and_eq_true, decide_eq_true_eq] at hrun
    exact Or.inr (Or.inr (Or.inl ⟨first, last, step, distance, List.mem_of_find?_eq_some hfind,
      hrun.left.left, hrun.left.right, rfl⟩))
  · exact Or.inr (Or.inr (Or.inr rfl))

theorem lowerChar_of_isBlank {c : Char} (h : isBlank c = true) : lowerChar c = [c] := by
  rcases lowerChar_cases c with hascii | ⟨hdot, _⟩ | ⟨first, last, step, distance, hrun, hlow,
    hhigh, _⟩ | hself
  · rw [hascii, toLower_of_isBlank h]
  · have hblank : ∀ range ∈ blankRanges, range.2 < 0x130 ∨ 0x130 < range.1 := by
      decide
    rcases (inRanges_eq_true_iff _ _).mp h with ⟨range, hrange, hfirst, hlast⟩
    have := hblank range hrange
    omega
  · have hapart : inRanges loweredRanges c = false :=
      inRanges_eq_false_of_areApart (by decide +kernel) h
    have hin : inRanges loweredRanges c = true :=
      (inRanges_eq_true_iff _ _).mpr
        ⟨(first, last), List.mem_map.mpr ⟨_, hrun, rfl⟩, hlow, hhigh⟩
    rw [hapart] at hin
    cases hin
  · exact hself

def missesBlanks (run : Nat × Nat × Nat × Int) : Bool :=
  blankRanges.all fun blank => run.2.1 + run.2.2.2 < blank.1 || (blank.2 : Int) < run.1 + run.2.2.2

theorem isBlank_toLower {c : Char} (h : isBlank c = false) : isBlank c.toLower = false := by
  by_cases hupper : 'A'.val ≤ c.val ∧ c.val ≤ 'Z'.val
  · have hnat := toNat_toLower_of_upper hupper.left hupper.right
    have hlow : 65 ≤ c.toNat := hupper.left
    have hhigh : c.toNat ≤ 90 := hupper.right
    rw [Bool.eq_false_iff]
    intro hblank
    rcases (inRanges_eq_true_iff _ _).mp hblank with ⟨range, hrange, hfirst, hlast⟩
    have hapart : ∀ range ∈ blankRanges, range.2 < 97 ∨ 122 < range.1 := by
      decide
    have := hapart range hrange
    omega
  · rw [toLower_of_not_upper hupper]
    exact h

theorem isBlank_of_mem_lowerChar {c lowered : Char} (h : isBlank c = false)
    (hmem : lowered ∈ lowerChar c) : isBlank lowered = false := by
  rcases lowerChar_cases c with hascii | ⟨_, hdot⟩ | ⟨first, last, step, distance, hrun, hlow,
    hhigh, hform⟩ | hself
  · rw [hascii, List.mem_singleton] at hmem
    rw [hmem]
    exact isBlank_toLower h
  · rw [hdot, List.mem_cons, List.mem_singleton] at hmem
    rcases hmem with rfl | rfl <;> decide
  · rw [hform, List.mem_singleton] at hmem
    rw [hmem, Bool.eq_false_iff]
    intro hblank
    rcases (inRanges_eq_true_iff _ _).mp hblank with ⟨blank, hmemBlank, hfirst, hlast⟩
    have hmisses : lowercaseRuns.all missesBlanks = true := by
      decide +kernel
    have hapart := List.all_eq_true.mp (List.all_eq_true.mp hmisses _ hrun) blank hmemBlank
    have hpos : ∀ blank ∈ blankRanges, 0 < blank.1 := by
      decide
    have hblankPos := hpos blank hmemBlank
    simp only [Bool.or_eq_true, decide_eq_true_eq] at hapart
    rcases toNat_ofNat_cases (Int.toNat (c.toNat + distance)) with hvalid | hzero
    · omega
    · omega
  · rw [hself, List.mem_singleton] at hmem
    rw [hmem]
    exact h

theorem lowerChar_ne_nil (c : Char) : lowerChar c ≠ [] := by
  intro hnil
  rcases lowerChar_cases c with h | ⟨_, h⟩ | ⟨_, _, _, _, _, _, _, h⟩ | h <;>
    rw [h] at hnil <;> cases hnil

/-!
## Texts
-/

/-- The lower-case form of a character between the texts around it. -/
def lowerAt (before : List Char) (c : Char) (rest : List Char) : List Char :=
  if c.toNat = 0x3A3 then
    if meetsCased before && !meetsCased rest then [Char.ofNat 0x3C2] else [Char.ofNat 0x3C3]
  else lowerChar c

theorem lowerAfter_cons (before : List Char) (c : Char) (rest : List Char) :
    lowerAfter before (c :: rest) = lowerAt before c rest ++ lowerAfter (c :: before) rest :=
  rfl

theorem lowerAt_of_isBlank {c : Char} (h : isBlank c = true) (before rest : List Char) :
    lowerAt before c rest = [c] := by
  have hsigma : c.toNat ≠ 0x3A3 := by
    intro heq
    have hcased := not_cased_of_isBlank h
    rw [inRanges, heq] at hcased
    revert hcased
    decide
  rw [lowerAt, if_neg hsigma, lowerChar_of_isBlank h]

theorem lowerAt_bare {c : Char} (h : isBlank c = false) (before rest : List Char) :
    lowerAt before c rest ≠ [] ∧ ∀ lowered ∈ lowerAt before c rest, isBlank lowered = false := by
  rw [lowerAt]
  split
  · split
    · refine ⟨List.cons_ne_nil _ _, ?_⟩
      intro lowered hmem
      rw [List.mem_singleton.mp hmem]
      decide
    · refine ⟨List.cons_ne_nil _ _, ?_⟩
      intro lowered hmem
      rw [List.mem_singleton.mp hmem]
      decide
  · exact ⟨lowerChar_ne_nil c, fun lowered hmem => isBlank_of_mem_lowerChar h hmem⟩

theorem meetsCased_append_of_isBlankRun (text : List Char) {blanks : List Char}
    (h : IsBlankRun blanks) : meetsCased (text ++ blanks) = meetsCased text := by
  unfold meetsCased
  rw [List.dropWhile_append]
  cases hrest : text.dropWhile (inRanges caseIgnorableRanges) with
  | cons c rest =>
      rfl
  | nil =>
      rw [List.isEmpty_nil, if_pos rfl]
      cases blanks with
      | nil =>
          rfl
      | cons c blanks =>
          have hc := h c List.mem_cons_self
          rw [List.dropWhile_cons_of_neg]
          · exact not_cased_of_isBlank hc
          · rw [not_caseIgnorable_of_isBlank hc]
            decide

theorem lowerAfter_append_left (before : List Char) {blanks : List Char} (h : IsBlankRun blanks)
    (text : List Char) : lowerAfter (before ++ blanks) text = lowerAfter before text := by
  induction text generalizing before with
  | nil =>
      rfl
  | cons c rest ih =>
      rw [lowerAfter_cons, lowerAfter_cons, ← List.cons_append, ih, lowerAt, lowerAt,
        meetsCased_append_of_isBlankRun before h]

theorem lowerAfter_blanks (before : List Char) {blanks : List Char} (h : IsBlankRun blanks)
    (text : List Char) :
    lowerAfter before (blanks ++ text) = blanks ++ lowerAfter (blanks.reverse ++ before) text := by
  induction blanks generalizing before with
  | nil =>
      rfl
  | cons c blanks ih =>
      have hblanks : IsBlankRun blanks := fun d hd => h d (List.mem_cons_of_mem c hd)
      rw [List.cons_append, lowerAfter_cons, lowerAt_of_isBlank (h c List.mem_cons_self),
        ih _ hblanks, List.reverse_cons, List.append_assoc]
      rfl

theorem lowerAfter_append_right (before text : List Char) {blanks : List Char}
    (h : IsBlankRun blanks) :
    lowerAfter before (text ++ blanks) = lowerAfter before text ++ blanks := by
  induction text generalizing before with
  | nil =>
      have hblanks := lowerAfter_blanks before h []
      rw [List.append_nil] at hblanks
      rw [List.nil_append, hblanks, lowerAfter, lowerAfter, List.append_nil, List.nil_append]
  | cons c rest ih =>
      rw [List.cons_append, lowerAfter_cons, lowerAfter_cons, ih, lowerAt, lowerAt,
        meetsCased_append_of_isBlankRun rest h, List.append_assoc]

theorem lower_append_of_isBlankRun {front back : List Char} (hfront : IsBlankRun front)
    (text : List Char) (hback : IsBlankRun back) :
    lower (front ++ text ++ back) = front ++ lower text ++ back := by
  have hreverse : IsBlankRun front.reverse := by
    intro c hc
    exact hfront c (List.mem_reverse.mp hc)
  have hbefore := lowerAfter_append_left [] hreverse text
  rw [lower, lowerAfter_append_right _ _ hback, lowerAfter_blanks _ hfront, List.append_nil]
  rw [List.nil_append] at hbefore
  rw [hbefore, lower]

theorem getLast?_lowerAfter (before front : List Char) {c : Char} (h : isBlank c = false) :
    ∃ last, (lowerAfter before (front ++ [c])).getLast? = some last ∧ isBlank last = false := by
  induction front generalizing before with
  | nil =>
      rcases lowerAt_bare h before [] with ⟨hne, hbare⟩
      refine ⟨_, ?_, hbare _ (List.getLast_mem hne)⟩
      rw [List.nil_append, lowerAfter_cons, lowerAfter, List.append_nil,
        List.getLast?_eq_some_getLast]
  | cons d front ih =>
      rcases ih (d :: before) with ⟨last, hlast, hbare⟩
      refine ⟨last, ?_, hbare⟩
      rw [List.cons_append, lowerAfter_cons, List.getLast?_append, hlast]
      rfl

theorem lower_hasBareEnds {text : List Char} (h : HasBareEnds text) : HasBareEnds (lower text) := by
  rcases List.eq_nil_or_concat text with rfl | ⟨front, final, hsplit⟩
  · exact h
  rw [List.concat_eq_append] at hsplit
  intro c hc
  rcases hc with hhead | hlast
  · cases text with
    | nil =>
        cases hhead
    | cons first rest =>
        rcases lowerAt_bare (h first (Or.inl rfl)) [] rest with ⟨hne, hbare⟩
        rw [lower, lowerAfter_cons, List.head?_append, List.head?_eq_some_head hne] at hhead
        cases hhead
        exact hbare _ (List.head_mem hne)
  · have hfinal : isBlank final = false := by
      apply h final
      rw [hsplit, List.getLast?_concat]
      exact Or.inr rfl
    rcases getLast?_lowerAfter [] front hfinal with ⟨last, hgetLast, hbare⟩
    rw [hsplit, lower, hgetLast] at hlast
    cases hlast
    exact hbare

end Text
end WebCompat
