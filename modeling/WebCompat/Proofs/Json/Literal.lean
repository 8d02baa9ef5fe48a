import Mathlib.Data.List.Basic
import Mathlib.Data.List.TakeWhile
import Mathlib.Data.Option.Basic
import WebCompat.Json.Printer
import WebCompat.Json.Reader

/-!
# Written strings and numbers

A quoted text is read back as it was, whatever follows it.  A number is read back
where a space, a comma or a closing bracket follows, or nothing at all.  The
digits of a natural number are such a number, and denote it.
-/

namespace WebCompat
namespace Json

/-!
## Ends of values
-/

def endsValue (c : Char) : Bool :=
  isSpace c || c == ',' || c == ']' || c == '\x7d'

/-- Whether a value is over before the given text. -/
def IsEnd (rest : List Char) : Prop :=
  ∀ c ∈ rest.head?, endsValue c = true

theorem eq_of_isSpace {c : Char} (h : isSpace c = true) :
    c = ' ' ∨ c = '\t' ∨ c = '\n' ∨ c = '\r' := by
  simpa [isSpace, or_assoc] using h

theorem endsValue_of_isSpace {c : Char} (h : isSpace c = true) : endsValue c = true := by
  rw [endsValue, h]
  rfl

theorem isEnd_cons {c : Char} {rest : List Char} (h : endsValue c = true) :
    IsEnd (c :: rest) := by
  intro first hfirst
  cases hfirst
  exact h

theorem IsEnd.head?_ne {rest : List Char} (h : IsEnd rest) {c : Char}
    (hc : endsValue c = false) : rest.head? ≠ some c := by
  intro hhead
  have hends := h c hhead
  rw [hc] at hends
  cases hends

theorem not_isDigit_of_endsValue {c : Char} (h : endsValue c = true) : c.isDigit = false := by
  simp only [endsValue, Bool.or_eq_true, beq_iff_eq] at h
  rcases h with ((hspace | rfl) | rfl) | rfl
  · rcases eq_of_isSpace hspace with rfl | rfl | rfl | rfl <;> decide
  · decide
  · decide
  · decide

theorem IsEnd.not_isDigit {rest : List Char} (h : IsEnd rest) :
    ∀ c ∈ rest.head?, c.isDigit = false := by
  intro c hc
  exact not_isDigit_of_endsValue (h c hc)

theorem head?_append_ne {c : Char} {text rest : List Char} (htext : text.head? ≠ some c)
    (hrest : rest.head? ≠ some c) : (text ++ rest).head? ≠ some c := by
  rw [List.head?_append]
  cases text with
  | nil =>
      exact hrest
  | cons first text =>
      exact htext

/-!
## Numbers
-/

section Rows

variable {p : Char → Bool} {rest : List Char}

theorem takeWhile_append_of_head (h : ∀ c ∈ rest.head?, p c = false) (text : List Char) :
    (text ++ rest).takeWhile p = text.takeWhile p := by
  induction text with
  | nil =>
      cases rest with
      | nil =>
          rfl
      | cons c rest =>
          simp [h c rfl]
  | cons c text ih =>
      rw [List.cons_append, List.takeWhile_cons, List.takeWhile_cons, ih]

theorem dropWhile_append_of_head (h : ∀ c ∈ rest.head?, p c = false) (text : List Char) :
    (text ++ rest).dropWhile p = text.dropWhile p ++ rest := by
  induction text with
  | nil =>
      cases rest with
      | nil =>
          rfl
      | cons c rest =>
          simp [h c rfl]
  | cons c text ih =>
      rw [List.cons_append, List.dropWhile_cons, List.dropWhile_cons, ih]
      split <;> rfl

end Rows

/-- Whether a reader finds the same in front of every end of a value. -/
def StopsAtEnd {α : Type} (read : Reader α) : Prop :=
  ∀ {text left rest : List Char} {found : α}, read text = some (found, left) → IsEnd rest →
    read (text ++ rest) = some (found, left ++ rest)

theorem someDigits_stopsAtEnd : StopsAtEnd someDigits := by
  intro text left rest digits h hrest
  unfold someDigits at h ⊢
  rw [takeWhile_append_of_head hrest.not_isDigit, dropWhile_append_of_head hrest.not_isDigit]
  split at h
  · cases h
  · cases h
    rfl

theorem wholePart_of_head? {text : List Char} (h : text.head? ≠ some '0') :
    wholePart text = someDigits text := by
  cases text with
  | nil =>
      rfl
  | cons c text =>
      rw [wholePart]
      rintro _ ⟨⟩
      exact h rfl

theorem fractionPart_of_head? {text : List Char} (h : text.head? ≠ some '.') :
    fractionPart text = some ([], text) := by
  cases text with
  | nil =>
      rfl
  | cons c text =>
      rw [fractionPart]
      rintro _ ⟨⟩
      exact h rfl

theorem signPart_of_head? {text : List Char} (hplus : text.head? ≠ some '+')
    (hminus : text.head? ≠ some '-') : signPart text = some ([], text) := by
  cases text with
  | nil =>
      rfl
  | cons c text =>
      rw [signPart]
      · rintro _ ⟨⟩
        exact hplus rfl
      · rintro _ ⟨⟩
        exact hminus rfl

theorem exponentPart_of_head? {text : List Char} (hlower : text.head? ≠ some 'e')
    (hupper : text.head? ≠ some 'E') : exponentPart text = some ([], text) := by
  cases text with
  | nil =>
      rfl
  | cons c text =>
      rw [exponentPart, if_neg]
      rintro (rfl | rfl)
      · exact hlower rfl
      · exact hupper rfl

theorem numberLiteral_of_head? {text : List Char} (h : text.head? ≠ some '-') :
    numberLiteral text = unsignedNumber text := by
  cases text with
  | nil =>
      rfl
  | cons c text =>
      rw [numberLiteral]
      rintro _ ⟨⟩
      exact h rfl

theorem wholePart_stopsAtEnd : StopsAtEnd wholePart := by
  intro text left rest digits h hrest
  by_cases hzero : text.head? = some '0'
  · rcases List.head?_eq_some_iff.mp hzero with ⟨later, rfl⟩
    cases h
    rfl
  · have hends : rest.head? ≠ some '0' :=
      hrest.head?_ne (by decide)
    rw [wholePart_of_head? hzero] at h
    rw [wholePart_of_head? (head?_append_ne hzero hends)]
    exact someDigits_stopsAtEnd h hrest

theorem fractionPart_stopsAtEnd : StopsAtEnd fractionPart := by
  intro text left rest digits h hrest
  by_cases hpoint : text.head? = some '.'
  · rcases List.head?_eq_some_iff.mp hpoint with ⟨later, rfl⟩
    rcases Option.map_eq_some_iff.mp h with ⟨⟨row, remaining⟩, hrow, hpair⟩
    cases hpair
    rw [List.cons_append, fractionPart, someDigits_stopsAtEnd hrow hrest]
    rfl
  · have hends : rest.head? ≠ some '.' :=
      hrest.head?_ne (by decide)
    rw [fractionPart_of_head? hpoint] at h
    rw [fractionPart_of_head? (head?_append_ne hpoint hends)]
    cases h
    rfl

theorem signPart_stopsAtEnd : StopsAtEnd signPart := by
  intro text left rest sign h hrest
  by_cases hplus : text.head? = some '+'
  · rcases List.head?_eq_some_iff.mp hplus with ⟨later, rfl⟩
    cases h
    rfl
  · by_cases hminus : text.head? = some '-'
    · rcases List.head?_eq_some_iff.mp hminus with ⟨later, rfl⟩
      cases h
      rfl
    · have hends : rest.head? ≠ some '+' ∧ rest.head? ≠ some '-' :=
        ⟨hrest.head?_ne (by decide), hrest.head?_ne (by decide)⟩
      rw [signPart_of_head? hplus hminus] at h
      rw [signPart_of_head? (head?_append_ne hplus hends.left)
        (head?_append_ne hminus hends.right)]
      cases h
      rfl

theorem exponentPart_stopsAtEnd : StopsAtEnd exponentPart := by
  intro text left rest exponent h hrest
  cases text with
  | nil =>
      cases h
      exact exponentPart_of_head? (hrest.head?_ne (by decide)) (hrest.head?_ne (by decide))
  | cons c text =>
      rw [exponentPart] at h
      rw [List.cons_append, exponentPart]
      by_cases hmark : c = 'e' ∨ c = 'E'
      · rw [if_pos hmark] at h ⊢
        rcases Option.bind_eq_some_iff.mp h with ⟨⟨sign, later⟩, hsign, hlater⟩
        rcases Option.bind_eq_some_iff.mp hlater with ⟨⟨digits, remaining⟩, hdigits, hpair⟩
        cases hpair
        exact Option.bind_eq_some_iff.mpr ⟨_, signPart_stopsAtEnd hsign hrest,
          Option.bind_eq_some_iff.mpr ⟨_, someDigits_stopsAtEnd hdigits hrest, rfl⟩⟩
      · rw [if_neg hmark] at h ⊢
        cases h
        rfl

theorem unsignedNumber_stopsAtEnd : StopsAtEnd unsignedNumber := by
  intro text left rest literal h hrest
  rcases Option.bind_eq_some_iff.mp h with ⟨⟨whole, first⟩, hwhole, hlater⟩
  rcases Option.bind_eq_some_iff.mp hlater with ⟨⟨fraction, second⟩, hfraction, hlast⟩
  rcases Option.bind_eq_some_iff.mp hlast with ⟨⟨exponent, third⟩, hexponent, hpair⟩
  cases hpair
  exact Option.bind_eq_some_iff.mpr ⟨_, wholePart_stopsAtEnd hwhole hrest,
    Option.bind_eq_some_iff.mpr ⟨_, fractionPart_stopsAtEnd hfraction hrest,
      Option.bind_eq_some_iff.mpr ⟨_, exponentPart_stopsAtEnd hexponent hrest, rfl⟩⟩⟩

theorem numberLiteral_stopsAtEnd : StopsAtEnd numberLiteral := by
  intro text left rest literal h hrest
  by_cases hminus : text.head? = some '-'
  · rcases List.head?_eq_some_iff.mp hminus with ⟨later, rfl⟩
    rcases Option.map_eq_some_iff.mp h with ⟨⟨digits, remaining⟩, hdigits, hpair⟩
    cases hpair
    rw [List.cons_append, numberLiteral, unsignedNumber_stopsAtEnd hdigits hrest]
    rfl
  · have hends : rest.head? ≠ some '-' :=
      hrest.head?_ne (by decide)
    rw [numberLiteral_of_head? hminus] at h
    rw [numberLiteral_of_head? (head?_append_ne hminus hends)]
    exact unsignedNumber_stopsAtEnd h hrest

def OpensNumber (c : Char) : Prop :=
  c = '-' ∨ c.isDigit = true

instance (c : Char) : Decidable (OpensNumber c) :=
  inferInstanceAs (Decidable (_ ∨ _))

theorem opensNumber_of_numberLiteral {text literal left : List Char}
    (h : numberLiteral text = some (literal, left)) :
    ∃ c rest, text = c :: rest ∧ OpensNumber c := by
  cases text with
  | nil =>
      cases h
  | cons c rest =>
      refine ⟨c, rest, rfl, ?_⟩
      by_cases hminus : c = '-'
      · exact .inl hminus
      · right
        have hhead : (c :: rest).head? ≠ some '-' := fun heq => hminus (Option.some.inj heq)
        rw [numberLiteral_of_head? hhead] at h
        rcases Option.bind_eq_some_iff.mp h with ⟨⟨whole, later⟩, hwhole, _⟩
        by_cases hzero : c = '0'
        · rw [hzero]
          decide
        · have hfirst : (c :: rest).head? ≠ some '0' := fun heq => hzero (Option.some.inj heq)
          rw [wholePart_of_head? hfirst, someDigits, List.takeWhile_cons] at hwhole
          cases hdigit : c.isDigit with
          | true =>
              rfl
          | false =>
              rw [hdigit] at hwhole
              cases hwhole

/-!
## Natural numbers
-/

theorem toList_toString (n : Nat) : (toString n).toList = Nat.toDigits 10 n := by
  rw [Nat.toString_eq_ofList_toDigits, String.toList_ofList]

theorem all_isDigit_toDigits (n : Nat) : ∀ c ∈ Nat.toDigits 10 n, c.isDigit = true := by
  intro c hc
  exact Nat.isDigit_of_mem_toDigits (by decide) (by decide) hc

theorem digitChar_ne_zero : ∀ n < 10, 0 < n → n.digitChar ≠ '0' := by
  decide

theorem head?_toDigits_ne_zero {n : Nat} (h : 0 < n) : (Nat.toDigits 10 n).head? ≠ some '0' := by
  induction n using Nat.strongRecOn with
  | _ n ih =>
      by_cases hsmall : n < 10
      · rw [Nat.toDigits_of_lt_base hsmall]
        intro hhead
        exact digitChar_ne_zero n hsmall h (Option.some.inj hhead)
      · have hlarge : 10 ≤ n := by
          omega
        rw [Nat.toDigits_of_base_le (by decide) hlarge,
          List.head?_append_of_ne_nil _ Nat.toDigits_ne_nil]
        exact ih (n / 10) (by omega) (by omega)

theorem someDigits_toDigits (n : Nat) :
    someDigits (Nat.toDigits 10 n) = some (Nat.toDigits 10 n, []) := by
  have htake := List.takeWhile_eq_self_iff.mpr (all_isDigit_toDigits n)
  have hdrop := List.dropWhile_eq_nil_iff.mpr (all_isDigit_toDigits n)
  rw [someDigits, htake, hdrop]
  split
  · rename_i hnil
    exact absurd hnil Nat.toDigits_ne_nil
  · rfl

theorem wholePart_toDigits (n : Nat) :
    wholePart (Nat.toDigits 10 n) = some (Nat.toDigits 10 n, []) := by
  cases n with
  | zero =>
      rfl
  | succ n =>
      rw [wholePart_of_head? (head?_toDigits_ne_zero n.succ_pos)]
      exact someDigits_toDigits (n + 1)

theorem numberLiteral_toString (n : Nat) :
    numberLiteral (toString n).toList = some ((toString n).toList, []) := by
  have hminus : (Nat.toDigits 10 n).head? ≠ some '-' := by
    intro hhead
    exact absurd (all_isDigit_toDigits n '-' (List.mem_of_mem_head? hhead)) (by decide)
  rw [toList_toString, numberLiteral_of_head? hminus, unsignedNumber, wholePart_toDigits]
  change some (Nat.toDigits 10 n ++ [] ++ [], ([] : List Char)) = _
  rw [List.append_nil, List.append_nil]

theorem naturalBelow?_toString {bound n : Nat} (h : n < bound) :
    naturalBelow? bound (toString n) = some n := by
  have hdigits : (Nat.toDigits 10 n).all Char.isDigit = true :=
    List.all_eq_true.mpr (all_isDigit_toDigits n)
  have hempty : (Nat.toDigits 10 n).isEmpty = false :=
    List.isEmpty_eq_false_iff.mpr Nat.toDigits_ne_nil
  have hvalue : ofDigits (Nat.toDigits 10 n) = n := by
    rw [ofDigits, ← Nat.ofDigitChars_eq_foldl, Nat.ofDigitChars_ten_toDigits]
  simp [naturalBelow?, hdigits, hempty, hvalue, h]

/-!
## Strings
-/

theorem assemble?_unit {code : Nat} (h : code < 0xD800) (others : List Piece) :
    assemble? (.unit code :: others) = (assemble? others).map (Char.ofNat code :: ·) := by
  have hhigh : isHighSurrogate code = false := by
    rw [isHighSurrogate, Bool.and_eq_false_iff, decide_eq_false_iff_not]
    omega
  have hlow : isLowSurrogate code = false := by
    rw [isLowSurrogate, Bool.and_eq_false_iff, decide_eq_false_iff_not]
    omega
  cases others with
  | nil =>
      simp [assemble?, hhigh, hlow]
  | cons piece others =>
      cases piece <;> simp [assemble?, hhigh, hlow]

theorem hexUnit?_control :
    ∀ code < 0x20, hexUnit? '0' '0' (hexDigit (code / 16)) (hexDigit (code % 16)) = some code := by
  decide

/-- Whether a text is read as one piece of a string, which stands for the given character. -/
def Denotes (text : List Char) (c : Char) : Prop :=
  ∃ piece,
    (∀ rest, pieces (text ++ rest) =
      (pieces rest).map fun (others, left) => (piece :: others, left)) ∧
    ∀ others, assemble? (piece :: others) = (assemble? others).map (c :: ·)

theorem denotes_of_escaped? {letter c : Char} (h : escaped? letter = some c)
    (hletter : letter ≠ 'u') : Denotes ['\\', letter] c := by
  refine ⟨.char c, ?_, fun _ => rfl⟩
  intro rest
  rw [List.cons_append, List.cons_append, List.nil_append, pieces, h]
  · cases pieces rest <;> rfl
  · intro _ _ _ _ _ hu
    exact absurd hu hletter

theorem denotes_of_control {c : Char} (h : c.toNat < 0x20) :
    Denotes ['\\', 'u', '0', '0', hexDigit (c.toNat / 16), hexDigit (c.toNat % 16)] c := by
  refine ⟨.unit c.toNat, ?_, ?_⟩
  · intro rest
    change pieces ('\\' :: 'u' :: '0' :: '0' :: hexDigit (c.toNat / 16) ::
      hexDigit (c.toNat % 16) :: rest) = _
    rw [pieces, hexUnit?_control c.toNat h]
    cases pieces rest <;> rfl
  · intro others
    rw [assemble?_unit (by omega), Char.ofNat_toNat]

theorem denotes_self {c : Char} (hquote : c ≠ '"') (hslash : c ≠ '\\')
    (hcontrol : ¬c.toNat < 0x20) : Denotes [c] c := by
  have hguard : 0x20 ≤ c.toNat ∧ c ≠ '\\' := ⟨by omega, hslash⟩
  refine ⟨.char c, ?_, fun _ => rfl⟩
  intro rest
  rw [List.cons_append, List.nil_append, pieces]
  · rw [guard, if_pos hguard]
    cases pieces rest <;> rfl
  · exact hquote
  · intro _ _ _ _ _ heq
    exact absurd heq hslash
  · intro _ _ heq
    exact absurd heq hslash

theorem escape_denotes (c : Char) : Denotes (escape c) c := by
  unfold escape
  split_ifs with hquote hslash hline hreturn htab hback hfeed hcontrol
  · exact denotes_of_escaped? (by rw [hquote]; rfl) (by decide)
  · exact denotes_of_escaped? (by rw [hslash]; rfl) (by decide)
  · exact denotes_of_escaped? (by rw [hline]; rfl) (by decide)
  · exact denotes_of_escaped? (by rw [hreturn]; rfl) (by decide)
  · exact denotes_of_escaped? (by rw [htab]; rfl) (by decide)
  · exact denotes_of_escaped? (by rw [hback]; rfl) (by decide)
  · exact denotes_of_escaped? (by rw [hfeed]; rfl) (by decide)
  · exact denotes_of_control hcontrol
  · exact denotes_self hquote hslash hcontrol

theorem exists_pieces_of_escapes (text rest : List Char) :
    ∃ parts, pieces (text.flatMap escape ++ '"' :: rest) = some (parts, rest) ∧
      assemble? parts = some text := by
  induction text with
  | nil =>
      exact ⟨[], rfl, rfl⟩
  | cons c text ih =>
      rcases ih with ⟨parts, hparts, htext⟩
      rcases escape_denotes c with ⟨piece, hpiece, hchar⟩
      refine ⟨piece :: parts, ?_, ?_⟩
      · rw [List.flatMap_cons, List.append_assoc, hpiece, hparts]
        rfl
      · rw [hchar, htext]
        rfl

theorem stringTail_escapes (text : String) (rest : List Char) :
    stringTail (text.toList.flatMap escape ++ '"' :: rest) = some (some text, rest) := by
  rcases exists_pieces_of_escapes text.toList rest with ⟨parts, hparts, htext⟩
  rw [stringTail, hparts]
  change some ((assemble? parts).map String.ofList, rest) = _
  rw [htext, Option.map_some, String.ofList_toList]

end Json
end WebCompat
