import Mathlib.Data.List.Sort
import WebCompat.Proofs.Scan.MarkupLines

/-!
# Exactly the scripts of a document

The search for scripts walks through a document and goes on behind each script
that it finds.  Here the scripts are described without the search: by the
spelling of their tags, by the closing tag that ends them, and by the opening
tags that are left over between them.  A document has one list of scripts in
this sense, and the search finds it.
-/

namespace WebCompat
namespace Markup

/-!
# Spelling of tags

Tags are compared by simple case folding.  Besides the capital letters, two
characters fold to an ASCII letter: the long s and the sign of the kelvin.
-/

/-- The simple case folding of a character, as far as it ends in an ASCII letter. -/
def fold (c : Char) : Char :=
  if c = Char.ofNat 0x17F then 's'
  else if c = Char.ofNat 0x212A then 'k'
  else c.toLower

def IsOpening (tag : List Char) : Prop :=
  ∃ word attributes, tag = word ++ (attributes ++ ['>']) ∧
    word.map fold = openingWord ∧ '>' ∉ attributes

def IsClosing (tag : List Char) : Prop :=
  tag.map fold = closingWord

def HasClosing (text : List Char) : Prop :=
  ∃ front closing rest, text = front ++ (closing ++ rest) ∧ IsClosing closing

/-- Whether a text begins with an opening tag that a closing tag follows somewhere. -/
def BeginsScript (text : List Char) : Prop :=
  ∃ tag inside, text = tag ++ inside ∧ IsOpening tag ∧ HasClosing inside

theorem isLetter_iff_fold_eq {letter : Char} (hletter : letter ∈ closingWord) (c : Char) :
    isLetter letter c = true ↔ fold c = letter := by
  have hnotLong : letter ≠ Char.ofNat 0x17F := ne_of_mem_of_not_mem hletter (by decide)
  have hnotKelvin : letter ≠ Char.ofNat 0x212A := ne_of_mem_of_not_mem hletter (by decide)
  have hnotK : letter ≠ 'k' := ne_of_mem_of_not_mem hletter (by decide)
  unfold isLetter fold
  by_cases hlong : c = Char.ofNat 0x17F
  · have hlower : ((Char.ofNat 0x17F).toLower == letter) = false := by
      simpa using Ne.symm hnotLong
    rw [hlong, hlower, if_pos rfl, Bool.false_or, beq_self_eq_true, Bool.and_true, beq_iff_eq]
    exact eq_comm
  · rw [if_neg hlong]
    by_cases hkelvin : c = Char.ofNat 0x212A
    · have hlower : ((Char.ofNat 0x212A).toLower == letter) = false := by
        simpa using Ne.symm hnotKelvin
      rw [hkelvin, hlower, if_pos rfl]
      simp [Ne.symm hnotK]
    · rw [if_neg hkelvin]
      simp [hlong]

theorem afterWord?_eq_nil_iff {word : List Char} (hword : word ⊆ closingWord)
    (front : List Char) : afterWord? word front = some [] ↔ front.map fold = word := by
  induction word generalizing front with
  | nil =>
      simp [afterWord?]
  | cons letter word ih =>
      cases front with
      | nil =>
          simp [afterWord?]
      | cons c front =>
          have hletter := isLetter_iff_fold_eq (hword List.mem_cons_self) c
          have hrest := ih (fun other hother => hword (List.mem_cons_of_mem _ hother)) front
          rw [afterWord?, List.map_cons, List.cons.injEq, ← hletter, ← hrest]
          by_cases hfold : isLetter letter c = true
          · simp [hfold]
          · simp [hfold]

theorem isOpening_iff {tag : List Char} :
    IsOpening tag ↔ ∃ word attributes, tag = word ++ (attributes ++ ['>']) ∧
      afterWord? openingWord word = some [] ∧ '>' ∉ attributes := by
  unfold IsOpening
  have hletters : openingWord ⊆ closingWord := by
    decide
  simp only [afterWord?_eq_nil_iff hletters]

theorem isClosing_iff {tag : List Char} :
    IsClosing tag ↔ afterWord? closingWord tag = some [] :=
  (afterWord?_eq_nil_iff (List.Subset.refl closingWord) tag).symm

theorem IsClosing.length {tag : List Char} (h : IsClosing tag) :
    tag.length = closingWord.length := by
  rw [← h, List.length_map]

theorem IsOpening.ne_nil {tag : List Char} (h : IsOpening tag) : tag ≠ [] := by
  rcases h with ⟨word, attributes, htag, _, _⟩
  rw [htag]
  simp

/-!
# Reading along the spelling

Each reader takes off a text what the spelling describes, whatever follows.
-/

theorem afterWord?_append {word front : List Char} (h : afterWord? word front = some [])
    (rest : List Char) : afterWord? word (front ++ rest) = some rest := by
  induction word generalizing front with
  | nil =>
      cases h
      rfl
  | cons letter word ih =>
      cases front with
      | nil =>
          cases h
      | cons c front =>
          rw [afterWord?] at h
          rw [List.cons_append, afterWord?]
          split at h
          · rename_i hletter
            rw [if_pos hletter]
            exact ih h
          · cases h

theorem afterTag?_append {attributes : List Char} (h : '>' ∉ attributes) (rest : List Char) :
    afterTag? (attributes ++ '>' :: rest) = some rest := by
  induction attributes with
  | nil =>
      simp [afterTag?]
  | cons c attributes ih =>
      rw [List.mem_cons, not_or] at h
      rw [List.cons_append, afterTag?, if_neg (Ne.symm h.left)]
      exact ih h.right

def inside? (text : List Char) : Option (List Char) :=
  (afterWord? openingWord text).bind afterTag?

theorem inside?_append {tag : List Char} (h : IsOpening tag) (inside : List Char) :
    inside? (tag ++ inside) = some inside := by
  rcases isOpening_iff.mp h with ⟨word, attributes, htag, hword, hattributes⟩
  have hsplit : tag ++ inside = word ++ (attributes ++ '>' :: inside) := by
    rw [htag]
    simp
  rw [hsplit, inside?, afterWord?_append hword, Option.bind_some]
  exact afterTag?_append hattributes inside

theorem scriptAt?_append {tag : List Char} (h : IsOpening tag) (inside : List Char) :
    scriptAt? (tag ++ inside) = untilClosing? inside := by
  have hinside := inside?_append h inside
  rcases Option.bind_eq_some_iff.mp hinside with ⟨attributes, hword, htag⟩
  rw [scriptAt?, hword, Option.bind_eq_bind, Option.bind_some, htag]
  rfl

theorem exists_untilClosing?_append {closing : List Char} (h : IsClosing closing)
    (front rest : List Char) :
    ∃ content behind, untilClosing? (front ++ (closing ++ rest)) = some (content, behind) ∧
      content.length ≤ front.length := by
  induction front with
  | nil =>
      cases closing with
      | nil =>
          cases h
      | cons c closing =>
          have hafter := afterWord?_append (isClosing_iff.mp h) rest
          rw [List.cons_append] at hafter
          exists [], rest
          constructor
          · rw [List.nil_append, List.cons_append, untilClosing?, hafter]
          · exact Nat.le_refl 0
  | cons c front ih =>
      rcases ih with ⟨content, behind, huntil, hlength⟩
      rw [List.cons_append, untilClosing?]
      cases afterWord? closingWord (c :: (front ++ (closing ++ rest))) with
      | some behind =>
          exact ⟨[], behind, rfl, Nat.zero_le _⟩
      | none =>
          rw [huntil]
          exact ⟨c :: content, behind, rfl, Nat.succ_le_succ hlength⟩

theorem length_le_of_untilClosing? {text content behind : List Char}
    (h : untilClosing? text = some (content, behind)) {front closing rest : List Char}
    (htext : text = front ++ (closing ++ rest)) (hclosing : IsClosing closing) :
    content.length ≤ front.length := by
  rcases exists_untilClosing?_append hclosing front rest with ⟨_, _, huntil, hlength⟩
  rw [← htext, h] at huntil
  cases huntil
  exact hlength

/-!
# One script

A script is fixed by the place where its opening tag begins: the tag ends at its
first `>`, and the content at the first closing tag behind it.
-/

namespace Site

/-- Whether a site is a script: two tags, and no closing tag before the last one. -/
structure IsScript (site : Site) : Prop where
  opening : IsOpening site.tag
  closing : IsClosing site.closing
  /-- No closing tag behind the opening tag begins before the content ends. -/
  first : ∀ front other rest,
    site.content ++ (site.closing ++ site.behind) = front ++ (other ++ rest) →
      IsClosing other → site.content.length ≤ front.length
  content_free : ¬HasClosing site.content

theorem wellTagged_iff {site : Site} :
    site.WellTagged ↔ IsOpening site.tag ∧ IsClosing site.closing := by
  rw [isOpening_iff, isClosing_iff]
  rfl

theorem IsScript.beginsScript {site : Site} (h : site.IsScript) :
    BeginsScript (site.tag ++ (site.content ++ (site.closing ++ site.behind))) :=
  ⟨site.tag, _, rfl, h.opening, site.content, site.closing, site.behind, rfl, h.closing⟩

theorem IsScript.length_le {first second : Site} (hfirst : first.IsScript)
    (hsecond : second.IsScript)
    (h : first.content ++ (first.closing ++ first.behind) =
      second.content ++ (second.closing ++ second.behind)) :
    first.content.length ≤ second.content.length :=
  hfirst.first _ _ _ h hsecond.closing

theorem IsScript.unique {first second : Site} (hfirst : first.IsScript)
    (hsecond : second.IsScript) (hbefore : first.before = second.before)
    (hdocument : first.document = second.document) : first = second := by
  unfold document at hdocument
  rw [hbefore] at hdocument
  have htext := List.append_cancel_left hdocument
  have hinside : first.content ++ (first.closing ++ first.behind) =
      second.content ++ (second.closing ++ second.behind) := by
    have hread := inside?_append hfirst.opening
      (first.content ++ (first.closing ++ first.behind))
    rw [htext, inside?_append hsecond.opening] at hread
    exact (Option.some.inj hread).symm
  have htag : first.tag = second.tag := by
    rw [hinside] at htext
    exact List.append_cancel_right htext
  have hlength : first.content.length = second.content.length :=
    Nat.le_antisymm (hfirst.length_le hsecond hinside) (hsecond.length_le hfirst hinside.symm)
  have hcontent := List.append_inj hinside hlength
  have hclosing := List.append_inj hcontent.right
    (hfirst.closing.length.trans hsecond.closing.length.symm)
  cases first
  cases second
  simp_all

end Site

theorem not_hasClosing_of_first {content behind : List Char}
    (h : ∀ front other rest, content ++ behind = front ++ (other ++ rest) →
      IsClosing other → content.length ≤ front.length) : ¬HasClosing content := by
  intro hclosing
  rcases hclosing with ⟨front, other, rest, hcontent, hother⟩
  have hle := h front other (rest ++ behind) (by rw [hcontent]; simp) hother
  have hlength : other.length = 9 := hother.length
  rw [hcontent, List.length_append, List.length_append] at hle
  omega

theorem isScript_of_siteAt? {before text : List Char} {site : Site}
    (h : siteAt? before text = some site) : site.IsScript := by
  rcases siteAt?_eq_some h with ⟨hbefore, hdocument, htagged⟩
  rcases Site.wellTagged_iff.mp htagged with ⟨hopening, hclosing⟩
  have htext : text = site.tag ++ (site.content ++ (site.closing ++ site.behind)) := by
    rw [Site.document, hbefore] at hdocument
    exact (List.append_cancel_left hdocument).symm
  have huntil : untilClosing? (site.content ++ (site.closing ++ site.behind)) =
      some (site.content, site.behind) := by
    have hscript := map_siteAt? before text
    rw [h, htext, scriptAt?_append hopening] at hscript
    exact hscript.symm
  have hfirst : ∀ front other rest,
      site.content ++ (site.closing ++ site.behind) = front ++ (other ++ rest) →
        IsClosing other → site.content.length ≤ front.length := by
    intro front other rest hsplit hother
    exact length_le_of_untilClosing? huntil hsplit hother
  exact ⟨hopening, hclosing, hfirst, not_hasClosing_of_first hfirst⟩

theorem exists_siteAt?_of_beginsScript {text : List Char} (h : BeginsScript text)
    (before : List Char) : ∃ site, siteAt? before text = some site := by
  rcases h with ⟨tag, inside, htext, hopening, front, closing, rest, hinside, hclosing⟩
  rcases exists_untilClosing?_append hclosing front rest with ⟨content, behind, huntil, _⟩
  have hscript := map_siteAt? before text
  rw [htext, scriptAt?_append hopening, hinside, huntil, ← hinside, ← htext] at hscript
  rcases Option.map_eq_some_iff.mp hscript with ⟨site, hsite, _⟩
  exact ⟨site, hsite⟩

/-!
# All scripts

A place is covered by a script when it lies between the two ends of the script.
Between the scripts of a document no further script begins.
-/

namespace Site

def stop (site : Site) : Nat :=
  (site.before ++ (site.tag ++ (site.content ++ site.closing))).length

def Covers (site : Site) (offset : Nat) : Prop :=
  site.before.length ≤ offset ∧ offset < site.stop

theorem Precedes.stop_le {first second : Site} (h : first.Precedes second) :
    first.stop ≤ second.before.length := by
  rcases h with ⟨between, hbetween⟩
  rw [stop, hbetween]
  simp only [List.length_append]
  omega

theorem IsScript.lt_stop {site : Site} (h : site.IsScript) : site.before.length < site.stop := by
  have htag := List.length_pos_iff.mpr h.opening.ne_nil
  rw [stop, List.length_append, List.length_append]
  omega

end Site

/--
Scripts of a document, one behind the other, such that every opening tag with a
closing tag behind it begins in one of them.
-/
structure AreScripts (document : List Char) (scripts : List Site) : Prop where
  ordered : scripts.Pairwise Site.Precedes
  parts : ∀ site ∈ scripts, site.document = document ∧ site.IsScript
  complete : ∀ offset, BeginsScript (document.drop offset) →
    ∃ site ∈ scripts, site.Covers offset

theorem isScript_of_mem_sitesFrom {before text : List Char} {skipped : Nat} {site : Site}
    (h : site ∈ sitesFrom before skipped text) : site.IsScript := by
  induction text generalizing before skipped with
  | nil =>
      cases h
  | cons c rest ih =>
      rw [sitesFrom] at h
      split at h
      · exact ih h
      · split at h
        · rename_i found hfound
          cases List.mem_cons.mp h with
          | inl heq =>
              rw [heq]
              exact isScript_of_siteAt? hfound
          | inr hrest =>
              exact ih hrest
        · exact ih h

theorem not_beginsScript_nil : ¬BeginsScript [] := by
  intro h
  rcases h with ⟨tag, inside, htext, hopening, _⟩
  exact hopening.ne_nil (List.append_eq_nil_iff.mp htext.symm).left

theorem exists_covers_of_beginsScript {back : List Char} (hbegins : BeginsScript back)
    (before front : List Char) (skipped : Nat) (hskipped : skipped ≤ front.length) :
    ∃ site ∈ sitesFrom before skipped (front ++ back),
      site.Covers (before.length + front.length) := by
  induction front generalizing before skipped with
  | nil =>
      cases back with
      | nil =>
          exact absurd hbegins not_beginsScript_nil
      | cons c rest =>
          rcases exists_siteAt?_of_beginsScript hbegins before with ⟨site, hsite⟩
          have hnone : ¬0 < skipped := Nat.not_lt.mpr hskipped
          rw [List.nil_append, sitesFrom, if_neg hnone, hsite]
          exists site
          constructor
          · exact List.mem_cons_self
          · rw [Site.Covers, ← (siteAt?_eq_some hsite).left]
            exact ⟨Nat.le_refl _, (isScript_of_siteAt? hsite).lt_stop⟩
  | cons c front ih =>
      have hplace : before.length + (c :: front).length =
          (before ++ [c]).length + front.length := by
        simp only [List.length_append, List.length_cons, List.length_nil]
        omega
      rw [hplace, List.cons_append, sitesFrom]
      rw [List.length_cons] at hskipped
      by_cases hsome : 0 < skipped
      · rw [if_pos hsome]
        exact ih _ _ (by omega)
      · rw [if_neg hsome]
        cases hsite : siteAt? before (c :: (front ++ back)) with
        | none =>
            exact ih _ 0 (Nat.zero_le _)
        | some site =>
            rcases siteAt?_eq_some hsite with ⟨hbefore, hdocument, _⟩
            have hlength := congrArg List.length hdocument
            have hstop : site.stop + site.behind.length =
                before.length + (front ++ back).length + 1 := by
              rw [Site.stop]
              simp only [Site.document, List.length_append, List.length_cons] at hlength ⊢
              omega
            by_cases hcovers : (before ++ [c]).length + front.length < site.stop
            · exists site
              constructor
              · exact List.mem_cons_self
              · rw [Site.Covers, hbefore, List.length_append]
                rw [List.length_append] at hcovers
                exact ⟨by omega, hcovers⟩
            · -- The place lies behind the script, where the search goes on.
              rw [List.length_append, List.length_singleton] at hcovers
              have hskips : (front ++ back).length - site.behind.length ≤ front.length := by
                omega
              rcases ih (before ++ [c]) _ hskips with ⟨other, hother, hcovered⟩
              exact ⟨other, List.mem_cons_of_mem _ hother, hcovered⟩

theorem sites_areScripts (document : List Char) : AreScripts document (sites document) := by
  constructor
  · exact sites_ordered document
  · intro site hsite
    exact ⟨(mem_sites hsite).left, isScript_of_mem_sitesFrom hsite⟩
  · intro offset hbegins
    have hlt : offset < document.length := by
      by_contra hge
      rw [List.drop_eq_nil_of_le (Nat.not_lt.mp hge)] at hbegins
      exact not_beginsScript_nil hbegins
    have hfound := exists_covers_of_beginsScript hbegins [] (document.take offset) 0
      (Nat.zero_le _)
    rw [List.take_append_drop, List.length_take_of_le (Nat.le_of_lt hlt), List.length_nil,
      Nat.zero_add] at hfound
    exact hfound

/-!
# No other list of scripts

Two lists of scripts agree from the left on: a script of one list begins where
some script of the other list covers its place, and an earlier one would overlap.
-/

namespace AreScripts

variable {document : List Char} {scripts others : List Site}

theorem beginsScript (h : AreScripts document scripts) {site : Site} (hsite : site ∈ scripts) :
    BeginsScript (document.drop site.before.length) := by
  rcases h.parts site hsite with ⟨hdocument, hscript⟩
  rw [← hdocument, Site.document, List.drop_left]
  exact hscript.beginsScript

theorem separated (h : AreScripts document scripts) {first second : Site}
    (hfirst : first ∈ scripts) (hsecond : second ∈ scripts)
    (hlt : first.before.length < second.before.length) :
    first.stop ≤ second.before.length := by
  rcases List.mem_iff_append.mp hfirst with ⟨front, back, hscripts⟩
  have hordered := h.ordered
  rw [hscripts, List.pairwise_append, List.pairwise_cons] at hordered
  rw [hscripts, List.mem_append, List.mem_cons] at hsecond
  rcases hsecond with hfront | heq | hback
  · have hstop := (hordered.right.right second hfront first List.mem_cons_self).stop_le
    have hpos := (h.parts second (by rw [hscripts]; simp [hfront])).right.lt_stop
    omega
  · rw [heq] at hlt
    omega
  · exact (hordered.right.left.left second hback).stop_le

theorem mem_of_mem (hscripts : AreScripts document scripts) (hothers : AreScripts document others)
    {site : Site} (hsite : site ∈ scripts) : site ∈ others := by
  -- By the place where the site begins; the two lists change sides in the induction.
  induction hplace : site.before.length using Nat.strong_induction_on
    generalizing site scripts others with
  | h place ih =>
      have hbegins := hscripts.beginsScript hsite
      rcases hothers.complete _ hbegins with ⟨other, hother, hle, hlt⟩
      rcases Nat.lt_or_eq_of_le hle with hearlier | hsame
      · have hmem := ih other.before.length (by omega) hothers hscripts hother rfl
        have hstop := hscripts.separated hmem hsite hearlier
        omega
      · rcases hscripts.parts site hsite with ⟨hdocument, hscript⟩
        rcases hothers.parts other hother with ⟨hdocument', hscript'⟩
        have hwhole : other.document = site.document := hdocument'.trans hdocument.symm
        have hbefore : other.before = site.before := by
          unfold Site.document at hwhole
          exact (List.append_inj hwhole hsame).left
        rw [← hscript'.unique hscript hbefore hwhole]
        exact hother

theorem ascending (h : AreScripts document scripts) :
    scripts.Pairwise fun first second => first.before.length < second.before.length := by
  refine List.Pairwise.imp_of_mem ?_ h.ordered
  intro first second hfirst _ hprecedes
  have hpos := (h.parts first hfirst).right.lt_stop
  have hstop := hprecedes.stop_le
  omega

theorem unique (hscripts : AreScripts document scripts) (hothers : AreScripts document others) :
    scripts = others := by
  have hirrefl : Std.Irrefl fun a b : Site => a.before.length < b.before.length :=
    ⟨fun a => Nat.lt_irrefl a.before.length⟩
  have hantisymm : Std.Antisymm fun a b : Site => a.before.length < b.before.length :=
    ⟨fun a b hab hba => absurd (Nat.lt_trans hab hba) (Nat.lt_irrefl _)⟩
  apply hscripts.ascending.eq_of_mem_iff hothers.ascending
  intro site
  constructor
  · intro hsite
    exact hscripts.mem_of_mem hothers hsite
  · intro hsite
    exact hothers.mem_of_mem hscripts hsite

end AreScripts
end Markup

namespace Scan

open Markup (Site)

/--
The scripts that are scanned in a markup document are the scripts of the document:
disjoint and in their order, each from an opening tag to the first closing tag
behind it, and with no further script between them.  No other list of scripts is
of this kind.  The issues are those of the contents, script by script, each script
with one number added to its lines.
-/
theorem markup_scans_exactly_the_scripts (document : String) :
    Markup.AreScripts document.toList (Markup.sites document.toList) ∧
      (∀ scripts, Markup.AreScripts document.toList scripts →
        scripts = Markup.sites document.toList) ∧
      Markup.blocks document.toList = (Markup.sites document.toList).map Site.block ∧
      ∀ base file, markup base file document =
        (Markup.sites document.toList).flatMap fun site =>
          (script base file (String.ofList site.content) .javascript).map
            (shift (site.before.count '\n')) := by
  have hsites := Markup.sites_areScripts document.toList
  refine ⟨hsites, ?_, Markup.blocks_eq_map_sites document.toList, ?_⟩
  · intro scripts hscripts
    exact hscripts.unique hsites
  · intro base file
    exact markup_eq_flatMap_sites base file document

-- The first closing tag belongs to the opening tag, and the second opening tag to the content.
example : (Markup.sites "<script </script>a<ſCRIPT x>b</Script>c</script>".toList).map
    Site.content = ["a<ſCRIPT x>b".toList] := by
  decide +kernel

end Scan
end WebCompat
