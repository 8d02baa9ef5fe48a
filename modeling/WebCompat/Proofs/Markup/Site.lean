import WebCompat.Scan.Markup

/-!
# Sites of scripts

A script of a markup document is found between two tags.  Its site keeps the
document in five parts: what stands before the opening tag, the opening tag, the
content, the closing tag, and what stands behind it.  The blocks of a document
are what its sites say about newlines and contents.
-/

namespace WebCompat
namespace Markup

/-- A script and the parts of the document around it. -/
structure Site where
  before : List Char
  /-- The opening tag, up to its `>`. -/
  tag : List Char
  content : List Char
  closing : List Char
  behind : List Char

namespace Site

def document (site : Site) : List Char :=
  site.before ++ (site.tag ++ (site.content ++ (site.closing ++ site.behind)))

def block (site : Site) : Block where
  newlines := site.before.count '\n'
  content := site.content

/-- The opening tag is a word, other characters than `>`, and a `>`; the closing tag is a word. -/
def WellTagged (site : Site) : Prop :=
  (∃ word attributes, site.tag = word ++ (attributes ++ ['>']) ∧
    afterWord? openingWord word = some [] ∧ '>' ∉ attributes) ∧
      afterWord? closingWord site.closing = some []

end Site

def siteAt? (before text : List Char) : Option Site := do
  let attributes ← afterWord? openingWord text
  let inside ← afterTag? attributes
  let (content, behind) ← untilClosing? inside
  return {
    before := before
    tag := text.take (text.length - inside.length)
    content := content
    closing := (inside.drop content.length).take (inside.length - content.length - behind.length)
    behind := behind }

/-- The sites of the scripts of a text behind the given text; see `blocksFrom`. -/
def sitesFrom (before : List Char) (skipped : Nat) : List Char → List Site
  | [] => []
  | c :: rest =>
      if 0 < skipped then sitesFrom (before ++ [c]) (skipped - 1) rest
      else
        match siteAt? before (c :: rest) with
        | some site =>
            site :: sitesFrom (before ++ [c]) (rest.length - site.behind.length) rest
        | none => sitesFrom (before ++ [c]) 0 rest

def sites (document : List Char) : List Site :=
  sitesFrom [] 0 document

/-!
## Taking a text apart
-/

theorem exists_append_of_afterWord? {word text rest : List Char}
    (h : afterWord? word text = some rest) :
    ∃ front, text = front ++ rest ∧ afterWord? word front = some [] := by
  induction word generalizing text with
  | nil =>
      cases h
      exact ⟨[], rfl, rfl⟩
  | cons letter word ih =>
      cases text with
      | nil =>
          cases h
      | cons c text =>
          rw [afterWord?] at h
          split at h
          · rename_i hletter
            rcases ih h with ⟨front, htext, hfront⟩
            refine ⟨c :: front, by rw [htext, List.cons_append], ?_⟩
            rw [afterWord?, if_pos hletter, hfront]
          · cases h

theorem exists_append_of_afterTag? {text rest : List Char} (h : afterTag? text = some rest) :
    ∃ attributes, text = attributes ++ '>' :: rest ∧ '>' ∉ attributes := by
  induction text with
  | nil =>
      cases h
  | cons c text ih =>
      rw [afterTag?] at h
      split at h
      · rename_i hc
        cases h
        exact ⟨[], by rw [hc, List.nil_append], List.not_mem_nil⟩
      · rename_i hc
        rcases ih h with ⟨attributes, htext, hattributes⟩
        refine ⟨c :: attributes, by rw [htext, List.cons_append], ?_⟩
        simp [hattributes, Ne.symm hc]

theorem exists_append_of_untilClosing? {text content behind : List Char}
    (h : untilClosing? text = some (content, behind)) :
    ∃ closing, text = content ++ (closing ++ behind) ∧
      afterWord? closingWord closing = some [] := by
  induction text generalizing content with
  | nil =>
      cases h
  | cons c rest ih =>
      rw [untilClosing?] at h
      split at h
      · rename_i after hafter
        cases h
        rcases exists_append_of_afterWord? hafter with ⟨closing, htext, hclosing⟩
        exact ⟨closing, htext, hclosing⟩
      · rcases Option.map_eq_some_iff.mp h with ⟨⟨later, after⟩, hrest, hpair⟩
        cases hpair
        rcases ih hrest with ⟨closing, htext, hclosing⟩
        exact ⟨closing, by rw [htext, List.cons_append], hclosing⟩

theorem siteAt?_eq_some {before text : List Char} {site : Site}
    (h : siteAt? before text = some site) :
    site.before = before ∧ site.document = before ++ text ∧ site.WellTagged := by
  rcases Option.bind_eq_some_iff.mp h with ⟨attributes, hattributes, hinside⟩
  rcases Option.bind_eq_some_iff.mp hinside with ⟨inside, htag, hcontent⟩
  rcases Option.bind_eq_some_iff.mp hcontent with ⟨⟨content, behind⟩, huntil, hsite⟩
  cases hsite
  rcases exists_append_of_afterWord? hattributes with ⟨word, htext, hword⟩
  rcases exists_append_of_afterTag? htag with ⟨names, hnames, hnot⟩
  rcases exists_append_of_untilClosing? huntil with ⟨closing, hclosing, hclosingWord⟩
  have hwhole : text = (word ++ (names ++ ['>'])) ++ inside := by
    rw [htext, hnames]
    simp
  have hlength : text.length - inside.length = (word ++ (names ++ ['>'])).length := by
    rw [hwhole, List.length_append]
    omega
  have htagEq : text.take (text.length - inside.length) = word ++ (names ++ ['>']) := by
    rw [hlength, hwhole, List.take_left]
  have hclosingEq : (inside.drop content.length).take
      (inside.length - content.length - behind.length) = closing := by
    rw [hclosing]
    simp
  refine ⟨rfl, ?_, ⟨word, names, htagEq, hword, hnot⟩, ?_⟩
  · show before ++ (_ ++ (content ++ (_ ++ behind))) = before ++ text
    rw [htagEq, hclosingEq, ← hclosing, ← hwhole]
  · show afterWord? closingWord _ = some []
    rw [hclosingEq, hclosingWord]

theorem map_siteAt? (before text : List Char) :
    (siteAt? before text).map (fun site => (site.content, site.behind)) = scriptAt? text := by
  unfold siteAt? scriptAt?
  cases afterWord? openingWord text with
  | none =>
      rfl
  | some attributes =>
      cases hinside : afterTag? attributes with
      | none =>
          simp [hinside]
      | some inside =>
          cases huntil : untilClosing? inside with
          | none =>
              simp [hinside, huntil]
          | some found =>
              simp [hinside, huntil]

/-!
## Sites and blocks
-/

theorem mem_sitesFrom {before text : List Char} {skipped : Nat} {site : Site}
    (h : site ∈ sitesFrom before skipped text) :
    site.document = before ++ text ∧ site.WellTagged := by
  induction text generalizing before skipped with
  | nil =>
      cases h
  | cons c rest ih =>
      have hlater : ∀ {skipped : Nat}, site ∈ sitesFrom (before ++ [c]) skipped rest →
          site.document = before ++ c :: rest ∧ site.WellTagged := by
        intro skipped hsite
        have hfound := ih hsite
        rwa [List.append_assoc] at hfound
      rw [sitesFrom] at h
      split at h
      · exact hlater h
      · split at h
        · rename_i found hfound
          rcases List.mem_cons.mp h with rfl | hrest
          · exact (siteAt?_eq_some hfound).right
          · exact hlater hrest
        · exact hlater h

theorem blocksFrom_eq_map_sitesFrom (before text : List Char) (skipped : Nat) :
    blocksFrom (before.count '\n') skipped text =
      (sitesFrom before skipped text).map Site.block := by
  induction text generalizing before skipped with
  | nil =>
      rfl
  | cons c rest ih =>
      have hcount : (before ++ [c]).count '\n' =
          if c = '\n' then before.count '\n' + 1 else before.count '\n' := by
        by_cases hc : c = '\n' <;> simp [hc, List.count_append]
      rw [blocksFrom, sitesFrom]
      by_cases hskipped : 0 < skipped
      · rw [if_pos hskipped, if_pos hskipped, ← ih, hcount]
      · rw [if_neg hskipped, if_neg hskipped, ← map_siteAt? before]
        cases hsite : siteAt? before (c :: rest) with
        | none =>
            simp only [Option.map_none]
            rw [← ih, hcount]
        | some site =>
            simp only [Option.map_some, List.map_cons]
            rw [← ih, hcount, Site.block, (siteAt?_eq_some hsite).left]

theorem blocks_eq_map_sites (document : List Char) :
    blocks document = (sites document).map Site.block :=
  blocksFrom_eq_map_sitesFrom [] document 0

theorem mem_sites {document : List Char} {site : Site} (h : site ∈ sites document) :
    site.document = document ∧ site.WellTagged := by
  simpa using mem_sitesFrom h

/-!
## Order of the sites
-/

/-- Whether all of a script, its tags included, stands in front of another one. -/
def Site.Precedes (first second : Site) : Prop :=
  ∃ between, second.before =
    first.before ++ (first.tag ++ (first.content ++ (first.closing ++ between)))

theorem exists_append_of_mem_sitesFrom {before text : List Char} {skipped : Nat} {site : Site}
    (h : site ∈ sitesFrom before skipped text) :
    ∃ front back, text = front ++ back ∧ site.before = before ++ front ∧
      skipped ≤ front.length := by
  induction text generalizing before skipped with
  | nil =>
      cases h
  | cons c rest ih =>
      have hlater : ∀ {fewer : Nat}, site ∈ sitesFrom (before ++ [c]) fewer rest →
          skipped ≤ fewer + 1 → ∃ front back, c :: rest = front ++ back ∧
            site.before = before ++ front ∧ skipped ≤ front.length := by
        intro fewer hsite hfewer
        rcases ih hsite with ⟨front, back, hrest, hbefore, hskipped⟩
        refine ⟨c :: front, back, by rw [hrest, List.cons_append], ?_, ?_⟩
        · rw [hbefore, List.append_assoc, List.singleton_append]
        · rw [List.length_cons]
          omega
      rw [sitesFrom] at h
      split at h
      · exact hlater h (by omega)
      · split at h
        · rename_i found hfound
          rcases List.mem_cons.mp h with rfl | hrest
          · refine ⟨[], c :: rest, rfl, ?_, by omega⟩
            rw [(siteAt?_eq_some hfound).left, List.append_nil]
          · exact hlater hrest (by omega)
        · exact hlater h (by omega)

theorem precedes_of_mem_sitesFrom {before rest : List Char} {c : Char} {first second : Site}
    (hfirst : siteAt? before (c :: rest) = some first)
    (hsecond : second ∈ sitesFrom (before ++ [c]) (rest.length - first.behind.length) rest) :
    first.Precedes second := by
  rcases siteAt?_eq_some hfirst with ⟨hbefore, hdocument, _⟩
  rcases exists_append_of_mem_sitesFrom hsecond with ⟨front, back, hrest, hsite, hskipped⟩
  rw [Site.document, hbefore] at hdocument
  have hwhole : first.tag ++ (first.content ++ first.closing) ++ first.behind = c :: rest := by
    rw [← List.append_cancel_left hdocument]
    simp only [List.append_assoc]
  have hlength := congrArg List.length hwhole
  rw [List.length_append, List.length_cons] at hlength
  have hbegins : first.tag ++ (first.content ++ first.closing) <+: c :: front := by
    refine List.prefix_of_prefix_length_le ⟨first.behind, hwhole⟩ ⟨back, ?_⟩ ?_
    · rw [hrest, List.cons_append]
    · rw [List.length_cons]
      omega
  rcases hbegins with ⟨between, hbetween⟩
  refine ⟨between, ?_⟩
  rw [hsite, hbefore, List.append_assoc, List.singleton_append, ← hbetween]
  simp only [List.append_assoc]

theorem sitesFrom_ordered (before text : List Char) (skipped : Nat) :
    (sitesFrom before skipped text).Pairwise Site.Precedes := by
  induction text generalizing before skipped with
  | nil =>
      exact List.Pairwise.nil
  | cons c rest ih =>
      rw [sitesFrom]
      split
      · exact ih _ _
      · split
        · rename_i first hfirst
          refine List.Pairwise.cons ?_ (ih _ _)
          intro second hsecond
          exact precedes_of_mem_sitesFrom hfirst hsecond
        · exact ih _ _

theorem sites_ordered (document : List Char) :
    (sites document).Pairwise Site.Precedes :=
  sitesFrom_ordered [] document 0

end Markup
end WebCompat
