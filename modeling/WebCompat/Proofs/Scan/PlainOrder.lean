import Mathlib.Data.List.Forall2
import Mathlib.Data.List.Perm.Basic
import WebCompat.Proofs.Knowledge.Base
import WebCompat.Proofs.Knowledge.Matchers
import WebCompat.Proofs.Scan.Place
import WebCompat.Proofs.Text.Occurrence
import WebCompat.Scan.Lines

/-!
# Issues of a plain text

A plain text is searched line by line.  Each hit in a line becomes one issue,
and nothing else does.  The hits come API by API, and a stable sort brings them
into the order of their columns, so that the issues ascend by line, column and
API.
-/

namespace WebCompat
namespace Scan

open Text (utf8Length utf16Length utf16Column)

/-!
## Stable sorting

Sorting keeps the order of the elements that it does not tell apart.
-/

section Sorting

variable {α : Type}

theorem not_pair_sublist_swap {first second : α} {list : List α} (hnodup : list.Nodup)
    (h : [first, second].Sublist list) : ¬[second, first].Sublist list := by
  induction list with
  | nil =>
      cases h
  | cons head rest ih =>
      rw [List.nodup_cons] at hnodup
      intro hswap
      cases h with
      | cons _ hrest =>
          have hsecond : second ∈ rest := hrest.subset (by simp)
          cases hswap with
          | cons _ hswapRest =>
              exact ih hnodup.right hrest hswapRest
          | cons_cons _ _ =>
              exact hnodup.left hsecond
      | cons_cons _ hrest =>
          have hsecond : second ∈ rest := hrest.subset (by simp)
          cases hswap with
          | cons _ hswapRest =>
              exact hnodup.left (hswapRest.subset (by simp))
          | cons_cons _ _ =>
              exact hnodup.left hsecond

theorem pairwise_mergeSort_of_pairwise (le : α → α → Bool) {R : α → α → Prop}
    (htrans : ∀ a b c, le a b → le b c → le a c) (htotal : ∀ a b, le a b || le b a)
    (hirrefl : ∀ a, ¬R a a) {list : List α} (h : list.Pairwise R) :
    (list.mergeSort le).Pairwise fun a b => le a b ∧ (le b a → R a b) := by
  have hnodup : list.Nodup := by
    refine h.imp ?_
    rintro a b hab rfl
    exact hirrefl a hab
  have hsorted : (list.mergeSort le).Nodup :=
    (List.mergeSort_perm list le).nodup_iff.mpr hnodup
  apply List.pairwise_iff_forall_sublist.mpr
  intro a b hpair
  have hle : le a b :=
    List.pairwise_iff_forall_sublist.mp (List.pairwise_mergeSort htrans htotal list) hpair
  refine ⟨hle, ?_⟩
  intro hge
  have ha : a ∈ list := List.mem_mergeSort.mp (hpair.subset (by simp))
  have hb : b ∈ list := List.mem_mergeSort.mp (hpair.subset (by simp))
  have hne : a ≠ b := by
    rintro rfl
    exact not_pair_sublist_swap hsorted hpair hpair
  rcases List.mem_iff_append.mp ha with ⟨front, back, hlist⟩
  rw [hlist, List.mem_append, List.mem_cons] at hb
  rcases hb with hfront | heq | hback
  · -- The tie would have been sorted the other way round.
    have hswap : [b, a].Sublist list := by
      rw [hlist]
      exact (List.singleton_sublist.mpr hfront).append (List.singleton_sublist.mpr (by simp))
    exact absurd (List.pair_sublist_mergeSort htrans htotal hge hswap)
      (not_pair_sublist_swap hsorted hpair)
  · exact absurd heq.symm hne
  · rw [hlist] at h
    exact List.rel_of_pairwise_cons (List.pairwise_append.mp h).right.left hback

end Sorting

/-!
## Hits of a line
-/

theorem mem_hits_iff {base : KnowledgeBase} {line : List Char} {hit : Hit} :
    hit ∈ base.hits line ↔
      hit.api ∈ base.apis ∧ hit.offset ∈ Text.occurrences hit.api.toList line := by
  simp only [KnowledgeBase.hits_eq_flatMap, Hit.ofApi, List.mem_flatMap, List.mem_map]
  constructor
  · rintro ⟨api, hapi, offset, hoffset, rfl⟩
    exact ⟨hapi, hoffset⟩
  · rintro ⟨hapi, hoffset⟩
    exact ⟨hit.api, hapi, hit.offset, hoffset, rfl⟩

theorem hits_ascending (base : KnowledgeBase) (line : List Char) :
    (base.hits line).Pairwise fun a b => a.api < b.api ∨ a.api = b.api ∧ a.offset < b.offset := by
  rw [KnowledgeBase.hits_eq_flatMap]
  apply List.pairwise_flatMap.mpr
  constructor
  · intro api _
    apply List.pairwise_map.mpr
    refine (Text.occurrences_ascending api.toList line).imp ?_
    intro first second hlt
    exact Or.inr ⟨rfl, hlt⟩
  · refine base.descriptors.keys_ascending.imp ?_
    intro first second hlt a ha b hb
    rcases List.mem_map.mp ha with ⟨_, _, rfl⟩
    rcases List.mem_map.mp hb with ⟨_, _, rfl⟩
    exact Or.inl hlt

theorem exists_append_of_mem_hits {base : KnowledgeBase} {line : List Char} {hit : Hit}
    (h : hit ∈ base.hits line) :
    ∃ before behind, line = before ++ behind ∧ hit.offset = utf8Length before ∧
      utf16Column line hit.offset = utf16Length before := by
  rcases Text.exists_append_of_mem_occurrences (mem_hits_iff.mp h).right with
    ⟨before, behind, hline, hoffset⟩
  refine ⟨before, _, hline, hoffset, ?_⟩
  rw [hoffset, hline, Text.utf16Column_utf8Length]

theorem utf16Column_lt_of_mem_hits {base : KnowledgeBase} {line : List Char} {a b : Hit}
    (ha : a ∈ base.hits line) (hb : b ∈ base.hits line) (hlt : a.offset < b.offset) :
    utf16Column line a.offset < utf16Column line b.offset := by
  rcases exists_append_of_mem_hits ha with ⟨beforeA, behindA, hlineA, hoffsetA, hcolumnA⟩
  rcases exists_append_of_mem_hits hb with ⟨beforeB, behindB, hlineB, hoffsetB, hcolumnB⟩
  rw [hcolumnA, hcolumnB]
  rw [hoffsetA, hoffsetB] at hlt
  exact Text.utf16Length_lt_of_utf8Length_lt hlineA hlineB hlt

def sortedHits (base : KnowledgeBase) (line : List Char) : List Hit :=
  (base.hits line).mergeSort fun a b =>
    utf16Column line a.offset ≤ utf16Column line b.offset

theorem sortedHits_perm (base : KnowledgeBase) (line : List Char) :
    (sortedHits base line).Perm (base.hits line) :=
  List.mergeSort_perm _ _

theorem columns_eq_map_sortedHits (base : KnowledgeBase) (line : List Char) :
    columns base line =
      (sortedHits base line).map fun hit => (utf16Column line hit.offset, hit.api) := by
  unfold columns sortedHits
  rw [List.map_mergeSort]
  intro a _ b _
  rfl

def hitIssue? (base : KnowledgeBase) (file : String) (number : Nat) (text : List Char)
    (hit : Hit) : Option Issue :=
  (base.lookup hit.api).map fun descriptor =>
    .ofDescriptor file number (utf16Column text hit.offset) descriptor
      (String.ofList (Text.trim text))

theorem line_eq_filterMap_sortedHits (base : KnowledgeBase) (file : String) (number : Nat)
    (text : List Char) :
    line base file number text =
      (sortedHits base text).filterMap (hitIssue? base file number text) := by
  rw [line, columns_eq_map_sortedHits, List.filterMap_map]
  rfl

theorem mem_line_iff {base : KnowledgeBase} {file : String} {number : Nat} {text : List Char}
    {issue : Issue} :
    issue ∈ line base file number text ↔
      ∃ hit : Hit, hit.offset ∈ Text.occurrences hit.api.toList text ∧
        hitIssue? base file number text hit = some issue := by
  simp only [line_eq_filterMap_sortedHits, List.mem_filterMap, (sortedHits_perm base text).mem_iff,
    mem_hits_iff]
  constructor
  · rintro ⟨hit, ⟨_, hoffset⟩, hissue⟩
    exact ⟨hit, hoffset, hissue⟩
  · rintro ⟨hit, hoffset, hissue⟩
    rcases Option.map_eq_some_iff.mp hissue with ⟨descriptor, hlookup, _⟩
    exact ⟨hit, ⟨KnowledgeBase.mem_apis_of_lookup_eq_some hlookup, hoffset⟩, hissue⟩

theorem mem_plain_iff {base : KnowledgeBase} {file source : String} {issue : Issue} :
    issue ∈ plain base file source ↔
      ∃ index text, (Text.lines source.toList)[index]? = some text ∧
        issue ∈ line base file (index + 1) text := by
  simp only [plain, List.mem_flatMap, Prod.exists, List.mem_zipIdx_iff_getElem?]
  constructor
  · rintro ⟨text, index, htext, hissue⟩
    exact ⟨index, text, htext, hissue⟩
  · rintro ⟨index, text, htext, hissue⟩
    exact ⟨text, index, htext, hissue⟩

theorem sortedHits_ascending (base : KnowledgeBase) (line : List Char) :
    (sortedHits base line).Pairwise fun a b =>
      utf16Column line a.offset < utf16Column line b.offset ∨
        utf16Column line a.offset = utf16Column line b.offset ∧ a.api < b.api := by
  have hstable := pairwise_mergeSort_of_pairwise
    (fun a b : Hit => utf16Column line a.offset ≤ utf16Column line b.offset)
    (by intro a b c hab hbc; simp only [decide_eq_true_eq] at *; omega)
    (by intro a b; simp only [Bool.or_eq_true, decide_eq_true_eq]; omega)
    (by
      rintro a (hlt | ⟨_, hlt⟩)
      · exact String.lt_irrefl _ hlt
      · exact Nat.lt_irrefl _ hlt)
    (hits_ascending base line)
  refine List.Pairwise.imp_of_mem ?_ hstable
  intro a b ha hb hab
  simp only [decide_eq_true_eq] at hab
  rcases Nat.lt_or_eq_of_le hab.left with hlt | heq
  · exact Or.inl hlt
  · rcases hab.right (Nat.le_of_eq heq.symm) with hapi | ⟨_, hoffset⟩
    · exact Or.inr ⟨heq, hapi⟩
    · have hcolumn := utf16Column_lt_of_mem_hits ((sortedHits_perm base line).mem_iff.mp ha)
        ((sortedHits_perm base line).mem_iff.mp hb) hoffset
      omega

/-!
## Finds of a text
-/

structure Find where
  index : Nat
  line : List Char
  hit : Hit

/-- Whether an issue reports a find: its place, the texts of its API and its line. -/
def Reports (base : KnowledgeBase) (file : String) (find : Find) (issue : Issue) : Prop :=
  ∃ before behind descriptor,
    find.line = before ++ behind ∧ find.hit.offset = utf8Length before ∧
      base.lookup find.hit.api = some descriptor ∧ descriptor.api = find.hit.api ∧
        issue = .ofDescriptor file (find.index + 1) (utf16Length before) descriptor
          (String.ofList (Text.trim find.line))

theorem exists_reports (base : KnowledgeBase) (file : String) (index : Nat)
    {line : List Char} {hit : Hit} (h : hit ∈ base.hits line) :
    ∃ issue, hitIssue? base file (index + 1) line hit = some issue ∧
      Reports base file ⟨index, line, hit⟩ issue := by
  rcases exists_append_of_mem_hits h with ⟨before, behind, hline, hoffset, hcolumn⟩
  rcases KnowledgeBase.exists_lookup_of_mem_apis (mem_hits_iff.mp h).left with
    ⟨descriptor, hlookup, hapi⟩
  refine ⟨_, by rw [hitIssue?, hlookup]; rfl, before, behind, descriptor, hline, hoffset,
    hlookup, hapi, ?_⟩
  rw [hcolumn]

theorem line_before (base : KnowledgeBase) (file : String) (number : Nat) (text : List Char) :
    (line base file number text).Pairwise Issue.Before := by
  rw [line_eq_filterMap_sortedHits]
  refine (sortedHits_ascending base text).filterMap _ ?_
  intro a b hab first hfirst second hsecond
  rcases Option.map_eq_some_iff.mp hfirst with ⟨descriptorA, hlookupA, rfl⟩
  rcases Option.map_eq_some_iff.mp hsecond with ⟨descriptorB, hlookupB, rfl⟩
  rcases hab with hcolumn | ⟨hcolumn, hapi⟩
  · exact Or.inl (Or.inr ⟨rfl, hcolumn⟩)
  · refine Or.inr ⟨⟨rfl, hcolumn⟩, ?_⟩
    apply Text.bytes_lt_of_lt
    show descriptorA.api < descriptorB.api
    rw [KnowledgeBase.api_of_lookup_eq_some hlookupA,
      KnowledgeBase.api_of_lookup_eq_some hlookupB]
    exact hapi

theorem line_of_mem_line {base : KnowledgeBase} {file : String} {number : Nat}
    {text : List Char} {issue : Issue} (h : issue ∈ line base file number text) :
    issue.line = number := by
  rcases List.mem_filterMap.mp h with ⟨_, _, hissue⟩
  rcases Option.map_eq_some_iff.mp hissue with ⟨_, _, rfl⟩
  rfl

theorem plain_before (base : KnowledgeBase) (file source : String) :
    (plain base file source).Pairwise Issue.Before := by
  apply List.pairwise_flatMap.mpr
  constructor
  · rintro ⟨text, index⟩ _
    exact line_before base file (index + 1) text
  · refine (zipIdx_ascending _ 0).imp ?_
    rintro ⟨textA, indexA⟩ ⟨textB, indexB⟩ hlt first hfirst second hsecond
    have hlineA := line_of_mem_line hfirst
    have hlineB := line_of_mem_line hsecond
    left
    left
    rw [hlineA, hlineB]
    exact Nat.succ_lt_succ hlt

theorem not_same_of_before {first second : Issue} (h : first.Before second) :
    ¬(first.line = second.line ∧ first.column = second.column ∧ first.api = second.api) := by
  rintro ⟨hline, hcolumn, hapi⟩
  rcases h with (hlt | ⟨_, hlt⟩) | ⟨_, hlt⟩
  · omega
  · omega
  · rw [hapi] at hlt
    exact List.lt_irrefl _ hlt

theorem standsAt_of_reports {base : KnowledgeBase} {file : String} {source : List Char}
    {find : Find} {issue : Issue} (hline : (Text.lines source)[find.index]? = some find.line)
    (h : Reports base file find issue) : ∃ offset, issue.StandsAt source offset := by
  rcases h with ⟨before, behind, descriptor, hsplit, _, _, _, rfl⟩
  rcases Text.exists_append_of_getElem?_lines hline with
    ⟨front, back, hsource, hcount, hlast, hnewline⟩
  have hbefore : '\n' ∉ before := by
    intro hmem
    rw [hsplit] at hnewline
    exact hnewline (List.mem_append_left behind hmem)
  have hwhole : source = (front ++ before) ++ (behind ++ back) := by
    rw [hsource, hsplit]
    simp only [List.append_assoc]
  have htake : source.take (front ++ before).length = front ++ before := by
    rw [hwhole, List.take_left]
  refine ⟨(front ++ before).length, ?_, ?_, ?_⟩
  · rw [← htake]
    exact List.length_take_le' _ _
  · rw [Text.Position.row_ofOffset, htake, List.count_append, List.count_eq_zero.mpr hbefore,
      hcount]
    rfl
  · rw [Text.Position.column16, htake, Text.lastLine_append_of_notMem front hbefore, hlast]
    rfl

theorem exists_standsAt_of_mem_plain {base : KnowledgeBase} {file source : String}
    {issue : Issue} (h : issue ∈ plain base file source) :
    ∃ offset, issue.StandsAt source.toList offset := by
  rcases List.mem_flatMap.mp h with ⟨⟨text, index⟩, hmem, hissue⟩
  change issue ∈ line base file (index + 1) text at hissue
  rw [line_eq_filterMap_sortedHits] at hissue
  rcases List.mem_filterMap.mp hissue with ⟨hit, hhit, hsome⟩
  rcases exists_reports base file index ((sortedHits_perm base text).mem_iff.mp hhit) with
    ⟨reported, hreported, hreports⟩
  have heq : reported = issue := Option.some.inj (hreported.symm.trans hsome)
  rw [heq] at hreports
  exact standsAt_of_reports (List.mem_zipIdx_iff_getElem?.mp hmem) hreports

end Scan
end WebCompat
