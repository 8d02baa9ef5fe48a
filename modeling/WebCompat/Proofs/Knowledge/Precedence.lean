import WebCompat.Proofs.Knowledge.Base
import WebCompat.Proofs.Text.ByteOrder

/-!
# Precedence of descriptors

Several features of a dataset may list one API, and the curated descriptors may
describe it, too.  A curated descriptor comes before all others.  Of the
problematic features that list the API, the one with the greatest id counts.
-/

namespace WebCompat
namespace Knowledge

theorem Curated.apis_nodup : (Curated.descriptors.map Descriptor.api).Nodup := by
  decide

/-- Whether a problematic feature of a dataset lists an API. -/
structure Lists (dataset : Dataset) (api id : String) (feature : Feature) : Prop where
  found : dataset.get? id = some feature
  problematic : feature.isProblematic = true
  listed : api ∈ feature.apis

/-- The descriptor that a dataset and the curated descriptors have for an API. -/
inductive Describes (dataset : Dataset) (api : String) : Option Descriptor → Prop where
  | curated {descriptor : Descriptor} :
      descriptor ∈ Curated.descriptors → descriptor.api = api →
        Describes dataset api (some descriptor)
  | listed {id : String} {feature : Feature} :
      (∀ descriptor ∈ Curated.descriptors, descriptor.api ≠ api) →
        Lists dataset api id feature →
          (∀ other rival, Lists dataset api other rival → Text.bytes other ≤ Text.bytes id) →
            Describes dataset api (some (Descriptor.ofFeature id feature api))
  | unknown :
      (∀ descriptor ∈ Curated.descriptors, descriptor.api ≠ api) →
        (∀ id feature, ¬Lists dataset api id feature) → Describes dataset api none

theorem Describes.unique {dataset : Dataset} {api : String} {first second : Option Descriptor}
    (hfirst : Describes dataset api first) (hsecond : Describes dataset api second) :
    first = second := by
  cases hfirst with
  | curated hmem hapi =>
      cases hsecond with
      | curated hmem' hapi' =>
          rw [List.inj_on_of_nodup_map Curated.apis_nodup hmem hmem' (hapi.trans hapi'.symm)]
      | listed hnone _ _ =>
          exact absurd hapi (hnone _ hmem)
      | unknown hnone _ =>
          exact absurd hapi (hnone _ hmem)
  | listed hnone hlists hgreatest =>
      cases hsecond with
      | curated hmem hapi =>
          exact absurd hapi (hnone _ hmem)
      | listed _ hlists' hgreatest' =>
          have hid := String.le_antisymm (Text.le_of_bytes_le (hgreatest' _ _ hlists))
            (Text.le_of_bytes_le (hgreatest _ _ hlists'))
          subst hid
          have hfeature := hlists.found.symm.trans hlists'.found
          rw [Option.some.inj hfeature]
      | unknown _ hunlisted =>
          exact absurd hlists (hunlisted _ _)
  | unknown hnone hunlisted =>
      cases hsecond with
      | curated hmem hapi =>
          exact absurd hapi (hnone _ hmem)
      | listed _ hlists _ =>
          exact absurd hlists (hunlisted _ _)
      | unknown _ _ =>
          rfl

end Knowledge

namespace KnowledgeBase

open Knowledge

/-!
## The last descriptor of an API
-/

theorem lookup_add (base : KnowledgeBase) (descriptor : Descriptor) (api : String) :
    (base.add descriptor).lookup api =
      if api = descriptor.api then some descriptor else base.lookup api :=
  Dictionary.get?_insert base.descriptors descriptor.api descriptor api

theorem lookup_foldl_add (descriptors : List Descriptor) (base : KnowledgeBase) (api : String) :
    (descriptors.foldl add base).lookup api =
      (descriptors.reverse.find? fun descriptor => descriptor.api = api).or
        (base.lookup api) := by
  induction descriptors generalizing base with
  | nil =>
      rfl
  | cons descriptor rest ih =>
      rw [List.foldl_cons, ih, lookup_add, List.reverse_cons, List.find?_append, Option.or_assoc]
      by_cases hapi : descriptor.api = api
      · rw [if_pos hapi.symm, List.find?_cons_of_pos (by simpa using hapi)]
        rfl
      · rw [if_neg (Ne.symm hapi), List.find?_cons_of_neg (by simpa using hapi)]
        rfl

theorem lookup_ofDescriptors (descriptors : List Descriptor) (api : String) :
    (ofDescriptors descriptors).lookup api =
      descriptors.reverse.find? fun descriptor => descriptor.api = api := by
  rw [ofDescriptors, lookup_foldl_add]
  exact Option.or_none

theorem lookup_ofDataset (dataset : Dataset) (api : String) :
    (ofDataset dataset).lookup api =
      (curated.lookup api).or ((ofDescriptors (registrations dataset)).lookup api) := by
  rw [ofDataset, curated, lookup_ofDescriptors, lookup_ofDescriptors, lookup_ofDescriptors,
    List.reverse_append, List.find?_append]

/-!
## The last feature that lists an API
-/

def listers (dataset : Dataset) (api : String) : List (String × Feature) :=
  dataset.entries.filter fun entry => entry.2.isProblematic && entry.2.apis.contains api

theorem mem_listers_iff {dataset : Dataset} {api id : String} {feature : Feature} :
    (id, feature) ∈ listers dataset api ↔ Lists dataset api id feature := by
  simp only [listers, List.mem_filter, Dictionary.mem_entries_iff, Bool.and_eq_true,
    List.contains_iff_mem]
  constructor
  · rintro ⟨hfound, hproblematic, hlisted⟩
    exact ⟨hfound, hproblematic, hlisted⟩
  · rintro ⟨hfound, hproblematic, hlisted⟩
    exact ⟨hfound, hproblematic, hlisted⟩

theorem find?_descriptors_of_feature (id : String) (feature : Feature) (api : String) :
    (feature.apis.map (Descriptor.ofFeature id feature)).reverse.find?
        (fun descriptor => descriptor.api = api) =
      if feature.apis.contains api then some (Descriptor.ofFeature id feature api) else none := by
  rw [← List.map_reverse, List.find?_map]
  change Option.map _ (feature.apis.reverse.find? fun name => name = api) = _
  cases hfind : feature.apis.reverse.find? fun name => name = api with
  | none =>
      have hnot : api ∉ feature.apis := by
        intro hmem
        have hnone := List.find?_eq_none.mp hfind api (List.mem_reverse.mpr hmem)
        exact hnone (decide_eq_true rfl)
      rw [if_neg (by simpa using hnot)]
      rfl
  | some name =>
      have hname : name = api := by
        simpa using List.find?_some hfind
      have hmem := List.mem_reverse.mp (List.mem_of_find?_eq_some hfind)
      rw [hname] at hmem ⊢
      rw [if_pos (by simpa using hmem)]
      rfl

theorem lookup_registrations (dataset : Dataset) (api : String) :
    (ofDescriptors (registrations dataset)).lookup api =
      (listers dataset api).getLast?.map fun entry =>
        Descriptor.ofFeature entry.1 entry.2 api := by
  have hlisters : listers dataset api =
      (dataset.entries.filter fun entry => entry.2.isProblematic).filter
        fun entry => entry.2.apis.contains api := by
    rw [listers, List.filter_filter]
    congr 1
    funext entry
    exact Bool.and_comm _ _
  -- Both sides search the problematic features from the last one on.
  rw [lookup_ofDescriptors, registrations, List.reverse_flatMap, List.find?_flatMap, hlisters,
    List.getLast?_filter, List.find?_eq_findSome?_guard, List.map_findSome?]
  congr 1
  funext entry
  refine (find?_descriptors_of_feature entry.1 entry.2 api).trans ?_
  by_cases hlisted : entry.2.apis.contains api = true
  · simp only [hlisted, if_true, Function.comp_apply, Option.guard, Option.map_some]
  · simp only [hlisted, Function.comp_apply, Option.guard]
    rfl

theorem listers_ascending (dataset : Dataset) (api : String) :
    (listers dataset api).Pairwise fun a b => a.1 < b.1 :=
  dataset.ascending.filter _

theorem bytes_le_of_getLast?_listers {dataset : Dataset} {api id other : String}
    {feature rival : Feature} (hlast : (listers dataset api).getLast? = some (id, feature))
    (hother : Lists dataset api other rival) : Text.bytes other ≤ Text.bytes id := by
  rcases List.getLast?_eq_some_iff.mp hlast with ⟨front, hlisters⟩
  have hascending := listers_ascending dataset api
  have hmem := mem_listers_iff.mpr hother
  rw [hlisters, List.pairwise_append] at hascending
  rw [hlisters, List.mem_append, List.mem_singleton] at hmem
  rcases hmem with hfront | heq
  · have hlt := hascending.right.right _ hfront _ (List.mem_singleton_self _)
    exact List.le_of_lt (Text.bytes_lt_of_lt hlt)
  · cases heq
    exact List.le_refl _

/-!
## Look-ups by precedence
-/

theorem curated_lookup_eq_none_iff {api : String} :
    curated.lookup api = none ↔ ∀ descriptor ∈ Curated.descriptors, descriptor.api ≠ api := by
  rw [curated, lookup_ofDescriptors, List.find?_eq_none]
  simp only [List.mem_reverse, decide_eq_true_eq]

theorem describes_lookup_ofDataset (dataset : Dataset) (api : String) :
    Describes dataset api ((ofDataset dataset).lookup api) := by
  rw [lookup_ofDataset, lookup_registrations]
  cases hcurated : curated.lookup api with
  | some descriptor =>
      rw [curated, lookup_ofDescriptors] at hcurated
      apply Describes.curated
      · exact List.mem_reverse.mp (List.mem_of_find?_eq_some hcurated)
      · simpa using List.find?_some hcurated
  | none =>
      have hnone := curated_lookup_eq_none_iff.mp hcurated
      cases hlast : (listers dataset api).getLast? with
      | none =>
          apply Describes.unknown hnone
          intro id feature hlists
          rw [List.getLast?_eq_none_iff] at hlast
          have hmem := mem_listers_iff.mpr hlists
          rw [hlast] at hmem
          cases hmem
      | some entry =>
          apply Describes.listed hnone
          · exact mem_listers_iff.mp (List.mem_of_getLast? hlast)
          · intro other rival hother
            exact bytes_le_of_getLast?_listers hlast hother

theorem lookup_ofDataset_eq_iff {dataset : Dataset} {api : String} {found : Option Descriptor} :
    (ofDataset dataset).lookup api = found ↔ Describes dataset api found := by
  constructor
  · rintro rfl
    exact describes_lookup_ofDataset dataset api
  · intro hfound
    exact (describes_lookup_ofDataset dataset api).unique hfound

end KnowledgeBase

/-!
## Order and repetition of APIs

It does not matter in which order a feature lists its APIs, nor how often.
-/

namespace Knowledge

def Feature.SameUpToOrder (first second : Feature) : Prop :=
  second = { first with apis := second.apis } ∧ ∀ api, api ∈ first.apis ↔ api ∈ second.apis

/-- Whether two datasets differ at most in the order and repetition of APIs in their features. -/
def Dataset.SameUpToOrder (first second : Dataset) : Prop :=
  ∀ id, Option.Rel Feature.SameUpToOrder (first.get? id) (second.get? id)

theorem Feature.SameUpToOrder.symm {first second : Feature}
    (h : first.SameUpToOrder second) : second.SameUpToOrder first := by
  refine ⟨?_, fun api => (h.right api).symm⟩
  rw [h.left]

theorem Dataset.SameUpToOrder.symm {first second : Dataset}
    (h : first.SameUpToOrder second) : Dataset.SameUpToOrder second first := by
  intro id
  have hid := h id
  generalize first.get? id = feature at hid ⊢
  generalize second.get? id = other at hid ⊢
  cases hid with
  | some hfeature =>
      exact Option.Rel.some hfeature.symm
  | none =>
      exact Option.Rel.none

theorem Lists.transfer {first second : Dataset} (h : first.SameUpToOrder second)
    {api id : String} {feature : Feature} (hlists : Lists first api id feature) :
    ∃ other, Lists second api id other ∧
      Descriptor.ofFeature id other api = Descriptor.ofFeature id feature api := by
  have hid := h id
  rw [hlists.found] at hid
  cases hsecond : second.get? id with
  | none =>
      rw [hsecond] at hid
      cases hid
  | some other =>
      rw [hsecond] at hid
      cases hid with
      | some hsame =>
          refine ⟨other, ⟨hsecond, ?_, (hsame.right api).mp hlists.listed⟩, ?_⟩
          · rw [hsame.left]
            exact hlists.problematic
          · rw [hsame.left]
            rfl

theorem Describes.transfer {first second : Dataset} (h : first.SameUpToOrder second)
    {api : String} {found : Option Descriptor} (hfound : Describes first api found) :
    Describes second api found := by
  cases hfound with
  | curated hmem hapi =>
      exact Describes.curated hmem hapi
  | listed hnone hlists hgreatest =>
      rcases hlists.transfer h with ⟨other, hother, hdescriptor⟩
      rw [← hdescriptor]
      apply Describes.listed hnone hother
      intro id rival hrival
      rcases hrival.transfer h.symm with ⟨feature, hfeature, _⟩
      exact hgreatest id feature hfeature
  | unknown hnone hunlisted =>
      apply Describes.unknown hnone
      intro id feature hlists
      rcases hlists.transfer h.symm with ⟨other, hother, _⟩
      exact hunlisted id other hother

end Knowledge

namespace KnowledgeBase

open Knowledge

theorem ext_lookup {first second : KnowledgeBase}
    (h : ∀ api, first.lookup api = second.lookup api) : first = second := by
  have hdescriptors : first.descriptors = second.descriptors := Dictionary.ext_get? h
  cases first
  cases second
  cases hdescriptors
  rfl

theorem ofDataset_eq_of_sameUpToOrder {first second : Dataset}
    (h : first.SameUpToOrder second) : ofDataset first = ofDataset second := by
  apply ext_lookup
  intro api
  apply lookup_ofDataset_eq_iff.mpr
  exact (describes_lookup_ofDataset second api).transfer h.symm

theorem values_ascending (base : KnowledgeBase) :
    base.descriptors.values.Pairwise fun a b => Text.bytes a.api < Text.bytes b.api := by
  apply List.pairwise_map.mpr
  refine List.Pairwise.imp_of_mem ?_ base.descriptors.ascending
  intro a b ha hb hlt
  apply Text.bytes_lt_of_lt
  rw [base.named a ha, base.named b hb]
  exact hlt

/--
The knowledge base of a dataset has for each API what precedence asks for, lists
it in the order of the bytes, and does not depend on the order or repetition of
APIs inside features.  A dataset that cannot be loaded leaves the curated one.
-/
theorem ofDataset_by_precedence (dataset : Dataset) :
    (∀ api found, (ofDataset dataset).lookup api = found ↔ Describes dataset api found) ∧
      (∀ entry ∈ (ofDataset dataset).descriptors.entries, entry.2.api = entry.1) ∧
      ((ofDataset dataset).descriptors.values.Pairwise fun a b =>
        Text.bytes a.api < Text.bytes b.api) ∧
      (∀ other, dataset.SameUpToOrder other → ofDataset other = ofDataset dataset) ∧
      ∀ files source,
        (loadDataset files source = .ok dataset →
          ofLoaded (loadDataset files source) = ofDataset dataset) ∧
        ∀ failure, loadDataset files source = .error failure →
          ofLoaded (loadDataset files source) = curated := by
  refine ⟨?_, (ofDataset dataset).named, values_ascending (ofDataset dataset), ?_, ?_⟩
  · intro api found
    exact lookup_ofDataset_eq_iff
  · intro other hsame
    exact ofDataset_eq_of_sameUpToOrder hsame.symm
  · intro files source
    constructor
    · intro hloaded
      rw [hloaded]
      rfl
    · intro failure hfailure
      rw [hfailure]
      rfl

def rivalFeature (apis : List String) : Feature where
  name := none
  description := none
  availability := none
  apis := apis
  discouragement := none

def rivalDataset (apis : List String) : Dataset :=
  .ofList [
    ("share", rivalFeature ["navigator.share", "webkitURL"]),
    ("web-share", rivalFeature apis)]

theorem rivalDataset_sameUpToOrder {first second : List String}
    (h : ∀ api, api ∈ first ↔ api ∈ second) :
    (rivalDataset first).SameUpToOrder (rivalDataset second) := by
  intro id
  simp only [rivalDataset, Dictionary.ofList, Dictionary.insertMany, List.foldl_cons,
    List.foldl_nil, Dictionary.get?_insert, Dictionary.get?_empty]
  split
  · exact Option.Rel.some ⟨rfl, h⟩
  · split
    · exact Option.Rel.some ⟨rfl, fun _ => Iff.rfl⟩
    · exact Option.Rel.none

theorem rivals_described_by_greatest_id :
    Describes (rivalDataset ["navigator.share", "navigator.canShare"]) "navigator.share"
        (some (.ofFeature "web-share" (rivalFeature ["navigator.share", "navigator.canShare"])
          "navigator.share")) ∧
      (ofDataset (rivalDataset ["navigator.share", "navigator.canShare"])).lookup "webkitURL" =
        some (Curated.deprecated "Use URL" "Use standard URL constructor"
          "Vendor-prefixed URL constructor" "webkitURL") ∧
      ofDataset (rivalDataset ["navigator.canShare", "navigator.share", "navigator.canShare"]) =
        ofDataset (rivalDataset ["navigator.share", "navigator.canShare"]) ∧
      loadDataset ⟨.directory [], []⟩ (some "data.json") = .error (.fileNotFound "data.json") ∧
      ofLoaded (loadDataset ⟨.directory [], []⟩ (some "data.json")) = curated := by
  have hload : loadDataset ⟨.directory [], []⟩ (some "data.json") =
      .error (.fileNotFound "data.json") := by
    rfl
  rcases ofDataset_by_precedence (rivalDataset ["navigator.share", "navigator.canShare"]) with
    ⟨hlookup, _, _, horder, hloaded⟩
  have hcurated : Curated.deprecated "Use URL" "Use standard URL constructor"
      "Vendor-prefixed URL constructor" "webkitURL" ∈ Curated.descriptors := by
    simp [Curated.descriptors, Curated.constructors]
  exact ⟨(hlookup _ _).mp (by decide +kernel), (hlookup _ _).mpr (.curated hcurated rfl),
    horder _ (rivalDataset_sameUpToOrder (by simp)), hload, (hloaded _ _).right _ hload⟩

end KnowledgeBase
end WebCompat
