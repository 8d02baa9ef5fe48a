import WebCompat.Knowledge.Dataset
import WebCompat.Proofs.Json.Record

/-!
# Layouts of datasets

A document that holds its records under the name `features` is read whole, or
else as if its members were the records themselves.  So a malformed record makes
the document fail only where some member is no record either; otherwise the
records are lost, and `features` is taken for a feature.
-/

namespace WebCompat
namespace Knowledge
namespace Dataset

open Json (Value)

def Decodes (records : List (String × Value)) : Prop :=
  ∀ record ∈ records, (Feature.ofJson? record.2).isSome

/-- Whether a dataset has the given records and no other; the last record of an id counts. -/
def Holds (dataset : Dataset) (records : List (String × Value)) : Prop :=
  ∀ id, dataset.get? id = (records.reverse.lookup id).bind Feature.ofJson?

/-- Whether a dataset of the given records is loaded, or rejected because of a malformed record. -/
def LoadsWholeOrRejects (result : Except Failure Dataset) (records : List (String × Value)) :
    Prop :=
  ((∃ dataset, result = .ok dataset) ↔ Decodes records) ∧
    (∀ dataset, result = .ok dataset → dataset.Holds records) ∧
      (¬Decodes records →
        result = .error .datasetNotJson ∨ result = .error .datasetMalformed)

/-!
## The two layouts
-/

section Layouts

variable {members inner : List (String × Value)}

theorem exists_bare?_eq_some (h : Decodes members) :
    ∃ dataset, bare? (.object members) = some dataset ∧ dataset.Holds members :=
  Value.exists_dictionary?_eq_some h

theorem bare?_eq_none (h : ¬Decodes members) : bare? (.object members) = none :=
  Value.dictionary?_eq_none h

theorem wrapped?_eq_bare?
    (hfeatures : members.filter (·.1 == "features") = [("features", .object inner)]) :
    wrapped? (.object members) = bare? (.object inner) := by
  have hrecord : (Value.object members).record? ["features"] =
      some fun name => members.lookup name := by
    rw [Value.record?, List.all_cons, hfeatures]
    rfl
  rw [wrapped?, hrecord]
  show Value.required? _ (members.lookup "features") = _
  rw [Value.lookup_of_filter_eq_singleton hfeatures]
  rfl

end Layouts

/-!
## Texts of datasets
-/

section Texts

variable {text : String} {document : Value} {members inner : List (String × Value)}

theorem readSound?_eq_some (hread : Json.read? text = some document)
    (hsound : document.isSound Value.maxNesting = true) :
    Json.readSound? text = some document := by
  rw [Json.readSound?, hread, Option.filter_some, if_pos hsound]

theorem ofText_not_sound (hread : Json.read? text = some document)
    (hsound : document.isSound Value.maxNesting = false) :
    ofText text = .error .datasetNotJson := by
  have hnone : Json.readSound? text = none := by
    rw [Json.readSound?, hread, Option.filter_some, hsound]
    rfl
  rw [ofText, hnone]

theorem ofText_eq_elim (hdocument : Json.readSound? text = some document) :
    ofText text = (ofJson? document).elim (.error .datasetMalformed) .ok := by
  unfold ofText
  rw [hdocument]
  cases hdataset : ofJson? document with
  | none =>
      simp only [hdataset, Option.elim_none]
  | some dataset =>
      simp only [hdataset, Option.elim_some]

theorem exists_ofText_inner (hdocument : Json.readSound? text = some (.object members))
    (hfeatures : members.filter (·.1 == "features") = [("features", .object inner)])
    (hinner : Decodes inner) :
    ∃ dataset, ofText text = .ok dataset ∧ dataset.Holds inner := by
  rcases exists_bare?_eq_some hinner with ⟨dataset, hbare, hholds⟩
  refine ⟨dataset, ?_, hholds⟩
  rw [ofText_eq_elim hdocument, ofJson?, wrapped?_eq_bare? hfeatures, hbare]
  rfl

theorem exists_ofText_members (hdocument : Json.readSound? text = some (.object members))
    (hfeatures : members.filter (·.1 == "features") = [("features", .object inner)])
    (hinner : ¬Decodes inner) (hmembers : Decodes members) :
    ∃ dataset, ofText text = .ok dataset ∧ dataset.Holds members := by
  rcases exists_bare?_eq_some hmembers with ⟨dataset, hbare, hholds⟩
  refine ⟨dataset, ?_, hholds⟩
  rw [ofText_eq_elim hdocument, ofJson?, wrapped?_eq_bare? hfeatures, bare?_eq_none hinner, hbare]
  rfl

theorem ofText_malformed (hdocument : Json.readSound? text = some (.object members))
    (hfeatures : members.filter (·.1 == "features") = [("features", .object inner)])
    (hinner : ¬Decodes inner) (hmembers : ¬Decodes members) :
    ofText text = .error .datasetMalformed := by
  rw [ofText_eq_elim hdocument, ofJson?, wrapped?_eq_bare? hfeatures, bare?_eq_none hinner,
    bare?_eq_none hmembers]
  rfl

end Texts

/-!
## Loading whole or not at all
-/

theorem loadsWholeOrRejects_of_ok {result : Except Failure Dataset} {dataset : Dataset}
    {records : List (String × Value)} (hresult : result = .ok dataset)
    (hholds : dataset.Holds records) (hrecords : Decodes records) :
    LoadsWholeOrRejects result records := by
  refine ⟨⟨fun _ => hrecords, fun _ => ⟨dataset, hresult⟩⟩, ?_, ?_⟩
  · intro other hother
    rw [hresult] at hother
    cases hother
    exact hholds
  · intro hnot
    exact absurd hrecords hnot

theorem loadsWholeOrRejects_of_malformed {result : Except Failure Dataset}
    {records : List (String × Value)} (hresult : result = .error .datasetMalformed)
    (hrecords : ¬Decodes records) : LoadsWholeOrRejects result records := by
  refine ⟨⟨?_, fun hdecodes => absurd hdecodes hrecords⟩, ?_, fun _ => Or.inr hresult⟩
  · rintro ⟨dataset, hdataset⟩
    rw [hresult] at hdataset
    cases hdataset
  · intro dataset hdataset
    rw [hresult] at hdataset
    cases hdataset

/--
A document with one object under `features` is loaded whole or rejected just
when the records of that object are well-formed, or some member of the document
is malformed.  Otherwise the dataset has the members, and `features` as one of
its features.
-/
theorem wrapped_loads_whole_or_rejects_iff {text : String} {members inner : List (String × Value)}
    (hread : Json.read? text = some (.object members))
    (hfeatures : members.filter (·.1 == "features") = [("features", .object inner)]) :
    ((Value.object members).isSound Value.maxNesting = false →
        ofText text = .error .datasetNotJson) ∧
      ((Value.object members).isSound Value.maxNesting = true →
        (LoadsWholeOrRejects (ofText text) inner ↔ Decodes inner ∨ ¬Decodes members) ∧
          (¬Decodes inner → Decodes members →
            ∃ dataset, ofText text = .ok dataset ∧ dataset.Holds members ∧
              dataset.get? "features" = Feature.ofJson? (.object inner))) := by
  refine ⟨ofText_not_sound hread, ?_⟩
  intro hsound
  have hdocument := readSound?_eq_some hread hsound
  refine ⟨⟨?_, ?_⟩, ?_⟩
  · intro hloads
    by_contra hneither
    rcases not_or.mp hneither with ⟨hinner, hmembers⟩
    rcases exists_ofText_members hdocument hfeatures hinner (not_not.mp hmembers) with
      ⟨dataset, hdataset, _⟩
    exact hinner (hloads.left.mp ⟨dataset, hdataset⟩)
  · intro hcondition
    by_cases hinner : Decodes inner
    · rcases exists_ofText_inner hdocument hfeatures hinner with ⟨dataset, hdataset, hholds⟩
      exact loadsWholeOrRejects_of_ok hdataset hholds hinner
    · have hmembers := hcondition.resolve_left hinner
      have hmalformed := ofText_malformed hdocument hfeatures hinner hmembers
      exact loadsWholeOrRejects_of_malformed hmalformed hinner
  · intro hinner hmembers
    rcases exists_ofText_members hdocument hfeatures hinner hmembers with
      ⟨dataset, hdataset, hholds⟩
    refine ⟨dataset, hdataset, hholds, ?_⟩
    rw [hholds, Value.lookup_reverse_of_filter_eq_singleton hfeatures, Option.bind_some]

def mixedRecords : List (String × Value) :=
  [("a", .object [("compat_features", .array [.string "api.A"])]),
    ("b", .object [("compat_features", .string "api.B")])]

def mixedText : String :=
  "\x7b\"features\":\x7b\"a\":\x7b\"compat_features\":[\"api.A\"]\x7d," ++
    "\"b\":\x7b\"compat_features\":\"api.B\"\x7d\x7d\x7d"

theorem read?_mixedText :
    Json.read? mixedText = some (.object [("features", .object mixedRecords)]) := by
  rfl

theorem not_decodes_mixedRecords : ¬Decodes mixedRecords := by
  intro h
  exact absurd (h mixedRecords[1] (by simp [mixedRecords])) (by decide)

theorem mixedText_holds_features :
    ∃ dataset, ofText mixedText = .ok dataset ∧
      dataset.Holds [("features", .object mixedRecords)] ∧
        dataset.get? "features" = Feature.ofJson? (.object mixedRecords) := by
  have hmembers : Decodes [("features", .object mixedRecords)] := by
    intro record hrecord
    rcases List.mem_singleton.mp hrecord with rfl
    rfl
  have houtcome := wrapped_loads_whole_or_rejects_iff read?_mixedText rfl
  exact (houtcome.right rfl).right not_decodes_mixedRecords hmembers

/-- With one malformed record, the other records are lost and the document is not rejected. -/
theorem mixedText_not_whole_or_rejected :
    Json.read? mixedText = some (.object [("features", .object mixedRecords)]) ∧
      (ofText mixedText).toOption.map Dictionary.keys = some ["features"] ∧
        ¬LoadsWholeOrRejects (ofText mixedText) mixedRecords := by
  have hkeys : (ofText mixedText).toOption.map Dictionary.keys = some ["features"] := by
    decide +kernel
  refine ⟨read?_mixedText, hkeys, ?_⟩
  intro hloads
  rcases Option.map_eq_some_iff.mp hkeys with ⟨dataset, hdataset, _⟩
  cases hresult : ofText mixedText with
  | error failure =>
      rw [hresult] at hdataset
      cases hdataset
  | ok loaded =>
      exact not_decodes_mixedRecords (hloads.left.mp ⟨loaded, hresult⟩)

end Dataset
end Knowledge
end WebCompat
