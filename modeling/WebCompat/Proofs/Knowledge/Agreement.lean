import WebCompat.Proofs.Json.RoundTrip
import WebCompat.Proofs.Knowledge.Layouts

/-!
# Agreement of the two layouts

Records that stand under `features` make the same dataset as the records alone,
whatever stands beside them and whatever members they have that are no fields.
The text has to be one that can be taken over as data: the name `features` takes
the records one level deeper, where the deepest of them are no longer read.
-/

namespace WebCompat
namespace Json
namespace Value

/-!
## Members that are no fields
-/

/--
Members with more members among them that have none of the given names.  The
values of a member that is kept may differ as `Alike` says.
-/
inductive Padded (names : List String) (Alike : String → Value → Value → Prop) :
    List (String × Value) → List (String × Value) → Prop where
  | nil : Padded names Alike [] []
  | kept {name : String} {value other : Value} {members padded : List (String × Value)} :
      Alike name value other → Padded names Alike members padded →
        Padded names Alike ((name, value) :: members) ((name, other) :: padded)
  | added {member : String × Value} {members padded : List (String × Value)} :
      member.1 ∉ names → Padded names Alike members padded →
        Padded names Alike members (member :: padded)

/-- Whether a document is another one, perhaps with more members that are no fields. -/
inductive Extends (names : List String) (Alike : String → Value → Value → Prop) :
    Value → Value → Prop where
  | same (document : Value) : Extends names Alike document document
  | padded {members padded : List (String × Value)} :
      Padded names Alike members padded → Extends names Alike (object members) (object padded)

section Padded

variable {names : List String} {Alike : String → Value → Value → Prop}
  {members padded : List (String × Value)}

theorem Padded.lookup (h : Padded names Alike members padded) {name : String}
    (hname : name ∈ names) :
    Option.Rel (Alike name) (members.lookup name) (padded.lookup name) := by
  induction h with
  | nil =>
      exact Option.Rel.none
  | @kept first _ _ _ _ halike _ ih =>
      rw [Dictionary.lookup_cons_eq_ite, Dictionary.lookup_cons_eq_ite]
      by_cases heq : name = first
      · rw [if_pos heq, if_pos heq, heq]
        exact Option.Rel.some halike
      · rw [if_neg heq, if_neg heq]
        exact ih
  | added hnot _ ih =>
      rw [Dictionary.lookup_cons_eq_ite, if_neg]
      · exact ih
      · intro heq
        rw [← heq] at hnot
        exact hnot hname

theorem Padded.length_filter (h : Padded names Alike members padded) {name : String}
    (hname : name ∈ names) :
    (padded.filter (·.1 == name)).length = (members.filter (·.1 == name)).length := by
  induction h with
  | nil =>
      rfl
  | @kept first _ _ _ _ _ _ ih =>
      rw [List.filter_cons, List.filter_cons]
      by_cases heq : (first == name) = true
      · rw [if_pos heq, if_pos heq, List.length_cons, List.length_cons, ih]
      · rw [if_neg heq, if_neg heq, ih]
  | added hnot _ ih =>
      rw [List.filter_cons, if_neg, ih]
      intro heq
      rw [beq_iff_eq.mp heq] at hnot
      exact hnot hname

theorem Padded.all_length_filter (h : Padded names Alike members padded) :
    (names.all fun name => (padded.filter (·.1 == name)).length ≤ 1) =
      names.all fun name => (members.filter (·.1 == name)).length ≤ 1 := by
  rw [Bool.eq_iff_iff, List.all_eq_true, List.all_eq_true]
  constructor
  · intro hall name hname
    rw [← h.length_filter hname]
    exact hall name hname
  · intro hall name hname
    rw [h.length_filter hname]
    exact hall name hname

theorem Padded.bind_record? {α : Type} (h : Padded names Alike members padded)
    {decode : (String → Option Value) → Option α}
    (hdecode : decode (padded.lookup ·) = decode (members.lookup ·)) :
    (record? names (object padded)).bind decode =
      (record? names (object members)).bind decode := by
  rw [record?, record?, h.all_length_filter]
  by_cases hall : (names.all fun name => (members.filter (·.1 == name)).length ≤ 1) = true
  · rw [if_pos hall, if_pos hall]
    exact hdecode
  · rw [if_neg hall, if_neg hall]

end Padded

theorem eq_of_rel_eq {first second : Option Value} (h : Option.Rel Eq first second) :
    second = first := by
  cases h with
  | none =>
      rfl
  | some heq =>
      rw [heq]

variable {α : Type}

theorem optional?_of_extends {names : List String} {Alike : String → Value → Value → Prop}
    {decode : Value → Option α}
    (hdecode : ∀ {document extended : Value}, Extends names Alike document extended →
      decode extended = decode document)
    {first second : Option Value} (h : Option.Rel (Extends names Alike) first second) :
    optional? decode second = optional? decode first := by
  cases h with
  | none =>
      rfl
  | some hextends =>
      cases hextends with
      | same document =>
          rfl
      | padded hpadded =>
          show (decode (object _)).map some = (decode (object _)).map some
          rw [hdecode (Extends.padded hpadded)]

theorem dictionary?_of_forall₂ {decode : Value → Option α} {members others : List (String × Value)}
    (h : List.Forall₂ (fun member other => member.1 = other.1 ∧ decode other.2 = decode member.2)
      members others) :
    dictionary? decode (object others) = dictionary? decode (object members) := by
  have hentries : others.mapM (fun member => (decode member.2).map (member.1, ·)) =
      members.mapM (fun member => (decode member.2).map (member.1, ·)) := by
    induction h with
    | nil =>
        rfl
    | cons hfirst _ ih =>
        rw [List.mapM_cons, List.mapM_cons, ih, hfirst.left, hfirst.right]
  rw [dictionary?, dictionary?, hentries]

end Value
end Json

namespace Knowledge

open Json (Value)

/-!
## Records of features
-/

def Availability.Extends : Value → Value → Prop :=
  Value.Extends ["baseline", "baseline_low_date", "support"] fun _ => Eq

def Discouragement.Extends : Value → Value → Prop :=
  Value.Extends ["according_to", "alternatives"] fun _ => Eq

def Feature.Extends : Value → Value → Prop :=
  Value.Extends ["name", "description", "status", "compat_features", "discouraged"] fun name =>
    if name = "status" then Availability.Extends
    else if name = "discouraged" then Discouragement.Extends
    else Eq

theorem Availability.ofJson?_of_extends {document extended : Value}
    (h : Availability.Extends document extended) : ofJson? extended = ofJson? document := by
  cases h with
  | same document =>
      rfl
  | padded h =>
      have hbaseline := Value.eq_of_rel_eq (h.lookup (by decide : "baseline" ∈ _))
      have hdate := Value.eq_of_rel_eq (h.lookup (by decide : "baseline_low_date" ∈ _))
      have hsupport := Value.eq_of_rel_eq (h.lookup (by decide : "support" ∈ _))
      apply h.bind_record?
      simp only [hbaseline, hdate, hsupport]

theorem Discouragement.ofJson?_of_extends {document extended : Value}
    (h : Discouragement.Extends document extended) : ofJson? extended = ofJson? document := by
  cases h with
  | same document =>
      rfl
  | padded h =>
      have hsources := Value.eq_of_rel_eq (h.lookup (by decide : "according_to" ∈ _))
      have halternatives := Value.eq_of_rel_eq (h.lookup (by decide : "alternatives" ∈ _))
      apply h.bind_record?
      simp only [hsources, halternatives]

theorem Feature.ofJson?_of_extends {document extended : Value}
    (h : Feature.Extends document extended) : ofJson? extended = ofJson? document := by
  cases h with
  | same document =>
      rfl
  | padded h =>
      have hname := Value.eq_of_rel_eq (h.lookup (by decide : "name" ∈ _))
      have hdescription := Value.eq_of_rel_eq (h.lookup (by decide : "description" ∈ _))
      have hapis := Value.eq_of_rel_eq (h.lookup (by decide : "compat_features" ∈ _))
      have hstatus := Value.optional?_of_extends Availability.ofJson?_of_extends
        (h.lookup (by decide : "status" ∈ _))
      have hdiscouraged := Value.optional?_of_extends Discouragement.ofJson?_of_extends
        (h.lookup (by decide : "discouraged" ∈ _))
      apply h.bind_record?
      simp only [hname, hdescription, hapis, hstatus, hdiscouraged]

namespace Dataset

/-- Whether records are the given ones under the same ids, perhaps with unknown members. -/
def RecordsExtend : List (String × Value) → List (String × Value) → Prop :=
  List.Forall₂ fun record extended => record.1 = extended.1 ∧ Feature.Extends record.2 extended.2

/-- The documents of given records: the records alone, or under `features` beside anything else. -/
inductive LaysOut (records : List (String × Value)) : Value → Prop where
  | bare : LaysOut records (.object records)
  | wrapped {members : List (String × Value)} :
      members.filter (·.1 == "features") = [("features", .object records)] →
        LaysOut records (.object members)

theorem bare?_of_recordsExtend {records extended : List (String × Value)}
    (h : RecordsExtend records extended) : bare? (.object extended) = bare? (.object records) := by
  apply Value.dictionary?_of_forall₂
  refine h.imp ?_
  intro record other hsame
  exact ⟨hsame.left, Feature.ofJson?_of_extends hsame.right⟩

theorem RecordsExtend.map_fst {records extended : List (String × Value)}
    (h : RecordsExtend records extended) : extended.map Prod.fst = records.map Prod.fst := by
  induction h with
  | nil =>
      rfl
  | cons hfirst _ ih =>
      rw [List.map_cons, List.map_cons, hfirst.left, ih]

theorem wrapped?_eq_none {records : List (String × Value)}
    (h : "features" ∉ records.map Prod.fst) : wrapped? (.object records) = none := by
  have hfilter : records.filter (·.1 == "features") = [] := by
    apply List.filter_eq_nil_iff.mpr
    intro record hrecord heq
    exact h (List.mem_map.mpr ⟨record, hrecord, beq_iff_eq.mp heq⟩)
  have hrecord : (Value.object records).record? ["features"] =
      some fun name => records.lookup name := by
    rw [Value.record?, List.all_cons, hfilter]
    rfl
  have hlookup : records.lookup "features" = none := by
    apply List.lookup_eq_none_iff.mpr
    intro record hrecord
    apply bne_iff_ne.mpr
    intro heq
    exact h (List.mem_map.mpr ⟨record, hrecord, heq.symm⟩)
  rw [wrapped?, hrecord]
  show Value.required? _ (records.lookup "features") = none
  rw [hlookup]
  rfl

theorem ofJson?_of_laysOut {records : List (String × Value)} {document : Value} {dataset : Dataset}
    (hnames : "features" ∉ records.map Prod.fst) (hbare : bare? (.object records) = some dataset)
    (h : LaysOut records document) : ofJson? document = some dataset := by
  -- Records are tried under `features` first, where records alone have nothing.
  cases h with
  | bare =>
      rw [ofJson?, wrapped?_eq_none hnames, hbare]
      rfl
  | wrapped hfeatures =>
      rw [ofJson?, wrapped?_eq_bare? hfeatures, hbare]
      rfl

theorem ofText_of_laysOut {text : String} {records : List (String × Value)} {document : Value}
    {dataset : Dataset} (hdocument : Json.readSound? text = some document)
    (hnames : "features" ∉ records.map Prod.fst) (hbare : bare? (.object records) = some dataset)
    (h : LaysOut records document) : ofText text = .ok dataset := by
  rw [ofText_eq_elim hdocument, ofJson?_of_laysOut hnames hbare h]
  rfl

/--
Well-formed records make one dataset in either layout, also when unknown members
are added to them.  A text is refused only if it cannot be taken over as data.
-/
theorem layouts_make_the_same_dataset {records : List (String × Value)}
    (hnames : "features" ∉ records.map Prod.fst) (hrecords : Decodes records) :
    ∃ dataset : Dataset, dataset.Holds records ∧
      ∀ extended, RecordsExtend records extended →
        ∀ text document, Json.read? text = some document → LaysOut extended document →
          (document.isSound Value.maxNesting = true → ofText text = .ok dataset) ∧
            (document.isSound Value.maxNesting = false → ofText text = .error .datasetNotJson) := by
  rcases exists_bare?_eq_some hrecords with ⟨dataset, hbare, hholds⟩
  refine ⟨dataset, hholds, ?_⟩
  intro extended hextended text document hread hlayout
  rw [← hextended.map_fst] at hnames
  rw [← bare?_of_recordsExtend hextended] at hbare
  constructor
  · intro hsound
    exact ofText_of_laysOut (readSound?_eq_some hread hsound) hnames hbare hlayout
  · exact ofText_not_sound hread

def oneRecord : List (String × Value) :=
  [("a", .object [("status", .object []), ("compat_features", .array [.string "api.A"])])]

def paddedRecord : List (String × Value) :=
  [("a", .object [("kind", .null), ("status", .object [("note", .bool true)]),
    ("compat_features", .array [.string "api.A"])])]

def bareText : String :=
  "\x7b\"a\":\x7b\"status\":\x7b\x7d,\"compat_features\":[\"api.A\"]\x7d\x7d"

def wrappedText : String :=
  "\x7b\"version\":[null],\"features\":\x7b\"a\":\x7b\"kind\":null," ++
    "\"status\":\x7b\"note\":true\x7d,\"compat_features\":[\"api.A\"]\x7d\x7d\x7d"

theorem oneRecord_extends : RecordsExtend oneRecord paddedRecord := by
  have hstatus : Availability.Extends (.object []) (.object [("note", .bool true)]) :=
    Value.Extends.padded (Value.Padded.added (by decide) Value.Padded.nil)
  refine List.Forall₂.cons ⟨rfl, Value.Extends.padded ?_⟩ List.Forall₂.nil
  apply Value.Padded.added (by decide)
  apply Value.Padded.kept hstatus
  exact Value.Padded.kept rfl Value.Padded.nil

theorem oneRecord_decodes : Decodes oneRecord := by
  intro record hrecord
  rw [List.mem_singleton.mp hrecord]
  rfl

theorem read?_bareText : Json.read? bareText = some (.object oneRecord) := by
  rfl

theorem read?_wrappedText :
    Json.read? wrappedText =
      some (.object [("version", .array [.null]), ("features", .object paddedRecord)]) := by
  rfl

theorem oneRecord_makes_dataset_in_either_layout :
    ∃ dataset : Dataset, dataset.Holds oneRecord ∧ ofText bareText = .ok dataset ∧
      ofText wrappedText = .ok dataset := by
  rcases layouts_make_the_same_dataset (by decide) oneRecord_decodes with ⟨dataset, hholds, hsame⟩
  have hrefl : RecordsExtend oneRecord oneRecord :=
    List.forall₂_same.mpr fun _ _ => ⟨rfl, Value.Extends.same _⟩
  have hbare := hsame oneRecord hrefl bareText _ read?_bareText LaysOut.bare
  have hwrapped := hsame paddedRecord oneRecord_extends wrappedText _ read?_wrappedText
    (LaysOut.wrapped rfl)
  exact ⟨dataset, hholds, hbare.left (by decide), hwrapped.left (by decide)⟩

/-!
## Texts at the limit
-/

/-- Arrays in each other, as many as the number says around the innermost one. -/
def nested : Nat → Value
  | 0 => .array []
  | depth + 1 => .array [nested depth]

theorem nested_isSound (count depth : Nat) :
    (nested count).isSound depth = decide (count < depth) := by
  induction count generalizing depth with
  | zero =>
      rw [nested, Value.isSound, Value.areSound, Bool.and_true]
  | succ count ih =>
      rw [nested, Value.isSound, Value.areSound, Value.areSound, ih, Bool.and_true]
      rw [← Bool.decide_and, decide_eq_decide]
      omega

theorem nested_isWritable (count : Nat) : Json.IsWritable (nested count) := by
  induction count with
  | zero =>
      apply Json.IsWritable.array
      intro item hitem
      cases hitem
  | succ count ih =>
      apply Json.IsWritable.array
      intro item hitem
      rw [List.mem_singleton.mp hitem]
      exact ih

theorem isWritable_singleton (name : String) {value : Value} (h : Json.IsWritable value) :
    Json.IsWritable (.object [(name, value)]) := by
  apply Json.IsWritable.object
  intro member hmember
  rw [List.mem_singleton.mp hmember]
  exact h

theorem isSound_singleton (name : String) (value : Value) (depth : Nat) :
    (Value.object [(name, value)]).isSound (depth + 1) = value.isSound depth := by
  rw [Value.isSound, Value.areMembersSound, Value.areMembersSound, Bool.and_true,
    decide_eq_true (Nat.succ_pos depth), Bool.true_and, Nat.add_sub_cancel]

def deepRecords : List (String × Value) :=
  [("a", .object [("x", nested 124)])]

def deepDocument : Value :=
  .object [("features", .object deepRecords)]

theorem deepRecords_isWritable : Json.IsWritable (.object deepRecords) :=
  isWritable_singleton "a" (isWritable_singleton "x" (nested_isWritable 124))

theorem isSound_deepRecords (depth : Nat) :
    (Value.object deepRecords).isSound (depth + 2) = decide (124 < depth) := by
  rw [deepRecords, isSound_singleton, isSound_singleton, nested_isSound]

theorem deepRecords_decodes : Decodes deepRecords := by
  intro record hrecord
  rw [List.mem_singleton.mp hrecord]
  rfl

def textBeside (member : String) : String :=
  "\x7b\"features\":\x7b\x7d,\"x\":" ++ member ++ "\x7d"

theorem read?_textBeside_number :
    Json.read? (textBeside "1e999") =
      some (.object [("features", .object []), ("x", .number "1e999")]) := by
  rfl

theorem read?_textBeside_half :
    Json.read? (textBeside "\"\\ud800\"") =
      some (.object [("features", .object []), ("x", .garbled)]) := by
  rfl

/--
Records that make a dataset alone make none under `features` when that nests them
too deeply, nor do any records beside a number out of range or half a character.
-/
theorem deepRecords_refused_under_features :
    (Json.read? (Value.object deepRecords).compact = some (.object deepRecords) ∧
      "features" ∉ deepRecords.map Prod.fst ∧ Decodes deepRecords ∧
        ∃ dataset : Dataset, ofText (Value.object deepRecords).compact = .ok dataset ∧
          dataset.Holds deepRecords) ∧
    (Json.read? deepDocument.compact = some deepDocument ∧
      LaysOut deepRecords deepDocument ∧
        ofText deepDocument.compact = .error .datasetNotJson) ∧
    (Json.read? (textBeside "1e999") =
        some (.object [("features", .object []), ("x", .number "1e999")]) ∧
      ofText (textBeside "1e999") = .error .datasetNotJson) ∧
    (Json.read? (textBeside "\"\\ud800\"") =
        some (.object [("features", .object []), ("x", .garbled)]) ∧
      ofText (textBeside "\"\\ud800\"") = .error .datasetNotJson) := by
  have hrecords := Json.read?_compact deepRecords_isWritable
  have hdocument : Json.read? deepDocument.compact = some deepDocument :=
    Json.read?_compact (isWritable_singleton "features" deepRecords_isWritable)
  -- Alone the records need all levels there are, so under `features` one is missing.
  have hsound : (Value.object deepRecords).isSound Value.maxNesting = true := by
    rw [Value.maxNesting, isSound_deepRecords 125]
    rfl
  have hdeep : deepDocument.isSound Value.maxNesting = false := by
    rw [deepDocument, Value.maxNesting, isSound_singleton, isSound_deepRecords 124]
    rfl
  have hnames : "features" ∉ deepRecords.map Prod.fst := by
    simp [deepRecords]
  rcases exists_bare?_eq_some deepRecords_decodes with ⟨dataset, hbare, hholds⟩
  have hloaded := ofText_of_laysOut (readSound?_eq_some hrecords hsound) hnames hbare LaysOut.bare
  refine ⟨⟨hrecords, hnames, deepRecords_decodes, dataset, hloaded, hholds⟩,
    ⟨hdocument, LaysOut.wrapped rfl, ofText_not_sound hdocument hdeep⟩,
    ⟨read?_textBeside_number, ?_⟩, ⟨read?_textBeside_half, ?_⟩⟩
  · exact ofText_not_sound read?_textBeside_number (by decide +kernel)
  · exact ofText_not_sound read?_textBeside_half (by decide)

end Dataset
end Knowledge
end WebCompat
