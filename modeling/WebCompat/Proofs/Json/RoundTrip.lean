import Mathlib.Data.List.Forall2
import WebCompat.Proofs.Json.Literal

/-!
# Documents read back

Whatever spaces a layout puts between the parts of a document, reading what is
written gives the document again.  The documents in question are those without
garbled strings, whose numbers are literals of numbers.
-/

namespace WebCompat
namespace Json

variable {α : Type}

/-!
## Spaces
-/

def IsSpacing (text : List Char) : Prop :=
  ∀ c ∈ text, isSpace c = true

theorem isSpacing_nil : IsSpacing [] := by
  intro c hc
  cases hc

theorem skipSpace_append {space : List Char} (h : IsSpacing space) (text : List Char) :
    skipSpace (space ++ text) = skipSpace text :=
  List.dropWhile_append_of_pos h

theorem skipSpace_cons {c : Char} (h : isSpace c = false) (rest : List Char) :
    skipSpace (c :: rest) = c :: rest := by
  rw [skipSpace, List.dropWhile_cons, h]
  rfl

theorem IsSpacing.isEnd {space : List Char} (h : IsSpacing space) : IsEnd space := by
  intro c hc
  exact endsValue_of_isSpace (h c (List.mem_of_mem_head? hc))

theorem IsSpacing.isEnd_append {space rest : List Char} (h : IsSpacing space)
    (hrest : IsEnd rest) : IsEnd (space ++ rest) := by
  cases space with
  | nil =>
      exact hrest
  | cons c space =>
      exact isEnd_cons (endsValue_of_isSpace (h c List.mem_cons_self))

/-!
## Readers
-/

/-- Whether a reader passes over the spaces in front of what it reads. -/
def IgnoresSpacing (read : Reader α) : Prop :=
  ∀ {space : List Char}, IsSpacing space → ∀ text, read (space ++ text) = read text

/-- Whether a reader takes a text for the given value, at every end of the text. -/
def ReadsAs (read : Reader α) (text : List Char) (found : α) : Prop :=
  ∀ {rest : List Char}, IsEnd rest → read (text ++ rest) = some (found, rest)

def OpensValue (text : List Char) : Prop :=
  ∃ c rest, text = c :: rest ∧ isSpace c = false ∧ c ≠ ']' ∧ c ≠ '\x7d'

def IsClosing (c : Char) : Prop :=
  c = ']' ∨ c = '\x7d'

theorem IsClosing.not_isSpace {c : Char} (h : IsClosing c) : isSpace c = false := by
  rcases h with rfl | rfl <;> decide

theorem IsClosing.endsValue {c : Char} (h : IsClosing c) : endsValue c = true := by
  rcases h with rfl | rfl <;> decide

theorem IsClosing.ne_comma {c : Char} (h : IsClosing c) : c ≠ ',' := by
  rcases h with rfl | rfl <;> decide

theorem OpensValue.exists_cons {text : List Char} (h : OpensValue text) {closing : Char}
    (hclosing : IsClosing closing) :
    ∃ c rest, text = c :: rest ∧ isSpace c = false ∧ c ≠ closing := by
  rcases h with ⟨c, rest, htext, hspace, hbracket, hbrace⟩
  rcases hclosing with rfl | rfl
  · exact ⟨c, rest, htext, hspace, hbracket⟩
  · exact ⟨c, rest, htext, hspace, hbrace⟩

theorem value_ignoresSpacing (count depth : Nat) : IgnoresSpacing (value count depth) := by
  intro space hspace text
  cases depth with
  | zero =>
      rfl
  | succ depth =>
      rw [value, value, skipSpace_append hspace]

theorem member_ignoresSpacing (read : Reader Value) : IgnoresSpacing (member read) := by
  intro space hspace text
  rw [member, member, skipSpace_append hspace]

/-!
## Containers
-/

theorem joinCommas_cons (first : List Char) (others : List (List Char)) :
    joinCommas (first :: others) = first ++ others.flatMap (',' :: ·) := by
  induction others generalizing first with
  | nil =>
      simp [joinCommas]
  | cons second others ih =>
      rw [joinCommas] at ih ⊢
      rw [List.intercalate_cons_cons, ih, List.flatMap_cons, List.append_assoc]
      rfl

/--
Texts between brackets, with commas between them.  Each text stands behind
`before`, and the closing bracket behind `after`.
-/
def enclosed (opening closing : Char) (before after : List Char) :
    List (List Char) → List Char
  | [] => [opening, closing]
  | texts => opening :: (joinCommas (texts.map (before ++ ·)) ++ after ++ [closing])

theorem enclosed_opens (opening closing : Char) (before after : List Char)
    (texts : List (List Char)) :
    ∃ inside, enclosed opening closing before after texts = opening :: inside := by
  cases texts with
  | nil =>
      exact ⟨_, rfl⟩
  | cons first others =>
      exact ⟨_, rfl⟩

theorem enclosed_closes (opening closing : Char) (before after : List Char)
    (texts : List (List Char)) :
    ∃ inside, enclosed opening closing before after texts = inside ++ [closing] := by
  cases texts with
  | nil =>
      exact ⟨[opening], rfl⟩
  | cons first others =>
      exact ⟨opening :: _, rfl⟩

theorem enclosed_cons (opening closing : Char) (before after first : List Char)
    (others : List (List Char)) :
    enclosed opening closing before after (first :: others) =
      opening :: (before ++ (first ++
        (others.flatMap (fun text => ',' :: (before ++ text)) ++ (after ++ [closing])))) := by
  rw [enclosed, List.map_cons, joinCommas_cons, List.flatMap_map]
  · simp only [List.append_assoc]
  · intro h
    cases h

theorem length_le_length_enclosed (opening closing : Char) (before after : List Char)
    (texts : List (List Char)) :
    texts.length ≤ (enclosed opening closing before after texts).length := by
  cases texts with
  | nil =>
      exact Nat.zero_le _
  | cons first others =>
      have hcommas : others.length ≤
          (others.flatMap (fun text => ',' :: (before ++ text))).length := by
        rw [List.length_flatMap]
        induction others with
        | nil =>
            rfl
        | cons second others ih =>
            rw [List.map_cons, List.sum_cons, List.length_cons, List.length_cons]
            omega
      rw [enclosed_cons]
      simp only [List.length_cons, List.length_append]
      omega

theorem length_lt_length_enclosed (opening closing : Char) (before after : List Char)
    {texts : List (List Char)} {text : List Char} (h : text ∈ texts) :
    text.length < (enclosed opening closing before after texts).length := by
  cases texts with
  | nil =>
      cases h
  | cons first others =>
      rw [enclosed_cons]
      simp only [List.length_cons, List.length_append]
      rcases List.mem_cons.mp h with rfl | hothers
      · omega
      · have hpart := (List.sublist_flatten_of_mem
          (List.mem_map_of_mem (f := fun text => ',' :: (before ++ text)) hothers)).length_le
        rw [← List.flatMap_def] at hpart
        simp only [List.length_cons, List.length_append] at hpart
        omega

section Items

variable {read : Reader α} {before after : List Char} {closing : Char}
variable {texts : List (List Char)} {found : List α}

theorem isEnd_others (hafter : IsSpacing after) (hclosing : IsClosing closing)
    (before : List Char) (texts : List (List Char)) (rest : List Char) :
    IsEnd (texts.flatMap (fun text => ',' :: (before ++ text)) ++ (after ++ closing :: rest)) := by
  cases texts with
  | nil =>
      exact hafter.isEnd_append (isEnd_cons hclosing.endsValue)
  | cons text texts =>
      exact isEnd_cons rfl

theorem moreItems_flatMap (hread : IgnoresSpacing read) (hbefore : IsSpacing before)
    (hafter : IsSpacing after) (hclosing : IsClosing closing)
    (h : List.Forall₂ (ReadsAs read) texts found) {count : Nat} (hcount : texts.length < count)
    (rest : List Char) :
    moreItems closing read count
      (texts.flatMap (fun text => ',' :: (before ++ text)) ++ (after ++ closing :: rest)) =
        some (found, rest) := by
  induction h generalizing count with
  | nil =>
      cases count with
      | zero =>
          cases hcount
      | succ count =>
          rw [List.flatMap_nil, List.nil_append, moreItems, skipSpace_append hafter,
            skipSpace_cons hclosing.not_isSpace]
          exact if_pos rfl
  | @cons text item texts found htext _ ih =>
      cases count with
      | zero =>
          cases hcount
      | succ count =>
          have hends := isEnd_others hafter hclosing before texts rest
          have hfirst := htext hends
          rw [← hread hbefore] at hfirst
          have hothers := ih (Nat.lt_of_succ_lt_succ hcount)
          rw [List.flatMap_cons, List.cons_append, List.cons_append, List.append_assoc,
            List.append_assoc, moreItems, skipSpace_cons (by decide)]
          dsimp only
          rw [if_neg hclosing.ne_comma.symm, if_pos rfl]
          exact Option.bind_eq_some_iff.mpr ⟨_, hfirst,
            Option.bind_eq_some_iff.mpr ⟨_, hothers, rfl⟩⟩

theorem items_of_enclosed (hread : IgnoresSpacing read) (hbefore : IsSpacing before)
    (hafter : IsSpacing after) (hclosing : IsClosing closing)
    (hopens : ∀ text ∈ texts, OpensValue text)
    (h : List.Forall₂ (ReadsAs read) texts found) {count : Nat} (hcount : texts.length ≤ count)
    (opening : Char) (rest : List Char) :
    ∃ inside, enclosed opening closing before after texts ++ rest = opening :: inside ∧
      items closing read count inside = some (found, rest) := by
  cases h with
  | nil =>
      refine ⟨closing :: rest, rfl, ?_⟩
      rw [items, skipSpace_cons hclosing.not_isSpace]
      exact if_pos rfl
  | @cons text item texts found htext hothers =>
      have hends := isEnd_others hafter hclosing before texts rest
      have hfirst := htext hends
      have hmore := moreItems_flatMap hread hbefore hafter hclosing hothers hcount rest
      refine ⟨before ++ (text ++ (texts.flatMap (fun text => ',' :: (before ++ text)) ++
        (after ++ closing :: rest))), ?_, ?_⟩
      · rw [enclosed_cons]
        simp only [List.cons_append, List.append_assoc, List.nil_append]
      · rcases (hopens text List.mem_cons_self).exists_cons hclosing with
          ⟨c, later, rfl, hspace, hne⟩
        rw [items, skipSpace_append hbefore, List.cons_append, skipSpace_cons hspace]
        dsimp only
        rw [if_neg hne]
        exact Option.bind_eq_some_iff.mpr ⟨_, hfirst,
          Option.bind_eq_some_iff.mpr ⟨_, hmore, rfl⟩⟩

end Items

/-!
## Values
-/

theorem value_quote (count depth : Nat) (text : String) :
    ReadsAs (value count (depth + 1)) (quote text) (.string text) := by
  intro rest _
  rw [quote, List.cons_append, List.append_assoc, value, skipSpace_cons (by decide)]
  exact Option.map_eq_some_iff.mpr ⟨_, stringTail_escapes text rest, rfl⟩

theorem OpensNumber.ne {c other : Char} (h : OpensNumber c) (hother : ¬OpensNumber other) :
    c ≠ other := by
  rintro rfl
  exact hother h

theorem OpensNumber.not_isSpace {c : Char} (h : OpensNumber c) : isSpace c = false := by
  rw [Bool.eq_false_iff]
  intro hspace
  rcases eq_of_isSpace hspace with rfl | rfl | rfl | rfl <;> revert h <;> decide

theorem value_of_opensNumber {c : Char} (h : OpensNumber c) (count depth : Nat)
    (rest : List Char) :
    value count (depth + 1) (c :: rest) =
      (numberLiteral (c :: rest)).map fun (literal, rest) =>
        (.number (String.ofList literal), rest) := by
  rw [value, skipSpace_cons h.not_isSpace]
  split
  case h_1 heq =>
      cases heq
  case h_8 _ _ _ _ _ _ _ heq =>
      rw [heq]
  all_goals
    rename_i heq
    exact absurd (List.cons.inj heq).left (h.ne (by decide))

theorem value_number {literal : String}
    (h : numberLiteral literal.toList = some (literal.toList, [])) (count depth : Nat) :
    ReadsAs (value count (depth + 1)) literal.toList (.number literal) := by
  intro rest hrest
  have hliteral := numberLiteral_stopsAtEnd h hrest
  rcases opensNumber_of_numberLiteral h with ⟨c, later, htext, hc⟩
  rw [htext] at hliteral ⊢
  rw [List.cons_append] at hliteral ⊢
  rw [value_of_opensNumber hc, hliteral, ← htext]
  simp only [Option.map_some, String.ofList_toList, List.nil_append]

theorem value_array {count depth : Nat} {texts : List (List Char)} {found : List Value}
    {before after : List Char} (hbefore : IsSpacing before) (hafter : IsSpacing after)
    (hopens : ∀ text ∈ texts, OpensValue text)
    (h : List.Forall₂ (ReadsAs (value count depth)) texts found) (hcount : texts.length ≤ count) :
    ReadsAs (value count (depth + 1)) (enclosed '[' ']' before after texts) (.array found) := by
  intro rest _
  rcases items_of_enclosed (value_ignoresSpacing count depth) hbefore hafter (.inl rfl) hopens h
    hcount '[' rest with ⟨inside, htext, hitems⟩
  rw [htext, value, skipSpace_cons (by decide)]
  exact Option.map_eq_some_iff.mpr ⟨_, hitems, rfl⟩

theorem mapM_named (members : List (String × Value)) :
    (members.map fun member => (some member.1, member.2)).mapM
      (fun (member : Option String × Value) => member.1.map (·, member.2)) = some members := by
  induction members with
  | nil =>
      rfl
  | cons first rest ih =>
      rw [List.map_cons, List.mapM_cons, ih]
      rfl

theorem objectOf_named (members : List (String × Value)) :
    objectOf (members.map fun member => (some member.1, member.2)) = .object members := by
  unfold objectOf
  split
  · rename_i named hnamed
    rw [Option.some.inj ((mapM_named members).symm.trans hnamed)]
  · rename_i hnone
    cases (mapM_named members).symm.trans hnone

theorem member_readsAs {read : Reader Value} (hread : IgnoresSpacing read) {gap : List Char}
    (hgap : IsSpacing gap) {text : List Char} {found : Value} (h : ReadsAs read text found)
    (name : String) :
    ReadsAs (member read) (quote name ++ ':' :: (gap ++ text)) (some name, found) := by
  intro rest hrest
  have hvalue := h hrest
  rw [← hread hgap] at hvalue
  rw [quote, member]
  simp only [List.cons_append, List.append_assoc, List.nil_append]
  rw [skipSpace_cons (by decide)]
  refine Option.bind_eq_some_iff.mpr ⟨_, stringTail_escapes name _, ?_⟩
  dsimp only
  rw [skipSpace_cons (by decide)]
  exact Option.bind_eq_some_iff.mpr ⟨_, hvalue, rfl⟩

theorem value_object {count depth : Nat} {texts : List (List Char)}
    {found : List (String × Value)} {before after : List Char} (hbefore : IsSpacing before)
    (hafter : IsSpacing after) (hopens : ∀ text ∈ texts, OpensValue text)
    (h : List.Forall₂ (ReadsAs (member (value count depth))) texts
      (found.map fun member => (some member.1, member.2)))
    (hcount : texts.length ≤ count) :
    ReadsAs (value count (depth + 1)) (enclosed '\x7b' '\x7d' before after texts)
      (.object found) := by
  intro rest _
  rcases items_of_enclosed (member_ignoresSpacing (value count depth)) hbefore hafter (.inr rfl)
    hopens h hcount '\x7b' rest with ⟨inside, htext, hitems⟩
  rw [htext, value, skipSpace_cons (by decide)]
  exact Option.map_eq_some_iff.mpr
    ⟨_, hitems, congrArg (·, rest) (objectOf_named found)⟩

/-!
## Layouts
-/

/-- Whether a document holds nothing garbled, and literals of numbers as its numbers. -/
inductive IsWritable : Value → Prop where
  | null : IsWritable .null
  | bool (value : Bool) : IsWritable (.bool value)
  | number {literal : String} (h : numberLiteral literal.toList = some (literal.toList, [])) :
      IsWritable (.number literal)
  | string (text : String) : IsWritable (.string text)
  | array {items : List Value} (h : ∀ item ∈ items, IsWritable item) : IsWritable (.array items)
  | object {members : List (String × Value)} (h : ∀ member ∈ members, IsWritable member.2) :
      IsWritable (.object members)

theorem natural_isWritable (n : Nat) : IsWritable (.natural n) :=
  .number (numberLiteral_toString n)

/-- A way to write documents at every depth of nesting, by the spaces that it puts in. -/
structure Layout where
  write : Nat → Value → List Char
  /-- What stands in front of an item at the given depth. -/
  lineStart : Nat → List Char
  /-- What stands between a colon and a value. -/
  gap : List Char
  lineStart_isSpacing : ∀ depth, IsSpacing (lineStart depth)
  gap_isSpacing : IsSpacing gap
  write_null : ∀ depth, write depth .null = "null".toList
  write_bool : ∀ depth value, write depth (.bool value) =
    (if value then "true" else "false").toList
  write_number : ∀ depth literal, write depth (.number literal) = literal.toList
  write_string : ∀ depth text, write depth (.string text) = quote text
  write_array : ∀ depth items, write depth (.array items) =
    enclosed '[' ']' (lineStart (depth + 1)) (lineStart depth)
      (items.map (write (depth + 1)))
  write_object : ∀ depth members, write depth (.object members) =
    enclosed '\x7b' '\x7d' (lineStart (depth + 1)) (lineStart depth)
      (members.map fun member =>
        quote member.1 ++ ':' :: (gap ++ write (depth + 1) member.2))

namespace Layout

theorem prettyItems_eq_map (depth : Nat) (items : List Value) :
    Value.prettyItems depth items = items.map (Value.prettyText depth) := by
  induction items with
  | nil =>
      rfl
  | cons item items ih =>
      rw [Value.prettyItems, ih, List.map_cons]

theorem prettyMembers_eq_map (depth : Nat) (members : List (String × Value)) :
    Value.prettyMembers depth members =
      members.map fun member => quote member.1 ++ ':' :: ' ' :: member.2.prettyText depth := by
  induction members with
  | nil =>
      rfl
  | cons member members ih =>
      rw [Value.prettyMembers, ih, List.map_cons]

theorem layOut_eq_enclosed (opening closing : Char) (depth : Nat) (texts : List (List Char)) :
    Value.layOut opening closing depth texts =
      enclosed opening closing (Value.lineStart (depth + 1)) (Value.lineStart depth) texts := by
  cases texts <;> rfl

def pretty : Layout where
  write := Value.prettyText
  lineStart := Value.lineStart
  gap := [' ']
  lineStart_isSpacing := by
    intro depth c hc
    rcases List.mem_cons.mp hc with rfl | hblank
    · rfl
    · rw [List.eq_of_mem_replicate hblank]
      rfl
  gap_isSpacing := by
    intro c hc
    rw [List.mem_singleton.mp hc]
    rfl
  write_null _ := rfl
  write_bool _ _ := rfl
  write_number _ _ := rfl
  write_string _ _ := rfl
  write_array := by
    intro depth items
    rw [Value.prettyText, prettyItems_eq_map, layOut_eq_enclosed]
  write_object := by
    intro depth members
    rw [Value.prettyText, prettyMembers_eq_map, layOut_eq_enclosed]
    rfl

theorem compactItems_eq_map (items : List Value) :
    Value.compactItems items = items.map Value.compactText := by
  induction items with
  | nil =>
      rfl
  | cons item items ih =>
      rw [Value.compactItems, ih, List.map_cons]

theorem compactMembers_eq_map (members : List (String × Value)) :
    Value.compactMembers members =
      members.map fun member => quote member.1 ++ ':' :: member.2.compactText := by
  induction members with
  | nil =>
      rfl
  | cons member members ih =>
      rw [Value.compactMembers, ih, List.map_cons]

theorem joinCommas_eq_enclosed (opening closing : Char) (texts : List (List Char)) :
    opening :: (joinCommas texts ++ [closing]) = enclosed opening closing [] [] texts := by
  cases texts with
  | nil =>
      rfl
  | cons first others =>
      rw [enclosed_cons, joinCommas_cons, List.append_assoc]
      rfl

def compact : Layout where
  write _ := Value.compactText
  lineStart _ := []
  gap := []
  lineStart_isSpacing _ := isSpacing_nil
  gap_isSpacing := isSpacing_nil
  write_null _ := rfl
  write_bool _ _ := rfl
  write_number _ _ := rfl
  write_string _ _ := rfl
  write_array := by
    intro depth items
    rw [Value.compactText, compactItems_eq_map, joinCommas_eq_enclosed]
  write_object := by
    intro depth members
    rw [Value.compactText, compactMembers_eq_map, joinCommas_eq_enclosed]
    rfl

variable (layout : Layout)

theorem write_opensValue {document : Value} (h : IsWritable document) (depth : Nat) :
    OpensValue (layout.write depth document) := by
  cases h with
  | null =>
      rw [layout.write_null]
      exact ⟨'n', _, rfl, by decide⟩
  | bool value =>
      rw [layout.write_bool]
      cases value
      · exact ⟨'f', _, rfl, by decide⟩
      · exact ⟨'t', _, rfl, by decide⟩
  | number hliteral =>
      rw [layout.write_number]
      rcases opensNumber_of_numberLiteral hliteral with ⟨c, rest, htext, hc⟩
      exact ⟨c, rest, htext, hc.not_isSpace, hc.ne (by decide), hc.ne (by decide)⟩
  | string text =>
      rw [layout.write_string]
      exact ⟨'"', _, rfl, by decide⟩
  | array _ =>
      rw [layout.write_array]
      rcases enclosed_opens '[' ']' _ _ _ with ⟨inside, hinside⟩
      exact ⟨'[', inside, hinside, by decide⟩
  | object _ =>
      rw [layout.write_object]
      rcases enclosed_opens '\x7b' '\x7d' _ _ _ with ⟨inside, hinside⟩
      exact ⟨'\x7b', inside, hinside, by decide⟩

theorem write_readsAs {document : Value} (h : IsWritable document) {level count depth : Nat}
    (hcount : (layout.write level document).length ≤ count)
    (hdepth : (layout.write level document).length ≤ depth) :
    ReadsAs (value count (depth + 1)) (layout.write level document) document := by
  -- The text of an item is shorter than that of its container, so that there is room for it too.
  induction h generalizing level depth with
  | null =>
      rw [layout.write_null]
      intro rest _
      rfl
  | bool value =>
      rw [layout.write_bool]
      intro rest _
      cases value <;> rfl
  | number hliteral =>
      rw [layout.write_number]
      exact value_number hliteral count depth
  | string text =>
      rw [layout.write_string]
      exact value_quote count depth text
  | @array items hitems ih =>
      rw [layout.write_array] at hcount hdepth ⊢
      apply value_array (layout.lineStart_isSpacing _) (layout.lineStart_isSpacing _)
      · intro text htext
        rcases List.mem_map.mp htext with ⟨item, hitem, rfl⟩
        exact layout.write_opensValue (hitems item hitem) _
      · rw [List.forall₂_map_left_iff, List.forall₂_same]
        intro item hitem
        have htext : layout.write (level + 1) item ∈ items.map (layout.write (level + 1)) :=
          List.mem_map_of_mem hitem
        have hlength := length_lt_length_enclosed '[' ']' (layout.lineStart (level + 1))
          (layout.lineStart level) htext
        cases depth with
        | zero =>
            omega
        | succ depth =>
            apply ih item hitem
            · omega
            · omega
      · exact (length_le_length_enclosed _ _ _ _ _).trans hcount
  | @object members hmembers ih =>
      rw [layout.write_object] at hcount hdepth ⊢
      apply value_object (layout.lineStart_isSpacing _) (layout.lineStart_isSpacing _)
      · intro text htext
        rcases List.mem_map.mp htext with ⟨member, _, rfl⟩
        exact ⟨'"', _, rfl, by decide⟩
      · rw [List.forall₂_map_left_iff, List.forall₂_map_right_iff, List.forall₂_same]
        intro member hmember
        have htext : quote member.1 ++ ':' :: (layout.gap ++ layout.write (level + 1) member.2) ∈
            members.map fun member =>
              quote member.1 ++ ':' :: (layout.gap ++ layout.write (level + 1) member.2) :=
          List.mem_map_of_mem hmember
        have hlength := length_lt_length_enclosed '\x7b' '\x7d' (layout.lineStart (level + 1))
          (layout.lineStart level) htext
        rw [List.length_append, List.length_cons, List.length_append] at hlength
        apply member_readsAs (value_ignoresSpacing count depth) layout.gap_isSpacing
        cases depth with
        | zero =>
            omega
        | succ depth =>
            apply ih member hmember
            · omega
            · omega
      · exact (length_le_length_enclosed _ _ _ _ _).trans hcount

theorem read?_of_toList (level : Nat) {document : Value} (h : IsWritable document)
    {text : String} {space : List Char} (hspace : IsSpacing space)
    (htext : text.toList = layout.write level document ++ space) : read? text = some document := by
  have hlength : (layout.write level document).length ≤ text.toList.length := by
    rw [htext, List.length_append]
    omega
  have hvalue := layout.write_readsAs h hlength hlength hspace.isEnd
  rw [← htext] at hvalue
  have hnothing := skipSpace_append hspace []
  rw [List.append_nil] at hnothing
  refine Option.bind_eq_some_iff.mpr ⟨_, hvalue, ?_⟩
  dsimp only
  rw [hnothing]
  rfl

end Layout

theorem read?_pretty {document : Value} (h : IsWritable document) {space : String}
    (hspace : IsSpacing space.toList) : read? (document.pretty ++ space) = some document := by
  apply Layout.pretty.read?_of_toList 0 h hspace
  rw [String.toList_append, Value.pretty, String.toList_ofList]
  rfl

theorem read?_compact {document : Value} (h : IsWritable document) :
    read? document.compact = some document := by
  apply Layout.compact.read?_of_toList 0 h isSpacing_nil
  rw [Value.compact, String.toList_ofList, List.append_nil]
  rfl

end Json
end WebCompat
