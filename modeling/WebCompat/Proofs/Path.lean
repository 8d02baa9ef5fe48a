import Mathlib.Data.List.Lex
import WebCompat.Path
import WebCompat.Proofs.Text.ByteOrder

/-!
# Paths and their order

Paths are compared component by component, and only the names of entries by
their bytes.  A path that goes on with one more name has one more component, so
paths below one directory are ordered by the names that lead there.
-/

namespace WebCompat
namespace Step

def rank : Step → Nat
  | root => 0
  | here => 1
  | up => 2
  | name _ => 3

/-- The order of components: names come last and are compared by their bytes. -/
def Before : Step → Step → Prop
  | name first, name second => Text.bytes first < Text.bytes second
  | first, second => first.rank < second.rank

instance : Std.Asymm Before where
  asymm first second hfirst hsecond := by
    cases first with
    | name first =>
        cases second with
        | name second => exact List.lt_asymm hfirst hsecond
        | root | here | up => exact Nat.lt_asymm hfirst hsecond
    | root | here | up =>
        cases second with
        | root | here | up | name => exact Nat.lt_asymm hfirst hsecond

end Step

/-!
# Paths of entries

The path of an entry has the components of the path of its directory, and one more.
-/

namespace Path

/-- The order of paths, component by component. -/
def Before (first second : String) : Prop :=
  List.Lex Step.Before (components first) (components second)

instance : Std.Asymm Before where
  asymm _ _ hfirst hsecond := Std.Asymm.asymm (r := List.Lex Step.Before) _ _ hfirst hsecond

theorem lex_map_name {first second : List String} (h : first < second) :
    List.Lex Step.Before (first.map .name) (second.map .name) := by
  have hlex : List.Lex (· < ·) first second := h
  clear h
  induction hlex with
  | nil => exact .nil
  | cons _ ih => exact .cons ih
  | rel hname => exact .rel (Text.bytes_lt_of_lt hname)

def IsName (text : String) : Prop :=
  text ≠ "" ∧ text ≠ "." ∧ text ≠ ".." ∧ '/' ∉ text.toList

instance : DecidablePred IsName := fun _ => inferInstanceAs (Decidable (_ ∧ _))

theorem parts_append_slash (path rest : String) :
    parts (path ++ "/" ++ rest) = parts path ++ parts rest := by
  have hlist : (path ++ "/" ++ rest).toList = path.toList ++ '/' :: rest.toList := by
    simp
  rw [parts, hlist, List.splitOn, List.splitOnP_append_cons _ _ (by simp), List.map_append]
  rfl

theorem names_append_slash (path rest : String) :
    names (path ++ "/" ++ rest) = names path ++ names rest := by
  rw [names, parts_append_slash, List.filter_append]
  rfl

theorem parts_eq_singleton {name : String} (hname : '/' ∉ name.toList) : parts name = [name] := by
  have hsplit : name.toList.splitOn '/' = [name.toList] := by
    apply List.splitOnP_eq_singleton
    intro c hc
    rw [beq_eq_false_iff_ne]
    rintro rfl
    exact hname hc
  rw [parts, hsplit, List.map_singleton, String.ofList_toList]

theorem names_of_isName {name : String} (hname : IsName name) : names name = [name] := by
  rw [names, parts_eq_singleton hname.2.2.2]
  simp [hname.1]

theorem names_join {name : String} (hname : IsName name) (path : String) :
    names (join path name) = names path ++ [name] := by
  rw [← names_of_isName hname, join]
  split
  · rename_i hbare
    rw [Bool.or_eq_true, String.isEmpty_iff, beq_iff_eq, List.getLast?_eq_some_iff] at hbare
    rcases hbare with hempty | ⟨before, hbefore⟩
    · rw [hempty, String.empty_append]
      rfl
    · have hpath : path = String.ofList before ++ "/" ++ "" := by
        rw [← String.toList_inj, hbefore]
        simp
      have hnames : names path = names (String.ofList before) := by
        rw [hpath, names_append_slash]
        exact List.append_nil _
      rw [hnames, hpath, String.append_empty, names_append_slash]
  · rw [names_append_slash]

theorem isAbsolute_join {name : String} (hname : IsName name) (path : String) :
    isAbsolute (join path name) = isAbsolute path := by
  by_cases hempty : path = ""
  · have hhead : name.toList.head? ≠ some '/' := fun h => hname.2.2.2 (List.mem_of_head? h)
    rw [hempty]
    simp [join, isAbsolute, hhead]
  · have hhead (rest : List Char) : (path.toList ++ rest).head? = path.toList.head? := by
      rw [List.head?_append_of_ne_nil _ (by simpa using hempty)]
    rw [join]
    split
    · simp [isAbsolute, hhead]
    · simp [isAbsolute, hhead]

theorem stepOf_isName {name : String} (hname : IsName name) : stepOf name = .name name := by
  rw [stepOf, if_neg hname.2.1, if_neg hname.2.2.1]

theorem components_join {name : String} (hname : IsName name) (path : String) :
    components (join path name) = components path ++ [.name name] := by
  rw [components, components, names_join hname, isAbsolute_join hname, List.map_append,
    List.map_singleton, stepOf_isName hname]
  generalize (names path).map stepOf = steps
  cases isAbsolute path with
  | true => simp
  | false =>
      cases steps with
      | nil => rfl
      | cons first rest =>
          cases first with
          | here | root | up | name => simp

end Path
end WebCompat
