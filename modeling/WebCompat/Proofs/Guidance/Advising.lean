import WebCompat.Program

/-!
# Issues with advice

Advice is attached to the issues of a scan when the scan is over.  It is complete
whatever becomes of the requests to the provider, and nothing but the advice of
an issue is changed.  So a scan with advice counts and reports the same issues as
a scan without.
-/

namespace WebCompat

/-!
## Complete advice
-/

namespace Text

theorem isBlankText_cons {c : Char} {rest : List Char} (h : isBlank c = false) :
    isBlankText (String.ofList (c :: rest)) = false := by
  rw [isBlankText, String.toList_ofList, List.all_cons, h, Bool.false_and]

theorem isBlankText_append {first : String} (h : isBlankText first = false) (second : String) :
    isBlankText (first ++ second) = false := by
  rw [isBlankText] at h
  rw [isBlankText, String.toList_append, List.all_append, h, Bool.false_and]

theorem all_isBlank_trimEnd {text : List Char} (h : trimEnd text ≠ []) :
    (trimEnd text).all isBlank = false := by
  have hne : text.reverse.dropWhile isBlank ≠ [] := by
    intro hnil
    rw [trimEnd, hnil] at h
    exact h rfl
  have hhead := List.head_dropWhile_not isBlank hne
  rw [List.all_eq_false]
  refine ⟨(text.reverse.dropWhile isBlank).head hne, ?_, by rw [hhead]; decide⟩
  rw [trimEnd, List.mem_reverse]
  exact List.head_mem hne

end Text

namespace Advice

open Text (isBlankText_cons isBlankText_append)

/-- Whether no text of an advice is blank. -/
structure IsComplete (advice : Advice) : Prop where
  alternative : Text.isBlankText advice.alternative = false
  explanation : Text.isBlankText advice.explanation = false
  codeExample : Text.isBlankText advice.codeExample = false
  browserSupport : Text.isBlankText advice.browserSupport = false

-- A text that begins with a visible character is not blank; evaluating all of it is slow.

theorem clipboard_isComplete : clipboard.IsComplete where
  alternative := isBlankText_cons (by decide)
  explanation := isBlankText_append (isBlankText_cons (by decide)) _
  codeExample :=
    isBlankText_append (isBlankText_append (isBlankText_cons (by decide)) _) _
  browserSupport := isBlankText_cons (by decide)

theorem animation_isComplete : animation.IsComplete where
  alternative := isBlankText_cons (by decide)
  explanation := isBlankText_append (isBlankText_cons (by decide)) _
  codeExample := isBlankText_append (isBlankText_cons (by decide)) _
  browserSupport := isBlankText_cons (by decide)

theorem media_isComplete : media.IsComplete where
  alternative := isBlankText_cons (by decide)
  explanation := isBlankText_cons (by decide)
  codeExample :=
    isBlankText_append (isBlankText_append (isBlankText_append (isBlankText_append
      (isBlankText_append (isBlankText_append (isBlankText_cons (by decide)) _) _) _) _) _) _
  browserSupport := isBlankText_cons (by decide)

theorem url_isComplete : url.IsComplete where
  alternative := isBlankText_cons (by decide)
  explanation := isBlankText_cons (by decide)
  codeExample := isBlankText_cons (by decide)
  browserSupport := isBlankText_cons (by decide)

theorem audio_isComplete : audio.IsComplete where
  alternative := isBlankText_cons (by decide)
  explanation := isBlankText_cons (by decide)
  codeExample := isBlankText_cons (by decide)
  browserSupport := isBlankText_cons (by decide)

theorem dialog_isComplete : dialog.IsComplete where
  alternative := isBlankText_cons (by decide)
  explanation := isBlankText_append (isBlankText_cons (by decide)) _
  codeExample := isBlankText_append (isBlankText_cons (by decide)) _
  browserSupport := isBlankText_cons (by decide)

theorem general_isComplete : general.IsComplete where
  alternative := isBlankText_cons (by decide)
  explanation := isBlankText_append (isBlankText_cons (by decide)) _
  codeExample := isBlankText_cons (by decide)
  browserSupport := isBlankText_cons (by decide)

theorem table_isComplete : ∀ entry ∈ table, entry.2.IsComplete := by
  simp [table, clipboard_isComplete, animation_isComplete, media_isComplete, url_isComplete,
    audio_isComplete, dialog_isComplete]

theorem builtin_isComplete (api : String) : (builtin api).IsComplete := by
  unfold builtin
  cases hknown : known? api with
  | none =>
      exact general_isComplete
  | some advice =>
      rcases List.lookup_eq_some_iff.mp hknown with ⟨front, back, htable, _⟩
      have hmem : (api, advice) ∈ table := by
        rw [htable]
        simp
      exact table_isComplete (api, advice) hmem

end Advice

namespace Reply

theorem placeholder_isComplete : placeholder.IsComplete where
  alternative := Text.isBlankText_cons (by decide)
  explanation := Text.isBlankText_cons (by decide)
  codeExample := Text.isBlankText_cons (by decide)
  browserSupport := Text.isBlankText_cons (by decide)

theorem isBlankText_orPlaceholder {default : String} (h : Text.isBlankText default = false)
    (given : Option String) : Text.isBlankText (orPlaceholder default given) = false := by
  unfold orPlaceholder
  cases hgiven : given.filter fun text => !Text.isBlankText text with
  | none =>
      exact h
  | some text =>
      have htext := (Option.filter_eq_some_iff.mp hgiven).right
      simpa using htext

theorem isBlankText_sectionOr {default : String} (h : Text.isBlankText default = false)
    (text label : String) : Text.isBlankText (sectionOr default text label) = false := by
  unfold sectionOr
  dsimp only
  split
  · exact h
  · rename_i hfound
    rw [Text.isBlankText, sectionText, String.toList_ofList]
    apply Text.all_isBlank_trimEnd
    intro hnil
    apply hfound
    rw [sectionText, Text.trim, hnil]
    rfl

theorem isComplete_of_structured? {reply : String} {advice : Advice}
    (h : structured? reply = some advice) : advice.IsComplete := by
  rcases Option.bind_eq_some_iff.mp h with ⟨document, _, hdocument⟩
  rcases Option.bind_eq_some_iff.mp hdocument with ⟨field, _, hfields⟩
  simp only [Option.bind_eq_bind, Option.bind_eq_some_iff] at hfields
  rcases hfields with ⟨first, _, second, _, third, _, fourth, _, hadvice⟩
  cases hadvice
  exact {
    alternative := isBlankText_orPlaceholder placeholder_isComplete.alternative first
    explanation := isBlankText_orPlaceholder placeholder_isComplete.explanation second
    codeExample := isBlankText_orPlaceholder placeholder_isComplete.codeExample third
    browserSupport := isBlankText_orPlaceholder placeholder_isComplete.browserSupport fourth }

theorem ofFreeText_isComplete (reply : String) : (ofFreeText reply).IsComplete := by
  constructor <;> simp only [ofFreeText]
  · exact isBlankText_sectionOr placeholder_isComplete.alternative reply "alternative"
  · exact isBlankText_sectionOr placeholder_isComplete.explanation reply "explanation"
  · exact isBlankText_sectionOr placeholder_isComplete.codeExample reply "codeExample"
  · exact isBlankText_sectionOr placeholder_isComplete.browserSupport reply "browserSupport"

theorem advice_isComplete (reply : String) : (advice reply).IsComplete := by
  unfold advice
  cases hstructured : structured? reply with
  | some found =>
      exact isComplete_of_structured? hstructured
  | none =>
      exact ofFreeText_isComplete reply

end Reply

/-!
## Outcomes of requests
-/

namespace Outcome

/--
Whether an outcome is a successful answer, whose first choice has a message with
the given content that is not blank.
-/
def Brings (outcome : Outcome) (content : String) : Prop :=
  ∃ status body document,
    outcome = .answer status body ∧ 200 ≤ status ∧ status < 300 ∧
      Json.read? body = some document ∧ firstContent? document = some (some content) ∧
        Text.isBlankText content = false

theorem reply_answer (status : Nat) (body : String) :
    (answer status body).reply =
      if status < 200 ∨ 300 ≤ status then .error (.providerStatus status)
      else
        match (Json.read? body).bind firstContent? with
        | .none => .error .replyMalformed
        | some content =>
            match content.filter fun text => !Text.isBlankText text with
            | some text => .ok text
            | .none => .error .replyEmpty :=
  rfl

theorem reply_eq_ok_iff {outcome : Outcome} {content : String} :
    outcome.reply = .ok content ↔ outcome.Brings content := by
  cases outcome with
  | none =>
      constructor
      · intro h
        cases h
      · rintro ⟨status, body, document, h, _⟩
        cases h
  | answer status body =>
      rw [reply_answer]
      constructor
      · intro h
        split at h
        · cases h
        · split at h
          · cases h
          · rename_i hstatus found hfound
            rcases Option.bind_eq_some_iff.mp hfound with ⟨document, hread, hfirst⟩
            split at h
            · rename_i text hfilter
              cases h
              rcases Option.filter_eq_some_iff.mp hfilter with ⟨hcontent, hblank⟩
              rw [hcontent] at hfirst
              exact ⟨status, body, document, rfl, by omega, by omega, hread, hfirst,
                by simpa using hblank⟩
            · cases h
      · rintro ⟨_, _, document, h, hlow, hhigh, hread, hfirst, hblank⟩
        cases h
        have hstatus : ¬(status < 200 ∨ 300 ≤ status) := by
          omega
        have hfilter : (some content).filter (fun text => !Text.isBlankText text) =
            some content := by
          simp [hblank]
        rw [if_neg hstatus, hread, Option.bind_some, hfirst]
        simp only [hfilter]

def advice (outcome : Outcome) (api : String) : Advice :=
  match outcome.reply with
  | .ok content => Reply.advice content
  | .error _ => .builtin api

theorem advice_isComplete (outcome : Outcome) (api : String) :
    (outcome.advice api).IsComplete := by
  unfold advice
  split
  · exact Reply.advice_isComplete _
  · exact Advice.builtin_isComplete api

theorem advice_of_brings {outcome : Outcome} {content : String} (h : outcome.Brings content)
    (api : String) : outcome.advice api = Reply.advice content := by
  rw [advice, reply_eq_ok_iff.mpr h]

theorem advice_of_not_brings {outcome : Outcome} (h : ∀ content, ¬outcome.Brings content)
    (api : String) : outcome.advice api = .builtin api := by
  unfold advice
  split
  · rename_i content hreply
    exact absurd (reply_eq_ok_iff.mp hreply) (h content)
  · rfl

end Outcome

/-!
## Issues and their advice
-/

def Issue.withoutAdvice (issue : Issue) : Issue :=
  { issue with advice := none }

namespace Guidance

/--
What becomes of the question about one use of an API.  Without a credential, and
where the request cannot be sent, there is no answer.
-/
def outcome (settings : ProviderSettings) (exchange : Request → Outcome)
    (api context : String) : Outcome :=
  match settings.credential.bind fun credential =>
      Request.make? settings credential api context with
  | some request => exchange request
  | none => .none

theorem advise_eq_advice_outcome (settings : ProviderSettings) (exchange : Request → Outcome)
    (api context : String) :
    advise settings exchange api context =
      (outcome settings exchange api context).advice api := by
  unfold advise outcome
  cases settings.credential with
  | none =>
      rfl
  | some credential =>
      dsimp only [Option.bind_some, complete]
      cases Request.make? settings credential api context <;> rfl

theorem getElem?_adviseAll (settings : ProviderSettings) (provider : Provider)
    (issues : List Issue) (index : Nat) :
    (adviseAll settings provider issues)[index]? =
      issues[index]?.map fun issue =>
        { issue with
          advice := some ((outcome settings (provider index) issue.api issue.context).advice
            issue.api) } := by
  rw [adviseAll, List.getElem?_map, List.getElem?_zipIdx, Option.map_map, Nat.zero_add]
  congr 1
  funext issue
  exact congrArg (fun advice => { issue with advice := some advice })
    (advise_eq_advice_outcome settings (provider index) issue.api issue.context)

theorem length_adviseAll (settings : ProviderSettings) (provider : Provider)
    (issues : List Issue) : (adviseAll settings provider issues).length = issues.length := by
  rw [adviseAll, List.length_map, List.length_zipIdx]

theorem map_withoutAdvice_adviseAll (settings : ProviderSettings) (provider : Provider)
    (issues : List Issue) :
    (adviseAll settings provider issues).map Issue.withoutAdvice =
      issues.map Issue.withoutAdvice := by
  have hissues : issues.map Issue.withoutAdvice =
      issues.zipIdx.map (Issue.withoutAdvice ∘ Prod.fst) := by
    rw [← List.map_map, List.zipIdx_map_fst]
  rw [adviseAll, List.map_map, hissues]
  rfl

end Guidance

/-!
## Scans with advice
-/

namespace ScanResult

/-- Whether two results differ in nothing but the advice of their issues. -/
structure SameButAdvice (first second : ScanResult) : Prop where
  filesScanned : first.filesScanned = second.filesScanned
  filesWithIssues : first.filesWithIssues = second.filesWithIssues
  issues : first.issues.map Issue.withoutAdvice = second.issues.map Issue.withoutAdvice

variable {first second : ScanResult}

theorem SameButAdvice.totalIssues (h : first.SameButAdvice second) :
    first.totalIssues = second.totalIssues := by
  have hlength := congrArg List.length h.issues
  rwa [List.length_map, List.length_map] at hlength

theorem SameButAdvice.hasIssues (h : first.SameButAdvice second) :
    first.hasIssues = second.hasIssues := by
  have hempty := congrArg List.isEmpty h.issues
  rw [List.isEmpty_map, List.isEmpty_map] at hempty
  rw [ScanResult.hasIssues, ScanResult.hasIssues, hempty]

theorem SameButAdvice.countOf (h : first.SameButAdvice second) (kind : IssueKind) :
    first.countOf kind = second.countOf kind := by
  have hcount := congrArg (List.countP fun issue => issue.kind = kind) h.issues
  rw [List.countP_map, List.countP_map] at hcount
  exact hcount

theorem SameButAdvice.issuesByKind (h : first.SameButAdvice second) :
    first.issuesByKind = second.issuesByKind := by
  rw [ScanResult.issuesByKind, ScanResult.issuesByKind]
  simp only [h.countOf]

end ScanResult

namespace Program

def found (surroundings : Surroundings) (config : Config) (order : ScanOrder) :
    Except Failure ScanResult := do
  let files := surroundings.files
  let context : Walk.Context := {
    files
    selection := config.selection
    userRules := Walk.userRules files surroundings.environment }
  let input ← inputText surroundings.input order
  return Session.run files (knowledgeBase files config) (← units context input order)

def answer (surroundings : Surroundings) (config : Config) (format : OutputFormat)
    (order : ScanOrder) (result : ScanResult) : Answer where
  text := report surroundings.timestamp format order
    (withAdvice surroundings.provider config order result)
  failed := order.failsOnIssues && (withAdvice surroundings.provider config order result).hasIssues

theorem scan_eq_map_found (surroundings : Surroundings) (config : Config) (format : OutputFormat)
    (order : ScanOrder) :
    scan surroundings config format order =
      (found surroundings config order).map (answer surroundings config format order) := by
  unfold scan found
  cases inputText surroundings.input order with
  | error failure =>
      rfl
  | ok input =>
      dsimp only [bind, Except.bind]
      cases units _ input order <;> rfl

theorem withAdvice_sameButAdvice (provider : Provider) (config : Config) (order : ScanOrder)
    (result : ScanResult) : (withAdvice provider config order result).SameButAdvice result := by
  unfold withAdvice
  split
  · exact ⟨rfl, rfl, Guidance.map_withoutAdvice_adviseAll _ provider result.issues⟩
  · exact ⟨rfl, rfl, rfl⟩

/--
Advice is attached to every issue and changes nothing else.  It depends on the
API and on the outcome of the request about the issue alone: it is that of the
reply, if there is one that is not blank, and the built-in one otherwise, and no
text of it is blank.  So an order to scan with advice fails where it fails
without, and finds the same issues at the same places.
-/
theorem advice_attached_to_issues_unchanged (settings : ProviderSettings) (provider : Provider)
    (issues : List Issue) (surroundings : Surroundings) (config : Config) (format : OutputFormat)
    (order : ScanOrder) :
    (Guidance.adviseAll settings provider issues).length = issues.length ∧
    (∀ (index : Nat) (issue : Issue), issues[index]? = some issue →
      (Guidance.adviseAll settings provider issues)[index]? =
        some { issue with
          advice := some ((Guidance.outcome settings (provider index) issue.api
            issue.context).advice issue.api) }) ∧
    (∀ (outcome : Outcome) (api : String),
      (outcome.advice api).IsComplete ∧
      (∀ content, outcome.Brings content → outcome.advice api = Reply.advice content) ∧
      ((∀ content, ¬outcome.Brings content) → outcome.advice api = .builtin api)) ∧
    (∀ failure, found surroundings config order = .error failure →
      scan surroundings config format { order with withAdvice := true } = .error failure ∧
        scan surroundings config format { order with withAdvice := false } = .error failure) ∧
    ∀ result, found surroundings config order = .ok result →
      ∃ advised failed,
        scan surroundings config format { order with withAdvice := false } =
          .ok ⟨report surroundings.timestamp format { order with withAdvice := false } result,
            failed⟩ ∧
        scan surroundings config format { order with withAdvice := true } =
          .ok ⟨report surroundings.timestamp format { order with withAdvice := true } advised,
            failed⟩ ∧
        advised.issues = Guidance.adviseAll (providerSettings config order)
          surroundings.provider result.issues ∧
        advised.filesScanned = result.filesScanned ∧
        advised.filesWithIssues = result.filesWithIssues ∧
        advised.totalIssues = result.totalIssues ∧
        advised.issuesByKind = result.issuesByKind ∧
        advised.issues.map Issue.withoutAdvice = result.issues.map Issue.withoutAdvice := by
  refine ⟨Guidance.length_adviseAll settings provider issues, ?_, ?_, ?_, ?_⟩
  · intro index issue hissue
    rw [Guidance.getElem?_adviseAll, hissue]
    rfl
  · intro outcome api
    refine ⟨outcome.advice_isComplete api, ?_, ?_⟩
    · intro content hcontent
      exact Outcome.advice_of_brings hcontent api
    · intro hnone
      exact Outcome.advice_of_not_brings hnone api
  · intro failure hfound
    have hsame : ∀ withAdvice,
        found surroundings config { order with withAdvice } = .error failure :=
      fun _ => hfound
    rw [scan_eq_map_found, scan_eq_map_found, hsame, hsame]
    exact ⟨rfl, rfl⟩
  · intro result hfound
    have hsame : ∀ withAdvice,
        found surroundings config { order with withAdvice } = .ok result :=
      fun _ => hfound
    have hadvised := withAdvice_sameButAdvice surroundings.provider config
      { order with withAdvice := true } result
    refine ⟨withAdvice surroundings.provider config { order with withAdvice := true } result,
      order.failsOnIssues && result.hasIssues, ?_, ?_, rfl, hadvised.filesScanned,
      hadvised.filesWithIssues, hadvised.totalIssues, hadvised.issuesByKind, hadvised.issues⟩
    · rw [scan_eq_map_found, hsame]
      rfl
    · rw [scan_eq_map_found, hsame, ← hadvised.hasIssues]
      rfl

def keyedSettings : ProviderSettings :=
  { ProviderSettings.default with apiKey := some " sk-test " }

def wearyProvider : Provider := fun number _ =>
  match number with
  | 0 => .none
  | 1 => .answer 500 "overloaded"
  | _ => .answer 200
      "\x7b\"choices\":[\x7b\"message\":\x7b\"content\":\"Alternative\\nUse URL\"\x7d\x7d]\x7d"

def useOf (api : String) : Issue :=
  .ofDescriptor "a.js" 1 0 (Knowledge.Curated.deprecated "" "" "" api) (api ++ "()")

def threeUses : List Issue :=
  [useOf "showModalDialog", useOf "f", useOf "webkitURL"]

def inputOrder : ScanOrder where
  paths := ["-"]
  inputKind := .script
  withAdvice := true
  apiKey := some "sk-test"
  failsOnIssues := true

def inputSurroundings : Surroundings where
  files := ⟨.directory [], []⟩
  environment := { apiKey := none, dataset := none, configDirectory := none }
  input := .text ")webkitURL"
  provider := wearyProvider
  timestamp := "2026-01-01T00:00:00Z"

theorem outcome_third_request :
    Guidance.outcome keyedSettings (wearyProvider 2) "webkitURL" "webkitURL()" =
      wearyProvider 2 ⟨"", "", ""⟩ := by
  have hsent : (Request.make? keyedSettings "sk-test" "webkitURL" "webkitURL()").isSome = true := by
    decide +kernel
  have hcredential : keyedSettings.credential = some "sk-test" := by
    decide +kernel
  rcases Option.isSome_iff_exists.mp hsent with ⟨request, hrequest⟩
  rw [Guidance.outcome, hcredential, Option.bind_some, hrequest]
  rfl

theorem wearyProvider_brings :
    (wearyProvider 2 ⟨"", "", ""⟩).Brings "Alternative\nUse URL" := by
  exact ⟨200, _, _, rfl, by decide, by decide, rfl, rfl, by decide +kernel⟩

theorem outcome_first_request (api context : String) :
    Guidance.outcome keyedSettings (wearyProvider 0) api context = .none := by
  unfold Guidance.outcome
  split <;> rfl

theorem wearyProvider_advised :
    (Guidance.adviseAll keyedSettings wearyProvider threeUses).length = 3 ∧
      (Guidance.adviseAll keyedSettings wearyProvider threeUses)[0]? =
        some { useOf "showModalDialog" with advice := some (.builtin "showModalDialog") } ∧
      (Guidance.adviseAll keyedSettings wearyProvider threeUses)[2]? =
        some { useOf "webkitURL" with
          advice := some (Reply.advice "Alternative\nUse URL") } ∧
      (Reply.advice "Alternative\nUse URL").IsComplete ∧
      ∃ bare rich failed,
        scan inputSurroundings .default .json { inputOrder with withAdvice := false } =
          .ok ⟨bare, failed⟩ ∧
        scan inputSurroundings .default .json { inputOrder with withAdvice := true } =
          .ok ⟨rich, failed⟩ := by
  rcases advice_attached_to_issues_unchanged keyedSettings wearyProvider threeUses
    inputSurroundings .default .json inputOrder with ⟨hlength, hissues, hadvice, _, hscan⟩
  have hnone : ∀ content, ¬Outcome.none.Brings content := by
    rintro content ⟨_, _, _, h, _⟩
    cases h
  have hfirst := hissues 0 _ rfl
  have hthird := hissues 2 _ rfl
  rw [outcome_first_request, (hadvice _ _).right.right hnone] at hfirst
  have hreply := (hadvice _ "webkitURL").right.left _ wearyProvider_brings
  have hcomplete := (hadvice (wearyProvider 2 ⟨"", "", ""⟩) "webkitURL").left
  rw [hreply] at hcomplete
  refine ⟨hlength, hfirst, ?_, hcomplete, ?_⟩
  · rw [← hreply, ← outcome_third_request]
    exact hthird
  · rcases hscan _ rfl with ⟨_, failed, hbare, hrich, _⟩
    exact ⟨_, _, failed, hbare, hrich⟩

end Program
end WebCompat
