import WebCompat.Guidance.Client
import WebCompat.Proofs.Json.RoundTrip
import WebCompat.Proofs.Number.Literal
import WebCompat.Proofs.Text.Position

/-!
# What a request carries

The body of a request is a document, whatever the source text holds: the quotes,
backslashes and control characters of a line are escaped, so that none of them ends
a string.  The question of the user's message holds the path of the API on a line of
its own, so that the path and the source line can be told apart again.
-/

namespace WebCompat

open Json (Value IsWritable)

/-!
## The document of a request
-/

theorem Number.Floating.exists_isWritable (number : Number.Floating) :
    ∃ value, IsWritable value ∧ value.compactText = number.literal.toList := by
  rcases number with ⟨negative, ⟨significand, exponent⟩ | _⟩ | _
  · exact ⟨.number _, .number (Floating.numberLiteral_literal negative significand exponent), rfl⟩
  · exact ⟨.null, .null, rfl⟩
  · exact ⟨.null, .null, rfl⟩

namespace Request

/--
Whether a text is a document with the name of a model and with two messages, the
first about the part of the provider and the second with a question of the user.
-/
def Asks (body model question : String) : Prop :=
  ∃ members, Json.read? body = some (.object members) ∧ (members.map Prod.fst).Nodup ∧
    members.lookup "model" = some (.string model) ∧
    members.lookup "messages" = some (.array [
      .object [("role", .string "system"), ("content", .string systemPrompt)],
      .object [("role", .string "user"), ("content", .string question)]])

theorem Asks.unique {body model otherModel question otherQuestion : String}
    (h : Asks body model question) (hother : Asks body otherModel otherQuestion) :
    model = otherModel ∧ question = otherQuestion := by
  obtain ⟨members, hread, _, hmodel, hmessages⟩ := h
  obtain ⟨otherMembers, hotherRead, _, hotherModel, hotherMessages⟩ := hother
  cases hread.symm.trans hotherRead
  cases hmodel.symm.trans hotherModel
  cases hmessages.symm.trans hotherMessages
  exact ⟨rfl, rfl⟩

theorem message_isWritable (role content : String) : IsWritable (message role content) := by
  apply IsWritable.object
  simp only [List.forall_mem_cons]
  exact ⟨.string role, .string content, List.forall_mem_nil _⟩

theorem asks_compact_document (settings : ProviderSettings) (api context : String) :
    Asks (document settings api context).compact settings.model (prompt api context) := by
  obtain ⟨temperature, htemperature, htext⟩ := settings.temperature.exists_isWritable
  let members : List (String × Value) := [
    ("model", .string settings.model),
    ("messages", .array [
      message "system" systemPrompt,
      message "user" (prompt api context)]),
    ("max_tokens", .natural settings.maxTokens),
    ("temperature", temperature)]
  have hsame : (document settings api context).compact = (Value.object members).compact := by
    simp only [document, members, Value.compact, Value.compactText, Value.compactMembers, htext]
  have hwritable : IsWritable (.object members) := by
    apply IsWritable.object
    simp only [members, List.forall_mem_cons]
    refine ⟨.string settings.model, .array ?_, Json.natural_isWritable settings.maxTokens,
      htemperature, List.forall_mem_nil _⟩
    simp only [List.forall_mem_cons]
    exact ⟨message_isWritable _ _, message_isWritable _ _, List.forall_mem_nil _⟩
  refine ⟨members, ?_, by simp [members], rfl, rfl⟩
  rw [hsame]
  exact Json.read?_compact hwritable

theorem body_of_make? {settings : ProviderSettings} {credential api context : String}
    {request : Request} (h : make? settings credential api context = some request) :
    request.body = (document settings api context).compact := by
  obtain ⟨_, _, h⟩ := Option.bind_eq_some_iff.mp h
  obtain ⟨_, _, h⟩ := Option.bind_eq_some_iff.mp h
  cases h
  rfl

/-!
## The question of the user
-/

theorem eq_of_append_newline_append {line otherLine behind otherBehind : String}
    (hline : '\n' ∉ line.toList) (hotherLine : '\n' ∉ otherLine.toList)
    (h : line ++ ("\n" ++ behind) = otherLine ++ ("\n" ++ otherBehind)) :
    line = otherLine ∧ behind = otherBehind := by
  have hfirst := congrArg (fun text => Text.firstLine text.toList) h
  simp only [String.toList_append, Text.firstLine_append_of_notMem hline,
    Text.firstLine_append_of_notMem hotherLine] at hfirst
  have hsame : line = otherLine := String.toList_inj.mp (List.append_cancel_right hfirst)
  rw [hsame, String.append_right_inj, String.append_right_inj] at h
  exact ⟨hsame, h⟩

/--
The text behind the path may hold what stands in front of the source line as
often as it likes.
-/
theorem prompt_inj {api otherApi context otherContext : String} (hapi : '\n' ∉ api.toList)
    (hotherApi : '\n' ∉ otherApi.toList) (h : prompt api context = prompt otherApi otherContext) :
    api = otherApi ∧ context = otherContext := by
  unfold prompt at h
  simp only [String.append_assoc, String.append_right_inj] at h
  obtain ⟨hsame, hbehind⟩ := eq_of_append_newline_append hapi hotherApi h
  rw [String.append_right_inj, String.append_left_inj] at hbehind
  exact ⟨hsame, hbehind⟩

/-!
## Occurrences in requests
-/

/--
A request asks the configured model about the occurrence, with the source line as it
stands in the source; and requests about different occurrences ask different questions,
as long as no path of an API holds a line end.
-/
theorem requests_carry_occurrences_unaltered (settings : ProviderSettings)
    (api context : String) :
    Asks (document settings api context).compact settings.model (prompt api context) ∧
    (∀ credential request, make? settings credential api context = some request →
      Asks request.body settings.model (prompt api context)) ∧
    ('\n' ∉ api.toList → ∀ otherApi otherContext, '\n' ∉ otherApi.toList →
      (prompt api context = prompt otherApi otherContext →
        api = otherApi ∧ context = otherContext) ∧
      (∀ otherSettings credential otherCredential request otherRequest model otherModel question,
        make? settings credential api context = some request →
        make? otherSettings otherCredential otherApi otherContext = some otherRequest →
        Asks request.body model question → Asks otherRequest.body otherModel question →
        api = otherApi ∧ context = otherContext)) := by
  have hsent : ∀ settings credential api context request,
      make? settings credential api context = some request →
        Asks request.body settings.model (prompt api context) := by
    intro settings credential api context request hrequest
    rw [body_of_make? hrequest]
    exact asks_compact_document settings api context
  refine ⟨asks_compact_document settings api context,
    fun credential request => hsent settings credential api context request, ?_⟩
  intro hapi otherApi otherContext hotherApi
  refine ⟨prompt_inj hapi hotherApi, ?_⟩
  intro otherSettings credential otherCredential request otherRequest model otherModel question
    hrequest hotherRequest hasks hotherAsks
  have hquestion := ((hsent _ _ _ _ _ hrequest).unique hasks).right
  have hotherQuestion := ((hsent _ _ _ _ _ hotherRequest).unique hotherAsks).right
  exact prompt_inj hapi hotherApi (hquestion.trans hotherQuestion.symm)

def awkwardContext : String :=
  "\"\\\x01𝄞\nCode Context: \x7d"

theorem awkwardContext_carried :
    (make? .default "sk-test" "webkitURL" awkwardContext).isSome = true ∧
    (∀ request, make? .default "sk-test" "webkitURL" awkwardContext = some request →
      Asks request.body "gpt-4" (prompt "webkitURL" awkwardContext)) ∧
    '\n' ∉ "webkitURL".toList ∧
    prompt "webkitURL" awkwardContext ≠ prompt "webkitURL" "\x7d" := by
  obtain ⟨_, hsent, hdifferent⟩ :=
    requests_carry_occurrences_unaltered .default "webkitURL" awkwardContext
  have hline : '\n' ∉ "webkitURL".toList := by
    decide
  refine ⟨by decide +kernel, hsent "sk-test", hline, ?_⟩
  intro hsame
  have hcontext := ((hdifferent hline "webkitURL" "\x7d" hline).left hsame).right
  exact absurd hcontext (by decide)

/-- With a line end in the path of the API, the source line could begin in two places. -/
example : prompt "A" "b\nCode Context: c" = prompt "A\nCode Context: b" "c" := by
  decide +kernel

end Request
end WebCompat
