import WebCompat.Failure
import WebCompat.Guidance.Builtin
import WebCompat.Guidance.Reply
import WebCompat.Guidance.Request
import WebCompat.Guidance.Target
import WebCompat.Issue.Basic

/-!
# Asking the provider

With a credential, the provider is asked for each issue in turn, and its reply
becomes the advice of the issue.  Where there is no credential, and where the
provider fails, the issue gets built-in advice instead.
-/

namespace WebCompat

open Json (Value)

structure Request where
  target : String
  authorization : String
  body : String
deriving DecidableEq, Repr

inductive Outcome where
  | answer (status : Nat) (body : String)
  | none
deriving DecidableEq, Repr

/-- The provider, by what becomes of its first, second, third request and so on. -/
abbrev Provider : Type :=
  Nat → Request → Outcome

namespace Request

/-! # Requests and outcomes -/

def isSendable (credential : String) : Bool :=
  credential.toList.all fun c => (0x20 ≤ c.toNat && c.toNat != 0x7F) || c == '\t'

def dropSlashes (text : String) : String :=
  String.ofList (text.toList.reverse.dropWhile (· == '/')).reverse

def make? (settings : ProviderSettings) (credential api context : String) :
    Option Request := do
  guard (isSendable credential)
  let target ← Target.ofAddress? (dropSlashes settings.endpoint ++ "/chat/completions")
  return {
    target
    authorization := "Bearer " ++ credential
    body := (document settings api context).compact }

end Request

namespace Outcome

def choiceContent? (choice : Value) : Option (Option String) := do
  let choiceField ← choice.record? ["message"]
  let message ← choiceField "message"
  let messageField ← message.record? ["content"]
  Value.optional? Value.text? (messageField "content")

def firstContent? (answer : Value) : Option (Option String) := do
  let field ← answer.record? ["choices"]
  let contents ← Value.orDefault? [] (Value.list? choiceContent?) (field "choices")
  return contents.head?.join

def reply : Outcome → Except Failure String
  | none => .error .unreachable
  | answer status body =>
      if status < 200 ∨ 300 ≤ status then .error (.providerStatus status)
      else
        match (Json.read? body).bind firstContent? with
        | .none => .error .replyMalformed
        | some content =>
            match content.filter fun text => !Text.isBlankText text with
            | some text => .ok text
            | .none => .error .replyEmpty

end Outcome

/-! # Advice for issues -/

namespace Guidance

def complete (settings : ProviderSettings) (credential : String)
    (exchange : Request → Outcome) (api context : String) : Except Failure String :=
  match Request.make? settings credential api context with
  | some request => (exchange request).reply
  | none => .error .unreachable

def advise (settings : ProviderSettings) (exchange : Request → Outcome)
    (api context : String) : Advice :=
  match settings.credential with
  | none => .builtin api
  | some credential =>
      match complete settings credential exchange api context with
      | .ok reply => Reply.advice reply
      | .error _ => .builtin api

def adviseIssue (settings : ProviderSettings) (exchange : Request → Outcome)
    (issue : Issue) : Issue :=
  { issue with advice := some (advise settings exchange issue.api issue.context) }

def adviseAll (settings : ProviderSettings) (provider : Provider)
    (issues : List Issue) : List Issue :=
  issues.zipIdx.map fun (issue, number) => adviseIssue settings (provider number) issue

end Guidance
end WebCompat
