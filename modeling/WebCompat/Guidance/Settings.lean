import WebCompat.Number.Shortest
import WebCompat.Text.Blank

/-!
# Settings of the provider

How the provider of suggestions is reached, and what is asked of it.
-/

namespace WebCompat

structure ProviderSettings where
  apiKey : Option String
  endpoint : String
  model : String
  timeoutSeconds : Nat
  maxTokens : Nat
  temperature : Number.Floating
deriving DecidableEq, Repr

namespace ProviderSettings

def default : ProviderSettings where
  apiKey := none
  endpoint := "https://api.openai.com/v1"
  model := "gpt-4"
  timeoutSeconds := 30
  maxTokens := 500
  temperature := .signed false (Number.Format.single.roundDecimal 3 (-1))

/-- The key without outer blanks, if there is more to it than blanks. -/
def credential (settings : ProviderSettings) : Option String :=
  (settings.apiKey.map Text.trimmed).filter fun key => !key.isEmpty

end ProviderSettings
end WebCompat
