import Playbook.Activity
import Playbook.Json.Value

/-!
The personality of a tenant: a provider adapts the content of messages to it and scores how
consistent a content is with it.
-/
namespace Playbook

open Json (Value)

structure EnhancedContent where
  content : String
  confidence : Float32

structure ConsistencyScore where
  score : Float32
  isConsistent : Bool

/-- Each question is answered, or the provider says why it cannot. -/
structure PersonalityProvider where
  /-- adapts a content for a tenant in a context -/
  enhance : (content tenantId : String) → (context : Value) →
    Activity Empty (Except String EnhancedContent)
  /-- scores a content for a tenant -/
  scoreConsistency : (content tenantId : String) → Activity Empty (Except String ConsistencyScore)

/-- The provider that leaves every content as it is and finds it consistent. -/
def PersonalityProvider.none : PersonalityProvider where
  enhance content _ _ := .done (.ok ⟨content, 1⟩)
  scoreConsistency _ _ := .done (.ok ⟨1, true⟩)

end Playbook
