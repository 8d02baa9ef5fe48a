import WebCompat.Knowledge.Base
import WebCompat.Proofs.Dictionary

/-!
# Look-ups in the knowledge base

The descriptor that is found for an API describes that API, and every API that
the knowledge base lists has one.
-/

namespace WebCompat
namespace KnowledgeBase

open Knowledge (Descriptor)

theorem api_of_lookup_eq_some {base : KnowledgeBase} {api : String} {descriptor : Descriptor}
    (h : base.lookup api = some descriptor) : descriptor.api = api :=
  base.named (api, descriptor) (Dictionary.mem_entries_of_get?_eq_some h)

theorem exists_lookup_of_mem_apis {base : KnowledgeBase} {api : String}
    (h : api ∈ base.apis) :
    ∃ descriptor, base.lookup api = some descriptor ∧ descriptor.api = api := by
  rcases Dictionary.exists_get?_of_mem_keys h with ⟨descriptor, hfound⟩
  exact ⟨descriptor, hfound, api_of_lookup_eq_some hfound⟩

theorem mem_apis_of_lookup_eq_some {base : KnowledgeBase} {api : String}
    {descriptor : Descriptor} (h : base.lookup api = some descriptor) : api ∈ base.apis :=
  List.mem_map.mpr ⟨(api, descriptor), Dictionary.mem_entries_of_get?_eq_some h, rfl⟩

theorem contains_eq_isSome_lookup (base : KnowledgeBase) (api : String) :
    base.contains api = (base.lookup api).isSome :=
  rfl

end KnowledgeBase
end WebCompat
