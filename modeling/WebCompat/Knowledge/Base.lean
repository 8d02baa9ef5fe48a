import WebCompat.Knowledge.Curated
import WebCompat.Knowledge.Dataset
import WebCompat.Knowledge.Sample

/-!
# The knowledge base

The knowledge base maps the dotted path of an API to its descriptor.  It is
built from the problematic features of a dataset, in the order of their ids,
and from the curated descriptors, which come last and so replace what the
dataset says about their APIs.
-/

namespace WebCompat

open Knowledge

structure KnowledgeBase where
  descriptors : Dictionary Descriptor
  /-- Every descriptor stands under the API that it describes. -/
  named : ∀ entry ∈ descriptors.entries, entry.2.api = entry.1

namespace KnowledgeBase

def empty : KnowledgeBase where
  descriptors := ∅
  named := fun _ hentry => nomatch hentry

def add (base : KnowledgeBase) (descriptor : Descriptor) : KnowledgeBase where
  descriptors := base.descriptors.insert descriptor.api descriptor
  named := by
    intro entry hentry
    rcases Dictionary.mem_insertEntry hentry with rfl | hentry
    · rfl
    · exact base.named entry hentry

def registrations (dataset : Dataset) : List Descriptor :=
  (dataset.entries.filter fun entry => entry.2.isProblematic).flatMap fun entry =>
    entry.2.apis.map (Descriptor.ofFeature entry.1 entry.2)

/-- The knowledge base of a list of descriptors; of several for one API the last one counts. -/
def ofDescriptors (descriptors : List Descriptor) : KnowledgeBase :=
  descriptors.foldl add empty

def ofDataset (dataset : Dataset) : KnowledgeBase :=
  ofDescriptors (registrations dataset ++ Curated.descriptors)

def curated : KnowledgeBase :=
  ofDescriptors Curated.descriptors

def sample : KnowledgeBase :=
  ofDataset Sample.dataset

def loadDataset (files : FileSystem) : Option String → Except Failure Dataset
  | some path => Dataset.ofFile files path
  | none => .ok Sample.dataset

/-- The knowledge base of a dataset, or the curated one where the dataset cannot be had. -/
def ofLoaded : Except Failure Dataset → KnowledgeBase
  | .ok dataset => ofDataset dataset
  | .error _ => curated

def lookup (base : KnowledgeBase) (api : String) : Option Descriptor :=
  base.descriptors.get? api

def contains (base : KnowledgeBase) (api : String) : Bool :=
  base.descriptors.contains api

def apis (base : KnowledgeBase) : List String :=
  base.descriptors.keys

def size (base : KnowledgeBase) : Nat :=
  base.descriptors.size

def isEmpty (base : KnowledgeBase) : Bool :=
  base.descriptors.isEmpty

end KnowledgeBase
end WebCompat
