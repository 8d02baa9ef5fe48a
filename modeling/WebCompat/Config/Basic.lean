import WebCompat.Guidance.Settings

/-!
# Configurations

What can be set in a configuration file: where the dataset of features lies,
how the provider of suggestions is used, which files of a directory are
scanned, and how much is logged.
-/

namespace WebCompat

structure Selection where
  extensions : List String
  excludedDirectories : List String
deriving DecidableEq, Repr

namespace Selection

def default : Selection where
  extensions := ["js", "jsx", "mjs", "cjs", "ts", "tsx", "html", "htm"]
  excludedDirectories := ["node_modules", "dist", "build", ".git"]

/-- Whether files with an extension are scanned; letters may be of either case. -/
def hasExtension (selection : Selection) (extension : String) : Bool :=
  selection.extensions.any fun known => known.toLower == extension.toLower

def isExcluded (selection : Selection) (name : String) : Bool :=
  selection.excludedDirectories.contains name

end Selection

structure Config where
  datasetPath : Option String
  provider : ProviderSettings
  selection : Selection
  logLevel : String
deriving DecidableEq, Repr

namespace Config

def default : Config where
  datasetPath := none
  provider := .default
  selection := .default
  logLevel := "info"

end Config

structure Environment where
  apiKey : Option String
  dataset : Option String
  configDirectory : Option String
deriving DecidableEq, Repr

namespace Config

/-- What a variable is set to, if that is more than blanks, or else another value. -/
def override (given otherwise : Option String) : Option String :=
  (given.filter fun text => !Text.isBlankText text).or otherwise

def withEnvironment (config : Config) (environment : Environment) : Config :=
  { config with
    datasetPath := override environment.dataset config.datasetPath
    provider := {
      config.provider with apiKey := override environment.apiKey config.provider.apiKey } }

end Config
end WebCompat
