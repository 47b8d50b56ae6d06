import CrudForge.Path
import CrudForge.Text.Case

/-!
# Where settings come from
-/

namespace CrudForge.Settings

/-- A source of settings. A file is named as seen from the working directory. -/
inductive Origin
  | file (path : Path)
  | environment
  deriving DecidableEq

namespace Origin

def describe : Origin → String
  | file path => path.text ++ " TOML file"
  | environment => "`CRUDGEN_` environment variable(s)"

/-- The place of a setting as it is written in the source. -/
def place (keys : List String) : Origin → String
  | file _ => Text.join "." ("default" :: keys)
  | environment => Text.join "." (keys.map Text.upper)

end Origin
end CrudForge.Settings
