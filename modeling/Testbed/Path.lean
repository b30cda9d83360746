/-!
# Home directory

A path that is `~` or begins with `~/` is meant below the home directory. `~user` is left alone.
-/

namespace Testbed.Path

/-- The home directory: the one that the environment names, or else that of the account. -/
def home (named account : String) : String :=
  if named = "" then account else named

/-- `path` with its leading `~` replaced by `home`. -/
def expandHome (home path : String) : String :=
  match path.toList with
  | ['~'] => home
  | '~' :: '/' :: rest => home ++ "/" ++ String.ofList rest
  | _ => path

end Testbed.Path
