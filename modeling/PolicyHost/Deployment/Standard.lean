import PolicyHost.Config
import PolicyHost.Deployment.Archives
import PolicyHost.Deployment.Engine
import PolicyHost.Deployment.Fitting
import PolicyHost.Deployment.Plain

/-!
# A deployment

All that the program relies on, at once.

* `Deployment.platform`, `Deployment.archives`: for a machine that does nothing else.
* `Deployment.userDirectory`: where the user of a process keeps the configuration of the program.
-/

namespace PolicyHost.Deployment

/-- What the program runs on. -/
@[reducible]
def platform : Platform where
  toRoom := .usual
  toConversion := Value.conversion
  fit shape json :=
    match shape.read? json with
    | some value => .ok value
    | none => .error .mismatch

@[reducible]
def archives : Archives :=
  letI := Room.usual
  Tar.archives

/-- Where a user keeps the configuration of the program, by the variables of a process and the home of
its account. -/
def userDirectory (vars : Variables) (account : Text) : Text :=
  let home := (vars.get? (Text.ofString "HOME")).getD account
  let slash := fun (c : CodePoint) => c == '/'
  let atHome := (home.reverse.dropWhile slash).reverse ++ "/.config"
  let base := match Config.valueOf? vars "XDG_CONFIG_HOME" with
    | some given => if (Path.ofText given).isAbsolute then given else atHome
    | none => atHome
  ((Path.ofText base).child "opa-embed").toText

end PolicyHost.Deployment
