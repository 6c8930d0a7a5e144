import DevCluster.Path

/-!
Environment variables, and the places that they name.
-/

namespace DevCluster

abbrev Environment := String → Option String

namespace Environment

/-- The home directory, which is that of the account where the environment names none. -/
def home (environment : Environment) (accountHome : String) : String :=
  match environment "HOME" with
  | none | some "" => accountHome
  | some path => path

def searchPath (environment : Environment) : List String :=
  ((environment "PATH").getD "").splitOn ":"

/-- The directory of settings is the one that the environment names by an absolute path, else one in
the home directory. -/
def settingsPath (environment : Environment) (accountHome : String) : String :=
  let usual := Path.join (environment.home accountHome) ".config"
  let directory := match environment "XDG_CONFIG_HOME" with
    | some path => if path.startsWith "/" then path else usual
    | none => usual
  Path.join (Path.join directory "lifeguard") "dev.toml"

def isSet (environment : Environment) (name : String) : Bool :=
  match environment name with
  | none | some "" => false
  | some _ => true

def showsColours (environment : Environment) : Bool :=
  !environment.isSet "NO_COLOR"

def forcesColours (environment : Environment) : Bool :=
  environment.showsColours && environment.isSet "CLICOLOR_FORCE"

end Environment

end DevCluster
