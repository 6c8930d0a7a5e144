/-!
Paths as texts: names separated by slashes.
-/

namespace DevCluster.Path

def names (path : String) : List String :=
  path.splitOn "/"

def join (directory name : String) : String :=
  if directory.isEmpty then name
  else if directory.endsWith "/" then directory ++ name
  else directory ++ "/" ++ name

def base (path : String) : String :=
  (names path).getLastD path

/-- A name that leads nowhere from a directory. -/
def isIdle (name : String) : Bool := name = "" || name = "."

/-- The name of what a path leads to, unless the path ends in a step up or holds no name. -/
def fileName? (path : String) : Option String :=
  match ((names path).filter (!isIdle ·)).getLast? with
  | some ".." => none
  | name => name

end DevCluster.Path
