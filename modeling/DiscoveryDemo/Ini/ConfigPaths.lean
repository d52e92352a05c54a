import DiscoveryDemo.CLib.Buffer

/-!
# `findConfigFile` of hellomk and hellomkcpp

The search for the configuration file: the current directory, the user's home directory, `/etc`. The
path in the home directory is kept in a static buffer, which is filled by `snprintf` when `HOME` is
set and left as it is otherwise. The two programs differ in the names only.
-/

namespace DiscoveryDemo.Ini

open CLib

/-- The size of `userConfigPath`. -/
abbrev userConfigPathLength : Nat := 256

abbrev PathBuf := Buf userConfigPathLength

/-- The files that can be opened at some moment. -/
structure FileSystem where
  /-- Whether `fopen(path, "r")` succeeds. -/
  opens : List Byte → Bool

/-- The names a program looks for. -/
structure ConfigNames where
  /-- The file in the current directory. -/
  current : List Byte
  /-- The name of the file in the home directory. -/
  user : CStr
  /-- The system-wide file. -/
  system : List Byte
  /-- The system-wide path is shorter than the path buffer. -/
  system_short : system.length < userConfigPathLength - 1

/-- What `findConfigFile` finds in its environment when it is called. -/
structure Call where
  /-- `getenv("HOME")` -/
  home : Option CStr
  /-- The files that can be opened. -/
  fs : FileSystem

/-- `"%s/%s"` of the home directory and the name of the user's file. -/
def userPath (names : ConfigNames) (home : CStr) : List Byte :=
  home.chars ++ ch '/' :: names.user.chars

/-- The loop over `possiblePaths`: null entries are skipped, the first path that opens is returned. -/
def firstOpen (fs : FileSystem) : List (Option (List Byte)) → Option (List Byte)
  | [] => none
  | none :: paths => firstOpen fs paths
  | some path :: paths => if fs.opens path then some path else firstOpen fs paths

/-- `findConfigFile`, with the static buffer it finds and leaves. -/
def findConfigFile (names : ConfigNames) (userConfigPath : PathBuf) (c : Call) :
    Except Fault (Option (List Byte) × PathBuf) := do
  let userConfigPath := match c.home with
    | some homeDir => userConfigPath.snprintf (userPath names homeDir)
    | none => userConfigPath
  let user ← userConfigPath.str 0
  return (firstOpen c.fs [some names.current, some user, some names.system], userConfigPath)

/-- The results of the calls of `findConfigFile` that a process makes, from a given buffer on. -/
def findAll (names : ConfigNames) : PathBuf → List Call → Except Fault (List (Option (List Byte)))
  | _, [] => .ok []
  | userConfigPath, c :: calls => do
    let (path, userConfigPath) ← findConfigFile names userConfigPath c
    return path :: (← findAll names userConfigPath calls)

/-- What the documentation of the search order promises for one call. -/
def expected (names : ConfigNames) (c : Call) : Option (List Byte) :=
  firstOpen c.fs [some names.current, c.home.map (userPath names), some names.system]

/-- What a call leaves in the path buffer that held `held` before. -/
def heldAfter (names : ConfigNames) (held : List Byte) (c : Call) : List Byte :=
  match c.home with
  | some homeDir => (userPath names homeDir).take (userConfigPathLength - 1)
  | none => held

/-- When a call that finds `held` in the path buffer follows the search order: the file in the
current directory opens; or the home directory is set and either the path in it fits into the buffer
or neither that path nor what fits of it opens; or the home directory is not set, and what an earlier
call left in the buffer does not open or is the system-wide path. -/
def InOrder (names : ConfigNames) (held : List Byte) (c : Call) : Prop :=
  c.fs.opens names.current = true ∨
  match c.home with
  | some homeDir => (userPath names homeDir).length ≤ userConfigPathLength - 1 ∨
      (c.fs.opens (userPath names homeDir) = false ∧
        c.fs.opens ((userPath names homeDir).take (userConfigPathLength - 1)) = false)
  | none => c.fs.opens held = false ∨ held = names.system

end DiscoveryDemo.Ini

namespace DiscoveryDemo

open CLib Ini

/-- The names hellomk uses. -/
def Hellomk.names : ConfigNames where
  current := lit "./hellomk.ini"
  user := ⟨lit ".hellomk.ini", by decide⟩
  system := lit "/etc/hellomk.ini"
  system_short := by decide

/-- The names hellomkcpp uses; `CONFIG_FILE` is `hellomkcpp.ini` (`Makefile`). -/
def Hellomkcpp.names : ConfigNames where
  current := lit "hellomkcpp.ini"
  user := ⟨lit "hellomkcpp.ini", by decide⟩
  system := lit "/etc/" ++ lit "hellomkcpp.ini"
  system_short := by decide

end DiscoveryDemo
