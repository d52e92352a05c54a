import DiscoveryDemo.Ini.ConfigPaths
import DiscoveryDemo.Ini.Safety

/-!
# The main program of hellomkcpp

`main` looks for the configuration file, looks up four keys in it, and reports each of them. Every
result of `getConfigValue` goes straight into a `std::string`. Its constructor must not be given a
null pointer: where that happens the run ends with `nullString`, and nothing is said about what the
C++ library makes of it.
-/

namespace DiscoveryDemo.Hellomkcpp

open CLib Ini

/-- What is written to the terminal. -/
inductive Output where
  /-- A line on `std::cout`. -/
  | out (text : List Byte)
  /-- A line on `std::cerr`. -/
  | err (text : List Byte)
  deriving DecidableEq

/-- How a run ends. -/
inductive Ending where
  | exit (status : Nat)
  /-- A `std::string` is constructed from a null pointer. -/
  | nullString
  /-- `getConfigValue` or `findConfigFile` leaves a buffer. -/
  | fault (f : Fault)
  deriving DecidableEq

/-- One of the lookups of `main`, with the texts of its report. -/
structure Query where
  label : List Byte
  sec : CStr
  key : CStr
  notFound : List Byte

def dbHost : Query where
  label := lit "Database Host: "
  sec := ⟨lit "database", by decide⟩
  key := ⟨lit "host", by decide⟩
  notFound := lit "Key 'host' not found in section 'database'"

def serverPort : Query where
  label := lit "Server Port: "
  sec := ⟨lit "server", by decide⟩
  key := ⟨lit "port", by decide⟩
  notFound := lit "Key 'port' not found in section 'server'"

def dbUser : Query where
  label := lit "Database User: "
  sec := ⟨lit "database", by decide⟩
  key := ⟨lit "user", by decide⟩
  notFound := lit "Key 'user' not found in section 'database'"

def enableLogging : Query where
  label := lit "Enable Logging: "
  sec := ⟨lit "server", by decide⟩
  key := ⟨lit "enable_logging", by decide⟩
  notFound := lit "Key 'enable_logging' not found in section 'server'"

/-- The four lookups in their order. -/
def queries : Fin 4 → Query
  | 0 => dbHost
  | 1 => serverPort
  | 2 => dbUser
  | 3 => enableLogging

/-- `MathOperations::add` -/
def add (a b : Int) : Int := a + b

/-- One lookup and its report: `std::string value = getConfigValue(..); if (!value.empty()) ..`.
`file` is what `configFile` contains when the lookup opens it. -/
def report (q : Query) (file : Option (List Byte)) (st : Statics) :
    Except Ending (Output × Statics) :=
  match getConfigValue st file q.sec q.key with
  | .error f => .error (.fault f)
  | .ok (false, _) => .error .nullString
  | .ok (true, st) =>
    match st.returnValue.str 0 with
    | .error f => .error (.fault f)
    | .ok value =>
      if value ≠ [] then .ok (.out (q.label ++ value), st) else .ok (.out q.notFound, st)

/-- The last line of a run. -/
def finished : Output := .out (lit "Program finished successfully.")

/-- The lookups one after the other, then the end of the program. -/
def reports : List (Query × Option (List Byte)) → Statics → List Output × Ending
  | [], _ => ([finished], .exit 0)
  | (q, file) :: rest, st =>
    match report q file st with
    | .error e => ([], e)
    | .ok (o, st) => (o :: (reports rest st).1, (reports rest st).2)

/-- What is printed before the configuration file is looked for; `time` is the text of
`TimeOperations::currentTime()`. -/
def preamble (time : List Byte) : List Output :=
  [.out (lit "Addition: " ++ lit (toString (add 10 5))), .out (lit "Current Time: " ++ time)]

/-- The line about the configuration file. -/
def configLine (configFile : List Byte) : Output := .out (lit "Configuration file: " ++ configFile)

/-- `main`, in the environment `env` and with the static buffers `path` and `st`. `files i` is what
the configuration file contains at the `i`-th lookup, if it can be opened then. -/
def main (time : List Byte) (env : Call) (path : PathBuf) (st : Statics)
    (files : Fin 4 → Option (List Byte)) : List Output × Ending :=
  match findConfigFile names path env with
  | .error f => (preamble time, .fault f)
  | .ok (none, _) =>
    (preamble time ++ [.err (lit "Error: Configuration file not found.")], .exit 1)
  | .ok (some configFile, _) =>
    let r := reports (List.ofFn fun i => (queries i, files i)) st
    (preamble time ++ configLine configFile :: r.1, r.2)

/-- The report that a lookup with result `value` deserves. -/
def answer (q : Query) (value : Option (List Byte)) : Output :=
  match value with
  | some (c :: v) => .out (q.label ++ c :: v)
  | _ => .out q.notFound

/-- The run of a program that survives every result of its lookups. -/
def reportedRun (time configFile : List Byte) (values : Fin 4 → Option (List Byte)) :
    List Output × Ending :=
  (preamble time ++ configLine configFile ::
    (List.ofFn (fun i => answer (queries i) (values i)) ++ [finished]), .exit 0)

end DiscoveryDemo.Hellomkcpp
