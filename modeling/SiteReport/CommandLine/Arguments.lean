/-!
The arguments of the program. Options with a value come before the name of a task, everything else
after it; two dashes end the options. What is wrong is found from left to right, and a request for
help counts from where it stands.
-/

namespace SiteReport

inductive StockTask where
  | list
  | remove (id : String)
  | clear
  deriving DecidableEq

inductive DraftTask where
  | print
  | discard
  deriving DecidableEq

inductive Task where
  | stage (files : List String)
  | stock (task : StockTask)
  | draft (task : DraftTask)
  | submit (report stores : Option String)
  deriving DecidableEq

/-- A call of the program. -/
structure Invocation where
  /-- The path of the settings file. -/
  config : String
  /-- Counts instead of the endpoint in the settings. -/
  endpoint : Option String
  task : Task
  deriving DecidableEq

/-- Arguments that lead to no task. -/
inductive Stop where
  | help
  | version
  | wrong
  deriving DecidableEq

/-- An option with a value. -/
structure Flag where
  long : String
  short : Option Char := none
  mayBeEmpty : Bool := false
  deriving DecidableEq

/-- What one argument is. -/
inductive Argument where
  | plain
  | endOfOptions
  | help
  | version
  /-- With the value, if it is part of the argument. -/
  | option (flag : Flag) (value : Option String)
  | unknown
  deriving DecidableEq

/-- What follows an equals sign. -/
def afterEquals : List Char → Option (List Char)
  | [] => none
  | '=' :: rest => some rest
  | _ :: rest => afterEquals rest

def Argument.ofLong (flags : List Flag) (cs : List Char) : Argument :=
  let name := String.ofList (cs.takeWhile (· ≠ '='))
  let value := (afterEquals cs).map String.ofList
  match flags.find? (·.long == name) with
  | some flag => .option flag value
  | none =>
    if value.isSome then .unknown
    else if name = "help" then .help
    else if name = "version" then .version
    else .unknown

/-- A short name may have its value right behind it, with or without an equals sign. -/
def Argument.ofShort (flags : List Flag) (c : Char) (rest : List Char) : Argument :=
  if c = 'h' then .help
  else if c = 'V' then .version
  else
    match flags.find? (·.short == some c) with
    | none => .unknown
    | some flag =>
      match rest with
      | [] => .option flag none
      | '=' :: value => .option flag (some (String.ofList value))
      | value => .option flag (some (String.ofList value))

/-- A lone dash is a plain argument. -/
def Argument.of (flags : List Flag) (arg : String) : Argument :=
  match arg.toList with
  | ['-', '-'] => .endOfOptions
  | '-' :: '-' :: cs => .ofLong flags cs
  | '-' :: c :: cs => .ofShort flags c cs
  | _ => .plain

/-- What was given up to some point: values by the names of their options, and plain arguments. -/
structure Given where
  values : List (String × String) := []
  plain : List String := []
  deriving DecidableEq

namespace Given

/-- An option counts once, and most values may not be empty. -/
def set (g : Given) (flag : Flag) (value : String) : Except Stop Given :=
  if (g.values.lookup flag.long).isSome || (value.isEmpty && !flag.mayBeEmpty) then .error .wrong
  else .ok { g with values := g.values ++ [(flag.long, value)] }

end Given

/-- What a place in the arguments accepts. -/
structure Accepts where
  flags : List Flag := []
  /-- A plain argument names what follows. -/
  isBranch : Bool := false
  /-- Does a plain argument fit behind so many others? -/
  fits : Nat → String → Bool := fun _ _ => false

namespace Accepts

def add (a : Accepts) (g : Given) (arg : String) : Except Stop Given :=
  if a.fits g.plain.length arg then .ok { g with plain := g.plain ++ [arg] } else .error .wrong

/-- Reads up to the end, or up to the first name at a branch; then the name and what follows it
are handed on. -/
def read (a : Accepts) (g : Given) : List String → Except Stop (Given × List String)
  | [] => .ok (g, [])
  | arg :: rest =>
    match Argument.of a.flags arg with
    | .help => .error .help
    | .version => .error .version
    | .unknown => .error .wrong
    | .endOfOptions =>
      if a.isBranch then .error .wrong
      else (rest.foldlM a.add g).map (·, [])
    | .plain =>
      if a.isBranch then .ok (g, arg :: rest)
      else
        match a.add g arg with
        | .ok g => a.read g rest
        | .error e => .error e
    | .option flag (some value) =>
      match g.set flag value with
      | .ok g => a.read g rest
      | .error e => .error e
    | .option flag none =>
      match rest with
      | [] => .error .wrong
      | value :: rest =>
        if Argument.of [] value = .plain then
          match g.set flag value with
          | .ok g => a.read g rest
          | .error e => .error e
        else .error .wrong

end Accepts

/-- The names at a place, which is the names that led there. -/
def taskNames : List String → List String
  | [] => ["stage", "stock", "draft", "submit", "help"]
  | ["stock"] => ["list", "remove", "clear", "help"]
  | ["draft"] => ["show", "discard", "help"]
  | _ => []

/-- Help on what the names lead to. -/
def helpOn (place : List String) : List String → Stop
  | [] => .help
  | name :: rest =>
    if (taskNames place).contains name then helpOn (place ++ [name]) rest else .wrong

namespace StockTask

def read (args : List String) : Except Stop StockTask := do
  let (_, rest) ← Accepts.read { isBranch := true } {} args
  match rest with
  | "list" :: args => do
    let _ ← Accepts.read {} {} args
    .ok .list
  | "remove" :: args => do
    let (g, _) ← Accepts.read { fits := fun n _ => n == 0 } {} args
    match g.plain with
    | [id] => .ok (.remove id)
    | _ => .error .wrong
  | "clear" :: args => do
    let _ ← Accepts.read {} {} args
    .ok .clear
  | "help" :: args => .error (helpOn ["stock"] args)
  | _ => .error .wrong

end StockTask

namespace DraftTask

def read (args : List String) : Except Stop DraftTask := do
  let (_, rest) ← Accepts.read { isBranch := true } {} args
  match rest with
  | "show" :: args => do
    let _ ← Accepts.read {} {} args
    .ok .print
  | "discard" :: args => do
    let _ ← Accepts.read {} {} args
    .ok .discard
  | "help" :: args => .error (helpOn ["draft"] args)
  | _ => .error .wrong

end DraftTask

namespace Task

/-- Paths may not be empty. -/
def read : List String → Except Stop Task
  | "stage" :: args => do
    let (g, _) ← Accepts.read { fits := fun _ path => !path.isEmpty } {} args
    if g.plain.isEmpty then .error .wrong else .ok (.stage g.plain)
  | "stock" :: args => (StockTask.read args).map .stock
  | "draft" :: args => (DraftTask.read args).map .draft
  | "submit" :: args => do
    let (g, _) ← Accepts.read
      { flags := [{ long := "stores" }], fits := fun n path => n == 0 && !path.isEmpty } {} args
    .ok (.submit g.plain.head? (g.values.lookup "stores"))
  | "help" :: args => .error (helpOn [] args)
  | _ => .error .wrong

/-- The paths that the task names. -/
def paths : Task → List String
  | .stage files => files
  | .submit report stores => report.toList ++ stores.toList
  | _ => []

end Task

namespace Invocation

def flags : List Flag :=
  [{ long := "config", short := some 'c' }, { long := "endpoint", mayBeEmpty := true }]

/-- Variables of the environment stand in for options that are not given. -/
def read (valueOf? : String → Option String) (args : List String) : Except Stop Invocation := do
  let (g, rest) ← Accepts.read { flags, isBranch := true } {} args
  let task ← Task.read rest
  let config := ((g.values.lookup "config").or (valueOf? "FIELDREPORT_CONFIG")).getD
    "fieldreport.toml"
  let endpoint := (g.values.lookup "endpoint").or (valueOf? "FIELDREPORT_ENDPOINT")
  if config.isEmpty then .error .wrong else .ok { config, endpoint, task }

end Invocation

end SiteReport
