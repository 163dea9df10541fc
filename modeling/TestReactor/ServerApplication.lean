import TestReactor.Exec

namespace TestReactor

/-! The start of a server application, from its arguments up to `main`.  What the kernel
answers, and what a derived class makes of the virtual functions, is a parameter. -/

structure ServerApplication where
  workingDirAtLaunch : String
  command : String
  unprocessedArgs : List String
  initialized : Bool
  deriving DecidableEq, Repr

namespace ServerApplication

def EXIT_OK : Int := 0
def EXIT_SOFTWARE : Int := 70
def EXIT_OSERR : Int := 71
def EXIT_CONFIG : Int := 78

structure System where
  fork : Int
  fin : Bool
  fout : Bool
  ferr : Bool
  chdir : Int
  currentPath : Except String String
  initializeSelf : Except String Unit
  main : List String → Except String Int

/-- The program: whether `beDaemon` was called, the lists that were passed to `main`, and the
code that the program has exited with. -/
structure Process where
  app : ServerApplication
  daemon : Bool
  passed : List (List String)
  exited : Option Int
  deriving DecidableEq, Repr

abbrev Method (α : Type) := Exec Process α

def Process.start (app : ServerApplication) : Process where
  app := app
  daemon := false
  passed := []
  exited := none

def fresh : ServerApplication where
  workingDirAtLaunch := ""
  command := ""
  unprocessedArgs := []
  initialized := false

def answer (result : Except String α) : Method α :=
  match result with
  | .ok value => pure value
  | .error what => Exec.raise (.throw what)

def exit (code : Int) : Method Unit := do
  modify fun process => { process with exited := some code }
  Exec.raise .abort

/-- `argv[0]`. -/
def setCommand (args : List String) : Method Unit :=
  match args with
  | [] => Exec.raise .fault
  | command :: _ => modify fun process =>
      { process with app := { process.app with command := command } }

/-- `setArgs(argc, argv)` -/
def setArgs (args : List String) : Method Unit := do
  setCommand args
  Exec.forEach args fun arg => modify fun process =>
    { process with
      app := { process.app with unprocessedArgs := process.app.unprocessedArgs ++ [arg] } }

/-- `setArgs(args)` -/
def setArgsVector (args : List String) : Method Unit := do
  setCommand args
  modify fun process => { process with app := { process.app with unprocessedArgs := args } }

def getApplicationPath (system : System) : Method String := do
  let app := (← get).app
  if '/' ∈ app.command.toList then
    if app.command.toList.head? = some '/' then return app.command
    else return app.workingDirAtLaunch ++ app.command
  else
    let appPath ← answer system.currentPath
    if appPath = "" then return app.workingDirAtLaunch ++ app.command
    else return appPath

/-- `init()`, which makes no use of the path. -/
def init (system : System) : Method Unit := do
  let _ ← getApplicationPath system

def initArgv (system : System) (args : List String) : Method Unit := do
  setArgs args
  init system

def initVector (system : System) (args : List String) : Method Unit := do
  setArgsVector args
  init system

def initializeSelf (system : System) : Method Unit := do
  modify fun process => { process with app := { process.app with initialized := true } }
  answer system.initializeSelf

def uninitialize : Method Unit := do
  Exec.when (← get).app.initialized
    (modify fun process => { process with app := { process.app with initialized := false } })

def main (system : System) (args : List String) : Method Int := do
  modify fun process => { process with passed := process.passed ++ [args] }
  answer (system.main args)

/-- `run()`.  The code that is returned tells how far it got. -/
def run (system : System) : Method Int := do
  let rc ← Exec.catching
    (do
      initializeSelf system
      Exec.catching (do main system (← get).app.unprocessedArgs) fun _ => pure EXIT_SOFTWARE)
    fun _ => pure EXIT_CONFIG
  uninitialize
  return rc

def isDaemon (args : List String) : Bool := (args.drop 1).any fun arg => "--daemon" = arg

def beDaemon (system : System) : Method Unit := do
  modify fun process => { process with daemon := true }
  if system.fork < 0 then Exec.raise (.throw "Fork failed")
  else if system.fork ≠ 0 then exit EXIT_OK
  else if !system.fin then Exec.raise (.throw "Failed to redirect stdin")
  else if !system.fout then Exec.raise (.throw "Cannot attach stdout to /dev/null")
  else if !system.ferr then Exec.raise (.throw "Cannot attach stderr to /dev/null")
  else pure ()

/-- What both ways to run an application do, once the decision is made.  The result of
the guarded part is the code to return with, if it is one. -/
def launch (system : System) (runAsDaemon : Bool) (init : Method Unit) : Method Int := do
  Exec.when runAsDaemon (beDaemon system)
  let early ← Exec.catching
    (do
      init
      if runAsDaemon ∧ system.chdir ≠ 0 then return some EXIT_OSERR
      else return none)
    fun _ => pure (some EXIT_CONFIG)
  match early with
  | some code => return code
  | none => run system

/-- `run(argc, argv)` -/
def runArgv (system : System) (args : List String) : Method Int :=
  launch system (isDaemon args) (initArgv system args)

/-- `run(args)` -/
def runVector (system : System) (args : List String) : Method Int :=
  launch system (args.any fun arg => arg = "--daemon") (initVector system args)

end ServerApplication

end TestReactor
