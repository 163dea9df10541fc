import TestReactor.ServerApplication
import TestReactor.WeakestPre

namespace TestReactor

/-! The two ways to hand an application its arguments. -/

namespace ServerApplication

/-- What `run(argc, argv)` and `run(args)` have in common where they agree. -/
structure Agrees (system : System) (args : List String) (one other : Process) : Prop where
  daemon : one.daemon = other.daemon
  command : one.app.command = other.app.command
  passed : one.passed = other.passed
  given : ∀ list ∈ one.passed, list = args

/-- They agree whatever the system answers. -/
def Agree (app : ServerApplication) (args : List String) : Prop :=
  ∀ system, Agrees system args (Exec.last (runArgv system args) (.start app))
    (Exec.last (runVector system args) (.start app))

def given (app : ServerApplication) (command : String) (args : List String) :
    ServerApplication :=
  { app with command := command, unprocessedArgs := args }

theorem run_setArgsVector (process : Process) (command : String) (rest : List String) :
    (setArgsVector (command :: rest)).run process =
      .ok () { process with app := process.app.given command (command :: rest) } := rfl

theorem run_push (process : Process) (args : List String) :
    (Exec.forEach args fun arg => (modify fun process =>
      { process with
        app := { process.app with
          unprocessedArgs := process.app.unprocessedArgs ++ [arg] } } : Method Unit)).run process =
      .ok () { process with
        app := { process.app with unprocessedArgs := process.app.unprocessedArgs ++ args } } := by
  induction args generalizing process with
  | nil => simp [Exec.forEach]
  | cons arg rest ih => simp [Exec.forEach, ih]

theorem run_setArgs (process : Process) (command : String) (rest : List String) :
    (setArgs (command :: rest)).run process =
      .ok () { process with
        app := process.app.given command (process.app.unprocessedArgs ++ command :: rest) } := by
  simp only [setArgs, setCommand, EStateM.run_bind, EStateM.run_modify, run_push, given]

/-! Where the answers let everything through. -/

def granting : System where
  fork := 0
  fin := true
  fout := true
  ferr := true
  chdir := 0
  currentPath := .ok "/"
  initializeSelf := .ok ()
  main := fun _ => .ok EXIT_OK

theorem run_init_granting (process : Process) :
    (ServerApplication.init granting).run process = .ok () process := by
  by_cases slash : '/' ∈ process.app.command.toList
  · by_cases absolute : process.app.command.toList.head? = some '/'
    · simp [ServerApplication.init, getApplicationPath, slash, absolute]
    · simp [ServerApplication.init, getApplicationPath, slash, absolute]
  · simp [ServerApplication.init, getApplicationPath, slash, answer, granting]

theorem run_initArgv_granting (process : Process) (command : String) (rest : List String) :
    (initArgv granting (command :: rest)).run process =
      .ok () { process with
        app := process.app.given command (process.app.unprocessedArgs ++ command :: rest) } := by
  rw [initArgv, EStateM.run_bind, run_setArgs]
  exact run_init_granting _

theorem run_initVector_granting (process : Process) (command : String) (rest : List String) :
    (initVector granting (command :: rest)).run process =
      .ok () { process with app := process.app.given command (command :: rest) } := by
  rw [initVector, EStateM.run_bind, run_setArgsVector]
  exact run_init_granting _

theorem last_launch_granting (app next : ServerApplication) (runAsDaemon : Bool)
    {init : Method Unit}
    (ran : init.run { Process.start app with daemon := runAsDaemon } =
      .ok () { Process.start next with daemon := runAsDaemon }) :
    Exec.last (launch granting runAsDaemon init) (.start app) =
      { Process.start { next with initialized := false } with
        daemon := runAsDaemon
        passed := [next.unprocessedArgs] } := by
  have daemonized : (Exec.when runAsDaemon (beDaemon granting)).run (.start app) =
      .ok () { Process.start app with daemon := runAsDaemon } := by
    cases runAsDaemon <;> simp [beDaemon, granting, Process.start]
  have ends : (ServerApplication.run granting).run
      { Process.start next with daemon := runAsDaemon } =
      .ok EXIT_OK { Process.start { next with initialized := false } with
        daemon := runAsDaemon
        passed := [next.unprocessedArgs] } := by
    simp [ServerApplication.run, initializeSelf, main, uninitialize, answer, granting,
      Exec.run_catching, Process.start]
  have whole : (launch granting runAsDaemon init).run (.start app) =
      (ServerApplication.run granting).run { Process.start next with daemon := runAsDaemon } := by
    simp [launch, daemonized, Exec.run_catching, ran, show granting.chdir = 0 from rfl]
  exact Exec.last_of_ok (whole.trans ends)

/-! Where they agree. -/

theorem isDaemon_eq_iff (command : String) (rest : List String) :
    isDaemon (command :: rest) = ((command :: rest).any fun arg => arg = "--daemon") ↔
      (command = "--daemon" → "--daemon" ∈ rest) := by
  have tail : isDaemon (command :: rest) = rest.any fun arg => arg = "--daemon" := by
    simp [isDaemon, eq_comm]
  rw [tail, List.any_cons, Bool.eq_iff_iff]
  by_cases first : command = "--daemon"
  · simp [first]
  · simp [first]

theorem run_beDaemon {system : System} {runAsDaemon : Bool} {process : Process} :
    Exec.ends (Exec.when runAsDaemon (beDaemon system))
      (fun _ next => next.app = process.app ∧ next.passed = process.passed)
      (fun _ next => next.app = process.app ∧ next.passed = process.passed) process := by
  cases runAsDaemon with
  | false => exact ⟨rfl, rfl⟩
  | true =>
      simp only [Exec.ends_when, beDaemon, exit, Exec.ends_bind, Exec.ends_modify,
        Exec.ends_ite, Exec.ends_raise, Exec.ends_pure, and_self, ite_self]

/-- The application has the arguments, and `main` was given nothing else. -/
structure Keeps (args : List String) (process : Process) : Prop where
  unprocessedArgs : process.app.unprocessedArgs = args
  passed : ∀ list ∈ process.passed, list = args

section

variable {args : List String}

theorem keeps_answer (result : Except String α) :
    Exec.Preserves (Keeps args) (answer result) := by
  cases result with
  | ok value => exact Exec.preserves_pure value
  | error what => exact Exec.preserves_raise _

theorem keeps_init (system : System) :
    Exec.Preserves (Keeps args) (ServerApplication.init system) := by
  refine .bind (Exec.preserves_read fun process _ => .ite ?_ ?_) fun _ => Exec.preserves_pure ()
  · exact .ite (Exec.preserves_pure _) (Exec.preserves_pure _)
  · exact (keeps_answer _).bind fun _ => .ite (Exec.preserves_pure _) (Exec.preserves_pure _)

theorem keeps_main (system : System) : Exec.Preserves (Keeps args) (main system args) := by
  refine .bind (Exec.preserves_modify fun process keeps => ⟨keeps.unprocessedArgs, ?_⟩)
    fun _ => keeps_answer _
  simp only [List.forall_mem_append, List.forall_mem_singleton]
  exact ⟨keeps.passed, trivial⟩

theorem keeps_run (system : System) : Exec.Preserves (Keeps args) (run system) := by
  refine .bind (.catching (.bind ?_ fun _ => .catching (Exec.preserves_read ?_) ?_) ?_) ?_
  · exact .bind (Exec.preserves_modify fun _ keeps => ⟨keeps.unprocessedArgs, keeps.passed⟩)
      fun _ => keeps_answer _
  · intro process keeps
    rw [keeps.unprocessedArgs]
    exact keeps_main system
  · exact fun _ => Exec.preserves_pure _
  · exact fun _ => Exec.preserves_pure _
  · intro rc
    refine .bind (Exec.preserves_read fun process _ => .when ?_) fun _ => Exec.preserves_pure rc
    exact Exec.preserves_modify fun _ keeps => ⟨keeps.unprocessedArgs, keeps.passed⟩

theorem given_runVector (system : System) (app : ServerApplication) (command : String)
    (rest : List String) :
    Exec.ends (runVector system (command :: rest))
      (fun _ next => ∀ list ∈ next.passed, list = command :: rest)
      (fun _ next => ∀ list ∈ next.passed, list = command :: rest) (.start app) := by
  have nothing (next : Process) (passed : next.passed = []) :
      ∀ list ∈ next.passed, list = command :: rest := by simp [passed]
  rw [runVector, launch, Exec.ends_bind]
  refine Exec.ends_mono run_beDaemon ?_ fun _ next kept => nothing next kept.2
  rintro _ middle ⟨-, passed⟩
  have keeps : Keeps (command :: rest)
      { middle with app := middle.app.given command (command :: rest) } :=
    ⟨rfl, nothing _ passed⟩
  have starts := run_setArgsVector middle command rest
  rw [Exec.ends_bind, Exec.ends_catching, Exec.ends_bind, initVector, Exec.ends_bind,
    Exec.ends_of_ok starts]
  refine Exec.ends_mono (keeps_init system _ keeps) ?_ ?_
  · intro _ next keeps
    rw [Exec.ends_ite]
    split
    · exact keeps.passed
    · have ran := keeps_run system next keeps
      rw [Exec.ends_pure]
      exact Exec.ends_mono ran (fun _ _ kept => kept.passed) fun _ _ kept => kept.passed
  · intro stop next keeps
    cases stop <;> exact keeps.passed

end

theorem run_launch_congr {system : System} {runAsDaemon : Bool} {process : Process}
    {one other : Method Unit}
    (same : ∀ next, next.app = process.app → one.run next = other.run next) :
    (launch system runAsDaemon one).run process =
      (launch system runAsDaemon other).run process := by
  have kept := @run_beDaemon system runAsDaemon process
  simp only [launch, EStateM.run_bind]
  cases ran : (Exec.when runAsDaemon (beDaemon system)).run process with
  | error stop next => rfl
  | ok _ next =>
      rw [Exec.ends_of_ok ran] at kept
      simp only [Exec.run_catching, EStateM.run_bind, same next kept.1]

theorem run_runArgv {app : ServerApplication} {command : String} {rest : List String}
    {system : System} (empty : app.unprocessedArgs = [])
    (decides : command = "--daemon" → "--daemon" ∈ rest) :
    (runArgv system (command :: rest)).run (.start app) =
      (runVector system (command :: rest)).run (.start app) := by
  rw [runArgv, runVector, (isDaemon_eq_iff command rest).mpr decides]
  apply run_launch_congr
  intro next kept
  have none : next.app.unprocessedArgs = [] := by
    rw [kept]
    exact empty
  rw [initArgv, initVector, EStateM.run_bind, EStateM.run_bind, run_setArgs,
    run_setArgsVector, none]
  rfl

/-- The two ways agree exactly on an application without arguments, where `--daemon` is not the
command alone. -/
theorem agree_iff (app : ServerApplication) (command : String) (rest : List String) :
    Agree app (command :: rest) ↔
      app.unprocessedArgs = [] ∧ (command = "--daemon" → "--daemon" ∈ rest) := by
  constructor
  · intro agree
    have one := last_launch_granting app
      (app.given command (app.unprocessedArgs ++ command :: rest)) (isDaemon (command :: rest))
      (run_initArgv_granting _ command rest)
    have other := last_launch_granting app (app.given command (command :: rest))
      ((command :: rest).any fun arg => arg = "--daemon") (run_initVector_granting _ command rest)
    obtain ⟨daemon, -, -, given⟩ := agree granting
    rw [runArgv, one] at daemon given
    rw [runVector, other] at daemon
    refine ⟨?_, (isDaemon_eq_iff command rest).mp daemon⟩
    have whole := given _ (.head _)
    exact List.append_left_eq_self.mp whole
  · rintro ⟨empty, decides⟩ system
    have same : (runArgv system (command :: rest)).run (.start app) =
        (runVector system (command :: rest)).run (.start app) := run_runArgv empty decides
    have last : Exec.last (runArgv system (command :: rest)) (.start app) =
        Exec.last (runVector system (command :: rest)) (.start app) := by
      rw [Exec.last, Exec.last, same]
    have given := given_runVector system app command rest
    refine ⟨by rw [last], by rw [last], by rw [last], ?_⟩
    rw [last]
    exact Exec.ends_iff_last.mp given

/-- An application that its constructor has given the arguments is run with them again. -/
theorem arguments_are_doubled :
    ∃ process, (initArgv granting ["server"]).run (.start fresh) = .ok () process ∧
      (Exec.last (runArgv granting ["server"]) (.start process.app)).passed =
        [["server", "server"]] ∧
      ¬ Agree process.app ["server"] := by
  have passed : (Exec.last (runArgv granting ["server"])
      (.start (fresh.given "server" ["server"]))).passed = [["server", "server"]] := rfl
  refine ⟨{ Process.start fresh with app := fresh.given "server" ["server"] }, rfl, passed, ?_⟩
  intro agree
  have given := (agree granting).given ["server", "server"] (by rw [passed]; exact .head _)
  contradiction

end ServerApplication

end TestReactor
