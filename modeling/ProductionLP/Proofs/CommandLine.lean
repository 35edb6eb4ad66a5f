import ProductionLP.CommandLine.Run
import ProductionLP.Proofs.Program.Payload
import ProductionLP.Proofs.Program.Refusal
import ProductionLP.Proofs.RatioTest
import ProductionLP.Proofs.Report

/- How runs of the command line end.

   A run that writes no files comes to its end in a few ways only:

   1. what it prints and logs never fails: on whatever console, the steps of a run come to what
      their parts come to (`ComesTo`), every tableau, plan and report of a solution can be shown
      (`comesTo_printReport`), and any reference solver may report anything or fail
      (`comesTo_verify`);
   2. so the configuration and the solver decide the result (`run_eq_verdict`);
   3. it is the code two for what is refused and the code of the status for what is solved
      (`Settles`), and otherwise one of four errors that nobody reports (`Escapes`).

   One of these errors is a level of logging without a name: it is looked up after the
   configuration is loaded and before the program is solved, where nothing is reported. -/
namespace ProductionLP

/-! ## Configurations -/

namespace Config

variable {tree : FileTree} {path : Path} {c : Config}

/-- The program of a configuration is the one of its section. -/
theorem exists_programOf_of_ofValue {document : Value} (h : ofValue tree path document = .ok c) :
    ∃ raw, programOf tree path.parent raw = .ok c.program := by
  obtain ⟨mentioned, _, h⟩ := exists_of_bind_eq_ok h
  cases mentioned with
  | false => cases h
  | true =>
    obtain ⟨_, _, h⟩ := exists_of_bind_eq_ok h
    obtain ⟨_, _, h⟩ := exists_of_bind_eq_ok h
    obtain ⟨_, _, h⟩ := exists_of_bind_eq_ok h
    obtain ⟨raw, _, h⟩ := exists_of_bind_eq_ok h
    obtain ⟨program, hprogram, h⟩ := exists_of_bind_eq_ok h
    obtain ⟨_, _, h⟩ := exists_of_bind_eq_ok h
    cases h
    exact ⟨_, hprogram⟩

/-- So is the program of a configuration that is loaded from a file. -/
theorem exists_programOf_of_load {directory : Path} (h : load tree directory path = .ok c) :
    ∃ base raw, programOf tree base raw = .ok c.program := by
  obtain ⟨_, _, h⟩ := exists_of_bind_eq_ok h
  obtain ⟨octets, _, h⟩ := exists_of_bind_eq_ok h
  obtain ⟨text, _, h⟩ := exists_of_bind_eq_ok h
  obtain ⟨document, _, h⟩ := exists_of_bind_eq_ok h
  exact ⟨_, exists_programOf_of_ofValue h⟩

end Config

namespace CommandLine

/-! ## What steps come to -/

/-- A step comes to the same result on every console. -/
def ComesTo {α : Type} (x : Step α) (r : Except Stop α) : Prop := ∀ c, (x.run c).1 = r

theorem run_bind {α β : Type} (x : Step α) (f : α → Step β) (c : Console) :
    (x >>= f).run c =
      match x.run c with
      | (.ok a, c') => (f a).run c'
      | (.error stop, c') => (.error stop, c') := by
  show (ExceptT.bindCont f (x.run c).1).run (x.run c).2 = _
  obtain ⟨r, c'⟩ := x.run c
  cases r with
  | ok a => rfl
  | error stop => rfl

theorem run_get (c : Console) : (get : Step Console).run c = (.ok c, c) := rfl

namespace ComesTo

variable {α β : Type} {x : Step α} {f : α → Step β}

theorem pure (a : α) : ComesTo (Pure.pure a : Step α) (.ok a) := fun _ => rfl

/-- A step after one that yields a result. -/
theorem bind {a : α} {r : Except Stop β} (hx : ComesTo x (.ok a)) (hf : ComesTo (f a) r) :
    ComesTo (x >>= f) r := by
  intro c
  rw [run_bind]
  rcases hrun : x.run c with ⟨r', c'⟩
  obtain rfl : r' = .ok a := by rw [← hx c, hrun]
  exact hf c'

/-- Nothing comes after a step that ends the run. -/
theorem stop {e : Stop} (hx : ComesTo x (.error e)) : ComesTo (x >>= f) (.error e) := by
  intro c
  rw [run_bind]
  rcases hrun : x.run c with ⟨r', c'⟩
  obtain rfl : r' = .error e := by rw [← hx c, hrun]
  rfl

theorem forM {β : Type} {g : β → Step Unit} {xs : List β} (h : ∀ b ∈ xs, ComesTo (g b) (.ok ())) :
    ComesTo (xs.forM g) (.ok ()) := by
  induction xs with
  | nil => exact .pure ()
  | cons b rest ih =>
    show ComesTo (g b >>= fun _ => rest.forM g) _
    exact (h b (List.mem_cons_self ..)).bind (ih fun c hc => h c (List.mem_cons_of_mem _ hc))

end ComesTo

theorem comesTo_print (text : String) : ComesTo (print text) (.ok ()) := fun _ => rfl

theorem comesTo_log (name : String) (messages : List (Int × String)) :
    ComesTo (log name messages) (.ok ()) := fun _ => rfl

theorem comesTo_refuse {α : Type} (reason : String) :
    ComesTo (refuse reason : Step α) (.error (.exit 2)) := fun _ => rfl

theorem comesTo_need {α : Type} {r : Except Error α} {a : α} (h : r = .ok a) :
    ComesTo (need r) (.ok a) := by
  subst h
  exact .pure a

theorem comesTo_need_error {α : Type} {r : Except Error α} {e : Error} (h : r = .error e) :
    ComesTo (need r) (.error (.failed e)) := by
  subst h
  exact fun _ => rfl

/-! ## The steps of a run -/

/-- The level that a configuration asks for, if it changes the level, has a name. -/
def KnowsLevel (c : Config) : Prop :=
  c.options.logging = true → (Level.ofName? (Text.capitals c.options.logLevel)).isSome = true

instance (c : Config) : Decidable (KnowsLevel c) := inferInstanceAs (Decidable (_ → _))

/-- Changing the level fails only for a name that no level has. -/
theorem setLevel_eq (r : Registry) (name : String) :
    (r.setLevel (.text name)).2 =
      if (Level.ofName? (Text.capitals name)).isSome then .ok () else .error (.unknownLevel name) := by
  cases h : Level.ofName? (Text.capitals name) with
  | none => simp [Registry.setLevel, Registry.requested, h]
  | some i => simp [Registry.setLevel, Registry.requested, h, Level.ofValue?]

theorem comesTo_changeLevel (name : String) :
    ComesTo (changeLevel name) (if (Level.ofName? (Text.capitals name)).isSome then .ok ()
      else .error (.failed (.unknownLevel name))) := by
  intro c
  show ((need (c.loggers.setLevel (.text name)).2).run _).1 = _
  rw [setLevel_eq]
  split <;> rfl

/-- What the command line makes of what the solver makes of a program. -/
def solved (r : Except Error (Solution Float)) : Except Stop (Solution Float) :=
  match r with
  | .ok sol => .ok sol
  | .error (.problem _) => .error (.exit 2)
  | .error e => .error (.failed e)

/-- A run that fails to give a solution breaks no rule of linear programs. -/
theorem solved_ofTrace (s : Settings Float) (n : Int) (t : Trace Float) :
    solved (Solution.ofTrace s n t) = (Solution.ofTrace s n t).mapError .failed := by
  unfold Solution.ofTrace
  cases t.ending with
  | error cause => rfl
  | ok status =>
    dsimp only
    cases Solution.extract t.tableau n status t.snapshots t.pivots s.basicTol <;> rfl

theorem comesTo_solveProgram (c : Config) :
    ComesTo (solveProgram c) (solved (solve c.solver c.program)) := by
  unfold solveProgram solve
  cases htrace : trace c.solver c.program with
  | error e =>
    cases e with
    | problem cause => exact comesTo_refuse _
    | _ => exact fun _ => rfl
  | ok t =>
    show ComesTo _ (solved (Solution.ofTrace c.solver c.program.n t))
    rw [solved_ofTrace]
    refine (comesTo_log _ _).bind ?_
    cases hsol : Solution.ofTrace c.solver c.program.n t with
    | error e => exact comesTo_need_error rfl
    | ok sol => exact comesTo_need rfl

/-- A tableau with columns for all of its rows can be printed. -/
theorem comesTo_printSnapshot {sn : Snapshot Float} (hrows : 1 ≤ sn.tableau.height)
    (hcolumns : sn.tableau.height ≤ sn.tableau.width) : ComesTo (printSnapshot sn) (.ok ()) := by
  obtain ⟨frame, hframe⟩ := @Report.exists_ofTableau sn.tableau tableauPlaces hrows hcolumns
    (by decide)
  exact (comesTo_print _).bind
    ((comesTo_need (congrArg liftFault hframe)).bind (comesTo_print _))

/-- Everything about a solution can be printed. -/
theorem comesTo_printReport {c : Config} {sol : Solution Float} (all : Bool)
    (hsol : solve c.solver c.program = .ok sol) : ComesTo (printReport c sol all) (.ok ()) := by
  obtain ⟨tr, status, htrace, _, hextract⟩ := exists_trace_of_solve hsol
  obtain ⟨g, hrun⟩ := isRun_of_trace htrace
  obtain ⟨_, hsnapshots, _, _⟩ := Solution.of_extract hextract
  obtain ⟨plan, hplan⟩ := Report.exists_plan sol
  have hn := hrun.valid.n_pos
  have hprinted : ∀ sn ∈ printedSnapshots all sol, ComesTo (printSnapshot sn) (.ok ()) := by
    intro sn hsn
    have hmem : sn ∈ tr.snapshots := by
      rw [← hsnapshots]
      cases all with
      | true => exact hsn
      | false => exact List.mem_of_mem_drop hsn
    obtain ⟨hheight, hwidth⟩ := hrun.shape_of_snapshot hmem
    exact comesTo_printSnapshot (by omega) (by omega)
  refine (ComesTo.forM hprinted).bind ((comesTo_print _).bind ((comesTo_print _).bind
    ((comesTo_print _).bind ((comesTo_print _).bind ?_))))
  refine (comesTo_need (congrArg liftFault hplan)).bind ((comesTo_print _).bind ?_)
  by_cases hoptimal : sol.isOptimal = true
  · obtain ⟨uses, huses⟩ := Report.exists_constraints hrun.valid (hrun.length_values hextract)
    rw [if_pos hoptimal]
    exact (comesTo_print _).bind ((comesTo_need (congrArg liftFault huses)).bind (comesTo_print _))
  · rw [if_neg hoptimal]
    exact .pure ()

/-- Whatever the reference solver reports, and also when it fails, the run goes on. -/
theorem comesTo_verify (reference : Reference.Solver) (c : Config) (sol : Solution Float) :
    ComesTo (verify reference c sol) (.ok ()) := by
  unfold verify
  cases reference c.program with
  | ok r => exact comesTo_log _ _
  | error reason => exact comesTo_log _ _

/-! ## The end of a run -/

/-- What a run that writes no files comes to, by the configuration that it loads. -/
def verdict (loaded : Except Error Config) : Except Error Nat :=
  match loaded with
  | .error e => if e.isReported then .ok 2 else .error e
  | .ok c =>
    if KnowsLevel c then
      match solve c.solver c.program with
      | .ok sol => .ok (exitCode sol)
      | .error (.problem _) => .ok 2
      | .error e => .error e
    else .error (.unknownLevel c.options.logLevel)

/-- What a step comes to when it ends a run. -/
def ending (r : Except Stop Nat) : Except Error Nat :=
  match r with
  | .ok code => .ok code
  | .error (.exit code) => .ok code
  | .error (.failed e) => .error e

theorem run_eq (place : Place) (files : FileTree) (words : List String)
    (reference : Reference.Solver) :
    (run place files words reference).1 =
      ending ((command reference place words).run ⟨"", "", files, Registry.standing⟩).1 := by
  unfold run
  rcases (command reference place words).run ⟨"", "", files, Registry.standing⟩ with ⟨r, console⟩
  rcases r with stop | code
  · cases stop <;> rfl
  · rfl

variable {place : Place} {o : Options}

theorem loadConfig_run_ok {console : Console} {c : Config}
    (h : configuration place console.files o = .ok c) :
    (loadConfig place o).run console = (.ok c, console) := by
  rw [loadConfig, run_bind, run_get]
  simp only [h]
  rfl

theorem loadConfig_run_error {console : Console} {e : Error}
    (h : configuration place console.files o = .error e) :
    ((loadConfig place o).run console).1 = .error (if e.isReported then .exit 2 else .failed e) := by
  rw [loadConfig, run_bind, run_get]
  simp only [h]
  split <;> rfl

/-- What comes after the level is set: the program is solved, and the solution is printed and
    compared with the reference. -/
theorem comesTo_rest (reference : Reference.Solver) (c : Config) (all check : Bool) :
    ComesTo (do
      let sol ← solveProgram c
      printReport c sol all
      if check = true then do
        verify reference c sol
        return exitCode sol
      else return exitCode sol) ((solved (solve c.solver c.program)).map exitCode) := by
  have hfirst := comesTo_solveProgram c
  cases hsol : solve c.solver c.program with
  | error e =>
    rw [hsol] at hfirst
    cases e with
    | problem cause => exact hfirst.stop
    | _ => exact hfirst.stop
  | ok sol =>
    rw [hsol] at hfirst
    refine hfirst.bind ((comesTo_printReport all hsol).bind ?_)
    cases check with
    | true => exact (comesTo_verify reference c sol).bind (.pure _)
    | false => exact .pure _

theorem ending_solved (c : Config) :
    ending ((solved (solve c.solver c.program)).map exitCode) =
      match solve c.solver c.program with
      | .ok sol => .ok (exitCode sol)
      | .error (.problem _) => .ok 2
      | .error e => .error e := by
  cases solve c.solver c.program with
  | error e => cases e <;> rfl
  | ok sol => rfl

/-- A run that writes no files does what its configuration, its level and its solver allow. -/
theorem perform_run (reference : Reference.Solver) (hout : o.out = none) (console : Console) :
    ending ((perform reference place o).run console).1 =
      verdict (configuration place console.files o) := by
  unfold perform
  rw [run_bind]
  cases hload : configuration place console.files o with
  | error e =>
    rcases hrun : (loadConfig place o).run console with ⟨r, console'⟩
    obtain rfl : r = .error (if e.isReported then .exit 2 else .failed e) := by
      rw [← loadConfig_run_error hload, hrun]
    simp only [verdict]
    split <;> rfl
  | ok c =>
    rw [loadConfig_run_ok hload]
    simp only [hout]
    have hrest := comesTo_rest reference c o.showTableaus (o.verify || c.options.verify)
    have hlevel := comesTo_changeLevel c.options.logLevel
    by_cases hlogging : c.options.logging = true
    · rw [if_pos hlogging]
      by_cases hname : (Level.ofName? (Text.capitals c.options.logLevel)).isSome = true
      · have hknows : KnowsLevel c := fun _ => hname
        rw [if_pos hname] at hlevel
        rw [(hlevel.bind hrest) console, verdict, if_pos hknows]
        exact ending_solved c
      · rw [if_neg hname] at hlevel
        rw [hlevel.stop console, verdict, if_neg fun hknows => hname (hknows hlogging)]
        rfl
    · have hknows : KnowsLevel c := fun h => absurd h hlogging
      rw [if_neg hlogging, hrest console, verdict, if_pos hknows]
      exact ending_solved c

/-- How a run that writes no files ends. -/
theorem run_eq_verdict {files : FileTree} {words : List String}
    (reference : Reference.Solver) (hwords : Request.ofWords words = .run o)
    (hout : o.out = none) :
    (run place files words reference).1 = verdict (configuration place files o) := by
  rw [run_eq, command, hwords]
  exact perform_run reference hout _

/-- The codes that a run that writes no files ends with. -/
inductive Settles (place : Place) (files : FileTree) (o : Options) : Nat → Prop
  /-- Loading fails in a way that is reported. -/
  | unread {e : Error} (failed : configuration place files o = .error e)
      (reported : e.isReported = true) : Settles place files o 2
  /-- The program breaks a rule, which the message can name. -/
  | invalid {c : Config} {cause : ProblemError} (loaded : configuration place files o = .ok c)
      (known : KnowsLevel c) (invalid : c.program.validate = .error cause)
      (written : cause.isWritten = true) : Settles place files o 2
  /-- The program is solved. -/
  | solved {c : Config} {sol : Solution Float} (loaded : configuration place files o = .ok c)
      (known : KnowsLevel c) (solved : solve c.solver c.program = .ok sol) :
      Settles place files o (if sol.status = .optimal then 0 else 1)

/-- The errors that escape a run that writes no files. -/
inductive Escapes (place : Place) (files : FileTree) (o : Options) : Error → Prop
  /-- Loading fails in a way that is not reported. -/
  | loading {e : Error} (failed : configuration place files o = .error e)
      (unreported : e.isReported = false) : Escapes place files o e
  /-- The level of logging has no such name. -/
  | level {c : Config} (loaded : configuration place files o = .ok c) (unknown : ¬ KnowsLevel c) :
      Escapes place files o (.unknownLevel c.options.logLevel)
  /-- A size of the program breaks a rule, and is too long to be named in the message. -/
  | size {c : Config} {cause : ProblemError} (loaded : configuration place files o = .ok c)
      (known : KnowsLevel c) (invalid : c.program.validate = .error cause)
      (unwritten : cause.isWritten = false) : Escapes place files o (.setting .unwritten)
  /-- A ratio test ties with no row, which only the least-index rule does. -/
  | tie {c : Config} (loaded : configuration place files o = .ok c) (known : KnowsLevel c)
      (rule : c.solver.rule = .bland) (valid : c.program.validate = .ok ())
      (tied : solve c.solver c.program = .error (.ratio .tieWithNoRow)) :
      Escapes place files o (.ratio .tieWithNoRow)

variable {files : FileTree}

/-- The operators of a configuration are known ones. -/
theorem isKnown_of_configuration {c : Config} (loaded : configuration place files o = .ok c) :
    ∀ r ∈ c.program.operators, r.IsKnown := by
  obtain ⟨path, _, hload⟩ := exists_of_bind_eq_ok loaded
  obtain ⟨base, raw, hprogram⟩ := Config.exists_programOf_of_load hload
  exact (Program.isListed_of_programOf hprogram).isKnown

/-- So only a size keeps a broken rule from being put into words. -/
theorem toError_of_not_isWritten {c : Config} {cause : ProblemError}
    (loaded : configuration place files o = .ok c) (invalid : c.program.validate = .error cause)
    (unwritten : cause.isWritten = false) : cause.toError = .setting .unwritten := by
  refine Program.toError_of_not_isWritten (fun r hr v hother => ?_) invalid unwritten
  rcases isKnown_of_configuration loaded r hr with rfl | rfl | rfl <;> cases hother

/-- A run comes to a code or to an error that escapes. -/
theorem verdict_cases (place : Place) (files : FileTree) (o : Options) :
    (∃ code, verdict (configuration place files o) = .ok code ∧ Settles place files o code) ∨
      ∃ e, verdict (configuration place files o) = .error e ∧ Escapes place files o e := by
  cases hload : configuration place files o with
  | error e =>
    cases hreported : e.isReported with
    | true => exact .inl ⟨2, by simp [verdict, hreported], .unread hload hreported⟩
    | false => exact .inr ⟨e, by simp [verdict, hreported], .loading hload hreported⟩
  | ok c =>
    by_cases hknown : KnowsLevel c
    · rw [verdict, if_pos hknown]
      cases hsolve : solve c.solver c.program with
      | ok sol =>
        refine .inl ⟨_, ?_, .solved hload hknown hsolve⟩
        simp [exitCode, Solution.isOptimal]
      | error e =>
        rcases solve_error_cases hsolve with ⟨cause, hinvalid, rfl⟩ | ⟨hvalid, hrule, rfl⟩
        · -- a broken rule is reported unless it cannot be put into words
          cases hwritten : cause.isWritten with
          | true =>
            refine .inl ⟨2, ?_, .invalid hload hknown hinvalid hwritten⟩
            rw [ProblemError.toError_of_isWritten hwritten]
          | false =>
            refine .inr ⟨_, ?_, .size hload hknown hinvalid hwritten⟩
            rw [toError_of_not_isWritten hload hinvalid hwritten]
        · exact .inr ⟨_, rfl, .tie hload hknown hrule hvalid hsolve⟩
    · exact .inr ⟨_, by rw [verdict, if_neg hknown], .level hload hknown⟩

theorem verdict_of_settles {code : Nat} (h : Settles place files o code) :
    verdict (configuration place files o) = .ok code := by
  cases h with
  | unread failed reported => simp [verdict, failed, reported]
  | invalid loaded known invalid written =>
    rw [loaded, verdict, if_pos known, solve_of_invalid invalid,
      ProblemError.toError_of_isWritten written]
  | solved loaded known solved =>
    rw [loaded, verdict, if_pos known, solved]
    simp [exitCode, Solution.isOptimal]

theorem verdict_of_escapes {e : Error} (h : Escapes place files o e) :
    verdict (configuration place files o) = .error e := by
  cases h with
  | loading failed unreported => simp [verdict, failed, unreported]
  | level loaded unknown => rw [loaded, verdict, if_neg unknown]
  | size loaded known invalid unwritten =>
    rw [loaded, verdict, if_pos known, solve_of_invalid invalid,
      toError_of_not_isWritten loaded invalid unwritten]
  | tie loaded known rule valid tied => rw [loaded, verdict, if_pos known, tied]

theorem verdict_eq_ok_iff {code : Nat} :
    verdict (configuration place files o) = .ok code ↔ Settles place files o code := by
  refine ⟨fun h => ?_, verdict_of_settles⟩
  rcases verdict_cases place files o with ⟨code', h', hsettles⟩ | ⟨e, h', _⟩
  · cases h.symm.trans h'
    exact hsettles
  · cases h.symm.trans h'

theorem verdict_eq_error_iff {e : Error} :
    verdict (configuration place files o) = .error e ↔ Escapes place files o e := by
  refine ⟨fun h => ?_, verdict_of_escapes⟩
  rcases verdict_cases place files o with ⟨code, h', _⟩ | ⟨e', h', hescapes⟩
  · cases h.symm.trans h'
  · cases h.symm.trans h'
    exact hescapes

/-- A run ends with the code two, or solves a program and ends with the code of its status. -/
def EndsInCode (place : Place) (files : FileTree) (o : Options) (result : Except Error Nat) :
    Prop :=
  result = .ok 2 ∨ ∃ c sol, configuration place files o = .ok c ∧
    solve c.solver c.program = .ok sol ∧
    result = .ok (if sol.status = .optimal then 0 else 1)

theorem Settles.endsInCode {code : Nat} (h : Settles place files o code) :
    EndsInCode place files o (.ok code) := by
  cases h with
  | unread failed reported => exact .inl rfl
  | invalid loaded known invalid written => exact .inl rfl
  | solved loaded known solved => exact .inr ⟨_, _, loaded, solved, rfl⟩

theorem not_endsInCode_error {e : Error} : ¬ EndsInCode place files o (.error e) := by
  rintro (h | ⟨_, _, _, _, h⟩) <;> cases h

/-- **How a run ends.** Whatever the reference solver reports, a run that writes no files ends
    with the code two, or with the code of the status of its solution, exactly when no error
    escapes. It ends with just the codes that it settles on, and fails with just the errors that
    escape. -/
theorem run_endsInCode_iff {words : List String} (reference : Reference.Solver)
    (hwords : Request.ofWords words = .run o) (hout : o.out = none) :
    (EndsInCode place files o (run place files words reference).1 ↔
        ∀ e, ¬ Escapes place files o e) ∧
      (∀ code, (run place files words reference).1 = .ok code ↔ Settles place files o code) ∧
      ∀ e, (run place files words reference).1 = .error e ↔ Escapes place files o e := by
  rw [run_eq_verdict reference hwords hout]
  refine ⟨?_, fun _ => verdict_eq_ok_iff, fun _ => verdict_eq_error_iff⟩
  rcases verdict_cases place files o with ⟨code, hverdict, hsettles⟩ | ⟨e, hverdict, hescapes⟩
  · rw [hverdict]
    refine iff_of_true hsettles.endsInCode fun e he => ?_
    rw [verdict_of_escapes he] at hverdict
    cases hverdict
  · rw [hverdict]
    exact iff_of_false not_endsInCode_error fun hnone => hnone e hescapes

/-- A run at the root of a tree, with no home directories. -/
def atRoot : Place := ⟨⟨1, []⟩, []⟩

/-- A tree that holds one configuration. -/
def holding (text : String) : FileTree := ⟨[(["p.yaml"], .file (octetsOf text.toList))]⟩

/-- A program with one variable and one constraint, and nothing else. -/
def plain : String :=
  "problem:\n  objective: [1]\n  constraints:\n    coefficients: [[1]]\n    bounds: [1]\n"

/-- The same program, and a level of logging that has no such name. -/
def loud : String := plain ++ "run:\n  log_level: LOUD\n"

/-- The options that name this configuration and nothing else. -/
def bare : Options := ⟨"p.yaml", none, false, false⟩

/-- No error escapes a run on the plain configuration, and its code is that of an optimum. -/
theorem run_endsInCode_iff_plain :
    Request.ofWords ["--config", "p.yaml"] = .run bare ∧ bare.out = none ∧
      (run atRoot (holding plain) ["--config", "p.yaml"]).1 = .ok 0 ∧
      (EndsInCode atRoot (holding plain) bare
          (run atRoot (holding plain) ["--config", "p.yaml"]).1 ↔
        ∀ e, ¬ Escapes atRoot (holding plain) bare e) ∧
      (∀ code, (run atRoot (holding plain) ["--config", "p.yaml"]).1 = .ok code ↔
        Settles atRoot (holding plain) bare code) ∧
      ∀ e, (run atRoot (holding plain) ["--config", "p.yaml"]).1 = .error e ↔
        Escapes atRoot (holding plain) bare e := by
  have hwords : Request.ofWords ["--config", "p.yaml"] = .run bare := by decide +kernel
  obtain ⟨code, hcode, rfl⟩ : ∃ code, (run atRoot (holding plain) ["--config", "p.yaml"]).1 =
      .ok code ∧ code = 0 := exists_of_mem_toOption (by decide +kernel)
  exact ⟨hwords, rfl, hcode, run_endsInCode_iff Reference.atHand hwords rfl⟩

/-- A configuration can be read and still let an error escape: a run on the loud configuration
    fails with the unknown level, instead of ending with a code. -/
theorem not_endsInCode_loud :
    Request.ofWords ["--config", "p.yaml"] = .run bare ∧ bare.out = none ∧
      (run atRoot (holding loud) ["--config", "p.yaml"]).1 = .error (.unknownLevel "LOUD") ∧
      ¬ EndsInCode atRoot (holding loud) bare
        (run atRoot (holding loud) ["--config", "p.yaml"]).1 := by
  have hwords : Request.ofWords ["--config", "p.yaml"] = .run bare := by decide +kernel
  obtain ⟨c, hload, hname, hunknown⟩ : ∃ c, configuration atRoot (holding loud) bare = .ok c ∧
      c.options.logLevel = "LOUD" ∧ ¬ KnowsLevel c := exists_of_mem_toOption (by decide +kernel)
  have hrun : (run atRoot (holding loud) ["--config", "p.yaml"]).1 =
      .error (.unknownLevel "LOUD") := by
    rw [run_eq_verdict Reference.atHand hwords rfl, hload, verdict, if_neg hunknown, hname]
  refine ⟨hwords, rfl, hrun, ?_⟩
  rw [hrun]
  exact not_endsInCode_error

end CommandLine

end ProductionLP
