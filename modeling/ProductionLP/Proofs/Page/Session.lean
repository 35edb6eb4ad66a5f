import ProductionLP.Page.Session
import ProductionLP.Proofs.Page.Sheet

/- Sessions of the page.

   Between two runs of the page a session keeps four things that are written at different
   points: the program before it is solved, the solution and the solved program after, the rule
   at the top, and a change of the sizes drops the solution alone. This module shows that they
   never come apart:

   1. `Session.Consistent` is the invariant: the program is in shape, and a solution that is
      kept solves a program that is kept with it and has the sizes of the program;
   2. every part of a run keeps it: the choice of the rule, a reset, the new sizes
      (`Consistent.fitted`), and solving whatever the sheets hold, be it successful, rejected or
      aborted (`Consistent.solveSheets`);
   3. so a run keeps it (`Consistent.afterRun`), and so does every sequence of runs;
   4. on each of these sessions the next run can meet any sizes and any cells, because edits
      reach every sheet (`Consistent.editable`). -/
namespace ProductionLP

/-- The settings of a solver that names its rule only. -/
def Settings.ofRule (r : PivotRule) : Settings Float := { Settings.standard with rule := r }

theorem Settings.ofNamed_rule (r : PivotRule) :
    Settings.ofNamed [(.text "pivot_rule", .text r.name)] = .ok (Settings.ofRule r) := by
  cases r <;> rfl

namespace Page

/-! ## Runs -/

/-- Sizes that the widgets may hold. -/
def InRange (k : Int) : Prop := 1 ≤ k ∧ k ≤ 10

/-- What the user can do on a run: the sizes are numbers from one to ten, the rule is one of
    the two, buttons and cells are free. -/
structure Widgets.Allowed (w : Widgets) : Prop where
  n_mem : ∀ v, w.n = some v → ∃ k, v.toInt = .ok k ∧ InRange k
  m_mem : ∀ v, w.m = some v → ∃ k, v.toInt = .ok k ∧ InRange k
  rule_mem : ∀ v, w.rule = some v → ∃ r : PivotRule, v = .text r.name

theorem Widgets.allowed_untouched : Widgets.untouched.Allowed := by
  constructor <;> simp [untouched]

namespace Session

/-- The session after a run, which a reset aborts. -/
def afterRun (s : Session) (w : Widgets) : Session := (page (fun s => ⟨s, [], none⟩) s w).session

/-- The session after runs one after the other. -/
def afterRuns (s : Session) (ws : List Widgets) : Session := ws.foldl afterRun s

/-- The session with the rule of the widgets. -/
def choosing (s : Session) (w : Widgets) : Session := { s with rule := w.rule.getD s.shownRule }

/-- The session when its program has the sizes. -/
def fitted (s : Session) (n m : Int) : Session :=
  if s.program.n = n ∧ s.program.m = m then s
  else { s with program := s.program.resized n m, solution := none }

/-- A run gets as far as the solve button: the sizes are numbers, the program is brought to
    them, and the editors return sheets. -/
structure Reaches (s : Session) (w : Widgets) (n m : Int) (synced : Session)
    (objective constraints : Sheet) : Prop where
  n_eq : sizeOf w.n s.program.n = .ok n
  m_eq : sizeOf w.m s.program.m = .ok m
  synced_eq : (s.choosing w).fit n m = .ok synced
  objective_eq : (objectiveSheet synced.program).edits w.objective = .ok objective
  constraints_eq : (constraintSheet synced.program).edits w.constraints = .ok constraints

variable {s synced : Session} {w : Widgets} {n m : Int} {objective constraints : Sheet}

theorem session_showResults (s : Session) : (showResults s).session = s := by
  unfold showResults
  split <;> rfl

/-- What a run leaves behind once its sizes are known. -/
theorem afterRun_eq (hn : sizeOf w.n s.program.n = .ok n) (hm : sizeOf w.m s.program.m = .ok m) :
    s.afterRun w =
      if w.reset then (s.choosing w).reset else (below (s.choosing w) w n m).session := by
  simp only [afterRun, page, hn, hm, withSizes, Visit.after, choosing]
  split <;> rfl

/-- The solve button solves what the sheets hold; whatever comes of it, showing the results
    does not touch the session. -/
theorem session_finish (s : Session) (w : Widgets) (n m : Int) (objective constraints : Sheet) :
    (finish s w n m objective constraints).session =
      if w.solve then (s.solveSheets n m objective constraints).1 else s := by
  unfold finish
  split
  · split
    · next h => rw [session_showResults, h]
    · next h =>
      rw [h]
      exact session_showResults _
    · next h => rw [h]; rfl
  · exact session_showResults s

/-- A run that reaches the solve button leaves what solving the sheets leaves, or the session
    that was brought to the sizes. -/
theorem Reaches.afterRun_eq (h : s.Reaches w n m synced objective constraints)
    (hreset : w.reset = false) :
    s.afterRun w =
      if w.solve then (synced.solveSheets n m objective constraints).1 else synced := by
  rw [Session.afterRun_eq h.n_eq h.m_eq, hreset, ← session_finish]
  simp only [below, h.synced_eq, h.objective_eq, h.constraints_eq]
  rfl

/-- A run that does not reset leaves the session that was brought to the sizes, or reaches the
    solve button. -/
theorem afterRun_cases (hn : sizeOf w.n s.program.n = .ok n)
    (hm : sizeOf w.m s.program.m = .ok m) (hsync : (s.choosing w).fit n m = .ok synced)
    (hreset : w.reset = false) :
    s.afterRun w = synced ∨
      ∃ objective constraints, s.Reaches w n m synced objective constraints := by
  cases hobjective : (objectiveSheet synced.program).edits w.objective with
  | error e =>
    left
    rw [afterRun_eq hn hm, hreset]
    simp only [below, hsync, hobjective]
    rfl
  | ok objective =>
    cases hconstraints : (constraintSheet synced.program).edits w.constraints with
    | error e =>
      left
      rw [afterRun_eq hn hm, hreset]
      simp only [below, hsync, hobjective, hconstraints]
      rfl
    | ok constraints => exact .inr ⟨objective, constraints, hn, hm, hsync, hobjective, hconstraints⟩

/-! ## The invariant -/

/-- The program is in shape, and a solution is the solution of the program that is kept with
    it, by one of the two rules, and has its sizes. -/
structure Consistent (s : Session) : Prop where
  shaped : s.program.WellShaped
  answered : ∀ sol, s.solution = some sol → ∃ q, s.solved = some q ∧ q.n = s.program.n ∧
    q.m = s.program.m ∧ ∃ r : PivotRule, solve (Settings.ofRule r) q = .ok sol

theorem consistent_initial : initial.Consistent :=
  ⟨Program.wellShaped_sample, fun _ h => by cases h⟩

theorem Consistent.choosing (h : s.Consistent) (w : Widgets) : (s.choosing w).Consistent :=
  ⟨h.shaped, h.answered⟩

theorem consistent_reset (s : Session) : s.reset.Consistent :=
  ⟨Program.wellShaped_sample, fun _ h => by cases h⟩

theorem Consistent.fit_eq_ok (h : s.Consistent) (hn : InRange n) (hm : InRange m) :
    s.fit n m = .ok (s.fitted n m) := by
  unfold fit fitted
  split
  · rfl
  · rw [h.shaped.resize_eq_ok hn.1 hn.2 hm.1 hm.2]
    rfl

/-- A change of the sizes drops the solution, so that none is left for other sizes. -/
theorem Consistent.fitted (h : s.Consistent) (hn : InRange n) (hm : InRange m) :
    (s.fitted n m).Consistent ∧ (s.fitted n m).program.n = n ∧ (s.fitted n m).program.m = m := by
  unfold Session.fitted
  split
  · next hsizes => exact ⟨h, hsizes⟩
  · exact ⟨⟨Program.wellShaped_resized _ hn.1 hn.2 hm.1 hm.2, fun _ h => by cases h⟩, rfl, rfl⟩

theorem rule_fitted (s : Session) (n m : Int) : (s.fitted n m).rule = s.rule := by
  unfold Session.fitted
  split <;> rfl

/-- Solving keeps the program first. A failure leaves the last solution and its program. -/
theorem solveWith_cases {r : PivotRule} (hrule : s.rule = .text r.name) (q : Program Float) :
    (∃ e, s.solveWith q = ({ s with program := q }, .error e)) ∨
      ∃ sol, solve (Settings.ofRule r) q = .ok sol ∧
        s.solveWith q = ({ s with program := q, solution := some sol, solved := some q }, .ok ()) := by
  have hsettings : (do solve (← Settings.ofNamed [(.text "pivot_rule", s.rule)]) q :
      Except Error (Solution Float)) = solve (Settings.ofRule r) q := by
    rw [hrule, Settings.ofNamed_rule]
    rfl
  unfold solveWith
  simp only [hsettings]
  cases hsol : solve (Settings.ofRule r) q with
  | error e => exact .inl ⟨e, rfl⟩
  | ok sol => exact .inr ⟨sol, rfl, rfl⟩

/-- What solving the sheets can come to: they cannot be read, the program that they hold
    cannot be solved, or it is solved. -/
theorem solveSheets_cases {r : PivotRule} (hrule : s.rule = .text r.name) (n m : Int)
    (objective constraints : Sheet) :
    (∃ e, s.solveSheets n m objective constraints = (s, .error e)) ∨
      ∃ q, readProgram n m objective constraints = .ok q ∧
        ((∃ e, s.solveSheets n m objective constraints = ({ s with program := q }, .error e)) ∨
          ∃ sol, solve (Settings.ofRule r) q = .ok sol ∧
            s.solveSheets n m objective constraints =
              ({ s with program := q, solution := some sol, solved := some q }, .ok ())) := by
  unfold solveSheets
  cases readProgram n m objective constraints with
  | error e => exact .inl ⟨e, rfl⟩
  | ok q => exact .inr ⟨q, rfl, solveWith_cases hrule q⟩

/-- Solving whatever the sheets hold keeps the invariant: the program that was read has the
    sizes of the last solution, or is the one that the new solution solves. -/
theorem Consistent.solveSheets (h : s.Consistent) {r : PivotRule} (hrule : s.rule = .text r.name)
    (hobjective : objective.Fits (variableNames s.program.n) 1)
    (hconstraints : constraints.Fits (constraintColumns s.program.n) s.program.m.toNat) :
    (s.solveSheets s.program.n s.program.m objective constraints).1.Consistent := by
  rcases solveSheets_cases hrule s.program.n s.program.m objective constraints with
    ⟨e, heq⟩ | ⟨q, hread, hsolved⟩
  · rw [heq]
    exact h
  obtain ⟨hshaped, hqn, hqm⟩ := wellShaped_of_readProgram h.shaped.n_pos h.shaped.n_le
    h.shaped.m_pos h.shaped.m_le hobjective hconstraints hread
  rcases hsolved with ⟨e, heq⟩ | ⟨sol, hsol, heq⟩
  · rw [heq]
    refine ⟨hshaped, fun sol hsol => ?_⟩
    obtain ⟨p, hp, hn, hm, hr⟩ := h.answered sol hsol
    exact ⟨p, hp, hn.trans hqn.symm, hm.trans hqm.symm, hr⟩
  · rw [heq]
    refine ⟨hshaped, ?_⟩
    rintro _ ⟨⟩
    exact ⟨q, rfl, rfl, rfl, r, hsol⟩

/-! ## Every run keeps it -/

theorem exists_shownRule (s : Session) : ∃ r : PivotRule, s.shownRule = .text r.name := by
  unfold shownRule ruleIndex
  split
  · split
    · exact ⟨.dantzig, rfl⟩
    · exact ⟨.bland, rfl⟩
  · exact ⟨.bland, rfl⟩

theorem exists_rule_choosing (s : Session) (hw : w.Allowed) :
    ∃ r : PivotRule, (s.choosing w).rule = .text r.name := by
  unfold choosing
  cases hrule : w.rule with
  | none => exact s.exists_shownRule
  | some v => exact hw.rule_mem v hrule

/-- A size as the widget holds it, or as it is, is in range. -/
theorem exists_sizeOf {v : Option Value} {k : Int} (hk : InRange k)
    (hv : ∀ x, v = some x → ∃ k, x.toInt = .ok k ∧ InRange k) :
    ∃ k', sizeOf v k = .ok k' ∧ InRange k' := by
  cases v with
  | none => exact ⟨k, rfl, hk⟩
  | some x => exact hv x rfl

/-- The sizes of a run on a consistent session are in range, and its program is brought to
    them. -/
theorem Consistent.exists_synced (h : s.Consistent) (hw : w.Allowed) :
    ∃ n m, sizeOf w.n s.program.n = .ok n ∧ sizeOf w.m s.program.m = .ok m ∧
      (s.choosing w).fit n m = .ok ((s.choosing w).fitted n m) ∧
      ((s.choosing w).fitted n m).Consistent ∧
      ((s.choosing w).fitted n m).program.n = n ∧ ((s.choosing w).fitted n m).program.m = m := by
  obtain ⟨n, hn, hnr⟩ := exists_sizeOf ⟨h.shaped.n_pos, h.shaped.n_le⟩ hw.n_mem
  obtain ⟨m, hm, hmr⟩ := exists_sizeOf ⟨h.shaped.m_pos, h.shaped.m_le⟩ hw.m_mem
  have hchoosing := h.choosing w
  exact ⟨n, m, hn, hm, hchoosing.fit_eq_ok hnr hmr, hchoosing.fitted hnr hmr⟩

/-- A run keeps the invariant. -/
theorem Consistent.afterRun (h : s.Consistent) (hw : w.Allowed) : (s.afterRun w).Consistent := by
  obtain ⟨n, m, hn, hm, hsync, hfitted, hpn, hpm⟩ := h.exists_synced hw
  cases hreset : w.reset with
  | true =>
    rw [afterRun_eq hn hm, hreset]
    exact consistent_reset _
  | false =>
    rcases afterRun_cases hn hm hsync hreset with heq | ⟨objective, constraints, hreaches⟩
    · rw [heq]
      exact hfitted
    rw [hreaches.afterRun_eq hreset]
    split
    · obtain ⟨r, hr⟩ := s.exists_rule_choosing hw
      have hrule : ((s.choosing w).fitted n m).rule = .text r.name := by rw [rule_fitted, hr]
      have hobjective := (fits_objectiveSheet hfitted.shaped).edits hreaches.objective_eq
      have hconstraints := (fits_constraintSheet hfitted.shaped).edits hreaches.constraints_eq
      have hkept := hfitted.solveSheets hrule hobjective hconstraints
      rwa [hpn, hpm] at hkept
    · exact hfitted

/-- Every sequence of runs keeps the invariant. -/
theorem Consistent.afterRuns (h : s.Consistent) {ws : List Widgets} (hws : ∀ w ∈ ws, w.Allowed) :
    (s.afterRuns ws).Consistent := by
  induction ws generalizing s with
  | nil => exact h
  | cons w rest ih =>
    exact ih (h.afterRun (hws w List.mem_cons_self)) fun w' hw' => hws w' (List.mem_cons_of_mem w hw')

/-- A visit is a run, and after a reset a second one on which nothing is done. -/
theorem session_visit (s : Session) (w : Widgets) :
    (visit s w).session = s.afterRun w ∨
      (visit s w).session = (s.afterRun w).afterRun .untouched := by
  cases hn : sizeOf w.n s.program.n with
  | error e =>
    left
    simp only [visit, afterRun, page, hn]
  | ok n =>
    cases hm : sizeOf w.m s.program.m with
    | error e =>
      left
      simp only [visit, afterRun, page, hn, hm]
    | ok m =>
      rw [afterRun_eq hn hm]
      simp only [visit, page, hn, hm, withSizes, Visit.after]
      split
      · exact .inr rfl
      · exact .inl rfl

theorem Consistent.visit (h : s.Consistent) (hw : w.Allowed) : (visit s w).session.Consistent := by
  rcases s.session_visit w with heq | heq
  · rw [heq]
    exact h.afterRun hw
  · rw [heq]
    exact (h.afterRun hw).afterRun Widgets.allowed_untouched

/-! ## What a run leaves alone -/

/-- A run on which solving fails, for a rule that the program breaks or otherwise, leaves the
    last solution and its program as they were when the sizes were brought up to date. A run
    on which no button is pressed and no size changed leaves the program too. -/
structure SparedBy (s : Session) (w : Widgets) : Prop where
  rejected : ∀ n m synced objective constraints e,
    s.Reaches w n m synced objective constraints → w.reset = false → w.solve = true →
    (synced.solveSheets n m objective constraints).2 = .error e →
    (s.afterRun w).solution = synced.solution ∧ (s.afterRun w).solved = synced.solved
  idle : w.reset = false → w.solve = false →
    sizeOf w.n s.program.n = .ok s.program.n → sizeOf w.m s.program.m = .ok s.program.m →
    (s.afterRun w).program = s.program ∧ (s.afterRun w).solution = s.solution ∧
      (s.afterRun w).solved = s.solved

theorem fit_own (s : Session) : s.fit s.program.n s.program.m = .ok s := if_pos ⟨rfl, rfl⟩

theorem rule_of_fit (h : s.fit n m = .ok synced) : synced.rule = s.rule := by
  unfold fit at h
  split at h
  · cases h
    rfl
  · obtain ⟨p, _, h⟩ := exists_of_bind_eq_ok h
    cases h
    rfl

theorem sparedBy (s : Session) (hw : w.Allowed) : s.SparedBy w := by
  constructor
  case rejected =>
    intro n m synced objective constraints e hreaches hreset hsolve herror
    obtain ⟨r, hr⟩ := s.exists_rule_choosing hw
    have hrule : synced.rule = .text r.name := by rw [rule_of_fit hreaches.synced_eq, hr]
    rw [hreaches.afterRun_eq hreset, hsolve, if_pos rfl]
    rcases solveSheets_cases hrule n m objective constraints with
      ⟨_, heq⟩ | ⟨q, _, ⟨_, heq⟩ | ⟨sol, _, heq⟩⟩
    · rw [heq]
      exact ⟨rfl, rfl⟩
    · rw [heq]
      exact ⟨rfl, rfl⟩
    · -- a program that was solved was not rejected
      rw [heq] at herror
      cases herror
  case idle =>
    intro hreset hsolve hn hm
    have hsync : (s.choosing w).fit s.program.n s.program.m = .ok (s.choosing w) := fit_own _
    have hkept : s.afterRun w = s.choosing w := by
      rcases afterRun_cases hn hm hsync hreset with heq | ⟨objective, constraints, hreaches⟩
      · exact heq
      · rw [hreaches.afterRun_eq hreset, hsolve]
        rfl
    rw [hkept]
    exact ⟨rfl, rfl, rfl⟩

/-! ## What a run can meet -/

/-- Whatever sizes and rule are chosen, whether or not the solve button is pressed, and whatever
    the cells of the two sheets are changed to: some run meets it. -/
def Editable (s : Session) : Prop :=
  ∀ (n m : Int) (r : PivotRule) (solve : Bool) (objective constraints : Sheet),
    InRange n → InRange m → objective.Fits (variableNames n) 1 →
    constraints.Fits (constraintColumns n) m.toNat →
    (objectiveSheet (s.fitted n m).program).index = objective.index →
    (constraintSheet (s.fitted n m).program).index = constraints.index →
    ∃ w synced, w.Allowed ∧ w.rule = some (.text r.name) ∧ w.reset = false ∧ w.solve = solve ∧
      s.Reaches w n m synced objective constraints

theorem program_fitted_choosing (s : Session) (w : Widgets) (n m : Int) :
    ((s.choosing w).fitted n m).program = (s.fitted n m).program := by
  by_cases h : s.program.n = n ∧ s.program.m = m <;> simp [Session.fitted, Session.choosing, h]

theorem Consistent.editable (h : s.Consistent) : s.Editable := by
  intro n m r solve objective constraints hn hm hobjective hconstraints hindex hindex'
  obtain ⟨hfitted, hpn, hpm⟩ := h.fitted hn hm
  obtain ⟨es, hes⟩ : ∃ es, (objectiveSheet (s.fitted n m).program).edits es = .ok objective :=
    exists_edits_objectiveSheet hfitted.shaped (by rwa [hpn]) hindex
  obtain ⟨es', hes'⟩ : ∃ es, (constraintSheet (s.fitted n m).program).edits es = .ok constraints :=
    exists_edits_constraintSheet hfitted.shaped (by rwa [hpn, hpm]) hindex'
  let w : Widgets := ⟨some (.int n), some (.int m), some (.text r.name), false, solve, es, es'⟩
  have hallowed : w.Allowed := by
    constructor
    case n_mem =>
      rintro v ⟨⟩
      exact ⟨n, rfl, hn⟩
    case m_mem =>
      rintro v ⟨⟩
      exact ⟨m, rfl, hm⟩
    case rule_mem =>
      rintro v ⟨⟩
      exact ⟨r, rfl⟩
  refine ⟨w, (s.choosing w).fitted n m, hallowed, rfl, rfl, rfl, ?_⟩
  have hprogram := s.program_fitted_choosing w n m
  exact ⟨rfl, rfl, (h.choosing w).fit_eq_ok hn hm, by rwa [hprogram], by rwa [hprogram]⟩

end Session

/-- **The page never shows a result for another program.** After any runs with any cells the
    program is in shape, and a solution that is kept solves a program that is kept with it, by
    one of the two rules and for the sizes of the program; on the next run a failure to solve
    leaves both, and doing nothing leaves everything; and there is a next run for whatever sizes,
    rule and cells a user may choose. -/
theorem result_fits_program {ws : List Widgets} (hws : ∀ w ∈ ws, w.Allowed) :
    (Session.initial.afterRuns ws).Consistent ∧
      (∀ w : Widgets, w.Allowed → (Session.initial.afterRuns ws).SparedBy w) ∧
      (Session.initial.afterRuns ws).Editable := by
  have hconsistent := Session.consistent_initial.afterRuns hws
  exact ⟨hconsistent, fun _ hw => Session.sparedBy _ hw, hconsistent.editable⟩

/-- The solve button and nothing else. -/
def Widgets.solving : Widgets := { Widgets.untouched with solve := true }

/-- A third product. -/
def Widgets.widening : Widgets := { Widgets.untouched with n := some (.int 3) }

theorem Widgets.allowed_solving : Widgets.solving.Allowed := by
  constructor <;> simp [solving, untouched]

theorem Widgets.allowed_widening : Widgets.widening.Allowed := by
  constructor
  case n_mem =>
    rintro v ⟨⟩
    exact ⟨3, rfl, by decide, by decide⟩
  case m_mem => simp [widening, untouched]
  case rule_mem => simp [widening, untouched]

/-- The sample is solved, then widened: the solution is dropped, and the new program stands. -/
theorem result_fits_program_widened :
    (∀ w ∈ [Widgets.solving, Widgets.widening], w.Allowed) ∧
      (Session.initial.afterRun .solving).solution.isSome = true ∧
      (Session.initial.afterRuns [.solving, .widening]).solution.isSome = false ∧
      (Session.initial.afterRuns [.solving, .widening]).Consistent ∧
      (∀ w : Widgets, w.Allowed →
        (Session.initial.afterRuns [.solving, .widening]).SparedBy w) ∧
      (Session.initial.afterRuns [.solving, .widening]).Editable := by
  have hallowed : ∀ w ∈ [Widgets.solving, Widgets.widening], w.Allowed :=
    List.forall_mem_cons.2
      ⟨Widgets.allowed_solving, List.forall_mem_singleton.2 Widgets.allowed_widening⟩
  exact ⟨hallowed, by decide +kernel, by decide +kernel, result_fits_program hallowed⟩

end Page

end ProductionLP
