import CallByNeed.Proofs.ByName.Step

set_option autoImplicit false
set_option relaxedAutoImplicit false

/-!
By need as by name. A task that comes to an answer without reading, writing or raising means that
answer by name. A task that has a meaning by name comes to an answer of that meaning by need,
without reading, writing or raising, as long as no cell holds a value that its closure does not
have. Both follow from what one step does, the first along the run and the second along the meaning.
-/

namespace CallByNeed.Language

open Heap

variable {σ τ : Kind} {c : Context} {B : List CellId} {C C' : Closures}

/-- No task that reads, writes or raises is started, and there is no division by zero. -/
def Config.Quiet {ρ : Kind} : Config ρ → Prop
  | .run t _ _ => t.Quiet
  | .done _ _ _ => True
  | .fault f _ _ => f ≠ .divisionByZero

instance Config.decidableQuiet {ρ : Kind} : (x : Config ρ) → Decidable x.Quiet
  | .run t _ _ => inferInstanceAs (Decidable t.Quiet)
  | .done _ _ _ => .isTrue trivial
  | .fault .divisionByZero _ _ => .isFalse fun other => other rfl
  | .fault (.language _) _ _ | .fault .noType _ _ | .fault .noValue _ _ | .fault .noText _ _
  | .fault (.missingText _) _ _ | .fault .noInput _ _ | .fault .endOfInput _ _
  | .fault (.integer _) _ _ | .fault (.scope _) _ _ => .isTrue nofun

private theorem Config.Quiet.untrapped {ρ : Kind} {x : Config ρ} (quiet : x.Quiet) :
    x.Untrapped := by
  cases x with
  | run t k s => exact id
  | done a k s => exact id
  | fault f k s =>
    cases f with
    | divisionByZero => exact absurd rfl quiet
    | _ => exact id

section Frames

variable {h : Heap}

private theorem Task.Ready.older {t : Task σ} (ready : t.Ready B h) (other : ¬ t.IsForce)
    (silent : σ ≠ .text) : ∀ k ∈ h.scopes.top.cells, k < h.cells.size := by
  cases t with
  | eval e => exact Looking.older ready
  | force k => exact absurd trivial other
  | printArgs args text => exact absurd rfl silent
  | call name args =>
    rcases frames : h.scopes.current with _ | ⟨frame, frames⟩
    · intro k mem
      simp [Scopes.top, Env.top, frames] at mem
    · exact (ready.2 (.inr (by simp [frames]))).older
  | block stmts => exact (Running.looking ready).older
  | all stmts => exact (Running.looking ready).older
  | stmt st => exact (Running.looking ready).older
  | loop condition update body => exact (Running.looking ready).older

private theorem frame_eq_of_answers {t : Task σ} {s s' : State} {a : σ.Answer}
    (ready : t.Ready B s.heap) (other : ¬ t.IsForce) (m : σ.Meaning)
    (leaves : Kind.Leaves B s.heap σ a s'.heap) (le : C <+: C') (size : C.length = s.cells.size)
    (expression : σ ≠ .flow) :
    C.frame s.scopes.top = C'.frame s'.scopes.top := by
  have silent : σ ≠ .text := by
    rintro rfl
    exact m.elim
  have keeps : Keeps B s.heap s'.heap := by
    cases σ with
    | value => exact leaves
    | text => exact absurd rfl silent
    | cell => exact leaves.1
    | flow => exact absurd rfl expression
  have top : s'.scopes.top = s.scopes.top :=
    congrArg Env.top (keeps.scopes.current ready.sound.focused)
  have older := ready.older other silent
  rw [top, Closures.frame_of_le le fun k mem => size ▸ older k mem]

end Frames

section Reading

/-- A closure is the content of a cell, or means the value in it. -/
def Closure.Gives (funcs : List Func) (d d' : Closure) : Prop :=
  d = d' ∨ ∃ v, d' = .value v ∧ Means funcs (.goto (.closure d)) (some v)

theorem Closure.Gives.refl (funcs : List Func) (d : Closure) : d.Gives funcs d := .inl rfl

/-- What an answer means is what it means to go on from given closures. -/
def ReadsAs (c : Context) (B : List CellId) (h : Heap) (l : Closures → Lead τ) (a : τ.Answer)
    (s' : State) : Prop :=
  ∀ C, Faithful (Closure.Gives c.funcs) B C h → ∃ C' : Closures, C <+: C' ∧
    Faithful (Closure.Gives c.funcs) B C' s'.heap ∧ ∃ m, τ.meaning C' s'.scopes a = some m ∧
      Means c.funcs (l C) m

def reading (c : Context) : Contract where
  pre _ _ _ := True
  post B t s a s' := ReadsAs c B s.heap (fun C => .goto (t.job C s.scopes)) a s'
  inv _ _ _ := True
  allows _ := True

private def Reached (c : Context) (B : List CellId) (h : Heap) (l : Closures → Lead τ)
    (next : Next τ) (s : State) : Prop :=
  next.busy = [] ∧ (Sound B s.heap → ∀ C, Faithful (Closure.Gives c.funcs) B C h →
    ∃ (C' : Closures) (l' : Lead τ), C <+: C' ∧ Faithful (Closure.Gives c.funcs) B C' s.heap ∧
      Names C' s.scopes next l' ∧ ∀ m, Means c.funcs l' m → Means c.funcs (l C) m)

private theorem meets_reading {h : Heap} {l : Closures → Lead τ} {n : Nat} {next : Next τ}
    {s : State} (shallow : next.depth ≤ n) (reached : Reached c B h l next s) :
    Contract.Meets discipline (reading c) c B (ReadsAs c B h l) n next s := by
  refine Contract.meets_of_upto (J := Reached c B h l) ?_ ?_ ?_ shallow reached
  · intro a s reached inv
    refine ⟨trivial, fun C faithful => ?_⟩
    obtain ⟨C', l', le, faithful', names, means⟩ := reached.2 inv.sound C faithful
    cases names with
    | @give a m given => exact ⟨C', le, faithful', m, given, means m (.give m)⟩
  · intro t s reached pre
    refine ⟨trivial, fun a s' _ answer C faithful => ?_⟩
    obtain ⟨C', l', le, faithful', names, means⟩ := reached.2 pre.sound C faithful
    cases names with
    | goto t =>
      obtain ⟨C₁, le₁, faithful₁, m, given, meant⟩ := answer.1 C' faithful'
      exact ⟨C₁, le.trans le₁, faithful₁, m, given, means m meant⟩
  · intro σ t p s reached
    have idle : p.busy = [] := reached.1
    rw [idle, List.nil_append]
    intro pre
    refine ⟨trivial, fun a s' answerA answer => ?_⟩
    have resumed := (does_resume p a).ensures.and
      (Comp.ensures_apply (x := p.resume a) (c := c) (s := s'))
    refine resumed.mono (fun _ _ => trivial) fun next' s'' ⟨⟨follows, changes⟩, step⟩ => ?_
    refine ⟨follows.2.2.2, fun sound C faithful => ?_⟩
    obtain ⟨C', l', le, faithful', names, means⟩ := reached.2 pre.sound C faithful
    cases names with
    | enter other quiet =>
      obtain ⟨C₁, le₁, faithful₁, m, given, meant⟩ := answer.1 C' faithful'
      have adds := changes.heap fun busy => busy idle
      obtain ⟨C₂, completes, faithful₂⟩ :=
        faithful₁.exists_completes (Closure.Gives.refl c.funcs) answerA.2.sound sound adds
      have mirrors := mirrors_resume (c := c) quiet given answerA.2 faithful₁.size faithful₁.nil
        (frame_eq_of_answers pre other m answerA.1 le₁ faithful'.size)
      simp only [Comp.Mirrors, step] at mirrors
      obtain ⟨l₂, leads, names₂⟩ := mirrors C₂ completes
      have meant : Means c.funcs (.goto (.task t (C'.frame s.scopes.top))) m :=
        Task.job_of_not_force C' s.scopes other ▸ meant
      exact ⟨C₂, l₂, (le.trans le₁).trans completes.le, faithful₂, names₂,
        fun m' meant' => means m' (.enter meant leads meant')⟩

private theorem ensures_reading_force {k : CellId} {s : State} (sound : Sound B s.heap)
    (clear : s.heap.Clear B k) :
    (startForce k).Ensures c s (reading c).allows
      (Contract.Meets discipline (reading c) c B
        (ReadsAs c B s.heap fun C => .goto (.closure (C.cell k))) 2) := by
  obtain ⟨content, present⟩ := clear.present
  cases content with
  | value v =>
    rw [Comp.ensures_of_apply (startForce_value c present)]
    refine fun _ => ⟨trivial, fun C faithful => ⟨C, List.prefix_refl C, faithful, some v, rfl, ?_⟩⟩
    rcases faithful.cells k _ clear.not_mem present with same | ⟨w, held, means⟩
    · have value : C.cell k = .value v := same
      dsimp only
      rw [value]
      exact .value v
    · cases held
      exact means
  | thunk e i =>
    rw [Comp.ensures_of_apply (startForce_thunk c present)]
    refine fun _ => ⟨trivial, fun a s' answerA answer => ?_⟩
    have ended : Evaluated B k e i s.heap s'.heap :=
      ⟨sound, clear.not_mem, present, answerA.2, answerA.1.grows, answerA.1.scopes⟩
    simp only [Pending.resume, resumeUpdate, Comp.ensures_bind, Comp.ensures_modify]
    rcases a with (_ | v) | exception
    · trivial
    · refine fun _ => ⟨trivial, fun C faithful => ?_⟩
      obtain ⟨C', le, faithful', m, given, means⟩ := answer.1 C (faithful.enter (some i))
      obtain rfl := Option.some.inj given
      have closure : C.cell k = .thunk e (C.frame (s.heap.refocus (some i)).scopes.top) := by
        rcases faithful.cells k _ clear.not_mem present with same | ⟨w, held, _⟩
        · exact same
        · cases held
      have meant : Means c.funcs (.goto (.closure (C.cell k))) (some v) := closure ▸ .thunk means
      have old : k < C.length := faithful.size ▸ clear.1
      have gives : (C'.cell k).Gives c.funcs (.value v) := by
        rw [Closures.cell_of_le le old]
        exact .inr ⟨v, rfl, meant⟩
      exact ⟨C', le, faithful.settle ended le faithful' gives, some v, rfl, meant⟩
    · refine fun _ => ⟨trivial, fun C faithful => ?_⟩
      obtain ⟨C', le, faithful', m, given, means⟩ := answer.1 C (faithful.enter (some i))
      cases given

private theorem kept_reading (c : Context) : Contract.Kept discipline (reading c) c Task.Quiet := by
  intro σ B t s quiet ready _
  have general : ¬ t.IsForce → t.start.Ensures c s (reading c).allows
      (Contract.Meets discipline (reading c) c B ((reading c).post B t s) 2) := by
    intro other
    have started := (does_start t).ensures.and (Comp.ensures_apply (x := t.start) (c := c) (s := s))
    refine started.mono (fun _ _ => trivial) fun next s' ⟨⟨leads, changes⟩, step⟩ => ?_
    refine meets_reading leads.1 ⟨leads.2.2.2 other, fun sound C faithful => ?_⟩
    obtain ⟨C', completes, faithful'⟩ :=
      faithful.exists_completes (Closure.Gives.refl c.funcs) ready.sound sound (changes.heap other)
    have mirrors := mirrors_start (c := c) quiet other ready faithful.size faithful.nil
    simp only [Comp.Mirrors, step] at mirrors
    obtain ⟨l, leads, names⟩ := mirrors C' completes
    refine ⟨C', l, completes.le, faithful', names, fun m meant => ?_⟩
    dsimp only
    rw [Task.job_of_not_force C s.scopes other]
    exact .goto leads meant
  cases t with
  | force k => exact ensures_reading_force ready.1 ready.2
  | _ => exact general id

theorem means_of_reaches {t : Task σ} {s s' : State} {a : σ.Answer} (ready : t.Ready B s.heap)
    (run : Config.Reaches c Config.Quiet (.run t .nil s) (.done a .nil s')) :
    ReadsAs c B s.heap (fun C => .goto (t.job C s.scopes)) a s' := by
  have kept := (kept_discipline c).both (kept_reading c) fun _ _ => trivial
  have answers : (discipline.both (reading c)).Answers B t s a s' := by
    refine kept.answers (fun x quiet => ⟨Config.Quiet.untrapped quiet, ?_⟩) ⟨ready, trivial⟩ run
    cases x with
    | run t k s => exact quiet
    | _ => trivial
  exact answers.1.2

end Reading

section Arriving

/-- A closure is the content of a cell, or it is not known, or it means nothing but the value in the
cell. -/
def Closure.Admits (funcs : List Func) (d d' : Closure) : Prop :=
  d = d' ∨ d = .unknown ∨
    ∃ v, d' = .value v ∧ ∀ m, Means funcs (.goto (.closure d)) m → m = some v

theorem Closure.Admits.refl (funcs : List Func) (d : Closure) : d.Admits funcs d := .inl rfl

private theorem Task.quiet_of_lead {t : Task σ} {frame : Frame Closure} {funcs : List Func}
    {l : Lead σ} (leads : t.lead frame funcs = some l) : t.Quiet := by
  cases t with
  | printArgs args text => cases leads
  | call name args =>
    intro talks
    simp only [Task.lead, leadCall, if_pos talks] at leads
    cases leads
  | stmt st =>
    cases st with
    | raise e => cases leads
    | _ => trivial
  | _ => trivial

private theorem Task.talks_of_quiet {t : Task σ} (quiet : t.Quiet) : ¬ t.Talks := by
  cases t with
  | call name args => exact quiet
  | _ => exact id

private theorem Pending.idle_of_quiet {p : Pending σ τ} (quiet : p.Quiet) :
    p.busy = [] ∧ ¬ p.Talks := by
  cases p with
  | update k focus => exact quiet.elim
  | emit => exact quiet.elim
  | prompt asInteger => exact quiet.elim
  | _ => exact ⟨rfl, id⟩

structure Arrives (c : Context) (B : List CellId) (C : Closures) (next : Next τ) (s : State)
    (m : τ.Meaning) (a : τ.Answer) (s' : State) : Prop where
  runs : ∀ {ρ : Kind} (k : Stack ρ τ),
    Config.Reaches c Config.Quiet (.follow k next s) (.done a k s')
  channels : s.channels.Unused c.setup.trace s'.channels
  closures : ∃ C' : Closures, C <+: C' ∧ Faithful (Closure.Admits c.funcs) B C' s'.heap ∧
    τ.meaning C' s'.scopes a = some m

/-- Going on by need in the same way comes to an answer of a meaning. -/
def Comes (c : Context) (l : Lead τ) (m : τ.Meaning) : Prop :=
  ∀ (next : Next τ) (s : State) {B : List CellId} {C : Closures} {Q : τ.Answer → State → Prop}
    {n : Nat}, Names C s.scopes next l → Contract.Meets .free discipline c B Q n next s →
    Faithful (Closure.Admits c.funcs) B C s.heap → ∃ a s', Arrives c B C next s m a s'

private theorem Arrives.answers {t : Task σ} {s s' : State} {m : σ.Meaning} {a : σ.Answer}
    (arrives : Arrives c B C (.goto t) s m a s') (ready : t.Ready B s.heap) :
    discipline.Answers B t s a s' := by
  refine (kept_discipline c).answers (fun x quiet => ⟨Config.Quiet.untrapped quiet, ?_⟩) ready
    (arrives.runs .nil)
  cases x <;> trivial

private theorem meets_of_ready {t : Task τ} {s : State} (ready : t.Ready B s.heap) :
    Contract.Meets .free discipline c B (fun _ _ => True) 0 (.goto t) s :=
  fun _ => ⟨ready, fun _ _ _ _ => trivial⟩

private theorem content_of_means {h : Heap} {k : CellId} {content : Cell} {v : Value}
    (faithful : Faithful (Closure.Admits c.funcs) B C h) (idle : k ∉ B)
    (hk : h.cells[k]? = some content)
    (means : Means c.funcs (.goto (.closure (C.cell k))) (some v)) :
    content = .value v ∨ ∃ e i, content = .thunk e i ∧ C.cell k = C.content h.scopes content := by
  rcases faithful.cells k content idle hk with same | unknown | ⟨w, held, only⟩
  · cases content with
    | value w =>
      have value : C.cell k = .value w := same
      rw [value] at means
      cases means
      exact .inl rfl
    | thunk e i => exact .inr ⟨e, i, rfl, same⟩
  · rw [unknown] at means
    cases means
  · cases content with
    | value w' =>
      obtain rfl := Closure.value.inj held
      obtain rfl := Option.some.inj (only _ means)
      exact .inl rfl
    | thunk e i => cases held

private theorem arrives_of_comes {k : CellId} {s : State} {v : Value} (sound : Sound B s.heap)
    (clear : s.heap.Clear B k) (faithful : Faithful (Closure.Admits c.funcs) B C s.heap)
    (means : Means c.funcs (.goto (.closure (C.cell k))) (some v))
    (comes : ∀ e frame, C.cell k = .thunk e frame →
      Comes c (.goto (.task (.eval e) frame)) (some v)) :
    ∃ s', Arrives c B C (.goto (.force k)) s (some v) (.value (some v)) s' ∧
      s'.cells[k]? = some (.value v) := by
  obtain ⟨content, present⟩ := clear.present
  rcases content_of_means faithful clear.not_mem present means with rfl | ⟨e, i, rfl, closure⟩
  · refine ⟨s, ⟨fun below => ?_, .refl _ _, C, List.prefix_refl C, faithful, rfl⟩, present⟩
    exact .head trivial (Config.step_run (t := .force k) (startForce_value c present) below) .refl
  · have looking := sound.looking_enter clear present
    obtain ⟨a, s', arrives⟩ := comes e _ closure (.goto (.eval e))
      (s.withHeap (s.heap.refocus (some i))) (.goto (.eval e)) (meets_of_ready looking)
      (faithful.enter (some i))
    have answers := arrives.answers looking
    obtain ⟨C', le, faithful', given⟩ := arrives.closures
    obtain rfl := Kind.eq_of_meaning given
    have ended : Evaluated B k e i s.heap s'.heap :=
      ⟨sound, clear.not_mem, present, answers.2, answers.1.grows, answers.1.scopes⟩
    have old : k < C.length := faithful.size ▸ clear.1
    have admits : (C'.cell k).Admits c.funcs (.value v) := by
      rw [Closures.cell_of_le le old]
      exact .inr (.inr ⟨v, rfl, fun m means' => means'.unique means⟩)
    refine ⟨s'.withHeap ((s'.heap.refocus s.scopes.focus).settle k v), ⟨fun below => ?_,
      arrives.channels, C', le, faithful.settle ended le faithful' admits, rfl⟩,
      ended.settle_cells_self v⟩
    have entered := Config.step_run (t := .force k) (startForce_thunk c present) below
    exact (Config.Reaches.head trivial entered (arrives.runs _)).tail trivial rfl

private theorem goto_of_names {u : Scopes} {next : Next τ} {j : Job τ}
    (names : Names C u next (.goto j)) : ∃ t, next = .goto t ∧ t.job C u = j := by
  generalize leads : Lead.goto j = l at names
  cases names with
  | give given => cases leads
  | goto t => exact ⟨t, rfl, (Lead.goto.inj leads).symm⟩
  | enter other quiet => cases leads

private theorem force_of_job {u : Scopes} {t : Task .value} {d : Closure}
    (job : t.job C u = .closure d) : ∃ k, t = .force k ∧ C.cell k = d := by
  cases t with
  | force k => exact ⟨k, rfl, Job.closure.inj job⟩
  | eval e => cases job

private theorem task_of_job {u : Scopes} {t t' : Task τ} {frame : Frame Closure}
    (job : t.job C u = .task t' frame) : t = t' ∧ ¬ t.IsForce ∧ frame = C.frame u.top := by
  by_cases force : t.IsForce
  · cases t with
    | force k => cases job
    | _ => exact force.elim
  · rw [Task.job_of_not_force C u force] at job
    cases job
    exact ⟨rfl, force, rfl⟩

private theorem sound_of_meets {Q : τ.Answer → State → Prop} {n : Nat} {next : Next τ} {s : State}
    (meets : Contract.Meets .free discipline c B Q n next s) (idle : next.busy = []) :
    Sound B s.heap := by
  cases next with
  | give a => exact (Contract.meets_give.mp meets trivial).1.sound
  | goto t => exact (Contract.meets_goto.mp meets trivial).1.sound
  | enter t p =>
    cases n with
    | zero => exact meets.elim
    | succ n =>
      have idle : p.busy = [] := idle
      have ready := (Contract.meets_enter.mp meets trivial).1
      rw [idle, List.nil_append] at ready
      exact ready.sound

private theorem exists_arrives {x : Comp (Next τ)} {s : State} {E : Effects} {P : Next τ → Prop}
    {allows : Fault → Prop} {Q : τ.Answer → State → Prop} {n : Nat} {l : Lead τ} {m : τ.Meaning}
    (mirrors : x.Mirrors c s B C (some l)) (does : x.Does E P)
    (goes : x.Ensures c s allows (Contract.Meets .free discipline c B Q n))
    (idle : ∀ next, P next → next.busy = []) (steady : ¬ E.forces) (sound : Sound B s.heap)
    (faithful : Faithful (Closure.Admits c.funcs) B C s.heap) (comes : Comes c l m) :
    ∃ next s' a s'', x c s = .ok next s' ∧ Changes E c s s' ∧ Arrives c B C next s' m a s'' := by
  have does := does c s
  unfold Comp.Mirrors at mirrors
  unfold Comp.Ensures at goes
  cases applied : x c s with
  | stop f s' =>
    simp only [applied] at mirrors
    cases mirrors
  | outOfFuel => simp [applied] at does
  | ok next s' =>
    simp only [applied] at mirrors does goes
    obtain ⟨follows, changes⟩ := does
    have sound' := sound_of_meets goes (idle next follows)
    obtain ⟨C', completes, faithful'⟩ :=
      faithful.exists_completes (Closure.Admits.refl c.funcs) sound sound' (changes.heap steady)
    obtain ⟨l', same, names⟩ := mirrors C' completes
    obtain rfl := Option.some.inj same
    obtain ⟨a, s'', arrives⟩ := comes next s' names goes faithful'
    obtain ⟨C'', le, faithful'', given⟩ := arrives.closures
    exact ⟨next, s', a, s'', rfl, changes, arrives.runs, arrives.channels, C'',
      completes.le.trans le, faithful'', given⟩

private theorem comes_goto {t : Task τ} {frame : Frame Closure} {l : Lead τ} {m : τ.Meaning}
    (leads : t.lead frame c.funcs = some l) (comes : Comes c l m) :
    Comes c (.goto (.task t frame)) m := by
  intro next s B C Q n names meets faithful
  obtain ⟨t, rfl, job⟩ := goto_of_names names
  obtain ⟨rfl, other, rfl⟩ := task_of_job job
  have quiet := Task.quiet_of_lead leads
  have ready : t.Ready B s.heap := (Contract.meets_goto.mp meets trivial).1
  have mirrors := mirrors_start (c := c) quiet other ready faithful.size faithful.nil
  rw [leads] at mirrors
  obtain ⟨next', s', a, s'', started, changes, arrives⟩ := exists_arrives mirrors (does_start t)
    (kept_discipline c τ B t s trivial trivial ready) (fun _ leads => leads.2.2.2 other) other
    ready.sound faithful comes
  have channels := changes.channels (Task.talks_of_quiet quiet)
  refine ⟨a, s'', fun below => ?_, channels.trans arrives.channels, arrives.closures⟩
  exact .head quiet (Config.step_run started below) (arrives.runs below)

private theorem comes_enter {t : Task σ} {frame : Frame Closure} {p : Pending σ τ} {m : σ.Meaning}
    {l : Lead τ} {m' : τ.Meaning} (waits : Comes c (.goto (.task t frame)) m)
    (leads : p.lead frame m = some l) (comes : Comes c l m') : Comes c (.enter t frame p) m' := by
  intro next s B C Q n names meets faithful
  cases names with
  | enter other quiet =>
    obtain ⟨idle, silent⟩ := Pending.idle_of_quiet quiet
    cases n with
    | zero => exact meets.elim
    | succ n =>
      rw [Contract.meets_enter, idle, List.nil_append] at meets
      obtain ⟨ready, resumes⟩ := meets trivial
      have ready : t.Ready B s.heap := ready
      have named : Names C s.scopes (.goto t) (.goto (.task t (C.frame s.scopes.top))) :=
        Task.job_of_not_force C s.scopes other ▸ .goto t
      obtain ⟨a, s₁, first⟩ := waits (.goto t) s named (meets_of_ready ready) faithful
      have answers := first.answers ready
      obtain ⟨C₁, le₁, faithful₁, given₁⟩ := first.closures
      have mirrors := mirrors_resume (c := c) quiet given₁ answers.2 faithful₁.size faithful₁.nil
        (frame_eq_of_answers ready other m answers.1 le₁ faithful.size)
      rw [leads] at mirrors
      obtain ⟨next', s', b, s'', resumed, changes, arrives⟩ := exists_arrives mirrors
        (does_resume p a) (resumes a s₁ ⟨trivial, trivial⟩ answers) (fun _ follows => follows.2.2.2)
        (fun busy => busy idle) answers.2.sound faithful₁ comes
      have channels := first.channels.trans (changes.channels silent)
      obtain ⟨C', le, faithful', given⟩ := arrives.closures
      refine ⟨b, s'', fun below => ?_, channels.trans arrives.channels, C', le₁.trans le,
        faithful', given⟩
      have moved := Config.step_done resumed below
      exact (first.runs (.cons p below)).trans (.head trivial moved (arrives.runs below))

private theorem comes_closure {d : Closure} {v : Value}
    (means : Means c.funcs (.goto (.closure d)) (some v))
    (comes : ∀ e frame, d = .thunk e frame → Comes c (.goto (.task (.eval e) frame)) (some v)) :
    Comes c (.goto (.closure d)) (some v) := by
  intro next s B C Q n names meets faithful
  obtain ⟨t, rfl, job⟩ := goto_of_names names
  obtain ⟨k, rfl, rfl⟩ := force_of_job job
  obtain ⟨sound, clear⟩ := (Contract.meets_goto.mp meets trivial).1
  obtain ⟨s', arrives, _⟩ := arrives_of_comes sound clear faithful means comes
  exact ⟨_, s', arrives⟩

private theorem Means.comes {l : Lead τ} {m : τ.Meaning} (h : Means c.funcs l m) : Comes c l m := by
  induction h with
  | give m =>
    intro next s B C Q n names meets faithful
    cases names with
    | @give a _ given =>
      exact ⟨a, s, fun _ => .refl, .refl _ _, C, List.prefix_refl C, faithful, given⟩
  | value v => exact comes_closure (.value v) nofun
  | @thunk e frame v h ih =>
    refine comes_closure (.thunk h) fun e' frame' same => ?_
    cases same
    exact ih
  | goto leads _ ih => exact comes_goto leads ih
  | enter _ leads _ ihWaits ih => exact comes_enter ihWaits leads ih

theorem Means.arrives_force {k : CellId} {s : State} {v : Value}
    (means : Means c.funcs (.goto (.closure (C.cell k))) (some v)) (sound : Sound B s.heap)
    (clear : s.heap.Clear B k) (faithful : Faithful (Closure.Admits c.funcs) B C s.heap) :
    ∃ s', Arrives c B C (.goto (.force k)) s (some v) (.value (some v)) s' ∧
      s'.cells[k]? = some (.value v) := by
  refine arrives_of_comes sound clear faithful means fun e frame same => ?_
  rw [same] at means
  cases means with
  | thunk evaluates => exact evaluates.comes

end Arriving

end CallByNeed.Language
