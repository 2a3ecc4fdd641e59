import CallByNeed.Language.Reader

set_option autoImplicit false
set_option relaxedAutoImplicit false

/-!
A parse does not depend on earlier ones. What a parser keeps from its last parse and does not
replace is whether it has recovered from its last error. As long as a parse has met no error, its
error count is zero, and then the first error is reported whether or not the parser had recovered
before. With that report the parser stops counting as recovered, and from there on there is no
difference.
-/

namespace CallByNeed.LR

variable {S V E : Type}

/-- The configuration of a parser that has recovered before, or has not. -/
def Configuration.flag (c : Configuration S V E) (b : Bool) : Configuration S V E :=
  { c with recovered := b }

section Fields

variable (c : Configuration S V E) (b : Bool)

@[simp]
theorem Configuration.flag_state : (c.flag b).state = c.state := rfl

@[simp]
theorem Configuration.flag_states : (c.flag b).states = c.states := rfl

@[simp]
theorem Configuration.flag_entries : (c.flag b).entries = c.entries := rfl

@[simp]
theorem Configuration.flag_lookahead : (c.flag b).lookahead = c.lookahead := rfl

@[simp]
theorem Configuration.flag_pending : (c.flag b).pending = c.pending := rfl

@[simp]
theorem Configuration.flag_input : (c.flag b).input = c.input := rfl

@[simp]
theorem Configuration.flag_ending : (c.flag b).ending = c.ending := rfl

end Fields

/-- The same configurations, or configurations before the first error of a parse that differ in
whether the parser has recovered from an earlier one. -/
def Configuration.Alike (c d : Configuration S V E) : Prop :=
  d = c ∨ (c.errorCount = 0 ∧ ∃ b, d = c.flag b)

private theorem Configuration.Alike.reports {c d : Configuration S V E} (alike : c.Alike d) :
    d.reports = c.reports := by
  rcases alike with rfl | ⟨_, b, rfl⟩
  · rfl
  · rfl

private theorem Configuration.Alike.messages {c d : Configuration S V E} (alike : c.Alike d) :
    d.messages = c.messages := by
  rcases alike with rfl | ⟨_, b, rfl⟩
  · rfl
  · rfl

inductive Step.Alike : Step S V E → Step S V E → Prop
  | next {c d : Configuration S V E} (alike : c.Alike d) : Alike (.next c) (.next d)
  | done {c d : Configuration S V E} (content : Content S V) (alike : c.Alike d) :
    Alike (.done content c) (.done content d)
  | failed {c d : Configuration S V E} (fault : Fault E) (alike : c.Alike d) :
    Alike (.failed fault c) (.failed fault d)

private theorem Step.Alike.refl (x : Step S V E) : x.Alike x := by
  cases x with
  | next c => exact .next (.inl rfl)
  | done content c => exact .done content (.inl rfl)
  | failed fault c => exact .failed fault (.inl rfl)

namespace Machine

variable {m : Machine S V E} {c : Configuration S V E} {b : Bool}

private theorem alike_flag (counted : c.errorCount = 0) : c.Alike (c.flag b) :=
  .inr ⟨counted, b, rfl⟩

private theorem tell_alike (counted : c.errorCount = 0) (line : Unit → Except (Fault E) String)
    {k k' : Configuration S V E → Step S V E}
    (alike : ∀ d : Configuration S V E, d.errorCount = 0 → (k d).Alike (k' (d.flag b))) :
    (m.tell c line k).Alike (m.tell (c.flag b) line k') := by
  unfold tell
  split
  · cases line () with
    | ok text => exact alike { c with messages := .log text :: c.messages } counted
    | error fault => exact .failed fault (alike_flag counted)
  · exact alike c counted

private theorem refuse_alike (counted : c.errorCount = 0) (slice : Slice S V) :
    (m.refuse c slice).Alike (m.refuse (c.flag b) slice) := by
  unfold refuse
  rw [Configuration.flag_states]
  rcases c.states with _ | ⟨top, _ | ⟨next, states⟩⟩
  · exact .failed _ (alike_flag counted)
  · exact .failed _ (.inr ⟨counted, b, rfl⟩)
  · exact .next (.inl rfl)

private theorem reduceSlice_alike (counted : c.errorCount = 0) (number : Nat)
    (rule : RuleShape S) (slice : Slice S V) :
    (m.reduceSlice c number rule slice).Alike (m.reduceSlice (c.flag b) number rule slice) := by
  unfold reduceSlice
  cases m.reduce number slice with
  | failed fault => exact .failed fault (alike_flag counted)
  | refused => exact refuse_alike counted slice
  | made head =>
    refine tell_alike counted _ fun d counted => ?_
    rw [Configuration.flag_states]
    cases m.gotoState (c.states.drop rule.size) rule.head with
    | error fault => exact .failed fault (alike_flag counted)
    | ok state => exact .next (.inr ⟨counted, b, rfl⟩)

private theorem headEntry_flag (rule : RuleShape S) (args : List (Entry S V)) :
    m.headEntry (c.flag b) rule args = m.headEntry c rule args := rfl

private theorem reduceRule_alike (counted : c.errorCount = 0) (number : Nat)
    (rule : RuleShape S) :
    (m.reduceRule c number rule).Alike (m.reduceRule (c.flag b) number rule) := by
  unfold reduceRule
  refine tell_alike counted _ fun d counted => ?_
  simp only [headEntry_flag, Configuration.flag_entries]
  split
  · cases m.headEntry d rule [] with
    | error fault => exact .failed fault (alike_flag counted)
    | ok head => exact reduceSlice_alike counted number rule _
  · cases (c.entries.take (rule.size + 1)).reverse with
    | nil => exact .failed _ (alike_flag counted)
    | cons _ args =>
      simp only
      cases m.headEntry d rule args with
      | error fault => exact .failed fault (alike_flag counted)
      | ok head => exact reduceSlice_alike counted number rule _

private theorem accept_alike (counted : c.errorCount = 0) :
    (m.accept c).Alike (m.accept (c.flag b)) := by
  unfold accept
  rw [Configuration.flag_entries]
  cases c.entries with
  | nil => exact .failed _ (alike_flag counted)
  | cons top entries =>
    refine tell_alike counted _ fun d counted => ?_
    refine tell_alike counted _ fun d counted => ?_
    exact .done _ (alike_flag counted)

private theorem fetch_flag : m.fetch (c.flag b) = (m.fetch c).map (·.flag b) := by
  unfold fetch
  simp only [Configuration.flag_lookahead, Configuration.flag_pending]
  cases c.lookahead with
  | some lookahead => rfl
  | none =>
    cases c.pending with
    | cons first rest => rfl
    | nil =>
      simp only [Configuration.pull, Configuration.flag_input, Configuration.flag_ending]
      cases c.input with
      | cons feed rest => rfl
      | nil => cases c.ending <;> rfl

private theorem errorCount_of_fetch {d : Configuration S V E} (fetched : m.fetch c = .ok d) :
    d.errorCount = c.errorCount := by
  unfold fetch Configuration.pull at fetched
  grind

variable [DecidableEq S]

/-- At an error that is the first of a parse it does not matter whether the parser has recovered
from earlier ones. -/
private theorem recover_flag (counted : c.errorCount = 0) (lookahead : Entry S V) :
    m.recover (c.flag b) lookahead = m.recover c lookahead := by
  simp [recover, Configuration.flag, counted]

private theorem perform_alike (counted : c.errorCount = 0) (action : Option Action) :
    (m.perform action c).Alike (m.perform action (c.flag b)) := by
  unfold perform
  refine tell_alike counted _ fun d counted => ?_
  rw [Configuration.flag_lookahead]
  rcases action with _ | (state | number | _)
  · cases d.lookahead with
    | none => exact .failed _ (alike_flag counted)
    | some lookahead =>
      refine tell_alike counted _ fun d counted => ?_
      rw [recover_flag counted]
      exact .refl _
  · cases d.lookahead with
    | none => exact .failed _ (alike_flag counted)
    | some lookahead =>
      refine tell_alike counted _ fun d counted => .next (.inr ⟨?_, b, rfl⟩)
      simp [counted]
  · simp only
    cases m.automaton.rule number with
    | none => exact .failed _ (alike_flag counted)
    | some rule => exact reduceRule_alike counted number rule
  · exact accept_alike counted

/-- One step of parsers of which one had recovered before and the other had not. -/
theorem step_alike (counted : c.errorCount = 0) : (m.step c).Alike (m.step (c.flag b)) := by
  unfold step
  refine tell_alike counted _ fun d counted => ?_
  refine tell_alike counted _ fun d counted => ?_
  rw [Configuration.flag_state]
  cases m.automaton.defaulted d.state with
  | some rule =>
    refine tell_alike counted _ fun d counted => ?_
    exact perform_alike counted _
  | none =>
    rw [fetch_flag]
    cases fetched : m.fetch d with
    | error fault => exact .failed fault (alike_flag counted)
    | ok d' => exact perform_alike ((errorCount_of_fetch fetched).trans counted) _

/-- A parse whose parser had recovered before, and one whose parser had not. -/
theorem run_alike (fuel : Nat) {d : Configuration S V E} (alike : c.Alike d) :
    (m.run fuel d).1 = (m.run fuel c).1 ∧ (m.run fuel c).2.Alike (m.run fuel d).2 := by
  induction fuel generalizing c d with
  | zero => exact ⟨rfl, alike⟩
  | succ fuel ih =>
    have steps : (m.step c).Alike (m.step d) := by
      rcases alike with rfl | ⟨counted, b, rfl⟩
      · exact .refl _
      · exact step_alike counted
    rw [run, run]
    generalize m.step c = x at steps
    generalize m.step d = y at steps
    cases steps with
    | next alike => exact ih alike
    | done content alike => exact ⟨rfl, alike⟩
    | failed fault alike => exact ⟨rfl, alike⟩

end Machine

end CallByNeed.LR

namespace CallByNeed.Language

private theorem Parse.ofRun_alike (outcome : LR.Outcome Symbol Phrase Text.IntegerFault)
    {c d : LR.Configuration Symbol Phrase Text.IntegerFault} (alike : c.Alike d) :
    Parse.ofRun outcome d = Parse.ofRun outcome c := by
  unfold Parse.ofRun LR.Configuration.logText LR.Configuration.text
  rw [alike.reports, alike.messages]

private theorem runScan_alike (tracking logging : Bool) (scan : Scan) (b : Bool) :
    (runScan tracking logging scan b).1 = (runScan tracking logging scan true).1 ∧
      (runScan tracking logging scan true).2.Alike (runScan tracking logging scan b).2 :=
  LR.Machine.run_alike _ (.inr ⟨rfl, b, rfl⟩)

/-- A reader gives the parse of a source text whatever it has read before. -/
theorem Reader.parse_fst (r : Reader) (source : String) :
    (r.parse source).1 = Language.parse source := by
  obtain ⟨same, alike⟩ := runScan_alike false false (Language.scan source) r.recovered
  calc (r.parse source).1
      = Parse.ofRun (runScan false false (Language.scan source) r.recovered).1
          (runScan false false (Language.scan source) r.recovered).2 := rfl
    _ = Parse.ofRun (runScan false false (Language.scan source) true).1
          (runScan false false (Language.scan source) r.recovered).2 := by rw [same]
    _ = Language.parse source := Parse.ofRun_alike _ alike

end CallByNeed.Language
