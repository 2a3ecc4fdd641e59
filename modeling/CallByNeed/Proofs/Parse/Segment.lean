import CallByNeed.Proofs.Parse.Complete
import CallByNeed.Proofs.Parse.Simulate

set_option autoImplicit false
set_option relaxedAutoImplicit false

/-!
Whole parses. The tokens are cut into segments, each up to the token with which it is no longer the
beginning of a sentence. A parse reads segment after segment, and what it gives is what the last one
gives. It reports the first of the errors between them, and a later one where enough tokens were
read since the one before.
-/

namespace CallByNeed.Language

section Segments

/-- Tokens cut after each offending one: the segments that end with one, and the last segment. -/
structure Segments where
  cuts : List (List Token × Token)
  last : List Token

open Classical in
/-- Cuts tokens, after some of the first segment were read. A token is offending if with it the
segment is no longer the beginning of a sentence. -/
noncomputable def segmentsFrom (read : List Token) : List Token → Segments
  | [] => ⟨[], read⟩
  | t :: ts =>
    if Viable ((read ++ [t]).map Token.kind) then segmentsFrom (read ++ [t]) ts
    else ⟨(read, t) :: (segmentsFrom [] ts).cuts, (segmentsFrom [] ts).last⟩

noncomputable def segments (ts : List Token) : Segments :=
  segmentsFrom [] ts

open Classical in
/-- The errors in tokens that were cut: how many tokens were read since the one before, and the
offending token, or none at the end of the input. -/
noncomputable def Segments.errors (s : Segments) : List (Nat × Option Token) :=
  s.cuts.map (fun (read, t) => (read.length, some t)) ++
    if Sentence (s.last.map Token.kind) then [] else [(s.last.length, none)]

/-- The errors that are reported: the first one, and each that comes after at least three tokens. -/
noncomputable def Segments.reported (s : Segments) : List (Option Token) :=
  match s.errors with
  | [] => []
  | (_, first) :: later => first :: (later.filter fun (n, _) => 3 ≤ n).map Prod.snd

private theorem segmentsFrom_viable {read ts : List Token}
    (h : Viable ((read ++ ts).map Token.kind)) :
    segmentsFrom read ts = ⟨[], read ++ ts⟩ := by
  induction ts generalizing read with
  | nil => rw [segmentsFrom, List.append_nil]
  | cons t ts ih =>
    rw [List.append_cons] at h ⊢
    have hfirst : Viable ((read ++ [t]).map Token.kind) := by
      rw [List.map_append] at h
      exact h.of_append
    rw [segmentsFrom, if_pos hfirst, ih h]

private theorem segmentsFrom_offence {read us rest : List Token} {t : Token}
    (viable : Viable ((read ++ us).map Token.kind))
    (broken : ¬ Viable ((read ++ us ++ [t]).map Token.kind)) :
    segmentsFrom read (us ++ t :: rest) =
      ⟨(read ++ us, t) :: (segments rest).cuts, (segments rest).last⟩ := by
  induction us generalizing read with
  | nil =>
    rw [List.append_nil] at broken ⊢
    rw [List.nil_append, segmentsFrom, if_neg broken]
    rfl
  | cons u us ih =>
    rw [List.append_cons read u us] at viable broken ⊢
    have hfirst : Viable ((read ++ [u]).map Token.kind) := by
      rw [List.map_append] at viable
      exact viable.of_append
    rw [List.cons_append, segmentsFrom, if_pos hfirst, ih viable broken]

theorem segments_viable {ts : List Token} (h : Viable (ts.map Token.kind)) :
    segments ts = ⟨[], ts⟩ := by
  have hviable : Viable (([] ++ ts).map Token.kind) := h
  exact segmentsFrom_viable hviable

theorem segments_offence {us rest : List Token} {t : Token} (viable : Viable (us.map Token.kind))
    (broken : ¬ Viable (us.map Token.kind ++ [t.kind])) :
    segments (us ++ t :: rest) =
      ⟨(us, t) :: (segments rest).cuts, (segments rest).last⟩ := by
  have hviable : Viable (([] ++ us).map Token.kind) := viable
  refine segmentsFrom_offence hviable ?_
  rwa [List.nil_append, List.map_append]

theorem segmentsFrom_last_suffix (read ts : List Token) :
    (segmentsFrom read ts).last <:+ read ++ ts := by
  induction ts generalizing read with
  | nil => rw [segmentsFrom, List.append_nil]
  | cons t ts ih =>
    rw [segmentsFrom]
    split
    · have hsuffix := ih (read ++ [t])
      rwa [← List.append_cons] at hsuffix
    · have hsuffix := ih []
      rw [List.nil_append] at hsuffix
      exact (hsuffix.trans (List.suffix_cons t ts)).trans (List.suffix_append read (t :: ts))

theorem mem_segmentsFrom_last {read ts : List Token} {x : Token}
    (h : x ∈ (segmentsFrom read ts).last) : x ∈ read ++ ts :=
  (segmentsFrom_last_suffix read ts).mem h

end Segments

section Runs

/-- What a parse gives for tokens after which nothing follows. -/
inductive Gives (ts : List Token) : Phrase → Prop where
  | program {s : Stage} {p : Program} (sentence : Sentence (ts.map Token.kind))
      (turns : Turns ⟨[], ts⟩ s) (finished : s.Finished (.program p)) (filled : p.Filled) :
      Gives ts (.program p)
  | nothing (broken : ¬ Sentence (ts.map Token.kind)) : Gives ts .nothing

theorem Gives.unique {ts : List Token} {a b : Phrase} (h : Gives ts a) (h' : Gives ts b) :
    a = b := by
  cases h with
  | program sentence turns finished _ =>
    cases h' with
    | program _ turns' finished' _ =>
      have heq := Stage.Halted.unique (.inr ⟨_, finished⟩) (.inr ⟨_, finished'⟩) turns turns'
      rw [Stage.Finished] at finished finished'
      rw [finished, finished'] at heq
      cases heq
      rfl
    | nothing broken => exact absurd sentence broken
  | nothing broken =>
    cases h' with
    | program sentence _ _ _ => exact absurd sentence broken
    | nothing _ => rfl

def Token.shown (t : Token) : LR.Token Symbol Phrase :=
  t.feed.token

/-- The tally after errors, each with the number of tokens shifted before it. -/
def Tally.through (k : Tally) : List (Nat × Option Token) → Tally
  | [] => k
  | (n, t) :: errors => ((k.shift n).err (t.map Token.shown)).through errors

/-- A run reads a segment up to its offending token and starts again after that. -/
theorem Ready.offence {us rest : List Token} {t : Token} {ch : Chain}
    (fits : ∀ x ∈ us ++ t :: rest, x.Fits) (turns : Turns ⟨[], us ++ t :: rest⟩ ⟨ch, t :: rest⟩)
    (stuck : Stage.action ⟨ch, t :: rest⟩ = none) {c : Snapshot} {k : Tally}
    {e : Option Text.IntegerFault} (h : Ready c ⟨[], us ++ t :: rest⟩ k e) :
    ∃ c' n, Steps n c c' ∧ n + 8 * rest.length ≤ 8 * (us ++ t :: rest).length ∧
      Unread c' ⟨[], rest⟩ ((k.shift us.length).err (some t.feed.token)) e := by
  obtain ⟨c₁, n₁, hsteps₁, hn₁, hready⟩ := h.turns turns (.inl (by simp)) (.start fits)
  have hshifted : (us ++ t :: rest).length - (t :: rest).length = us.length := by simp
  rw [hshifted] at hready
  obtain ⟨_, -, sound⟩ := turns.sound (.start fits)
  obtain ⟨c₂, n₂, hsteps₂, hn₂, unread⟩ := hready.restart sound.linked stuck
  refine ⟨c₂, n₂ + n₁, hsteps₁.trans hsteps₂, ?_, unread⟩
  have hchain : ch.length ≤ weight ch.symbols := by
    have hle := length_le_weight ch.symbols
    rwa [Chain.symbols, List.length_map, List.length_reverse] at hle
  have hstart : Stage.measure ⟨[], us ++ t :: rest⟩ = 8 * (us ++ t :: rest).length := rfl
  have hstuck : Stage.measure ⟨ch, t :: rest⟩ = 8 * (rest.length + 1) + weight ch.symbols := rfl
  omega

theorem Ready.run {ts : List Token} (fits : ∀ t ∈ ts, t.Fits) {c : Snapshot} {k : Tally}
    (h : Ready c ⟨[], ts⟩ k none) {fuel : Nat} (enough : 8 * ts.length < fuel) :
    ∃ phrase c', parser.run fuel c = (.done (.value phrase), c') ∧
      Gives (segments ts).last phrase ∧
      c'.reports = (k.through (segments ts).errors).reports := by
  induction hlen : ts.length using Nat.strong_induction_on generalizing ts c k fuel with
  | _ n ih =>
    subst hlen
    have hmeasure : Stage.measure ⟨[], ts⟩ = 8 * ts.length := rfl
    cases verdict fits with
    | @sentence s p sentence turns finished filled =>
      obtain ⟨c₁, n, hsteps, hn, hready⟩ := h.turns turns (.inr rfl) (.start fits)
      obtain ⟨c₂, haccept, hreports, -⟩ := hready.accept finished
      obtain ⟨fuel, rfl⟩ : ∃ f, fuel = f + 1 + n := ⟨fuel - (1 + n), by omega⟩
      refine ⟨.program p, c₂, ?_, ?_, ?_⟩
      · rw [hsteps, LR.Machine.run, haccept]
      · rw [segments_viable sentence.viable]
        exact .program sentence turns finished filled
      · rw [segments_viable sentence.viable, hreports]
        simp [Segments.errors, sentence, Tally.through, Tally.shift]
    | @offence us rest t ch split viable broken turns stuck =>
      subst split
      obtain ⟨c₁, n, hsteps, hn, unread⟩ := h.offence fits turns stuck
      obtain ⟨fuel, rfl⟩ : ∃ f, fuel = f + n := ⟨fuel - n, by omega⟩
      have hrest : ∀ x ∈ rest, x.Fits := fun x hx => fits x (by simp [hx])
      obtain ⟨phrase, c', hrun, hgives, hreports⟩ := ih rest.length (by simp; omega) hrest
        (unread.ready (.inr rfl)) (show 8 * rest.length < fuel by omega) rfl
      refine ⟨phrase, c', ?_, ?_, ?_⟩
      · rw [hsteps, hrun]
      · rw [segments_offence viable broken]
        exact hgives
      · rw [hreports, segments_offence viable broken]
        rfl
    | unended viable broken turns stuck =>
      obtain ⟨c₁, n, hsteps, hn, hready⟩ := h.turns turns (.inr rfl) (.start fits)
      obtain ⟨c₂, hfail, hreports, -⟩ := hready.fail stuck
      obtain ⟨fuel, rfl⟩ : ∃ f, fuel = f + 1 + n := ⟨fuel - (1 + n), by omega⟩
      refine ⟨.nothing, c₂, ?_, ?_, ?_⟩
      · rw [hsteps, LR.Machine.run, hfail]
      · rw [segments_viable viable]
        exact .nothing broken
      · rw [segments_viable viable, hreports]
        simp [Segments.errors, broken, Tally.through]

private theorem Turns.exists_last_shift {s s' : Stage} (turns : Turns s s') (begun : s.ahead ≠ [])
    (ended : s'.ahead = []) :
    ∃ ch t q, Turns s ⟨ch, [t]⟩ ∧ Stage.action ⟨ch, [t]⟩ = some (.shift q) := by
  induction turns using Relation.ReflTransGen.head_induction_on with
  | refl => exact absurd ended begun
  | @head s s₁ turn _ ih =>
    by_cases hahead : s₁.ahead = []
    · cases turn with
      | @shift ch t ts q entry =>
        have hts : ts = [] := hahead
        subst hts
        exact ⟨ch, t, q, .refl, entry⟩
      | reduce entry mem size built leads => exact absurd hahead begun
    · obtain ⟨ch, t, q, hturns, entry⟩ := ih hahead
      exact ⟨ch, t, q, .head turn hturns, entry⟩

theorem Unread.run_fault {c : Snapshot} {ch : Chain} {k : Tally} {fault : Text.IntegerFault}
    (h : Unread c ⟨ch, []⟩ k (some fault)) {fuel : Nat} (enough : 0 < fuel) :
    parser.run fuel c = (.failed (.called fault), c) := by
  obtain ⟨fuel, rfl⟩ : ∃ f, fuel = f + 1 := ⟨fuel - 1, by omega⟩
  rw [LR.Machine.run, h.step_fault]

theorem Ready.run_fault {ts : List Token} (begun : ts ≠ []) (fits : ∀ t ∈ ts, t.Fits) {c : Snapshot}
    {k : Tally} {fault : Text.IntegerFault} (h : Ready c ⟨[], ts⟩ k (some fault)) {fuel : Nat}
    (enough : 8 * ts.length < fuel) :
    ∃ c', parser.run fuel c = (.failed (.called fault), c') := by
  induction hlen : ts.length using Nat.strong_induction_on generalizing ts c k fuel with
  | _ n ih =>
    subst hlen
    have whole : ∀ {s : Stage}, Turns ⟨[], ts⟩ s → s.ahead = [] →
        ∃ c', parser.run fuel c = (.failed (.called fault), c') := by
      intro s turns ended
      obtain ⟨ch, t, q, hturns, entry⟩ := turns.exists_last_shift begun ended
      obtain ⟨c₁, n, hsteps, hn, hready⟩ := h.turns hturns (.inl (by simp)) (.start fits)
      obtain ⟨c₂, shows₂, hstep⟩ := hready.step
      rw [entry] at hstep
      obtain ⟨c₃, hshift, unread⟩ := perform_shift shows₂ q
      have hstart : Stage.measure ⟨[], ts⟩ = 8 * ts.length := rfl
      have hlast : Stage.measure ⟨ch, [t]⟩ = 8 + weight ch.symbols := rfl
      obtain ⟨fuel, rfl⟩ : ∃ f, fuel = f + 1 + n := ⟨fuel - (1 + n), by omega⟩
      refine ⟨c₃, ?_⟩
      rw [hsteps, run_succ (hstep.trans hshift), unread.run_fault (by omega)]
    cases verdict fits with
    | sentence sentence turns finished filled =>
      refine whole turns ?_
      rw [finished]
    | unended viable broken turns stuck => exact whole turns rfl
    | @offence us rest t ch split viable broken turns stuck =>
      subst split
      obtain ⟨c₁, n, hsteps, hn, unread⟩ := h.offence fits turns stuck
      obtain ⟨fuel, rfl⟩ : ∃ f, fuel = f + n := ⟨fuel - n, by omega⟩
      rw [hsteps]
      by_cases hrest : rest = []
      · subst hrest
        exact ⟨c₁, unread.run_fault (by omega)⟩
      · exact ih rest.length (by simp; omega) hrest (fun x hx => fits x (by simp [hx]))
          (unread.ready (.inl hrest)) (by omega) rfl

end Runs

end CallByNeed.Language
