import CallByNeed.Pattern.Basic
import Mathlib.Data.List.Basic
import Mathlib.Logic.Relation

set_option autoImplicit false
set_option relaxedAutoImplicit false

/-!
Where patterns end. The places that a pattern finds are exactly those up to which the text can be
read as the pattern says, whatever the order in which they are tried, and however often places are
met again in a repetition. Which place is preferred is said for sequences, choices and repetitions
of single characters.
-/

namespace CallByNeed.Pattern

section Found

def Found.Valid (f : Found) : Prop :=
  ∀ i, f.seen.contains i = true ↔ i ∈ f.places

private theorem Found.valid_empty : Found.Valid {} := by
  intro i
  simp

private theorem Found.Valid.places_add {f : Found} (valid : f.Valid) (i : Nat) :
    (f.add i).places = if i ∈ f.places then f.places else i :: f.places := by
  unfold Found.add
  by_cases seen : f.seen.contains i = true
  · rw [if_pos seen, if_pos ((valid i).1 seen)]
  · rw [if_neg seen, if_neg fun mem => seen ((valid i).2 mem)]

private theorem Found.Valid.add {f : Found} (valid : f.Valid) (i : Nat) : (f.add i).Valid := by
  intro j
  unfold Found.add
  by_cases seen : f.seen.contains i = true
  · rw [if_pos seen]
    exact valid j
  · rw [if_neg seen, List.mem_cons, ← valid j, Std.HashSet.contains_insert, Bool.or_eq_true,
      beq_iff_eq, eq_comm (a := i)]

private theorem Found.Valid.mem_add {f : Found} (valid : f.Valid) (i j : Nat) :
    j ∈ (f.add i).places ↔ j = i ∨ j ∈ f.places := by
  rw [valid.places_add]
  split
  · next mem =>
    constructor
    · exact Or.inr
    · rintro (rfl | h)
      · exact mem
      · exact h
  · exact List.mem_cons

private theorem Found.places_suffix_foldl (places : List Nat) (f : Found) :
    f.places <:+ (places.foldl Found.add f).places := by
  induction places generalizing f with
  | nil => exact List.suffix_rfl
  | cons i places ih =>
    refine List.IsSuffix.trans ?_ (ih (f.add i))
    unfold Found.add
    split
    · exact List.suffix_rfl
    · exact List.suffix_cons i f.places

private theorem Found.Valid.mem_foldl {f : Found} (valid : f.Valid) (places : List Nat) (j : Nat) :
    j ∈ (places.foldl Found.add f).places ↔ j ∈ places ∨ j ∈ f.places := by
  induction places generalizing f with
  | nil => simp
  | cons i places ih =>
    rw [List.foldl_cons, ih (valid.add i), valid.mem_add, List.mem_cons]
    tauto

private theorem mem_distinctPlaces {places : List Nat} {j : Nat} :
    j ∈ distinctPlaces places ↔ j ∈ places := by
  unfold distinctPlaces
  split
  · rfl
  · rfl
  · rw [List.mem_reverse, Found.valid_empty.mem_foldl]
    simp

private theorem head?_distinctPlaces (places : List Nat) :
    (distinctPlaces places).head? = places.head? := by
  match places with
  | [] => rfl
  | [_] => rfl
  | i :: j :: rest =>
    have first : (Found.add {} i).places = [i] := by
      rw [Found.valid_empty.places_add, if_neg List.not_mem_nil]
    obtain ⟨later, hlater⟩ := Found.places_suffix_foldl (j :: rest) (Found.add {} i)
    change ((j :: rest).foldl Found.add (Found.add {} i)).places.reverse.head? = some i
    rw [← hlater, first, List.reverse_append]
    rfl

end Found

section Rounds

variable {body : Nat → List Nat} {i : Nat}

def Reach (body : Nat → List Nat) : Nat → Nat → Prop :=
  Relation.ReflTransGen fun a b => b ∈ body a

def Forward (body : Nat → List Nat) : Prop :=
  ∀ a, ∀ b ∈ body a, a ≤ b

private theorem Forward.le (forward : Forward body) {a b : Nat} (h : Reach body a b) : a ≤ b := by
  induction h with
  | refl => exact Nat.le_refl _
  | tail _ step ih => exact Nat.le_trans ih (forward _ _ step)

private theorem Forward.reach_iff (forward : Forward body) {x : Nat} :
    Reach body i x ↔ x = i ∨ ∃ e ∈ body i, i < e ∧ Reach body e x := by
  constructor
  · intro h
    induction h using Relation.ReflTransGen.head_induction_on with
    | refl => exact .inl rfl
    | @head a e step rest ih =>
      rcases Nat.eq_or_lt_of_le (forward a e step) with rfl | longer
      · exact ih
      · exact .inr ⟨e, step, longer, rest⟩
  · rintro (rfl | ⟨e, step, _, rest⟩)
    · exact .refl
    · exact .head step rest

/-- What is reached from the places from `i` on has been found with them. -/
private def Settled (body : Nat → List Nat) (i : Nat) (f : Found) : Prop :=
  ∀ x ∈ f.places, i ≤ x → ∀ y, Reach body x y → y ∈ f.places

private structure Explores (body : Nat → List Nat) (i : Nat) (f g : Found) : Prop where
  valid : g.Valid
  mem : ∀ x, x ∈ g.places ↔ x ∈ f.places ∨ Reach body i x

/-- A search adds the places that are reached from some places after `i`. -/
private structure Passes (body : Nat → List Nat) (i : Nat) (es : List Nat) (f g : Found) : Prop where
  valid : g.Valid
  keeps : ∀ x ∈ f.places, x ∈ g.places
  mem : ∀ x, x ≠ i → (x ∈ g.places ↔ x ∈ f.places ∨ ∃ e ∈ es, i < e ∧ Reach body e x)

private theorem Passes.settled (forward : Forward body) {es : List Nat} {f g : Found}
    (passes : Passes body i es f g) (settled : Settled body (i + 1) f) :
    Settled body (i + 1) g := by
  intro x hx after y hy
  have hxy := forward.le hy
  rw [passes.mem y (by omega)]
  rcases (passes.mem x (by omega)).1 hx with old | ⟨e, he, longer, reached⟩
  · exact .inl (settled x old after y hy)
  · exact .inr ⟨e, he, longer, reached.trans hy⟩

private theorem passes_foldl (forward : Forward body) {visit : Found → Nat → Found}
    {es : List Nat} {f : Found} (valid : f.Valid) (settled : Settled body (i + 1) f)
    (each : ∀ g, ∀ e ∈ es, g.Valid → Settled body (i + 1) g → Passes body i [e] g (visit g e)) :
    Passes body i es f (es.foldl visit f) := by
  induction es generalizing f with
  | nil => exact ⟨valid, fun _ => id, fun x _ => by simp⟩
  | cons e es ih =>
    have first := each f e List.mem_cons_self valid settled
    have rest := ih first.valid (first.settled forward settled) fun g e' he' =>
      each g e' (List.mem_cons_of_mem e he')
    refine ⟨rest.valid, fun x hx => rest.keeps x (first.keeps x hx), fun x hx => ?_⟩
    rw [List.foldl_cons, rest.mem x hx, first.mem x hx]
    simp [or_assoc]

private theorem Explores.passes {e : Nat} {f g : Found} (longer : i < e)
    (explores : Explores body e f g) : Passes body i [e] f g := by
  refine ⟨explores.valid, fun x hx => (explores.mem x).2 (.inl hx), fun x _ => ?_⟩
  rw [explores.mem x]
  simp [longer]

private theorem passes_short {e : Nat} {f g : Found} (short : e ≤ i) (valid : g.Valid)
    (mem : ∀ x, x ≠ i → (x ∈ g.places ↔ x ∈ f.places)) (keeps : ∀ x ∈ f.places, x ∈ g.places) :
    Passes body i [e] f g := by
  refine ⟨valid, keeps, fun x hx => ?_⟩
  rw [mem x hx]
  simp [Nat.not_lt.2 short]

private theorem explores_of_met {f : Found} (valid : f.Valid) (settled : Settled body i f)
    (met : i ∈ f.places) : Explores body i f f :=
  ⟨valid, fun x => ⟨.inl, fun h => h.elim id (settled i met (Nat.le_refl i) x)⟩⟩

private theorem Passes.explores (forward : Forward body) {f g : Found}
    (passes : Passes body i (body i) f g) {h : Found} (valid : h.Valid)
    (mem : ∀ x, x ∈ h.places ↔ x = i ∨ x ∈ g.places) : Explores body i f h := by
  refine ⟨valid, fun x => ?_⟩
  rw [mem x, forward.reach_iff]
  by_cases hx : x = i
  · simp [hx]
  · simp [passes.mem x hx, hx]

private theorem explores_add (forward : Forward body) {f : Found} (valid : f.Valid)
    (last : ∀ y, Reach body i y → y ≤ i) : Explores body i f (f.add i) := by
  refine ⟨valid.add i, fun x => ?_⟩
  rw [valid.mem_add]
  constructor
  · rintro (rfl | h)
    · exact .inr .refl
    · exact .inl h
  · rintro (h | h)
    · exact .inr h
    · exact .inl (Nat.le_antisymm (last x h) (forward.le h))

private theorem manyRounds_explores (forward : Forward body) {fuel : Nat} {f : Found}
    (valid : f.Valid) (settled : Settled body i f)
    (enough : ∀ y, Reach body i y → y ≤ i + fuel) :
    Explores body i f (manyRounds body fuel i f) := by
  induction fuel generalizing i f with
  | zero => exact explores_add forward valid enough
  | succ fuel ih =>
    rw [manyRounds]
    split
    · next met => exact explores_of_met valid settled ((valid i).1 met)
    · have passes : Passes body i (body i) f ((body i).foldl (fun found e =>
          if e ≤ i then found.add i else manyRounds body fuel e found) f) := by
        refine passes_foldl forward valid (fun x hx after => settled x hx (by omega)) ?_
        intro g e he valid settled
        split
        · next short =>
          refine passes_short short (valid.add i) (fun x hx => ?_) fun x hx => ?_
          · rw [valid.mem_add]
            simp [hx]
          · rw [valid.mem_add]
            exact .inr hx
        · next longer =>
          refine Explores.passes (by omega) (ih valid (fun x hx after => ?_) fun y hy => ?_)
          · exact settled x hx (by omega)
          · have := enough y (.head he hy)
            omega
      refine passes.explores forward (passes.valid.add i) fun x => ?_
      exact passes.valid.mem_add i x

private theorem fewRounds_explores (forward : Forward body) {fuel : Nat} {f : Found}
    (valid : f.Valid) (settled : Settled body i f)
    (enough : ∀ y, Reach body i y → y ≤ i + fuel) :
    Explores body i f (fewRounds body fuel i f) := by
  induction fuel generalizing i f with
  | zero => exact explores_add forward valid enough
  | succ fuel ih =>
    rw [fewRounds]
    split
    · next met => exact explores_of_met valid settled ((valid i).1 met)
    · have settledAdd : Settled body (i + 1) (f.add i) := by
        intro x hx after y hy
        rw [valid.mem_add] at hx ⊢
        exact .inr (settled x (hx.resolve_left (by omega)) (by omega) y hy)
      have passes : Passes body i (body i) (f.add i) ((body i).foldl (fun found e =>
          if e ≤ i then found else fewRounds body fuel e found) (f.add i)) := by
        refine passes_foldl forward (valid.add i) settledAdd ?_
        intro g e he valid settled
        split
        · next short => exact passes_short short valid (fun x _ => Iff.rfl) fun _ => id
        · next longer =>
          refine Explores.passes (by omega) (ih valid (fun x hx after => ?_) fun y hy => ?_)
          · exact settled x hx (by omega)
          · have := enough y (.head he hy)
            omega
      refine ⟨passes.valid, fun x => ?_⟩
      rw [forward.reach_iff]
      by_cases hx : x = i
      · subst hx
        have met := passes.keeps x ((valid.mem_add x x).2 (.inl rfl))
        simp [met]
      · simp [passes.mem x hx, valid.mem_add, hx]

end Rounds

section Meaning

variable {s : Array Char}

/-- The text from a place to another can be read as a pattern. -/
def Spans (s : Array Char) : Pattern → Nat → Nat → Prop
  | .empty, i, j => j = i
  | .set cs, i, j => j = i + 1 ∧ ∃ c, s[i]? = some c ∧ cs.contains c = true
  | .seq p q, i, j => ∃ k, Spans s p i k ∧ Spans s q k j
  | .alt p q, i, j => Spans s p i j ∨ Spans s q i j
  | .star p _, i, j => Relation.ReflTransGen (Spans s p) i j
  | .optional p _, i, j => j = i ∨ Spans s p i j
  | .atomic p, i, j => p.match? s i = some j
  | .ahead p follows, i, j => j = i ∧ ((∃ k, Spans s p i k) ↔ follows = true)
  | .place condition, i, j => j = i ∧ condition.holds s i = true

private theorem ends_seq (p q : Pattern) (i : Nat) :
    ends s (.seq p q) i = distinctPlaces ((ends s p i).flatMap (ends s q)) := rfl

private theorem ends_alt (p q : Pattern) (i : Nat) :
    ends s (.alt p q) i = distinctPlaces (ends s p i ++ ends s q i) := rfl

private theorem ends_many (p : Pattern) (i : Nat) :
    ends s (.star p true) i = (manyRounds (ends s p) (s.size + 1 - i) i {}).places.reverse := rfl

private theorem ends_few (p : Pattern) (i : Nat) :
    ends s (.star p false) i = (fewRounds (ends s p) (s.size + 1 - i) i {}).places.reverse := rfl

private theorem mem_ends_star {p : Pattern} {greedy : Bool} {i j : Nat} (forward : Forward (ends s p))
    (bound : ∀ a, ∀ b ∈ ends s p a, b ≤ max a s.size) :
    j ∈ ends s (.star p greedy) i ↔ Reach (ends s p) i j := by
  have settled : Settled (ends s p) i {} := fun x hx => absurd hx List.not_mem_nil
  have enough : ∀ y, Reach (ends s p) i y → y ≤ i + (s.size + 1 - i) := by
    intro y hy
    have hle : y ≤ max i s.size := by
      induction hy with
      | refl => omega
      | tail _ step ih =>
        have := bound _ _ step
        omega
    omega
  cases greedy
  · have explores := fewRounds_explores forward Found.valid_empty settled enough
    rw [ends_few, List.mem_reverse]
    simpa using explores.mem j
  · have explores := manyRounds_explores forward Found.valid_empty settled enough
    rw [ends_many, List.mem_reverse]
    simpa using explores.mem j

private theorem le_of_mem_ends (p : Pattern) {i j : Nat} (h : j ∈ p.ends s i) :
    i ≤ j ∧ j ≤ max i s.size := by
  induction p generalizing i j with
  | empty =>
    obtain rfl := List.mem_singleton.1 h
    omega
  | set cs =>
    rw [ends] at h
    split at h
    · next c hc =>
      obtain ⟨hi, -⟩ := Array.getElem?_eq_some_iff.1 hc
      split at h
      · obtain rfl := List.mem_singleton.1 h
        omega
      · cases h
    · cases h
  | seq p q ihp ihq =>
    rw [ends_seq, mem_distinctPlaces, List.mem_flatMap] at h
    obtain ⟨k, hk, hj⟩ := h
    have := ihp hk
    have := ihq hj
    omega
  | alt p q ihp ihq =>
    rw [ends_alt, mem_distinctPlaces, List.mem_append] at h
    exact h.elim ihp ihq
  | star p greedy ih =>
    rw [mem_ends_star (fun a b hb => (ih hb).1) (fun a b hb => (ih hb).2)] at h
    induction h with
    | refl => omega
    | tail _ step ih' =>
      have := ih step
      omega
  | optional p greedy ih =>
    rw [ends, mem_distinctPlaces] at h
    have cases : j = i ∨ j ∈ p.ends s i := by
      split at h
      · simpa [or_comm] using h
      · simpa using h
    rcases cases with rfl | h
    · omega
    · exact ih h
  | atomic p ih => exact ih (List.mem_of_mem_take h)
  | ahead p follows ih =>
    rw [ends] at h
    split at h
    · cases h
    · obtain rfl := List.mem_singleton.1 h
      omega
  | place condition =>
    rw [ends] at h
    split at h
    · obtain rfl := List.mem_singleton.1 h
      omega
    · cases h

private theorem mem_ends_iff (p : Pattern) {i j : Nat} : j ∈ p.ends s i ↔ Spans s p i j := by
  induction p generalizing i j with
  | empty => exact List.mem_singleton
  | set cs =>
    rw [ends, Spans]
    cases s[i]? with
    | none => simp
    | some c =>
      by_cases hc : cs.contains c = true
      · simp [hc]
      · simp [hc]
  | seq p q ihp ihq =>
    rw [ends_seq, mem_distinctPlaces, List.mem_flatMap, Spans]
    simp only [ihp, ihq]
  | alt p q ihp ihq => rw [ends_alt, mem_distinctPlaces, List.mem_append, ihp, ihq, Spans]
  | star p greedy ih =>
    rw [mem_ends_star (fun a b hb => (le_of_mem_ends p hb).1)
      (fun a b hb => (le_of_mem_ends p hb).2), Spans, Reach]
    simp only [ih]
  | optional p greedy ih =>
    rw [ends, mem_distinctPlaces, Spans, ← ih]
    cases greedy
    · simp
    · simp [or_comm]
  | atomic p ih =>
    rw [ends, Spans, match?]
    cases ends s p i with
    | nil => simp
    | cons k places => simp [eq_comm]
  | ahead p follows ih =>
    have found : (ends s p i).isEmpty = false ↔ ∃ k, Spans s p i k := by
      simp only [← ih]
      cases ends s p i with
      | nil => simp
      | cons k places => simp
    rw [ends, Spans, ← found]
    cases (ends s p i).isEmpty <;> cases follows <;> simp
  | place condition =>
    rw [ends, Spans]
    split
    · next holds => simp [holds]
    · next holds => simp [holds]

theorem isSome_match?_iff (p : Pattern) {i : Nat} :
    (p.match? s i).isSome = true ↔ ∃ j, Spans s p i j := by
  simp only [← mem_ends_iff, match?]
  cases ends s p i with
  | nil => simp
  | cons k places => simp

end Meaning

section Preference

variable {s : Array Char} {p : Pattern} {ok : Char → Bool}

private theorem match?_seq (p q : Pattern) (i : Nat) :
    (Pattern.seq p q).match? s i = (p.ends s i).findSome? (q.match? s) := by
  rw [match?, ends_seq, head?_distinctPlaces, List.head?_flatMap]
  rfl

theorem match?_alt (p q : Pattern) (i : Nat) :
    (Pattern.alt p q).match? s i = (p.match? s i).or (q.match? s i) := by
  rw [match?, ends_alt, head?_distinctPlaces, List.head?_append]
  rfl

def TakesOne (s : Array Char) (p : Pattern) (ok : Char → Bool) : Prop :=
  ∀ i, p.ends s i = if (s[i]?).any ok then [i + 1] else []

theorem takesOne_set (s : Array Char) (cs : CharSet) : TakesOne s (.set cs) cs.contains := by
  intro i
  rw [ends]
  cases s[i]? with
  | none => rfl
  | some c => rfl

theorem takesOne_alt {q : Pattern} {ok' : Char → Bool} (one : TakesOne s p ok)
    (one' : TakesOne s q ok') (apart : ∀ c, ok c = true → ok' c = false) :
    TakesOne s (.alt p q) fun c => ok c || ok' c := by
  intro i
  rw [ends_alt, one i, one' i]
  cases s[i]? with
  | none => rfl
  | some c =>
    have := apart c
    cases hc : ok c <;> cases hc' : ok' c <;> simp_all [distinctPlaces]

theorem TakesOne.match?_eq (one : TakesOne s p ok) (i : Nat) :
    p.match? s i = if (s[i]?).any ok then some (i + 1) else none := by
  rw [match?, one i]
  split <;> rfl

theorem TakesOne.match?_seq (one : TakesOne s p ok) (q : Pattern) (i : Nat) :
    (Pattern.seq p q).match? s i = if (s[i]?).any ok then q.match? s (i + 1) else none := by
  rw [Pattern.match?_seq, one i]
  split
  · rw [List.findSome?_singleton]
  · rfl

def runLength (s : Array Char) (ok : Char → Bool) (i : Nat) : Nat :=
  ((s.toList.drop i).takeWhile ok).length

private theorem runLength_eq (s : Array Char) (ok : Char → Bool) (i : Nat) :
    runLength s ok i = if (s[i]?).any ok then runLength s ok (i + 1) + 1 else 0 := by
  unfold runLength
  rw [← List.tail_drop, ← Array.getElem?_toList, ← List.head?_drop]
  cases s.toList.drop i with
  | nil => rfl
  | cons c rest =>
    rw [List.takeWhile_cons]
    split
    · next hc => simp [hc]
    · next hc => simp [hc]

private theorem runLength_le (s : Array Char) (ok : Char → Bool) (i : Nat) :
    runLength s ok i ≤ s.size + 1 - i := by
  have taken : runLength s ok i ≤ (s.toList.drop i).length :=
    (List.takeWhile_prefix ok).length_le
  rw [List.length_drop, Array.length_toList] at taken
  omega

private theorem Found.Valid.places_add_new {f : Found} (valid : f.Valid) {i : Nat}
    (new : ∀ x ∈ f.places, x ≠ i) : (f.add i).places = i :: f.places := by
  rw [valid.places_add, if_neg fun mem => new i mem rfl]

private theorem manyRounds_one (one : TakesOne s p ok) {fuel i : Nat} {f : Found} (valid : f.Valid)
    (before : ∀ x ∈ f.places, x < i) (enough : runLength s ok i ≤ fuel) :
    (manyRounds (ends s p) fuel i f).Valid ∧
      (manyRounds (ends s p) fuel i f).places =
        List.range' i (runLength s ok i + 1) ++ f.places := by
  have new : ∀ x ∈ f.places, x ≠ i := fun x hx => Nat.ne_of_lt (before x hx)
  induction fuel generalizing i f with
  | zero =>
    rw [Nat.le_zero.1 enough]
    exact ⟨valid.add i, valid.places_add_new new⟩
  | succ fuel ih =>
    have unseen : ¬ f.seen.contains i = true := fun seen => new i ((valid i).1 seen) rfl
    rw [manyRounds, if_neg unseen, one i]
    rw [runLength_eq] at enough ⊢
    split
    · next here =>
      rw [if_pos here] at enough
      have longer : ¬ i + 1 ≤ i := by omega
      obtain ⟨valid', places⟩ := ih valid (fun x hx => Nat.lt_succ_of_lt (before x hx))
        (Nat.le_of_succ_le_succ enough) fun x hx => by have := before x hx; omega
      simp only [List.foldl_cons, List.foldl_nil, if_neg longer]
      refine ⟨valid'.add i, ?_⟩
      have newer : ∀ x ∈ (manyRounds (ends s p) fuel (i + 1) f).places, x ≠ i := by
        intro x hx
        rw [places, List.mem_append, List.mem_range'_1] at hx
        rcases hx with hx | hx
        · omega
        · exact new x hx
      rw [valid'.places_add_new newer, places, List.range'_succ (n := _ + 1), List.cons_append]
    · exact ⟨valid.add i, valid.places_add_new new⟩

private theorem fewRounds_one (one : TakesOne s p ok) {fuel i : Nat} {f : Found} (valid : f.Valid)
    (before : ∀ x ∈ f.places, x < i) (enough : runLength s ok i ≤ fuel) :
    (fewRounds (ends s p) fuel i f).places =
      (List.range' i (runLength s ok i + 1)).reverse ++ f.places := by
  have new : ∀ x ∈ f.places, x ≠ i := fun x hx => Nat.ne_of_lt (before x hx)
  induction fuel generalizing i f with
  | zero =>
    rw [Nat.le_zero.1 enough]
    exact valid.places_add_new new
  | succ fuel ih =>
    have unseen : ¬ f.seen.contains i = true := fun seen => new i ((valid i).1 seen) rfl
    have added := valid.places_add_new new
    rw [fewRounds, if_neg unseen, one i]
    rw [runLength_eq] at enough ⊢
    split
    · next here =>
      rw [if_pos here] at enough
      have longer : ¬ i + 1 ≤ i := by omega
      have later : ∀ x ∈ (f.add i).places, x < i + 1 := by
        rw [added]
        intro x hx
        rcases List.mem_cons.1 hx with rfl | hx
        · omega
        · exact Nat.lt_succ_of_lt (before x hx)
      have places := ih (valid.add i) later (Nat.le_of_succ_le_succ enough)
        fun x hx => Nat.ne_of_lt (later x hx)
      simp only [List.foldl_cons, List.foldl_nil, if_neg longer]
      rw [places, added, List.range'_succ (n := _ + 1), List.reverse_cons, List.append_assoc]
      rfl
    · exact added

theorem TakesOne.match?_many (one : TakesOne s p ok) (i : Nat) :
    (Pattern.star p true).match? s i = some (i + runLength s ok i) := by
  have places := (manyRounds_one one (i := i) Found.valid_empty
    (fun x hx => absurd hx List.not_mem_nil) (runLength_le s ok i)).2
  rw [match?, ends_many, places, List.append_nil, List.head?_reverse, List.getLast?_range']
  simp

/-- A round more is tried only where what comes after the rounds is not found. -/
theorem TakesOne.match?_few (one : TakesOne s p ok) (q : Pattern) (i : Nat) :
    (Pattern.seq (.star p false) q).match? s i =
      (q.match? s i).or
        (if (s[i]?).any ok then (Pattern.seq (.star p false) q).match? s (i + 1) else none) := by
  have places (i : Nat) : ends s (.star p false) i = List.range' i (runLength s ok i + 1) := by
    rw [ends_few, fewRounds_one one Found.valid_empty (fun x hx => absurd hx List.not_mem_nil)
      (runLength_le s ok i), List.append_nil, List.reverse_reverse]
  rw [Pattern.match?_seq, Pattern.match?_seq, places, places, runLength_eq, List.range'_succ,
    List.findSome?_cons]
  cases q.match? s i with
  | some j => rfl
  | none =>
    by_cases here : (s[i]?).any ok = true
    · simp only [if_pos here, Option.none_or]
    · simp only [if_neg here, Option.none_or]
      rfl

end Preference

end CallByNeed.Pattern
