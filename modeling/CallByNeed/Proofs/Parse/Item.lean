import CallByNeed.Language.Table
import CallByNeed.Proofs.Parse.Grammar

set_option autoImplicit false
set_option relaxedAutoImplicit false

/-!
What the parse table knows about the rules. From a state the rest of a rule can be read if the
table leads along its symbols to a state that reduces by the rule. The states from which the rest of
a rule can be read are those in which its first symbols have just been read, and this is checked
here of the whole table: it is what makes each reduction take the symbols of its rule.
-/

namespace CallByNeed.Language

section Lookup

def rowList : List Row :=
  rowsFrom0 ++ rowsFrom26 ++ rowsFrom52 ++ rowsFrom78 ++ rowsFrom104 ++ rowsFrom130

/-- The row of a state, found without going through all rows. -/
def rowAt (s : Nat) : Option Row :=
  if s < 26 then rowsFrom0[s]?
  else if s < 52 then rowsFrom26[s - 26]?
  else if s < 78 then rowsFrom52[s - 52]?
  else if s < 104 then rowsFrom78[s - 78]?
  else if s < 130 then rowsFrom104[s - 104]?
  else rowsFrom130[s - 130]?

theorem rowList_getElem? (s : Nat) : rowList[s]? = rowAt s := by
  have l0 : rowsFrom0.length = 26 := rfl
  have l1 : rowsFrom26.length = 26 := rfl
  have l2 : rowsFrom52.length = 26 := rfl
  have l3 : rowsFrom78.length = 26 := rfl
  have l4 : rowsFrom104.length = 26 := rfl
  unfold rowAt rowList
  simp only [List.getElem?_append, List.length_append, l0, l1, l2, l3, l4]
  grind

theorem rows_getElem? (s : Nat) : rows[s]? = rowAt s := by
  have hrows : rows = rowList.toArray := rfl
  rw [hrows, List.getElem?_toArray, rowList_getElem?]

theorem mem_rowList {s : Nat} {row : Row} (h : rowAt s = some row) : row ∈ rowList :=
  List.mem_of_getElem? ((rowList_getElem? s).trans h)

def Row.next (row : Row) : Symbol → Option Nat
  | .terminal t => row.shifts.lookup t
  | .nonterminal n => row.gotos.lookup n
  | _ => none

def follow (s : Nat) (X : Symbol) : Option Nat :=
  (rowAt s).bind fun row => row.next X

def Row.edges (row : Row) : List (Symbol × Nat) :=
  row.shifts.map (fun (t, q) => (.terminal t, q)) ++
    row.gotos.map fun (n, q) => (.nonterminal n, q)

def Row.reductions (row : Row) : List Nat :=
  (row.reduces.map (·.1)).toList ++
    match row.atEnd with
    | some (.reduce number) => [number]
    | _ => []

theorem mem_of_lookup {α β : Type} [BEq α] [LawfulBEq α] {l : List (α × β)} {a : α} {b : β}
    (h : l.lookup a = some b) : (a, b) ∈ l := by
  induction l with
  | nil => cases h
  | cons x l ih =>
    rw [List.lookup_cons] at h
    split at h
    · rename_i heq
      obtain rfl := eq_of_beq heq
      obtain rfl := Option.some.inj h
      exact List.mem_cons_self
    · exact List.mem_cons_of_mem x (ih h)

theorem Row.mem_edges {row : Row} {X : Symbol} {q : Nat} (h : row.next X = some q) :
    (X, q) ∈ row.edges := by
  cases X with
  | terminal t => exact List.mem_append_left _ (List.mem_map_of_mem (mem_of_lookup h))
  | nonterminal n => exact List.mem_append_right _ (List.mem_map_of_mem (mem_of_lookup h))
  | endMark => cases h
  | error => cases h

theorem rowAt_of_follow {s q : Nat} {X : Symbol} (h : follow s X = some q) :
    ∃ row, rowAt s = some row ∧ row.next X = some q :=
  Option.bind_eq_some_iff.1 h

end Lookup

section Rules

/-- The rules with their numbers, without the start rule. -/
def numbered : List (Rule × Nat) :=
  productions.zipIdx 1

/-- From the row the symbols can be read, up to a reduction by the rule. -/
def Row.completes (number : Nat) : List Symbol → Row → Bool
  | [], row => row.reductions.contains number
  | X :: rest, row =>
    ((row.next X).bind rowAt).any fun next => Row.completes number rest next

/-- A place before a symbol inside a rule: the last symbol before it, the ones before that from the
last to the first, and the symbols after it. -/
structure Place where
  number : Nat
  head : Nonterminal
  before : List Symbol
  last : Symbol
  after : List Symbol

def placesIn (X : Symbol) (number : Nat) (head : Nonterminal) (before : List Symbol)
    (last : Symbol) : List Symbol → List Place
  | [] => []
  | Y :: after =>
    let places := placesIn X number head (last :: before) Y after
    if Y = X then ⟨number, head, before, last, after⟩ :: places else places

/-- The places before a symbol inside all rules. -/
def places (X : Symbol) : List Place :=
  numbered.flatMap fun x =>
    match x.1.body with
    | [] => []
    | Y :: rest => placesIn X x.2 x.1.head [] Y rest

def rulesFrom (X : Symbol) : List (Rule × Nat) :=
  numbered.filter fun x => x.1.body.head? = some X

private theorem mem_placesIn (X : Symbol) (number : Nat) (head : Nonterminal) (before : List Symbol)
    (first last : Symbol) (α β : List Symbol) {ss : List Symbol}
    (h : first :: ss = α ++ last :: X :: β) :
    ⟨number, head, α.reverse ++ before, last, β⟩ ∈ placesIn X number head before first ss := by
  induction α generalizing before first ss with
  | nil =>
    obtain ⟨rfl, rfl⟩ := List.cons.inj h
    simp [placesIn]
  | cons Y α ih =>
    rw [List.cons_append] at h
    obtain ⟨rfl, rfl⟩ := List.cons.inj h
    obtain ⟨Z, rest, hrest⟩ : ∃ Z rest, Z :: rest = α ++ last :: X :: β := by
      cases α with
      | nil => exact ⟨last, X :: β, rfl⟩
      | cons Z α => exact ⟨Z, α ++ last :: X :: β, rfl⟩
    have hplaces := ih (first :: before) Z hrest
    rw [← hrest]
    simp only [List.reverse_cons, List.append_assoc, List.cons_append, List.nil_append, placesIn]
    split
    · exact List.mem_cons_of_mem _ hplaces
    · exact hplaces

private theorem mem_places {r : Rule} {number : Nat} (mem : (r, number) ∈ numbered) {X Y : Symbol}
    {α β : List Symbol} (body : r.body = α ++ Y :: X :: β) :
    ⟨number, r.head, α.reverse, Y, β⟩ ∈ places X := by
  refine List.mem_flatMap.2 ⟨_, mem, ?_⟩
  cases hb : r.body with
  | nil => simp [hb] at body
  | cons Z ss =>
    have h := mem_placesIn X number r.head [] Z Y α β (hb ▸ body)
    rw [List.append_nil] at h
    simpa only [hb] using h

private theorem mem_rulesFrom {r : Rule} {number : Nat} (mem : (r, number) ∈ numbered) {X : Symbol}
    {β : List Symbol} (body : r.body = X :: β) : (r, number) ∈ rulesFrom X := by
  refine List.mem_filter.2 ⟨mem, ?_⟩
  simp [body]

theorem mem_numbered {r : Rule} {number : Nat} :
    (r, number) ∈ numbered ↔ 0 < number ∧ productions[number - 1]? = some r :=
  List.mk_mem_zipIdx_iff_le_and_getElem?_sub

theorem rules_of_numbered {r : Rule} {number : Nat} (mem : (r, number) ∈ numbered) :
    rules[number]? = some r := by
  obtain ⟨pos, hget⟩ := mem_numbered.1 mem
  have hrules : rules = (startRule :: productions).toArray := rfl
  obtain ⟨n, rfl⟩ : ∃ n, number = n + 1 := ⟨number - 1, by omega⟩
  rw [hrules, List.getElem?_toArray, List.getElem?_cons_succ]
  exact hget

theorem mem_productions {r : Rule} {number : Nat} (mem : (r, number) ∈ numbered) :
    r ∈ productions :=
  List.fst_mem_of_mem_zipIdx mem

private theorem of_mem_placesIn {X : Symbol} {number : Nat} {head : Nonterminal}
    {before : List Symbol} {first : Symbol} {ss : List Symbol} {p : Place}
    (h : p ∈ placesIn X number head before first ss) :
    p.number = number ∧ p.head = head ∧
      before.reverse ++ first :: ss = p.before.reverse ++ p.last :: X :: p.after := by
  induction ss generalizing before first with
  | nil => simp [placesIn] at h
  | cons Y ss ih =>
    have later : p ∈ placesIn X number head (first :: before) Y ss →
        p.number = number ∧ p.head = head ∧
          before.reverse ++ first :: Y :: ss = p.before.reverse ++ p.last :: X :: p.after := by
      intro hp
      obtain ⟨hnumber, hhead, hbody⟩ := ih hp
      refine ⟨hnumber, hhead, ?_⟩
      rw [← hbody, List.reverse_cons, List.append_assoc]
      rfl
    simp only [placesIn] at h
    split at h
    · rename_i hY
      subst hY
      rcases List.mem_cons.1 h with rfl | hp
      · exact ⟨rfl, rfl, rfl⟩
      · exact later hp
    · exact later h

theorem of_mem_places {X : Symbol} {p : Place} (h : p ∈ places X) :
    ∃ r, (r, p.number) ∈ numbered ∧ r.head = p.head ∧
      r.body = (p.before.reverse ++ [p.last]) ++ X :: p.after := by
  obtain ⟨⟨r, number⟩, mem, hp⟩ := List.mem_flatMap.1 h
  simp only at hp
  split at hp
  · cases hp
  · rename_i Y rest hbody
    obtain ⟨rfl, hhead, hplace⟩ := of_mem_placesIn hp
    refine ⟨r, mem, hhead.symm, ?_⟩
    rw [List.append_assoc]
    exact hbody.trans hplace

end Rules

section Check

/-- Each rule in progress in the row was last read at the symbol. -/
def Row.entered (row : Row) (X : Symbol) : Bool :=
  row.reductions.all (fun number =>
    0 < number && (productions[number - 1]?).any (·.body.getLast? = some X)) &&
  row.edges.all fun (Y, q) => (rowAt q).any fun next =>
    (places Y).all fun p => p.last = X || !next.completes p.number p.after

/-- Each rule that can be read from the row is one whose head the row takes up. -/
def Row.opens (row : Row) : Bool :=
  row.edges.all fun (Y, q) => (rowAt q).any fun next =>
    (rulesFrom Y).all fun (r, number) =>
      (row.gotos.lookup r.head).isSome || !next.completes number r.body.tail

theorem entered_start : (rowAt 0).any (·.entered .endMark) = true := by
  decide +kernel

private theorem entered_edges :
    (rowList.all fun row => row.edges.all fun (X, s) => (rowAt s).any (·.entered X)) = true := by
  decide +kernel

private theorem opens_rows : rowList.all Row.opens = true := by
  decide +kernel

end Check

section Items

theorem entered_of_follow {p s : Nat} {X : Symbol} (h : follow p X = some s) :
    ∃ row, rowAt s = some row ∧ row.entered X = true := by
  obtain ⟨row, hrow, hnext⟩ := rowAt_of_follow h
  have hedge := List.all_eq_true.1 (List.all_eq_true.1 entered_edges row (mem_rowList hrow))
    _ (Row.mem_edges hnext)
  exact (Option.any_eq_true _ _).1 hedge

/-- In a state a rule is in progress: its first symbols are read, and the table leads along the
others to a reduction by it. -/
structure Item (s number : Nat) (r : Rule) (read rest : List Symbol) : Prop where
  mem : (r, number) ∈ numbered
  body : r.body = read ++ rest
  leads : ∃ row, rowAt s = some row ∧ row.completes number rest = true

private theorem Row.completes_cons {row : Row} {number : Nat} {X : Symbol} {rest : List Symbol} :
    row.completes number (X :: rest) = true ↔
      ∃ q next, row.next X = some q ∧ rowAt q = some next ∧ next.completes number rest = true := by
  simp [Row.completes, Option.any_eq_true, Option.bind_eq_some_iff]
  aesop

private theorem Row.last_eq_of_entered {row : Row} {X Y : Symbol} (entered : row.entered X = true)
    {r : Rule} {number : Nat} (mem : (r, number) ∈ numbered) {read rest : List Symbol}
    (body : r.body = read ++ Y :: rest) (leads : row.completes number rest = true) : Y = X := by
  unfold Row.entered at entered
  rw [Bool.and_eq_true] at entered
  obtain ⟨complete, inside⟩ := entered
  cases rest with
  | nil =>
    have hnumber : number ∈ row.reductions := by simpa [Row.completes] using leads
    have hlast := List.all_eq_true.1 complete number hnumber
    rw [(mem_numbered.1 mem).2] at hlast
    have hboth : 0 < number ∧ Y = X := by simpa [body] using hlast
    exact hboth.2
  | cons Z rest =>
    obtain ⟨q, next, hnext, hq, hrest⟩ := Row.completes_cons.1 leads
    have hplaces := List.all_eq_true.1 inside _ (Row.mem_edges hnext)
    simp only [hq, Option.any_some] at hplaces
    have hplace := List.all_eq_true.1 hplaces _ (mem_places mem body)
    simpa [hrest] using hplace

theorem Row.exists_rule_of_entered {row : Row} {X : Symbol} (entered : row.entered X = true)
    {number : Nat} (mem : number ∈ row.reductions) : ∃ r, (r, number) ∈ numbered := by
  unfold Row.entered at entered
  rw [Bool.and_eq_true] at entered
  have hnumber := List.all_eq_true.1 entered.1 number mem
  rw [Bool.and_eq_true, Option.any_eq_true] at hnumber
  obtain ⟨pos, r, hr, -⟩ := hnumber
  exact ⟨r, mem_numbered.2 ⟨by simpa using pos, hr⟩⟩

/-- A rule in progress was in progress in the state before, and the table came from there at the
last symbol read. -/
theorem Item.back {p s number : Nat} {X Y : Symbol} {r : Rule} {read rest : List Symbol}
    (item : Item s number r (read ++ [Y]) rest) (h : follow p X = some s) :
    Y = X ∧ Item p number r read (Y :: rest) := by
  obtain ⟨row, hrow, entered⟩ := entered_of_follow h
  obtain ⟨row', hrow', leads⟩ := item.leads
  obtain rfl : row = row' := Option.some.inj (hrow.symm.trans hrow')
  have body : r.body = read ++ Y :: rest := by rw [item.body, List.append_assoc]; rfl
  obtain rfl := Row.last_eq_of_entered entered item.mem body leads
  obtain ⟨rowp, hrowp, hnext⟩ := rowAt_of_follow h
  exact ⟨rfl, item.mem, body, rowp, hrowp, Row.completes_cons.2 ⟨s, row, hnext, hrow, leads⟩⟩

/-- In the first state no rule has been begun. -/
theorem Item.read_eq_nil {number : Nat} {r : Rule} {read rest : List Symbol}
    (item : Item 0 number r read rest) : read = [] := by
  rcases List.eq_nil_or_concat read with hnil | ⟨read, Y, rfl⟩
  · exact hnil
  · obtain ⟨row, hrow, leads⟩ := item.leads
    have entered : row.entered .endMark = true := by simpa [hrow] using entered_start
    have body : r.body = read ++ Y :: rest := by
      rw [item.body, List.concat_eq_append, List.append_assoc]
      rfl
    obtain rfl := Row.last_eq_of_entered entered item.mem body leads
    have proper := proper_body r (mem_productions item.mem) .endMark (by simp [body])
    exact absurd rfl proper.1

theorem Item.exists_goto {s number : Nat} {r : Rule} {rest : List Symbol}
    (item : Item s number r [] rest) : ∃ g, follow s (.nonterminal r.head) = some g := by
  obtain ⟨row, hrow, leads⟩ := item.leads
  have body : r.body = rest := item.body
  cases rest with
  | nil =>
    exact absurd body (nonempty_body r (mem_productions item.mem))
  | cons X rest =>
    obtain ⟨q, next, hnext, hq, hrest⟩ := Row.completes_cons.1 leads
    have hopens := List.all_eq_true.1 opens_rows row (mem_rowList hrow)
    have hrules := List.all_eq_true.1 hopens _ (Row.mem_edges hnext)
    simp only [hq, Option.any_some] at hrules
    have hrule := List.all_eq_true.1 hrules _ (mem_rulesFrom item.mem body)
    have hgoto : (row.gotos.lookup r.head).isSome = true := by simpa [body, hrest] using hrule
    obtain ⟨g, hg⟩ := Option.isSome_iff_exists.1 hgoto
    exact ⟨g, by simp [follow, hrow, Row.next, hg]⟩

end Items

end CallByNeed.Language
