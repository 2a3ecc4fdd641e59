import CallByNeed.Proofs.Lexer.Rules
import CallByNeed.Proofs.Run

set_option autoImplicit false
set_option relaxedAutoImplicit false

/-!
The lexer that is built from the language's description and the language's scanner find the same
tokens in every text. Each step of the lexer takes one lexeme, as `Scans` does.
-/

namespace CallByNeed.Language

open Lexer (Description Journals Product Function View Run)

section Built

private theorem exists_ofTable {d : Description} {j j' : Journals} {product : Product}
    (h : (Lexer.buildLexer d {}).run.run j = (.ok product, j')) :
    ∃ table, product.lexer = Lexer.ofTable d true table := by
  obtain ⟨f, j₁, -, h⟩ := exists_of_run_bind h
  obtain ⟨table, j₂, -, h⟩ := exists_of_run_bind h
  cases h
  exact ⟨table, rfl⟩

private theorem lexer_eq : ∃ table, lexer = Lexer.ofTable lexerDescription true table := by
  have rules := lexer_table.1
  rcases hresult : (Lexer.buildLexer lexerDescription {}).run.run {} with ⟨fault | product, j⟩
  · have nothing : lexer = default := by
      rw [lexer, hresult]
      rfl
    rw [nothing] at rules
    cases rules
  · have built : lexer = product.lexer := by
      rw [lexer, hresult]
      rfl
    rw [built]
    exact exists_ofTable hresult

/-- A lexer has the rules and functions of the language. -/
structure Speaks (l : Lexer) : Prop where
  rules : ∀ (data : Array Char) (i : Nat),
    l.masters.findSome? (fun m => m.match? data i) = firstRule? data i lexerRules
  ignored : l.ignored = " \t"
  onEnd : l.onEnd = none
  members : l.members = lexerDescription.members
  methods : l.methods = false
  knows : ∀ t ∈ terminals, l.knows t.label = true

private theorem speaks_lexer : Speaks lexer := by
  obtain ⟨rules, ignored, onEnd, knows⟩ := lexer_table
  obtain ⟨table, built⟩ := lexer_eq
  obtain ⟨m, hm, hrules⟩ := List.map_eq_singleton_iff.1 rules
  refine ⟨fun data i => ?_, ignored, onEnd, ?_, ?_, knows⟩
  · rw [hm, List.findSome?_singleton, firstRule?, ← hrules, List.findSome?_map]
    rfl
  · rw [built]
    rfl
  · rw [built]
    rfl

end Built

section Scan

variable {l : Lexer} {data : Array Char} {i p line : Nat} {c : Char} {rest : List Char}

def standing (l : Lexer) (data : Array Char) (pos line : Nat) : Lexer :=
  { l with data := some data, pos := pos, line := line }

private theorem Speaks.anywhere (speaks : Speaks l) : Speaks (standing l data p line) :=
  ⟨speaks.rules, speaks.ignored, speaks.onEnd, speaks.members, speaks.methods, speaks.knows⟩

private theorem callee_eq (speaks : Speaks l) {name : String} {f : Function}
    (function : lexerDescription.members.get? name = some (.function f)) (arity : f.arity = 1) :
    (standing l data p line).callee name = some (.ok f) := by
  rw [Lexer.callee, speaks.anywhere.members, function]
  simp [CallFault.ofArity?, arity]

private theorem lt_size (h : data.toList.drop i = c :: rest) :
    (i : Int) < (View.mk (some data) " \t").size := by
  have bound : i < data.toList.length := by
    have hlength := congrArg List.length h
    rw [List.length_drop, List.length_cons] at hlength
    omega
  rw [Array.length_toList] at bound
  exact Int.ofNat_lt.2 bound

private theorem charAt_eq (h : data.toList.drop i = c :: rest) :
    (View.mk (some data) " \t").charAt i = .ok c := by
  have here : data[i]? = some c := by
    rw [← Array.getElem?_toList, ← List.head?_drop, h]
    rfl
  have nonneg : ¬ (i : Int) < 0 := by omega
  simp only [View.charAt, if_neg nonneg, Int.toNat_natCast, here]

private theorem scan_end (speaks : Speaks l) (h : data.toList.drop i = []) (fuel : Nat) :
    (Lexer.scan (fuel + 1) ⟨some data, " \t"⟩ i).run.run (standing l data p line) =
      (.ok none, standing l data (i + 1) line) := by
  have size : ¬ ((i : Int) < (View.mk (some data) " \t").size) := by
    have bound := List.drop_eq_nil_iff.1 h
    rw [Array.length_toList] at bound
    exact Int.not_lt.2 (Int.ofNat_le.2 bound)
  rw [Lexer.scan, run_get_bind, if_neg size, speaks.anywhere.onEnd]
  rfl

private theorem scan_blank (h : data.toList.drop i = c :: rest) (blank : c = ' ' ∨ c = '\t')
    (fuel : Nat) :
    (Lexer.scan (fuel + 1) ⟨some data, " \t"⟩ i).run.run (standing l data p line) =
      (Lexer.scan fuel ⟨some data, " \t"⟩ (i + 1 : Nat)).run.run (standing l data p line) := by
  have ignored : " \t".toList.contains c = true := by
    rcases blank with rfl | rfl <;> rfl
  rw [Lexer.scan, run_get_bind, if_pos (lt_size h), charAt_eq h, run_lift_bind, if_pos ignored]
  rfl

private theorem not_ignored (start : ¬(c = ' ' ∨ c = '\t')) :
    ¬ " \t".toList.contains c = true := by
  have chars : " \t".toList = [' ', '\t'] := rfl
  rw [chars, List.contains_iff_mem]
  simpa using start

def taken (data : Array Char) (i stop : Nat) : String :=
  String.ofList (data.extract i stop).toList

private theorem scan_token (speaks : Speaks l) (h : data.toList.drop i = c :: rest)
    (start : ¬(c = ' ' ∨ c = '\t')) {kind : String} {stop : Nat} (named : kind.isEmpty = false)
    (rule : firstRule? data i lexerRules = some (.token kind, stop)) (fuel : Nat) :
    (Lexer.scan (fuel + 1) ⟨some data, " \t"⟩ i).run.run (standing l data p line) =
      (.ok (some ⟨kind, .text (taken data i stop), line, i⟩), standing l data stop line) := by
  have ignored := not_ignored start
  rw [Lexer.scan, run_get_bind, if_pos (lt_size h), charAt_eq h, run_lift_bind, if_neg ignored]
  simp only [Int.toNat_natCast, Option.getD_some, speaks.anywhere.rules data i, rule, named]
  rfl

/-- How a lexer goes on after a function, by the function's answer. -/
def afterCall (fuel : Nat) (data : Array Char) (l : Lexer) :
    Except Lexer.Fault (Option Lexer.Token) → Except Lexer.Fault (Option Lexer.Token) × Lexer
  | .ok none => (Lexer.scan fuel ⟨some data, " \t"⟩ l.pos).run.run l
  | answer => (answer, l)

private theorem scan_call (speaks : Speaks l) (h : data.toList.drop i = c :: rest)
    (start : ¬(c = ' ' ∨ c = '\t')) {name kind : String} {stop line' : Nat} {f : Function}
    (rule : firstRule? data i lexerRules = some (.call name kind, stop))
    (function : lexerDescription.members.get? name = some (.function f)) (arity : f.arity = 1)
    (answer : Except Lexer.Fault (Option Lexer.Token))
    (performed : ∀ next, (Lexer.perform next f.steps
      ⟨kind, .text (taken data i stop), line, i⟩).run.run (standing l data stop line) =
        (answer, standing l data stop line'))
    (known : ∀ t, answer = .ok (some t) → l.knows t.kind = true) (fuel : Nat) :
    (Lexer.scan (fuel + 1) ⟨some data, " \t"⟩ i).run.run (standing l data p line) =
      afterCall fuel data (standing l data stop line') answer := by
  rw [Lexer.scan, run_get_bind, if_pos (lt_size h), charAt_eq h, run_lift_bind,
    if_neg (not_ignored start)]
  simp only [Int.toNat_natCast, Option.getD_some, speaks.anywhere.rules data i, rule,
    callee_eq speaks function arity]
  rw [run_modify_bind]
  rcases answer with fault | _ | t
  · exact run_bind_error (performed _)
  · refine (run_bind_ok (performed _)).trans ?_
    rw [run_get_bind, speaks.anywhere.ignored]
    rfl
  · refine (run_bind_ok (performed _)).trans ?_
    have checked : ((standing l data p line).checked && !(standing l data p line).knows t.kind) =
        false := by
      have hknows : (standing l data p line).knows t.kind = true := known t rfl
      rw [hknows, Bool.not_true, Bool.and_false]
    simp only [checked, Bool.false_eq_true, if_false]
    rfl

end Scan

section Content

private theorem not_isDigit_of_isBlank {c : Char} (h : Text.isBlank c = true) :
    Text.isDigit c = false := by
  let codes : List Nat := [9, 10, 11, 12, 13, 28, 29, 30, 31, 32, 0x85, 0xa0, 0x1680, 0x2000, 0x2001,
    0x2002, 0x2003, 0x2004, 0x2005, 0x2006, 0x2007, 0x2008, 0x2009, 0x200a, 0x2028, 0x2029, 0x202f,
    0x205f, 0x3000]
  have code : c.toNat ∈ codes := by
    simp only [Text.isBlank, Bool.or_eq_true, Bool.and_eq_true, decide_eq_true_eq, beq_iff_eq] at h
    simp only [codes, List.mem_cons, List.not_mem_nil, or_false]
    omega
  have all : codes.all (fun n => !Text.isDigit (Char.ofNat n)) = true := by decide +kernel
  have here := List.all_eq_true.1 all _ code
  rw [Char.ofNat_toNat] at here
  simpa using here

private theorem digitRun_digits {digits : List Char} (all : ∀ c ∈ digits, Text.isDigit c = true) :
    Text.digitRun digits = some (digits, []) := by
  have mark : '_' ∉ digits := fun mem => absurd (all '_' mem) (by decide)
  induction digits with
  | nil => rfl
  | cons c digits ih =>
    rw [List.forall_mem_cons] at all
    rw [List.mem_cons, not_or] at mark
    have rest := ih all.2 mark.2
    rw [Text.digitRun.eq_def]
    split
    · next h => cases h
    · next h =>
      obtain ⟨-, rfl⟩ := List.cons.inj h
      exact absurd List.mem_cons_self mark.2
    · next h =>
      obtain ⟨-, rfl⟩ := List.cons.inj h
      exact absurd List.mem_cons_self mark.2
    · next h =>
      obtain ⟨rfl, rfl⟩ := List.cons.inj h
      rw [if_pos all.1, rest]
      rfl

private theorem readInteger_digits {digits : List Char} (nonempty : digits ≠ [])
    (all : ∀ c ∈ digits, Text.isDigit c = true) :
    Text.readInteger (String.ofList digits) = (Text.readDigits digits).map Int.ofNat := by
  obtain ⟨c, cs, rfl⟩ := List.exists_cons_of_ne_nil nonempty
  have digit := all c List.mem_cons_self
  have blank : Text.isNumberBlank c = false := by
    rw [Bool.eq_false_iff]
    intro h
    rw [Text.isNumberBlank, Bool.and_eq_true] at h
    rw [not_isDigit_of_isBlank h.1] at digit
    cases digit
  have sign : Text.takeSign (c :: cs) = (1, c :: cs) := by
    unfold Text.takeSign
    split
    · next h =>
      rw [(List.cons.inj h).1] at digit
      exact absurd digit (by decide)
    · next h =>
      rw [(List.cons.inj h).1] at digit
      exact absurd digit (by decide)
    · rfl
  rw [Text.readInteger, String.toList_ofList, List.dropWhile_cons_of_neg (by simp [blank]), sign]
  simp only [digitRun_digits all, List.isEmpty_cons, Bool.false_eq_true, if_false]
  cases Text.readDigits (c :: cs) with
  | error fault => rfl
  | ok n => simp [Except.map]

end Content

section Lexemes

def Payload.content : Payload → Lexer.Content
  | .number n => .number n
  | .text s => .text s

def Token.lexed (t : Token) : Lexer.Token :=
  ⟨t.kind.label, t.payload.content, t.line, t.pos⟩

variable {l : Lexer} {data : Array Char} {i p line : Nat}

private theorem mem_terminals (t : Terminal) : t ∈ terminals := by
  cases t <;> decide

private theorem known_of_lexed (speaks : Speaks l) {t : Token} (u : Lexer.Token)
    (h : (.ok (some t.lexed) : Except Lexer.Fault (Option Lexer.Token)) = .ok (some u)) :
    l.knows u.kind = true := by
  cases h
  exact speaks.knows _ (mem_terminals t.kind)

private theorem taken_eq {text rest : List Char} (h : data.toList.drop i = text ++ rest) :
    taken data i (i + text.length) = String.ofList text := by
  rw [taken, Array.toList_extract, List.extract_eq_take_drop, Nat.add_sub_cancel_left, h,
    List.take_left]

private theorem ofWord_label (word : String) :
    ((reservedWords.map fun entry => (entry.1, entry.2.label)).lookup word).getD Terminal.name.label =
      (Terminal.ofWord word).label := by
  rw [Terminal.ofWord]
  generalize reservedWords = words
  induction words with
  | nil => rfl
  | cons entry words ih =>
    rw [List.map_cons, List.lookup_cons, List.lookup_cons]
    cases word == entry.1 with
    | true => rfl
    | false => exact ih

private theorem label_nonempty (t : Terminal) : t.label.isEmpty = false := by
  cases t <;> decide

section Functions

private theorem get?_number : lexerDescription.members.get? "t_NUMBER" =
    some (.function { line := 1, pattern := some "\\d+", steps := [.integer, .keep] }) := rfl

private theorem get?_word : lexerDescription.members.get? "t_NAME" =
    some (.function { line := 2, pattern := some "[A-Za-z_][\\w_]*"
                      steps := [.classify (reservedWords.map fun entry => (entry.1, entry.2.label))
                        Terminal.name.label, .keep] }) := rfl

private theorem get?_newline : lexerDescription.members.get? "t_newline" =
    some (.function { line := 3, pattern := some "\\n+", steps := [.countLines] }) := rfl

private theorem get?_comment : lexerDescription.members.get? "t_comment" =
    some (.function { line := 4, pattern := some "/\\*(.|\\n)*?\\*/", steps := [.countLines] }) :=
  rfl

private theorem get?_string : lexerDescription.members.get? "t_STRING" =
    some (.function { line := 5, pattern := some "\".*?\"", steps := [.unquote, .keep] }) := rfl

end Functions

private theorem Speaks.scan_takes (speaks : Speaks l) {s after : List Char} {x : Lexeme}
    (text : data.toList.drop i = s) (start : Unblank s) (takes : Takes s x after) (fuel : Nat) :
    (∀ fault, x.token? line i = .error fault →
      (Lexer.scan (fuel + 1) ⟨some data, " \t"⟩ i).run.run (standing l data p line) =
        (.error (.integer fault), standing l data (i + x.text.length) line)) ∧
    (∀ t, x.token? line i = .ok (some t) →
      (Lexer.scan (fuel + 1) ⟨some data, " \t"⟩ i).run.run (standing l data p line) =
        (.ok (some t.lexed), standing l data (i + x.text.length) line)) ∧
    (x.token? line i = .ok none →
      (Lexer.scan (fuel + 1) ⟨some data, " \t"⟩ i).run.run (standing l data p line) =
        (Lexer.scan fuel ⟨some data, " \t"⟩ (i + x.text.length : Nat)).run.run
          (standing l data (i + x.text.length) (line + x.lines))) := by
  obtain ⟨c, rest, rfl⟩ : ∃ c rest, s = c :: rest := by
    cases s with
    | nil => exact absurd takes.eq_append (by simp [takes.text_ne_nil])
    | cons c rest => exact ⟨c, rest, rfl⟩
  have unblank : ¬(c = ' ' ∨ c = '\t') := start c rfl
  have rule := firstRule?_lexerRules text
  rw [takes.takeLexeme_eq] at rule
  have lexeme := taken_eq (text.trans takes.eq_append)
  generalize hstop : i + x.text.length = stop at rule lexeme ⊢
  cases x with
  | number digits =>
    have all : ∀ x ∈ digits, Text.isDigit x = true := by
      cases takes with
      | number all _ => exact all
    have read : Text.readInteger (String.ofList digits) = _ :=
      readInteger_digits takes.text_ne_nil all
    simp only [Lexeme.token?]
    cases value : Text.readDigits digits with
    | error fault =>
      refine ⟨fun fault' faulty => ?_, fun t gives => (by cases gives), fun gives => (by cases gives)⟩
      cases faulty
      refine scan_call speaks text unblank rule get?_number rfl (.error _) (fun next => ?_)
        (fun t gives => (by cases gives)) fuel
      simp only [lexeme, Lexeme.text, Lexer.perform, read, value]
      rfl
    | ok n =>
      refine ⟨fun fault faulty => (by cases faulty), fun t gives => ?_, fun gives => (by cases gives)⟩
      cases gives
      refine scan_call speaks text unblank rule get?_number rfl _ (fun next => ?_)
        (known_of_lexed speaks) fuel
      simp only [lexeme, Lexeme.text, Lexer.perform, read, value]
      rfl
  | word spelling =>
    refine ⟨fun fault faulty => (by cases faulty), fun t gives => ?_, fun gives => (by cases gives)⟩
    cases gives
    refine scan_call speaks text unblank rule get?_word rfl _ (fun next => ?_)
      (known_of_lexed speaks) fuel
    simp only [lexeme, Lexeme.text, Lexer.perform, Lexer.withText, ofWord_label]
    rfl
  | newlines feeds =>
    refine ⟨fun fault faulty => (by cases faulty), fun t gives => (by cases gives), fun _ => ?_⟩
    refine scan_call speaks text unblank rule get?_newline rfl (.ok none) (fun next => ?_)
      (fun t gives => (by cases gives)) fuel
    simp only [lexeme, Lexeme.text, Lexer.perform, Lexer.withText, String.toList_ofList]
    rfl
  | comment body =>
    refine ⟨fun fault faulty => (by cases faulty), fun t gives => (by cases gives), fun _ => ?_⟩
    refine scan_call speaks text unblank rule get?_comment rfl (.ok none) (fun next => ?_)
      (fun t gives => (by cases gives)) fuel
    simp only [lexeme, Lexeme.text, Lexer.perform, Lexer.withText, String.toList_ofList]
    rfl
  | string body =>
    refine ⟨fun fault faulty => (by cases faulty), fun t gives => ?_, fun gives => (by cases gives)⟩
    cases gives
    refine scan_call speaks text unblank rule get?_string rfl _ (fun next => ?_)
      (known_of_lexed speaks) fuel
    simp only [lexeme, Lexeme.text, Lexer.perform, Lexer.withText, String.toList_ofList,
      List.cons_append, List.drop_succ_cons, List.drop_zero, List.dropLast_concat]
    rfl
  | mark kind sign =>
    refine ⟨fun fault faulty => (by cases faulty), fun t gives => ?_, fun gives => (by cases gives)⟩
    cases gives
    rw [scan_token speaks text unblank (label_nonempty kind) rule, lexeme]
    rfl

end Lexemes

section Tokens

variable {l : Lexer} {data : Array Char}

/-- How a lexer ends where the scanner finds no more tokens. -/
def Scan.ending (x : Scan) : Except Lexer.Fault (Option Lexer.Token) :=
  match x.fault? with
  | none => .ok none
  | some fault => .error (.integer fault)

private theorem lines_of_token {x : Lexeme} {line pos : Nat} {t : Token}
    (gives : x.token? line pos = .ok (some t)) : x.lines = 0 := by
  cases x with
  | number digits | word text | string body | mark kind text => rfl
  | newlines text | comment text => cases gives

private theorem length_tokens_le {line i : Nat} {s : List Char} {x : Scan}
    (h : Scans line i s x) : x.tokens.length ≤ s.length := by
  induction h with
  | done | fault => exact Nat.zero_le _
  | blank gap rest ih => exact Nat.le_succ_of_le ih
  | token start takes gives rest ih =>
    have taken := List.length_pos_of_ne_nil takes.text_ne_nil
    rw [takes.eq_append, List.length_append, List.length_cons]
    omega
  | skip start takes gives rest ih =>
    rw [takes.eq_append, List.length_append]
    omega

/-- A lexer that is asked for a token gives the first that the scanner finds, and stands where the
scanner goes on. -/
private theorem Speaks.scan_scans (speaks : Speaks l) {line i : Nat} {s : List Char} {x : Scan}
    (h : Scans line i s x) (text : data.toList.drop i = s) {fuel : Nat} (enough : s.length < fuel)
    (p : Nat) :
    (x.tokens = [] ∧
      (Lexer.scan fuel ⟨some data, " \t"⟩ i).run.run (standing l data p line) =
        (x.ending, standing l data x.pos x.line)) ∨
    ∃ t y j line' s', x = { y with tokens := t :: y.tokens } ∧
      (Lexer.scan fuel ⟨some data, " \t"⟩ i).run.run (standing l data p line) =
        (.ok (some t.lexed), standing l data j line') ∧
      data.toList.drop j = s' ∧ Scans line' j s' y := by
  obtain ⟨fuel, rfl⟩ : ∃ n, fuel = n + 1 := ⟨fuel - 1, by omega⟩
  induction h generalizing fuel p with
  | done => exact .inl ⟨rfl, scan_end speaks text fuel⟩
  | @blank line i c s x gap rest ih =>
    have next : data.toList.drop (i + 1) = s := by
      rw [← List.tail_drop, text]
      rfl
    rw [List.length_cons] at enough
    obtain ⟨fuel, rfl⟩ : ∃ n, fuel = n + 1 := ⟨fuel - 1, by omega⟩
    rw [scan_blank text gap]
    exact ih next p fuel (by omega)
  | @fault line i s after x fault start takes faulty =>
    exact .inl ⟨rfl, (speaks.scan_takes text start takes fuel).1 fault faulty⟩
  | @token line i s after x t y start takes gives rest _ =>
    have next : data.toList.drop (i + x.text.length) = after := by
      rw [← List.drop_drop, text, takes.eq_append, List.drop_left]
    rw [lines_of_token gives] at rest
    exact .inr ⟨t, y, _, _, after, rfl, (speaks.scan_takes text start takes fuel).2.1 t gives, next, rest⟩
  | @skip line i s after x y start takes gives rest ih =>
    have next : data.toList.drop (i + x.text.length) = after := by
      rw [← List.drop_drop, text, takes.eq_append, List.drop_left]
    have shorter : after.length < s.length := by
      have := List.length_pos_of_ne_nil takes.text_ne_nil
      rw [takes.eq_append, List.length_append]
      omega
    obtain ⟨fuel, rfl⟩ : ∃ n, fuel = n + 1 := ⟨fuel - 1, by omega⟩
    rw [(speaks.scan_takes text start takes (fuel + 1)).2.2 gives]
    exact ih next _ fuel (by omega)

private theorem length_lt_scanLimit (l : Lexer) (data : Array Char) (i line : Nat) :
    (data.toList.drop i).length < (standing l data i line).scanLimit := by
  rw [List.length_drop, Array.length_toList]
  change _ < 64 * data.size + 64 * (i : Int).natAbs + 4096
  omega

private theorem Speaks.token_eq (speaks : Speaks l) (i line : Nat) :
    Lexer.token.run.run (standing l data i line) =
      (Lexer.scan (standing l data i line).scanLimit ⟨some data, " \t"⟩ i).run.run
        (standing l data i line) := by
  rw [Lexer.token, run_get_bind, speaks.anywhere.ignored]
  rfl

/-- Asked for one token after the other a lexer gives all that the scanner finds. -/
private theorem Speaks.collect_scans (speaks : Speaks l) {line i : Nat} {x : Scan}
    (h : Scans line i (data.toList.drop i) x) {fuel : Nat} (enough : x.tokens.length < fuel)
    (found : Array Lexer.Token) :
    Lexer.collect fuel (standing l data i line) found =
      (found ++ (x.tokens.map Token.lexed).toArray, x.fault?.map .integer,
        standing l data x.pos x.line) := by
  induction fuel generalizing line i x found with
  | zero => omega
  | succ fuel ih =>
    rw [Lexer.collect, speaks.token_eq]
    rcases speaks.scan_scans h rfl (length_lt_scanLimit l data i line) i with
      ⟨none, step⟩ | ⟨t, y, j, line', _, rfl, step, rfl, rest⟩
    · rw [step, none]
      obtain ⟨tokens, line', pos, fault | fault⟩ := x <;> simp [Scan.ending]
    · rw [step]
      rw [List.length_cons] at enough
      refine (ih rest (by omega) (found.push t.lexed)).trans ?_
      simp

private theorem feed_lexer (source : String) :
    ((Lexer.feed source).run.run lexer).2 = standing lexer source.toList.toArray 0 1 := by
  obtain ⟨table, built⟩ := lexer_eq
  have line : lexer.line = (1 : Nat) := by
    rw [built]
    rfl
  rw [standing, ← line]
  rfl

/-- The lexer that is built from the description of the language gives the tokens of the scanner,
with the same contents, lines and positions. It stops at the same fault, and ends in the same line
and at the same position. -/
theorem tokens_lexer_eq_scan (source : String) :
    (((Lexer.feed source).run.run lexer).2).tokens =
      (((scan source).tokens.map Token.lexed).toArray, (scan source).fault?.map .integer,
        { lexer with
          data := some source.toList.toArray
          pos := (scan source).pos
          line := (scan source).line }) := by
  have scans : Scans 1 0 (source.toList.toArray.toList.drop 0) (scan source) :=
    scans_scanFrom 1 0 source.toList
  have enough := Nat.lt_of_le_of_lt (length_tokens_le scans)
    (length_lt_scanLimit lexer source.toList.toArray 0 1)
  rw [feed_lexer, Lexer.tokens, speaks_lexer.collect_scans scans enough, Array.empty_append, standing]

end Tokens

end CallByNeed.Language
