import CallByNeed.Language.Lexer
import CallByNeed.Proofs.Grammar.Parser
import CallByNeed.Proofs.Parse.Recovery

set_option autoImplicit false
set_option relaxedAutoImplicit false

/-!
Parsers that are built from a description of the language. Its rules are the language's with their
symbols as text, its precedences may be any. What such a parser reads without a complaint, the
language's own parser reads as a program.
-/

namespace CallByNeed.Language

private def allSymbols : List Symbol :=
  [.endMark, .error] ++ terminals.map .terminal ++
    [.start, .program, .structs, .struct, .fields, .field, .funcs, .func, .params, .param,
      .statements, .statement, .assignment, .declared, .dotted, .catchers, .catcher, .expression,
      .arguments].map .nonterminal

private theorem mem_allSymbols (s : Symbol) : s ∈ allSymbols := by
  cases s with
  | endMark => decide
  | error => decide
  | terminal t => cases t <;> decide
  | nonterminal n => cases n <;> decide

private theorem Symbol.label_injective : Function.Injective Symbol.label := by
  intro s s' h
  have nodup : (allSymbols.map Symbol.label).Nodup := by decide +kernel
  exact List.inj_on_of_nodup_map nodup (mem_allSymbols s) (mem_allSymbols s') h

def Rule.spelling (r : Rule) : String × List String :=
  (r.head.label, r.body.map Symbol.label)

private theorem spans_of_yields {rules : List (String × List String)}
    (hrules : rules ⊆ productions.map Rule.spelling) {texts word : List String}
    (h : LR.Yields rules texts word) {ss : List Symbol} (hss : texts = ss.map Symbol.label)
    {w : List Terminal} (hw : word = w.map Terminal.label) : Spans ss w := by
  induction h generalizing ss w with
  | nil =>
    obtain rfl := List.map_eq_nil_iff.1 hss.symm
    obtain rfl := List.map_eq_nil_iff.1 hw.symm
    exact .nil
  | keep X _ ih =>
    obtain ⟨s, ss, rfl, hs, htexts⟩ := List.map_eq_cons_iff.1 hss.symm
    obtain ⟨t, w, rfl, ht, hword⟩ := List.map_eq_cons_iff.1 hw.symm
    obtain rfl : s = .terminal t := Symbol.label_injective (hs.trans ht.symm)
    exact .terminal t (ih htexts.symm hword.symm)
  | rule mem _ _ body rest =>
    obtain ⟨s, ss, rfl, hs, htexts⟩ := List.map_eq_cons_iff.1 hss.symm
    obtain ⟨u, w, rfl, hu, hword⟩ := List.map_eq_append_iff.1 hw.symm
    obtain ⟨r, hr, spelling⟩ := List.mem_map.1 (hrules mem)
    obtain ⟨head, hbody⟩ := Prod.mk.inj spelling
    obtain rfl : s = .nonterminal r.head := Symbol.label_injective (hs.trans head.symm)
    exact .rule hr (body hbody.symm hu.symm) (rest htexts.symm hword.symm)

private theorem label_ne_endMark (t : Terminal) : t.label ≠ Grammar.endMark := by
  intro h
  have same : Symbol.terminal t = .endMark := Symbol.label_injective h
  cases same

/-- What a parser that is built from the rules of the language reads without a complaint, the
language's own parser reads as a program. -/
theorem runScan_of_generated {d : Grammar.Description} {tokens : List String}
    {findings : Grammar.Description.Findings} (found : d.reviewAll tokens = .ok findings)
    (hrules : findings.shapes ⊆ productions.map Rule.spelling)
    (hstart : findings.start? d.start = some Nonterminal.program.label) (o : Grammar.BuildOptions)
    (signature : String) :
    Answers (Grammar.buildNew d o tokens signature) fun product => product.parser.Willing →
      ∀ (options : Grammar.Parser.Options) (input : List (LR.Feed String Grammar.Value))
        (recovered : Bool) (content : LR.Content String Grammar.Value)
        (c : LR.Configuration String Grammar.Value CallFault) (ts : List Token),
        (∀ t ∈ ts, t.Fits) → input.map (·.token.symbol) = ts.map (·.kind.label) →
        product.parser.run options input recovered = (.done content, c) → c.Silent →
        ∀ line pos recovered', ∃ p c',
          runScan false false ⟨ts, line, pos, none⟩ recovered' = (.done (.value (.program p)), c') ∧
            c'.reports = [] := by
  refine (Grammar.soundFor_buildNew d o tokens signature).imp fun product sound willing options input
    recovered content c ts fits same hrun silent line pos recovered' => ?_
  obtain ⟨findings', name, found', hname, sound⟩ := sound
  obtain rfl := Except.ok.inj (found.symm.trans found')
  obtain rfl := Option.some.inj (hstart.symm.trans hname)
  have tokens : ∀ feed ∈ input, feed.token.symbol ≠ Grammar.endMark := by
    intro feed mem
    have mem' : feed.token.symbol ∈ ts.map (·.kind.label) := same ▸ List.mem_map_of_mem mem
    obtain ⟨t, -, ht⟩ := List.mem_map.1 mem'
    rw [← ht]
    exact label_ne_endMark t.kind
  have yields := sound willing options input recovered content c tokens hrun silent
  have word : input.map (·.token.symbol) = (ts.map Token.kind).map Terminal.label := by
    rw [same, List.map_map]
    rfl
  have sentence : Sentence (ts.map Token.kind) :=
    sentence_iff_spans.2 (spans_of_yields hrules yields rfl word)
  exact runScan_sentence fits line pos recovered' sentence

end CallByNeed.Language
