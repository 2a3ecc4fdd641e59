import CallByNeed.Proofs.Parse.Recovery
import CallByNeed.Proofs.Print.Layout
import CallByNeed.Proofs.Print.Reread

set_option autoImplicit false
set_option relaxedAutoImplicit false

/-!
Parsing undoes printing: however a well-formed program is laid out as text, the parser gives it back
and reports nothing.
-/

namespace CallByNeed.Language

theorem Program.WellFormed.parse_eq {p : Program} (h : p.WellFormed) {source : String}
    (finds : (scan source).Finds p.spell) :
    (parse source).result = .ok p ∧ (parse source).printed = "" := by
  have fits := fits_scan source
  rw [parse]
  generalize scan source = scanned at finds fits ⊢
  obtain ⟨ts, line, pos, fault⟩ := scanned
  obtain ⟨hsigns, hfault⟩ := finds
  have hnone : fault = none := hfault
  subst hnone
  have hgives := ((Program.spells h).reading ts hsigns).gives
  have sentence : Sentence (ts.map Token.kind) := by
    cases hgives
    assumption
  obtain ⟨phrase, c, hrun, hlast, hreports⟩ := runScan_eq fits line pos true
  rw [segments_viable sentence.viable] at hlast hreports
  obtain rfl := hlast.unique hgives
  have hquiet : c.reports = [] := by
    simpa [Segments.reported, Segments.errors, sentence] using hreports
  rw [parseScan, hrun]
  refine ⟨rfl, ?_⟩
  have hprinted : (Parse.ofRun (.done (.value (.program p))) c).printed =
      String.join (c.reports.reverse.map errorLine) := rfl
  rw [hprinted, hquiet]
  rfl

/-- The program as text, with a blank after each sign. -/
def Program.render (p : Program) : String :=
  String.ofList (p.spell.flatMap fun g => Sign.text g ++ [' '])

private theorem endsBefore_blank (g : Sign) : Sign.endsBefore g ' ' = true := by
  obtain ⟨kind, payload⟩ := g
  cases kind <;> rfl

private theorem layout_blanks (signs : List Sign) :
    Layout signs (signs.flatMap fun g => Sign.text g ++ [' ']) := by
  induction signs with
  | nil => exact .nil
  | cons g signs ih =>
    rw [List.flatMap_cons, List.append_assoc]
    refine .sign (fun c hc => ?_) (.blank rfl ih)
    cases hc
    exact endsBefore_blank g

theorem Program.layout_render (p : Program) : Layout p.spell p.render.toList := by
  rw [Program.render, String.toList_ofList]
  exact layout_blanks p.spell

theorem wellFormed_single {name : String} {body : List Stmt} (hname : IsName name)
    (filled : Stmt.FilledBlock body) (writable : Stmt.AllWritable body) :
    Program.WellFormed ⟨[], [⟨name, [], none, body⟩]⟩ := by
  refine ⟨⟨by simp, by simp, ?_⟩, by simp, ?_⟩
  · simpa [Func.Filled] using filled
  · simpa [Func.Writable] using ⟨hname, writable⟩

/-- The parser gives back every well-formed program from its rendering, and from all other layouts
of its spelling, and prints nothing. -/
theorem parse_undoes_print {p : Program} (h : p.WellFormed) :
    ((parse p.render).result = .ok p ∧ (parse p.render).printed = "") ∧
      ∀ source : String, Layout p.spell source.toList →
        (parse source).result = .ok p ∧ (parse source).printed = "" := by
  have laid : ∀ source : String, Layout p.spell source.toList →
      (parse source).result = .ok p ∧ (parse source).printed = "" := by
    intro source layout
    have finds := layout.finds (Program.spells h).valid 1 0
    exact h.parse_eq finds
  exact ⟨laid p.render p.layout_render, laid⟩

theorem parse_undoes_print_operators :
    (parse "func main ( ) \x7b return 1 - ( 2 - 3 ) * - x . y ; \x7d ").result =
      .ok ⟨[], [⟨"main", [], none, [.ret (some (.binary .sub (.int 1)
        (.binary .mul (.binary .sub (.int 2) (.int 3)) (.unary .neg (.var "x.y")))))]⟩]⟩ := by
  let e : Expr := .binary .sub (.int 1)
    (.binary .mul (.binary .sub (.int 2) (.int 3)) (.unary .neg (.var "x.y")))
  let p : Program := ⟨[], [⟨"main", [], none, [.ret (some e)]⟩]⟩
  have he : e.Writable := by
    simp only [e, Expr.Writable]
    decide
  have h : p.WellFormed :=
    wellFormed_single (by decide) ⟨List.cons_ne_nil _ _, trivial, trivial⟩ ⟨he, trivial⟩
  have hrender : p.render = "func main ( ) \x7b return 1 - ( 2 - 3 ) * - x . y ; \x7d " := by
    decide
  rw [← hrender]
  exact (parse_undoes_print h).1.1

end CallByNeed.Language
