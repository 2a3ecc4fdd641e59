import CallByNeed.Grammar.Generator
import CallByNeed.Language.Interpreter
import CallByNeed.Language.Lexer
import CallByNeed.Language.Workspace
import CallByNeed.Lexer.Bench
import CallByNeed.Proofs.ByName.Lazy
import CallByNeed.Proofs.Commute.Order
import CallByNeed.Proofs.Exception.Routing
import CallByNeed.Proofs.Fault.Escape
import CallByNeed.Proofs.Grammar.Language
import CallByNeed.Proofs.Heap.Update
import CallByNeed.Proofs.History.Reset
import CallByNeed.Proofs.Lexer.Agreement
import CallByNeed.Proofs.Parse.Shape
import CallByNeed.Proofs.Scope.Balance
import CallByNeed.Proofs.Unforced.Influence
import CallByNeed.Proofs.Unforced.Place
import CallByNeed.Proofs.Value.Soundness
import CallByNeed.Proofs.Scan.Coverage
import CallByNeed.Proofs.Parse.Names
import CallByNeed.Proofs.Scan.Stability
import CallByNeed.Proofs.Parse.Course
import CallByNeed.Proofs.Scan.Stray
import CallByNeed.Proofs.Scope.Plain
import CallByNeed.Proofs.Scope.Refusal
import CallByNeed.Proofs.Value.Equality
