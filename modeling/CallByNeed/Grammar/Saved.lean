import CallByNeed.Grammar.Parser

set_option autoImplicit false
set_option relaxedAutoImplicit false

/-!
Tables saved for a later parser, and the text of the file that holds them. The file lists the
actions and gotos by symbol.
-/

namespace CallByNeed.Grammar

def tableVersion : String := "3.10"

structure SavedRule where
  text : String
  name : String
  size : Nat
  /-- The name of the action and where it is defined. -/
  action : Option (String × Site)
deriving Inhabited

structure Saved where
  version : String := tableVersion
  method : Method
  signature : String
  actions : Array ActionRow
  gotos : Array (OrderedMap Nat)
  rules : List SavedRule
deriving Inhabited

def Saved.ofTables (tables : Tables) (rules : List Production) (signature : String) : Saved :=
  { method := tables.method, signature := signature, actions := tables.actions
    gotos := tables.gotos
    rules := rules.map fun p =>
      ⟨p.text, p.name, p.symbols.length, p.action.map fun name => (name, p.site)⟩ }

def bySymbol {α : Type} (rows : Array (OrderedMap α)) : OrderedMap (List (Nat × α)) :=
  rows.toList.zipIdx.foldl (fun m (row, state) =>
    row.entries.foldl (fun m (symbol, value) =>
      (m.insertNew symbol []).modify symbol (· ++ [(state, value)])) m) {}

def rowsText {α : Type} (value : α → String) (rows : Array (OrderedMap α)) : String :=
  let items := (bySymbol rows).entries.map fun (symbol, entries) =>
    Text.quoted symbol ++ ":([" ++ String.join (entries.map fun e => toString e.1 ++ ",") ++
      "],[" ++ String.join (entries.map fun e => value e.2 ++ ",") ++ "]),"
  "\x7b" ++ String.join items ++ "\x7d\n"

def actionText : Option LR.Action → String
  | none => "None"
  | some (.shift state) => toString state
  | some (.reduce rule) => toString (-(rule : Int))
  | some .accept => "0"

def SavedRule.line (r : SavedRule) : String :=
  let start := "  (" ++ Text.quoted r.text ++ "," ++ Text.quoted r.name ++ "," ++ toString r.size
  match r.action with
  | none => start ++ ",None,None,None),\n"
  | some (name, site) =>
    start ++ "," ++ Text.quoted name ++ "," ++ Text.quoted site.file ++ "," ++
      toString site.line ++ "),\n"

def Saved.render (s : Saved) (fileName : String) : String :=
  "\n# " ++ fileName ++ "\n# This file is automatically generated. Do not edit.\n" ++
  "# pylint: disable=W,C,R\n_tabversion = " ++ Text.quoted s.version ++
  "\n\n_lr_method = " ++ Text.quoted s.method.text ++
  "\n\n_lr_signature = " ++ Text.quoted s.signature ++ "\n    " ++
  "\n_lr_action_items = " ++ rowsText actionText s.actions ++
  "\n_lr_action = \x7b\x7d\nfor _k, _v in _lr_action_items.items():\n" ++
  "   for _x,_y in zip(_v[0],_v[1]):\n" ++
  "      if not _x in _lr_action:  _lr_action[_x] = \x7b\x7d\n" ++
  "      _lr_action[_x][_k] = _y\ndel _lr_action_items\n" ++
  "\n_lr_goto_items = " ++ rowsText toString s.gotos ++
  "\n_lr_goto = \x7b\x7d\nfor _k, _v in _lr_goto_items.items():\n" ++
  "   for _x, _y in zip(_v[0], _v[1]):\n" ++
  "       if not _x in _lr_goto: _lr_goto[_x] = \x7b\x7d\n" ++
  "       _lr_goto[_x][_k] = _y\ndel _lr_goto_items\n" ++
  "_lr_productions = [\n" ++ String.join (s.rules.map SavedRule.line) ++ "]\n"

end CallByNeed.Grammar
