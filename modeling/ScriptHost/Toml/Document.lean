import ScriptHost.Toml.Statement

/-!
TOML documents: the table that the statements build up, one after another.
-/
namespace ScriptHost.Toml

/-- A document of which some statements are read. -/
structure Draft where
  root : Table := Table.empty
  /-- Where assignments go. -/
  path : List String := []
  deriving Inhabited

/-- Take a statement in. -/
def Draft.add? (draft : Draft) : Statement → Option Draft
  | .header key =>
    (draft.root.change? .passage (·.openHeader? key.last) key.path).map fun root =>
      ⟨root, key.path ++ [key.last]⟩
  | .item key =>
    (draft.root.change? .passage (·.addItem? key.last) key.path).map fun root =>
      ⟨root, key.path ++ [key.last]⟩
  | .assignment key value =>
    (draft.root.change? .passage (·.assign? key value) draft.path).map fun root =>
      { draft with root }

/-- The table that statements build up. -/
def ofStatements? (statements : List Statement) : Option Entries :=
  (statements.foldlM Draft.add? {}).map (·.root.entries)

/-- A byte order mark at the start is no part of the document. -/
def skipMark : List Char → List Char
  | '\ufeff' :: rest => rest
  | chars => chars

/-- Read a document. -/
def ofText? (text : String) : Option Entries :=
  (readStatements (skipMark text.toList)).bind ofStatements?

end ScriptHost.Toml
