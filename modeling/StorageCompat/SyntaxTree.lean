import StorageCompat.Log
import StorageCompat.Value.Access

/-!
Syntax trees of compiled sources. A tree is a value whose nodes are objects that name their
kind; a search lists the nodes of a kind in document order, each before whatever is nested
in it. Compiler output holds one tree per source file, and a search for a contract reads no
file behind the one that has it.
-/

namespace StorageCompat.SyntaxTree

inductive NodeKind where
  | exactly (kind : Value)
  | anyOf (kinds : List Value)

def entryOrNull (name : String) (entries : List (String × Value)) : Value :=
  (entries.lookup name).getD .null

def kindOf (entries : List (String × Value)) : Value :=
  entryOrNull "nodeType" entries

def NodeKind.accepts : NodeKind → Value → Bool
  | .exactly kind, named => named.same kind
  | .anyOf kinds, named =>
      kinds.any fun kind => named.same kind || (named.isNan && kind.isNan)

def isNode (kind : NodeKind) : Value → Bool
  | .object entries => kind.accepts (kindOf entries)
  | _ => false

mutual

def nodesOf (kind : NodeKind) : Value → List Value
  | .object entries =>
      (if kind.accepts (kindOf entries) then [.object entries] else []) ++
        nodesOfEntries kind entries
  | .list items => nodesOfItems kind items
  | _ => []
termination_by structural value => value

def nodesOfItems (kind : NodeKind) : List Value → List Value
  | [] => []
  | value :: rest => nodesOf kind value ++ nodesOfItems kind rest
termination_by structural items => items

def nodesOfEntries (kind : NodeKind) : List (String × Value) → List Value
  | [] => []
  | (_, value) :: rest => nodesOf kind value ++ nodesOfEntries kind rest
termination_by structural entries => entries

end

def sourceUnit : NodeKind := .exactly (.text "SourceUnit")

def contractDefinition : NodeKind := .exactly (.text "ContractDefinition")

def files (source : Value) : Except Fault (List (String × Value)) := do
  match ← source.entry? "sources" with
  | some files => files.entries
  | none => return []

def tree? (path : String) (file : Value) : Logged (Option Value) := do
  match ← file.entry? "ast" with
  | none | some .null =>
      Logged.note .debug ("跳过无 AST 的源文件: " ++ path)
      return none
  | some tree => return some tree

def trees (source : Value) : Logged (List Value) := do
  if isNode sourceUnit source then return [source]
  let found ← files source
  found.filterMapM fun file => tree? file.1 file.2

def hasName (name : Value) : Value → Bool
  | .object entries => (entryOrNull "name" entries).same name
  | _ => false

def contractIn? (name tree : Value) : Option Value :=
  (nodesOf contractDefinition tree).find? (hasName name)

/-- The first contract of a name in files that are read one after another, up to the one
that has it. -/
def contractAmong? (name : Value) : List (String × Value) → Logged (Option Value)
  | [] => pure none
  | (path, file) :: rest => do
      let tree ← tree? path file
      match tree.bind (contractIn? name) with
      | some contract => return some contract
      | none => contractAmong? name rest

def contract? (source name : Value) : Logged (Option Value) := do
  if isNode sourceUnit source then return contractIn? name source
  let found ← files source
  contractAmong? name found

def contract (source name : Value) : Logged Value := do
  match ← contract? source name with
  | some contract => return contract
  | none => throw (.contractNotFound name)

end StorageCompat.SyntaxTree
