import TokenGrammar.Toml.Text
/-!
Tables of TOML while a text is read. A table remembers how it came to be: a header opens it, a longer
header or an element of an array implies it, or dotted keys make it. What may still be added to it
depends on that; no key and no header is given twice.
-/

namespace TokenGrammar

namespace Toml

inductive Value where
  | text (content : String)
  | boolean (value : Bool)
  | number
  | moment
  | array (items : List Value)
  | table (entries : List (String × Value))

inductive TableKind where
  | opened
  | implied
  | dotted
  deriving DecidableEq

inductive Node where
  | leaf (value : Value)
  | table (kind : TableKind) (entries : List (String × Node))
  | tables (earlier : List (List (String × Node))) (last : List (String × Node))

abbrev Entries := List (String × Node)

namespace Entries

def change (key : String) (next : Option Node → Option Node) : Entries → Option Entries
  | [] => (next none).map fun node => [(key, node)]
  | (found, node) :: rest =>
      if found = key then (next (some node)).map fun changed => (found, changed) :: rest
      else (change key next rest).map ((found, node) :: ·)

/-- Changes the table at the end of a path, making the tables on the way. Dotted keys do not enter a
table that a header has opened. -/
def descend (dotted : Bool) (last : TableKind → Entries → Option Entries) :
    List String → TableKind → Entries → Option Entries
  | [], kind, entries => last kind entries
  | key :: path, _, entries =>
      change key (fun
        | none =>
            let kind := if dotted then .dotted else .implied
            (descend dotted last path kind []).map (.table kind)
        | some (.leaf _) => none
        | some (.tables earlier newest) =>
            (descend dotted last path .opened newest).map (.tables earlier)
        | some (.table kind inner) =>
            if dotted && kind = .opened then none
            else (descend dotted last path kind inner).map (.table kind)) entries

def assign (path : List String) (key : String) (value : Value) (entries : Entries) :
    Option Entries :=
  descend true (fun kind inner =>
    if decide (kind = .dotted) == path.isEmpty then none
    else
      change key (fun
        | none => some (.leaf value)
        | some _ => none) inner) path .opened entries

def openTable (path : List String) (key : String) (entries : Entries) : Option Entries :=
  descend false (fun _ inner =>
    change key (fun
      | none => some (.table .opened [])
      | some (.table .implied found) => some (.table .opened found)
      | some _ => none) inner) path .opened entries

def openElement (path : List String) (key : String) (entries : Entries) : Option Entries :=
  descend false (fun _ inner =>
    change key (fun
      | none => some (.tables [] [])
      | some (.tables earlier last) => some (.tables (earlier ++ [last]) [])
      | some _ => none) inner) path .opened entries

end Entries

mutual

def Node.value : Node → Value
  | .leaf value => value
  | .table _ entries => .table (valuesOf entries)
  | .tables earlier last => .array (tablesOf earlier ++ [.table (valuesOf last)])

def valuesOf : List (String × Node) → List (String × Value)
  | [] => []
  | (key, node) :: rest => (key, node.value) :: valuesOf rest

def tablesOf : List (List (String × Node)) → List Value
  | [] => []
  | entries :: rest => .table (valuesOf entries) :: tablesOf rest

end

end Toml

end TokenGrammar
