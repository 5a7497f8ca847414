import GridWalk.Text.Quoted
/-! The written form of a value for diagnosis: names, fields and members, on one line or indented.
An indented outline puts each field or member on its own line, four columns further in. -/
namespace GridWalk

inductive Outline where
  | leaf (text : String)
  | field (name : String) (value : Outline)
  | record (name : String) (fields : List Outline)
  | set (members : List Outline)
  | list (members : List Outline)

namespace Outline

mutual
def compact : Outline → String
  | leaf text => text
  | field name value => name ++ ": " ++ compact value
  | record name fields => name ++ " \x7b " ++ ", ".intercalate (compactAll fields) ++ " \x7d"
  | set members => "\x7b" ++ ", ".intercalate (compactAll members) ++ "\x7d"
  | list members => "[" ++ ", ".intercalate (compactAll members) ++ "]"

def compactAll : List Outline → List String
  | [] => []
  | o :: rest => compact o :: compactAll rest
end

theorem compactAll_eq_map (os : List Outline) : compactAll os = os.map compact := by
  induction os with
  | nil => rfl
  | cons o rest ih => simp [compactAll, ih]

def margin (depth : Nat) : String := String.ofList (List.replicate (4 * depth) ' ')

def enclose (depth : Nat) (opening closing : String) (lines : List String) : String :=
  if lines.isEmpty then opening ++ closing
  else opening ++ "\n" ++ String.join lines ++ margin depth ++ closing

mutual
def indented (depth : Nat) : Outline → String
  | leaf text => text
  | field name value => name ++ ": " ++ indented depth value
  | record name fields => enclose depth (name ++ " \x7b") "\x7d" (indentedAll (depth + 1) fields)
  | set members => enclose depth "\x7b" "\x7d" (indentedAll (depth + 1) members)
  | list members => enclose depth "[" "]" (indentedAll (depth + 1) members)

def indentedAll (depth : Nat) : List Outline → List String
  | [] => []
  | o :: rest => (margin depth ++ indented depth o ++ ",\n") :: indentedAll depth rest
end

theorem indentedAll_eq_map (depth : Nat) (os : List Outline) :
    indentedAll depth os = os.map fun o => margin depth ++ indented depth o ++ ",\n" := by
  induction os with
  | nil => rfl
  | cons o rest ih => simp [indentedAll, ih]

def render (pretty : Bool) (o : Outline) : String :=
  if pretty then o.indented 0 else o.compact

def natural (n : Nat) : Outline := leaf (toString n)

def integer (n : Int) : Outline := leaf (toString n)

def text (s : String) : Outline := leaf (Text.quoted s)

end Outline

class Outlined (α : Type) where
  outline : α → Outline

def describe {α : Type} [Outlined α] (a : α) (pretty : Bool := false) : String :=
  (Outlined.outline a).render pretty

instance {α : Type} [Outlined α] : Outlined (List α) where
  outline l := .list (l.map Outlined.outline)

end GridWalk
