import CallScript.Journal

/-! What is wrong with data that comes from outside, and where in it. All complaints about a record are
made at once, in the order of its fields. -/
namespace CallScript

inductive Locator where
  | field (name : String)
  | item (index : Nat)
  deriving DecidableEq, Repr

inductive Flaw where
  | missing
  | unreadable
  | notRecord
  | notText
  | notList
  | notDictionary
  | unknownLevel
  deriving DecidableEq, Repr

def Flaw.code : Flaw → String
  | .missing => "missing"
  | .unreadable => "json_invalid"
  | .notRecord => "model_attributes_type"
  | .notText => "string_type"
  | .notList => "list_type"
  | .notDictionary => "dict_type"
  | .unknownLevel => "value_error"

def Flaw.message : Flaw → String
  | .missing => "Field required"
  | .unreadable => "JSON decode error"
  | .notRecord => "Input should be a valid dictionary or object to extract fields from"
  | .notText => "Input should be a valid string"
  | .notList => "Input should be a valid list"
  | .notDictionary => "Input should be a valid dictionary"
  | .unknownLevel => "Value error, log_level must be one of " ++ ", ".intercalate (Level.all.map Level.name)

structure Complaint where
  flaw : Flaw
  place : List Locator
  deriving DecidableEq, Repr

abbrev Checked (α : Type) := Except (List Complaint) α

def complain {α : Type} (flaw : Flaw) (place : List Locator) : Checked α :=
  .error [⟨flaw, place⟩]

def Checked.complaints {α : Type} : Checked α → List Complaint
  | .ok _ => []
  | .error complaints => complaints

def Checked.pair {α β : Type} (a : Checked α) (b : Checked β) : Checked (α × β) :=
  match a, b with
  | .ok x, .ok y => .ok (x, y)
  | a, b => .error (a.complaints ++ b.complaints)

end CallScript
