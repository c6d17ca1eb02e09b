import JobQueue.Text.Hidden

/-!
# Views made for inspection

Configurations, registries and runtimes have a one-line view for logs and debugging sessions: the
name of the type, then its fields in braces. Texts stand in it between quotes, with quotes,
backslashes and what cannot be seen replaced.
-/

namespace JobQueue.Text

/-- A character inside a quoted text. -/
def inspectChar (c : Char) : List Char :=
  if c = '"' then ['\\', '"']
  else if c = '\\' then ['\\', '\\']
  else if c = '\n' then ['\\', 'n']
  else if c = '\r' then ['\\', 'r']
  else if c = '\t' then ['\\', 't']
  else if c.toNat = 0 then ['\\', '0']
  else if isHidden c then '\\' :: 'u' :: '\x7b' :: (Nat.toDigits 16 c.toNat ++ ['\x7d'])
  else [c]

/-- A text between quotes. -/
def inspect (s : String) : String :=
  String.ofList ('"' :: (s.toList.flatMap inspectChar ++ ['"']))

/-- A list in brackets. -/
def inspectList (items : List String) : String := "[" ++ String.intercalate ", " items ++ "]"

/-- An optional value. -/
def inspectOption : Option String → String
  | none => "None"
  | some s => "Some(" ++ s ++ ")"

/-- A record: its name and its fields in braces. An open one ends in dots, for fields left out. -/
def inspectRecord (name : String) (fields : List (String × String)) (isOpen : Bool := false) :
    String :=
  let parts := fields.map (fun (field, value) => field ++ ": " ++ value)
  let parts := if isOpen then parts ++ [".."] else parts
  name ++ " \x7b " ++ String.intercalate ", " parts ++ " \x7d"

end JobQueue.Text
