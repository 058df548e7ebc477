import Mailroom.Text.Blank

/-!
# Arguments on a command line

A mailbox name or search text goes into a command as it is when it is a plain atom, and between
double quotes otherwise, with the quote and the backslash escaped (`quote`). `readArgument` is the
other direction: it takes one argument off the front of a command line.
-/

namespace Mailroom.Imap

/-- Characters that keep a text from being a plain atom. -/
def isSpecial (c : Char) : Bool :=
  Text.isBlank c || ['(', ')', '\x7b', '%', '*', '"', '\\', ']'].contains c

/-- Whether a text can stand in a command as it is. -/
def isAtom (cs : List Char) : Bool := !cs.isEmpty && !cs.any isSpecial

/-- A quote and a backslash are preceded by a backslash. -/
def escape : List Char → List Char
  | [] => []
  | c :: cs => if c = '"' ∨ c = '\\' then '\\' :: c :: escape cs else c :: escape cs

/-- An argument of a command, as characters. -/
def quoteChars (cs : List Char) : List Char :=
  if isAtom cs then cs else '"' :: (escape cs ++ ['"'])

/-- An argument of a command. -/
def quote (value : String) : String := String.ofList (quoteChars value.toList)

/-! ### Reading an argument back -/

/-- The rest of a quoted argument after its opening quote, and what follows it. -/
def readQuoted : List Char → Option (List Char × List Char)
  | [] => none
  | '"' :: rest => some ([], rest)
  | '\\' :: '"' :: rest => (readQuoted rest).map fun r => ('"' :: r.1, r.2)
  | '\\' :: '\\' :: rest => (readQuoted rest).map fun r => ('\\' :: r.1, r.2)
  | c :: rest => (readQuoted rest).map fun r => (c :: r.1, r.2)

/-- One argument off the front of a command line, and what follows it: up to the closing quote when
the line starts with a quote, else up to the first space. -/
def readArgument : List Char → Option (List Char × List Char)
  | '"' :: rest => readQuoted rest
  | line => some (line.takeWhile (· ≠ ' '), line.dropWhile (· ≠ ' '))

/-- The escaped text before a closing quote reads back. -/
theorem readQuoted_escape (cs rest : List Char) :
    readQuoted (escape cs ++ '"' :: rest) = some (cs, rest) := by
  induction cs with
  | nil => rfl
  | cons c cs ih =>
    by_cases hq : c = '"'
    · subst hq; simp [escape, readQuoted, ih]
    · by_cases hb : c = '\\'
      · subst hb; simp [escape, readQuoted, ih]
      · simp [escape, hq, hb, readQuoted, ih]

end Mailroom.Imap
