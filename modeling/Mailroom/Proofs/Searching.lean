import Mailroom.Proofs.Arguments
import Mailroom.Proofs.CommandLines
import Mailroom.Proofs.Utf8

/-!
# Searches that read back

A search says whether seen messages are searched too, and what text their subjects hold. It does so
in one of three shapes: no key for the subject when every subject will do, a key with an argument
when the text is ASCII, and otherwise a key at the end of the line, with a character set in front
and the text in the literal that follows. `Imap.readSearch` reads a line and its literal back. What
the criteria of a search say is what comes out, for every text (`Imap.readSearch_criteria`), so
texts that look like keywords, quotes or criteria are never taken for such.
-/

namespace Mailroom.Imap

/-! ### Lines -/

/-- The line of a command: its arguments, with single spaces between. What is left out has none. -/
def Command.line (c : Command) : List Char :=
  [' '].intercalate (c.arguments.filterMap fun argument => argument.map String.toList)

theorem line_search (criteria : List String) :
    (Command.search criteria).line = [' '].intercalate (criteria.map String.toList) := by
  simp [Command.line, Command.arguments, List.filterMap_map]

/-! ### Reading a search -/

/-- The text that a search looks for in subjects, and how it is named. -/
inductive SubjectKey where
  /-- There is no such key. -/
  | absent
  /-- The key has an argument. -/
  | inline (text : String)
  /-- The key has a literal. -/
  | literal (text : String)
  deriving DecidableEq, Repr

/-- The text that a subject must hold. -/
def SubjectKey.text : SubjectKey → String
  | absent => ""
  | inline text | literal text => text

/-- The key by which a text is to be named. -/
def SubjectKey.naming (pattern : String) : SubjectKey :=
  if pattern = "" then .absent
  else if Text.isAscii pattern then .inline pattern
  else .literal pattern

theorem SubjectKey.text_naming (pattern : String) : (naming pattern).text = pattern := by
  unfold naming
  split
  · next h => exact h.symm
  · split <;> rfl

/-- What a search asks for. -/
structure Query where
  /-- Whether seen messages are searched too. -/
  includeSeen : Bool
  /-- What their subjects must hold. -/
  key : SubjectKey
  deriving DecidableEq, Repr

/-- Whether seen messages are searched too, by the word that says it. -/
def readScope (word : List Char) : Option Bool :=
  if word = "ALL".toList then some true
  else if word = "UNSEEN".toList then some false
  else none

/-- What a search asks for, by its line and the literal at the end of it. -/
def readSearch (line : List Char) (literal : Option Bytes) : Option Query :=
  match readArguments line, literal with
  | some [scope], none => (readScope scope).map (⟨·, .absent⟩)
  | some [scope, key, text], none =>
    if key = "SUBJECT".toList then (readScope scope).map (⟨·, .inline (String.ofList text)⟩)
    else none
  | some [option, charset, scope, key], some bytes =>
    if option = "CHARSET".toList ∧ charset = "UTF-8".toList ∧ key = "SUBJECT".toList then
      match Text.decodeUtf8 bytes with
      | .ok text => (readScope scope).map (⟨·, .literal text⟩)
      | .error _ => none
    else none
  | _, _ => none

theorem readScope_scopeWord (includeSeen : Bool) :
    readScope (scopeWord includeSeen).toList = some includeSeen := by
  cases includeSeen <;> decide

/-- A word that is a plain atom is its own argument. -/
theorem toList_quote_of_isAtom {word : String} (h : isAtom word.toList = true) :
    (quote word).toList = word.toList := by
  rw [quote, String.toList_ofList, quoteChars_eq_self_iff.mpr h]

/-- A line of arguments reads back as what they quote. -/
theorem readArguments_line (text : String) (texts : List String) {criteria : List String}
    (h : criteria.map String.toList = (text :: texts).map fun t => (quote t).toList) :
    readArguments (Command.search criteria).line =
      some ((text :: texts).map String.toList) := by
  rw [line_search, h, List.map_cons, List.map_cons, ← readArguments_joined, joined]
  simp [quote, Function.comp_def]

/-- **A search reads back**: its line and literal say whether seen messages are searched, and name
the text as they should. There is a literal where the text is not ASCII, and nowhere else. -/
theorem readSearch_criteria (pattern : String) (includeSeen : Bool) :
    readSearch (Command.search (Client.criteria pattern includeSeen).1).line
      (Client.criteria pattern includeSeen).2 = some ⟨includeSeen, .naming pattern⟩ ∧
    ((Client.criteria pattern includeSeen).2.isSome = true ↔ Text.isAscii pattern = false) := by
  have hscope : (quote (scopeWord includeSeen)).toList = (scopeWord includeSeen).toList :=
    toList_quote_of_isAtom (by cases includeSeen <;> decide)
  have hkey : (quote "SUBJECT").toList = "SUBJECT".toList := toList_quote_of_isAtom (by decide)
  have hread := readScope_scopeWord includeSeen
  by_cases hne : pattern = ""
  · subst hne
    have hargs : readArguments (Command.search [scopeWord includeSeen]).line = _ :=
      readArguments_line (scopeWord includeSeen) [] (by simp [hscope])
    rw [criteria_empty]
    refine ⟨?_, by simp [Text.isAscii]⟩
    simp [readSearch, hargs, hread, SubjectKey.naming]
  · cases hascii : Text.isAscii pattern with
    | true =>
      have hargs : readArguments
          (Command.search [scopeWord includeSeen, "SUBJECT", quote pattern]).line = _ :=
        readArguments_line (scopeWord includeSeen) ["SUBJECT", pattern]
          (by simp [hscope, hkey])
      rw [criteria_ascii hne hascii]
      refine ⟨?_, by simp⟩
      simp [readSearch, hargs, hread, SubjectKey.naming, hne, hascii]
    | false =>
      have hcharset : (quote "CHARSET").toList = "CHARSET".toList ∧
          (quote "UTF-8").toList = "UTF-8".toList :=
        ⟨toList_quote_of_isAtom (by decide), toList_quote_of_isAtom (by decide)⟩
      have hargs : readArguments
          (Command.search ["CHARSET", "UTF-8", scopeWord includeSeen, "SUBJECT"]).line = _ :=
        readArguments_line "CHARSET" ["UTF-8", scopeWord includeSeen, "SUBJECT"]
          (by simp [hscope, hkey, hcharset])
      rw [criteria_literal hascii]
      refine ⟨?_, by simp⟩
      simp [readSearch, hargs, hread, SubjectKey.naming, hne, hascii]

end Mailroom.Imap
