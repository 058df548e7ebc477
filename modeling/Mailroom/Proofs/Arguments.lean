import Mailroom.Imap.Quoting

/-!
# Arguments that read back

Whatever a text is, as an argument it is one argument and stands for that text: read from the front
of a command line, `quote value` is consumed exactly, what follows it is left, and `value` comes out
(`Imap.quote_delimits`). All that a line must do is end there or go on with a space. So a line of
quoted texts reads back as those texts, however many there are and whatever is in them
(`Imap.readArguments_joined`).

There are two cases, as in `quote` itself. A plain atom holds neither a space nor a quote, so the
reader takes it as it is, up to the space; anything else stands between quotes, where each quote and
each backslash is escaped, so that the first bare quote is the closing one.
-/

namespace Mailroom.Imap

variable {cs rest : List Char}

/-- A line goes on after an argument with a space, if it goes on at all. -/
def Delimited (rest : List Char) : Prop := rest = [] ∨ rest.head? = some ' '

theorem isAtom_iff : isAtom cs = true ↔ cs ≠ [] ∧ ∀ c ∈ cs, isSpecial c = false := by
  simp [isAtom]

/-! ### One argument -/

/-- Up to the space where a line goes on, a text without spaces is taken whole. -/
theorem span_of_delimited (hcs : ∀ c ∈ cs, c ≠ ' ') (hrest : Delimited rest) :
    (cs ++ rest).takeWhile (· ≠ ' ') = cs ∧ (cs ++ rest).dropWhile (· ≠ ' ') = rest := by
  have hall : ∀ c ∈ cs, decide (c ≠ ' ') = true := by simpa using hcs
  rw [List.takeWhile_append_of_pos hall, List.dropWhile_append_of_pos hall]
  cases rest with
  | nil => simp
  | cons c rest =>
    obtain rfl : c = ' ' := by simpa [Delimited] using hrest
    simp

/-- A plain atom reads back. -/
theorem readArgument_atom (hcs : isAtom cs = true) (hrest : Delimited rest) :
    readArgument (cs ++ rest) = some (cs, rest) := by
  obtain ⟨hne, hplain⟩ := isAtom_iff.mp hcs
  have hspace : ∀ c ∈ cs, c ≠ ' ' := by
    rintro c hc rfl
    exact absurd (hplain _ hc) (by decide)
  obtain ⟨htake, hdrop⟩ := span_of_delimited hspace hrest
  cases cs with
  | nil => exact absurd rfl hne
  | cons c cs =>
    have hquote : c ≠ '"' := by
      rintro rfl
      exact absurd (hplain _ List.mem_cons_self) (by decide)
    rw [List.cons_append] at htake hdrop ⊢
    rw [readArgument, htake, hdrop]
    simpa using hquote

/-- **An argument reads back**, and the rest of the line is left. -/
theorem readArgument_quoteChars (cs : List Char) (hrest : Delimited rest) :
    readArgument (quoteChars cs ++ rest) = some (cs, rest) := by
  unfold quoteChars
  split
  · next hatom => exact readArgument_atom hatom hrest
  · show readQuoted (escape cs ++ ['"'] ++ rest) = _
    rw [List.append_assoc]
    exact readQuoted_escape cs rest

/-- Quoting a plain atom changes nothing; anything else becomes longer. -/
theorem quoteChars_eq_self_iff : quoteChars cs = cs ↔ isAtom cs = true := by
  unfold quoteChars
  split
  · next hatom => simp [hatom]
  · next hatom =>
    have hlength (cs : List Char) : cs.length ≤ (escape cs).length := by
      induction cs with
      | nil => exact Nat.le_refl 0
      | cons c cs ih =>
        rw [escape]
        split <;> simp only [List.length_cons] <;> omega
    refine iff_of_false (fun h => ?_) hatom
    have hlonger := congrArg List.length h
    have hescape := hlength cs
    simp only [List.length_cons, List.length_append, List.length_nil] at hlonger
    omega

/-! ### Lines of arguments -/

/-- What is left after a quoted argument is shorter, by induction along the reading. -/
theorem length_readQuoted {line : List Char} {r : List Char × List Char}
    (h : readQuoted line = some r) : r.2.length < line.length := by
  induction line using readQuoted.induct generalizing r with
  | case1 => cases h
  | case2 tail =>
    cases h
    exact Nat.lt_succ_self _
  | case3 tail ih | case4 tail ih =>
    rw [readQuoted, Option.map_eq_some_iff] at h
    obtain ⟨r', hread, rfl⟩ := h
    have hshorter := ih hread
    simp only [List.length_cons]
    omega
  | case5 c tail hquote hescaped hbackslash ih =>
    rw [readQuoted.eq_5 c tail hquote hescaped hbackslash, Option.map_eq_some_iff] at h
    obtain ⟨r', hread, rfl⟩ := h
    have hshorter := ih hread
    simp only [List.length_cons]
    omega

theorem length_readArgument {line value : List Char}
    (h : readArgument line = some (value, rest)) : rest.length ≤ line.length := by
  unfold readArgument at h
  split at h
  · have hshorter : rest.length < _ := length_readQuoted h
    simp only [List.length_cons]
    omega
  · cases h
    exact (List.dropWhile_sublist _).length_le

/-- All arguments of a command line, which stand apart by single spaces. -/
def readArguments (line : List Char) : Option (List (List Char)) :=
  match _h : readArgument line with
  | some (value, []) => some [value]
  | some (value, ' ' :: rest) => (readArguments rest).map (value :: ·)
  | _ => none
termination_by line.length
decreasing_by
  have hshorter := length_readArgument _h
  simp only [List.length_cons] at hshorter
  omega

theorem readArguments_last {line value : List Char} (h : readArgument line = some (value, [])) :
    readArguments line = some [value] := by
  rw [readArguments]
  split <;> simp_all

theorem readArguments_more {line value : List Char}
    (h : readArgument line = some (value, ' ' :: rest)) :
    readArguments line = (readArguments rest).map (value :: ·) := by
  rw [readArguments]
  split <;> simp_all

/-- Texts as the arguments of a command line. -/
def joined (values : List (List Char)) : List Char := [' '].intercalate (values.map quoteChars)

theorem joined_cons_cons (cs next : List Char) (values : List (List Char)) :
    joined (cs :: next :: values) = quoteChars cs ++ ' ' :: joined (next :: values) := by
  simp [joined, List.intercalate_cons_cons]

/-- **A line reads back** as the texts it was made of, by induction on them. -/
theorem readArguments_joined (cs : List Char) (values : List (List Char)) :
    readArguments (joined (cs :: values)) = some (cs :: values) := by
  induction values generalizing cs with
  | nil =>
    have hread := readArgument_quoteChars cs (.inl rfl : Delimited [])
    rw [List.append_nil] at hread
    exact readArguments_last (by simpa [joined] using hread)
  | cons next values ih =>
    have hread := readArgument_quoteChars cs
      (.inr rfl : Delimited (' ' :: joined (next :: values)))
    rw [joined_cons_cons, readArguments_more hread, ih]
    rfl

/-- **Quoting delimits itself**: an argument that ends its line or is followed by a space is read to
its end and no further, and stands for the text it was made of. So it is one argument and no other
text has the same; and it is the text itself exactly where that is not empty and holds nothing
special. -/
theorem quote_delimits (value : String) :
    (∀ rest, rest = [] ∨ rest.head? = some ' ' →
      readArgument ((quote value).toList ++ rest) = some (value.toList, rest)) ∧
    readArguments (quote value).toList = some [value.toList] ∧
    (∀ other, quote other = quote value → other = value) ∧
    (quote value = value ↔ value ≠ "" ∧ ∀ c ∈ value.toList, isSpecial c = false) := by
  have hquote (text : String) : (quote text).toList = quoteChars text.toList :=
    String.toList_ofList
  have hread (text : String) : readArguments (quote text).toList = some [text.toList] := by
    have hjoined := readArguments_joined text.toList []
    rwa [show joined [text.toList] = (quote text).toList by simp [joined, hquote]] at hjoined
  refine ⟨fun rest hrest => ?_, hread value, fun other h => ?_, ?_⟩
  · rw [hquote]
    exact readArgument_quoteChars value.toList hrest
  · have hsame := hread other
    rw [h, hread value] at hsame
    exact String.toList_inj.mp (by simpa using hsame.symm)
  · rw [← String.toList_inj, hquote, quoteChars_eq_self_iff, isAtom_iff, ne_eq, ne_eq,
      ← String.toList_eq_nil_iff]

end Mailroom.Imap
