import Mailroom.Proofs.Conversation
import Mailroom.Proofs.Postmaster
import Mathlib.Data.List.Forall2

/-!
# The candidates that a search names

The reply to a search is a row of items, each a byte string or nothing, and the candidates are the
words in them. `Cut bs ws` says, without a reader, that a row of bytes is cut into words at ASCII
whitespace; the reader finds exactly these (`words_eq_iff`). `Names ws uids` says that words are the
UTF-8 spelling of uids.

Listing reads the first item only (`list_reads_first`): it drops the candidates that later items
name, and finds none at all if the first item is empty (`list_drops_later`).
-/

namespace Mailroom

/-! ### Words -/

namespace Bytes

/-- A row of bytes is cut into words: the longest parts of it without ASCII whitespace, in order. -/
inductive Cut : List UInt8 → List (List UInt8) → Prop where
  /-- There is nothing left. -/
  | done : Cut [] []
  /-- Whitespace comes first. -/
  | blank {b : UInt8} {bs : List UInt8} {ws : List (List UInt8)} (hb : isBlank b = true)
    (h : Cut bs ws) : Cut (b :: bs) ws
  /-- A word comes first, and after it whitespace or nothing. -/
  | word {w bs : List UInt8} {ws : List (List UInt8)} (hne : w ≠ [])
    (hw : ∀ b ∈ w, isBlank b = false) (hend : ∀ b ∈ bs.head?, isBlank b = true) (h : Cut bs ws) :
    Cut (w ++ bs) (w :: ws)

/-- What the reader finds is a cut, by induction on what is left to read. -/
theorem cut_wordsFrom (acc : List UInt8) (hacc : ∀ b ∈ acc, isBlank b = false)
    (bs : List UInt8) : Cut (acc.reverse ++ bs) (wordsFrom acc bs) := by
  have hword : ∀ b ∈ acc.reverse, isBlank b = false := by
    intro b hb
    exact hacc b (List.mem_reverse.mp hb)
  induction bs generalizing acc with
  | nil =>
    by_cases hnil : acc = []
    · simp [hnil, wordsFrom, Cut.done]
    · have hcut := Cut.word (w := acc.reverse) (by simpa using hnil) hword (by simp) .done
      simpa [wordsFrom, hnil] using hcut
  | cons b bs ih =>
    cases hb : isBlank b with
    | true =>
      have hrest : Cut (b :: bs) (wordsFrom [] bs) := .blank hb (ih [] (by simp) (by simp))
      by_cases hnil : acc = []
      · simpa [wordsFrom, hb, hnil] using hrest
      · have hcut := Cut.word (w := acc.reverse) (by simpa using hnil) hword (by simpa using hb)
          hrest
        simpa [wordsFrom, hb, hnil] using hcut
    | false =>
      have hmore : ∀ x ∈ b :: acc, isBlank x = false := List.forall_mem_cons.mpr ⟨hb, hacc⟩
      have hcut := ih _ hmore (by simpa using fun x hx => hmore x (List.mem_cons.mpr hx.symm))
      simpa [wordsFrom, hb] using hcut

/-- **Words are cuts**: there is exactly one way to cut a row of bytes, and the reader finds it. -/
theorem words_eq_iff (bs : List UInt8) (ws : List (List UInt8)) :
    wordsFrom [] bs = ws ↔ Cut bs ws := by
  constructor
  · rintro rfl
    exact cut_wordsFrom [] (by simp) bs
  · intro h
    induction h with
    | done => rfl
    | blank hb _ ih => simpa [wordsFrom, hb] using ih
    | @word w bs ws hne hw hend _ ih =>
      rw [Imap.wordsFrom_append hw, List.append_nil]
      cases bs with
      | nil => simp [wordsFrom, hne, ← ih]
      | cons b bs =>
        have hb : isBlank b = true := hend b rfl
        simp only [wordsFrom, hb, if_true, List.isEmpty_nil] at ih
        simp [wordsFrom, hb, hne, ih]

end Bytes

namespace Imap

/-! ### Naming -/

/-- The words in the byte strings of a reply, in order. -/
def tokens (items : List Item) : List Bytes := items.flatMap fun
  | .bytes b => Bytes.words b
  | .absent | .group _ => []

/-- The item is a byte string or nothing. -/
def Item.isPlain : Item → Bool
  | bytes _ | absent => true
  | group _ => false

/-- Words are the UTF-8 spelling of uids. -/
def Names (ws : List Bytes) (uids : List String) : Prop :=
  List.Forall₂ (fun w uid => Text.decodeUtf8 w = .ok uid) ws uids

theorem tokens_cons (item : Item) (items : List Item) :
    tokens (item :: items) = tokens [item] ++ tokens items := by
  simp [tokens]

/-- Words that are all valid UTF-8 name uids. -/
theorem exists_names {ws : List Bytes} (h : ∀ w ∈ ws, ∃ uid, Text.decodeUtf8 w = .ok uid) :
    ∃ uids, Names ws uids := by
  induction ws with
  | nil => exact ⟨[], .nil⟩
  | cons w ws ih =>
    obtain ⟨⟨uid, huid⟩, hws⟩ := List.forall_mem_cons.mp h
    obtain ⟨uids, huids⟩ := ih hws
    exact ⟨uid :: uids, .cons huid huids⟩

namespace Client

open Session.Op (Ensures)

variable {ρ : Type} {srv : Server ρ} {c : Client ρ}

/-- The uids in an item are what its words name, by induction on the words. -/
theorem uidsOf_of_names {b : Bytes} {uids : List String} (h : Names (Bytes.words b) uids) :
    uidsOf b = .ok uids := by
  unfold uidsOf
  generalize Bytes.words b = ws at h
  induction h with
  | nil => rfl
  | cons hw _ ih =>
    rw [List.mapM_cons, ih]
    simp [hw, bind, Except.bind, pure, Except.pure]

/-- The first item of a reply names the candidates that are listed, and no other does. -/
theorem candidatesIn_of_names {items : List Item}
    (hplain : ∀ item ∈ items.head?, item.isPlain = true) {uids : List String}
    (h : Names (tokens items.head?.toList) uids) :
    (candidatesIn items).map (·.getD []) = .ok uids := by
  unfold candidatesIn
  cases items with
  | nil =>
    cases h
    rfl
  | cons item items =>
    cases item with
    | group parts => cases hplain _ rfl
    | absent =>
      cases h
      rfl
    | bytes b =>
      have hwords : Names (Bytes.words b) uids := by simpa [tokens] using h
      by_cases hempty : b.isEmpty = true
      · have hnone : Bytes.words b = [] := by
          have hsize : b.data.size = 0 := beq_iff_eq.mp hempty
          simp [Bytes.words, Array.size_eq_zero_iff.mp hsize, Bytes.wordsFrom]
        rw [hnone] at hwords
        cases hwords
        simp [hempty, Except.map]
      · simp [hempty, uidsOf_of_names hwords, Except.map]

/-- A search that the server confirms decides what is listed. -/
theorem ensures_list_reads (srv : Server ρ) (mailbox pattern : String) (includeSeen : Bool) :
    (list srv mailbox pattern includeSeen).Ensures c fun xs o _ =>
      ∀ criteria literal items, ⟨.uid (.search criteria) literal, .ok ⟨"OK", items⟩⟩ ∈ xs →
        o = (candidatesIn items).map (·.getD []) := by
  have hselect {xs : List Exchange} {o : Except Failure Unit} {y : Client ρ}
      (h : Selecting mailbox c xs o y) (criteria : List String) (literal : Option Bytes)
      (answer : Except Failure Reply) : ⟨.uid (.search criteria) literal, answer⟩ ∉ xs := by
    cases h <;> simp
  have hanswer {xs ys : List Exchange} {u : Except Failure Unit} {y : Client ρ}
      (h : Selecting mailbox c xs u y) {r : Request} {answer : Except Failure Reply}
      (hys : ys = [⟨r, answer⟩]) {criteria : List String} {literal : Option Bytes}
      {items : List Item} (hmem : ⟨.uid (.search criteria) literal, .ok ⟨"OK", items⟩⟩ ∈ xs ++ ys) :
      answer = .ok ⟨"OK", items⟩ := by
    rcases List.mem_append.mp hmem with hmem | hmem
    · exact absurd hmem (hselect h criteria literal _)
    · rw [hys] at hmem
      exact (Exchange.mk.inj (List.mem_singleton.mp hmem)).2.symm
  refine .bind (ensures_select mailbox) ?_ ?_
  · rintro xs u y h
    rcases criteria pattern includeSeen with ⟨wanted, literal⟩
    refine .bind (ensures_command (.search wanted) literal) ?_ ?_
    · rintro ys found z (@⟨reply, hstatus, server⟩ | ⟨_, _, _⟩)
      have hread {o : Except Failure (List String)}
          (ho : (candidatesIn reply.items).map (·.getD []) = o) (criteria : List String)
          (literal' : Option Bytes) (items : List Item)
          (hmem : ⟨.uid (.search criteria) literal', .ok ⟨"OK", items⟩⟩ ∈
            xs ++ [⟨.uid (.search wanted) literal, .ok reply⟩]) :
          o = (candidatesIn items).map (·.getD []) := by
        cases hanswer h rfl hmem
        exact ho.symm
      split
      · next f hc => exact .throw (by simpa using hread (by rw [hc]; rfl))
      · next hc => exact .pure (by simpa using hread (by rw [hc]; rfl))
      · next uids hc =>
        refine .remark_bind (.pure ?_)
        simpa [List.filterMap, Remark.exchange?] using hread (by rw [hc]; rfl)
    · rintro ys f z (⟨_, server⟩ | ⟨hbad, _, server⟩) criteria literal items hmem
      obtain rfl := hanswer h rfl hmem
      exact absurd ⟨_, rfl, rfl⟩ hbad
  · intro xs f y h criteria literal items hmem
    exact absurd hmem (hselect h criteria literal _)

/-- **What is listed**: where the server confirms the search with byte strings and nothings whose
words are all valid UTF-8, listing succeeds, and lists what the words of the first item name, in
order; so the list is empty if the first item has no word. It lists everything that is named exactly
if the other items have no word either. -/
theorem list_reads_first (srv : Server ρ) (mailbox pattern : String) (includeSeen : Bool)
    (c : Client ρ) {criteria : List String} {literal : Option Bytes} {items : List Item}
    (hx : ⟨.uid (.search criteria) literal, .ok ⟨"OK", items⟩⟩ ∈
      (runFrom (list srv mailbox pattern includeSeen) ⟨c, []⟩).2.remarks.filterMap
        Remark.exchange?)
    (hplain : ∀ item ∈ items, item.isPlain = true)
    (hvalid : ∀ w ∈ tokens items, ∃ uid, Text.decodeUtf8 w = .ok uid) :
    ∃ uids, (runFrom (list srv mailbox pattern includeSeen) ⟨c, []⟩).1 = .ok uids ∧
      Names (tokens items.head?.toList) uids ∧
      (uids = [] ↔ tokens items.head?.toList = []) ∧
      (Names (tokens items) uids ↔ tokens items.tail = []) := by
  have hsplit : tokens items = tokens items.head?.toList ++ tokens items.tail := by
    cases items with
    | nil => rfl
    | cons item items => exact tokens_cons item items
  obtain ⟨uids, hnames⟩ := exists_names fun w hw =>
    hvalid w (by rw [hsplit]; exact List.mem_append_left _ hw)
  have hlength := hnames.length_eq
  obtain ⟨o, y, remarks, hr, hread⟩ :=
    ensures_list_reads (c := c) srv mailbox pattern includeSeen []
  rw [hr] at hx ⊢
  refine ⟨uids, ?_, hnames, ?_, ?_⟩
  · rw [hread criteria literal items hx]
    exact candidatesIn_of_names (fun item hitem => hplain item (List.mem_of_mem_head? hitem)) hnames
  · rw [← List.length_eq_zero_iff, ← hlength, List.length_eq_zero_iff]
  · constructor
    · intro hall
      have hsame := hall.length_eq
      rw [hsplit, List.length_append] at hsame
      exact List.length_eq_zero_iff.mp (by omega)
    · intro hnone
      rwa [hsplit, hnone, List.append_nil]

/-- A server that answers every request with the same items. -/
def repeating (items : List Item) : Server Unit := ⟨[], fun _ _ => (.ok ⟨"OK", items⟩, ())⟩

/-- A reply whose only item is two numbers with tabs and line ends about them. -/
theorem list_reads_first_two :
    let items : List Item := [.bytes (Bytes.ofList [9, 52, 13, 10, 57, 10])]
    ∃ uids, (runFrom (list (repeating items) "INBOX" "" false)
      ⟨⟨(), true, some "INBOX"⟩, []⟩).1 = .ok uids ∧ Names (tokens items) uids := by
  intro items
  have hvalid : ∀ w ∈ tokens items, ∃ uid, Text.decodeUtf8 w = .ok uid := by
    have htokens : tokens items = [Bytes.ofList [52], Bytes.ofList [57]] := rfl
    rw [htokens]
    simp only [List.forall_mem_cons]
    exact ⟨⟨"4", rfl⟩, ⟨"9", rfl⟩, by simp⟩
  obtain ⟨uids, ho, hnames, -, -⟩ := list_reads_first (repeating items) "INBOX" "" false
    ⟨(), true, some "INBOX"⟩ (List.mem_singleton_self _) (by simp [items, Item.isPlain]) hvalid
  exact ⟨uids, ho, hnames⟩

/-- Candidates that later items name are not listed. -/
theorem list_drops_later :
    let items : List Item :=
      [.bytes (Bytes.ofList [49, 32, 50]), .absent, .bytes (Bytes.ofList [51])]
    (runFrom (list (repeating items) "INBOX" "" false) ⟨⟨(), true, some "INBOX"⟩, []⟩).1 =
        .ok ["1", "2"] ∧
      Names (tokens items) ["1", "2", "3"] := by
  intro items
  refine ⟨rfl, ?_⟩
  have htokens : tokens items =
      [Bytes.ofList [49], Bytes.ofList [50], Bytes.ofList [51]] := rfl
  rw [htokens]
  exact .cons rfl (.cons rfl (.cons rfl .nil))

end Client

end Imap

end Mailroom
