import Mathlib.Data.List.DropRight
import BabbleOn.Client.OutgoingMessage

namespace Client

namespace BabbleOnClient

def COMMA : BitVec 16 := 44#16

-- the empty parts at the end are left out, unless there is no comma
def split (text : JavaString) : List JavaString :=
  let parts := text.splitOn COMMA
  if parts.length = 1 then parts else parts.rdropWhile (·.isEmpty)

def blank (c : BitVec 16) : Bool := c.toNat ≤ 32

def trim (s : JavaString) : JavaString := (s.dropWhile blank).rdropWhile blank

def acceptable (recipient : JavaString) : Bool := !recipient.isEmpty && matchesRegex recipient

structure RecipientPane where
  usernameText : JavaString
  recipientUsernames : List JavaString
  shown : List String

-- the listener of the recipient button
def RecipientPane.actionPerformed (p : RecipientPane) : RecipientPane :=
  let recipientUsernames := ((split p.usernameText).map trim).filter acceptable
  if recipientUsernames.isEmpty then
    ⟨[], [], p.shown ++ ["Please enter a valid Recipient Username"]⟩
  else { p with recipientUsernames := recipientUsernames }

theorem acceptable_iff {recipient : JavaString} :
    acceptable recipient = true ↔ recipient ≠ [] ∧ matchesRegex recipient = true := by
  simp [acceptable]

theorem regexChar_visible {c : BitVec 16} (h : regexChar c = true) : blank c = false ∧ c ≠ COMMA := by
  have hcomma : (COMMA).toNat = 44 := rfl
  simp only [regexChar, Bool.or_eq_true, Bool.and_eq_true, decide_eq_true_eq, beq_iff_eq] at h
  constructor
  · rw [blank, decide_eq_false_iff_not]
    omega
  · rintro rfl
    rw [hcomma] at h
    omega

theorem trim_padded {before name after : JavaString} (hbefore : ∀ c ∈ before, blank c = true)
    (hname : acceptable name = true) (hafter : ∀ c ∈ after, blank c = true) :
    trim (before ++ name ++ after) = name := by
  obtain ⟨hne, hregex⟩ := acceptable_iff.mp hname
  have hvisible : ∀ c ∈ name, blank c = false := fun c hc =>
    (regexChar_visible (List.all_eq_true.mp hregex c hc)).1
  obtain ⟨first, rest, rfl⟩ := List.exists_cons_of_ne_nil hne
  have hleft : (before ++ (first :: rest) ++ after).dropWhile blank = (first :: rest) ++ after := by
    rw [List.append_assoc, List.dropWhile_append_of_pos hbefore, List.cons_append,
      List.dropWhile_cons_of_neg (by simp [hvisible first (by simp)])]
  have hreverse : ∀ c ∈ after.reverse, blank c = true := fun c hc => hafter c (List.mem_reverse.mp hc)
  have hright : ((first :: rest) ++ after).rdropWhile blank = (first :: rest).rdropWhile blank := by
    rw [List.rdropWhile, List.rdropWhile, List.reverse_append, List.dropWhile_append_of_pos hreverse]
  rw [trim, hleft, hright, List.rdropWhile_eq_self_iff]
  intro hl
  rw [hvisible _ (List.getLast_mem hl)]
  decide

theorem names_rdropWhile (parts : List JavaString) :
    ((parts.rdropWhile (·.isEmpty)).map trim).filter acceptable =
      (parts.map trim).filter acceptable := by
  induction parts using List.reverseRecOn with
  | nil => rfl
  | append_singleton parts part ih =>
    cases part with
    | nil =>
      rw [List.rdropWhile_concat_pos _ _ _ rfl, ih, List.map_append, List.filter_append]
      exact (List.append_nil _).symm
    | cons c part => rw [List.rdropWhile_concat_neg _ _ _ (by simp)]

theorem splitOn_intercalate {parts : List JavaString} (hne : parts ≠ [])
    (hparts : ∀ part ∈ parts, COMMA ∉ part) : ([COMMA].intercalate parts).splitOn COMMA = parts := by
  induction parts with
  | nil => exact absurd rfl hne
  | cons part parts ih =>
    cases parts with
    | nil =>
      rw [List.intercalate_singleton]
      exact List.splitOn_eq_singleton (hparts part (by simp))
    | cons next parts =>
      rw [List.intercalate_cons_cons, List.append_assoc, List.singleton_append,
        List.splitOn_append_cons_self_of_not_mem (hparts part (by simp)),
        ih (by simp) fun p hp => hparts p (by simp [hp])]

theorem actionPerformed_join {parts : List JavaString} (hparts : ∀ part ∈ parts, COMMA ∉ part)
    {p : RecipientPane} (htext : p.usernameText = [COMMA].intercalate parts) :
    p.actionPerformed.recipientUsernames = (parts.map trim).filter acceptable := by
  have hnames : ((split p.usernameText).map trim).filter acceptable =
      (parts.map trim).filter acceptable := by
    rw [htext, split]
    cases parts with
    | nil => rfl
    | cons part parts =>
      rw [splitOn_intercalate (by simp) hparts]
      split
      · rfl
      · exact names_rdropWhile _
  rw [RecipientPane.actionPerformed, hnames]
  split
  · rename_i hempty
    exact (List.isEmpty_iff.mp hempty).symm
  · rfl

structure TypedName where
  before : JavaString
  name : JavaString
  after : JavaString
  blanks : ∀ c ∈ before ++ after, blank c = true
  valid : acceptable name = true

def TypedName.text (t : TypedName) : JavaString := t.before ++ t.name ++ t.after

theorem TypedName.trim_text (t : TypedName) : trim t.text = t.name :=
  trim_padded (fun c hc => t.blanks c (by simp [hc])) t.valid fun c hc => t.blanks c (by simp [hc])

theorem TypedName.no_comma (t : TypedName) : COMMA ∉ t.text := by
  have hcomma : blank COMMA = false := by decide
  have hname := (acceptable_iff.mp t.valid).2
  simp only [TypedName.text, List.mem_append, not_or]
  refine ⟨⟨fun h => ?_, fun h => ?_⟩, fun h => ?_⟩
  · have hblank := t.blanks COMMA (by simp [h])
    rw [hcomma] at hblank
    cases hblank
  · exact (regexChar_visible (List.all_eq_true.mp hname COMMA h)).2 rfl
  · have hblank := t.blanks COMMA (by simp [h])
    rw [hcomma] at hblank
    cases hblank

theorem typed_names_read {names : List TypedName} {p : RecipientPane}
    (htext : p.usernameText = [COMMA].intercalate (names.map TypedName.text)) :
    p.actionPerformed.recipientUsernames = names.map TypedName.name := by
  have hcomma : ∀ part ∈ names.map TypedName.text, COMMA ∉ part := by
    intro part hpart
    obtain ⟨t, _, rfl⟩ := List.mem_map.mp hpart
    exact t.no_comma
  have htrim : trim ∘ TypedName.text = TypedName.name := funext TypedName.trim_text
  rw [actionPerformed_join hcomma htext, List.map_map, htrim, List.filter_eq_self]
  intro name hname
  obtain ⟨t, _, rfl⟩ := List.mem_map.mp hname
  exact t.valid

theorem actionPerformed_acceptable (p : RecipientPane) :
    ∀ name ∈ p.actionPerformed.recipientUsernames, acceptable name = true := by
  intro name hname
  rw [RecipientPane.actionPerformed] at hname
  split at hname
  · cases hname
  · exact (List.mem_filter.mp hname).2

end BabbleOnClient

end Client
