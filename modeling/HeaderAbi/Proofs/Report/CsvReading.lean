import HeaderAbi.Report.Csv
import Mathlib.Data.List.Forall2

/-!
# Reading comma-separated reports

`read?` reads comma-separated values by the rules of RFC 4180, with records that end in a line feed:
a field stands in quotes, where a quote is written twice and any other character for itself, or it
has no quote, comma or line feed.

* **A quoted text is one field**, whatever characters it has (`spells_quote`).
* **A report is read back record by record** (`read?_csvText`): the header, then one record for each
  entry that is shown, in order.
-/

namespace HeaderAbi

namespace Csv

/-! ### The reader -/

/-- Where a reader stands in a field. -/
inductive Place where
  /-- At its start. -/
  | start
  /-- In a field without quotes. -/
  | bare
  /-- Between quotes. -/
  | quoted
  /-- After a quote, which ends the field unless it is the first of two. -/
  | closed
deriving DecidableEq

/-- Read on, with the characters of the field and the fields of the record that are known. -/
def readFrom? (place : Place) (field : List Char) (fields : List String) :
    List Char → Option (List (List String))
  | [] => if place = .start ∧ fields = [] then some [] else none
  | c :: cs =>
    match place, c with
    | .quoted, '"' => readFrom? .closed field fields cs
    | .quoted, c => readFrom? .quoted (field ++ [c]) fields cs
    | .start, '"' => readFrom? .quoted field fields cs
    | .closed, '"' => readFrom? .quoted (field ++ ['"']) fields cs
    | .bare, '"' => none
    | _, ',' => readFrom? .start [] (fields ++ [String.ofList field]) cs
    | _, '\n' => (readFrom? .start [] [] cs).map ((fields ++ [String.ofList field]) :: ·)
    | .closed, _ => none
    | _, c => readFrom? .bare (field ++ [c]) fields cs

/-- The records of a text, each with its fields. -/
def read? (s : String) : Option (List (List String)) := readFrom? .start [] [] s.toList

/-! ### Fields -/

/-- The text stands for the field, whatever comes before the field and after what ends it. -/
structure Spells (text field : String) : Prop where
  comma : ∀ fields rest, readFrom? .start [] fields (text.toList ++ ',' :: rest) =
    readFrom? .start [] (fields ++ [field]) rest
  newline : ∀ fields rest, readFrom? .start [] fields (text.toList ++ '\n' :: rest) =
    (readFrom? .start [] [] rest).map ((fields ++ [field]) :: ·)

/-- A text that needs no quotes. -/
def Bare (cs : List Char) : Prop := '"' ∉ cs ∧ ',' ∉ cs ∧ '\n' ∉ cs

instance (cs : List Char) : Decidable (Bare cs) := inferInstanceAs (Decidable (_ ∧ _))

theorem bare_cons {c : Char} {cs : List Char} :
    Bare (c :: cs) ↔ (c ≠ '"' ∧ c ≠ ',' ∧ c ≠ '\n') ∧ Bare cs := by
  simp only [Bare, List.mem_cons, not_or, ne_comm (b := c)]
  tauto

theorem readFrom?_bare {cs : List Char} (h : Bare cs) (field : List Char)
    (fields : List String) (rest : List Char) :
    readFrom? .bare field fields (cs ++ rest) = readFrom? .bare (field ++ cs) fields rest := by
  induction cs generalizing field with
  | nil => simp
  | cons c cs ih =>
    obtain ⟨⟨hquote, hcomma, hnewline⟩, hcs⟩ := bare_cons.1 h
    simp [readFrom?, hquote, ih hcs]

/-- **A text without quotes, commas and line feeds stands for itself.** -/
theorem spells_bare {s : String} (h : Bare s.toList) : Spells s s := by
  cases hs : s.toList with
  | nil =>
    obtain rfl : s = "" := by simpa using hs
    exact ⟨fun _ _ => rfl, fun _ _ => rfl⟩
  | cons c cs =>
    rw [hs] at h
    obtain ⟨⟨hquote, hcomma, hnewline⟩, hcs⟩ := bare_cons.1 h
    have hfield : String.ofList (c :: cs) = s := by rw [← hs, String.ofList_toList]
    constructor <;> intro fields rest <;>
      simp [hs, readFrom?, hquote, readFrom?_bare hcs, hfield]

/-- The text with a space for each line feed. -/
def flattened (s : String) : String :=
  String.ofList (s.toList.map fun c => if c = '\n' then ' ' else c)

/-- Between quotes, what was escaped is read back character by character. -/
theorem readFrom?_escapeChar (cs field : List Char) (fields : List String) (rest : List Char) :
    readFrom? .quoted field fields (cs.flatMap escapeChar ++ '"' :: rest) =
      readFrom? .closed (field ++ cs.map fun c => if c = '\n' then ' ' else c) fields rest := by
  induction cs generalizing field with
  | nil => simp [readFrom?]
  | cons c cs ih =>
    rw [List.flatMap_cons, List.append_assoc, escapeChar]
    split
    · next h =>
      obtain rfl := beq_iff_eq.1 h
      simp [readFrom?, ih]
    split
    · next h =>
      obtain rfl := beq_iff_eq.1 h
      simp [readFrom?, ih]
    · next hquote hnewline =>
      rw [beq_iff_eq] at hquote hnewline
      simp [readFrom?, ih, hnewline]

/-- **A quoted text is one field**, whatever characters it has. -/
theorem spells_quote (s : String) : Spells (quote s) (flattened s) := by
  have hquote : ∀ rest, (quote s).toList ++ rest =
      '"' :: (s.toList.flatMap escapeChar ++ '"' :: rest) := by simp [quote]
  constructor <;> intro fields rest <;> rw [hquote, readFrom?, readFrom?_escapeChar] <;> rfl

/-! ### Records -/

/-- **Fields with commas between them are one record**, up to the line feed. -/
theorem readFrom?_intercalate {text field : String} {texts fields : List String}
    (h : Spells text field) (hs : List.Forall₂ Spells texts fields) (before : List String)
    (rest : List Char) :
    readFrom? .start [] before ((",".intercalate (text :: texts)).toList ++ '\n' :: rest) =
      (readFrom? .start [] [] rest).map ((before ++ field :: fields) :: ·) := by
  induction hs generalizing text field before with
  | nil => simpa using h.newline before rest
  | @cons next nextField texts fields hnext _ ih =>
    have htext : (",".intercalate (text :: next :: texts)).toList ++ '\n' :: rest =
        text.toList ++ ',' :: ((",".intercalate (next :: texts)).toList ++ '\n' :: rest) := by
      simp
    rw [htext, h.comma, ih hnext, List.append_assoc, List.singleton_append]

/-- The fields of the header. -/
def headerFields : List String := ["Category", "UID", "Member", "Kind", "Impact", "Detail"]

/-- What the record of an entry tells. -/
def fieldsOf (e : Entry) : List String :=
  [e.category.key, flattened e.uid.text, flattened (e.change.part.getD ""), e.kind.word,
    e.impact.label, flattened e.change.detail]

theorem readFrom?_header (rest : List Char) :
    readFrom? .start [] [] (header.toList ++ '\n' :: rest) =
      (readFrom? .start [] [] rest).map (headerFields :: ·) := by
  have hspells : ∀ s ∈ headerFields, Spells s s := by
    have hbare : ∀ s ∈ headerFields, Bare s.toList := by decide
    exact fun s hs => spells_bare (hbare s hs)
  have hheader : header = ",".intercalate headerFields := rfl
  obtain ⟨hcategory, hrest⟩ := List.forall_mem_cons.1 hspells
  rw [hheader]
  exact readFrom?_intercalate hcategory (List.forall₂_same.2 hrest) [] rest

/-- **The record of an entry tells its six fields.** -/
theorem readFrom?_record (e : Entry) (rest : List Char) :
    readFrom? .start [] [] ((record e).toList ++ '\n' :: rest) =
      (readFrom? .start [] [] rest).map (fieldsOf e :: ·) := by
  have hcategory : Spells e.category.key e.category.key :=
    spells_bare (by cases e.category <;> decide)
  have hkind : Spells e.kind.word e.kind.word := spells_bare (by cases e.kind <;> decide)
  have himpact : Spells e.impact.label e.impact.label :=
    spells_bare (by cases e.impact <;> decide)
  exact readFrom?_intercalate hcategory (.cons (spells_quote _) (.cons (spells_quote _)
    (.cons hkind (.cons himpact (.cons (spells_quote _) .nil))))) [] rest

theorem readFrom?_records (es : List Entry) :
    readFrom? .start [] [] (es.flatMap fun e => (record e).toList ++ ['\n']) =
      some (es.map fieldsOf) := by
  induction es with
  | nil => rfl
  | cons e es ih =>
    rw [List.flatMap_cons, List.append_assoc, List.singleton_append, readFrom?_record, ih,
      List.map_cons, Option.map_some]

end Csv

open Csv

namespace Report

/-- **A report is read back record by record**: the header and one record for each entry that a
group shows, in the order of the groups.  What an identifier, a member or a detail contains changes
its own field alone. -/
theorem read?_csvText (r : Report) :
    read? r.csvText = some (headerFields :: r.groups.flatMap fun g =>
      g.impacts.flatMap fun i => i.entries.map fieldsOf) := by
  have hentries : r.entries.map fieldsOf = r.groups.flatMap fun g =>
      g.impacts.flatMap fun i => i.entries.map fieldsOf := by
    simp only [entries, List.map_flatMap]
  have htext : r.csvText.toList =
      header.toList ++ '\n' :: r.entries.flatMap fun e => (record e).toList ++ ['\n'] := by
    simp [csvText, String.toList_join, List.flatMap_map]
  rw [read?, htext, readFrom?_header, readFrom?_records, hentries]
  rfl

/-- Changes to two records and a variable, whose texts have quotes, commas and line ends. -/
def quotedDiff : Diff where
  entries := [
    { uid := ⟨"Map<int, \"k\">"⟩, category := .records,
      change := { impact := .breaking, part := some "a,\nb", detail := "offset 0,\nnow \"32\"" } },
    { uid := ⟨"Pair"⟩, category := .records,
      change := { kind := .added, impact := .nonBreaking, detail := "record 'Pair' added" } },
    { uid := ⟨"x\r\ny"⟩, category := .globals,
      change := { kind := .removed, impact := .breaking, detail := "\"" } }]

/-- The fields of three groups are read back, and no character of a text ends one. -/
theorem read?_csvText_quotedDiff : read? (ofDiff {} quotedDiff).csvText = some [
    ["Category", "UID", "Member", "Kind", "Impact", "Detail"],
    ["records", "Map<int, \"k\">", "a, b", "changed", "breaking", "offset 0, now \"32\""],
    ["records", "Pair", "", "added", "non_breaking", "record 'Pair' added"],
    ["global_vars", "x\r y", "", "removed", "breaking", "\""]] :=
  (read?_csvText (ofDiff {} quotedDiff)).trans (by decide)

end Report

end HeaderAbi
