import EventRelay.Mail.Envelope
import EventRelay.Proofs.Mail.EncodedWord

namespace EventRelay.Mail

/-- A line break before a space does not end a line. -/
def unfolded : List Char → List Char
  | '\r' :: '\n' :: ' ' :: s => ' ' :: unfolded s
  | c :: s => c :: unfolded s
  | [] => []

def field? (line : List Char) : Option (String × String) :=
  (Text.cut? [':', ' '] line).map fun (name, value) => (String.ofList name, String.ofList value)

def readFields? (head : List Char) : Option (List (String × String)) :=
  (Text.parts ['\r', '\n'] (unfolded head)).mapM field?

def readMessage? (s : List Char) : Option (List Char × List Char) :=
  Text.cut? ['\r', '\n', '\r', '\n'] s

def Unbroken (s : List Char) : Prop := '\r' ∉ s ∧ '\n' ∉ s

instance (s : List Char) : Decidable (Unbroken s) :=
  inferInstanceAs (Decidable ('\r' ∉ s ∧ '\n' ∉ s))

theorem Unbroken.append {s t : List Char} (hs : Unbroken s) (ht : Unbroken t) :
    Unbroken (s ++ t) := by
  simp only [Unbroken, List.mem_append, not_or]
  exact ⟨⟨hs.1, ht.1⟩, ⟨hs.2, ht.2⟩⟩

theorem Unbroken.intercalate {sep : List Char} {ps : List (List Char)} (hs : Unbroken sep)
    (h : ∀ p ∈ ps, Unbroken p) : Unbroken (sep.intercalate ps) := by
  induction ps with
  | nil => exact ⟨List.not_mem_nil, List.not_mem_nil⟩
  | cons p ps ih =>
    rw [List.forall_mem_cons] at h
    cases ps with
    | nil =>
      rw [List.intercalate_singleton]
      exact h.1
    | cons q ps =>
      rw [List.intercalate_cons_cons]
      exact (h.1.append hs).append (ih h.2)

/-- Every line but the first begins with a space. -/
inductive Folded : List Char → Prop
  | line {p : List Char} (free : Unbroken p) : Folded p
  | more {p v : List Char} (free : Unbroken p) (rest : Folded v) :
    Folded (p ++ '\r' :: '\n' :: ' ' :: v)

theorem unfolded_cons {c : Char} (other : c ≠ '\r') (s : List Char) :
    unfolded (c :: s) = c :: unfolded s := by
  rw [unfolded.eq_def]
  split
  · next same => exact absurd (List.cons.inj same).1 other
  · next same =>
    cases same
    rfl
  · next same => cases same

theorem unfolded_append {p : List Char} (free : '\r' ∉ p) (s : List Char) :
    unfolded (p ++ s) = p ++ unfolded s := by
  induction p with
  | nil => rfl
  | cons c p ih =>
    rw [List.mem_cons, not_or] at free
    rw [List.cons_append, unfolded_cons (Ne.symm free.1), ih free.2]
    rfl

theorem unfolded_of_unbroken {p : List Char} (free : Unbroken p) : unfolded p = p := by
  have whole := unfolded_append free.1 []
  rwa [List.append_nil, unfolded, List.append_nil] at whole

theorem unfolded_break {c : Char} (other : c ≠ ' ') (s : List Char) :
    unfolded ('\r' :: '\n' :: c :: s) = '\r' :: '\n' :: unfolded (c :: s) := by
  rw [unfolded.eq_def]
  split
  · next same =>
    cases same
    exact absurd rfl other
  · next same =>
    cases same
    rw [unfolded_cons (by decide)]
  · next same => cases same

theorem readMessage?_cons {c : Char} (other : c ≠ '\r') {s before behind : List Char}
    (h : readMessage? s = some (before, behind)) :
    readMessage? (c :: s) = some (c :: before, behind) := by
  rw [readMessage?, Text.cut?_cons other, ← readMessage?, h]
  rfl

theorem readMessage?_break {c : Char} (other : c ≠ '\r') {s before behind : List Char}
    (h : readMessage? (c :: s) = some (before, behind)) :
    readMessage? ('\r' :: '\n' :: c :: s) = some ('\r' :: '\n' :: before, behind) := by
  rw [readMessage?, Text.cut?]
  simp only [List.isPrefixOf?, Ne.symm other, beq_self_eq_true, beq_iff_eq, if_true, if_false]
  rw [← readMessage?, readMessage?_cons (by decide) h]
  rfl

namespace Folded

variable {v : List Char}

theorem append (h : Folded v) (s : List Char) : unfolded (v ++ s) = unfolded v ++ unfolded s := by
  induction h with
  | line free => rw [unfolded_append free.1, unfolded_of_unbroken free]
  | more free _ ih =>
    rw [List.append_assoc, unfolded_append free.1, unfolded_append free.1, List.append_assoc]
    simp only [List.cons_append, unfolded, ih]

theorem unbroken (h : Folded v) : Unbroken (unfolded v) := by
  induction h with
  | line free => rwa [unfolded_of_unbroken free]
  | more free _ ih =>
    rw [unfolded_append free.1, unfolded]
    simp only [Unbroken, List.mem_append, List.mem_cons] at free ih ⊢
    simp [free, ih]

theorem readMessage? (h : Folded v) {s before behind : List Char}
    (found : Mail.readMessage? s = some (before, behind)) :
    Mail.readMessage? (v ++ s) = some (v ++ before, behind) := by
  induction h with
  | line free => exact Text.cut?_behind free.1 found
  | more free _ ih =>
    rw [List.append_assoc, List.append_assoc]
    exact Text.cut?_behind free.1
      (readMessage?_break (by decide) (readMessage?_cons (by decide) ih))

theorem behind {p : List Char} (free : Unbroken p) (h : Folded v) : Folded (p ++ v) := by
  cases h with
  | line other => exact .line (free.append other)
  | more other rest =>
    rw [← List.append_assoc]
    exact .more (free.append other) rest

theorem intercalate {ps : List (List Char)} (free : ∀ p ∈ ps, Unbroken p) :
    Folded (EncodedWord.separator.toList.intercalate ps) := by
  induction ps with
  | nil => exact .line ⟨List.not_mem_nil, List.not_mem_nil⟩
  | cons p ps ih =>
    rw [List.forall_mem_cons] at free
    cases ps with
    | nil =>
      rw [List.intercalate_singleton]
      exact .line free.1
    | cons q ps =>
      rw [List.intercalate_cons_cons, List.append_assoc]
      exact .more free.1 (ih free.2)

end Folded

theorem folded_encode (value : String) : Folded (EncodedWord.encode value).toList := by
  cases plain : value.toList.all EncodedWord.isPlain with
  | true =>
    rw [EncodedWord.encode, if_pos plain]
    rw [List.all_eq_true] at plain
    exact .line ⟨fun ret => absurd (plain _ ret) (by decide),
      fun feed => absurd (plain _ feed) (by decide)⟩
  | false =>
    obtain ⟨groups, -, -, written⟩ := EncodedWord.encode_eq plain
    rw [written]
    refine .intercalate fun p hp => ?_
    obtain ⟨g, -, rfl⟩ := List.mem_map.mp hp
    exact EncodedWord.unbroken_frame (EncodedWord.isPayload_wordOf g)

def line (field : String × String) : List Char :=
  field.1.toList ++ ':' :: ' ' :: field.2.toList

def isNameChar (c : Char) : Bool := c ∉ [':', ' ', '\r', '\n']

def IsName (name : List Char) : Prop := name ≠ [] ∧ name.all isNameChar = true

instance (name : List Char) : Decidable (IsName name) :=
  inferInstanceAs (Decidable (name ≠ [] ∧ name.all isNameChar = true))

theorem IsName.not_mem {name : List Char} (h : IsName name) {c : Char}
    (other : isNameChar c = false) : c ∉ name := by
  intro hc
  rw [List.all_eq_true.mp h.2 c hc] at other
  cases other

structure IsField (field : String × String) : Prop where
  name : IsName field.1.toList
  value : Folded field.2.toList

def onOneLine (field : String × String) : String × String :=
  (field.1, String.ofList (unfolded field.2.toList))

section Fields

variable {field : String × String} {fields : List (String × String)}

theorem IsField.label (h : IsField field) : Unbroken (field.1.toList ++ [':', ' ']) := by
  constructor <;> rw [List.mem_append, not_or]
  · exact ⟨h.name.not_mem rfl, by decide⟩
  · exact ⟨h.name.not_mem rfl, by decide⟩

theorem line_eq : line field = (field.1.toList ++ [':', ' ']) ++ field.2.toList := by
  rw [List.append_assoc]
  rfl

theorem IsField.folded (h : IsField field) : Folded (line field) := by
  rw [line_eq]
  exact h.value.behind h.label

theorem IsField.start (h : IsField field) : ∃ c s, line field = c :: s ∧ c ≠ ' ' ∧ c ≠ '\r' := by
  obtain ⟨c, s, name⟩ := List.exists_cons_of_ne_nil h.name.1
  have mem : c ∈ field.1.toList := name ▸ List.mem_cons_self
  refine ⟨c, s ++ ':' :: ' ' :: field.2.toList, ?_, ?_, ?_⟩
  · rw [line, name]
    rfl
  · rintro rfl
    exact h.name.not_mem rfl mem
  · rintro rfl
    exact h.name.not_mem rfl mem

theorem unfolded_line (h : IsField field) : unfolded (line field) = line (onOneLine field) := by
  rw [line_eq, line_eq, unfolded_append h.label.1]
  simp [onOneLine]

theorem field?_line (h : IsField field) :
    field? (line (onOneLine field)) = some (onOneLine field) := by
  have free : ':' ∉ field.1.toList := h.name.not_mem rfl
  have found := Text.cut?_behind free (Text.cut?_word [':', ' '] (unfolded field.2.toList))
  rw [List.append_nil] at found
  simp only [field?, line, onOneLine, String.toList_ofList]
  change Option.map _ (Text.cut? [':', ' '] (field.1.toList ++ ([':', ' '] ++ _))) = _
  rw [found, Option.map_some, String.ofList_toList]

def lines (fields : List (String × String)) : List Char :=
  ['\r', '\n'].intercalate (fields.map line)

theorem lines_singleton (f : String × String) : lines [f] = line f :=
  List.intercalate_singleton

theorem lines_cons (f g : String × String) (fields : List (String × String)) :
    lines (f :: g :: fields) = line f ++ '\r' :: '\n' :: lines (g :: fields) := by
  rw [lines, List.map_cons, List.map_cons, List.intercalate_cons_cons, List.append_assoc]
  rfl

theorem flatMap_line (some : fields ≠ []) :
    (fields.flatMap fun f => line f ++ ['\r', '\n']) = lines fields ++ ['\r', '\n'] := by
  induction fields with
  | nil => exact absurd rfl some
  | cons f fields ih =>
    cases fields with
    | nil => rw [List.flatMap_singleton, lines_singleton]
    | cons g fields =>
      rw [List.flatMap_cons, ih (List.cons_ne_nil g fields), lines_cons, List.append_assoc,
        List.append_assoc]
      rfl

theorem lines_start (h : IsField field) :
    ∃ c s, lines (field :: fields) = c :: s ∧ c ≠ ' ' ∧ c ≠ '\r' := by
  obtain ⟨c, s, start, other⟩ := h.start
  cases fields with
  | nil => exact ⟨c, s, by rw [lines_singleton, start], other⟩
  | cons g fields => exact ⟨c, _, by rw [lines_cons, start, List.cons_append], other⟩

theorem readMessage?_lines (some : fields ≠ []) (h : ∀ f ∈ fields, IsField f) (body : List Char) :
    readMessage? (lines fields ++ '\r' :: '\n' :: '\r' :: '\n' :: body) =
      Option.some (lines fields, body) := by
  induction fields with
  | nil => exact absurd rfl some
  | cons f fields ih =>
    rw [List.forall_mem_cons] at h
    cases fields with
    | nil =>
      have found := h.1.folded.readMessage? (Text.cut?_word ['\r', '\n', '\r', '\n'] body)
      rwa [List.append_nil, ← lines_singleton] at found
    | cons g fields =>
      have later := ih (List.cons_ne_nil g fields) h.2
      obtain ⟨c, s, start, -, other⟩ := @lines_start g fields (h.2 g List.mem_cons_self)
      rw [start] at later
      rw [lines_cons, List.append_assoc, start]
      exact h.1.folded.readMessage? (readMessage?_break other later)

theorem unfolded_lines (h : ∀ f ∈ fields, IsField f) :
    unfolded (lines fields) = lines (fields.map onOneLine) := by
  induction fields with
  | nil => rfl
  | cons f fields ih =>
    rw [List.forall_mem_cons] at h
    cases fields with
    | nil => rw [lines_singleton, unfolded_line h.1, ← lines_singleton, List.map_singleton]
    | cons g fields =>
      obtain ⟨c, s, start, other, -⟩ := @lines_start g fields (h.2 g List.mem_cons_self)
      rw [lines_cons, start, h.1.folded.append, unfolded_break other, ← start, ih h.2,
        unfolded_line h.1]
      exact (lines_cons _ _ _).symm

theorem fields?_lines (h : ∀ f ∈ fields, IsField f) :
    ((fields.map onOneLine).map line).mapM field? = some (fields.map onOneLine) := by
  induction fields with
  | nil => rfl
  | cons f fields ih =>
    rw [List.forall_mem_cons] at h
    rw [List.map_cons, List.map_cons, List.mapM_cons, field?_line h.1, ih h.2]
    rfl

theorem readFields?_lines (some : fields ≠ []) (h : ∀ f ∈ fields, IsField f) :
    readFields? (lines fields) = Option.some (fields.map onOneLine) := by
  have free : ∀ l ∈ (fields.map onOneLine).map line, '\r' ∉ l := by
    intro l hl
    rw [List.map_map] at hl
    obtain ⟨f, hf, rfl⟩ := List.mem_map.mp hl
    rw [Function.comp_apply, ← unfolded_line (h f hf)]
    exact (h f hf).folded.unbroken.1
  rw [readFields?, unfolded_lines h, lines, Text.parts_intercalate free (by simpa using some),
    fields?_lines h]

end Fields

namespace Envelope

variable (e : Envelope)

theorem toList_header : e.header.toList = lines e.fields ++ ['\r', '\n'] := by
  have some : e.fields ≠ [] := List.cons_ne_nil _ _
  rw [← flatMap_line some, header, String.toList_join, List.flatMap_map]
  congr 1
  funext ⟨name, value⟩
  simp [line, lineBreak, toString]

variable {e}

theorem unbroken_recipientText (h : ∀ r ∈ e.recipients, Unbroken r.toList) :
    Unbroken e.recipientText.toList := by
  rw [recipientText, String.toList_intercalate]
  exact .intercalate (by decide) (List.forall_mem_map.mpr h)

theorem isField (sender : Unbroken e.sender.toList)
    (recipients : ∀ r ∈ e.recipients, Unbroken r.toList) : ∀ f ∈ e.fields, IsField f := by
  have text {name value : String} (named : IsName name.toList) (free : Unbroken value.toList) :
      IsField (name, value) := ⟨named, .line free⟩
  simp only [fields, List.forall_mem_cons]
  exact ⟨text (by decide) sender, text (by decide) (unbroken_recipientText recipients),
    ⟨(by decide : IsName "Subject".toList), folded_encode e.subject⟩,
    text (by decide) (by decide), text (by decide) (by decide), text (by decide) (by decide),
    by simp⟩

theorem onOneLine_fields (sender : Unbroken e.sender.toList)
    (recipients : ∀ r ∈ e.recipients, Unbroken r.toList) :
    e.fields.map onOneLine =
      [("From", e.sender), ("To", e.recipientText),
        onOneLine ("Subject", EncodedWord.encode e.subject), ("MIME-Version", "1.0"),
        ("Content-Type", "text/html; charset=utf-8"), ("Content-Transfer-Encoding", "8bit")] := by
  have same (name value : String) (free : Unbroken value.toList) :
      onOneLine (name, value) = (name, value) := by
    rw [onOneLine, unfolded_of_unbroken free, String.ofList_toList]
  rw [fields, List.map_cons, List.map_cons, List.map_cons, List.map_cons, List.map_cons,
    List.map_cons, same "From" _ sender, same "To" _ (unbroken_recipientText recipients),
    same "MIME-Version" _ (by decide), same "Content-Type" _ (by decide),
    same "Content-Transfer-Encoding" _ (by decide)]
  rfl

/--
Where neither the sender nor a recipient holds a line break, the header that a reader finds has the
six fields and no other ones, and the body is the page. The subject may hold anything.
-/
theorem readMessage?_message (sender : Unbroken e.sender.toList)
    (recipients : ∀ r ∈ e.recipients, Unbroken r.toList) :
    ∃ head, readMessage? e.message.toList = some (head, e.html.toList) ∧
      readFields? head = some
        [("From", e.sender),
          ("To", ", ".intercalate e.recipients),
          ("Subject", String.ofList (unfolded (EncodedWord.encode e.subject).toList)),
          ("MIME-Version", "1.0"),
          ("Content-Type", "text/html; charset=utf-8"),
          ("Content-Transfer-Encoding", "8bit")] ∧
      Unbroken (unfolded (EncodedWord.encode e.subject).toList) := by
  have valid := isField sender recipients
  have some : e.fields ≠ [] := List.cons_ne_nil _ _
  refine ⟨lines e.fields, ?_, ?_, (folded_encode e.subject).unbroken⟩
  · rw [message, String.toList_append, String.toList_append, toList_header, List.append_assoc,
      List.append_assoc]
    exact readMessage?_lines some valid _
  · rw [readFields?_lines some valid, onOneLine_fields sender recipients]
    rfl

theorem readMessage?_hostile_subject :
    let e : Envelope := ⟨"relay@host", ["ops@host"], "x\r\nBcc: all@host\r\n\r\n", "<p>"⟩
    (Unbroken e.sender.toList ∧ ∀ r ∈ e.recipients, Unbroken r.toList) ∧
      ∃ head, readMessage? e.message.toList = some (head, "<p>".toList) ∧
        readFields? head = some
          [("From", "relay@host"),
            ("To", "ops@host"),
            ("Subject", String.ofList (unfolded (EncodedWord.encode e.subject).toList)),
            ("MIME-Version", "1.0"),
            ("Content-Type", "text/html; charset=utf-8"),
            ("Content-Transfer-Encoding", "8bit")] ∧
        Unbroken (unfolded (EncodedWord.encode e.subject).toList) :=
  ⟨by decide, readMessage?_message (by decide) (by decide)⟩

end Envelope

end EventRelay.Mail
