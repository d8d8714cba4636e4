import EventRelay.Event.Wire
import EventRelay.Proofs.Json.Members
import EventRelay.Proofs.Text.Blank

namespace EventRelay.Event

open Json

def fieldNames : List (String × Field) :=
  [("program_name", .source), ("source", .source), ("title", .title), ("message", .title),
    ("details", .details), ("message_tag", .tag), ("tag", .tag), ("error_tag", .tag),
    ("message_type", .level), ("level", .level), ("error_level", .level),
    ("timestamp", .timestamp)]

def fieldNamed? (name : String) : Option Field := fieldNames.lookup name

theorem ofKey?_eq_fieldNamed? (key : String) : Field.ofKey? key = fieldNamed? key := by
  unfold fieldNamed?
  by_cases named : key ∈ fieldNames.map Prod.fst
  · have known : ∀ key ∈ fieldNames.map Prod.fst, Field.ofKey? key = fieldNames.lookup key := by
      decide +kernel
    exact known key named
  · have none : fieldNames.lookup key = none := by
      rw [List.lookup_eq_none_iff]
      rintro ⟨name, f⟩ hm
      rw [bne_iff_ne]
      rintro rfl
      exact named (List.mem_map_of_mem hm)
    have all : ∀ f ∈ Field.all, ∀ name ∈ f.key :: f.aliases, name ∈ fieldNames.map Prod.fst := by
      decide
    rw [none, Field.ofKey?, List.find?_eq_none]
    intro f hf known
    simp only [Bool.or_eq_true, decide_eq_true_eq, List.contains_iff_mem] at known
    exact named (all f hf key (List.mem_cons.mpr known))

def Known.take (k : Known) (f : Field) (t : Tree) : Option Known :=
  match f with
  | .source => (once? k.source t.text?).map fun v => { k with source := v }
  | .title => (once? k.title t.text?).map fun v => { k with title := v }
  | .details => (once? k.details t.text?).map fun v => { k with details := v }
  | .tag => (once? k.tag (t.optional? Tree.text?)).map fun v => { k with tag := v }
  | .level => (once? k.level (t.text?.map Level.ofName)).map fun v => { k with level := v }
  | .timestamp => (once? k.timestamp (t.optional? Tree.int64?)).map
      fun v => { k with timestamp := v }

def learn (name : String) (t : Tree) (k : Known) : Option Known :=
  match fieldNamed? name with
  | some f => k.take f t
  | none => some k

theorem understands_level : Understands readLevel fun t => t.text?.map Level.ofName :=
  (understands_text "a string").map Level.ofName

theorem understands_field (name : String) (k : Known) :
    UnderstandsMember (readField name k) fun t => learn name t k := by
  have text : Understands readString Tree.text? := understands_text "a string"
  unfold readField learn
  rw [ofKey?_eq_fieldNamed?]
  cases fieldNamed? name with
  | none => exact understands_skipped k
  | some f =>
    cases f with
    | source => exact (text.once _ k.source).map fun v => { k with source := v }
    | title => exact (text.once _ k.title).map fun v => { k with title := v }
    | details => exact (text.once _ k.details).map fun v => { k with details := v }
    | tag => exact (text.optional.once _ k.tag).map fun v => { k with tag := v }
    | level => exact (understands_level.once _ k.level).map fun v => { k with level := v }
    | timestamp =>
      exact (understands_int64.optional.once _ k.timestamp).map fun v => { k with timestamp := v }

def checked? (e : Event) : Option Event := e.validate.toOption.map fun _ => e

/-- The event that an object with these members stands for, if it is one that is accepted. -/
def ofMembers? (ms : List Member) : Option Event :=
  ((learnAll learn {} ms).bind Known.toEvent?).bind checked?

theorem readNamed_object {ms : List Member} {s : List Char} (h : Spells (.members ms) s)
    (rest : List Char) :
    (readNamed (s ++ '}' :: rest)).toOption =
      ((learnAll learn {} ms).bind Known.toEvent?).map fun e => (e, '}' :: rest) := by
  have enough : ms.length < (s ++ '}' :: rest).length + 1 := by
    have := length_members h
    rw [List.length_append]
    omega
  rw [readNamed, toOption_bind, readMembers_members understands_field h {} enough]
  cases learnAll learn {} ms with
  | none => rfl
  | some k =>
    rw [Option.map_some, Option.bind_some, Option.bind_some]
    dsimp only
    cases k.toEvent? <;> rfl

theorem read_object {ms : List Member} {s : List Char} (h : Spells (.members ms) s) :
    (readWhole read ('{' :: s ++ ['}'])).toOption = (learnAll learn {} ms).bind Known.toEvent? := by
  have named := readNamed_object h []
  have record : (read ('{' :: s ++ ['}'])).toOption =
      ((learnAll learn {} ms).bind Known.toEvent?).map fun e => (e, []) := by
    rw [List.cons_append]
    change (readNamed (s ++ ['}']) >>= fun (e, s) => closeObject s >>= fun s => .ok (e, s)).toOption
      = _
    rw [toOption_bind, named, Option.bind_map]
    cases (learnAll learn {} ms).bind Known.toEvent? <;> rfl
  rw [readWhole, toOption_bind, record, Option.bind_map]
  cases (learnAll learn {} ms).bind Known.toEvent? <;> rfl

theorem decode_object {line : String} {ms : List Member}
    (h : Spells (.element (.object ms)) line.toList) :
    (decode line).toOption = ofMembers? ms := by
  generalize text : line.toList = cs at h
  cases h with
  | @element _ s before behind hb hv hr =>
    cases hv with
    | @object _ s hm =>
      have trimmed : Text.trimList line.toList = '{' :: s ++ ['}'] := by
        rw [text, ← List.append_assoc]
        exact Text.trimList_blanks (fun c h => isBlank_of_isSpace (hb c h))
          (fun c h => isBlank_of_isSpace (hr c h)) (by decide) (by decide) s
      have some : ('{' :: s ++ ['}']).isEmpty = false := rfl
      unfold decode
      rw [trimmed]
      dsimp only
      rw [some, if_neg (by decide), ofMembers?, ← read_object hm]
      cases readWhole read ('{' :: s ++ ['}']) with
      | error e => rfl
      | ok e =>
        change (e.validate >>= fun _ => .ok e).toOption = checked? e
        rw [checked?]
        cases e.validate <;> rfl

end EventRelay.Event
