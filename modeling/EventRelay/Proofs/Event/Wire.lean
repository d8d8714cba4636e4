import EventRelay.Event.Wire
import EventRelay.Proofs.Json.Records

namespace EventRelay

@[simp] theorem Level.ofName_name (level : Level) : Level.ofName level.name = level := by
  cases level <;> decide +kernel

namespace Event

open Json

variable {e : Event}

def value? (e : Event) : Field → Option Value
  | .source => some (.string e.source)
  | .title => some (.string e.title)
  | .details => some (.string e.details)
  | .tag => e.tag.map .string
  | .level => some (.string e.level.name)
  | .timestamp => e.timestamp.map .int

def member? (e : Event) (f : Field) : Option (String × Value) :=
  (e.value? f).map fun v => (f.key, v)

def members (e : Event) : List (String × Value) := Field.all.filterMap e.member?

theorem toValue_eq (e : Event) : e.toValue = .object e.members := by
  obtain ⟨source, title, details, tag, level, timestamp⟩ := e
  cases tag <;> cases timestamp <;> rfl

theorem toList_text (e : Event) :
    e.toValue.text.toList = bracketed '{' '}' (renderMembers e.members) := by
  rw [Value.text, String.toList_ofList, toValue_eq, Value.render]

def TimeFits (e : Event) : Prop := ∀ t ∈ e.timestamp, IsInt64 t

@[simp] theorem ofKey?_key (f : Field) : Field.ofKey? f.key = some f := by
  cases f <;> decide +kernel

theorem reads_level (level : Level) : Reads readLevel (renderString level.name) level := by
  have read := (reads_text "a string" level.name).map Level.ofName
  rw [Level.ofName_name] at read
  exact read

def Known.Lacks (k : Known) : Field → Prop
  | .source => k.source = none
  | .title => k.title = none
  | .details => k.details = none
  | .tag => k.tag = none
  | .level => k.level = none
  | .timestamp => k.timestamp = none

def Known.learn (e : Event) (k : Known) : Field → Known
  | .source => { k with source := some e.source }
  | .title => { k with title := some e.title }
  | .details => { k with details := some e.details }
  | .tag => { k with tag := e.tag.map some }
  | .level => { k with level := some e.level }
  | .timestamp => { k with timestamp := e.timestamp.map some }

section Fields

variable {k : Known} {f : Field}

theorem Known.Lacks.learn {g : Field} (lacks : k.Lacks g) (other : f ≠ g) :
    (k.learn e f).Lacks g := by
  cases f <;> cases g <;> first | exact lacks | exact absurd rfl other

theorem Known.Lacks.learn_eq (lacks : k.Lacks f) (hidden : e.value? f = none) :
    k.learn e f = k := by
  obtain ⟨source, title, details, tag, level, timestamp⟩ := k
  cases f with
  | source | title | details | level => cases hidden
  | tag =>
    cases lacks
    rw [Known.learn, Option.map_eq_none_iff.mp hidden]
    rfl
  | timestamp =>
    cases lacks
    rw [Known.learn, Option.map_eq_none_iff.mp hidden]
    rfl

theorem reads_field {v : Value} (lacks : k.Lacks f) (shown : e.value? f = some v)
    (time : e.TimeFits) : Reads (readField f.key k) (':' :: v.render) (k.learn e f) := by
  unfold readField
  rw [ofKey?_key]
  cases f with
  | source =>
    rw [show k.source = none from lacks]
    cases shown
    exact (reads_once (reads_text "a string" e.source) _).map fun v => { k with source := v }
  | title =>
    rw [show k.title = none from lacks]
    cases shown
    exact (reads_once (reads_text "a string" e.title) _).map fun v => { k with title := v }
  | details =>
    rw [show k.details = none from lacks]
    cases shown
    exact (reads_once (reads_text "a string" e.details) _).map fun v => { k with details := v }
  | tag =>
    rw [show k.tag = none from lacks]
    obtain ⟨s, hs, rfl⟩ := Option.map_eq_some_iff.mp shown
    rw [Known.learn, hs]
    have text := (reads_text "a string" s).optional (shows_renderString s)
    exact (reads_once text _).map fun v => { k with tag := v }
  | level =>
    rw [show k.level = none from lacks]
    cases shown
    exact (reads_once (reads_level e.level) _).map fun v => { k with level := v }
  | timestamp =>
    rw [show k.timestamp = none from lacks]
    obtain ⟨t, ht, rfl⟩ := Option.map_eq_some_iff.mp shown
    rw [Known.learn, ht]
    have number := (reads_int (time t ht)).optional (shows_int t)
    exact (reads_once number _).map fun v => { k with timestamp := v }

theorem takes_fields (time : e.TimeFits) {fields : List Field} (once : fields.Nodup)
    (lacks : ∀ f ∈ fields, k.Lacks f) :
    Takes readField (fields.filterMap e.member?) k (fields.foldl (Known.learn e) k) := by
  induction fields generalizing k with
  | nil => exact .nil k
  | cons f fields ih =>
    obtain ⟨fresh, once⟩ := List.nodup_cons.mp once
    have lacking : k.Lacks f := lacks f List.mem_cons_self
    have others : ∀ g ∈ fields, (k.learn e f).Lacks g := by
      intro g hg
      exact (lacks g (List.mem_cons_of_mem _ hg)).learn fun eq => fresh (eq ▸ hg)
    rw [List.filterMap_cons, member?, List.foldl_cons]
    cases shown : e.value? f with
    | none =>
      rw [lacking.learn_eq shown] at others ⊢
      exact ih once others
    | some v => exact .cons (reads_field lacking shown time) (ih once others)

end Fields

theorem takes_members (time : e.TimeFits) :
    Takes readField e.members {} (Field.all.foldl (Known.learn e) {}) := by
  apply takes_fields time (by decide)
  intro f _
  cases f <;> rfl

theorem toEvent?_learn (e : Event) : (Field.all.foldl (Known.learn e) {}).toEvent? = some e := by
  obtain ⟨source, title, details, tag, level, timestamp⟩ := e
  cases tag <;> cases timestamp <;> rfl

theorem readNamed_members (h : e.TimeFits) (rest : List Char) :
    readNamed (List.intercalate [','] (renderMembers e.members) ++ '}' :: rest) =
      .ok (e, '}' :: rest) := by
  have members := (takes_members h).readMembers rest
  simp only [readNamed, members, bind, Except.bind, toEvent?_learn]

theorem readWhole_text (h : e.TimeFits) : readWhole read e.toValue.text.toList = .ok e := by
  rw [toList_text]
  apply readWhole_ok
  intro rest
  exact readRecord_object readPositional typeName rest (readNamed_members h rest)

theorem decode_of_trimList {line : String}
    (same : Text.trimList line.toList = e.toValue.text.toList) (h : e.TimeFits) :
    decode line = e.validate.map fun _ => e := by
  have shown : e.toValue.text.toList.isEmpty = false := by
    rw [toList_text]
    rfl
  unfold decode
  rw [same]
  simp only [shown, readWhole_text h]
  cases e.validate <;> rfl

theorem trimList_text (e : Event) :
    Text.trimList e.toValue.text.toList = e.toValue.text.toList := by
  rw [toList_text, trimList_object]

theorem decode_text (named : Text.isBlankText e.source = false) (h : e.TimeFits) :
    decode e.toValue.text = .ok e := by
  rw [decode_of_trimList e.trimList_text h]
  unfold validate
  rw [named]
  rfl

theorem isPrinted_text (e : Event) : IsPrinted e.toValue.text.toList := by
  rw [toList_text]
  apply isPrinted_object
  intro m hm
  obtain ⟨f, -, hf⟩ := List.mem_filterMap.mp hm
  obtain ⟨v, hv, rfl⟩ := Option.map_eq_some_iff.mp hf
  cases f with
  | source | title | details | level =>
    cases hv
    exact isPrinted_renderString _
  | tag =>
    obtain ⟨tag, -, rfl⟩ := Option.map_eq_some_iff.mp hv
    exact isPrinted_renderString tag
  | timestamp =>
    obtain ⟨t, -, rfl⟩ := Option.map_eq_some_iff.mp hv
    exact isPrinted_int t

theorem feed_not_mem_text (e : Event) : '\n' ∉ e.toValue.text.toList :=
  e.isPrinted_text.not_mem (by decide)

theorem return_not_mem_text (e : Event) : '\r' ∉ e.toValue.text.toList :=
  e.isPrinted_text.not_mem (by decide)

theorem trimEnd_text (e : Event) :
    Text.trimEnd e.toValue.text.toList = e.toValue.text.toList := by
  rw [toList_text]
  exact Text.trimEnd_concat (by decide) _

theorem isBlankText_text (e : Event) : Text.isBlankText e.toValue.text = false := by
  rw [Text.isBlankText, toList_text]
  rfl

theorem category_of_decode {line : String} {f : Failure} (h : decode line = .error f) :
    f.category = .protocol := by
  unfold decode at h
  dsimp only at h
  split at h
  · cases h
    rfl
  · split at h
    · cases h
      rfl
    · next e _ =>
      unfold validate at h
      split at h
      · cases h
        rfl
      · cases h

theorem decode_of_blank {line : String} (h : Text.isBlankText line = true) :
    decode line = .error (.protocol "empty request" []) := by
  unfold decode
  rw [Text.trimList_of_all h]
  rfl

end Event

end EventRelay
