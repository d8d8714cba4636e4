import EventRelay.Proofs.Event.Members
import Mathlib.Data.List.Nodup

namespace EventRelay.Event

open Json

def pair? (m : Member) : Option (Field × Tree) :=
  (m.1.bind fieldNamed?).map fun f => (f, m.2)

def pairs (ms : List Member) : List (Field × Tree) := ms.filterMap pair?

def Known.takeAll (k : Known) (ps : List (Field × Tree)) : Option Known :=
  ps.foldlM (fun k p => k.take p.1 p.2) k

theorem Known.takeAll_cons (k : Known) (p : Field × Tree) (ps : List (Field × Tree)) :
    k.takeAll (p :: ps) = (k.take p.1 p.2).bind fun k => k.takeAll ps :=
  List.foldlM_cons

def Named (ms : List Member) : Prop := ∀ m ∈ ms, m.1 ≠ none

theorem learnAll_cons (k : Known) (m : Member) (ms : List Member) :
    learnAll learn k (m :: ms) = (learnMember learn k m).bind fun k => learnAll learn k ms :=
  List.foldlM_cons

theorem learnAll_eq {ms : List Member} (named : Named ms) (k : Known) :
    learnAll learn k ms = k.takeAll (pairs ms) := by
  induction ms generalizing k with
  | nil => rfl
  | cons m ms ih =>
    obtain ⟨name, t⟩ := m
    rw [Named, List.forall_mem_cons] at named
    obtain ⟨key, rfl⟩ := Option.ne_none_iff_exists'.mp named.1
    rw [learnAll_cons, learnMember, Option.bind_some, learn, pairs, List.filterMap_cons, pair?,
      Option.bind_some]
    cases fieldNamed? key with
    | none => exact ih named.2 k
    | some f =>
      refine (congrArg _ (funext fun k => ih named.2 k)).trans ?_
      exact (Known.takeAll_cons k (f, t) _).symm

theorem named_of_learnAll {ms : List Member} {k k' : Known} (h : learnAll learn k ms = some k') :
    Named ms := by
  induction ms generalizing k with
  | nil => exact fun _ h => nomatch h
  | cons m ms ih =>
    rw [learnAll_cons] at h
    obtain ⟨k'', first, rest⟩ := Option.bind_eq_some_iff.mp h
    rw [Named, List.forall_mem_cons]
    refine ⟨fun none => ?_, ih rest⟩
    rw [learnMember, none] at first
    cases first

theorem bind_comm {x : Option α} {y : Option β} {a : α → σ} {b : β → σ} {f g : σ → Option σ}
    {both : α → β → σ} (hf : ∀ v, f (a v) = y.map (both v))
    (hg : ∀ w, g (b w) = x.map fun v => both v w) : (x.map a).bind f = (y.map b).bind g := by
  cases x with
  | none =>
    cases y with
    | none => rfl
    | some w => exact (hg w).symm
  | some v =>
    cases y with
    | none => exact hf v
    | some w => exact (hf v).trans (hg w).symm

theorem Known.take_comm (k : Known) {f g : Field} (other : f ≠ g) (t u : Tree) :
    ((k.take f t).bind fun k => k.take g u) = (k.take g u).bind fun k => k.take f t := by
  cases f <;> cases g <;>
    first | exact absurd rfl other | exact bind_comm (fun _ => rfl) fun _ => rfl

theorem bind_once {known x : Option α} {a : Option α → σ} {f : σ → Option σ}
    (h : ∀ v, f (a (some v)) = none) : ((once? known x).map a).bind f = none := by
  cases known with
  | some => rfl
  | none =>
    cases x with
    | none => rfl
    | some v => exact h v

theorem Known.take_twice (k : Known) (f : Field) (t u : Tree) :
    ((k.take f t).bind fun k => k.take f u) = none := by
  cases f <;> exact bind_once fun _ => rfl

theorem Known.take_swap (k : Known) (p q : Field × Tree) :
    ((k.take p.1 p.2).bind fun k => k.take q.1 q.2) =
      (k.take q.1 q.2).bind fun k => k.take p.1 p.2 := by
  obtain ⟨f, t⟩ := p
  obtain ⟨g, u⟩ := q
  by_cases same : f = g
  · subst same
    rw [take_twice, take_twice]
  · exact k.take_comm same t u

theorem Known.takeAll_perm {ps qs : List (Field × Tree)} (h : ps.Perm qs) (k : Known) :
    k.takeAll ps = k.takeAll qs := by
  induction h generalizing k with
  | nil => rfl
  | cons p _ ih =>
    rw [takeAll_cons, takeAll_cons]
    exact congrArg _ (funext ih)
  | swap p q ps =>
    simp only [takeAll_cons]
    rw [← Option.bind_assoc, take_swap, Option.bind_assoc]
  | trans _ _ ih ih' => exact (ih k).trans (ih' k)

theorem ofMembers?_eq {ms : List Member} (named : Named ms) :
    ofMembers? ms = ((Known.takeAll {} (pairs ms)).bind Known.toEvent?).bind checked? := by
  rw [ofMembers?, learnAll_eq named]

theorem ofMembers?_perm {ms ms' : List Member} (named : Named ms) (named' : Named ms')
    (same : (pairs ms).Perm (pairs ms')) : ofMembers? ms = ofMembers? ms' := by
  rw [ofMembers?_eq named, ofMembers?_eq named', Known.takeAll_perm same]

def Known.ofValues? (value : Field → Option Tree) : Option Known := do
  let source ← (value .source).mapM Tree.text?
  let title ← (value .title).mapM Tree.text?
  let details ← (value .details).mapM Tree.text?
  let tag ← (value .tag).mapM (Tree.optional? Tree.text?)
  let level ← (value .level).mapM fun t => t.text?.map Level.ofName
  let timestamp ← (value .timestamp).mapM (Tree.optional? Tree.int64?)
  return { source, title, details, tag, level, timestamp }

def ofValues? (value : Field → Option Tree) : Option Event := do
  let e ← (← Known.ofValues? value).toEvent?
  if Text.isBlankText e.source then none else return e

def inOrder (value : Field → Option Tree) : List (Field × Tree) :=
  Field.all.filterMap fun f => (value f).map fun t => (f, t)

theorem lookup_eq_some_iff {ps : List (Field × Tree)} (once : (ps.map Prod.fst).Nodup) {f : Field}
    {t : Tree} : ps.lookup f = some t ↔ (f, t) ∈ ps := by
  rw [List.lookup_eq_some_iff]
  constructor
  · rintro ⟨before, after, rfl, -⟩
    exact List.mem_append_right before List.mem_cons_self
  · intro mem
    obtain ⟨before, after, rfl⟩ := List.append_of_mem mem
    refine ⟨before, after, rfl, fun p hp => ?_⟩
    rw [List.map_append, List.map_cons, List.nodup_append] at once
    rw [bne_iff_ne]
    exact (once.2.2 p.1 (List.mem_map_of_mem hp) f List.mem_cons_self).symm

theorem perm_inOrder {ps : List (Field × Tree)} (once : (ps.map Prod.fst).Nodup) :
    ps.Perm (inOrder fun f => ps.lookup f) := by
  have all : ∀ f, f ∈ Field.all := by
    intro f
    cases f <;> decide
  have ordered : (inOrder fun f => ps.lookup f).Nodup := by
    refine List.Nodup.filterMap (fun f g p hf hg => ?_) (by decide)
    obtain ⟨t, -, rfl⟩ := Option.map_eq_some_iff.mp hf
    obtain ⟨u, -, same⟩ := Option.map_eq_some_iff.mp hg
    cases same
    rfl
  refine (List.perm_ext_iff_of_nodup (List.Nodup.of_map _ once) ordered).mpr fun (f, t) => ?_
  rw [← lookup_eq_some_iff once, inOrder, List.mem_filterMap]
  constructor
  · intro found
    exact ⟨f, all f, by rw [found]; rfl⟩
  · rintro ⟨g, -, found⟩
    obtain ⟨u, found, same⟩ := Option.map_eq_some_iff.mp found
    cases same
    exact found

theorem Known.takeAll_given {f : Field} (read : Tree → Option α) (put : Option α → Known)
    (taken : ∀ t, (put none).take f t = ((read t).map some).map put) (value : Option Tree)
    (rest : List (Field × Tree)) :
    (put none).takeAll ((value.map fun t => (f, t)).toList ++ rest) =
      (value.mapM read).bind fun a => (put a).takeAll rest := by
  cases value with
  | none => rfl
  | some t =>
    change (put none).takeAll ((f, t) :: rest) = Option.bind ((read t).map some) _
    rw [takeAll_cons, taken]
    cases read t <;> rfl

theorem Known.takeAll_inOrder (value : Field → Option Tree) :
    Known.takeAll {} (inOrder value) = Known.ofValues? value := by
  rw [inOrder, List.filterMap_eq_flatMap_toList]
  -- the fields are read in the order in which their values are given
  refine (takeAll_given Tree.text? (fun v => { source := v }) (fun _ => rfl) _ _).trans
    (congrArg _ (funext fun source => ?_))
  refine (takeAll_given Tree.text? (fun v => { source, title := v }) (fun _ => rfl) _ _).trans
    (congrArg _ (funext fun title => ?_))
  refine (takeAll_given Tree.text? (fun v => { source, title, details := v })
    (fun _ => rfl) _ _).trans (congrArg _ (funext fun details => ?_))
  refine (takeAll_given (Tree.optional? Tree.text?) (fun v => { source, title, details, tag := v })
    (fun _ => rfl) _ _).trans (congrArg _ (funext fun tag => ?_))
  refine (takeAll_given (fun t => t.text?.map Level.ofName)
    (fun v => { source, title, details, tag, level := v }) (fun _ => rfl) _ _).trans
    (congrArg _ (funext fun level => ?_))
  exact takeAll_given (Tree.optional? Tree.int64?)
    (fun v => { source, title, details, tag, level, timestamp := v }) (fun _ => rfl) _ []

theorem ofMembers?_eq_ofValues? {ms : List Member} (named : Named ms)
    (once : ((pairs ms).map Prod.fst).Nodup) :
    ofMembers? ms = ofValues? fun f => (pairs ms).lookup f := by
  rw [ofMembers?_eq named, Known.takeAll_perm (perm_inOrder once), Known.takeAll_inOrder,
    ofValues?, Option.bind_assoc]
  refine congrArg _ (funext fun k => congrArg _ (funext fun e => ?_))
  unfold checked? validate
  split <;> rfl

theorem Known.takeAll_of_mem {ps : List (Field × Tree)} {f : Field} (k : Known) (t : Tree)
    (h : f ∈ ps.map Prod.fst) : ((k.take f t).bind fun k => k.takeAll ps) = none := by
  obtain ⟨⟨g, u⟩, hm, rfl⟩ := List.mem_map.mp h
  obtain ⟨before, after, rfl⟩ := List.append_of_mem hm
  have first : (before ++ (g, u) :: after).Perm ((g, u) :: (before ++ after)) :=
    List.perm_middle
  rw [funext fun k => takeAll_perm first k]
  simp only [takeAll_cons]
  rw [← Option.bind_assoc, take_twice]
  rfl

theorem Known.takeAll_eq_none {ps : List (Field × Tree)} (h : ¬ (ps.map Prod.fst).Nodup)
    (k : Known) : k.takeAll ps = none := by
  induction ps generalizing k with
  | nil => exact absurd List.nodup_nil h
  | cons p ps ih =>
    rw [takeAll_cons]
    by_cases again : p.1 ∈ ps.map Prod.fst
    · exact k.takeAll_of_mem p.2 again
    · have later : ¬ (ps.map Prod.fst).Nodup := fun once => h (List.nodup_cons.mpr ⟨again, once⟩)
      rw [funext (ih later)]
      cases k.take p.1 p.2 <;> rfl

theorem ofMembers?_eq_none {ms : List Member} (h : ¬ ((pairs ms).map Prod.fst).Nodup) :
    ofMembers? ms = none := by
  cases known : learnAll learn {} ms with
  | none =>
    rw [ofMembers?, known]
    rfl
  | some k =>
    rw [ofMembers?_eq (named_of_learnAll known), Known.takeAll_eq_none h]
    rfl

theorem Known.takeAll_level {ps : List (Field × Tree)} (free : .level ∉ ps.map Prod.fst)
    (k : Known) (level : Level) :
    Known.takeAll { k with level := some level } ps =
      (k.takeAll ps).map fun k => { k with level := some level } := by
  induction ps generalizing k with
  | nil => rfl
  | cons p ps ih =>
    rw [List.map_cons, List.mem_cons, not_or] at free
    obtain ⟨f, t⟩ := p
    have step : Known.take { k with level := some level } f t =
        (k.take f t).map fun k => { k with level := some level } := by
      cases f with
      | level => exact absurd rfl free.1
      | source | title | details | tag | timestamp =>
        rw [take, take, Option.map_map]
        rfl
    rw [takeAll_cons, takeAll_cons, step, Option.bind_map, Option.map_bind]
    exact congrArg _ (funext fun k => ih free.2 k)

theorem toEvent?_level (k : Known) (level : Level) :
    Known.toEvent? { k with level := some level } =
      k.toEvent?.map fun e => { e with level } := by
  rw [Known.toEvent?, Known.toEvent?, Option.map_map]
  rfl

theorem checked?_level (e : Event) (level : Level) :
    checked? { e with level } = (checked? e).map fun e => { e with level } := by
  unfold checked? validate
  dsimp only
  split <;> rfl

theorem ofMembers?_level {ms ms' : List Member} {name : String} (named : Named ms)
    (named' : Named ms')
    (level : (pairs ms').Perm ((.level, .string (some name)) :: pairs ms))
    (free : .level ∉ (pairs ms).map Prod.fst) :
    ofMembers? ms' = (ofMembers? ms).map fun e => { e with level := Level.ofName name } := by
  have known : Known.takeAll {} (pairs ms') =
      (Known.takeAll {} (pairs ms)).map fun k => { k with level := some (Level.ofName name) } := by
    rw [Known.takeAll_perm level, Known.takeAll_cons]
    exact Known.takeAll_level free {} (Level.ofName name)
  rw [ofMembers?_eq named, ofMembers?_eq named', known, Option.bind_map]
  cases Known.takeAll {} (pairs ms) with
  | none => rfl
  | some k =>
    rw [Option.bind_some, Option.bind_some, Function.comp_apply, toEvent?_level]
    cases k.toEvent? with
    | none => rfl
    | some e => exact checked?_level e _

/-- The line is an object with these members, with blanks wherever the grammar has them. -/
def Holds (line : String) (ms : List Member) : Prop := Spells (.element (.object ms)) line.toList

/-- Ways to put an object differently. -/
inductive Varies : List Member → List Member → Prop
  | order {ms ms' : List Member} (h : ms.Perm ms') : Varies ms ms'
  | name {before after : List Member} {name other : String} {f : Field} {t : Tree}
    (h : fieldNamed? name = some f) (ho : fieldNamed? other = some f) :
    Varies (before ++ (some name, t) :: after) (before ++ (some other, t) :: after)
  | unknown {before after : List Member} {name : String} {t : Tree}
    (h : fieldNamed? name = none) : Varies (before ++ after) (before ++ (some name, t) :: after)

theorem Varies.pairs {ms ms' : List Member} (h : Varies ms ms') :
    (Event.pairs ms).Perm (Event.pairs ms') := by
  cases h with
  | order h => exact h.filterMap pair?
  | name h ho =>
    rw [Event.pairs, Event.pairs, List.filterMap_append, List.filterMap_append,
      List.filterMap_cons, List.filterMap_cons, pair?, pair?, Option.bind_some, Option.bind_some, h,
      ho]
  | unknown h =>
    rw [Event.pairs, Event.pairs, List.filterMap_append, List.filterMap_append,
      List.filterMap_cons, pair?, Option.bind_some, h]
    rfl

/--
The event of an object depends only on the fields that it names and on their values: not on the
order of the members, nor on which name of a field is used, nor on members that belong to no field,
nor on blanks. An object that names a field twice is refused, and every text is taken as a level.
-/
theorem decode_members :
    (∀ ms line, Named ms → Holds line ms → (decode line).toOption =
      if ((pairs ms).map Prod.fst).Nodup then ofValues? fun f => (pairs ms).lookup f else none) ∧
    (∀ ms ms' line line', Named ms → Named ms' → Holds line ms → Holds line' ms' →
      (pairs ms).Perm (pairs ms') → (decode line).toOption = (decode line').toOption) ∧
    (∀ ms ms' line line', Named ms → Named ms' → Holds line ms → Holds line' ms' →
      Varies ms ms' → (decode line).toOption = (decode line').toOption) ∧
    (∀ ms line, Holds line ms → ¬ ((pairs ms).map Prod.fst).Nodup →
      (decode line).toOption = none) ∧
    ∀ ms ms' line line' name, Named ms → Named ms' → Holds line ms → Holds line' ms' →
      (pairs ms').Perm ((.level, .string (some name)) :: pairs ms) →
      .level ∉ (pairs ms).map Prod.fst →
      (decode line').toOption =
        (decode line).toOption.map fun e => { e with level := Level.ofName name } := by
  refine ⟨fun ms line named h => ?_, fun ms ms' line line' named named' h h' same => ?_,
    fun ms ms' line line' named named' h h' varies => ?_, fun ms line h twice => ?_,
    fun ms ms' line line' name named named' h h' level free => ?_⟩
  · rw [decode_object h]
    split
    · next once => exact ofMembers?_eq_ofValues? named once
    · next twice => exact ofMembers?_eq_none twice
  · rw [decode_object h, decode_object h', ofMembers?_perm named named' same]
  · rw [decode_object h, decode_object h', ofMembers?_perm named named' varies.pairs]
  · rw [decode_object h, ofMembers?_eq_none twice]
  · rw [decode_object h, decode_object h', ofMembers?_level named named' level free]

theorem spells_one : Spells (.value (.number ['1'])) ['1'] := by
  have whole : IsWhole ['1'] := .digits (by decide) ⟨by simp, by simp [isDigit]⟩
  exact .number (.plus whole .nil)

theorem holds_texts {line name value other value' : String}
    (plain : ∀ s ∈ [name, value, other, value'], s.toList.all isPlain = true)
    (written : line.toList =
      '\x7b' :: (textMember name value ++ ',' :: textMember other value' ++ ['\x7d'])) :
    Holds line [(some name, .string (some value)), (some other, .string (some value'))] := by
  simp only [List.forall_mem_cons] at plain
  obtain ⟨named, valued, othered, valued', -⟩ := plain
  have members := Spells.object
    (.members (spells_textMember named valued) (.lastMember (spells_textMember othered valued')))
  rw [Holds, written]
  have whole := Spells.element blanks_nil members blanks_nil
  rwa [List.nil_append, List.append_nil] at whole

theorem holds_source_title :
    Holds "\x7b\"source\":\"s\",\"title\":\"t\"\x7d"
      [(some "source", .string (some "s")), (some "title", .string (some "t"))] :=
  holds_texts (by decide) rfl

theorem decode_message_program_name :
    (decode "\x7b\"source\":\"s\",\"title\":\"t\"\x7d").toOption =
        some { source := "s", title := "t" } ∧
      (decode "\x7b\"x\":[1],\"message\":\"t\",\"program_name\":\"s\"\x7d").toOption =
        (decode "\x7b\"source\":\"s\",\"title\":\"t\"\x7d").toOption ∧
      (decode "\x7b\"title\":\"t\",\"source\":\"s\"\x7d").toOption =
        (decode "\x7b\"source\":\"s\",\"title\":\"t\"\x7d").toOption ∧
      (decode "\x7b\"title\":\"t\",\"message\":\"t\"\x7d").toOption = none ∧
      (decode "\x7b\"level\":\"urgent\",\"source\":\"s\",\"title\":\"t\"\x7d").toOption =
        (decode "\x7b\"source\":\"s\",\"title\":\"t\"\x7d").toOption.map fun e =>
          { e with level := Level.ofName "urgent" } := by
  have list : Spells (.member (some "x", .list [.number ['1']])) "\"x\":[1]".toList :=
    spells_member (by decide) (.list (.lastItem (.element blanks_nil spells_one blanks_nil)))
  have other : Holds "\x7b\"x\":[1],\"message\":\"t\",\"program_name\":\"s\"\x7d"
      [(some "x", .list [.number ['1']]), (some "message", .string (some "t")),
        (some "program_name", .string (some "s"))] :=
    .element blanks_nil (.object (.members list (.members
      (spells_textMember (by decide) (by decide))
      (.lastMember (spells_textMember (by decide) (by decide)))))) blanks_nil
  have swapped : Holds "\x7b\"title\":\"t\",\"source\":\"s\"\x7d"
      [(some "title", .string (some "t")), (some "source", .string (some "s"))] :=
    holds_texts (by decide) rfl
  have twice : Holds "\x7b\"title\":\"t\",\"message\":\"t\"\x7d"
      [(some "title", .string (some "t")), (some "message", .string (some "t"))] :=
    holds_texts (by decide) rfl
  have urgent : Holds "\x7b\"level\":\"urgent\",\"source\":\"s\",\"title\":\"t\"\x7d"
      [(some "level", .string (some "urgent")), (some "source", .string (some "s")),
        (some "title", .string (some "t"))] :=
    .element blanks_nil (.object (.members (spells_textMember (by decide) (by decide))
      (.members (spells_textMember (by decide) (by decide))
        (.lastMember (spells_textMember (by decide) (by decide)))))) blanks_nil
  obtain ⟨value, same, varied, refused, level⟩ := decode_members
  refine ⟨?_, ?_, ?_, ?_, ?_⟩
  · rw [value _ _ (by simp [Named]) holds_source_title]
    rfl
  · exact same _ _ _ _ (by simp [Named]) (by simp [Named]) other holds_source_title (.swap _ _ [])
  · exact varied _ _ _ _ (by simp [Named]) (by simp [Named]) swapped holds_source_title
      (.order (.swap _ _ []))
  · exact refused _ _ twice (by decide)
  · exact level _ _ _ _ _ (by simp [Named]) (by simp [Named]) holds_source_title urgent (.refl _)
      (by decide)

/-- A name that ends within a surrogate pair is no text, and the object that holds it is refused. -/
theorem decode_half_pair :
    Holds "\x7b\"source\":\"s\",\"title\":\"t\"\x7d"
        [(some "source", .string (some "s")), (some "title", .string (some "t"))] ∧
      Holds "\x7b\"source\":\"s\",\"title\":\"t\",\"\\ud800\":1\x7d"
        [(some "source", .string (some "s")), (some "title", .string (some "t")),
          (none, .number ['1'])] ∧
      pairs [(some "source", .string (some "s")), (some "title", .string (some "t"))] =
        pairs [(some "source", .string (some "s")), (some "title", .string (some "t")),
          (none, .number ['1'])] ∧
      (decode "\x7b\"source\":\"s\",\"title\":\"t\"\x7d").toOption =
        some { source := "s", title := "t" } ∧
      (decode "\x7b\"source\":\"s\",\"title\":\"t\",\"\\ud800\":1\x7d").toOption = none := by
  have body : Body "\\ud800".toList [.code (Text.number 16 [13, 8, 0, 0])] := .code rfl .nil
  have half : Spells (.member (none, .number ['1'])) "\"\\ud800\":1".toList :=
    .member blanks_nil body blanks_nil (.element blanks_nil spells_one blanks_nil)
  have holds : Holds "\x7b\"source\":\"s\",\"title\":\"t\",\"\\ud800\":1\x7d"
      [(some "source", .string (some "s")), (some "title", .string (some "t")),
        (none, .number ['1'])] :=
    .element blanks_nil
      (.object (.members (spells_textMember (by decide) (by decide))
        (.members (spells_textMember (by decide) (by decide)) (.lastMember half))))
      blanks_nil
  refine ⟨holds_source_title, holds, rfl, ?_, ?_⟩
  · rw [decode_object holds_source_title]
    rfl
  · rw [decode_object holds]
    rfl

end EventRelay.Event
