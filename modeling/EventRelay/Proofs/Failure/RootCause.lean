import EventRelay.Proofs.Failure

namespace EventRelay

namespace Failure

def TakesCauses : Failure → Prop
  | .connectTimeout .. | .timeout .. | .notConfigured | .alreadyRunning _ | .invalidValue .. => False
  | _ => True

def attach (causes : Causes) : Failure → Failure
  | .protocol reason _ => .protocol reason causes
  | .persistence path operation _ => .persistence path operation causes
  | .delivery sink reason _ => .delivery sink reason causes
  | .transport address operation _ => .transport address operation causes
  | .connect address _ => .connect address causes
  | .detach reason _ => .detach reason causes
  | .config reason _ => .config reason causes
  | .file path operation _ => .file path operation causes
  | .other message _ => .other message causes
  | f => f

variable {f : Failure} {causes : Causes}

theorem message_attach : (f.attach causes).message = f.message := by
  cases f <;> rfl

theorem causes_attach (takes : f.TakesCauses ∨ causes = []) :
    (f.attach causes).causes = causes := by
  cases f with
  | connectTimeout | timeout | notConfigured | alreadyRunning | invalidValue =>
    exact (takes.resolve_left id).symm
  | _ => rfl

theorem ackMessage_attach (takes : f.TakesCauses ∨ causes = []) :
    (f.attach causes).ackMessage = appendInnermost f.message causes := by
  rw [ackMessage, message_attach, causes_attach takes]

end Failure

/-- How errors of other origin hang together: what each says, and the one that lies behind it. -/
structure Links (ε : Type) where
  text : ε → String
  behind? : ε → Option ε

/-- All there is from a cause on, outermost first. What goes round in a circle is no chain. -/
inductive Links.Chain {ε : Type} (links : Links ε) : Option ε → List ε → Prop
  | nil : links.Chain none []
  | cons {cause : ε} {causes : List ε} :
    links.Chain (links.behind? cause) causes → links.Chain (some cause) (cause :: causes)

inductive Wrapped
  | root (text : String)
  | around (text : String) (cause : Wrapped)

def Wrapped.links : Links Wrapped where
  text
    | .root text | .around text _ => text
  behind?
    | .root _ => none
    | .around _ cause => some cause

variable {ε : Type} {links : Links ε} {cause next : ε} {first? : Option ε} {causes : List ε}

theorem Links.Chain.behind?_root {between : List ε} {root : ε}
    (chain : links.Chain first? (between ++ [root])) : links.behind? root = none := by
  induction between generalizing first? with
  | nil =>
    obtain _ | behind := chain
    generalize links.behind? root = last? at behind
    cases behind
    rfl
  | cons cause between ih =>
    obtain _ | behind := chain
    exact ih behind

/-- The search for the innermost cause: the text so far, and the cause it has come to. -/
structure Search (ε : Type) where
  text : String
  cause? : Option ε

namespace Search

/-- A turn adds the cause it has come to if nothing lies behind it, and goes on in any case. -/
def step (links : Links ε) : Search ε → Search ε
  | ⟨text, none⟩ => ⟨text, none⟩
  | ⟨text, some cause⟩ =>
    { text := if (links.behind? cause).isNone then s!"{text}: {links.text cause}" else text
      cause? := links.behind? cause }

def run (links : Links ε) : Nat → Search ε → Search ε
  | 0, s => s
  | n + 1, s => run links n (s.step links)

theorem step_of_root (root : links.behind? cause = none) (text : String) :
    step links ⟨text, some cause⟩ = ⟨text ++ ": " ++ links.text cause, none⟩ := by
  rw [step, root]
  rfl

theorem step_of_behind (behind : links.behind? cause = some next) (text : String) :
    step links ⟨text, some cause⟩ = ⟨text, some next⟩ := by
  rw [step, behind]
  rfl

theorem run_ended (text : String) (n : Nat) : run links n ⟨text, none⟩ = ⟨text, none⟩ := by
  induction n with
  | zero => rfl
  | succ n ih => exact ih

theorem run_chain (chain : links.Chain first? causes) (text : String) (n : Nat) :
    run links n ⟨text, first?⟩ =
      if n < causes.length then ⟨text, causes[n]?⟩
      else ⟨Failure.appendInnermost text (causes.map links.text), none⟩ := by
  induction chain generalizing n with
  | nil => exact run_ended text n
  | @cons cause causes behind ih =>
    cases n with
    | zero => rfl
    | succ n =>
      rw [run]
      -- what the turn does to the text is decided by whether the chain goes on behind this cause
      generalize following : links.behind? cause = following? at behind ih
      cases behind with
      | nil =>
        rw [step_of_root following, run_ended]
        rfl
      | cons =>
        rw [step_of_behind following, ih]
        simp only [List.length_cons, Nat.succ_lt_succ_iff, List.getElem?_cons_succ]
        rfl

theorem exists_chain {s : Search ε} {n : Nat} (ended : (run links n s).cause? = none) :
    ∃ causes, links.Chain s.cause? causes := by
  induction n generalizing s with
  | zero =>
    have ended : s.cause? = none := ended
    rw [ended]
    exact ⟨[], .nil⟩
  | succ n ih =>
    obtain ⟨text, _ | cause⟩ := s
    · exact ⟨[], .nil⟩
    · obtain ⟨causes, chain⟩ := ih ended
      exact ⟨cause :: causes, .cons chain⟩

theorem ends_iff_chain (text : String) :
    (∃ n, (run links n ⟨text, first?⟩).cause? = none) ↔ ∃ causes, links.Chain first? causes := by
  refine ⟨fun ⟨n, ended⟩ => exists_chain ended, fun ⟨causes, chain⟩ => ⟨causes.length, ?_⟩⟩
  rw [run_chain chain, if_neg (Nat.lt_irrefl _)]

end Search

namespace Failure

/--
Whatever lies behind a failure, the search that starts with its own text ends. In its n-th turn it
is at the n-th cause, and its text is still that of the failure; after as many turns as there are
causes it has come to the text that is acknowledged. This is the text of the failure, with that of
the innermost cause behind it if there is any.
-/
theorem ackMessage_names_root (links : Links ε) (f : Failure) (first? : Option ε)
    (causes : List ε) (chain : links.Chain first? causes) (takes : f.TakesCauses ∨ causes = []) :
    let failed := f.attach (causes.map links.text)
    (∀ turns, Search.run links turns ⟨failed.message, first?⟩ =
      if turns < causes.length then ⟨f.message, causes[turns]?⟩ else ⟨failed.ackMessage, none⟩) ∧
    (causes = [] → failed.ackMessage = f.message) ∧
    ∀ between root, causes = between ++ [root] →
      links.behind? root = none ∧ failed.ackMessage = f.message ++ ": " ++ links.text root := by
  intro failed
  have acknowledged : failed.ackMessage = appendInnermost f.message (causes.map links.text) :=
    ackMessage_attach (takes.imp_right (congrArg (List.map links.text)))
  refine ⟨fun turns => ?_, ?_, ?_⟩
  · rw [message_attach, acknowledged]
    exact Search.run_chain chain f.message turns
  · rintro rfl
    exact acknowledged
  · rintro between root rfl
    refine ⟨chain.behind?_root, ?_⟩
    rw [acknowledged, List.map_append]
    exact appendInnermost_concat _ _ _

theorem ackMessage_names_root_of_three :
    let refused : Wrapped := .root "Connection refused"
    let connecting : Wrapped := .around "tcp connect error" refused
    let sending : Wrapped := .around "error sending request" connecting
    let f := (delivery "webhook" "webhook request failed" []).attach
      ["error sending request", "tcp connect error", "Connection refused"]
    Wrapped.links.Chain (some sending) [sending, connecting, refused] ∧
      Search.run Wrapped.links 2 ⟨f.message, some sending⟩ = ⟨f.message, some refused⟩ ∧
      Search.run Wrapped.links 3 ⟨f.message, some sending⟩ = ⟨f.ackMessage, none⟩ ∧
      f.ackMessage =
        "Delivery via webhook failed: webhook request failed: Connection refused" := by
  intro refused connecting sending f
  have chain : Wrapped.links.Chain (some sending) [sending, connecting, refused] :=
    .cons (.cons (.cons .nil))
  obtain ⟨turns, -, named⟩ := ackMessage_names_root Wrapped.links
    (delivery "webhook" "webhook request failed" []) _ _ chain (.inl trivial)
  obtain ⟨-, acknowledged⟩ := named [sending, connecting] refused rfl
  exact ⟨chain, turns 2, turns 3, acknowledged.trans (by decide)⟩

end Failure

end EventRelay
