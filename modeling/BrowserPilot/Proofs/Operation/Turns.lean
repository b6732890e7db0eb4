import BrowserPilot.Proofs.Operation.Arrival

namespace BrowserPilot

/-!
# Taking turns

Visitors that share a page take turns at it, in the order in which they ask for the
lock. In its turn each does what it does alone on the page as it finds it, after the
time for which it had to queue.
-/

variable {B : Backend} {α : Type}

/-- One asks before another: at an earlier instant, or at the same one from an earlier place. -/
def Precedes (x y : Instant × Nat) : Prop := x.1 < y.1 ∨ x.1 = y.1 ∧ x.2 < y.2

theorem Precedes.irrefl (x : Instant × Nat) : ¬ Precedes x x := by
  rintro (h | ⟨-, h⟩)
  · exact Nat.lt_irrefl _ h
  · exact Nat.lt_irrefl _ h

/-- A caller's turn at the page. -/
structure Turn (B : Backend) (α : Type) where
  place : Nat
  asked : Instant
  granted : Instant
  ended : Instant
  outcome : Outcome α
  block : List (Instant × B.Event)

/-- When a turn was asked for, and from which place. -/
def Turn.key (t : Turn B α) : Instant × Nat := (t.asked, t.place)

/-- How the page was left, and when. -/
structure Handover (B : Backend) where
  since : Instant
  env : B.Env
  slot : Option B.Page

/-- The world of a caller that finds the page as it was left. -/
def World.onTaking (w : World B) (h : Handover B) : World B :=
  { w with env := h.env, slot := h.slot, events := [] }

section

variable (w : World B) (ops : List (Caller × Operation B.Page α))

/-- A row of turns. Each begins when it is asked for, or when the one before is over if that is
later, but not after its deadline; and each is what the operation does alone on the page as the
one before left it, after the time for which it had to queue. -/
inductive Served : List (Turn B α) → Handover B → Prop
  | nil : Served [] ⟨w.clock, w.env, w.slot⟩
  | snoc {turns : List (Turn B α)} {h : Handover B} {t : Turn B α} {c c' : Caller}
      {p : Operation B.Page α} {d : Option Deadline} {a : World B} :
      Served turns h → ops[t.place]? = some (c, p) → p.asked? w c = some (t.asked, d) →
        t.granted = max h.since t.asked → (∀ d' ∈ d, t.granted ≤ d'.instant) →
        p.aloneAfter (t.granted - t.asked) (w.onTaking h) c = (t.outcome, a, c') →
        t.block = a.events → t.ended = a.clock →
        Served (turns ++ [t]) ⟨a.clock, a.env, a.slot⟩

/-- An operation that asks for the lock at `asked` and does not have it by the deadline ends right
then, and nothing has happened to the page. -/
def Refuses (c : Caller) (p : Operation B.Page α) (asked : Instant) (d : Deadline)
    (o : Outcome α) : Prop :=
  ∀ queued, d.instant < asked + queued → ∃ a c', p.aloneAfter queued w c = (o, a, c') ∧
    a.scene = { w.scene with clock := d.instant }

/-- How the caller at place `i` ends: without asking for the lock, in its turn, or refused, because
one who asked before it had the lock at its deadline. -/
inductive Fate (turns : List (Turn B α)) (i : Nat) (c : Caller) (p : Operation B.Page α) :
    Outcome α → Instant → Prop
  | passed {o : Outcome α} {a : World B} {c' : Caller} :
      p.asked? w c = none → p.alone w c = (o, a, c') → a.events = w.events →
        Fate turns i c p o a.clock
  | served {t : Turn B α} : t ∈ turns → t.place = i → Fate turns i c p t.outcome t.ended
  | refused {o : Outcome α} {asked : Instant} {d : Deadline} :
      p.asked? w c = some (asked, some d) → Refuses w c p asked d o →
        (∀ t ∈ turns, t.place ≠ i) →
        (∃ t ∈ turns, Precedes t.key (asked, i) ∧ t.granted ≤ d.instant ∧ d.instant ≤ t.ended) →
        Fate turns i c p o d.instant

end

end BrowserPilot
