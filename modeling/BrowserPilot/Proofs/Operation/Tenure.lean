import BrowserPilot.Proofs.Operation.Endings

namespace BrowserPilot

/-!
# Tenures of the lock

What an operation does while it has the lock is told by its tenures: whether it found
a page, what it called, and whether it left a page. An operation is followed through
all answers that its requests can have.
-/

/-- A primitive that was called, and what the call returned. -/
structure Called where
  primitive : Primitive
  result : Result primitive.Reply

/-- From when an operation gets the lock until it gives it up. -/
structure Tenure where
  found : Bool
  calls : List Called := []
  left : Bool

/-- The tenures of an operation: those that are over, and the present one. -/
structure Record where
  past : List Tenure := []
  present : Option Tenure := none

namespace Request

variable {π : Type}

/-- Whether a request has nothing to do with the session's page and its lock, and no deadline. -/
def isAside : Request π → Bool
  | sample .. | launch _ | discard _ | now | wallClock _ | log _ | enter _ | leave => true
  | _ => false

/-- Whether a request may be made by who has a page to use. -/
def isUse : Request π → Bool
  | primitive .. | pause .. | sample .. | now | wallClock _ | log _ | enter _ | leave => true
  | _ => false

end Request

namespace Operation

variable {π α β : Type}

/-- From the record `k` on, an operation keeps to the rules of the lock whatever it is answered: it
uses the page only if there is one, and gives the session a page only if there is none. `E` holds of
each tenure that ends and of what is left to do then, and `Q` when all is done. Without the lock it
may crash if `X` holds. -/
inductive Leads (X : Prop) (E : Tenure → Operation π α → Prop) (Q : Record → α → Prop) :
    Record → Operation π α → Prop
  | done {k : Record} {a : α} : Q k a → Leads X E Q k (.done a)
  | crash {past : List Tenure} {reason : String} : X → Leads X E Q ⟨past, none⟩ (.crash reason)
  | lock {past : List Tenure} {d : Option Deadline} {next : Result Unit → Operation π α} :
      (∀ found, Leads X E Q ⟨past, some ⟨found, [], found⟩⟩ (next (.ok ()))) →
        (∀ d', d = some d' → Leads X E Q ⟨past, none⟩ (next (.error (.timeout d'.limit)))) →
        Leads X E Q ⟨past, none⟩ (.ask (.lock d) next)
  | unlock {past : List Tenure} {t : Tenure} {next : Unit → Operation π α} :
      E t (next ()) → Leads X E Q ⟨past ++ [t], none⟩ (next ()) →
        Leads X E Q ⟨past, some t⟩ (.ask .unlock next)
  | hasPage {past : List Tenure} {t : Tenure} {next : Bool → Operation π α} :
      Leads X E Q ⟨past, some t⟩ (next t.left) → Leads X E Q ⟨past, some t⟩ (.ask .hasPage next)
  | primitive {past : List Tenure} {t : Tenure} {p : Primitive} {d : Option Deadline}
      {next : Result p.Reply → Operation π α} :
      t.left = true →
        (∀ r, Leads X E Q ⟨past, some { t with calls := t.calls ++ [⟨p, r⟩] }⟩ (next r)) →
        Leads X E Q ⟨past, some t⟩ (.ask (.primitive p d) next)
  | mount {past : List Tenure} {t : Tenure} {page : π} {next : Unit → Operation π α} :
      t.left = false → Leads X E Q ⟨past, some { t with left := true }⟩ (next ()) →
        Leads X E Q ⟨past, some t⟩ (.ask (.mount page) next)
  | unmount {past : List Tenure} {t : Tenure} {next : Unit → Operation π α} :
      Leads X E Q ⟨past, some { t with left := false }⟩ (next ()) →
        Leads X E Q ⟨past, some t⟩ (.ask .unmount next)
  | pause {k : Record} {millis : Nat} {cancel : Cancellation} {d : Option Deadline}
      {next : Result Unit → Operation π α} :
      (∀ ending : Ending, ending.Fits (.pause millis cancel d : Request π) →
        Leads X E Q k (next ending.result)) → Leads X E Q k (.ask (.pause millis cancel d) next)
  | aside {k : Record} {r : Request π} {next : r.Answer → Operation π α} :
      r.isAside = true → (∀ a, Leads X E Q k (next a)) → Leads X E Q k (.ask r next)

namespace Leads

variable {X : Prop} {E E' : Tenure → Operation π α → Prop} {Q Q' : Record → α → Prop} {k : Record}
  {p : Operation π α}

theorem mono (hp : Leads X E Q k p) (hE : ∀ t q, E t q → E' t q) (hQ : ∀ k a, Q k a → Q' k a) :
    Leads X E' Q' k p := by
  induction hp with
  | done h => exact .done (hQ _ _ h)
  | crash h => exact .crash h
  | lock _ _ ihok iherror => exact .lock ihok iherror
  | unlock h _ ih => exact .unlock (hE _ _ h) ih
  | hasPage _ ih => exact .hasPage ih
  | primitive h _ ih => exact .primitive h ih
  | mount h _ ih => exact .mount h ih
  | unmount _ ih => exact .unmount ih
  | pause _ ih => exact .pause ih
  | aside h _ ih => exact .aside h ih

theorem bind {F : Tenure → Operation π β → Prop} {R : Record → β → Prop}
    {f : α → Operation π β} (hp : Leads X (fun t q ↦ F t (q.bind f)) Q k p)
    (hf : ∀ k a, Q k a → Leads X F R k (f a)) : Leads X F R k (p.bind f) := by
  induction hp with
  | done h => exact hf _ _ h
  | crash h => exact .crash h
  | lock _ _ ihok iherror => exact .lock ihok iherror
  | unlock h _ ih => exact .unlock h ih
  | hasPage _ ih => exact .hasPage ih
  | primitive h _ ih => exact .primitive h ih
  | mount h _ ih => exact .mount h ih
  | unmount _ ih => exact .unmount ih
  | pause _ ih => exact .pause ih
  | aside h _ ih => exact .aside h ih

end Leads

/-- The page can be used by who has found one. -/
theorem Only.leads {X : Prop} {E : Tenure → Operation π α → Prop} {past : List Tenure} {t : Tenure}
    {p : Operation π α} (hp : p.Only Request.isUse) (ht : t.left = true) :
    Leads X E (fun k _ ↦ ∃ t', k = ⟨past, some t'⟩ ∧ t'.found = t.found ∧ t'.left = true)
      ⟨past, some t⟩ p := by
  induction hp generalizing t with
  | done a => exact .done ⟨t, rfl, rfl, ht⟩
  | @ask r next hr _ ih =>
      cases r with
      | primitive p d =>
          exact .primitive ht fun reply ↦
            ih reply (t := { t with calls := t.calls ++ [⟨p, reply⟩] }) ht
      | pause millis cancel d => exact .pause fun ending _ ↦ ih _ ht
      | sample _ _ | now | wallClock _ | log _ | enter _ | leave =>
          exact .aside rfl fun a ↦ ih a ht
      | _ => simp [Request.isUse] at hr

end Operation

/-! ## Tasks -/

namespace Task

open Operation (Leads)

variable {π α β : Type} {X : Prop} {E : Tenure → Operation π (Result β) → Prop}
  {M : Record → Result α → Prop} {Q : Record → Result β → Prop} {k : Record}

/-- Nothing is said of tenures that end: there are none. -/
def Stay {π α : Type} (_ : Tenure) (_ : Operation π α) : Prop := False

theorem leads_bind {t : Task π α} {f : α → Task π β}
    (ht : Leads X (fun s q ↦ E s (q.bind (ExceptT.bindCont f))) M k t.run)
    (hok : ∀ k a, M k (.ok a) → Leads X E Q k (f a).run)
    (herror : ∀ k e, M k (.error e) → Q k (.error e)) : Leads X E Q k (t >>= f).run := by
  refine ht.bind fun k r hr ↦ ?_
  cases r with
  | ok a => exact hok k a hr
  | error e => exact .done (herror k e hr)

theorem leads_result_bind {t : Task π α} {g : Result α → Task π β}
    (ht : Leads X (fun s q ↦ E s (q.bind fun r ↦ (g r).run)) M k t.run)
    (hg : ∀ k r, M k r → Leads X E Q k (g r).run) : Leads X E Q k (result t >>= g).run := by
  rw [run_result_bind]
  exact ht.bind hg

/-- A request that has nothing to do with the page and its lock. -/
theorem leads_aside_bind {r : Request π} (hr : r.isAside = true) {f : r.Answer → Task π β}
    (hf : ∀ a, Leads X E Q k (f a).run) :
    Leads X E Q k (lift (Operation.request r) >>= f).run :=
  .aside hr hf

theorem leads_locked {E : Tenure → Operation π (Result α) → Prop} {past : List Tenure}
    {d : Option Deadline} {t : Task π α} {M : Tenure → Result α → Prop}
    (ht : ∀ found, Leads X Stay (fun k r ↦ ∃ s, k = ⟨past, some s⟩ ∧ M s r)
      ⟨past, some ⟨found, [], found⟩⟩ t.run)
    (hE : ∀ s r, M s r → E s (.done r)) :
    Leads X E (fun k r ↦
      (∃ d', d = some d' ∧ k = ⟨past, none⟩ ∧ r = .error (.timeout d'.limit)) ∨
        ∃ s, k = ⟨past ++ [s], none⟩ ∧ M s r) ⟨past, none⟩ (locked d t).run := by
  refine .lock (fun found ↦ ?_) fun d' hd ↦ .done (.inl ⟨d', hd, rfl, rfl⟩)
  have hbody : Leads X E (fun k r ↦
      (∃ d', d = some d' ∧ k = ⟨past, none⟩ ∧ r = .error (.timeout d'.limit)) ∨
        ∃ s, k = ⟨past ++ [s], none⟩ ∧ M s r) ⟨past, some ⟨found, [], found⟩⟩
      (result t >>= fun r ↦ unlock >>= fun _ ↦ attempt (.done r)).run := by
    refine leads_result_bind ((ht found).mono (fun _ _ ↦ False.elim) fun _ _ h ↦ h) ?_
    rintro k r ⟨s, rfl, hr⟩
    exact .unlock (hE s r hr) (.done (.inr ⟨s, rfl, hr⟩))
  exact hbody

/-- A task on the page either finds none or uses it and leaves it. -/
theorem leads_withPage {E : Tenure → Operation π (Result α) → Prop} {past : List Tenure}
    {d : Option Deadline} {t : Task π α} (ht : t.run.Only Request.isUse)
    (hnone : ∀ q, E ⟨false, [], false⟩ q) (hsome : ∀ s q, s.found = true → s.left = true → E s q) :
    Leads X E (fun k r ↦
      (∃ d', d = some d' ∧ k = ⟨past, none⟩ ∧ r = .error (.timeout d'.limit)) ∨
        ∃ s, k = ⟨past ++ [s], none⟩ ∧
          (s = ⟨false, [], false⟩ ∧ r = .error .notStarted ∨ s.found = true ∧ s.left = true))
      ⟨past, none⟩ (withPage d t).run := by
  refine leads_locked (fun found ↦ .hasPage ?_) fun s r hs ↦ ?_
  · cases found with
    | false => exact .done ⟨_, rfl, .inl ⟨rfl, rfl⟩⟩
    | true =>
        refine (ht.leads rfl).mono (fun _ _ h ↦ h) ?_
        rintro k r ⟨s, rfl, hfound, hleft⟩
        exact ⟨s, rfl, .inr ⟨hfound, hleft⟩⟩
  · rcases hs with ⟨rfl, -⟩ | ⟨hfound, hleft⟩
    · exact hnone _
    · exact hsome s _ hfound hleft

end Task

end BrowserPilot
