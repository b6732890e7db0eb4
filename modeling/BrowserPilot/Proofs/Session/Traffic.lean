import BrowserPilot.Operation.Together
import BrowserPilot.Proofs.Session.Call

namespace BrowserPilot

/-!
# Traffic on a session

Clients come to a session with calls, and at any time any of them that can go on may go
on. Only the lock decides who cannot. What they do to the session is told by the
tenures of the lock, one after the other.
-/

variable {B : Backend}

/-- The tenure after a request of who has the lock, if by then there is a page or not. -/
def Tenure.after {π : Type} (t : Tenure) (active : Bool) (r : Request π) (a : r.Answer) : Tenure :=
  match r, a with
  | .primitive p _, reply => { t with calls := t.calls ++ [⟨p, reply⟩], left := active }
  | _, _ => { t with left := active }

theorem Tenure.after_left {π : Type} (t : Tenure) {r : Request π} (hr : ∀ p d, r ≠ .primitive p d)
    (a : r.Answer) : t.after t.left r a = t := by
  cases r with
  | primitive p d => exact absurd rfl (hr p d)
  | _ => rfl

theorem Tenure.after_primitive {π : Type} (t : Tenure) (ht : t.left = true) (p : Primitive)
    (d : Option Deadline) (reply : (Request.primitive p d : Request π).Answer) :
    t.after true (.primitive p d) reply =
      { t with calls := t.calls ++ [⟨p, reply⟩] } := by
  simp [Tenure.after, ht]

namespace World

/-- What has nothing to do with the page leaves it alone. -/
theorem slot_answer_aside {r : Request B.Page} (hr : r.isAside = true) (w : World B) (k : Caller)
    (ending : Ending) : (w.answer k ending r).2.1.slot = w.slot := by
  cases r with
  | sample request cancel => cases ending <;> rfl
  | launch _ | discard _ | now | wallClock _ | log _ | enter _ | leave => rfl
  | _ => simp [Request.isAside] at hr

/-- A primitive may change the page, but it does not take it away. -/
theorem slot_answer_primitive {w : World B} (hslot : w.slot.isSome = true) (k : Caller)
    (ending : Ending) (p : Primitive) (d : Option Deadline) :
    (w.answer k ending (.primitive p d)).2.1.slot.isSome = true := by
  obtain ⟨page, hpage⟩ := Option.isSome_iff_exists.1 hslot
  cases ending with
  | completed => simp [World.answer, Ending.result, World.apply, hpage, World.record, World.report]
  | expired d' => exact hslot
  | cancelled => exact hslot

theorem slot_answer_unmount (w : World B) (k : Caller) (ending : Ending) :
    (w.answer k ending .unmount).2.1.slot = none := by
  cases hslot : w.slot with
  | none => simp [World.answer, hslot]
  | some page => simp [World.answer, hslot, World.farewell, World.record]

end World

/-- Someone who has come with a call, and what is left of it. -/
structure Client (B : Backend) where
  call : Session.Call B.Page
  rest : Operation B.Page (Result Session.Reply)

/-- Clients of one session, the tenures that are over, each with the place of its client, and the
tenure of who has the lock. -/
structure Traffic (B : Backend) where
  shared : Shared B
  clients : List (Client B) := []
  turns : List (Nat × Tenure) := []
  present : Option Tenure := none

namespace Traffic

/-- The tenures of one client that are over. -/
def past (T : Traffic B) (i : Nat) : List Tenure :=
  (T.turns.filter (·.1 == i)).map Prod.snd

def record (T : Traffic B) (i : Nat) : Record :=
  ⟨T.past i, if T.shared.holder = some i then T.present else none⟩

/-- Whether a request of the client at place `i` can end so. The lock is had by who finds it free
or to whom it has been handed. -/
def MayEnd (T : Traffic B) (i : Nat) (ending : Ending) (r : Request B.Page) : Prop :=
  ending.Fits r ∧ ∀ d, r = .lock d →
    if ending = .completed then T.shared.holder = none ∨ T.shared.holder = some i
    else T.shared.holder ≠ some i

/-- The tenure of who has the lock after a request of the client at place `i` has ended, if by then
there is a page or not. -/
def presentAfter (T : Traffic B) (i : Nat) (ending : Ending) (active : Bool) :
    (r : Request B.Page) → r.Answer → Option Tenure
  | .lock _, _ => if ending = .completed then some ⟨active, [], active⟩ else T.present
  | .unlock, _ => none
  | r, a => if T.shared.holder = some i then T.present.map (·.after active r a) else T.present

/-- The traffic after a request of the client at place `i` has ended. -/
def go (T : Traffic B) (i : Nat) (call : Session.Call B.Page) (k : Caller) (ending : Ending)
    (r : Request B.Page) (next : r.Answer → Operation B.Page (Result Session.Reply)) :
    Traffic B :=
  let (a, shared, _) := T.shared.answer i k ending r
  { shared := shared
    clients := T.clients.set i ⟨call, next a⟩
    turns := match r with
      | .unlock => T.turns ++ (T.present.map fun t ↦ (i, t)).toList
      | _ => T.turns
    present := T.presentAfter i ending shared.world.slot.isSome r a }

/-- A client who comes with a call after some milliseconds. -/
def newcomer (c : Config) (millis : Nat) (call : Session.Call B.Page) : Client B :=
  ⟨call, (Task.pause millis .never none >>= fun _ ↦ call.task c).run⟩

/-- One step of the traffic: a client comes, time passes, a client asks for the lock that another
has, or a request of a client ends. -/
inductive Step (c : Config) (T : Traffic B) : Traffic B → Prop
  | comes (millis : Nat) (call : Session.Call B.Page) :
      Step c T { T with clients := T.clients ++ [newcomer c millis call] }
  | later {t : Instant} : T.shared.world.clock ≤ t →
      Step c T
        { T with shared := { T.shared with world := { T.shared.world with clock := t } } }
  | asks {i : Nat} {call : Session.Call B.Page} {d : Option Deadline}
      {next : Result Unit → Operation B.Page (Result Session.Reply)} :
      T.clients[i]? = some ⟨call, .ask (.lock d) next⟩ → T.shared.holder.isSome = true →
        T.shared.holder ≠ some i → i ∉ T.shared.queue →
        Step c T { T with shared := T.shared.enqueue i (.lock d) }
  | goes {i : Nat} {call : Session.Call B.Page} {r : Request B.Page}
      {next : r.Answer → Operation B.Page (Result Session.Reply)} (k : Caller) (ending : Ending) :
      T.clients[i]? = some ⟨call, .ask r next⟩ → T.MayEnd i ending r →
        Step c T (T.go i call k ending r next)

/-- What a traffic can come to, step after step. -/
inductive Runs (c : Config) (T : Traffic B) : Traffic B → Prop
  | refl : Runs c T T
  | step {T' T'' : Traffic B} : Runs c T T' → Step c T' T'' → Runs c T T''

/-- The traffic that a world without clients can come to. -/
def Reachable (c : Config) (w : World B) (T : Traffic B) : Prop :=
  Runs c { shared := { world := w } } T

variable {c : Config} {T T' T'' : Traffic B} {i : Nat} {call : Session.Call B.Page} {k : Caller}
  {ending : Ending}

theorem Runs.trans (h : Runs c T T') (h' : Runs c T' T'') : Runs c T T'' := by
  induction h' with
  | refl => exact h
  | step _ hstep ih => exact .step ih hstep

theorem go_work {r : Request B.Page} {next : r.Answer → Operation B.Page (Result Session.Reply)}
    (hlock : ∀ d, r ≠ .lock d) (hunlock : r ≠ .unlock) :
    T.go i call k ending r next =
      { shared := { T.shared with world := (T.shared.world.answer k ending r).2.1 }
        clients := T.clients.set i ⟨call, next (T.shared.world.answer k ending r).1⟩
        turns := T.turns
        present := if T.shared.holder = some i then
          T.present.map (·.after (T.shared.world.answer k ending r).2.1.slot.isSome r
            (T.shared.world.answer k ending r).1)
          else T.present } := by
  cases r with
  | lock d => exact absurd rfl (hlock d)
  | unlock => exact absurd rfl hunlock
  | _ => rfl

theorem go_locked {d : Option Deadline}
    {next : Result Unit → Operation B.Page (Result Session.Reply)} :
    T.go i call k .completed (.lock d) next =
      { shared := { T.shared with holder := some i }
        clients := T.clients.set i ⟨call, next (.ok ())⟩
        turns := T.turns
        present := some ⟨T.shared.world.slot.isSome, [], T.shared.world.slot.isSome⟩ } :=
  rfl

theorem go_expired {d : Option Deadline} {d' : Deadline}
    {next : Result Unit → Operation B.Page (Result Session.Reply)} :
    T.go i call k (.expired d') (.lock d) next =
      { shared := { T.shared with queue := T.shared.queue.filter (· != i) }
        clients := T.clients.set i ⟨call, next (.error (.timeout d'.limit))⟩
        turns := T.turns
        present := T.present } :=
  rfl

theorem go_unlock {next : Unit → Operation B.Page (Result Session.Reply)} {t : Tenure}
    (ht : T.present = some t) :
    T.go i call k ending .unlock next =
      { shared := T.shared.unlock
        clients := T.clients.set i ⟨call, next ()⟩
        turns := T.turns ++ [(i, t)]
        present := none } := by
  simp only [go, Shared.answer, World.answer, ht]
  rfl

/-! ## What holds at any time -/

/-- A turn among some turns and one more. -/
theorem split_concat {turns pre post : List (Nat × Tenure)} {last turn : Nat × Tenure}
    (h : turns ++ [last] = pre ++ turn :: post) :
    turn = last ∧ pre = turns ∧ post = [] ∨
      ∃ post', post = post' ++ [last] ∧ turns = pre ++ turn :: post' := by
  rcases List.eq_nil_or_concat post with rfl | ⟨post', last', rfl⟩
  · obtain ⟨rfl, hlast⟩ := List.append_inj' h rfl
    exact .inl ⟨(List.singleton_inj.1 hlast).symm, rfl, rfl⟩
  · have hsplit : turns ++ [last] = (pre ++ turn :: post') ++ [last'] := by simpa using h
    obtain ⟨hturns, hlast⟩ := List.append_inj' hsplit rfl
    obtain rfl := List.singleton_inj.1 hlast
    exact .inr ⟨post', List.concat_eq_append, hturns⟩

/-- Whether the last of some tenures left a page. -/
def leaves (turns : List (Nat × Tenure)) : Bool :=
  (turns.getLast?.map fun turn ↦ turn.2.left).getD false

@[simp] theorem leaves_concat (turns : List (Nat × Tenure)) (turn : Nat × Tenure) :
    leaves (turns ++ [turn]) = turn.2.left := by
  simp [leaves]

/-- Each client keeps to the rules of the lock, and each tenure finds what the one before it
left. -/
structure Sound (c : Config) (T : Traffic B) : Prop where
  follows : ∀ i (call : Session.Call B.Page) q,
    T.clients[i]? = some ⟨call, q⟩ → call.Follows c (T.record i) q
  places : ∀ i, T.shared.holder = some i ∨ i ∈ T.shared.queue → i < T.clients.length
  held : T.shared.holder = none → T.present = none
  slot : T.shared.world.slot.isSome = (T.present.map Tenure.left).getD (leaves T.turns)
  found : ∀ t ∈ T.present, t.found = leaves T.turns
  chain : ∀ pre i t post, T.turns = pre ++ (i, t) :: post → t.found = leaves pre
  ended : ∀ i t, (i, t) ∈ T.turns →
    ∃ call q, T.clients[i]? = some ⟨call, q⟩ ∧ Session.Ended call t q

theorem sound_start {w : World B} (hslot : w.slot = none) :
    Sound c ({ shared := { world := w } } : Traffic B) where
  follows := by simp
  places := by simp
  held := by simp
  slot := by simp [hslot, leaves]
  found := by simp
  chain := by simp
  ended := by simp

theorem record_of_place_ge (hs : Sound c T) (hi : T.clients.length ≤ i) : T.record i = {} := by
  have hpast : T.past i = [] := by
    refine List.map_eq_nil_iff.2 (List.filter_eq_nil_iff.2 ?_)
    rintro ⟨j, t⟩ hmem hj
    obtain rfl : j = i := by simpa using hj
    obtain ⟨call, q, hget, -⟩ := hs.ended j t hmem
    have hlt := (List.getElem?_eq_some_iff.1 hget).1
    lia
  have hholder : T.shared.holder ≠ some i := fun h ↦ by
    have hlt := hs.places i (.inl h)
    lia
  rw [record, hpast, if_neg hholder]

theorem Sound.comes (hs : Sound c T) (millis : Nat) (call : Session.Call B.Page) :
    Sound c { T with clients := T.clients ++ [newcomer c millis call] } where
  follows := by
    intro i call' q hget
    rcases Nat.lt_or_ge i T.clients.length with hi | hi
    · exact hs.follows i call' q ((List.getElem?_append_left hi).symm.trans hget)
    · rw [List.getElem?_append_right hi] at hget
      have hzero : i - T.clients.length = 0 := by
        have hlt := (List.getElem?_eq_some_iff.1 hget).1
        simpa using hlt
      obtain ⟨rfl, rfl⟩ : call = call' ∧ (newcomer c millis call).rest = q := by
        simpa [hzero, newcomer] using hget
      change call.Follows c (T.record i) _
      rw [record_of_place_ge hs hi]
      refine .pause fun ending hfits ↦ ?_
      cases ending with
      | completed => exact call.follows c
      | expired d => simp [Ending.Fits, Request.deadline?] at hfits
      | cancelled => simp [Ending.Fits, Request.cancellation] at hfits
  places := fun i hi ↦ by
    have hlt := hs.places i hi
    simp only [List.length_append, List.length_singleton]
    lia
  held := hs.held
  slot := hs.slot
  found := hs.found
  chain := hs.chain
  ended := fun i t hmem ↦ by
    obtain ⟨call', q, hget, hended⟩ := hs.ended i t hmem
    have hlt := (List.getElem?_eq_some_iff.1 hget).1
    exact ⟨call', q, (List.getElem?_append_left hlt).trans hget, hended⟩

theorem Sound.later (hs : Sound c T) (t : Instant) :
    Sound c
      { T with shared := { T.shared with world := { T.shared.world with clock := t } } } :=
  ⟨hs.follows, hs.places, hs.held, hs.slot, hs.found, hs.chain, hs.ended⟩

theorem Sound.asks (hs : Sound c T) {d : Option Deadline} (hi : i < T.clients.length) :
    Sound c { T with shared := T.shared.enqueue i (.lock d) } :=
  ⟨hs.follows, fun j hj ↦ by
    rcases hj with hj | hj
    · exact hs.places j (.inl hj)
    · rcases List.mem_append.1 hj with hj | hj
      · exact hs.places j (.inr hj)
      · rw [List.mem_singleton.1 hj]
        exact hi, hs.held, hs.slot, hs.found, hs.chain, hs.ended⟩

/-! ## Requests that end -/

/-- The client at place `i` goes on, and perhaps a tenure of it is over. -/
theorem Sound.move (hs : Sound c T) {p q : Operation B.Page (Result Session.Reply)}
    (hi : T.clients[i]? = some ⟨call, p⟩) (hp : ∀ r, p ≠ .done r) (finished : Option Tenure)
    (hclients : T'.clients = T.clients.set i ⟨call, q⟩)
    (hturns : T'.turns = T.turns ++ (finished.map fun t ↦ (i, t)).toList)
    (hover : ∀ t ∈ finished, t.found = leaves T.turns ∧ Session.Ended call t q)
    (hothers : ∀ j ≠ i, T'.record j = T.record j) (hfollows : call.Follows c (T'.record i) q)
    (hplaces : ∀ j, T'.shared.holder = some j ∨ j ∈ T'.shared.queue → j < T.clients.length)
    (hheld : T'.shared.holder = none → T'.present = none)
    (hslot : T'.shared.world.slot.isSome = (T'.present.map Tenure.left).getD (leaves T'.turns))
    (hfound : ∀ t ∈ T'.present, t.found = leaves T'.turns) : Sound c T' where
  follows := by
    intro j call' q' hget
    rw [hclients] at hget
    by_cases hj : j = i
    · subst hj
      have hlt := (List.getElem?_eq_some_iff.1 hi).1
      obtain ⟨rfl, rfl⟩ : call = call' ∧ q = q' := by
        simpa [List.getElem?_set, hlt] using hget
      exact hfollows
    · rw [List.getElem?_set_ne (Ne.symm hj)] at hget
      rw [hothers j hj]
      exact hs.follows j call' q' hget
  places := fun j hj ↦ by
    rw [hclients, List.length_set]
    exact hplaces j hj
  held := hheld
  slot := hslot
  found := hfound
  chain := by
    intro pre j t post hsplit
    rw [hturns] at hsplit
    cases finished with
    | none => exact hs.chain pre j t post (by simpa using hsplit)
    | some last =>
        rcases split_concat hsplit with ⟨hturn, rfl, -⟩ | ⟨post', -, hsplit'⟩
        · obtain ⟨rfl, rfl⟩ := Prod.mk.inj hturn
          exact (hover _ rfl).1
        · exact hs.chain pre j t post' hsplit'
  ended := by
    intro j t hmem
    rw [hclients]
    have hlt := (List.getElem?_eq_some_iff.1 hi).1
    have hget : (T.clients.set i ⟨call, q⟩)[i]? = some ⟨call, q⟩ := by simp [hlt]
    rw [hturns] at hmem
    rcases List.mem_append.1 hmem with hmem | hmem
    · obtain ⟨call', q', hget', hended⟩ := hs.ended j t hmem
      by_cases hj : j = i
      · subst hj
        obtain ⟨rfl, rfl⟩ : call = call' ∧ p = q' := by simpa using hi.symm.trans hget'
        -- the client has not returned yet, so the tenure is not one with which it returned
        refine ⟨call, q, hget, hended.imp ?_ id⟩
        rintro ⟨r, hr⟩
        exact absurd hr (hp r)
      · exact ⟨call', q', (List.getElem?_set_ne (Ne.symm hj)).trans hget', hended⟩
    · obtain ⟨t', rfl, ht'⟩ : ∃ t', finished = some t' ∧ (i, t') = (j, t) := by
        cases finished with
        | none => simp at hmem
        | some t' => exact ⟨t', rfl, (List.mem_singleton.1 hmem).symm⟩
      obtain ⟨rfl, rfl⟩ := Prod.mk.inj ht'
      exact ⟨call, q, hget, (hover t' rfl).2⟩

theorem present_of_some {t : Tenure} (h : (T.record i).present = some t) :
    T.shared.holder = some i ∧ T.present = some t := by
  simp only [record] at h
  split at h
  · exact ⟨‹_›, h⟩
  · simp at h

theorem present_of_none (h : (T.record i).present = none) (hholder : T.shared.holder = some i) :
    T.present = none := by
  simp only [record, if_pos hholder] at h
  exact h

/-- A request that is neither for the lock nor to give it up. Only who has the lock changes whether
there is a page. -/
theorem Sound.work (hs : Sound c T) {r : Request B.Page}
    {next : r.Answer → Operation B.Page (Result Session.Reply)}
    (hi : T.clients[i]? = some ⟨call, .ask r next⟩) (k : Caller) (ending : Ending)
    (hlock : ∀ d, r ≠ .lock d) (hunlock : r ≠ .unlock) {w : World B} {a : r.Answer}
    (hw : (T.shared.world.answer k ending r).2.1 = w)
    (ha : (T.shared.world.answer k ending r).1 = a)
    (hslot : (T.record i).present = none → w.slot.isSome = T.shared.world.slot.isSome)
    (hfollows : call.Follows c
      ⟨T.past i, (T.record i).present.map (·.after w.slot.isSome r a)⟩ (next a)) :
    Sound c (T.go i call k ending r next) := by
  have hafter : ∀ t : Tenure, (t.after w.slot.isSome r a).found = t.found ∧
      (t.after w.slot.isSome r a).left = w.slot.isSome := by
    intro t
    cases r <;> exact ⟨rfl, rfl⟩
  rw [go_work hlock hunlock, hw, ha]
  by_cases hholder : T.shared.holder = some i
  · -- the tenure of the client is the present one
    have hrecord : T.record i = ⟨T.past i, T.present⟩ := by rw [record, if_pos hholder]
    rw [hrecord] at hslot hfollows
    rw [if_pos hholder]
    refine hs.move hi nofun none rfl (by simp) (by simp) (fun j hj ↦ ?_) ?_ hs.places
      (fun h ↦ absurd (hholder.symm.trans h) nofun) ?_ fun t ht ↦ ?_
    · have hne : T.shared.holder ≠ some j := fun h ↦ hj (Option.some.inj (h.symm.trans hholder))
      simp only [record, if_neg hne]
      rfl
    · simp only [record, if_pos hholder]
      exact hfollows
    · cases hpresent : T.present with
      | none =>
          rw [hslot hpresent, hs.slot, hpresent]
          rfl
      | some t => exact (hafter t).2.symm
    · obtain ⟨t', ht', rfl⟩ := Option.map_eq_some_iff.1 ht
      exact (hafter t').1.trans (hs.found t' ht')
  · have hrecord : T.record i = ⟨T.past i, none⟩ := by rw [record, if_neg hholder]
    rw [hrecord] at hslot hfollows
    rw [if_neg hholder]
    refine hs.move hi nofun none rfl (by simp) (by simp) (fun j _ ↦ rfl) ?_ hs.places
      hs.held ?_ hs.found
    · simp only [record, if_neg hholder]
      exact hfollows
    · rw [hslot rfl]
      exact hs.slot

theorem Sound.left (hs : Sound c T) {t : Tenure} (h : (T.record i).present = some t) :
    T.shared.world.slot.isSome = t.left := by
  rw [hs.slot, (present_of_some h).2]
  rfl

theorem Sound.lock (hs : Sound c T) {d : Option Deadline}
    {next : Result Unit → Operation B.Page (Result Session.Reply)}
    (hi : T.clients[i]? = some ⟨call, .ask (.lock d) next⟩)
    (hmay : T.MayEnd i ending (.lock d)) (hrecord : (T.record i).present = none)
    (hok : ∀ found, call.Follows c ⟨T.past i, some ⟨found, [], found⟩⟩ (next (.ok ())))
    (herror : ∀ d', d = some d' →
      call.Follows c ⟨T.past i, none⟩ (next (.error (.timeout d'.limit)))) :
    Sound c (T.go i call k ending (.lock d) next) := by
  obtain ⟨hfits, hfree⟩ := hmay
  replace hfree := hfree d rfl
  have hlt : i < T.clients.length := (List.getElem?_eq_some_iff.1 hi).1
  cases ending with
  | completed =>
      rw [if_pos rfl] at hfree
      have hpresent : T.present = none := by
        rcases hfree with hfree | hfree
        · exact hs.held hfree
        · exact present_of_none hrecord hfree
      have hslot : T.shared.world.slot.isSome = leaves T.turns := by
        rw [hs.slot, hpresent]
        rfl
      rw [go_locked]
      refine hs.move hi nofun none rfl (by simp) (by simp) (fun j hj ↦ ?_) ?_
        (fun j hj ↦ ?_) nofun rfl fun t ht ↦ ?_
      · -- whoever had the lock before, the tenure was not a present one
        have hne : some i ≠ some j := fun h ↦ hj (Option.some.inj h).symm
        simp only [record, if_neg hne, hpresent, ite_self]
        rfl
      · simp only [record, if_pos]
        exact hok _
      · rcases hj with hj | hj
        · exact Option.some.inj hj ▸ hlt
        · exact hs.places j (.inr hj)
      · obtain rfl := Option.some.inj ht
        exact hslot
  | expired d' =>
      rw [if_neg nofun] at hfree
      rw [go_expired]
      refine hs.move hi nofun none rfl (by simp) (by simp) (fun j _ ↦ rfl) ?_
        (fun j hj ↦ ?_) hs.held hs.slot hs.found
      · simp only [record, if_neg hfree]
        exact herror d' hfits
      · exact hs.places j (hj.imp_right fun h ↦ (List.mem_filter.1 h).1)
  | cancelled => simp [Ending.Fits, Request.cancellation] at hfits

theorem Sound.unlock (hs : Sound c T) {next : Unit → Operation B.Page (Result Session.Reply)}
    (hi : T.clients[i]? = some ⟨call, .ask .unlock next⟩)
    {t : Tenure} (hrecord : (T.record i).present = some t)
    (hended : Session.Ended call t (next ()))
    (hnext : call.Follows c ⟨T.past i ++ [t], none⟩ (next ())) :
    Sound c (T.go i call k ending .unlock next) := by
  obtain ⟨hholder, hpresent⟩ := present_of_some hrecord
  rw [go_unlock hpresent]
  refine hs.move hi nofun (some t) rfl rfl ?_ (fun j hj ↦ ?_) ?_ (fun j hj ↦ ?_)
    (fun _ ↦ rfl) ?_ nofun
  · rintro _ ⟨⟩
    exact ⟨hs.found t hpresent, hended⟩
  · have hne : T.shared.holder ≠ some j := fun h ↦ hj (Option.some.inj (h.symm.trans hholder))
    simp [record, past, if_neg hne, Ne.symm hj]
  · have hpast : past { T with turns := T.turns ++ [(i, t)] } i = T.past i ++ [t] := by
      simp [past]
    simp only [record, ite_self]
    exact hpast ▸ hnext
  · refine hs.places j (.inr ?_)
    cases hqueue : T.shared.queue with
    | nil => simp [Shared.unlock_nil hqueue, hqueue] at hj
    | cons first rest =>
        rw [Shared.unlock_cons hqueue] at hj
        rcases hj with hj | hj
        · exact Option.some.inj hj ▸ List.mem_cons_self
        · exact List.mem_cons_of_mem _ hj
  · change T.shared.unlock.world.slot.isSome = leaves (T.turns ++ [(i, t)])
    rw [Shared.world_unlock, hs.left hrecord, leaves_concat]

/-- A request that tells nothing new of the page. -/
theorem Sound.still (hs : Sound c T) {r : Request B.Page}
    {next : r.Answer → Operation B.Page (Result Session.Reply)}
    (hi : T.clients[i]? = some ⟨call, .ask r next⟩) (k : Caller) (ending : Ending)
    (hlock : ∀ d, r ≠ .lock d) (hunlock : r ≠ .unlock) (hprimitive : ∀ p d, r ≠ .primitive p d)
    (hslot : (T.shared.world.answer k ending r).2.1.slot = T.shared.world.slot)
    (hfollows : call.Follows c (T.record i) (next (T.shared.world.answer k ending r).1)) :
    Sound c (T.go i call k ending r next) := by
  refine hs.work hi k ending hlock hunlock rfl rfl (fun _ ↦ by rw [hslot]) ?_
  have hsame : (T.record i).present.map
      (·.after T.shared.world.slot.isSome r (T.shared.world.answer k ending r).1) =
        (T.record i).present := by
    cases hpresent : (T.record i).present with
    | none => rfl
    | some t => rw [hs.left hpresent, Option.map_some, t.after_left hprimitive]
  rw [hslot, hsame]
  exact hfollows

theorem Sound.goes (hs : Sound c T) {r : Request B.Page}
    {next : r.Answer → Operation B.Page (Result Session.Reply)}
    (hi : T.clients[i]? = some ⟨call, .ask r next⟩) (k : Caller) {ending : Ending}
    (hmay : T.MayEnd i ending r) : Sound c (T.go i call k ending r next) := by
  -- one case for each rule of the lock that lets the client make its request
  have hfollows := hs.follows i call _ hi
  unfold Session.Call.Follows at hfollows
  generalize hrecord : T.record i = before at hfollows
  have hpast : T.past i = before.past := hrecord ▸ rfl
  have hpresent : (T.record i).present = before.present := hrecord ▸ rfl
  cases hfollows with
  | lock hok herror => exact hs.lock hi hmay hpresent (hpast ▸ hok) (hpast ▸ herror)
  | unlock hended hnext => exact hs.unlock hi hpresent hended (hpast ▸ hnext)
  | @hasPage _ _ next hnext =>
      refine hs.still hi k ending nofun nofun nofun rfl ?_
      change Operation.Leads _ _ _ _ (next T.shared.world.slot.isSome)
      rw [hrecord, hs.left hpresent]
      exact hnext
  | @primitive _ t p d _ hleft hnext =>
      have hslot : (T.shared.world.answer k ending (.primitive p d)).2.1.slot.isSome = true :=
        World.slot_answer_primitive ((hs.left hpresent).trans hleft) k ending p d
      refine hs.work hi k ending nofun nofun rfl rfl (fun h ↦ ?_) ?_
      · simp [hpresent] at h
      · rw [hslot, hrecord, hpast]
        simp only [Option.map_some, t.after_primitive hleft]
        exact hnext _
  | mount hleft hnext =>
      refine hs.work hi k ending nofun nofun rfl rfl (fun h ↦ ?_) ?_
      · simp [hpresent] at h
      · rw [hrecord, hpast]
        exact hnext
  | unmount hnext =>
      refine hs.work hi k ending nofun nofun rfl rfl (fun h ↦ ?_) ?_
      · simp [hpresent] at h
      · rw [World.slot_answer_unmount, hrecord, hpast]
        exact hnext
  | pause hnext =>
      refine hs.still hi k ending nofun nofun nofun rfl ?_
      rw [hrecord]
      exact hnext ending hmay.1
  | aside hr hnext =>
      refine hs.still hi k ending ?_ ?_ ?_ (World.slot_answer_aside hr _ k ending) ?_
      · rintro d rfl
        simp [Request.isAside] at hr
      · rintro rfl
        simp [Request.isAside] at hr
      · rintro p d rfl
        simp [Request.isAside] at hr
      · rw [hrecord]
        exact hnext _

theorem Sound.step (hs : Sound c T) (h : Step c T T') : Sound c T' := by
  cases h with
  | comes millis call => exact hs.comes millis call
  | later _ => exact hs.later _
  | asks hi _ _ _ => exact hs.asks (List.getElem?_eq_some_iff.1 hi).1
  | goes k ending hi hmay => exact hs.goes hi k hmay

theorem Reachable.sound {w : World B} (h : Reachable c w T) (hslot : w.slot = none) :
    Sound c T := by
  induction h with
  | refl => exact sound_start hslot
  | step _ hstep ih => exact ih.step hstep

end Traffic

end BrowserPilot
