import BrowserPilot.Page.Recording
import BrowserPilot.Proofs.Session.Gathering
import BrowserPilot.Proofs.Session.Undisturbed

namespace BrowserPilot

/-!
# The life of a session

A session is active from when a page has been attached to it until it is stopped,
whoever calls it and in whatever order the calls get the lock. What each call finds is
told by the tenures before it, and what it returns by what it found.
-/

namespace Traffic

variable {B : Backend} {c : Config} {T : Traffic B} {i : Nat} {t : Tenure}

/-- The client at place `i` has given the session a page, in its last tenure `t`. -/
def Opens (T : Traffic B) (i : Nat) (t : Tenure) : Prop :=
  (∃ call reply, T.clients[i]? = some ⟨call, .done (.ok reply)⟩ ∧ call.isOpening = true) ∧
    (T.past i).getLast? = some t

/-- The client at place `i` has come to stop the session. -/
def IsStop (T : Traffic B) (i : Nat) : Prop :=
  ∃ q, T.clients[i]? = some ⟨.stop, q⟩

/-- Somebody gave the session a page in one of these tenures, and nobody had the lock after that to
stop it. -/
def Active (T : Traffic B) (turns : List (Nat × Tenure)) : Prop :=
  ∃ pre i t post, turns = pre ++ (i, t) :: post ∧ T.Opens i t ∧ ∀ turn ∈ post, ¬ T.IsStop turn.1

theorem not_active_nil : ¬ T.Active [] := by
  rintro ⟨pre, i, t, post, h, -, -⟩
  simp at h

theorem active_concat {turns : List (Nat × Tenure)} :
    T.Active (turns ++ [(i, t)]) ↔ T.Opens i t ∨ T.Active turns ∧ ¬ T.IsStop i := by
  constructor
  · rintro ⟨pre, j, s, post, hsplit, hopens, hpost⟩
    rcases split_concat hsplit with ⟨hturn, -, -⟩ | ⟨post', rfl, rfl⟩
    · obtain ⟨rfl, rfl⟩ := Prod.mk.inj hturn
      exact .inl hopens
    · refine .inr ⟨⟨pre, j, s, post', rfl, hopens, fun turn hturn ↦ hpost turn ?_⟩, ?_⟩
      · exact List.mem_append_left _ hturn
      · exact hpost (i, t) (List.mem_append_right _ List.mem_cons_self)
  · rintro (hopens | ⟨⟨pre, j, s, post, rfl, hopens, hpost⟩, hstop⟩)
    · exact ⟨turns, i, t, [], rfl, hopens, nofun⟩
    · refine ⟨pre, j, s, post ++ [(i, t)], by simp, hopens, fun turn hturn ↦ ?_⟩
      rcases List.mem_append.1 hturn with hturn | hturn
      · exact hpost turn hturn
      · rw [List.mem_singleton.1 hturn]
        exact hstop

end Traffic

namespace Session

variable {π : Type} {c : Config} {call : Call π} {past : List Tenure} {t : Tenure}

theorem Attaches.left_of_ok {u : Unit} (h : Attaches c t (.ok u)) : t.left = true := by
  cases h
  rfl

theorem Attaches.left_of_error {e : Failure} (h : Attaches c t (.error e)) : t.left = t.found := by
  cases h <;> rfl

/-- What a call that has returned made of the session in one of its tenures. -/
theorem Returned.left {r : Result Reply} (h : Returned c call past r) (ht : t ∈ past) :
    call.isStop = true ∧ t.left = false ∨ call.isStop = false ∧ t.left = t.found ∨
      call.isOpening = true ∧ t.left = true ∧ past.getLast? = some t ∧ ∃ reply, r = .ok reply := by
  cases h with
  | attachInvalid _ | startInvalid _ | late => simp at ht
  | @attach _ _ r' _ hattaches =>
      obtain rfl := List.mem_singleton.1 ht
      cases r' with
      | ok _ => exact .inr (.inr ⟨rfl, hattaches.left_of_ok, rfl, _, rfl⟩)
      | error _ => exact .inr (.inl ⟨rfl, hattaches.left_of_error⟩)
  | startRefused _ | unlaunched _ =>
      obtain rfl := List.mem_singleton.1 ht
      exact .inr (.inl ⟨rfl, rfl⟩)
  | @start _ r' _ hattaches =>
      rcases List.mem_cons.1 ht with rfl | ht
      · exact .inr (.inl ⟨rfl, rfl⟩)
      · obtain rfl := List.mem_singleton.1 ht
        cases r' with
        | ok _ => exact .inr (.inr ⟨rfl, hattaches.left_of_ok, rfl, _, rfl⟩)
        | error _ => exact .inr (.inl ⟨rfl, hattaches.left_of_error⟩)
  | stop hstops =>
      obtain rfl := List.mem_singleton.1 ht
      refine .inl ⟨rfl, ?_⟩
      cases hstops <;> rfl
  | isActive =>
      obtain rfl := List.mem_singleton.1 ht
      exact .inr (.inl ⟨rfl, rfl⟩)
  | noPage huse =>
      obtain rfl := List.mem_singleton.1 ht
      exact .inr (.inl ⟨Call.isStop_of_isUse huse, rfl⟩)
  | used huse hfound hleft =>
      obtain rfl := List.mem_singleton.1 ht
      exact .inr (.inl ⟨Call.isStop_of_isUse huse, hleft.trans hfound.symm⟩)

theorem Returned.left_of_opening {reply : Reply} (h : Returned c call past (.ok reply))
    (hcall : call.isOpening = true) (ht : past.getLast? = some t) : t.left = true := by
  generalize hr : (.ok reply : Result Reply) = r at h
  cases h with
  | @attach _ _ r' _ hattaches | @start _ r' _ hattaches =>
      obtain rfl := Option.some.inj ht
      cases r' with
      | ok _ => exact hattaches.left_of_ok
      | error _ => simp [Except.map] at hr
  | noPage huse | used huse _ _ => simp [Call.isOpening_of_isUse huse] at hcall
  | stop _ | isActive | late => simp [Call.isOpening] at hcall
  | attachInvalid _ | startInvalid _ | startRefused _ | unlaunched _ => simp at hr

end Session

namespace Traffic

variable {B : Backend} {c : Config} {T : Traffic B} {i : Nat} {t : Tenure}
  {call : Session.Call B.Page}

theorem isStop_iff {q : Operation B.Page (Result Session.Reply)}
    (hi : T.clients[i]? = some ⟨call, q⟩) : T.IsStop i ↔ call.isStop = true := by
  constructor
  · rintro ⟨q', hi'⟩
    obtain ⟨rfl, -⟩ := Client.mk.inj (Option.some.inj (hi.symm.trans hi'))
    rfl
  · intro hcall
    cases call with
    | stop => exact ⟨q, hi⟩
    | _ => simp [Session.Call.isStop] at hcall

theorem Sound.returned (hs : Sound c T) {r : Result Session.Reply}
    (hi : T.clients[i]? = some ⟨call, .done r⟩) : Session.Returned c call (T.past i) r :=
  (hs.follows i call _ hi).returned.2

theorem Opens.left (h : T.Opens i t) (hs : Sound c T) : t.left = true := by
  obtain ⟨⟨call, reply, hi, hcall⟩, hlast⟩ := h
  exact (hs.returned hi).left_of_opening hcall hlast

theorem mem_past (ht : (i, t) ∈ T.turns) : t ∈ T.past i :=
  List.mem_map.2 ⟨(i, t), List.mem_filter.2 ⟨ht, beq_self_eq_true i⟩, rfl⟩

/-- What a tenure makes of the session: a stop takes the page away, whoever attaches a page and
succeeds gives it one, and everybody else leaves things as they are. -/
theorem Sound.left_of_turn (hs : Sound c T) (ht : (i, t) ∈ T.turns) :
    T.IsStop i ∧ t.left = false ∨ ¬ T.IsStop i ∧ (t.left = t.found ∨ T.Opens i t) := by
  obtain ⟨call, q, hi, hended⟩ := hs.ended i t ht
  rw [isStop_iff hi]
  rcases hended with ⟨r, rfl⟩ | ⟨hstop, hleft, -⟩
  · rcases (hs.returned hi).left (mem_past ht) with hstop | ⟨hstop, hleft⟩ | ⟨hcall, -, hlast, hr⟩
    · exact .inl hstop
    · exact .inr ⟨by simp [hstop], .inl hleft⟩
    · obtain ⟨reply, rfl⟩ := hr
      refine .inr ⟨?_, .inr ⟨⟨call, reply, hi, hcall⟩, hlast⟩⟩
      simp [Session.Call.isStop_of_isOpening hcall]
  · exact .inr ⟨by simp [hstop], .inl hleft⟩

theorem not_isStop_of_opens (h : T.Opens i t) : ¬ T.IsStop i := by
  obtain ⟨⟨call, reply, hi, hcall⟩, -⟩ := h
  simp [isStop_iff hi, Session.Call.isStop_of_isOpening hcall]

/-- Some tenures leave a page exactly when the session is active after them. -/
theorem Sound.leaves_iff (hs : Sound c T) {pre post : List (Nat × Tenure)}
    (hsplit : T.turns = pre ++ post) : leaves pre = true ↔ T.Active pre := by
  -- by induction on the tenures from the last one on: what it leaves is what it found, or its own
  induction hlength : pre.length generalizing pre post with
  | zero =>
      obtain rfl := List.eq_nil_of_length_eq_zero hlength
      simp [leaves, not_active_nil]
  | succ n ih =>
      obtain rfl | ⟨pre, ⟨i, t⟩, rfl⟩ := List.eq_nil_or_concat pre
      · simp at hlength
      · rw [List.concat_eq_append] at hsplit hlength ⊢
        have hsplit' : T.turns = pre ++ (i, t) :: post := by simpa using hsplit
        have hbefore := ih hsplit' (by simpa using hlength)
        have hfound := hs.chain pre i t post hsplit'
        have hmem : (i, t) ∈ T.turns := by simp [hsplit']
        rw [leaves_concat, active_concat]
        rcases hs.left_of_turn hmem with ⟨hstop, hleft⟩ | ⟨hstop, hleft | hopens⟩
        · have hnot : ¬ T.Opens i t := fun h ↦ not_isStop_of_opens h hstop
          simp [hleft, hnot, hstop]
        · rw [← hbefore, ← hfound, ← hleft]
          simp only [hstop, not_false_eq_true, and_true]
          exact ⟨.inr, fun h ↦ h.elim (fun h ↦ h.left hs) id⟩
        · simp [hopens.left hs, hopens]

/-- Whoever calls a primitive has the lock and a page. -/
theorem Sound.guarded (hs : Sound c T) {p : Primitive} {d : Option Deadline}
    (hi : T.Awaits i (.primitive p d)) :
    T.shared.holder = some i ∧ T.shared.world.slot.isSome = true := by
  obtain ⟨call, next, hget⟩ := hi
  obtain ⟨t, ht, hleft⟩ := (hs.follows i call _ hget).of_primitive
  exact ⟨(present_of_some ht).1, (hs.left ht).trans hleft⟩

/-- Whoever gives the session a page has the lock, and there is none. -/
theorem Sound.single (hs : Sound c T) {page : B.Page} (hi : T.Awaits i (.mount page)) :
    T.shared.holder = some i ∧ T.shared.world.slot = none := by
  obtain ⟨call, next, hget⟩ := hi
  obtain ⟨t, ht, hleft⟩ := (hs.follows i call _ hget).of_mount
  have hnone : T.shared.world.slot.isSome = false := (hs.left ht).trans hleft
  exact ⟨(present_of_some ht).1, by simpa using hnone⟩

/-- How a session fares in a traffic that began without a page. -/
structure Lifecycle (c : Config) (T : Traffic B) : Prop where
  /-- When nobody is at work on it, there is a page exactly if the session is active. -/
  active : T.present = none → (T.shared.world.slot.isSome = true ↔ T.Active T.turns)
  /-- Whether there is a page is up to who had the lock last. -/
  left : ∀ pre i t, T.turns = pre ++ [(i, t)] → T.present = none →
    T.shared.world.slot.isSome = t.left
  /-- Whoever got the lock found a page exactly if the session was active by then. -/
  found : ∀ pre i t post, T.turns = pre ++ (i, t) :: post → (t.found = true ↔ T.Active pre)
  /-- Whoever has the lock found a page exactly if the session is active. -/
  foundNow : ∀ t, T.present = some t → (t.found = true ↔ T.Active T.turns)
  /-- Whoever has returned has returned what it had to, after what it found. -/
  returned : ∀ (i : Nat) (call : Session.Call B.Page) (r : Result Session.Reply),
    T.clients[i]? = some ⟨call, .done r⟩ → Session.Returned c call (T.past i) r
  /-- Nothing but a dispatch crashes. -/
  crashed : ∀ (i : Nat) (call : Session.Call B.Page) (reason : String),
    T.clients[i]? = some ⟨call, .crash reason⟩ → call.isDispatch = true
  /-- Nobody calls a primitive unless it has the lock and there is a page. -/
  guarded : ∀ i p d, T.Awaits i (.primitive p d) →
    T.shared.holder = some i ∧ T.shared.world.slot.isSome = true
  /-- Nobody gives the session a page unless it has the lock and there is none. -/
  single : ∀ i page, T.Awaits i (.mount page) →
    T.shared.holder = some i ∧ T.shared.world.slot = none
  /-- As long as somebody has not ended, somebody goes on. -/
  goesOn : ∀ i r, T.Awaits i r → ∃ j r', T.Awaits j r' ∧ T.MayEnd j .completed r'
  /-- All who have come can end, and nobody else need come for that. -/
  ends : ∃ T' : Traffic B, Runs c T T' ∧
    T'.clients.map Client.call = T.clients.map Client.call ∧ ∀ i r, ¬ T'.Awaits i r
  /-- Whatever happened, a session without a page can be given one. -/
  reopens : T.shared.holder = none → T.shared.world.slot = none → c.validate = .ok () →
    ∀ page : B.Page, Session.Preparable c T.shared.world.env page →
      ∃ T' : Traffic B, Runs c T T' ∧
        T'.clients = T.clients ++ [⟨.attach page, .done (.ok .nothing)⟩] ∧
          T'.shared.world.slot.isSome = true

theorem Reachable.lifecycle {w : World B} (hT : Reachable c w T) (hslot : w.slot = none) :
    Lifecycle c T := by
  have hs : Sound c T := hT.sound hslot
  have ho : Orderly T := hT.orderly hslot
  have hall : leaves T.turns = true ↔ T.Active T.turns := hs.leaves_iff (List.append_nil _).symm
  exact {
    active := fun hpresent ↦ by
      rw [hs.slot, hpresent]
      exact hall
    left := fun pre i t hsplit hpresent ↦ by
      rw [hs.slot, hpresent, hsplit]
      exact leaves_concat pre (i, t)
    found := fun pre i t post hsplit ↦ by
      rw [hs.chain pre i t post hsplit]
      exact hs.leaves_iff hsplit
    foundNow := fun t ht ↦ by
      rw [hs.found t ht]
      exact hall
    returned := fun _ _ _ hi ↦ hs.returned hi
    crashed := fun i call _ hi ↦ (hs.follows i call _ hi).crashed.2
    guarded := fun _ _ _ hi ↦ hs.guarded hi
    single := fun _ _ hi ↦ hs.single hi
    goesOn := fun _ _ hi ↦ exists_mayEnd hs ho hi
    ends := hT.exists_ended hslot
    reopens := fun hfree hempty hvalid _ hpage ↦ ho.exists_attached hfree hempty hvalid hpage }

end Traffic

/-- Whoever calls on a session that begins without a page, and in whatever order the calls go on,
it lives by its calls; and what guests come to side by side is among what they can come to. -/
theorem session_lifecycle (c : Config) {w : World B} (hslot : w.slot = none) :
    (∀ T : Traffic B, Traffic.Reachable c w T → Traffic.Lifecycle c T) ∧
      ∀ guests : List (Guest B), ∃ T : Traffic B, Traffic.Reachable c w T ∧
        T.clients.map Client.call = guests.map Guest.call ∧ T.Mirrors (Guest.pool c w guests) :=
  ⟨fun _ hT ↦ hT.lifecycle hslot, Guest.pool_mirrored hslot⟩

/-- A world of recording pages without any, and a page to attach. -/
def emptyWorld : World recording := { env := () }

def blankPage : RecordingPage := { behaviour := {} }

theorem blankPage_lifecycle : ∃ T : Traffic recording, Traffic.Reachable {} emptyWorld T ∧
    T.clients = [⟨.attach blankPage, .done (.ok .nothing)⟩] ∧
      T.shared.world.slot.isSome = true ∧ Traffic.Lifecycle {} T := by
  have hvalid : ({} : Config).validate = .ok () := by rfl
  have hpage : Session.Preparable {} emptyWorld.env blankPage := ⟨by rfl, by rfl⟩
  have hstart : Traffic.Orderly { shared := { world := emptyWorld } } := Traffic.orderly_start
  obtain ⟨T, hT, hclients, hslot⟩ := hstart.exists_attached rfl rfl hvalid hpage
  exact ⟨T, hT, hclients, hslot, (session_lifecycle {} rfl).1 T hT⟩

end BrowserPilot
