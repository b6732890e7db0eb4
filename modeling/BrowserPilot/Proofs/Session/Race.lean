import BrowserPilot.Page.Chrome
import BrowserPilot.Proofs.Session.Lifecycle
import BrowserPilot.Proofs.Session.Starting
import Mathlib.Data.List.Nodup

namespace BrowserPilot

/-!
# Starts side by side

Of several starts that nothing goes wrong with, one gives the session its page and all others are
told that it has one already. But whoever looks before that one is done launches a browser
too, and only then is turned away.
-/

namespace Session

variable {π : Type} {c : Config} {past : List Tenure} {launched : List (Result π)}
  {r : Result Reply} {t : Tenure}

theorem Attaches.found_of_ok {u : Unit} (h : Attaches c t (.ok u)) : t.found = false := by
  cases h
  rfl

/-- A start that has succeeded has looked and found no page, has launched a browser, and has
attached the page. -/
theorem Told.of_ok {reply : Reply} (h : Told c past launched (.ok reply)) : reply = .nothing ∧
    ∃ t page, past = [⟨false, [], false⟩, t] ∧ launched = [.ok page] ∧ Attaches c t (.ok ()) := by
  generalize hr : (.ok reply : Result Reply) = r at h
  cases h with
  | refused | failed => cases hr
  | @joined page t joined hattaches =>
      cases joined with
      | error e => cases hr
      | ok _ => exact ⟨Except.ok.inj hr, t, page, rfl, rfl, hattaches⟩

/-- How a start fares that nothing goes wrong with: it has found a page when it looked, or else it
has launched a browser, and has found another page by then or attached its own. -/
def Fared (c : Config) (past : List Tenure) (launched : List (Result π)) (r : Result Reply) :
    Prop :=
  past = [⟨true, [], true⟩] ∧ launched = [] ∧ r = .error alreadyStarted ∨
    ∃ t page, past = [⟨false, [], false⟩, t] ∧ launched = [.ok page] ∧
      (t.found = true ∧ r = .error alreadyStarted ∨ Attaches c t (.ok ()) ∧ r = .ok .nothing)

theorem Told.fared (h : Told c past launched r) (hlaunched : ∀ l ∈ launched, ∃ page, l = .ok page)
    (hcalled : ∀ t ∈ past, ∀ called ∈ t.calls, ∃ a, called.result = .ok a) :
    Fared c past launched r := by
  cases h with
  | refused => exact .inl ⟨rfl, rfl, rfl⟩
  | failed =>
      obtain ⟨page, hpage⟩ := hlaunched _ List.mem_cons_self
      cases hpage
  | @joined page t joined hattaches =>
      refine .inr ⟨t, page, rfl, rfl, ?_⟩
      have hsuccess : ∀ called ∈ t.calls, ∃ a, called.result = .ok a := hcalled t (by simp)
      cases hattaches with
      | refused => exact .inl ⟨rfl, rfl⟩
      | unsized | unopened => simp at hsuccess
      | attached => exact .inr ⟨.attached, rfl⟩

end Session

namespace Traffic

open Session (Told Fared Attaches alreadyStarted)

variable {B : Backend} {c : Config} {w : World B} {T : Traffic B} {i j : Nat} {s t : Tenure}
  {pre post : List (Nat × Tenure)} {ls : List (Nat × Result B.Page)}

theorem mem_turns (h : t ∈ T.past i) : (i, t) ∈ T.turns := by
  obtain ⟨⟨j, t'⟩, hmem, rfl⟩ := List.mem_map.1 h
  obtain ⟨hturn, hj⟩ := List.mem_filter.1 hmem
  obtain rfl : j = i := by simpa using hj
  exact hturn

theorem eq_singleton_of_launchesOf {r : Result B.Page} (hself : ∀ l ∈ ls, l.1 = i)
    (h : launchesOf i ls = [r]) : ls = [(i, r)] := by
  have hall : ls.filter (·.1 == i) = ls :=
    List.filter_eq_self.2 fun l hl ↦ beq_iff_eq.2 (hself l hl)
  rw [launchesOf, hall] at h
  obtain ⟨⟨j, r'⟩, rfl, rfl⟩ := List.map_eq_singleton_iff.1 h
  exact congrArg (fun j ↦ [(j, r')]) (hself _ List.mem_cons_self)

theorem mem_launches {r : Result B.Page} : r ∈ launchesOf i ls ↔ (i, r) ∈ ls := by
  simp [launchesOf]

/-- All clients have come to start the session. -/
def OnlyStarts (T : Traffic B) : Prop := ∀ client ∈ T.clients, client.call = .start

theorem OnlyStarts.not_isStop (h : T.OnlyStarts) (i : Nat) : ¬ T.IsStop i := by
  rintro ⟨q, hi⟩
  cases h _ (List.mem_of_getElem? hi)

/-- A session that nobody stops stays active. -/
theorem Active.append (h : T.Active pre) (hstarts : T.OnlyStarts) (post : List (Nat × Tenure)) :
    T.Active (pre ++ post) := by
  obtain ⟨a, i, t, b, rfl, hopens, -⟩ := h
  exact ⟨a, i, t, b ++ post, by simp, hopens, fun turn _ ↦ hstarts.not_isStop turn.1⟩

theorem active_of_opens (hstarts : T.OnlyStarts) (hopens : T.Opens i t) (hi : (i, t) ∈ pre) :
    T.Active pre := by
  obtain ⟨a, b, rfl⟩ := List.append_of_mem hi
  exact ⟨a, i, t, b, rfl, hopens, fun turn _ ↦ hstarts.not_isStop turn.1⟩

section

variable (hlife : Lifecycle c T) (hstarts : T.OnlyStarts)
include hlife hstarts

/-- Whoever has the lock after somebody has given the session a page finds one. -/
theorem found_after (hsplit : T.turns = pre ++ (i, t) :: post) (hopens : T.Opens i t)
    (hj : (j, s) ∈ post) : s.found = true := by
  obtain ⟨a, b, rfl⟩ := List.append_of_mem hj
  refine (hlife.found (pre ++ (i, t) :: a) j s b (by simp [hsplit])).2 ?_
  exact active_of_opens hstarts hopens (by simp)

/-- Whoever had the lock before somebody who found no page found none. -/
theorem found_before (hsplit : T.turns = pre ++ (i, t) :: post) (ht : t.found = false)
    (hj : (j, s) ∈ pre) : s.found = false := by
  obtain ⟨a, b, rfl⟩ := List.append_of_mem hj
  refine Bool.eq_false_iff.2 fun hfound ↦ ?_
  have hactive : T.Active a :=
    (hlife.found a j s (b ++ (i, t) :: post) (by simp [hsplit])).1 hfound
  have hlate := (hlife.found _ i t post hsplit).2 (hactive.append hstarts _)
  rw [ht] at hlate
  cases hlate

end

theorem exists_opens {reply : Session.Reply}
    (htold : Told c (T.past i) (launchesOf i ls) (.ok reply))
    (hi : T.clients[i]? = some ⟨.start, .done (.ok reply)⟩) :
    reply = .nothing ∧ ∃ t, (i, t) ∈ T.turns ∧ Attaches c t (.ok ()) ∧ T.Opens i t := by
  obtain ⟨hreply, t, page, hpast, -, hattaches⟩ := htold.of_ok
  have hmem : t ∈ T.past i := by simp [hpast]
  exact ⟨hreply, t, mem_turns hmem, hattaches, ⟨.start, reply, hi, rfl⟩, by simp [hpast]⟩

/-! ## Who wins -/

theorem eq_of_opens (hlife : Lifecycle c T) (hstarts : T.OnlyStarts) (hi : (i, t) ∈ T.turns)
    (hj : (j, s) ∈ T.turns) (ht : t.found = false) (hs : s.found = false) (hopens : T.Opens i t)
    (hopens' : T.Opens j s) : i = j := by
  obtain ⟨pre, post, hsplit⟩ := List.append_of_mem hi
  rw [hsplit] at hj
  rcases List.mem_append.1 hj with hj | hj
  · -- the other one was first
    have hfound := (hlife.found pre i t post hsplit).2 (active_of_opens hstarts hopens' hj)
    rw [ht] at hfound
    cases hfound
  · rcases List.mem_cons.1 hj with hj | hj
    · exact (congrArg Prod.fst hj).symm
    · have hfound := found_after hlife hstarts hsplit hopens hj
      rw [hs] at hfound
      cases hfound

/-- Every launch has succeeded, and every call of a page. -/
structure Smooth (T : Traffic B) (ls : List (Nat × Result B.Page)) : Prop where
  launched : ∀ l ∈ ls, ∃ page, l.2 = .ok page
  called : ∀ turn ∈ T.turns, ∀ called ∈ turn.2.calls, ∃ a, called.result = .ok a

theorem Smooth.fared (h : Smooth T ls) {r : Result Session.Reply}
    (htold : Told c (T.past i) (launchesOf i ls) r) : Fared c (T.past i) (launchesOf i ls) r :=
  htold.fared (fun l hl ↦ h.launched (i, l) (mem_launches.1 hl))
    fun t ht ↦ h.called (i, t) (mem_turns ht)

/-- How several starts come out that nothing goes wrong with. The client at place `i` has given the
session its page, after the tenures `before`, and all others have been turned away. Whoever had the
lock by then had looked and had found no page, and each of these has launched a browser. -/
structure WonBy (c : Config) (T : Traffic B) (ls : List (Nat × Result B.Page)) (i : Nat)
    (before : List (Nat × Tenure)) : Prop where
  turn : ∃ t after, T.turns = before ++ (i, t) :: after ∧ Attaches c t (.ok ())
  winner : T.clients[i]? = some ⟨.start, .done (.ok .nothing)⟩
  others : ∀ j client, j ≠ i → T.clients[j]? = some client →
    client = ⟨.start, .done (.error alreadyStarted)⟩
  launched : ∀ j, (∃ page, (j, .ok page) ∈ ls) ↔ ∃ s, (j, s) ∈ before
  /-- If by then nobody else had looked, the session's browser is the only one. -/
  alone : (∀ turn ∈ before, turn.1 = i) → ∃ page, ls = [(i, .ok page)]

namespace History

variable (hT : History c w T ls) (hvalid : c.validate = .ok ()) (hslot : w.slot = none)
include hT hvalid hslot

theorem told {r : Result Session.Reply} (hi : T.clients[i]? = some ⟨.start, .done r⟩) :
    Told c (T.past i) (launchesOf i ls) r :=
  ((hT.traced hvalid hslot).starts i _ hi).told

variable (hstarts : T.OnlyStarts)
include hstarts

theorem launched_once : (ls.map Prod.fst).Nodup := by
  have htraced := hT.traced hvalid hslot
  refine List.nodup_iff_count_le_one.2 fun i ↦ ?_
  have hcount : (ls.map Prod.fst).count i = (launchesOf i ls).length := by
    rw [List.count_eq_countP, List.countP_map, List.countP_eq_length_filter, launchesOf,
      List.length_map]
    rfl
  rw [hcount]
  rcases Nat.lt_or_ge i T.clients.length with hi | hi
  · obtain ⟨⟨call, q⟩, hget⟩ : ∃ client, T.clients[i]? = some client :=
      ⟨_, List.getElem?_eq_getElem hi⟩
    obtain rfl : call = .start := hstarts _ (List.mem_of_getElem? hget)
    exact (htraced.starts i q hget).length_le
  · have hnone : launchesOf i ls = [] := htraced.launchesOf_of_le hi
    simp [hnone]

theorem eq_of_ok {a b : Session.Reply} (hi : T.clients[i]? = some ⟨.start, .done (.ok a)⟩)
    (hj : T.clients[j]? = some ⟨.start, .done (.ok b)⟩) : i = j := by
  have hlife : Lifecycle c T := hT.reachable.lifecycle hslot
  obtain ⟨-, t, ht, hattaches, hopens⟩ := exists_opens (hT.told hvalid hslot hi) hi
  obtain ⟨-, s, hs, hattaches', hopens'⟩ := exists_opens (hT.told hvalid hslot hj) hj
  exact eq_of_opens hlife hstarts ht hs hattaches.found_of_ok hattaches'.found_of_ok hopens hopens'

variable (hended : ∀ client ∈ T.clients, ∃ r, client.rest = .done r) (hsmooth : Smooth T ls)
include hended hsmooth

theorem exists_fared {client : Client B} (hi : T.clients[i]? = some client) :
    ∃ r, client = ⟨.start, .done r⟩ ∧ Fared c (T.past i) (launchesOf i ls) r := by
  obtain ⟨call, rest⟩ := client
  obtain ⟨r, rfl⟩ := hended _ (List.mem_of_getElem? hi)
  obtain rfl : call = .start := hstarts _ (List.mem_of_getElem? hi)
  exact ⟨r, rfl, hsmooth.fared (hT.told hvalid hslot hi)⟩

theorem exists_ok (hsome : T.clients ≠ []) :
    ∃ i : Nat, T.clients[i]? = some ⟨.start, .done (.ok .nothing)⟩ := by
  have hlife : Lifecycle c T := hT.reachable.lifecycle hslot
  refine Classical.byContradiction fun hnone ↦ ?_
  -- nobody gives the session a page, so nobody finds one
  have hopens (i : Nat) (t : Tenure) : ¬ T.Opens i t := by
    rintro ⟨⟨call, reply, hi, -⟩, -⟩
    obtain rfl : call = .start := hstarts _ (List.mem_of_getElem? hi)
    obtain ⟨rfl, -⟩ := exists_opens (hT.told hvalid hslot hi) hi
    exact hnone ⟨i, hi⟩
  have hfound (i : Nat) (t : Tenure) (ht : t ∈ T.past i) : t.found ≠ true := by
    intro hfound
    obtain ⟨pre, post, hsplit⟩ := List.append_of_mem (mem_turns ht)
    obtain ⟨_, j, s, _, -, hopen, -⟩ := (hlife.found pre i t post hsplit).1 hfound
    exact hopens j s hopen
  obtain ⟨client, hmem⟩ := List.exists_mem_of_ne_nil _ hsome
  obtain ⟨i, hi⟩ := List.mem_iff_getElem?.1 hmem
  obtain ⟨r, rfl, ⟨hpast, -⟩ | ⟨t, page, hpast, -, ⟨hlate, -⟩ | ⟨-, rfl⟩⟩⟩ :=
    hT.exists_fared hvalid hslot hstarts hended hsmooth hi
  · exact hfound i _ (hpast ▸ List.mem_cons_self) rfl
  · exact hfound i t (hpast ▸ by simp) hlate
  · exact hnone ⟨i, hi⟩

/-- Who has launched a browser had looked before the page was attached. -/
theorem launched_iff {t : Tenure} (hsplit : T.turns = pre ++ (i, t) :: post)
    (hattaches : Attaches c t (.ok ())) (hopens : T.Opens i t) (j : Nat) :
    (∃ page, (j, .ok page) ∈ ls) ↔ ∃ s, (j, s) ∈ pre := by
  have hlife : Lifecycle c T := hT.reachable.lifecycle hslot
  constructor
  · rintro ⟨page, hpage⟩
    have hlaunch : .ok page ∈ launchesOf j ls := mem_launches.2 hpage
    obtain ⟨client, hj⟩ : ∃ client, T.clients[j]? = some client :=
      ⟨_, List.getElem?_eq_getElem ((hT.traced hvalid hslot).places _ hpage)⟩
    obtain ⟨r, rfl, ⟨-, hnone, -⟩ | ⟨s, -, hpast, -⟩⟩ :=
      hT.exists_fared hvalid hslot hstarts hended hsmooth hj
    · rw [hnone] at hlaunch
      cases hlaunch
    · have hlook : (j, ⟨false, [], false⟩) ∈ T.turns := mem_turns (hpast ▸ List.mem_cons_self)
      rw [hsplit] at hlook
      rcases List.mem_append.1 hlook with hlook | hlook
      · exact ⟨_, hlook⟩
      · rcases List.mem_cons.1 hlook with hlook | hlook
        · obtain ⟨-, rfl⟩ := Prod.mk.inj hlook
          cases hattaches.left_of_ok
        · cases found_after hlife hstarts hsplit hopens hlook
  · rintro ⟨s, hs⟩
    have hturn : (j, s) ∈ T.turns := hsplit ▸ List.mem_append_left _ hs
    have hfound : s.found = false := found_before hlife hstarts hsplit hattaches.found_of_ok hs
    obtain ⟨call, q, hj, -⟩ := (hT.reachable.sound hslot).ended j s hturn
    obtain ⟨r, -, ⟨hpast, -⟩ | ⟨_, page, -, hlaunches, -⟩⟩ :=
      hT.exists_fared hvalid hslot hstarts hended hsmooth hj
    · have hmem : s ∈ T.past j := mem_past hturn
      rw [hpast, List.mem_singleton] at hmem
      rw [hmem] at hfound
      cases hfound
    · exact ⟨page, mem_launches.1 (hlaunches ▸ List.mem_cons_self)⟩

theorem exists_wonBy (hsome : T.clients ≠ []) : ∃ i before, WonBy c T ls i before := by
  obtain ⟨i, hi⟩ := hT.exists_ok hvalid hslot hstarts hended hsmooth hsome
  obtain ⟨-, t, ht, hattaches, hopens⟩ := exists_opens (hT.told hvalid hslot hi) hi
  obtain ⟨before, after, hsplit⟩ := List.append_of_mem ht
  have hlaunched :=
    hT.launched_iff hvalid hslot hstarts hended hsmooth hsplit hattaches hopens
  refine ⟨i, before, ⟨t, after, hsplit, hattaches⟩, hi, fun j client hj hget ↦ ?_, hlaunched,
    fun halone ↦ ?_⟩
  · obtain ⟨r, rfl, ⟨-, -, rfl⟩ | ⟨_, _, -, -, ⟨-, rfl⟩ | ⟨-, rfl⟩⟩⟩ :=
      hT.exists_fared hvalid hslot hstarts hended hsmooth hget
    · rfl
    · rfl
    · exact absurd (hT.eq_of_ok hvalid hslot hstarts hget hi) hj
  · have hself : ∀ l ∈ ls, l.1 = i := by
      rintro ⟨j, r⟩ hl
      obtain ⟨page, rfl⟩ := hsmooth.launched _ hl
      obtain ⟨s, hs⟩ := (hlaunched j).1 ⟨page, hl⟩
      exact halone _ hs
    obtain ⟨-, _, page, -, hpage, -⟩ := (hT.told hvalid hslot hi).of_ok
    exact ⟨page, eq_singleton_of_launchesOf hself hpage⟩

end History

/-- How starts of a session fare: each by what it finds, and several of them among themselves. -/
structure StartsFare (c : Config) (T : Traffic B) (ls : List (Nat × Result B.Page)) : Prop where
  /-- Whoever else is there, a start returns what its tenures and its launch tell. -/
  told : ∀ (i : Nat) (r : Result Session.Reply), T.clients[i]? = some ⟨.start, .done r⟩ →
    Told c (T.past i) (launchesOf i ls) r
  /-- No start launches twice. -/
  once : T.OnlyStarts → (ls.map Prod.fst).Nodup
  /-- One start at most succeeds. -/
  single : T.OnlyStarts → ∀ (i j : Nat) (a b : Session.Reply),
    T.clients[i]? = some ⟨.start, .done (.ok a)⟩ → T.clients[j]? = some ⟨.start, .done (.ok b)⟩ →
      i = j
  /-- If nothing goes wrong, one start succeeds, and as many have launched a browser as had looked
  before that one attached its page. -/
  won : T.OnlyStarts → T.clients ≠ [] → (∀ client ∈ T.clients, ∃ r, client.rest = .done r) →
    T.Smooth ls → ∃ i before, T.WonBy c ls i before

theorem History.startsFare (hT : History c w T ls) (hvalid : c.validate = .ok ())
    (hslot : w.slot = none) : StartsFare c T ls where
  told := fun _ _ hi ↦ hT.told hvalid hslot hi
  once := hT.launched_once hvalid hslot
  single := fun hstarts _ _ _ _ hi hj ↦ hT.eq_of_ok hvalid hslot hstarts hi hj
  won := fun hstarts hsome hended hsmooth ↦
    hT.exists_wonBy hvalid hslot hstarts hended hsmooth hsome

/-! ## Turn by turn -/

/-- Whether the client at place `i` can have what it asks for. -/
def canHave (T : Traffic B) (i : Nat) : Request B.Page → Bool
  | .lock _ => T.shared.holder.all (· == i)
  | _ => true

theorem mayEnd_of_canHave {r : Request B.Page} (h : T.canHave i r = true) :
    T.MayEnd i .completed r := by
  refine ⟨trivial, fun d hr ↦ ?_⟩
  subst hr
  rw [if_pos rfl]
  cases hholder : T.shared.holder with
  | none => exact .inl rfl
  | some j =>
      refine .inr (congrArg some ?_)
      simpa [canHave, hholder] using h

/-- The clients at the given places go on, each with its next request, until one of them
cannot. -/
def play (k : Caller) : List Nat → Traffic B → List (Nat × Result B.Page) →
    Option (Traffic B × List (Nat × Result B.Page))
  | [], T, ls => some (T, ls)
  | i :: places, T, ls =>
    match T.clients[i]? with
    | some ⟨call, .ask r next⟩ =>
      if T.canHave i r then
        play k places (T.go i call k .completed r next) (T.launchesAfter i r ls)
      else none
    | _ => none

theorem History.play {k : Caller} {places : List Nat} {T' : Traffic B}
    {ls' : List (Nat × Result B.Page)} (hT : History c w T ls)
    (h : play k places T ls = some (T', ls')) : History c w T' ls' := by
  induction places generalizing T ls with
  | nil =>
      obtain ⟨rfl, rfl⟩ := Prod.mk.inj (Option.some.inj h)
      exact hT
  | cons i places ih =>
      simp only [Traffic.play] at h
      split at h
      · next call r next hi =>
        split at h
        · next hcan => exact ih (hT.goes k hi (mayEnd_of_canHave hcan)) h
        · cases h
      · cases h

end Traffic

open Session (alreadyStarted)

/-- A world with a Chrome browser that does whatever it is told, and two who start a session. -/
def chromeWorld : World chromeBackend := { env := {} }

def twoStarts : Traffic chromeBackend :=
  { shared := { world := chromeWorld }
    clients := [Traffic.newcomer {} 0 .start, Traffic.newcomer {} 0 .start] }

/-- Both look, one after the other, and both launch a browser, before the first attaches its page
and then the second is turned away. -/
def bothLook : List Nat :=
  [0, 0, 0, 0, 1, 1, 1, 1] ++ [0, 1] ++ [0, 0, 0, 0, 0, 0, 0] ++ [1, 1, 1, 1]

def noCaller : Caller := { sampler := Sampler.ofReplies .cancelled [] }

/-- The two have ended, and nothing has gone wrong. -/
structure Raced (T : Traffic chromeBackend) (ls : List (Nat × Result ChromePage)) : Prop where
  history : Traffic.History {} chromeWorld T ls
  clients : T.clients = [⟨.start, .done (.ok .nothing)⟩, ⟨.start, .done (.error alreadyStarted)⟩]
  smooth : T.Smooth ls

theorem exists_raced : ∃ (T : Traffic chromeBackend) (page other : ChromePage),
    Raced T [(0, .ok page), (1, .ok other)] := by
  have hcome : Traffic.History {} chromeWorld twoStarts [] :=
    (Traffic.History.begin.comes 0 .start).comes 0 .start
  obtain ⟨T, page, other, hplay, hclients, hturns⟩ :
      ∃ (T : Traffic chromeBackend) (page other : ChromePage),
        Traffic.play noCaller bothLook twoStarts [] = some (T, [(0, .ok page), (1, .ok other)]) ∧
          T.clients = [⟨.start, .done (.ok .nothing)⟩, ⟨.start, .done (.error alreadyStarted)⟩] ∧
            T.turns = [(0, ⟨false, [], false⟩), (1, ⟨false, [], false⟩),
              (0, ⟨false, [⟨.setViewport 1024 768, .ok ()⟩,
                ⟨.goto ({} : Config).startUrl, .ok ()⟩], true⟩), (1, ⟨true, [], true⟩)] :=
    ⟨_, _, _, rfl, rfl, rfl⟩
  refine ⟨T, page, other, hcome.play hplay, hclients, ?_, ?_⟩
  · exact List.forall_mem_cons.2 ⟨⟨page, rfl⟩, List.forall_mem_singleton.2 ⟨other, rfl⟩⟩
  · rw [hturns]
    simp only [List.forall_mem_cons, List.not_mem_nil, false_imp_iff, implies_true, and_true,
      true_and]
    exact ⟨⟨(), rfl⟩, ⟨(), rfl⟩⟩

end BrowserPilot
