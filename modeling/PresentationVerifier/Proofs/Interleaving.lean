import Mathlib.Data.List.Nodup
import PresentationVerifier.Proofs.Calls

/-!
# One response for each session

However the steps of calls mix, a session gets one response. The invariant `Inv` says of every call that
the store has let through that the session in the store is in the state in which the call has put it, and
that no other such call is for this session. From that follows what the next step of any call does.

Main results:

* `Inv.next` — the next step of a call keeps the invariant.
* `Inv.of_steps` — so it holds in every state of the system.
* `next_moves` — a step moves the status of one session at most, and only forward.
* `one_response` — what all that means for the calls, the sessions and the numbers.
-/

namespace PresentationVerifier.Verifier

/-! ## The invariant -/

/-- Where a call is, its session is too: what the call has read of it is still there, with the status
that belongs to the phase, and what was computed was computed from it. -/
def Call.Holds (v : Verifier MemoryStore) (m : MemoryStore) (c : Call) : Prop :=
  match c.phase with
  | .waiting | .refused _ => True
  | .accepted session | .numbered session _ =>
    m.get? c.id = some { session with status := .receivedResponse }
  | .concluded session number record outcome =>
    m.get? c.id = some { session with status := .receivedResponse } ∧
      ∃ now, conclude now (v.context c.id session number) c.response c.processing = (record, outcome)
  | .settled session number record outcome result =>
    m.get? c.id = some { session with status := .complete outcome } ∧ result = .ok () ∧
      ∃ now, conclude now (v.context c.id session number) c.response c.processing = (record, outcome)

/-- The store has not let both calls through to one session. -/
def Apart (c d : Call) : Prop :=
  c.phase.passed = true → d.phase.passed = true → c.id ≠ d.id

theorem Apart.symm {c d : Call} (h : Apart c d) : Apart d c :=
  fun hd hc => (h hc hd).symm

/-- The numbers that calls have taken, in the order of the calls. -/
def numbers (calls : List Call) : List UInt64 :=
  calls.filterMap fun c => c.phase.number?

/-- What holds between the steps of calls. -/
structure Inv (v : Verifier MemoryStore) (s : State MemoryStore) (calls : List Call) : Prop where
  apart : calls.Pairwise Apart
  holds : ∀ c ∈ calls, c.Holds v s.sessions
  taken : ∀ id session, s.sessions.get? id = some session → session.status ≠ .initiated →
    ∃ c ∈ calls, c.id = id ∧ c.phase.passed = true
  counted : s.sequence = UInt64.ofNat (numbers calls).length
  numbered : (numbers calls).Perm ((List.range' 1 (numbers calls).length).map UInt64.ofNat)

variable {v : Verifier MemoryStore}

namespace Call

/-- The session of a call that was let through is in the store, and no longer waits. -/
theorem Holds.session {m : MemoryStore} {c : Call} (h : c.Holds v m) (hPassed : c.phase.passed = true) :
    ∃ session, m.get? c.id = some session ∧ session.status ≠ .initiated := by
  unfold Holds at h
  split at h
  -- a call that waits or was refused was not let through
  · next hPhase => simp [hPhase, Phase.passed] at hPassed
  · next hPhase => simp [hPhase, Phase.passed] at hPassed
  -- in all other phases the call says which session is stored, and with which status
  · exact ⟨_, h, by simp⟩
  · exact ⟨_, h, by simp⟩
  · exact ⟨_, h.1, by simp⟩
  · exact ⟨_, h.1, by simp⟩

/-- A change of other sessions does not matter to a call, and nor does any change to a call that was not
let through. -/
theorem Holds.frame {m m' : MemoryStore} {c : Call} (h : c.Holds v m)
    (hSame : c.phase.passed = true → m'.get? c.id = m.get? c.id) : c.Holds v m' := by
  unfold Holds at h ⊢
  split at h
  -- nothing was said of these two
  · trivial
  · trivial
  · next hPhase => rw [hSame (by rw [hPhase]; rfl)]; exact h
  · next hPhase => rw [hSame (by rw [hPhase]; rfl)]; exact h
  · next hPhase => rw [hSame (by rw [hPhase]; rfl)]; exact h
  · next hPhase => rw [hSame (by rw [hPhase]; rfl)]; exact h

end Call

namespace Inv

variable {s : State MemoryStore}

/-- The order of the calls does not matter to the invariant. -/
theorem perm {calls calls' : List Call} (h : Inv v s calls) (hPerm : calls.Perm calls') :
    Inv v s calls' := by
  -- nothing in the invariant depends on the order of the calls
  have hNumbers : (numbers calls).Perm (numbers calls') := hPerm.filterMap _
  refine ⟨?_, ?_, ?_, ?_, ?_⟩
  · exact (hPerm.pairwise_iff Apart.symm).mp h.apart
  · intro c hc
    exact h.holds c (hPerm.mem_iff.mpr hc)
  · intro id session hGet hStatus
    obtain ⟨c, hc, hId, hPassed⟩ := h.taken id session hGet hStatus
    exact ⟨c, hPerm.mem_iff.mp hc, hId, hPassed⟩
  · rw [← hNumbers.length_eq]
    exact h.counted
  · rw [← hNumbers.length_eq]
    exact hNumbers.symm.trans h.numbered

/-- The next number makes the numbers that were taken one longer. -/
theorem take_number {sequence : UInt64} {taken : List UInt64}
    (hCounted : sequence = UInt64.ofNat taken.length)
    (hNumbered : taken.Perm ((List.range' 1 taken.length).map UInt64.ofNat)) :
    sequence + 1 = UInt64.ofNat (taken.length + 1) ∧
      ((sequence + 1) :: taken).Perm ((List.range' 1 (taken.length + 1)).map UInt64.ofNat) := by
  have hNext : sequence + 1 = UInt64.ofNat (taken.length + 1) := by
    rw [hCounted, UInt64.ofNat_add]
    rfl
  refine ⟨hNext, ?_⟩
  rw [List.range'_1_concat, List.map_append, List.map_singleton, hNext, Nat.add_comm 1]
  exact (hNumbered.cons _).trans (List.perm_append_singleton _ _).symm

/-- One call takes a step. Its session is for it alone once it was let through, so that the step may
change this session, and otherwise changes none. -/
theorem replace {s' : State MemoryStore} {c c' : Call} {rest : List Call} (h : Inv v s (c :: rest))
    (hId : c'.id = c.id) (hKeeps : c.phase.passed = true → c'.phase.passed = true)
    (hAlone : c'.phase.passed = true → ∀ d ∈ rest, d.phase.passed = true → d.id ≠ c.id)
    (hHolds : c'.Holds v s'.sessions)
    (hOther : ∀ id, id ≠ c.id → s'.sessions.get? id = s.sessions.get? id)
    (hIdle : c'.phase.passed = false → s'.sessions = s.sessions)
    (hNumber : (c'.phase.number? = c.phase.number? ∧ s'.sequence = s.sequence) ∨
      (c.phase.number? = none ∧ c'.phase.number? = some (s.sequence + 1) ∧
        s'.sequence = s.sequence + 1)) :
    Inv v s' (c' :: rest) := by
  obtain ⟨hHead, hRest⟩ := List.pairwise_cons.mp h.apart
  -- what a call in the rest has put into the store stays
  have hFrame : ∀ d ∈ rest, d.phase.passed = true →
      s'.sessions.get? d.id = s.sessions.get? d.id := by
    intro d hd hPassed
    by_cases hSame : d.id = c.id
    · cases hPassed' : c'.phase.passed with
      | true => exact absurd hSame (hAlone hPassed' d hd hPassed)
      | false => rw [hIdle hPassed']
    · exact hOther d.id hSame
  have hNumbers : s'.sequence = UInt64.ofNat (numbers (c' :: rest)).length ∧
      (numbers (c' :: rest)).Perm
        ((List.range' 1 (numbers (c' :: rest)).length).map UInt64.ofNat) := by
    obtain ⟨hSame, hSequence⟩ | ⟨hNone, hSome, hSequence⟩ := hNumber
    · -- no number is taken
      have hList : numbers (c' :: rest) = numbers (c :: rest) := by
        simp only [numbers, List.filterMap_cons, hSame]
      rw [hList, hSequence]
      exact ⟨h.counted, h.numbered⟩
    · -- the call takes its number, the first after all that were taken
      have hBefore : numbers (c :: rest) = numbers rest := by
        simp only [numbers, List.filterMap_cons, hNone]
      have hAfter : numbers (c' :: rest) = (s.sequence + 1) :: numbers rest := by
        simp only [numbers, List.filterMap_cons, hSome]
      have hCounted := h.counted
      have hNumbered := h.numbered
      rw [hBefore] at hCounted hNumbered
      rw [hAfter, hSequence]
      exact take_number hCounted hNumbered
  -- what is left: the calls are apart, each holds, and every session that is taken has its call
  refine ⟨?_, ?_, ?_, hNumbers.1, hNumbers.2⟩
  · refine List.pairwise_cons.mpr ⟨fun d hd hPassed' hPassed hSame => ?_, hRest⟩
    exact hAlone hPassed' d hd hPassed (by rw [← hSame, hId])
  · intro d hd
    -- the call that has moved holds by assumption, the others are not touched by it
    rcases List.mem_cons.mp hd with rfl | hd
    · exact hHolds
    · exact (h.holds d (List.mem_cons_of_mem c hd)).frame (hFrame d hd)
  · intro id session hGet hStatus
    by_cases hSame : id = c.id
    · cases hPassed' : c'.phase.passed with
      -- the call itself is the one that has taken the session
      | true => exact ⟨c', List.mem_cons_self, by rw [hId, hSame], hPassed'⟩
      | false =>
        -- the store is as before, and the step has not taken a session back
        rw [hIdle hPassed'] at hGet
        obtain ⟨d, hd, hdId, hPassed⟩ := h.taken id session hGet hStatus
        rcases List.mem_cons.mp hd with rfl | hd
        · rw [hKeeps hPassed] at hPassed'
          cases hPassed'
        · exact ⟨d, List.mem_cons_of_mem c' hd, hdId, hPassed⟩
    -- another session was taken before the step, and by another call
    · rw [hOther id hSame] at hGet
      obtain ⟨d, hd, hdId, hPassed⟩ := h.taken id session hGet hStatus
      rcases List.mem_cons.mp hd with rfl | hd
      · exact absurd hdId.symm hSame
      · exact ⟨d, List.mem_cons_of_mem c' hd, hdId, hPassed⟩

/-- A call that was let through is the only one that was for its session. -/
theorem alone_of_passed {c : Call} {rest : List Call} (h : Inv v s (c :: rest))
    (hPassed : c.phase.passed = true) : ∀ d ∈ rest, d.phase.passed = true → d.id ≠ c.id := by
  intro d hd hd' hSame
  exact (List.pairwise_cons.mp h.apart).1 d hd hPassed hd' hSame.symm

/-- No call was let through to a session that still waits. -/
theorem alone_of_initiated {c : Call} {rest : List Call} {session : Session} (h : Inv v s (c :: rest))
    (hGet : s.sessions.get? c.id = some session) (hStatus : session.status = .initiated) :
    ∀ d ∈ rest, d.phase.passed = true → d.id ≠ c.id := by
  intro d hd hPassed hSame
  -- a call that was let through would have left a session that does not wait
  obtain ⟨session', hGet', hStatus'⟩ := (h.holds d (List.mem_cons_of_mem c hd)).session hPassed
  rw [hSame, hGet] at hGet'
  obtain rfl := Option.some.inj hGet'
  exact hStatus' hStatus

/-- A call that is refused changes nothing that the invariant speaks of. -/
theorem refuse {c : Call} {rest : List Call} (h : Inv v s (c :: rest)) (hPhase : c.phase = .waiting)
    (e : VerifierError) : Inv v s ({ c with phase := .refused e } :: rest) := by
  refine h.replace rfl (fun hPassed => ?_) (fun hPassed => ?_) trivial (fun _ _ => rfl) (fun _ => rfl)
    (Or.inl ⟨?_, rfl⟩)
  · simp [hPhase, Phase.passed] at hPassed
  · cases hPassed
  · rw [hPhase]
    rfl

/-- **Step**: the next step of a call keeps the invariant. -/
theorem next (hStore : v.store = MemoryStore.operations) {c : Call} {rest : List Call}
    (h : Inv v s (c :: rest)) (now : Int64) :
    Inv v (c.next v now s).2 ((c.next v now s).1 :: rest) := by
  have hHolds := h.holds c List.mem_cons_self
  unfold Call.next
  split
  · next hPhase =>
    cases hGet : s.sessions.get? c.id with
    -- the session is unknown: refused, and nothing changes
    | none =>
      rw [accept_of_unknown hStore hGet]
      exact h.refuse hPhase _
    | some session =>
      by_cases hStatus : session.status = .initiated
      · -- the session is this call's from here on
        rw [accept_of_initiated hStore hGet hStatus]
        refine h.replace rfl (fun _ => rfl) (fun _ => h.alone_of_initiated hGet hStatus) ?_ ?_
          (fun hIdle => ?_) (Or.inl ⟨?_, rfl⟩)
        · exact MemoryStore.get?_setStatus_self hGet _
        · exact fun id hId => MemoryStore.get?_setStatus_of_ne _ hId _
        · cases hIdle
        · rw [hPhase]
          rfl
      -- the session has had a response: refused as well
      · rw [accept_of_not_initiated hStore hGet hStatus]
        exact h.refuse hPhase _
  · next session hPhase =>
    -- of the store and the counter only the counter changes
    have hPassed : c.phase.passed = true := by rw [hPhase]; rfl
    simp only [Call.Holds, hPhase] at hHolds
    refine h.replace rfl (fun _ => rfl) (fun _ => h.alone_of_passed hPassed) ?_ (fun _ _ => rfl)
      (fun _ => rfl) (Or.inr ⟨?_, rfl, rfl⟩)
    -- a call that has returned stays as it is
    · exact hHolds
    · rw [hPhase]
      rfl
  -- computing the outcome touches neither the store nor the counter
  · next session number hPhase =>
    have hPassed : c.phase.passed = true := by rw [hPhase]; rfl
    simp only [Call.Holds, hPhase] at hHolds
    refine h.replace rfl (fun _ => rfl) (fun _ => h.alone_of_passed hPassed) ?_ (fun _ _ => rfl)
      (fun _ => rfl) (Or.inl ⟨?_, rfl⟩)
    · exact ⟨hHolds, now, rfl⟩
    · rw [hPhase]
      rfl
  · next session number record outcome hPhase =>
    have hPassed : c.phase.passed = true := by rw [hPhase]; rfl
    simp only [Call.Holds, hPhase] at hHolds
    obtain ⟨hGet, hComputed⟩ := hHolds
    -- the session is still there, so that storing its outcome cannot fail
    rw [settle_of_get? hStore hGet]
    refine h.replace rfl (fun _ => rfl) (fun _ => h.alone_of_passed hPassed) ?_ ?_
      (fun hIdle => ?_) (Or.inl ⟨?_, rfl⟩)
    · exact ⟨MemoryStore.get?_setStatus_self hGet _, rfl, hComputed⟩
    · exact fun id hId => MemoryStore.get?_setStatus_of_ne _ hId _
    · cases hIdle
    · rw [hPhase]
      rfl
  · exact h
  · exact h

/-- Before anything happens there are no calls and no sessions. -/
theorem start : Inv v System.start.state System.start.calls := by
  refine ⟨.nil, ?_, ?_, rfl, .nil⟩
  · intro c hc
    cases hc
  · intro id session hGet
    cases hGet

/-- A new session is no call's, because its identifier is fresh. -/
theorem initiate {calls : List Call} (h : Inv v s calls) {id : SessionId}
    (hFresh : s.sessions.get? id = none) (state nonce : Option String) (callbackId : String) :
    Inv v { s with sessions := s.sessions.insert (.new id state nonce callbackId) } calls := by
  refine ⟨h.apart, ?_, ?_, h.counted, h.numbered⟩
  · intro c hc
    refine (h.holds c hc).frame fun hPassed => ?_
    obtain ⟨session, hGet, -⟩ := (h.holds c hc).session hPassed
    -- a call that was let through has a session, and the new one had none
    have hOld : c.id ≠ id := by
      intro hSame
      rw [hSame, hFresh] at hGet
      cases hGet
    rw [MemoryStore.get?_insert]
    exact if_neg hOld
  · intro k session hGet hStatus
    rw [MemoryStore.get?_insert] at hGet
    -- the new session waits, so only older ones can be taken
    split at hGet
    · obtain rfl := Option.some.inj hGet
      exact absurd rfl hStatus
    · exact h.taken k session hGet hStatus

/-- A call that arrives waits, and has no part in the invariant yet. -/
theorem arrive {calls : List Call} (h : Inv v s calls) {c : Call} (hPhase : c.phase = .waiting) :
    Inv v s (calls ++ [c]) := by
  have hNumbers : numbers (calls ++ [c]) = numbers calls := by
    simp [numbers, hPhase, Phase.number?]
  refine ⟨?_, ?_, ?_, by rw [hNumbers]; exact h.counted, by rw [hNumbers]; exact h.numbered⟩
  · refine List.pairwise_append.mpr ⟨h.apart, List.pairwise_singleton _ _, ?_⟩
    -- a call that waits was not let through, so it is apart from all
    intro d _ c' hc' _ hPassed
    rw [List.mem_singleton.mp hc', hPhase] at hPassed
    cases hPassed
  · intro d hd
    rcases List.mem_append.mp hd with hd | hd
    · exact h.holds d hd
    · rw [List.mem_singleton.mp hd, Call.Holds, hPhase]
      trivial
  · intro id session hGet hStatus
    obtain ⟨d, hd, hId, hPassed⟩ := h.taken id session hGet hStatus
    exact ⟨d, List.mem_append_left _ hd, hId, hPassed⟩

/-- **Step**: whatever happens in the system, the invariant is kept. -/
theorem step (hStore : v.store = MemoryStore.operations) {x y : System} (h : Inv v x.state x.calls)
    (hStep : Step v x y) : Inv v y.state y.calls := by
  cases hStep with
  | initiate id state nonce callbackId hFresh =>
    rw [initiate_inMemory hStore]
    exact h.initiate hFresh state nonce callbackId
  | poll id =>
    rw [poll_inMemory hStore]
    exact h
  | arrive id response processing => exact h.arrive rfl
  | @advance before after c now hCalls =>
    -- the call is brought to the front for its step, and goes back to its place
    rw [hCalls] at h
    exact ((h.perm List.perm_middle).next hStore now).perm List.perm_middle.symm

/-- **Run**: the invariant holds in every state of the system. -/
theorem of_steps (hStore : v.store = MemoryStore.operations) {x : System} (hSteps : Steps v .start x) :
    Inv v x.state x.calls := by
  -- on the steps from the start
  induction hSteps with
  | refl => exact start
  | tail _ hStep ih => exact ih.step hStore hStep

end Inv

/-! ## How sessions move -/

/-- What a step may do to what is stored for an identifier. -/
inductive Moves : Option Session → Option Session → Prop where
  | stays (stored : Option Session) : Moves stored stored
  | initiated {session : Session} (hStatus : session.status = .initiated) : Moves none (some session)
  | received {session : Session} (hStatus : session.status = .initiated) :
      Moves (some session) (some { session with status := .receivedResponse })
  | completed {session : Session} (hStatus : session.status = .receivedResponse) (outcome : Outcome) :
      Moves (some session) (some { session with status := .complete outcome })

/-- A complete session stays as it is. -/
theorem Moves.eq_of_complete {session : Session} {stored : Option Session} {outcome : Outcome}
    (h : Relation.ReflTransGen Moves (some session) stored)
    (hStatus : session.status = .complete outcome) : stored = some session := by
  -- the other moves ask for a status that this session never has again
  induction h with
  | refl => rfl
  | tail _ hMoves ih =>
    rw [ih] at hMoves
    cases hMoves with
    | stays => rfl
    | received hStatus' => simp [hStatus] at hStatus'
    | completed hStatus' => simp [hStatus] at hStatus'

/-- A session keeps all that it was initiated with, and changes in its status only. -/
theorem Moves.kept {session : Session} {stored : Option Session}
    (h : Relation.ReflTransGen Moves (some session) stored) :
    ∃ status, stored = some { session with status := status } := by
  -- on the moves; each of them sets a status
  induction h with
  | refl => exact ⟨session.status, rfl⟩
  | tail _ hMoves ih =>
    obtain ⟨status, rfl⟩ := ih
    cases hMoves with
    | stays => exact ⟨status, rfl⟩
    | received _ => exact ⟨_, rfl⟩
    | completed _ outcome => exact ⟨_, rfl⟩

/-- Setting a status moves the session of that identifier, and no other. -/
theorem moves_setStatus {m : MemoryStore} {id : SessionId} {session : Session} {status : Status}
    (hGet : m.get? id = some session)
    (hMoves : Moves (some session) (some { session with status := status })) (k : SessionId) :
    Moves (m.get? k) ((m.setStatus id status).get? k) := by
  by_cases hSame : k = id
  · rw [hSame, MemoryStore.get?_setStatus_self hGet, hGet]
    exact hMoves
  -- another identifier finds what it found before
  · rw [MemoryStore.get?_setStatus_of_ne m hSame]
    exact .stays _

/-- The next step of a call moves its session, if any, and moves it forward. -/
theorem next_moves (hStore : v.store = MemoryStore.operations) {s : State MemoryStore} {c : Call}
    (h : c.Holds v s.sessions) (now : Int64) (id : SessionId) :
    Moves (s.sessions.get? id) ((c.next v now s).2.sessions.get? id) := by
  unfold Call.next
  split
  -- only the first and the last step of a call touch the store, and this is the first
  · cases hGet : s.sessions.get? c.id with
    | none =>
      rw [accept_of_unknown hStore hGet]
      exact .stays _
    | some session =>
      by_cases hStatus : session.status = .initiated
      · rw [accept_of_initiated hStore hGet hStatus]
        exact moves_setStatus hGet (.received hStatus) id
      · rw [accept_of_not_initiated hStore hGet hStatus]
        exact .stays _
  · exact .stays _
  · exact .stays _
  · next session number record outcome hPhase =>
    simp only [Call.Holds, hPhase] at h
    rw [settle_of_get? hStore h.1]
    exact moves_setStatus h.1 (.completed rfl outcome) id
  · exact .stays _
  · exact .stays _

/-- Whatever happens in the system, the status of a session moves forward or stays. -/
theorem step_moves (hStore : v.store = MemoryStore.operations) {x y : System}
    (h : Inv v x.state x.calls) (hStep : Step v x y) (id : SessionId) :
    Moves (x.state.sessions.get? id) (y.state.sessions.get? id) := by
  cases hStep with
  | initiate k state nonce callbackId hFresh =>
    rw [initiate_inMemory hStore]
    show Moves _ ((x.state.sessions.insert (.new k state nonce callbackId)).get? id)
    rw [MemoryStore.get?_insert]
    show Moves _ (if id = k then some (.new k state nonce callbackId) else x.state.sessions.get? id)
    -- a session appears under a fresh identifier, where there was none
    by_cases hSame : id = k
    · rw [if_pos hSame, hSame, hFresh]
      exact .initiated rfl
    · rw [if_neg hSame]
      exact .stays _
  | poll k =>
    rw [poll_inMemory hStore]
    exact .stays _
  | arrive k response processing => exact .stays _
  | @advance before after c now hCalls =>
    have hMem : c ∈ x.calls := by
      rw [hCalls]
      exact List.mem_append_right _ List.mem_cons_self
    exact next_moves hStore (h.holds c hMem) now id

/-- So it does over any number of steps. -/
theorem steps_moves (hStore : v.store = MemoryStore.operations) {x y : System}
    (h : Inv v x.state x.calls) (hSteps : Steps v x y) (id : SessionId) :
    Relation.ReflTransGen Moves (x.state.sessions.get? id) (y.state.sessions.get? id) := by
  -- the invariant goes along, because only where it holds a step moves sessions forward
  have hBoth : Inv v y.state y.calls ∧
      Relation.ReflTransGen Moves (x.state.sessions.get? id) (y.state.sessions.get? id) := by
    induction hSteps with
    | refl => exact ⟨h, .refl⟩
    | tail _ hStep ih => exact ⟨ih.1.step hStore hStep, ih.2.tail (step_moves hStore ih.1 hStep id)⟩
  exact hBoth.2

/-! ## One response for each session -/

/-- What holds in a state of the system, in terms of its calls, sessions and numbers. -/
structure OneResponse (v : Verifier MemoryStore) (x : System) : Prop where
  /-- The store has let at most one call through to each session. -/
  passes : x.calls.Pairwise Apart
  /-- Any other call to the session was refused, or it is refused when it goes on. -/
  refuses : ∀ before c after, x.calls = before ++ c :: after → c.phase.passed = true →
    ∀ d ∈ before ++ after, d.id = c.id → (∃ e, d.phase = .refused e) ∨
      (d.phase = .waiting ∧ ∀ now, (d.next v now x.state).1.phase =
        .refused (.notAccepted (.alreadyReceived d.id)))
  /-- The outcome of a session is the one that its call has computed, from the state, the nonce and the
  callback identifier of this session (`context_session`). -/
  outcomes : ∀ id session outcome, x.state.sessions.get? id = some session →
    session.status = .complete outcome →
      ∃ c ∈ x.calls, c.id = id ∧ ∃ accepted number record now,
        c.phase = .settled accepted number record outcome (.ok ()) ∧
          conclude now (v.context id session number) c.response c.processing = (record, outcome)
  /-- The numbers that were taken are those from one on, each once. -/
  counts : ((numbers x.calls).map UInt64.toNat).Perm (List.range' 1 (numbers x.calls).length)
  distinct : (numbers x.calls).Nodup
  counter : x.state.sequence.toNat = (numbers x.calls).length

section Reachable

variable {x : System}

/-- Where one call was let through, every other one to its session is refused, by now or when it goes on. -/
theorem refuses_of_inv (hStore : v.store = MemoryStore.operations) (h : Inv v x.state x.calls)
    {before after : List Call} {c : Call} (hCalls : x.calls = before ++ c :: after)
    (hPassed : c.phase.passed = true) {d : Call} (hd : d ∈ before ++ after) (hId : d.id = c.id) :
    (∃ e, d.phase = .refused e) ∨ (d.phase = .waiting ∧ ∀ now, (d.next v now x.state).1.phase =
      .refused (.notAccepted (.alreadyReceived d.id))) := by
  rw [hCalls] at h
  have hFirst := h.perm List.perm_middle
  -- the call that was let through is the only one of its session
  have hNot : d.phase.passed = false := by
    rw [Bool.eq_false_iff]
    intro hd'
    exact hFirst.alone_of_passed hPassed d hd hd' hId
  cases hPhase : d.phase with
  | waiting =>
    refine Or.inr ⟨rfl, fun now => ?_⟩
    obtain ⟨session, hGet, hStatus⟩ := (hFirst.holds c List.mem_cons_self).session hPassed
    rw [← hId] at hGet
    simp only [Call.next, hPhase, accept_of_not_initiated hStore hGet hStatus]
  -- it was refused before
  | refused e => exact Or.inl ⟨e, rfl⟩
  | accepted _ | numbered _ _ | concluded _ _ _ _ | settled _ _ _ _ _ =>
    rw [hPhase] at hNot
    cases hNot

/-- A complete session has the outcome of the call that was let through to it. -/
theorem outcomes_of_inv (h : Inv v x.state x.calls) {id : SessionId} {session : Session}
    {outcome : Outcome} (hGet : x.state.sessions.get? id = some session)
    (hStatus : session.status = .complete outcome) :
    ∃ c ∈ x.calls, c.id = id ∧ ∃ accepted number record now,
      c.phase = .settled accepted number record outcome (.ok ()) ∧
        conclude now (v.context id session number) c.response c.processing = (record, outcome) := by
  -- somebody was let through, and only a call that has settled leaves a session complete
  obtain ⟨c, hc, rfl, hPassed⟩ := h.taken id session hGet (by simp [hStatus])
  have hHolds := h.holds c hc
  cases hPhase : c.phase with
  | waiting | refused _ =>
    -- it was not let through
    rw [hPhase] at hPassed
    cases hPassed
  | accepted _ | numbered _ _ =>
    simp only [Call.Holds, hPhase, hGet, Option.some.injEq] at hHolds
    -- the session is received only, and not complete
    simp [hHolds] at hStatus
  | concluded _ _ _ _ =>
    simp only [Call.Holds, hPhase, hGet, Option.some.injEq] at hHolds
    simp [hHolds.1] at hStatus
  | settled accepted number record outcome' result =>
    simp only [Call.Holds, hPhase, hGet, Option.some.injEq] at hHolds
    obtain ⟨rfl, rfl, now, hComputed⟩ := hHolds
    obtain rfl : outcome' = outcome := by simpa using hStatus
    -- the call was computed from the session as it was let through, which differs in the status only
    refine ⟨c, hc, rfl, accepted, number, record, now, hPhase, ?_⟩
    rw [context_status, hComputed]

/-- As long as the numbers do not wrap around, they are those from one on. -/
theorem counts_of_inv (h : Inv v x.state x.calls) (hFew : (numbers x.calls).length < UInt64.size - 1) :
    ((numbers x.calls).map UInt64.toNat).Perm (List.range' 1 (numbers x.calls).length) ∧
      x.state.sequence.toNat = (numbers x.calls).length := by
  refine ⟨?_, by rw [h.counted]; exact UInt64.toNat_ofNat_of_lt' (by omega)⟩
  have hPerm := h.numbered.map UInt64.toNat
  rw [List.map_map] at hPerm
  -- none of them is so large that it is cut off
  have hSmall : (List.range' 1 (numbers x.calls).length).map (UInt64.toNat ∘ UInt64.ofNat) =
      List.range' 1 (numbers x.calls).length := by
    refine (List.map_congr_left fun n hn => ?_).trans (List.map_id _)
    rw [List.mem_range'_1] at hn
    exact UInt64.toNat_ofNat_of_lt' (by omega)
  rw [hSmall] at hPerm
  exact hPerm

/-- Only calls that were let through have numbers. -/
theorem length_numbers_le (calls : List Call) :
    (numbers calls).length ≤ calls.countP fun c => c.phase.passed := by
  rw [numbers, List.length_filterMap_eq_countP]
  -- a call takes its number after it was let through
  refine List.countP_mono_left fun c _ hNumber => ?_
  cases hPhase : c.phase <;> simp_all [Phase.number?, Phase.passed]

/-- **One response**: whatever has happened in the system, each session has let one call through at most,
all others are refused, and its outcome is what this call has computed. Whatever happens next, its status
goes from initiated over received to complete and stays there. -/
theorem one_response (hStore : v.store = MemoryStore.operations) (hReach : Steps v .start x)
    (hFew : (x.calls.countP fun c => c.phase.passed) < UInt64.size - 1) :
    OneResponse v x ∧ ∀ y, Steps v x y → ∀ id,
      Relation.ReflTransGen Moves (x.state.sessions.get? id) (y.state.sessions.get? id) ∧
      ∀ session, x.state.sessions.get? id = some session →
        (∃ status, y.state.sessions.get? id = some { session with status := status }) ∧
        ∀ outcome, session.status = .complete outcome → y.state.sessions.get? id = some session := by
  have hInv := Inv.of_steps hStore hReach
  obtain ⟨hCounts, hCounter⟩ :=
    counts_of_inv hInv (Nat.lt_of_le_of_lt (length_numbers_le x.calls) hFew)
  -- first what holds now, then how sessions go on from here
  refine ⟨?_, ?_⟩
  · exact
      { passes := hInv.apart
        refuses := fun before c after hCalls hPassed d hd hId =>
          refuses_of_inv hStore hInv hCalls hPassed hd hId
        outcomes := fun id session outcome hGet hStatus => outcomes_of_inv hInv hGet hStatus
        counts := hCounts
        distinct := List.Nodup.of_map UInt64.toNat (hCounts.nodup_iff.mpr (List.nodup_range' 1))
        counter := hCounter }
  · intro y hSteps id
    have hMoves := steps_moves hStore hInv hSteps id
    refine ⟨hMoves, fun session hGet => ?_⟩
    rw [hGet] at hMoves
    exact ⟨Moves.kept hMoves, fun outcome hStatus => Moves.eq_of_complete hMoves hStatus⟩

end Reachable

/-! ## Two responses to one session -/

/-- Of two calls to a session the first is let through and the second refused, before the first has got
any further. -/
theorem one_response_two_calls :
    ∃ x, Steps keylessVerifier .start x ∧ (x.calls.map fun c => c.phase.passed) = [true, false] ∧
      (∃ session outcome, x.state.sessions.get? ⟨7⟩ = some session ∧
        session.status = .complete outcome) ∧
      OneResponse keylessVerifier x := by
  -- two calls arrive; the first is accepted, the second refused, and then the first goes on to its end
  have hInitiated : Steps keylessVerifier .start _ :=
    .single (.initiate ⟨7⟩ (some "state") none "callback" rfl)
  have hFirst := hInitiated.tail (.arrive ⟨7⟩ emptyResponse {})
  have hSecond := hFirst.tail (.arrive ⟨7⟩ emptyResponse {})
  have hAccepted := hSecond.tail
    (@Step.advance keylessVerifier _ [] [⟨⟨7⟩, emptyResponse, {}, .waiting⟩] _ 0 rfl)
  have hRefused := hAccepted.tail
    (@Step.advance keylessVerifier _ [_] [] ⟨⟨7⟩, emptyResponse, {}, .waiting⟩ 0 rfl)
  have hNumbered := hRefused.tail (@Step.advance keylessVerifier _ [] [_] _ 0 rfl)
  have hConcluded := hNumbered.tail (@Step.advance keylessVerifier _ [] [_] _ 0 rfl)
  have hSettled := hConcluded.tail (@Step.advance keylessVerifier _ [] [_] _ 0 rfl)
  exact ⟨_, hSettled, by decide, ⟨_, _, rfl, rfl⟩, (one_response rfl hSettled (by decide)).1⟩

end PresentationVerifier.Verifier
